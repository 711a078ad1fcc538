/-
Device2/Hm310t.lean

Class `Driver_serial_hm310t`: the power supply's commands and queries, as Modbus
functions on its registers.

Numbers are exact, so a value read from a text is a rational and a scaled register
is a pair of precision and register (`Answer.scaled`); what `ostream` would print of
it is left out.  The conversions to the machine's types are here (`toU16`, `toU32`,
`shl`); where C++ leaves their result open, a value that does not fit and a shift by
the width of the operand or more, the result is a parameter (`Conversions`).
-/
import Device2.Modbus
import Device2.Options

namespace Device2

open Modbus

/-! ### Numbers -/

/-- The results C++ leaves open. -/
structure Conversions where
  u16 : ℚ → UInt16
  u32 : ℚ → UInt32
  shl : UInt32 → Nat → UInt32

/-- The number without its fraction, as a conversion to an integer type takes it. -/
def integerPart (q : ℚ) : ℤ := q.num.tdiv q.den

/-- An answer: a text, or the text of `pow(0.1,e)*n`. -/
inductive Answer
  | text (s : Str)
  | scaled (e n : Nat)
  deriving DecidableEq

/-- The left operand's bits are moved by 16 and the low register, for `<<` binds
weaker than `+`. -/
def pwrShift (l : UInt16) : Nat := 16 + l.toNat

/-! ### Queries -/

/-- The queries with a fixed word. -/
inductive Query
  | out | statRaw | stat | specRaw | tailRaw | dptRaw | dpt | voltMeas | currMeas | pwrMeas
  | volt | curr | ovp | ocp | opp | addr
  deriving DecidableEq

def Query.word : Query → Str
  | out => "out?"
  | statRaw => "stat:raw?"
  | stat => "stat?"
  | specRaw => "spec:raw?"
  | tailRaw => "tail:raw?"
  | dptRaw => "dpt:raw?"
  | dpt => "dpt?"
  | voltMeas => "volt:meas?"
  | currMeas => "curr:meas?"
  | pwrMeas => "pwr:meas?"
  | volt => "volt?"
  | curr => "curr?"
  | ovp => "ovp?"
  | ocp => "ocp?"
  | opp => "opp?"
  | addr => "addr?"

/-- The queries in the order `ask` tests them. -/
def queries : List Query :=
  [.out, .statRaw, .stat, .specRaw, .tailRaw, .dptRaw, .dpt, .voltMeas, .currMeas, .pwrMeas,
    .volt, .curr, .ovp, .ocp, .opp, .addr]

/-! ### The driver -/

/-- Class `Driver_serial_hm310t`. -/
structure Hm310t (σ : Type) extends ModbusLine σ where
  idn : Str
  readers : Readers
  cpu : Conversions

namespace Hm310t

variable {σ : Type} (d : Hm310t σ)

/-- Conversion of a floating-point number to `uint16_t`. -/
def toU16 (q : ℚ) : UInt16 :=
  if 0 ≤ integerPart q ∧ integerPart q < 2 ^ 16 then UInt16.ofNat (integerPart q).toNat
  else d.cpu.u16 q

/-- Conversion of a floating-point number to `uint32_t`. -/
def toU32 (q : ℚ) : UInt32 :=
  if 0 ≤ integerPart q ∧ integerPart q < 2 ^ 32 then UInt32.ofNat (integerPart q).toNat
  else d.cpu.u32 q

variable {d} in
theorem toU16_of_fits {q : ℚ} (h0 : 0 ≤ integerPart q) (h : integerPart q < 2 ^ 16) :
    d.toU16 q = UInt16.ofNat (integerPart q).toNat := if_pos ⟨h0, h⟩

variable {d} in
theorem toU32_of_fits {q : ℚ} (h0 : 0 ≤ integerPart q) (h : integerPart q < 2 ^ 32) :
    d.toU32 q = UInt32.ofNat (integerPart q).toNat := if_pos ⟨h0, h⟩

/-- `x << n` for a `uint32_t`. -/
def shl (x : UInt32) (n : Nat) : UInt32 := if n < 32 then x <<< UInt32.ofNat n else d.cpu.shl x n

def getPrec : Method (Hm310tState σ) Precisions := fun s => (.ok s.prec, s)

def setPrec (p : Precisions) : Method (Hm310tState σ) Unit := fun s => (.ok (), { s with prec := p })

/-- `read_dpt`: get decimal precisions from the device. -/
def readDpt : Method (Hm310tState σ) Unit := do
  let dpt ← d.modbusFunc3 0x05
  setPrec ⟨((dpt >>> 8) &&& 0xF).toNat, ((dpt >>> 4) &&& 0xF).toNat, (dpt &&& 0xF).toNat⟩

def readVolt (addr : UInt16) : Method (Hm310tState σ) Answer := do
  let p ← getPrec
  let v ← d.modbusFunc3 addr
  return .scaled p.ve v.toNat

def readCurr (addr : UInt16) : Method (Hm310tState σ) Answer := do
  let p ← getPrec
  let v ← d.modbusFunc3 addr
  return .scaled p.ie v.toNat

def readPwr (addrH addrL : UInt16) : Method (Hm310tState σ) Answer := do
  let p ← getPrec
  let h ← d.modbusFunc3 addrH
  let l ← d.modbusFunc3 addrL
  return .scaled p.pe (d.shl h.toUInt32 (pwrShift l)).toNat

def writeVolt (addr : UInt16) (arg : Str) : Method (Hm310tState σ) Unit := do
  let p ← getPrec
  let v ← Method.ofExcept (d.readers.strToDouble arg)
  d.modbusFunc6 addr (d.toU16 (10 ^ p.ve * v))

def writeCurr (addr : UInt16) (arg : Str) : Method (Hm310tState σ) Unit := do
  let p ← getPrec
  let v ← Method.ofExcept (d.readers.strToDouble arg)
  d.modbusFunc6 addr (d.toU16 (10 ^ p.ie * v))

def writePwr (addrH addrL : UInt16) (arg : Str) : Method (Hm310tState σ) Unit := do
  let p ← getPrec
  let v ← Method.ofExcept (d.readers.strToDouble arg)
  let pwr := d.toU32 (10 ^ p.pe * v)
  d.modbusFunc6 addrH (pwr >>> 16).toUInt16
  d.modbusFunc6 addrL (pwr &&& 0xFFFF).toUInt16

/-- `type_to_str(modbus_func3(addr))`. -/
def readRaw (addr : UInt16) : Method (Hm310tState σ) Answer := do
  let v ← d.modbusFunc3 addr
  return .text (typeToStr v.toNat)

/-- Protection status in human-readable form. -/
def statText (v : UInt16) : Str :=
  (if v &&& 4 ≠ 0 then " OVP".toList else []) ++ (if v &&& 8 ≠ 0 then " OCP".toList else [])
    ++ (if v &&& 16 ≠ 0 then " OPP".toList else []) ++ (if v &&& 32 ≠ 0 then " OTP".toList else [])
    ++ (if v &&& 64 ≠ 0 then " SCP".toList else [])

/-- The answer to a query. -/
def query : Query → Method (Hm310tState σ) Answer
  | .out => d.readRaw 0x01
  | .statRaw => d.readRaw 0x02
  | .stat => do
    let v ← d.modbusFunc3 0x02
    return .text (statText v)
  | .specRaw => d.readRaw 0x03
  | .tailRaw => d.readRaw 0x04
  | .dptRaw => d.readRaw 0x05
  | .dpt => do
    d.readDpt
    let p ← getPrec
    return .text (typeToStr p.ve ++ ' ' :: (typeToStr p.ie ++ ' ' :: typeToStr p.pe))
  | .voltMeas => d.readVolt 0x10
  | .currMeas => d.readCurr 0x11
  | .pwrMeas => d.readPwr 0x12 0x13
  | .volt => d.readVolt 0x30
  | .curr => d.readCurr 0x31
  | .ovp => d.readVolt 0x20
  | .ocp => d.readCurr 0x21
  | .opp => d.readPwr 0x22 0x23
  | .addr => d.readRaw 0x9999

/-- A command with exactly one argument. -/
def withArgument (msg : Str) (args : List Str) (f : Str → Method (Hm310tState σ) Unit) :
    Method (Hm310tState σ) Unit :=
  match args with
  | [arg] => f arg
  | _ => .throw (d.errpref ++ "argument expected: ".toList ++ msg)

/-- `Driver_serial_hm310t::write`. -/
def write (msg : Str) : Method (Hm310tState σ) Unit := do
  let v ← Method.ofExcept (d.readers.words msg)
  match v with
  | [] => return ()
  | cmd :: args =>
    if cmd = "out".toList then
      d.withArgument msg args fun arg => do
        let b ← Method.ofExcept (d.readers.strToBool arg)
        d.modbusFunc6 0x01 (if b then 1 else 0)
    else if cmd = "volt".toList then d.withArgument msg args (d.writeVolt 0x30)
    else if cmd = "curr".toList then d.withArgument msg args (d.writeCurr 0x31)
    else if cmd = "ovp".toList then d.withArgument msg args (d.writeVolt 0x20)
    else if cmd = "ocp".toList then d.withArgument msg args (d.writeCurr 0x21)
    else if cmd = "opp".toList then d.withArgument msg args (d.writePwr 0x22 0x23)
    else Method.throw (d.errpref ++ "unsupported command: ".toList ++ msg)

/-- `Driver_serial_hm310t::ask`. -/
def ask (msg : Str) : Method (Hm310tState σ) Answer :=
  if sameNoCase msg "*idn?" then pure (.text d.idn)
  -- raw modbus commands
  else if 2 < msg.length ∧ msg.take 2 = ":r".toList then do
    let reg ← Method.ofExcept (d.readers.strToUnsigned (msg.drop 2))
    d.readRaw reg.toUInt16
  else
    match queries.find? fun q => sameNoCase msg q.word with
    | some q => d.query q
    -- operations with arguments, without answer
    | none => do
      d.write msg
      return .text []

end Hm310t

end Device2
