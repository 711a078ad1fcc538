/-
Device2/Modbus.lean

The Modbus functions of `Driver_serial_hm310t` (`server/drv_serial_hm310t.cpp`):
`modbus_crc`, `modbus_func3` and `modbus_func6`, on top of `Driver_serial::write` and
`Driver_serial::read` with the options of `add_opts` (nothing added to a message,
no acknowledgement, nothing trimmed, so one reading is one reply).

The device behind the line is a parameter (`SerialDev`); the frames handed to the
system are kept in `sent`.  A method is a function of the state, which an exception
leaves as it is at that point (`Method`).

The frames sent are those of `Device2.Lib.ModbusRtu` (`func3Request_eq`,
`func6Request_eq`).  The frames received are not all looked at to the end:
`func3Response_ok_iff` says which replies are taken for a value.
-/
import Device2.Basic
import Device2.Lib.ModbusRtu

namespace Device2

open Modbus

/-! ### Methods -/

/-- A call that changes a state: value or exception, and the state afterwards. -/
def Method (S α : Type) : Type := S → Except Err α × S

namespace Method

variable {S α β : Type}

instance : Monad (Method S) where
  pure a := fun s => (.ok a, s)
  bind x f := fun s =>
    match x s with
    | (.ok a, t) => f a t
    | (.error e, t) => (.error e, t)

/-- `throw Err() << text`. -/
def throw (text : Str) : Method S α := fun s => (.error { str := text }, s)

/-- A value, or an exception. -/
def ofExcept (r : Except Err α) : Method S α := fun s => (r, s)

theorem bind_of_ok {x : Method S α} {f : α → Method S β} {s t : S} {a : α} (h : x s = (.ok a, t)) :
    (x >>= f) s = f a t := by
  show (match x s with
    | (.ok a, t) => f a t
    | (.error e, t) => (.error e, t)) = _
  rw [h]

theorem bind_of_error {x : Method S α} {f : α → Method S β} {s t : S} {e : Err}
    (h : x s = (.error e, t)) : (x >>= f) s = (.error e, t) := by
  show (match x s with
    | (.ok a, t) => f a t
    | (.error e, t) => (.error e, t)) = _
  rw [h]

end Method

/-! ### The serial line -/

/-- The result of reading from the line: some bytes (none at all after a timeout),
no data on a line that does not block, or an error. -/
inductive ByteRecv
  | data (s : Bytes)
  | again
  | fail (text : Str)

/-- The device behind the line: what writing to it and reading from it give, as a
function of a state they may change. -/
structure SerialDev (σ : Type) where
  write : Bytes → σ → Option Str × σ
  read : σ → ByteRecv × σ

/-- Decimal precisions of voltage, current and power: `Ve`, `Ie`, `Pe`. -/
structure Precisions where
  ve : Nat
  ie : Nat
  pe : Nat
  deriving DecidableEq

/-- What the methods of the driver read and change: its precisions, the device, and
the frames handed over to the system so far. -/
structure Hm310tState (σ : Type) where
  prec : Precisions
  dev : σ
  sent : List Bytes

/-- The members that never change, and the line. -/
structure ModbusLine (σ : Type) where
  errpref : Str
  /-- Slave address, 1 for the USB device. -/
  devAddr : UInt8
  port : SerialDev σ

/-- `char` as a number. -/
def charToStr (b : UInt8) : Str :=
  if b.toNat < 128 then typeToStr b.toNat else '-' :: typeToStr (256 - b.toNat)

/-- One bit of `modbus_crc`, with the two entries of its table. -/
def modbusCrcBit (crc : UInt16) : UInt16 :=
  (crc >>> 1) ^^^ (if crc &&& 1 = 0 then 0x0000 else 0xA001)

/-- `modbus_crc`. -/
def modbusCrc (buf : Bytes) : UInt16 :=
  buf.foldl (fun crc b => modbusCrcBit^[8] (crc ^^^ b.toUInt16)) 0xFFFF

namespace ModbusLine

variable {σ : Type} (d : ModbusLine σ)

/-- `Driver_serial::write`. -/
def serialWrite (msg : Bytes) : Method (Hm310tState σ) Unit := fun s =>
  let r := d.port.write msg s.dev
  let s := { s with dev := r.2, sent := s.sent ++ [msg] }
  match r.1 with
  | some text => (.error { str := d.errpref ++ "write error: ".toList ++ text }, s)
  | none => (.ok (), s)

/-- `Driver_serial::read`. -/
def serialRead : Method (Hm310tState σ) Bytes := fun s =>
  let r := d.port.read s.dev
  let s := { s with dev := r.2 }
  match r.1 with
  | .again => (.ok [], s)
  | .fail text => (.error { str := d.errpref ++ "read error: ".toList ++ text }, s)
  | .data [] => (.error { str := d.errpref ++ "read timeout".toList }, s)
  | .data res => (.ok res, s)

/-! ### Function 3 and function 6 -/

/-- The beginning of the errors of a reply with the function code `fc`. -/
def modbusError (fc : UInt8) : Str :=
  d.errpref ++ "modbus error: function code: ".toList ++ typeToStr fc.toNat ++ ": ".toList

/-- The text of an exception code; `wrong` is what code 2 stands for. -/
def exceptionText (wrong : Str) (code : UInt8) : Str :=
  if code = 1 then " (unsupported function code)"
  else if code = 2 then wrong
  else if code = 3 then " (wrong count)"
  else if code = 4 then " (error during request processing)"
  else " (unknown exception code)"

/-- The checks both functions begin with: too short, an exception frame, another
function. -/
def checkFunction (fcode : UInt8) (wrong : Str) (res : Bytes) : Except Err Unit :=
  if res.length < 2 then .error { str := d.errpref ++ "short response".toList }
  else
    let fc := res.getD 1 0
    if fc = 0x80 + fcode then
      if res.length ≠ 5 then .error { str := d.modbusError fc
        ++ "can't parse error response, wrong length: ".toList ++ typeToStr res.length }
      else .error { str := d.modbusError fc ++ "exception code: ".toList
        ++ charToStr (res.getD 2 0) ++ exceptionText wrong (res.getD 2 0) }
    else if fc ≠ fcode then .error { str := d.modbusError fc ++ "unknown function code".toList }
    else .ok ()

/-- What `modbus_func3` makes of a reply. -/
def func3Response (res : Bytes) : Except Err UInt16 :=
  match d.checkFunction 3 " (wrong address)" res with
  | .error e => .error e
  | .ok () =>
    if res.length ≠ 7 then
      .error { str := d.modbusError (res.getD 1 0) ++ "unexpected response length".toList }
    else if res.getD 2 0 ≠ 2 then
      .error { str := d.modbusError (res.getD 1 0) ++ "unexpected response count".toList }
    else .ok (word (res.getD 3 0) (res.getD 4 0))

/-- What `modbus_func6` makes of a reply to `msg`. -/
def func6Response (msg res : Bytes) : Except Err Unit :=
  match d.checkFunction 6 " (wrong value)" res with
  | .error e => .error e
  | .ok () =>
    if res ≠ msg then
      .error { str := d.modbusError (res.getD 1 0) ++ "unexpected response".toList }
    else .ok ()

/-- The bytes of a request, checksum included. -/
def request (msg : Bytes) : Bytes :=
  let crc := modbusCrc msg
  msg ++ [(crc &&& 0xFF).toUInt8, (crc >>> 8).toUInt8]

def func3Request (addr : UInt16) : Bytes :=
  request [d.devAddr, 3, (addr >>> 8).toUInt8, (addr &&& 0xFF).toUInt8, 0, 1]

def func6Request (addr val : UInt16) : Bytes :=
  request [d.devAddr, 6, (addr >>> 8).toUInt8, (addr &&& 0xFF).toUInt8, (val >>> 8).toUInt8,
    (val &&& 0xFF).toUInt8]

/-- `modbus_func3`: read a word from the given address. -/
def modbusFunc3 (addr : UInt16) : Method (Hm310tState σ) UInt16 := do
  d.serialWrite (d.func3Request addr)
  let res ← d.serialRead
  .ofExcept (d.func3Response res)

/-- `modbus_func6`: write a value to the given address. -/
def modbusFunc6 (addr val : UInt16) : Method (Hm310tState σ) Unit := do
  d.serialWrite (d.func6Request addr val)
  let res ← d.serialRead
  .ofExcept (d.func6Response (d.func6Request addr val) res)

variable {d}

theorem func3Request_eq (addr : UInt16) :
    d.func3Request addr = readRequest modbusCrc d.devAddr addr := rfl

theorem func6Request_eq (addr val : UInt16) :
    d.func6Request addr val = writeRequest modbusCrc d.devAddr addr val := rfl

/-! ### Which replies are accepted -/

/-- **What function 3 takes for a value**: seven bytes with its code and the count 2.
The slave address and the checksum are not looked at. -/
theorem func3Response_ok_iff {res : Bytes} {w : UInt16} :
    d.func3Response res = .ok w ↔
      ∃ a h l c c', res = [a, 3, 2, h, l, c, c'] ∧ w = word h l := by
  constructor
  · intro hok
    rw [func3Response] at hok
    split at hok
    · cases hok
    · rename_i hcheck
      split at hok
      · cases hok
      · rename_i hlen
        split at hok
        · cases hok
        · rename_i hcount
          -- seven bytes, and then the function code
          match res, not_not.mp hlen with
          | [a, fc, n, h, l, c, c'], _ =>
            have hfc : fc = 3 := by
              by_contra hne
              simp only [checkFunction, List.length_cons, List.length_nil, List.getD_cons_succ,
                List.getD_cons_zero] at hcheck
              split_ifs at hcheck
            have hn : n = 2 := not_not.mp hcount
            subst hfc hn
            cases hok
            exact ⟨a, h, l, c, c', rfl, rfl⟩
  · rintro ⟨a, h, l, c, c', rfl, rfl⟩
    rfl

/-- A device that gives the same reply to everything. -/
def replying (res : Bytes) : SerialDev Unit where
  write := fun _ _ => (none, ())
  read := fun _ => (.data res, ())

/-- The line to such a device. -/
def replyLine (errpref : Str) (devAddr : UInt8) (res : Bytes) : ModbusLine Unit where
  errpref
  devAddr
  port := replying res

/-- The reply is all that `modbus_func3` depends on. -/
theorem modbusFunc3_replyLine (errpref : Str) (devAddr : UInt8) (res : Bytes) (addr : UInt16)
    (s : Hm310tState Unit) (w : UInt16) :
    ((replyLine errpref devAddr res).modbusFunc3 addr s).1 = .ok w ↔
      (replyLine errpref devAddr res).func3Response res = .ok w := by
  cases res with
  | nil =>
    -- nothing comes: a timeout here, and too short for a reply there
    exact iff_of_false (by intro h; cases h) (by intro h; cases h)
  | cons b res => rfl

/-- **When `modbus_func3` accepts exactly the valid replies.**  It returns a value
exactly for the frame of that value from the slave that was asked, unless the reply
looks like such a frame and comes from another slave or has a wrong checksum. -/
theorem modbusFunc3_accepts_iff (errpref : Str) (devAddr : UInt8) (res : Bytes) (addr : UInt16)
    (s : Hm310tState Unit) :
    (∀ w, ((replyLine errpref devAddr res).modbusFunc3 addr s).1 = .ok w ↔
      res = readReply modbusCrc devAddr w) ↔
    ∀ a h l c c', res = [a, 3, 2, h, l, c, c'] →
      a = devAddr ∧ c = lo (modbusCrc [a, 3, 2, h, l]) ∧ c' = hi (modbusCrc [a, 3, 2, h, l]) := by
  simp only [modbusFunc3_replyLine, func3Response_ok_iff]
  constructor
  · intro hexact a h l c c' hres
    -- the value the driver returns is that of a valid frame
    have hframe := (hexact (word h l)).mp ⟨a, h, l, c, c', hres, rfl⟩
    rw [hres] at hframe
    simp only [readReply, frame, hi_word, lo_word, List.cons_append, List.nil_append,
      List.cons.injEq, and_true, true_and] at hframe
    obtain ⟨rfl, hc, hc'⟩ := hframe
    exact ⟨rfl, hc, hc'⟩
  · intro hgood w
    constructor
    · rintro ⟨a, h, l, c, c', hres, rfl⟩
      obtain ⟨rfl, rfl, rfl⟩ := hgood a h l c c' hres
      rw [hres, readReply, hi_word, lo_word]
      rfl
    · intro hres
      exact ⟨devAddr, hi w, lo w, _, _, hres, (word_hi_lo w).symm⟩

/-- A reply whose checksum is wrong is taken for a measurement. -/
theorem modbusFunc3_accepts_damaged :
    ((replyLine "HM310T: " 1 [1, 3, 2, 0x0B, 0xB8, 0, 0]).modbusFunc3 0x30
      ⟨⟨2, 3, 3⟩, (), []⟩).1 = .ok 3000 ∧
    [1, 3, 2, 0x0B, 0xB8, 0, 0] ≠ readReply modbusCrc 1 3000 := by
  decide +kernel

end ModbusLine

end Device2
