/-
Device2/Hm310tRegisters.lean

The settable quantities of the power supply: what a command stores in the registers
of a Modbus slave, and what the query of the same quantity makes of them.

The slave is that of `Device2.Lib.ModbusRtu`, put behind the line (`slaveDev`).  On it
a function 3 is a look at a register and a function 6 is an update
(`modbusFunc3_onSlave`, `modbusFunc6_onSlave`), so a command is a change of the
register map (`Quantity.store`) and a query a number computed from it
(`Quantity.value`).

Four of the quantities are one register and come back as they went in.  The fifth,
`opp`, is split in two by the command as it should be, but the query shifts the upper
half by 16 and the lower one together (`pwrShift`), which is right only if the lower
one is 0 (`set_query_iff`).
-/
import Device2.Hm310t
import Device2.ReadWords

namespace Device2

open Modbus

/-! ### The slave behind the line -/

/-- The registers, and the bytes on their way back. -/
structure SlaveState where
  regs : UInt16 → UInt16
  out : Bytes

/-- A slave with 16-bit registers as the device. -/
def slaveDev (slave : UInt8) : SerialDev SlaveState where
  write := fun bs s =>
    let r := Modbus.respond modbusCrc slave s.regs bs
    (none, ⟨r.2, s.out ++ r.1.getD []⟩)
  read := fun s => (.data s.out, { s with out := [] })

/-- The driver at rest, with these registers on the other side. -/
def onSlave (p : Precisions) (regs : UInt16 → UInt16) (sent : List Bytes) :
    Hm310tState SlaveState := ⟨p, ⟨regs, []⟩, sent⟩

namespace ModbusLine

variable {d : ModbusLine SlaveState} {p : Precisions} {regs : UInt16 → UInt16} {sent : List Bytes}

variable (p sent) in
/-- A request and its reply. -/
theorem exchange_onSlave (h : d.port = slaveDev d.devAddr) {req reply : Bytes}
    {regs' : UInt16 → UInt16} (hresp : Modbus.respond modbusCrc d.devAddr regs req = (some reply, regs'))
    (hne : reply ≠ []) :
    d.serialWrite req (onSlave p regs sent) = (.ok (), ⟨p, ⟨regs', reply⟩, sent ++ [req]⟩) ∧
    d.serialRead ⟨p, ⟨regs', reply⟩, sent ++ [req]⟩ =
      (.ok reply, onSlave p regs' (sent ++ [req])) := by
  constructor
  · simp [serialWrite, h, slaveDev, onSlave, hresp]
  · obtain ⟨b, reply, rfl⟩ := List.exists_cons_of_ne_nil hne
    simp [serialRead, h, slaveDev, onSlave]

/-- Function 3 looks at a register. -/
theorem modbusFunc3_onSlave (h : d.port = slaveDev d.devAddr) (addr : UInt16) :
    d.modbusFunc3 addr (onSlave p regs sent) =
      (.ok (regs addr), onSlave p regs (sent ++ [d.func3Request addr])) := by
  obtain ⟨hwrite, hread⟩ := exchange_onSlave p sent h
    (respond_readRequest d.devAddr regs addr) (by simp [readReply, frame])
  have hresp : d.func3Response (readReply modbusCrc d.devAddr (regs addr)) = .ok (regs addr) :=
    func3Response_ok_iff.mpr ⟨_, _, _, _, _, rfl, (word_hi_lo _).symm⟩
  rw [modbusFunc3, func3Request_eq, Method.bind_of_ok hwrite, Method.bind_of_ok hread,
    Method.ofExcept, hresp]

/-- Function 6 changes a register. -/
theorem modbusFunc6_onSlave (h : d.port = slaveDev d.devAddr) (addr val : UInt16) :
    d.modbusFunc6 addr val (onSlave p regs sent) =
      (.ok (), onSlave p (Function.update regs addr val) (sent ++ [d.func6Request addr val])) := by
  obtain ⟨hwrite, hread⟩ := exchange_onSlave p sent h
    (respond_writeRequest d.devAddr regs addr val) (by simp [writeRequest, frame])
  have hecho : d.func6Response (writeRequest modbusCrc d.devAddr addr val)
      (writeRequest modbusCrc d.devAddr addr val) = .ok () := by
    have hcheck : d.checkFunction 6 " (wrong value)"
        (writeRequest modbusCrc d.devAddr addr val) = .ok () := rfl
    rw [func6Response, hcheck]
    exact if_neg (not_not.mpr rfl)
  rw [modbusFunc6, func6Request_eq, Method.bind_of_ok hwrite, Method.bind_of_ok hread,
    Method.ofExcept, hecho]

end ModbusLine

/-! ### The quantities -/

/-- What can be set. -/
inductive Quantity
  | volt | curr | ovp | ocp | opp
  deriving DecidableEq

namespace Quantity

/-- The word of the command. -/
def name : Quantity → Str
  | volt => "volt"
  | curr => "curr"
  | ovp => "ovp"
  | ocp => "ocp"
  | opp => "opp"

/-- The query of the same quantity. -/
def query : Quantity → Query
  | volt => .volt
  | curr => .curr
  | ovp => .ovp
  | ocp => .ocp
  | opp => .opp

/-- The precision in use. -/
def prec (p : Precisions) : Quantity → Nat
  | volt | ovp => p.ve
  | curr | ocp => p.ie
  | opp => p.pe

/-- Bits of its register, or of the pair of registers. -/
def width : Quantity → Nat
  | opp => 32
  | _ => 16

/-- The helper that its command calls. -/
def set {σ : Type} (d : Hm310t σ) (arg : Str) : Quantity → Method (Hm310tState σ) Unit
  | volt => d.writeVolt 0x30 arg
  | curr => d.writeCurr 0x31 arg
  | ovp => d.writeVolt 0x20 arg
  | ocp => d.writeCurr 0x21 arg
  | opp => d.writePwr 0x22 0x23 arg

/-- The registers after `k` has been stored. -/
def store (regs : UInt16 → UInt16) (k : Nat) : Quantity → UInt16 → UInt16
  | volt => Function.update regs 0x30 (UInt16.ofNat k)
  | curr => Function.update regs 0x31 (UInt16.ofNat k)
  | ovp => Function.update regs 0x20 (UInt16.ofNat k)
  | ocp => Function.update regs 0x21 (UInt16.ofNat k)
  | opp => Function.update (Function.update regs 0x22 (UInt16.ofNat (k / 2 ^ 16))) 0x23
      (UInt16.ofNat (k % 2 ^ 16))

/-- The integer that the query scales. -/
def value {σ : Type} (d : Hm310t σ) (regs : UInt16 → UInt16) : Quantity → Nat
  | volt => (regs 0x30).toNat
  | curr => (regs 0x31).toNat
  | ovp => (regs 0x20).toNat
  | ocp => (regs 0x21).toNat
  | opp => (d.shl (regs 0x22).toUInt32 (pwrShift (regs 0x23))).toNat

/-- The shift counts the query uses. -/
def shiftCounts (regs : UInt16 → UInt16) : Quantity → List Nat
  | opp => [pwrShift (regs 0x23)]
  | _ => []

end Quantity

/-! ### Dispatch -/

/-- A message with a space in it is none of the words without one. -/
theorem sameNoCase_of_space {a v w : Str} (ha : nul ∉ a) (hw : ' ' ∉ (cStr w).map toLower) :
    sameNoCase (a ++ ' ' :: v) w = false := by
  have hmem : ' ' ∈ (cStr (a ++ ' ' :: v)).map toLower := by
    refine List.mem_map.mpr ⟨' ', ?_, by decide⟩
    rw [cStr, List.takeWhile_append_of_pos fun c hc => by simpa using ne_of_mem_of_not_mem hc ha]
    simp
  rw [sameNoCase, decide_eq_false_iff_not]
  intro heq
  exact hw (heq ▸ hmem)

namespace Hm310t

section Dispatch
variable {σ : Type} (d : Hm310t σ)

/-- Every query finds its branch. -/
theorem ask_query (q : Query) : d.ask q.word = d.query q := by
  have hidn : sameNoCase q.word "*idn?" = false := by cases q <;> decide
  have hraw : ¬ (2 < q.word.length ∧ q.word.take 2 = ":r".toList) := by cases q <;> decide
  have hfind : (queries.find? fun r => sameNoCase q.word r.word) = some q := by cases q <;> decide
  rw [ask, hidn, if_neg Bool.false_ne_true, if_neg hraw, hfind]

/-- A command with an argument goes to `write`. -/
theorem ask_command (X : Quantity) (v : Str) :
    d.ask (X.name ++ ' ' :: v) = (do d.write (X.name ++ ' ' :: v); return .text []) := by
  have hnul : nul ∉ X.name := by cases X <;> decide
  have hidn : sameNoCase (X.name ++ ' ' :: v) "*idn?" = false :=
    sameNoCase_of_space hnul (by decide)
  have hraw : ¬ (2 < (X.name ++ ' ' :: v).length ∧ (X.name ++ ' ' :: v).take 2 = ":r".toList) := by
    cases X <;> simp [Quantity.name]
  have hfind : (queries.find? fun r => sameNoCase (X.name ++ ' ' :: v) r.word) = none := by
    rw [List.find?_eq_none]
    intro q _
    rw [sameNoCase_of_space hnul (by cases q <;> decide)]
    exact Bool.false_ne_true
  rw [ask, hidn, if_neg Bool.false_ne_true, if_neg hraw, hfind]

/-- A command with a plain argument is read as the name and the argument. -/
theorem words_command (R : Readers) (junk : Char) (X : Quantity) {v : Str} (hv : PlainWord v)
    (hlow : v.map toLower = v) :
    (R.withReadWords junk).words (X.name ++ ' ' :: v) = .ok [X.name, v] := by
  have hname : PlainWord X.name := by cases X <;> decide
  have hspaced : X.name ++ ' ' :: v = spaced X.name [v] := by simp [spaced]
  have hsmall : X.name.map toLower = X.name := by cases X <;> decide
  rw [hspaced]
  refine (messageWords_plain junk hname (List.forall_mem_singleton.mpr hv)).trans ?_
  rw [List.map_cons, List.map_cons, List.map_nil, hsmall, hlow]

/-- `write` calls the helper of the quantity. -/
theorem write_set {msg v : Str} {X : Quantity} (h : d.readers.words msg = .ok [X.name, v]) :
    d.write msg = X.set d v := by
  funext s
  have hwords : Method.ofExcept (d.readers.words msg) s = (.ok [X.name, v], s) := by
    rw [h]; rfl
  rw [write, Method.bind_of_ok hwords]
  cases X <;> rfl

end Dispatch

/-! ### On the slave -/

variable {d : Hm310t SlaveState} {p : Precisions} {regs : UInt16 → UInt16} {sent : List Bytes}

/-- The query of a quantity gives its value. -/
theorem ask_query_onSlave (h : d.port = slaveDev d.devAddr) (Y : Quantity) :
    (d.ask Y.query.word (onSlave p regs sent)).1 = .ok (.scaled (Y.prec p) (Y.value d regs)) := by
  rw [ask_query]
  have hprec : getPrec (onSlave p regs sent) = (.ok p, onSlave p regs sent) := rfl
  cases Y with
  | volt | curr | ovp | ocp =>
    simp only [Quantity.query, query, readVolt, readCurr, Method.bind_of_ok hprec,
      Method.bind_of_ok (ModbusLine.modbusFunc3_onSlave h _)]
    rfl
  | opp =>
    simp only [Quantity.query, query, readPwr, Method.bind_of_ok hprec,
      Method.bind_of_ok (ModbusLine.modbusFunc3_onSlave h _)]
    rfl

theorem integerPart_natCast (k : Nat) : integerPart (k : ℚ) = k := by
  simp [integerPart]

theorem toU16_natCast {σ : Type} (d : Hm310t σ) {k : Nat} (hk : k < 2 ^ 16) :
    d.toU16 (k : ℚ) = UInt16.ofNat k := by
  have hpart := integerPart_natCast k
  rw [toU16_of_fits (by omega) (by omega), hpart, Int.toNat_natCast]

theorem toU32_natCast {σ : Type} (d : Hm310t σ) {k : Nat} (hk : k < 2 ^ 32) :
    d.toU32 (k : ℚ) = UInt32.ofNat k := by
  have hpart := integerPart_natCast k
  rw [toU32_of_fits (by omega) (by omega), hpart, Int.toNat_natCast]

/-- The upper register of a 32-bit value. -/
theorem upper_ofNat {k : Nat} (hk : k < 2 ^ 32) :
    (UInt32.ofNat k >>> 16).toUInt16 = UInt16.ofNat (k / 2 ^ 16) := by
  apply UInt16.toNat_inj.mp
  simp only [UInt32.toNat_toUInt16, UInt32.toNat_shiftRight, UInt32.toNat_ofNat',
    UInt16.toNat_ofNat']
  simp [Nat.shiftRight_eq_div_pow]
  omega

/-- The lower register of a 32-bit value. -/
theorem lower_ofNat (k : Nat) :
    (UInt32.ofNat k &&& 0xFFFF).toUInt16 = UInt16.ofNat (k % 2 ^ 16) := by
  have hand : k % 4294967296 &&& 65535 = k % 4294967296 % 65536 :=
    Nat.and_two_pow_sub_one_eq_mod _ 16
  apply UInt16.toNat_inj.mp
  simp only [UInt32.toNat_toUInt16, UInt32.toNat_and, UInt32.toNat_ofNat', UInt16.toNat_ofNat']
  simp [hand]

/-- **A command stores its value.** -/
theorem set_onSlave (h : d.port = slaveDev d.devAddr) {X : Quantity} {k : Nat}
    (hk : k < 2 ^ X.width) {v : Str} (hv : d.readers.real v = some ((k : ℚ) / 10 ^ X.prec p)) :
    ∃ sent', X.set d v (onSlave p regs sent) = (.ok (), onSlave p (X.store regs k) sent') := by
  have hprec : getPrec (onSlave p regs sent) = (.ok p, onSlave p regs sent) := rfl
  have hnum : Method.ofExcept (d.readers.strToDouble v) (onSlave p regs sent) =
      (.ok ((k : ℚ) / 10 ^ X.prec p), onSlave p regs sent) := by
    rw [Readers.strToDouble_eq hv, Method.ofExcept]
  -- scaling undoes the division: the number to store is `k` itself
  have hscale : (10 : ℚ) ^ X.prec p * ((k : ℚ) / 10 ^ X.prec p) = k :=
    mul_div_cancel₀ _ (by positivity)
  cases X with
  | volt | curr | ovp | ocp =>
    simp only [Quantity.prec] at hscale hnum
    simp only [Quantity.set, writeVolt, writeCurr, Method.bind_of_ok hprec, Method.bind_of_ok hnum,
      hscale, d.toU16_natCast hk, ModbusLine.modbusFunc6_onSlave h]
    exact ⟨_, rfl⟩
  | opp =>
    simp only [Quantity.prec] at hscale hnum
    simp only [Quantity.set, writePwr, Method.bind_of_ok hprec, Method.bind_of_ok hnum, hscale,
      d.toU32_natCast hk, upper_ofNat hk, lower_ofNat,
      Method.bind_of_ok (ModbusLine.modbusFunc6_onSlave h _ _), ModbusLine.modbusFunc6_onSlave h]
    exact ⟨_, rfl⟩

/-! ### Set and query -/

/-- Setting `X` to the number `v`, which scales to `k`, and then asking: the query
of `X` scales `k`, with every shift inside the operand, and the other quantities are
what they were. -/
structure Inverse (d : Hm310t SlaveState) (X : Quantity) (k : Nat) (v : Str)
    (s : Hm310tState SlaveState) : Prop where
  set : (d.ask (X.name ++ ' ' :: v) s).1 = .ok (.text [])
  query : (d.ask X.query.word (d.ask (X.name ++ ' ' :: v) s).2).1 =
    .ok (.scaled (X.prec s.prec) k)
  shifts : ∀ n ∈ X.shiftCounts (d.ask (X.name ++ ' ' :: v) s).2.dev.regs, n < 32
  others : ∀ Y, Y ≠ X → (d.ask Y.query.word (d.ask (X.name ++ ' ' :: v) s).2).1 =
    (d.ask Y.query.word s).1

/-- The other quantities have registers of their own. -/
theorem value_store_of_ne {X Y : Quantity} (h : Y ≠ X) (k : Nat) :
    Y.value d (X.store regs k) = Y.value d regs := by
  cases X <;> cases Y <;> first | exact absurd rfl h | rfl

/-- What the query of `opp` makes of a stored `k`, as long as the shift is defined. -/
theorem opp_value_of_lt {k : Nat} (hk : k < 2 ^ 32) (hlow : k % 2 ^ 16 < 16) :
    Quantity.opp.value d (Quantity.opp.store regs k) =
      k / 2 ^ 16 * 2 ^ (16 + k % 2 ^ 16) % 2 ^ 32 := by
  have hshift : pwrShift (UInt16.ofNat (k % 2 ^ 16)) = 16 + k % 2 ^ 16 := by
    rw [pwrShift, UInt16.toNat_ofNat', Nat.mod_eq_of_lt (by omega)]
  have hupper : (UInt16.ofNat (k / 2 ^ 16)).toNat = k / 2 ^ 16 := by
    rw [UInt16.toNat_ofNat', Nat.mod_eq_of_lt (by omega)]
  show (d.shl (UInt16.ofNat (k / 2 ^ 16)).toUInt32 (pwrShift (UInt16.ofNat (k % 2 ^ 16)))).toNat = _
  rw [hshift, shl, if_pos (by omega), UInt32.toNat_shiftLeft, UInt16.toNat_toUInt32, hupper,
    UInt32.toNat_ofNat', Nat.shiftLeft_eq, Nat.mod_eq_of_lt (by omega : 16 + k % 2 ^ 16 < 2 ^ 32),
    Nat.mod_eq_of_lt (by omega : 16 + k % 2 ^ 16 < 32)]

/-- Shifting by the lower half as well gives the value back only if there is
nothing in the lower half. -/
theorem opp_value_iff {k : Nat} (hk : k < 2 ^ 32) :
    (Quantity.opp.value d (Quantity.opp.store regs k) = k ∧
      pwrShift (UInt16.ofNat (k % 2 ^ 16)) < 32) ↔ k % 2 ^ 16 = 0 := by
  have hshift : pwrShift (UInt16.ofNat (k % 2 ^ 16)) = 16 + k % 2 ^ 16 := by
    rw [pwrShift, UInt16.toNat_ofNat', Nat.mod_eq_of_lt (by omega)]
  rw [hshift]
  constructor
  · rintro ⟨hvalue, hlt⟩
    -- what was shifted by 16 and more is divisible by `2^16`
    rw [opp_value_of_lt hk (by omega), pow_add, mul_comm (2 ^ 16), ← mul_assoc] at hvalue
    generalize k / 2 ^ 16 * 2 ^ (k % 2 ^ 16) = n at hvalue
    omega
  · intro hlow
    rw [opp_value_of_lt hk (by omega), hlow]
    omega

/-- The quantities with one register come back as they are. -/
theorem value_store_of_ne_opp {X : Quantity} (hX : X ≠ .opp) {k : Nat} (hk : k < 2 ^ X.width) :
    X.value d (X.store regs k) = k ∧ X.shiftCounts (X.store regs k) = [] := by
  cases X with
  | volt | curr | ovp | ocp =>
    have hfits : k < 65536 := hk
    exact ⟨by simpa [Quantity.value, Quantity.store] using hfits, rfl⟩
  | opp => exact absurd rfl hX

/-- **When set and query are inverse**: for a quantity in one register always, and
for `opp` exactly on the multiples of `2^16`. -/
theorem set_query_iff (d : Hm310t SlaveState) (hport : d.port = slaveDev d.devAddr)
    (p : Precisions) (regs : UInt16 → UInt16) (sent : List Bytes) (X : Quantity) {k : Nat}
    (hk : k < 2 ^ X.width) {v : Str}
    (hwords : d.readers.words (X.name ++ ' ' :: v) = .ok [X.name, v])
    (hv : d.readers.real v = some ((k : ℚ) / 10 ^ X.prec p)) :
    Inverse d X k v (onSlave p regs sent) ↔ (X = .opp → k % 2 ^ 16 = 0) := by
  have hstored : ∃ sent', X.set d v (onSlave p regs sent) =
      (.ok (), onSlave p (X.store regs k) sent') := set_onSlave hport hk hv
  obtain ⟨sent', hset⟩ := hstored
  have hask : d.ask (X.name ++ ' ' :: v) (onSlave p regs sent) =
      (.ok (.text []), onSlave p (X.store regs k) sent') := by
    rw [ask_command, write_set d hwords, Method.bind_of_ok hset]
    rfl
  -- what is left to say is about the stored registers alone
  have hinverse : Inverse d X k v (onSlave p regs sent) ↔
      X.value d (X.store regs k) = k ∧ ∀ n ∈ X.shiftCounts (X.store regs k), n < 32 := by
    constructor
    · intro h
      have hquery := h.query
      have hshifts := h.shifts
      rw [hask] at hquery hshifts
      rw [ask_query_onSlave hport] at hquery
      exact ⟨by simpa [onSlave] using hquery, hshifts⟩
    · rintro ⟨hvalue, hshifts⟩
      constructor
      · rw [hask]
      · rw [hask, ask_query_onSlave hport, hvalue]
        rfl
      · rw [hask]
        exact hshifts
      · intro Y hY
        rw [hask, ask_query_onSlave hport, ask_query_onSlave hport, value_store_of_ne hY]
  rw [hinverse]
  by_cases hX : X = .opp
  · subst hX
    have hcounts : (∀ n ∈ Quantity.opp.shiftCounts (Quantity.opp.store regs k), n < 32) ↔
        pwrShift (UInt16.ofNat (k % 2 ^ 16)) < 32 := List.forall_mem_singleton
    rw [hcounts, opp_value_iff hk]
    exact ⟨fun hlow _ => hlow, fun h => h rfl⟩
  · have hvalue : X.value d (X.store regs k) = k ∧ X.shiftCounts (X.store regs k) = [] :=
      value_store_of_ne_opp hX hk
    rw [hvalue.2]
    exact iff_of_true ⟨hvalue.1, fun n hn => absurd hn List.not_mem_nil⟩ fun h => absurd h hX

/-- A supply on the line to a slave. -/
def slaveHm310t : Hm310t SlaveState where
  errpref := "HM310T: "
  devAddr := 1
  port := slaveDev 1
  idn := "HM310T"
  readers := decimalReaders.withReadWords nul
  cpu := ⟨fun _ => 0, fun _ => 0, fun x n => x <<< UInt32.ofNat n⟩

theorem set_query_volt :
    Inverse slaveHm310t .volt 1250 "12.5" (onSlave ⟨2, 3, 3⟩ (fun _ => 0) []) :=
  (set_query_iff slaveHm310t rfl ⟨2, 3, 3⟩ (fun _ => 0) [] .volt (k := 1250) (v := "12.5")
    (by decide) (words_command _ _ .volt (by decide) (by decide)) (by decide +kernel)).mpr
    (by decide)

/-- A power limit of 65.537 W comes back as 131.072 W. -/
theorem opp_query_shifts_both :
    slaveHm310t.readers.words "opp 65.537" = .ok [Quantity.opp.name, "65.537"] ∧
    slaveHm310t.readers.real "65.537" = some (((65537 : ℕ) : ℚ) / 10 ^ 3) ∧
    (slaveHm310t.ask "opp?" (slaveHm310t.ask "opp 65.537"
      (onSlave ⟨2, 3, 3⟩ (fun _ => 0) [])).2).1 = .ok (.scaled 3 131072) ∧
    ¬ Inverse slaveHm310t .opp 65537 "65.537" (onSlave ⟨2, 3, 3⟩ (fun _ => 0) []) := by
  have hanswer : (slaveHm310t.ask "opp?" (slaveHm310t.ask "opp 65.537"
      (onSlave ⟨2, 3, 3⟩ (fun _ => 0) [])).2).1 = .ok (.scaled 3 131072) := by
    decide +kernel
  refine ⟨words_command _ _ .opp (by decide) (by decide), by decide +kernel, hanswer,
    fun h => ?_⟩
  have hquery := hanswer.symm.trans h.query
  simp at hquery

end Hm310t

end Device2
