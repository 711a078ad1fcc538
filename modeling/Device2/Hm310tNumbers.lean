/-
Device2/Hm310tNumbers.lean

The numbers in the messages to the power supply, and what becomes of them on their
way into a frame.

A message has a number in it if it is `:r` and an integer, or one of the five
commands and a number (`Command`, `Hm310t.command`).  The number fits if it is a
register address, or if its integer part after scaling fits the register or the pair
of registers (`Command.InRange`).  What the driver hands over to the system is
followed with `Sends`: these frames, or the first ones of them and an exception.

A number that fits is sent as it is.  Nothing checks that it fits, except that the
conversion of `:r` refuses numbers beyond 32 bits; so this refusal and the numbers
that fit are all that is handled as it should be (`noWrap_iff`).
-/
import Device2.Hm310tRegisters

namespace Device2

open Modbus

/-! ### The frames of a call -/

section Sends
variable {σ α β : Type}

/-- A call that started in `s` handed over the frames `fs`, or the first of them and
threw. -/
def Sends (s : Hm310tState σ) (fs : List Bytes) (r : Except Err α × Hm310tState σ) : Prop :=
  ∃ gs, gs <+: fs ∧ gs ≠ [] ∧ r.2.sent = s.sent ++ gs ∧ ∀ a, r.1 = .ok a → gs = fs

variable {x : Method (Hm310tState σ) α} {s : Hm310tState σ} {fs : List Bytes}

/-- What follows sends nothing more. -/
theorem Sends.andThen {f : α → Method (Hm310tState σ) β} (h : Sends s fs (x s))
    (hf : ∀ a t, (f a t).2.sent = t.sent) : Sends s fs ((x >>= f) s) := by
  obtain ⟨gs, hpre, hne, hsent, hok⟩ := h
  rcases e : x s with ⟨a | a, t⟩
  · rw [e] at hsent
    rw [Method.bind_of_error e]
    exact ⟨gs, hpre, hne, hsent, by intro b hb; cases hb⟩
  · rw [e] at hsent hok
    rw [Method.bind_of_ok e]
    exact ⟨gs, hpre, hne, (hf a t).trans hsent, fun _ _ => hok a rfl⟩

/-- One call after another. -/
theorem Sends.bind {f : α → Method (Hm310tState σ) β} {gs : List Bytes} (h : Sends s fs (x s))
    (hf : ∀ a t, Sends t gs (f a t)) : Sends s (fs ++ gs) ((x >>= f) s) := by
  obtain ⟨hs, hpre, hne, hsent, hok⟩ := h
  rcases e : x s with ⟨a | a, t⟩
  · rw [e] at hsent
    rw [Method.bind_of_error e]
    exact ⟨hs, hpre.trans (List.prefix_append fs gs), hne, hsent, by intro b hb; cases hb⟩
  · rw [e] at hsent hok
    rw [Method.bind_of_ok e]
    obtain rfl := hok a rfl
    obtain ⟨ks, hpre', hne', hsent', hok'⟩ := hf a t
    refine ⟨hs ++ ks, List.prefix_append_right_inj hs |>.mpr hpre', by simp [hne], ?_, ?_⟩
    · rw [hsent', hsent, List.append_assoc]
    · intro b hb
      rw [hok' b hb]

/-- Something was sent. -/
theorem Sends.ne {r : Except Err α × Hm310tState σ} (h : Sends s fs r) : r.2.sent ≠ s.sent := by
  obtain ⟨gs, -, hne, hsent, -⟩ := h
  rw [hsent]
  simpa using hne

end Sends

namespace ModbusLine

variable {σ : Type} (d : ModbusLine σ)

/-- Reading changes nothing about what was sent. -/
theorem serialRead_sent (s : Hm310tState σ) : (d.serialRead s).2.sent = s.sent := by
  simp only [serialRead]
  split <;> rfl

/-- What has been written has been sent, accepted or not. -/
theorem serialWrite_sends (msg : Bytes) (s : Hm310tState σ) :
    Sends s [msg] (d.serialWrite msg s) := by
  refine ⟨[msg], List.prefix_rfl, by simp, ?_, fun _ _ => rfl⟩
  simp only [serialWrite]
  split <;> rfl

/-- Reading and looking at the reply send nothing. -/
theorem serialRead_bind_sent {α : Type} (f : Bytes → Except Err α) (s : Hm310tState σ) :
    ((d.serialRead >>= fun res => Method.ofExcept (f res)) s).2.sent = s.sent := by
  have hsent := d.serialRead_sent s
  rcases e : d.serialRead s with ⟨a | a, t⟩
  · rw [e] at hsent
    rw [Method.bind_of_error e]
    exact hsent
  · rw [e] at hsent
    rw [Method.bind_of_ok e]
    exact hsent

theorem modbusFunc3_sends (addr : UInt16) (s : Hm310tState σ) :
    Sends s [d.func3Request addr] (d.modbusFunc3 addr s) :=
  (d.serialWrite_sends _ s).andThen fun _ t => d.serialRead_bind_sent _ t

theorem modbusFunc6_sends (addr val : UInt16) (s : Hm310tState σ) :
    Sends s [d.func6Request addr val] (d.modbusFunc6 addr val s) :=
  (d.serialWrite_sends _ s).andThen fun _ t => d.serialRead_bind_sent _ t

end ModbusLine

/-! ### Messages with a number -/

/-- A message with a number in it. -/
inductive Command
  | raw (n : ℤ)
  | set (X : Quantity) (q : ℚ)
  deriving DecidableEq

def quantities : List Quantity := [.volt, .curr, .ovp, .ocp, .opp]

/-- The frames that store `k`. -/
def Quantity.frames {σ : Type} (d : ModbusLine σ) (k : Nat) : Quantity → List Bytes
  | volt => [d.func6Request 0x30 (UInt16.ofNat k)]
  | curr => [d.func6Request 0x31 (UInt16.ofNat k)]
  | ovp => [d.func6Request 0x20 (UInt16.ofNat k)]
  | ocp => [d.func6Request 0x21 (UInt16.ofNat k)]
  | opp => [d.func6Request 0x22 (UInt16.ofNat (k / 2 ^ 16)),
      d.func6Request 0x23 (UInt16.ofNat (k % 2 ^ 16))]

namespace Command

/-- The number to be sent. -/
def number (p : Precisions) : Command → ℤ
  | raw n => n
  | set X q => integerPart (10 ^ X.prec p * q)

/-- Bits there are for it. -/
def width : Command → Nat
  | raw _ => 16
  | set X _ => X.width

/-- The number fits. -/
def InRange (p : Precisions) (c : Command) : Prop :=
  0 ≤ c.number p ∧ c.number p < 2 ^ c.width

/-- The number does not even fit what the text is converted to. -/
def Refused : Command → Prop
  | raw n => 2 ^ 32 ≤ n.natAbs
  | set _ _ => False

/-- The frames with the number in them. -/
def frames {σ : Type} (d : ModbusLine σ) (p : Precisions) (c : Command) : List Bytes :=
  match c with
  | raw n => [d.func3Request (UInt16.ofNat n.toNat)]
  | set X _ => X.frames d (c.number p).toNat

end Command

namespace Hm310t

variable {σ : Type} (d : Hm310t σ)

/-- The command in a message, if there is one with a number. -/
def command (msg : Str) : Option Command :=
  if sameNoCase msg "*idn?" then none
  else if 2 < msg.length ∧ msg.take 2 = ":r".toList then
    (d.readers.integer (msg.drop 2)).map .raw
  else if (queries.find? fun q => sameNoCase msg q.word).isSome then none
  else
    match d.readers.words msg with
    | .ok [cmd, v] => do
      let X ← quantities.find? fun X => cmd = X.name
      let q ← d.readers.real v
      return .set X q
    | _ => none

/-- **The number is not wrapped**: it is in the frames that are sent, or the call
throws and none is sent. -/
structure NoWrap (msg : Str) (s : Hm310tState σ) (c : Command) : Prop where
  fits : c.InRange s.prec → Sends s (c.frames d.toModbusLine s.prec) (d.ask msg s)
  refused : ¬ c.InRange s.prec → (∃ e, (d.ask msg s).1 = .error e) ∧ (d.ask msg s).2.sent = s.sent

variable {d} {msg : Str} {s : Hm310tState σ}

/-! ### Dispatch -/

/-- What `ask` does with a message with a number. -/
theorem command_cases {c : Command} (h : d.command msg = some c) :
    (∃ n, c = .raw n ∧ d.readers.integer (msg.drop 2) = some n ∧
      d.ask msg = do
        let reg ← Method.ofExcept (d.readers.strToUnsigned (msg.drop 2))
        d.readRaw reg.toUInt16) ∨
    ∃ X q v, c = .set X q ∧ d.readers.real v = some q ∧
      d.ask msg = do X.set d v; return .text [] := by
  rw [command] at h
  split at h
  · cases h
  · rename_i hidn
    split at h
    · -- the number of a register
      rename_i hraw
      obtain ⟨n, hn, rfl⟩ := Option.map_eq_some_iff.mp h
      refine .inl ⟨n, rfl, hn, ?_⟩
      rw [ask, if_neg hidn, if_pos hraw]
    · rename_i hraw
      split at h
      · cases h
      · -- one of the five words, and what it is to be set to
        rename_i hquery
        rw [Option.isSome_iff_ne_none, not_not] at hquery
        split at h
        · rename_i cmd v hwords
          simp only [Option.bind_eq_bind, Option.bind_eq_some_iff, Option.pure_def,
            Option.some.injEq] at h
          obtain ⟨X, hfind, q, hq, rfl⟩ := h
          have hcmd : cmd = X.name := by simpa using List.find?_some hfind
          subst hcmd
          refine .inr ⟨X, q, v, rfl, hq, ?_⟩
          rw [ask, if_neg hidn, if_neg hraw, hquery, ← write_set d hwords]
        · cases h

/-! ### Numbers that are sent -/

/-- Of a number of 32 bits the address takes the lower 16. -/
theorem ask_raw_sends {n : ℤ} (h : d.command msg = some (.raw n)) (hn : n.natAbs < 2 ^ 32) :
    Sends s [d.func3Request (UInt32.ofInt n).toUInt16] (d.ask msg s) := by
  obtain ⟨_, hc, hint, hask⟩ | ⟨_, _, _, hc, -⟩ := command_cases h
  case inr => cases hc
  cases hc
  have hreg : Method.ofExcept (d.readers.strToUnsigned (msg.drop 2)) s = (.ok (UInt32.ofInt n), s) := by
    rw [Readers.strToUnsigned_eq hint, if_pos hn, Method.ofExcept]
  rw [hask, Method.bind_of_ok hreg]
  exact (d.modbusFunc3_sends _ s).andThen fun _ _ => rfl

/-- Beyond 32 bits it is refused. -/
theorem ask_raw_refused {n : ℤ} (h : d.command msg = some (.raw n)) (hn : 2 ^ 32 ≤ n.natAbs) :
    (∃ e, (d.ask msg s).1 = .error e) ∧ (d.ask msg s).2.sent = s.sent := by
  obtain ⟨_, hc, hint, hask⟩ | ⟨_, _, _, hc, -⟩ := command_cases h
  case inr => cases hc
  cases hc
  have hreg : Method.ofExcept (d.readers.strToUnsigned (msg.drop 2)) s =
      (.error (cantParse (msg.drop 2)), s) := by
    rw [Readers.strToUnsigned_eq hint, if_neg (Nat.not_lt.mpr hn), Method.ofExcept]
  rw [hask, Method.bind_of_error hreg]
  exact ⟨⟨_, rfl⟩, rfl⟩

/-- What the machine makes of a scaled number. -/
def converted (d : Hm310t σ) (p : Precisions) (q : ℚ) : Quantity → Nat
  | .opp => (d.toU32 (10 ^ p.pe * q)).toNat
  | X => (d.toU16 (10 ^ X.prec p * q)).toNat

/-- The helpers send what the conversion gives, whatever it gives. -/
theorem set_sends {X : Quantity} {q : ℚ} {v : Str} (h : d.readers.real v = some q) :
    Sends s (X.frames d.toModbusLine (d.converted s.prec q X)) (X.set d v s) := by
  have hprec : getPrec s = (.ok s.prec, s) := rfl
  have hnum : Method.ofExcept (d.readers.strToDouble v) s = (.ok q, s) := by
    rw [Readers.strToDouble_eq h, Method.ofExcept]
  cases X with
  | volt | curr | ovp | ocp =>
    simp only [Quantity.set, writeVolt, writeCurr, Method.bind_of_ok hprec, Method.bind_of_ok hnum,
      Quantity.frames, converted, UInt16.ofNat_toNat]
    exact d.modbusFunc6_sends _ _ s
  | opp =>
    simp only [Quantity.set, writePwr, Method.bind_of_ok hprec, Method.bind_of_ok hnum]
    have hupper := upper_ofNat (d.toU32 (10 ^ s.prec.pe * q)).toNat_lt
    have hlower := lower_ofNat (d.toU32 (10 ^ s.prec.pe * q)).toNat
    rw [UInt32.ofNat_toNat] at hupper hlower
    rw [hupper, hlower]
    exact (d.modbusFunc6_sends _ _ s).bind fun _ t => d.modbusFunc6_sends _ _ t

theorem ask_set_sends {X : Quantity} {q : ℚ} (h : d.command msg = some (.set X q)) :
    Sends s (X.frames d.toModbusLine (d.converted s.prec q X)) (d.ask msg s) := by
  obtain ⟨_, hc, -⟩ | ⟨_, _, v, hc, hv, hask⟩ := command_cases h
  case inl => cases hc
  cases hc
  rw [hask]
  exact (set_sends hv).andThen fun _ _ => rfl

/-! ### Numbers that fit -/

theorem ofInt_toUInt16 {n : ℤ} (h0 : 0 ≤ n) (h : n < 2 ^ 16) :
    (UInt32.ofInt n).toUInt16 = UInt16.ofNat n.toNat := by
  apply UInt16.toNat_inj.mp
  rw [UInt32.ofInt, UInt32.toNat_toUInt16, UInt32.toNat_ofNat', UInt16.toNat_ofNat']
  omega

theorem converted_of_inRange (d : Hm310t σ) {p : Precisions} {X : Quantity} {q : ℚ}
    (h : (Command.set X q).InRange p) :
    d.converted p q X = ((Command.set X q).number p).toNat := by
  have h0 : 0 ≤ (Command.set X q).number p := h.1
  have hlt : (Command.set X q).number p < 2 ^ X.width := h.2
  have hnat : ((Command.set X q).number p).toNat < 2 ^ X.width := by
    rw [Int.toNat_lt h0]
    exact_mod_cast hlt
  cases X with
  | volt | curr | ovp | ocp =>
    show (d.toU16 _).toNat = _
    rw [toU16_of_fits h0 hlt]
    exact UInt16.toNat_ofNat_of_lt' hnat
  | opp =>
    show (d.toU32 (10 ^ Quantity.opp.prec p * q)).toNat = _
    rw [toU32_of_fits h0 hlt]
    exact UInt32.toNat_ofNat_of_lt' hnat

/-- A number that fits is sent as it is. -/
theorem sends_of_inRange {c : Command} (h : d.command msg = some c) (hc : c.InRange s.prec) :
    Sends s (c.frames d.toModbusLine s.prec) (d.ask msg s) := by
  cases c with
  | raw n =>
    have hlt : n < 2 ^ 16 := hc.2
    have h0 : 0 ≤ n := hc.1
    have hsent := ask_raw_sends (s := s) h (by omega)
    rwa [ofInt_toUInt16 h0 hlt] at hsent
  | set X q =>
    have hsent := ask_set_sends (s := s) h
    rwa [converted_of_inRange d hc] at hsent

/-- **When no number is wrapped**: exactly when the number in the message, if there is
one, fits, or is one that `:r` refuses. -/
theorem noWrap_iff (d : Hm310t σ) (msg : Str) (s : Hm310tState σ) :
    (∀ c, d.command msg = some c → NoWrap d msg s c) ↔
      ∀ c, d.command msg = some c → c.InRange s.prec ∨ c.Refused := by
  constructor
  · intro hall c hc
    by_contra hbad
    rw [not_or] at hbad
    -- the claim would have nothing sent, but the driver sends
    have hnone := ((hall c hc).refused hbad.1).2
    cases c with
    | raw n => exact (ask_raw_sends hc (Nat.lt_of_not_le hbad.2)).ne hnone
    | set X q => exact (ask_set_sends hc).ne hnone
  · intro hgood c hc
    refine ⟨sends_of_inRange hc, fun hnot => ?_⟩
    have hrefused : c.Refused := (hgood c hc).resolve_left hnot
    cases c with
    | raw n => exact ask_raw_refused hc hrefused
    | set X q => exact hrefused.elim

/-- Register 65536 is asked for, and register 0 answers. -/
theorem raw_register_wrapped :
    slaveHm310t.command ":r65536" = some (.raw 65536) ∧
    (slaveHm310t.ask ":r65536" (onSlave ⟨2, 3, 3⟩ (fun _ => 7) [])).1 = .ok (.text "7") ∧
    (slaveHm310t.ask ":r65536" (onSlave ⟨2, 3, 3⟩ (fun _ => 7) [])).2.sent =
      [slaveHm310t.func3Request 0] ∧
    ¬ NoWrap slaveHm310t ":r65536" (onSlave ⟨2, 3, 3⟩ (fun _ => 7) []) (.raw 65536) := by
  have hanswer : (slaveHm310t.ask ":r65536" (onSlave ⟨2, 3, 3⟩ (fun _ => 7) [])).1 =
      .ok (.text "7") := by
    decide +kernel
  refine ⟨by decide +kernel, hanswer, by decide +kernel, fun h => ?_⟩
  obtain ⟨⟨e, he⟩, -⟩ := h.refused fun hrange => absurd hrange.2 (by decide)
  rw [hanswer] at he
  cases he

end Hm310t

end Device2
