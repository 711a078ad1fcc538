/-
Device2/Lib/ShiftRegister.lean

Feedback shift registers as they are used for checksums: the register is moved down
by one place, and a bit that falls out at the bottom adds the polynomial.  Messages
are fed to it bit by bit.

The polynomial has its highest bit set (`Poly`), so that the bit which has fallen out
can be seen from the outcome, and nothing is lost by moving (`shift_injective`).  The
register is linear (`shift_xor`); hence up to `w` bits can be fed one by one or added
to the register all at once (`feed_eq_iterate`).

Two consequences make it a checksum.  Feeding a register to itself clears it
(`feed_self`), and messages that differ within `w` consecutive bits only leave
different registers (`feed_ne_of_window`).
-/
import Mathlib.Data.BitVec
import Mathlib.Data.List.OfFn
import Mathlib.Logic.Function.Iterate
import Mathlib.Tactic.Common

namespace ShiftRegister

variable {w n : Nat}

/-! ### Bits -/

/-- The bits of a word, the lowest one first. -/
def bits (x : BitVec n) : List Bool := List.ofFn fun i : Fin n => x.getLsbD i

@[simp] theorem length_bits (x : BitVec n) : (bits x).length = n := List.length_ofFn

/-- The low bits of a word come first. -/
theorem bits_add {m : Nat} (x : BitVec (n + m)) :
    bits x = bits (x.setWidth n) ++ bits ((x >>> n).setWidth m) := by
  rw [bits, List.ofFn_add]
  congr 2
  · funext i
    simp
  · funext i
    simp

/-- The word with these bits, the lowest one first. -/
def ofBits (w : Nat) (l : List Bool) : BitVec w := (BitVec.ofBoolListLE l).setWidth w

theorem getLsbD_ofBits (l : List Bool) (i : Nat) :
    (ofBits w l).getLsbD i = (decide (i < w) && l.getD i false) := by
  rw [ofBits, BitVec.getLsbD_setWidth, BitVec.getLsbD_ofBoolListLE]

theorem ofBits_bits (x : BitVec n) : ofBits w (bits x) = x.setWidth w := by
  apply BitVec.eq_of_getLsbD_eq
  intro i hi
  rw [getLsbD_ofBits, BitVec.getLsbD_setWidth]
  congr 1
  by_cases h : i < n
  · simp [bits, List.getD_eq_getElem?_getD, h]
  · have hx : x.getLsbD i = false := BitVec.getLsbD_of_ge x i (Nat.not_lt.mp h)
    simp [List.getD_eq_getElem?_getD, h, hx]

/-- Up to `w` bits can be read off the word. -/
theorem ofBits_injective {l l' : List Bool} (hlen : l.length = l'.length) (hw : l.length ≤ w)
    (h : ofBits w l = ofBits w l') : l = l' := by
  apply List.ext_getElem hlen
  intro i hi hi'
  have hbit : (ofBits w l).getLsbD i = (ofBits w l').getLsbD i := by rw [h]
  rw [getLsbD_ofBits, getLsbD_ofBits] at hbit
  simpa [Nat.lt_of_lt_of_le hi hw, hi, hi'] using hbit

theorem bits_injective : Function.Injective (bits : BitVec n → List Bool) := by
  intro x y h
  have hword : ofBits n (bits x) = ofBits n (bits y) := by rw [h]
  simpa [ofBits_bits] using hword

/-- The first bit is the lowest one, the others stand above it. -/
theorem ofBits_cons (b : Bool) (l : List Bool) :
    ofBits w (b :: l) = ofBits w [b] ^^^ (ofBits w l <<< 1) := by
  apply BitVec.eq_of_getLsbD_eq
  intro i hi
  rw [BitVec.getLsbD_xor, BitVec.getLsbD_shiftLeft, getLsbD_ofBits, getLsbD_ofBits, getLsbD_ofBits]
  cases i with
  | zero => simp
  | succ i => simp [hi, Nat.lt_of_succ_lt hi]

/-! ### The register -/

/-- A polynomial of degree `w` with the constant term 1, its coefficients from the
highest bit down. -/
structure Poly (w : Nat) where
  mask : BitVec w
  msb_mask : mask.msb = true

variable (p : Poly w)

/-- One place down. -/
def shift (s : BitVec w) : BitVec w := (s >>> 1) ^^^ (if s.getLsbD 0 then p.mask else 0#w)

/-- A bit of the message is added to the lowest one, which then falls out. -/
def feedBit (s : BitVec w) (b : Bool) : BitVec w := shift p (s ^^^ ofBits w [b])

/-- The register after a message. -/
def feed (s : BitVec w) (l : List Bool) : BitVec w := l.foldl (feedBit p) s

theorem feed_append (s : BitVec w) (l l' : List Bool) :
    feed p s (l ++ l') = feed p (feed p s l) l' := List.foldl_append

@[simp] theorem shift_zero : shift p 0#w = 0#w := by simp [shift]

/-- The highest bit is the one that has fallen out. -/
theorem msb_shift (s : BitVec w) : (shift p s).msb = s.getLsbD 0 := by
  have hmsb : (s >>> 1).msb = false := by
    rw [BitVec.msb_ushiftRight]
    rfl
  rw [shift, BitVec.msb_xor, hmsb, Bool.false_xor]
  cases s.getLsbD 0 with
  | false => simp
  | true => exact p.msb_mask

theorem shift_injective : Function.Injective (shift p) := by
  intro s t h
  have hbit : s.getLsbD 0 = t.getLsbD 0 := by
    have := congrArg BitVec.msb h
    rwa [msb_shift, msb_shift] at this
  have hrest : s >>> 1 = t >>> 1 := by
    rw [shift, shift, hbit] at h
    exact (BitVec.xor_left_inj _).mp h
  apply BitVec.eq_of_getLsbD_eq
  intro i _
  cases i with
  | zero => exact hbit
  | succ i =>
    have := congrArg (BitVec.getLsbD · i) hrest
    simpa [BitVec.getLsbD_ushiftRight, Nat.add_comm] using this

theorem shift_xor (s t : BitVec w) : shift p (s ^^^ t) = shift p s ^^^ shift p t := by
  have hmask : ∀ a b : Bool, (if (a ^^ b) then p.mask else 0#w) =
      (if a then p.mask else 0#w) ^^^ (if b then p.mask else 0#w) := by
    intro a b
    cases a <;> cases b <;> simp
  rw [shift, shift, shift, BitVec.ushiftRight_xor_distrib, BitVec.getLsbD_xor, hmask]
  ac_rfl

/-- What stands above an empty lowest bit just moves down. -/
theorem shift_shiftLeft {x : BitVec w} (h : ∀ i, w ≤ i + 1 → x.getLsbD i = false) :
    shift p (x <<< 1) = x := by
  have hlow : (x <<< 1).getLsbD 0 = false := by simp
  rw [shift, hlow, if_neg Bool.false_ne_true, BitVec.xor_zero]
  apply BitVec.eq_of_getLsbD_eq
  intro i hi
  rw [BitVec.getLsbD_ushiftRight, BitVec.getLsbD_shiftLeft]
  by_cases hlast : w ≤ i + 1
  · have hlt : ¬ 1 + i < w := by omega
    simp [h i hlast, hlt]
  · have hlt : 1 + i < w := by omega
    simp [hlt]

/-- **Bit by bit or all at once.**  Up to `w` bits can be added to the register before
it is moved. -/
theorem feed_eq_iterate {l : List Bool} (hw : l.length ≤ w) (s : BitVec w) :
    feed p s l = (shift p)^[l.length] (s ^^^ ofBits w l) := by
  induction l generalizing s with
  | nil =>
    have hzero : ofBits w [] = 0#w := by
      apply BitVec.eq_of_getLsbD_eq
      intro i _
      simp [getLsbD_ofBits]
    rw [hzero, BitVec.xor_zero]
    rfl
  | cons b l ih =>
    -- the bits behind the first one are in their place after one move
    have hmove : shift p (ofBits w l <<< 1) = ofBits w l := by
      apply shift_shiftLeft
      intro i hi
      have hlen : l.length ≤ i := by simp only [List.length_cons] at hw; omega
      simp [getLsbD_ofBits, List.getD_eq_getElem?_getD, hlen]
    show feed p (shift p (s ^^^ ofBits w [b])) l = _
    rw [ih (Nat.le_of_succ_le hw), List.length_cons, Function.iterate_succ_apply, ofBits_cons b l,
      ← BitVec.xor_assoc, shift_xor p (s ^^^ ofBits w [b]), hmove]

/-- The message leaves what the register was before it. -/
theorem feed_injective (l : List Bool) : Function.Injective fun s => feed p s l := by
  induction l with
  | nil => exact fun s t h => h
  | cons b l ih =>
    intro s t h
    have hstep : feedBit p s b = feedBit p t b := ih h
    exact (BitVec.xor_left_inj _).mp (shift_injective p hstep)

/-! ### Checksums -/

/-- Feeding a register its own bits clears it. -/
theorem feed_self (s : BitVec w) : feed p s (bits s) = 0#w := by
  rw [feed_eq_iterate p (Nat.le_of_eq (length_bits s)), ofBits_bits, BitVec.setWidth_eq, BitVec.xor_self]
  exact Function.iterate_fixed (shift_zero p) _

/-- Two different pieces of up to `w` bits leave different registers. -/
theorem feed_piece_injective {u v : List Bool} (hlen : u.length = v.length) (hw : u.length ≤ w)
    {s : BitVec w} (h : feed p s u = feed p s v) : u = v := by
  rw [feed_eq_iterate p hw, feed_eq_iterate p (hlen ▸ hw), hlen] at h
  have hword := (shift_injective p).iterate _ h
  exact ofBits_injective hlen hw ((BitVec.xor_right_inj _).mp hword)

/-- **Burst errors.**  Messages of one length that differ, but only within `w`
consecutive bits, leave different registers. -/
theorem feed_ne_of_window {l l' : List Bool} (hlen : l.length = l'.length) (hne : l ≠ l') (k : Nat)
    (h : ∀ i, i < k ∨ k + w ≤ i → l[i]? = l'[i]?) (s : BitVec w) : feed p s l ≠ feed p s l' := by
  have hbefore : l.take k = l'.take k := by
    apply List.ext_getElem?
    intro i
    rw [List.getElem?_take, List.getElem?_take]
    split_ifs with hi
    · exact h i (.inl hi)
    · rfl
  have hbehind : l.drop (k + w) = l'.drop (k + w) := by
    apply List.ext_getElem?
    intro i
    rw [List.getElem?_drop, List.getElem?_drop]
    exact h _ (.inr (Nat.le_add_right _ i))
  have hcut : ∀ m : List Bool, m = m.take k ++ ((m.drop k).take w ++ m.drop (k + w)) := by
    intro m
    rw [← List.drop_drop, List.take_append_drop, List.take_append_drop]
  intro heq
  rw [hcut l, hcut l', hbefore, hbehind, feed_append, feed_append, feed_append, feed_append] at heq
  have hpiece := feed_piece_injective p (by simp [hlen]) (by simp) (feed_injective p _ heq)
  apply hne
  rw [hcut l, hcut l', hbefore, hbehind, hpiece]

end ShiftRegister
