/-
Device2/Lib/FlagWords.lean

Words of flags, and programs that change some of the flags and may throw.

A setting is a function from words to words with exceptions (`Setting`).  It keeps a
bit of a word if the bit comes out as it went in whenever the setting does not throw
(`KeepsBit`).  Settings that keep a bit keep it one after the other (`KeepsBit.seq`), so a
long program is taken apart into single masks, and setting or clearing a mask keeps
what is outside of it (`keeps_setBits`, `keeps_clearBits`).
-/
import Mathlib.Logic.Function.Basic
import Mathlib.Tactic.Common

namespace FlagWords

/-- Words of `n` flags, by their names. -/
abbrev Words (W : Type) (n : ℕ) := W → BitVec n

/-- A program that changes flags, with exceptions `E`. -/
abbrev Setting (E W : Type) (n : ℕ) := Words W n → Except E (Words W n)

variable {W E : Type} {n i : ℕ} {v w : W} {m m' : BitVec n}

/-- A test of a single flag. -/
theorem and_twoPow_ne_zero_iff {x : BitVec n} : x &&& BitVec.twoPow n i ≠ 0 ↔ x.getLsbD i = true := by
  rw [BitVec.and_twoPow]
  rcases e : x.getLsbD i with - | -
  · simp
  · have hi : (BitVec.twoPow n i).getLsbD i = true := by
      rw [BitVec.getLsbD_twoPow, decide_eq_true (BitVec.lt_of_getLsbD e), decide_eq_true rfl]
      rfl
    refine iff_of_true (fun h => ?_) rfl
    rw [if_pos rfl] at h
    rw [h] at hi
    exact absurd hi (by simp)

/-! ### Bits that are kept -/

/-- A bit comes out as it went in. -/
def KeepsBit (w : W) (i : ℕ) (f : Setting E W n) : Prop :=
  ∀ t t', f t = .ok t' → (t' w).getLsbD i = (t w).getLsbD i

section Programs
variable {f g : Setting E W n}

theorem KeepsBit.pure : KeepsBit w i (fun t => .ok t : Setting E W n) := by
  intro t t' h
  cases h
  rfl

theorem KeepsBit.throw {e : E} : KeepsBit w i (fun _ => .error e : Setting E W n) := by
  intro t t' h
  cases h

theorem KeepsBit.seq (hf : KeepsBit w i f) (hg : KeepsBit w i g) : KeepsBit w i fun t => f t >>= g := by
  intro t t'' h
  rcases e : f t with err | t'
  · replace h : (f t >>= g) = .ok t'' := h
    rw [e] at h
    cases h
  · replace h : (f t >>= g) = .ok t'' := h
    rw [e] at h
    rw [hg t' t'' h, hf t t' e]

/-- In front of the setting there may be a computation that decides which one it is. -/
theorem KeepsBit.after {α : Type} {x : Except E α} {f : α → Setting E W n}
    (hf : ∀ a, x = .ok a → KeepsBit w i (f a)) : KeepsBit w i fun t => x >>= fun a => f a t := by
  rcases x with err | a
  · exact KeepsBit.throw
  · exact hf a rfl

theorem KeepsBit.ite {p : Prop} [Decidable p] (hf : p → KeepsBit w i f) (hg : ¬ p → KeepsBit w i g) :
    KeepsBit w i fun t => if p then f t else g t := by
  by_cases hp : p
  · simpa only [if_pos hp] using hf hp
  · simpa only [if_neg hp] using hg hp

end Programs

/-! ### Masks -/

/-- A bit of the word `v` is not one of the bits `m` of the word `w`. -/
def Outside (w : W) (m : BitVec n) (v : W) (i : ℕ) : Prop := v = w → m.getLsbD i = false

theorem outside_of_ne (h : v ≠ w) : Outside w m v i := fun e => absurd e h

theorem outside_or_iff : Outside w (m ||| m') v i ↔ Outside w m v i ∧ Outside w m' v i := by
  simp only [Outside, BitVec.getLsbD_or, Bool.or_eq_false_iff]
  exact forall_and

section Masks
variable [DecidableEq W] {t : Words W n}

instance : Decidable (Outside w m v i) := inferInstanceAs (Decidable (v = w → m.getLsbD i = false))

/-- `*w |= m`. -/
def setBits (w : W) (m : BitVec n) (t : Words W n) : Words W n := Function.update t w (t w ||| m)

/-- `*w &= ~m`. -/
def clearBits (w : W) (m : BitVec n) (t : Words W n) : Words W n :=
  Function.update t w (t w &&& ~~~m)

theorem getLsbD_setBits_of_outside (h : Outside w m v i) :
    (setBits w m t v).getLsbD i = (t v).getLsbD i := by
  rw [setBits]
  rcases eq_or_ne v w with rfl | hne
  · rw [Function.update_self, BitVec.getLsbD_or, h rfl, Bool.or_false]
  · rw [Function.update_of_ne hne]

theorem getLsbD_clearBits_of_outside (h : Outside w m v i) :
    (clearBits w m t v).getLsbD i = (t v).getLsbD i := by
  rw [clearBits]
  rcases eq_or_ne v w with rfl | hne
  · rw [Function.update_self, BitVec.getLsbD_and, BitVec.getLsbD_not, h rfl]
    rcases e : (t v).getLsbD i with - | -
    · rfl
    · rw [decide_eq_true (BitVec.lt_of_getLsbD e)]
      rfl
  · rw [Function.update_of_ne hne]

theorem getLsbD_setBits_of_mem (h : m.getLsbD i = true) : (setBits w m t w).getLsbD i = true := by
  rw [setBits, Function.update_self, BitVec.getLsbD_or, h, Bool.or_true]

theorem getLsbD_clearBits_of_mem (h : m.getLsbD i = true) :
    (clearBits w m t w).getLsbD i = false := by
  rw [clearBits, Function.update_self, BitVec.getLsbD_and, BitVec.getLsbD_not, h, Bool.not_true,
    Bool.and_false, Bool.and_false]

theorem keeps_setBits (h : Outside w m v i) :
    KeepsBit v i (fun t => .ok (setBits w m t) : Setting E W n) := by
  intro t t' ht
  cases ht
  exact getLsbD_setBits_of_outside h

theorem keeps_clearBits (h : Outside w m v i) :
    KeepsBit v i (fun t => .ok (clearBits w m t) : Setting E W n) := by
  intro t t' ht
  cases ht
  exact getLsbD_clearBits_of_outside h

end Masks

end FlagWords
