/-
Device2/Lib/RecentBuffer.lean

Bounded queues that forget their oldest elements.  `popOver n` is the loop
`while (q.size() > n) q.pop()`; a producer that pushes and then runs this loop
keeps exactly the last `n` elements ever pushed (`popOver_rtake_append`), where
"the last `n`" is Mathlib's `List.rtake`.
-/
import Mathlib

namespace RecentBuffer

variable {α : Type*}

/-- `while (q.size() > n) q.pop()`. -/
def popOver (n : ℕ) : List α → List α
  | [] => []
  | x :: q => if q.length + 1 > n then popOver n q else x :: q

theorem popOver_eq_rtake (n : ℕ) (q : List α) : popOver n q = q.rtake n := by
  induction q with
  | nil => simp [popOver]
  | cons x q ih =>
    by_cases h : q.length + 1 > n
    · have hd : (x :: q).length - n = (q.length - n) + 1 := by
        simp only [List.length_cons]; omega
      rw [popOver, if_pos h, ih, List.rtake, List.rtake, hd, List.drop_succ_cons]
    · have hd : (x :: q).length - n = 0 := by
        simp only [List.length_cons]; omega
      rw [popOver, if_neg h, List.rtake, hd, List.drop_zero]

/-- What was dropped stays dropped: appending to the last `n` elements and
keeping the last `n` again is keeping the last `n` of everything. -/
theorem rtake_rtake_append (n : ℕ) (q r : List α) :
    (q.rtake n ++ r).rtake n = (q ++ r).rtake n := by
  simp only [List.rtake_eq_reverse_take_reverse, List.reverse_append, List.reverse_reverse,
    List.take_append, List.take_take]
  congr 3
  simp only [List.length_reverse]
  omega

/-- Pushing onto a bounded queue. -/
theorem popOver_rtake_append (n : ℕ) (q : List α) (x : α) :
    popOver n (q.rtake n ++ [x]) = (q ++ [x]).rtake n := by
  rw [popOver_eq_rtake, rtake_rtake_append]

/-- The queue only counts its elements. -/
theorem popOver_map {β : Type*} (n : ℕ) (f : α → β) (q : List α) :
    popOver n (q.map f) = (popOver n q).map f := by
  rw [popOver_eq_rtake, popOver_eq_rtake, List.rtake, List.rtake, List.map_drop, List.length_map]

end RecentBuffer
