/-
Device2/Lib/Lines.lean

Text and its lines.  A line ends with the separator `a`; `completeLines a s` are
the lines a reader of the stream `s` gets, the unfinished rest left out.

`joinAfter` is the way a program puts lines together again when it writes the
separator only once there is some text: the empty lines at the beginning are
lost (`foldl_joinAfter`), and nothing else is (`intercalate_dropWhile_iff`).
-/
import Mathlib.Algebra.Order.BigOperators.Group.List
import Mathlib.Algebra.Order.Ring.Nat
import Mathlib.Tactic.Common

namespace Lines

variable {α : Type*} {a : α} {l s t : List α} {ls : List (List α)}

/-! ### Joining -/

theorem intercalate_cons (a : α) (l : List α) (ls : List (List α)) :
    [a].intercalate (l :: ls) = l ++ ls.flatMap (a :: ·) := by
  induction ls generalizing l with
  | nil => simp
  | cons m ls ih => rw [List.intercalate_cons_cons, ih m]; simp

/-- The lines `ls` after the text `acc`: a separator in front of a line only when
there is some text already. -/
def joinAfter (a : α) (acc l : List α) : List α :=
  match acc with
  | [] => l
  | x :: xs => (x :: xs) ++ a :: l

@[simp] theorem joinAfter_nil : joinAfter a [] l = l := rfl

theorem joinAfter_of_ne_nil (h : s ≠ []) : joinAfter a s l = s ++ a :: l := by
  cases s with
  | nil => exact absurd rfl h
  | cons x xs => rfl

theorem foldl_joinAfter_of_ne_nil (h : s ≠ []) :
    ls.foldl (joinAfter a) s = s ++ ls.flatMap (a :: ·) := by
  induction ls generalizing s with
  | nil => simp
  | cons m ls ih =>
    rw [List.foldl_cons, joinAfter_of_ne_nil h, ih (by simp)]
    simp

/-- Joining from the empty text loses the empty lines at the beginning. -/
theorem foldl_joinAfter [DecidableEq α] (ls : List (List α)) :
    ls.foldl (joinAfter a) [] = [a].intercalate (ls.dropWhile (· = [])) := by
  induction ls with
  | nil => rfl
  | cons l ls ih =>
    rw [List.foldl_cons, joinAfter_nil]
    by_cases hl : l = []
    · rw [hl, ih, List.dropWhile_cons_of_pos (by simp)]
    · rw [foldl_joinAfter_of_ne_nil hl, List.dropWhile_cons_of_neg (by simpa using hl),
        intercalate_cons]

theorem length_intercalate (a : α) (ls : List (List α)) :
    ([a].intercalate ls).length = (ls.map List.length).sum + (ls.length - 1) := by
  cases ls with
  | nil => simp
  | cons l ls =>
    rw [intercalate_cons]
    induction ls with
    | nil => simp
    | cons m ls ih => simp at ih ⊢; omega

/-- Shortening one line, and lengthening none, shortens the text. -/
theorem length_intercalate_map_lt {f : List α → List α} (hle : ∀ l, (f l).length ≤ l.length)
    (h : ∃ l ∈ ls, (f l).length < l.length) :
    ([a].intercalate (ls.map f)).length < ([a].intercalate ls).length := by
  have hsum : (ls.map fun l => (f l).length).sum < (ls.map List.length).sum :=
    List.sum_lt_sum _ _ (fun l _ => hle l) h
  rw [length_intercalate, length_intercalate, List.map_map, List.length_map]
  exact Nat.add_lt_add_right hsum _

theorem length_intercalate_le_cons (a : α) (l : List α) (ls : List (List α)) :
    ([a].intercalate ls).length ≤ ([a].intercalate (l :: ls)).length := by
  cases ls with
  | nil => simp
  | cons m ls => rw [intercalate_cons, intercalate_cons]; simp; omega

theorem length_intercalate_dropWhile_le [DecidableEq α] (ls : List (List α)) :
    ([a].intercalate (ls.dropWhile (· = []))).length ≤ ([a].intercalate ls).length := by
  induction ls with
  | nil => simp
  | cons l ls ih =>
    by_cases hl : l = []
    · rw [List.dropWhile_cons_of_pos (by simpa using hl)]
      exact Nat.le_trans ih (length_intercalate_le_cons a l ls)
    · rw [List.dropWhile_cons_of_neg (by simpa using hl)]

/-- The text survives exactly when it does not begin with an empty line followed
by another one. -/
theorem intercalate_dropWhile_iff [DecidableEq α] (ls : List (List α)) :
    [a].intercalate (ls.dropWhile (· = [])) = [a].intercalate ls ↔
      (ls.head? = some [] → ls.length = 1) := by
  cases ls with
  | nil => simp
  | cons l ls =>
    by_cases hl : l = []
    · subst hl
      rw [List.dropWhile_cons_of_pos (by simp)]
      cases ls with
      | nil => simp
      | cons m ls =>
        -- one separator is lost at least
        have hle := length_intercalate_dropWhile_le (a := a) (m :: ls)
        have hlt : ([a].intercalate (m :: ls)).length < ([a].intercalate ([] :: m :: ls)).length := by
          rw [List.intercalate_cons_cons]; simp
        refine ⟨fun h => ?_, fun h => ?_⟩
        · rw [h] at hle; omega
        · simp at h
    · rw [List.dropWhile_cons_of_neg (by simpa using hl)]
      simp [hl]

/-! ### Words -/

/-- A word without a separator lies within one line. -/
theorem infix_append_cons_iff {w : List α} (ha : a ∉ w) :
    w <:+: s ++ a :: t ↔ w <:+: s ∨ w <:+: t := by
  constructor
  · rintro ⟨u, v, h⟩
    rw [List.append_assoc] at h
    rcases List.append_eq_append_iff.mp h with ⟨b, rfl, hb⟩ | ⟨b, rfl, hb⟩
    · -- the word begins in the first line, and ends before the separator
      rcases List.append_eq_append_iff.mp hb with ⟨b', rfl, -⟩ | ⟨b', rfl, hb'⟩
      · exact .inl ⟨u, b', List.append_assoc ..⟩
      · rcases b' with - | ⟨x, b'⟩
        · exact .inl ⟨u, [], by simp⟩
        · obtain ⟨rfl, -⟩ := List.cons.inj hb'
          exact absurd (List.mem_append_right b List.mem_cons_self) ha
    · rcases b with - | ⟨x, b⟩
      · rcases w with - | ⟨y, w⟩
        · exact .inl (List.nil_infix)
        · obtain ⟨rfl, -⟩ := List.cons.inj hb
          exact absurd List.mem_cons_self ha
      · obtain ⟨-, rfl⟩ := List.cons.inj hb
        exact .inr ⟨b, v, List.append_assoc ..⟩
  · rintro (⟨u, v, rfl⟩ | ⟨u, v, rfl⟩)
    · exact ⟨u, v ++ a :: t, by simp⟩
    · exact ⟨s ++ a :: u, v, by simp⟩

/-! ### Splitting -/

section Split
variable [BEq α]

/-- The lines of a stream that have ended. -/
def completeLines (a : α) (s : List α) : List (List α) := (s.splitOn a).dropLast

@[simp] theorem completeLines_nil (a : α) : completeLines a [] = [] := by
  simp [completeLines]

variable [LawfulBEq α]

/-- A text followed by a separator gives all its lines. -/
theorem completeLines_append_cons (s t : List α) :
    completeLines a (s ++ a :: t) = s.splitOn a ++ completeLines a t := by
  rw [completeLines, List.splitOn_append_cons_self,
    List.dropLast_append_of_ne_nil (List.splitOn_ne_nil a t)]
  rfl

theorem completeLines_snoc (s : List α) : completeLines a (s ++ [a]) = s.splitOn a := by
  rw [completeLines_append_cons, completeLines_nil, List.append_nil]

/-- A line followed by its separator. -/
theorem completeLines_line (h : a ∉ s) (t : List α) :
    completeLines a (s ++ a :: t) = s :: completeLines a t := by
  rw [completeLines_append_cons, List.splitOn_eq_singleton h]; rfl

/-- No line contains the separator. -/
theorem not_mem_of_mem_splitOn (h : l ∈ s.splitOn a) : a ∉ l := by
  induction s generalizing l with
  | nil => simp_all
  | cons x s ih =>
    rw [List.splitOn_cons_eq_if_modifyHead] at h
    split at h
    · rcases List.mem_cons.mp h with rfl | h
      · simp
      · exact ih h
    · rename_i hx
      obtain ⟨m, ms, hm⟩ := List.exists_cons_of_ne_nil (List.splitOn_ne_nil a s)
      rw [hm, List.modifyHead_cons] at h
      rcases List.mem_cons.mp h with rfl | h
      · have hmem : a ∉ m := ih (by rw [hm]; exact List.mem_cons_self)
        have hne : a ≠ x := by rintro rfl; exact hx (beq_self_eq_true a)
        exact List.not_mem_cons_of_ne_of_not_mem hne hmem
      · exact ih (by rw [hm]; exact List.mem_cons_of_mem m h)

theorem not_mem_of_mem_completeLines (h : l ∈ completeLines a s) : a ∉ l :=
  not_mem_of_mem_splitOn (List.dropLast_subset _ h)

/-- A text is one line, or its first line, a separator and another text. -/
theorem splitOn_cases (a : α) (s : List α) :
    (a ∉ s ∧ s.splitOn a = [s]) ∨
    ∃ l t, s = l ++ a :: t ∧ a ∉ l ∧ s.splitOn a = l :: t.splitOn a := by
  by_cases h : a ∈ s
  · obtain ⟨l, t, rfl, hl⟩ := List.eq_append_cons_of_mem h
    exact .inr ⟨l, t, rfl, hl, by
      rw [List.splitOn_append_cons_self, List.splitOn_eq_singleton hl]; rfl⟩
  · exact .inl ⟨h, List.splitOn_eq_singleton h⟩

/-- The lines begin with an empty one followed by others exactly when the text
begins with a separator. -/
theorem splitOn_head_iff (a : α) (s : List α) :
    ((s.splitOn a).head? = some [] → (s.splitOn a).length = 1) ↔ s.head? ≠ some a := by
  rcases splitOn_cases a s with ⟨h, hs⟩ | ⟨l, t, rfl, hl, hs⟩
  · rw [hs]
    refine ⟨fun _ hhead => h (List.mem_of_mem_head? hhead), fun _ _ => rfl⟩
  · have hlen : 0 < (t.splitOn a).length :=
      List.length_pos_iff.mpr (List.splitOn_ne_nil a t)
    rw [hs]
    cases l with
    | nil => simp
    | cons x l =>
      have hx : x ≠ a := fun he => hl (by simp [he])
      simp [hx]

end Split

end Lines
