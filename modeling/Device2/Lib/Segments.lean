/-
Device2/Lib/Segments.lean

A stream that arrives in pieces.  A reader gets whole pieces, none of them empty, and
has no say in where the stream is cut (`Segmentation`).

A reader that goes on until what it has satisfies `stop` (`readUntil`) does not
depend on the cuts when a text is the first of its beginnings to satisfy it: it takes
the pieces of this text, all of them and nothing else (`readUntil_segmentation`).
-/
import Mathlib.Data.List.Basic
import Mathlib.Tactic.Common

namespace Segments

variable {α : Type*} {n : Nat} {s t acc left : List α} {q : List α} {qs rest : List (List α)}

/-- A text in pieces of at most `n` characters. -/
structure Segmentation (n : Nat) (s : List α) where
  pieces : List (List α)
  flatten_pieces : pieces.flatten = s
  pieces_ne_nil : ∀ q ∈ pieces, q ≠ []
  length_le : ∀ q ∈ pieces, q.length ≤ n

theorem Segmentation.ne_nil (c : Segmentation n s) (hs : s ≠ []) : c.pieces ≠ [] := by
  intro h
  apply hs
  rw [← c.flatten_pieces, h]
  rfl

/-- Pieces that are not empty, taken together. -/
theorem flatten_ne_nil (hne : ∀ q ∈ qs, q ≠ []) (hqs : qs ≠ []) : qs.flatten ≠ [] := by
  obtain ⟨q, qs, rfl⟩ := List.exists_cons_of_ne_nil hqs
  intro h
  exact hne q List.mem_cons_self (List.append_eq_nil_iff.mp h).1

/-- Read pieces until `stop` holds for all that has been read, starting from `acc`:
the text, and the pieces left. -/
def readUntil (stop : List α → Bool) : List (List α) → List α → Option (List α × List (List α))
  | [], _ => none
  | q :: qs, acc => if stop (acc ++ q) then some (acc ++ q, qs) else readUntil stop qs (acc ++ q)

variable {stop : List α → Bool}

/-- The reader takes the pieces of a text that no proper beginning of it can stop. -/
theorem readUntil_pieces (hne : ∀ q ∈ qs, q ≠ []) (hqs : qs ≠ []) (hflat : acc ++ qs.flatten = s)
    (hstop : stop s = true) (hfirst : ∀ t, t <+: s → t ≠ s → stop t = false) (rest : List (List α)) :
    readUntil stop (qs ++ rest) acc = some (s, rest) := by
  induction qs generalizing acc with
  | nil => exact absurd rfl hqs
  | cons q qs ih =>
    obtain ⟨-, hne'⟩ := List.forall_mem_cons.mp hne
    rw [List.flatten_cons, ← List.append_assoc] at hflat
    rw [List.cons_append, readUntil]
    by_cases hlast : qs = []
    · -- the last piece completes the text
      subst hlast
      rw [List.flatten_nil, List.append_nil] at hflat
      rw [hflat, if_pos hstop]
      rfl
    · have hproper : acc ++ q ≠ s := by
        intro h
        apply flatten_ne_nil hne' hlast
        rwa [h, List.append_right_eq_self] at hflat
      have hgo := hfirst (acc ++ q) ⟨qs.flatten, hflat⟩ hproper
      rw [if_neg (by rw [hgo]; exact Bool.false_ne_true)]
      exact ih hne' hlast hflat

/-- **No matter where the text is cut.** -/
theorem readUntil_segmentation (c : Segmentation n s) (hs : s ≠ []) (hstop : stop s = true)
    (hfirst : ∀ t, t <+: s → t ≠ s → stop t = false) (rest : List (List α)) :
    readUntil stop (c.pieces ++ rest) [] = some (s, rest) :=
  readUntil_pieces c.pieces_ne_nil (c.ne_nil hs) c.flatten_pieces hstop hfirst rest

end Segments
