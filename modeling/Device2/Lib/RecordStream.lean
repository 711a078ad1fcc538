/-
Device2/Lib/RecordStream.lean

Streams of records.  A reader takes one record off the front of a stream, or finds
that the stream is at its end; beside the stream it has a position of its own (a
line number, say), which its records may show.

Since a record takes at least one character (`Reader.progress`), the records of a
stream are a finite list (`records`).  A text *writes* a record when the reader
gives just this record in front of any other text, whatever its position, and it is
*skipped* when the reader passes over it.  Texts that write records or are skipped
can be put together in any number and order (`records_flatMap`).

What is compared of a record is its value under `f`, which may forget the position.
-/
import Mathlib.Data.List.Basic
import Mathlib.Tactic.Common

namespace RecordStream

variable {π α β γ ι : Type*}

/-- A reader of records `β` from a stream of characters `α`, with a position `π`;
`none` is the end of the stream. -/
structure Reader (π α β : Type*) where
  read : π → List α → Option β × π × List α
  progress : ∀ {p : π} {s : List α} {b : β}, (read p s).1 = some b → (read p s).2.2.length < s.length

namespace Reader

/-- The records of a stream, call by call. -/
def records (R : Reader π α β) (p : π) (s : List α) : List β :=
  match _h : (R.read p s).1 with
  | none => []
  | some b => b :: R.records (R.read p s).2.1 (R.read p s).2.2
termination_by s.length
decreasing_by exact R.progress _h

variable {R : Reader π α β} {p q : π} {s t : List α} {b : β} {f : β → γ}

theorem records_of_none (h : (R.read p s).1 = none) : R.records p s = [] := by
  rw [records]
  split
  · rfl
  · rename_i hb; rw [h] at hb; cases hb

theorem records_of_some (h : R.read p s = (some b, q, t)) :
    R.records p s = b :: R.records q t := by
  rw [records]
  split
  · rename_i hb; rw [h] at hb; cases hb
  · rename_i b' hb
    rw [h] at hb ⊢
    cases hb
    rfl

/-- Where the reader does the same, the records are the same. -/
theorem records_congr (h : R.read p s = R.read q t) : R.records p s = R.records q t := by
  rcases e : R.read q t with ⟨- | b, q', t'⟩
  · rw [records_of_none (by rw [h, e]), records_of_none (by rw [e])]
  · rw [records_of_some (h.trans e), records_of_some e]

/-! ### Texts in front of a stream -/

/-- The text `c` is read as one record with the value `v`. -/
def Writes (R : Reader π α β) (f : β → γ) (c : List α) (v : γ) : Prop :=
  ∀ p s, ∃ b q, R.read p (c ++ s) = (some b, q, s) ∧ f b = v

/-- The text `c` is passed over. -/
def Skips (R : Reader π α β) (c : List α) : Prop :=
  ∀ p s, ∃ q, R.read p (c ++ s) = R.read q s

/-- A text that writes the record of `v`, if there is one, and is skipped otherwise. -/
def Encodes (R : Reader π α β) (f : β → γ) (c : List α) : Option γ → Prop
  | some v => R.Writes f c v
  | none => R.Skips c

/-- **Texts one after the other.**  The records of the texts come first, in their
order, and then those of the rest. -/
theorem records_flatMap {enc : ι → List α} {val : ι → Option γ} {is : List ι}
    (h : ∀ i ∈ is, R.Encodes f (enc i) (val i)) (p : π) (s : List α) :
    ∃ q, (R.records p (is.flatMap enc ++ s)).map f =
      is.filterMap val ++ (R.records q s).map f := by
  induction is generalizing p with
  | nil => exact ⟨p, rfl⟩
  | cons i is ih =>
    obtain ⟨hi, his⟩ := List.forall_mem_cons.mp h
    rw [List.flatMap_cons, List.append_assoc]
    rcases hv : val i with - | v
    · -- nothing comes of this text
      rw [hv] at hi
      obtain ⟨q, hq⟩ := hi p (is.flatMap enc ++ s)
      rw [records_congr hq, List.filterMap_cons_none hv]
      exact ih his q
    · rw [hv] at hi
      obtain ⟨b, q, hb, rfl⟩ := hi p (is.flatMap enc ++ s)
      obtain ⟨q', hq'⟩ := ih his q
      refine ⟨q', ?_⟩
      rw [records_of_some hb, List.map_cons, hq', List.filterMap_cons_some hv, List.cons_append]

end Reader

end RecordStream
