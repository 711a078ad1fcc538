/-
Device2/Lib/Drain.lean

Systems that come to rest.

Some steps of a system are its own, the others bring it new work.  If each thread has
a rank that its own steps make smaller and the steps of others leave alone
(`Lowers`), the ranks together are a measure, and a run of own steps is not longer than it
(`length_le_of_measure`).  So a run that is as long as it can be ends, and it ends
where no own step is possible.
-/
import Device2.Lib.StepSystem
import Mathlib.Algebra.BigOperators.Group.Finset.Basic
import Mathlib.Algebra.Order.BigOperators.Group.Finset

namespace Drain

open StepSystem

variable {σ ε τ : Type*} {step : σ → ε → Option σ} {O : ε → Prop} {I : σ → Prop}

section Measure
variable {μ : σ → ℕ}

/-- A run whose steps all make the measure smaller. -/
theorem length_le_of_measure
    (hstep : ∀ s e t, I s → O e → step s e = some t → I t ∧ μ t < μ s) {s t : σ} {es : List ε}
    (hs : I s) (hown : ∀ e ∈ es, O e) (hrun : run step s es = some t) : es.length + μ t ≤ μ s := by
  induction es generalizing s with
  | nil =>
    cases hrun
    exact (Nat.zero_add _).le
  | cons e es ih =>
    obtain ⟨r, hr, hrest⟩ := run_cons_eq_some.mp hrun
    obtain ⟨he, hes⟩ := List.forall_mem_cons.mp hown
    obtain ⟨hI, hlt⟩ := hstep s e r hs he hr
    have hle := ih hI hes hrest
    rw [List.length_cons]
    omega

end Measure

/-- The thread `c` gets a smaller rank, and the others keep theirs. -/
structure Lowers (rank rank' : τ → ℕ) (c : τ) : Prop where
  self : rank' c < rank c
  others : ∀ c', c' ≠ c → rank' c' = rank c'

/-- The ranks of some threads together. -/
theorem Lowers.sum_lt {rank rank' : τ → ℕ} {c : τ} (h : Lowers rank rank' c) {T : Finset τ} (hc : c ∈ T) :
    ∑ c ∈ T, rank' c < ∑ c ∈ T, rank c := by
  apply Finset.sum_lt_sum
  · intro c' _
    by_cases hcc : c' = c
    · rw [hcc]
      exact h.self.le
    · exact (h.others c' hcc).le
  · exact ⟨c, hc, h.self⟩

end Drain
