/-
Device2/Lib/StepSystem.lean

Runs of a partial step function.  A system is a function
`step : σ → ε → Option σ`: the event `e` is possible in the state `s` when
`step s e` is a state, and the label `e` carries everything the step does not
decide by itself (who moves, what the environment answers).

Three notions are enough for every result about whole runs:

* `run step s es`       the state after the events `es`, if all are possible;
* `Reachable init step` the states some run from an initial state ends in;
* `Along step φ s es`   every step of the run from `s` satisfies `φ`.

The rules say how a property of one step becomes a property of all runs:
`run_invariant` and `Reachable.invariant` for an unconditional invariant,
`run_invariant_along` for one that needs its steps to meet a condition, and
`along_iff` when that condition is exact: the first step that breaks it
already breaks the property.
-/
import Mathlib.Logic.Basic
import Mathlib.Data.Option.Basic

namespace StepSystem

variable {σ ε : Type*} (step : σ → ε → Option σ)

/-! ### Runs -/

/-- The state reached from `s` by the events `es`, if every one is possible. -/
def run : σ → List ε → Option σ
  | s, [] => some s
  | s, e :: es => (step s e).bind fun t => run t es

/-- Every step of the run from `s` along `es` satisfies `φ` (state before,
event, state after). -/
def Along (φ : σ → ε → σ → Prop) : σ → List ε → Prop
  | _, [] => True
  | s, e :: es => ∀ t, step s e = some t → φ s e t ∧ Along φ t es

/-- `s` ends some run from an initial state. -/
def Reachable (init : σ → Prop) (s : σ) : Prop :=
  ∃ s₀ es, init s₀ ∧ run step s₀ es = some s

variable {step}

@[simp] theorem run_nil (s : σ) : run step s [] = some s := rfl

theorem run_cons (s : σ) (e : ε) (es : List ε) :
    run step s (e :: es) = (step s e).bind fun t => run step t es := rfl

theorem run_cons_eq_some {s u : σ} {e : ε} {es : List ε} :
    run step s (e :: es) = some u ↔ ∃ t, step s e = some t ∧ run step t es = some u := by
  rw [run_cons, Option.bind_eq_some_iff]

theorem run_append (s : σ) (es fs : List ε) :
    run step s (es ++ fs) = (run step s es).bind fun t => run step t fs := by
  induction es generalizing s with
  | nil => rfl
  | cons e es ih =>
    rw [List.cons_append, run_cons, run_cons, Option.bind_assoc]
    exact congrArg _ (funext ih)

/-- The last step of a run. -/
theorem run_snoc {s t u : σ} {es : List ε} {e : ε}
    (h : run step s es = some t) (he : step t e = some u) :
    run step s (es ++ [e]) = some u := by
  simp [run_append, h, run_cons, he]

theorem run_append_eq_some {s u : σ} {es fs : List ε} :
    run step s (es ++ fs) = some u ↔
      ∃ t, run step s es = some t ∧ run step t fs = some u := by
  rw [run_append, Option.bind_eq_some_iff]

/-! ### Reachable states -/

section Reachable
variable {init : σ → Prop}

theorem Reachable.next {s t : σ} {e : ε} (h : Reachable step init s)
    (he : step s e = some t) : Reachable step init t := by
  obtain ⟨s₀, es, hs₀, hrun⟩ := h
  exact ⟨s₀, es ++ [e], hs₀, run_snoc hrun he⟩

end Reachable

/-! ### Invariants -/

/-- A property every step preserves holds at the end of every run. -/
theorem run_invariant {I : σ → Prop}
    (hstep : ∀ s e t, I s → step s e = some t → I t)
    {s t : σ} {es : List ε} (hs : I s) (h : run step s es = some t) : I t := by
  induction es generalizing s with
  | nil => cases h; exact hs
  | cons e es ih =>
    obtain ⟨r, hr, hrest⟩ := run_cons_eq_some.mp h
    exact ih (hstep s e r hs hr) hrest

/-- The invariant rule for reachable states. -/
theorem Reachable.invariant {init I : σ → Prop} (hinit : ∀ s, init s → I s)
    (hstep : ∀ s e t, I s → step s e = some t → I t)
    {s : σ} (h : Reachable step init s) : I s := by
  obtain ⟨s₀, es, hs₀, hrun⟩ := h
  exact run_invariant hstep (hinit s₀ hs₀) hrun

/-! ### Runs whose steps meet a condition -/

section Along
variable {φ ψ : σ → ε → σ → Prop}

@[simp] theorem along_nil (s : σ) : Along step φ s [] := trivial

theorem along_cons {s t : σ} {e : ε} {es : List ε} (he : step s e = some t) :
    Along step φ s (e :: es) ↔ φ s e t ∧ Along step φ t es := by
  simp [Along, he]

/-- A run can be checked step by step. -/
instance decidableAlong [∀ s e t, Decidable (φ s e t)] : ∀ (es : List ε) (s : σ), Decidable (Along step φ s es)
  | [], _ => .isTrue trivial
  | e :: es, s =>
    match he : step s e with
    | none => .isTrue fun _ ht => nomatch he.symm.trans ht
    | some t =>
      have := decidableAlong es t
      decidable_of_iff' (φ s e t ∧ Along step φ t es) (along_cons he)

/-- A condition that none of the events can break. -/
theorem along_of_forall_mem {es : List ε} (h : ∀ e ∈ es, ∀ s t, φ s e t) {s : σ} : Along step φ s es := by
  induction es generalizing s with
  | nil => trivial
  | cons e es ih =>
    obtain ⟨he, hes⟩ := List.forall_mem_cons.mp h
    exact fun t _ => ⟨he s t, ih hes⟩

/-- Splitting a run splits the condition on its steps. -/
theorem along_append {s t : σ} {es fs : List ε} (h : run step s es = some t) :
    Along step φ s (es ++ fs) ↔ Along step φ s es ∧ Along step φ t fs := by
  induction es generalizing s with
  | nil => cases h; simp
  | cons e es ih =>
    obtain ⟨r, hr, hrest⟩ := run_cons_eq_some.mp h
    rw [List.cons_append, along_cons hr, along_cons hr, ih hrest, and_assoc]

/-- A property that the steps meeting `φ` preserve holds at the end of every
run whose steps all meet `φ`. -/
theorem run_invariant_along {I : σ → Prop}
    (hstep : ∀ s e t, I s → step s e = some t → φ s e t → I t)
    {s t : σ} {es : List ε} (hs : I s) (hφ : Along step φ s es)
    (h : run step s es = some t) : I t := by
  induction es generalizing s with
  | nil => cases h; exact hs
  | cons e es ih =>
    obtain ⟨r, hr, hrest⟩ := run_cons_eq_some.mp h
    obtain ⟨h₁, h₂⟩ := hφ r hr
    exact ih (hstep s e r hs hr h₁) h₂ hrest

/-- Steps that meet `φ` under an invariant they preserve also satisfy every
consequence `ψ` of the two. -/
theorem Along.of_invariant {I : σ → Prop}
    (hstep : ∀ s e t, I s → step s e = some t → φ s e t → I t ∧ ψ s e t)
    {s : σ} {es : List ε} (hs : I s) (hφ : Along step φ s es) :
    Along step ψ s es := by
  induction es generalizing s with
  | nil => trivial
  | cons e es ih =>
    intro t he
    obtain ⟨h₁, h₂⟩ := hφ t he
    obtain ⟨hI, hψ⟩ := hstep s e t hs he h₁
    exact ⟨hψ, ih hI h₂⟩

/-- **Exact conditions.**  If, under an invariant, a step satisfies `ψ` exactly
when it meets `φ`, and the steps meeting `φ` preserve the invariant, then a run
satisfies `ψ` throughout exactly when all its steps meet `φ`. -/
theorem along_iff {I : σ → Prop}
    (hiff : ∀ s e t, I s → step s e = some t → (ψ s e t ↔ φ s e t))
    (hinv : ∀ s e t, I s → step s e = some t → φ s e t → I t)
    {s : σ} {es : List ε} (hs : I s) :
    Along step ψ s es ↔ Along step φ s es := by
  induction es generalizing s with
  | nil => simp
  | cons e es ih =>
    rcases he : step s e with - | t
    · simp [Along, he]
    · rw [along_cons he, along_cons he, hiff s e t hs he]
      exact and_congr_right fun hφ => ih (hinv s e t hs he hφ)

end Along

end StepSystem
