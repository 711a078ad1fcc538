/-
Device2/Lib/Simulation.lean

Two levels of one design, as partial step functions (`StepSystem`).  A concrete
system is simulated by an abstract one when related states stay related: every
concrete step is matched by the abstract events that stand for it (`Simulates`).
These may be none, when the step is one of the concrete level alone, or several.

The rule for whole runs (`Simulates.run`) says which abstract run matches a concrete
one: the events of its steps one after the other (`trace`).  What holds of the events
of each step holds of those of a run (`forall_mem_trace`).

When the abstract system is a sequential one, its operations are always possible and
say something (`outputs`).  A concrete run whose steps say what their operations say is
then serial (`Serial.run`), under an invariant and a condition on the steps.
-/
import Device2.Lib.StepSystem

namespace StepSystem

variable {σ ε τ η : Type*} {step : σ → ε → Option σ} {step' : τ → η → Option τ}

/-- The abstract events of a concrete run; `f s e` are those of the step `e` in `s`. -/
def trace (step : σ → ε → Option σ) (f : σ → ε → List η) : σ → List ε → List η
  | _, [] => []
  | s, e :: es => f s e ++ (step s e).elim [] fun t => trace step f t es

/-- What holds of the events of every step holds of those of the run. -/
theorem forall_mem_trace {f : σ → ε → List η} {I : σ → Prop} {C : ε → Prop} {Q : η → Prop}
    (hI : ∀ s e t, I s → step s e = some t → I t) (hf : ∀ s e, I s → C e → ∀ o ∈ f s e, Q o)
    {s : σ} {es : List ε} (hs : I s) (hes : ∀ e ∈ es, C e) : ∀ o ∈ trace step f s es, Q o := by
  induction es generalizing s with
  | nil => exact fun o ho => absurd ho List.not_mem_nil
  | cons e es ih =>
    obtain ⟨he, hes⟩ := List.forall_mem_cons.mp hes
    intro o ho
    rcases List.mem_append.mp ho with ho | ho
    · exact hf s e hs he o ho
    · rcases hstep : step s e with - | t
      · rw [hstep] at ho
        exact absurd ho List.not_mem_nil
      · rw [hstep] at ho
        exact ih (hI s e t hs hstep) hes o ho

/-- Every step from a state `s` related to `t` is matched from `t` by the events
`f s e`, and the states afterwards are related again. -/
def Simulates (step : σ → ε → Option σ) (step' : τ → η → Option τ) (R : σ → τ → Prop)
    (f : σ → ε → List η) : Prop :=
  ∀ s t e s', R s t → step s e = some s' → ∃ t', run step' t (f s e) = some t' ∧ R s' t'

variable {R : σ → τ → Prop} {f : σ → ε → List η}

/-- **Runs match runs.** -/
theorem Simulates.run (h : Simulates step step' R f) {s s' : σ} {t : τ} {es : List ε} (hR : R s t)
    (hrun : run step s es = some s') :
    ∃ t', StepSystem.run step' t (trace step f s es) = some t' ∧ R s' t' := by
  induction es generalizing s t with
  | nil => cases hrun; exact ⟨t, rfl, hR⟩
  | cons e es ih =>
    obtain ⟨s₁, he, hrest⟩ := run_cons_eq_some.mp hrun
    obtain ⟨t₁, ht₁, hR₁⟩ := h s t e s₁ hR he
    obtain ⟨t', ht', hR'⟩ := ih hR₁ hrest
    refine ⟨t', ?_, hR'⟩
    rw [trace, he]
    exact run_append_eq_some.mpr ⟨t₁, ht₁, ht'⟩

/-! ### Serial runs -/

section Serial
variable {ω : Type*} (next : τ → η → τ) (out : τ → η → List ω)

/-- What the operations say, one after the other. -/
def outputs : τ → List η → List ω
  | _, [] => []
  | t, o :: os => out t o ++ outputs (next t o) os

theorem outputs_append (t : τ) (os os' : List η) :
    outputs next out t (os ++ os') = outputs next out t os ++ outputs next out (os.foldl next t) os' := by
  induction os generalizing t with
  | nil => rfl
  | cons o os ih => simp only [List.cons_append, outputs, ih, List.foldl_cons, List.append_assoc]

/-- From the state `s`, a step does and says what its operations do and say. -/
def Serial (R : σ → τ → Prop) (f : σ → ε → List η) (g : σ → ε → List ω) (s : σ) (e : ε) (s' : σ) :
    Prop :=
  ∀ t, R s t → R s' ((f s e).foldl next t) ∧ g s e = outputs next out t (f s e)

variable {next out} {g : σ → ε → List ω} {φ : σ → ε → σ → Prop} {I : σ → Prop}

/-- **A run of such steps is serial.** -/
theorem Serial.run (hstep : ∀ s e s', I s → step s e = some s' → φ s e s' →
      I s' ∧ Serial next out R f g s e s')
    {s s' : σ} {t : τ} {es : List ε} (hs : I s) (hφ : Along step φ s es)
    (hrun : StepSystem.run step s es = some s') (hR : R s t) :
    R s' ((trace step f s es).foldl next t) ∧
      trace step g s es = outputs next out t (trace step f s es) := by
  induction es generalizing s t with
  | nil => cases hrun; exact ⟨hR, rfl⟩
  | cons e es ih =>
    obtain ⟨s₁, he, hrest⟩ := run_cons_eq_some.mp hrun
    obtain ⟨hφ₁, hφs⟩ := hφ s₁ he
    obtain ⟨hI, hserial⟩ := hstep s e s₁ hs he hφ₁
    obtain ⟨hR₁, hout⟩ := hserial t hR
    obtain ⟨hR', hout'⟩ := ih hI hφs hrest hR₁
    simp only [trace, he, Option.elim, List.foldl_append, outputs_append]
    exact ⟨hR', by rw [hout, hout']⟩

end Serial

end StepSystem
