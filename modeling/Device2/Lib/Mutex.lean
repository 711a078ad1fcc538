/-
Device2/Lib/Mutex.lean

A mutex and the program counters of the threads that use it.  `holds p` says that a
thread at the place `p` is between taking and releasing the mutex; `Owned` says
that the owner is exactly the thread at such a place.  There are three moves: a
thread goes on without touching the mutex, takes it while it is free, or gives it
back, and each keeps `Owned`.
-/
import Mathlib.Logic.Function.Basic
import Mathlib.Tactic.Common

namespace Mutex

variable {ι κ : Type*} {holds : κ → Bool} {owner : Option ι} {pc : ι → κ} {c c' : ι} {p : κ}

/-- The owner of the mutex is the thread at a place that holds it, if there is one. -/
def Owned (holds : κ → Bool) (owner : Option ι) (pc : ι → κ) : Prop :=
  ∀ c, owner = some c ↔ holds (pc c) = true

/-- While the mutex is free nobody is at a place that holds it. -/
theorem Owned.not_holds (h : Owned holds none pc) (c : ι) : holds (pc c) = false := by
  by_contra hc
  exact Option.some_ne_none c ((h c).mpr (by simpa using hc)).symm

/-- **Mutual exclusion.** -/
theorem Owned.unique (h : Owned holds owner pc) (hc : holds (pc c) = true)
    (hc' : holds (pc c') = true) : c = c' :=
  Option.some.inj (((h c).mpr hc).symm.trans ((h c').mpr hc'))

section Moves
variable [DecidableEq ι]

/-- A move that does not touch the mutex. -/
theorem Owned.move (h : Owned holds owner pc) (hp : holds p = holds (pc c)) :
    Owned holds owner (Function.update pc c p) := by
  intro x
  by_cases hx : x = c
  · rw [hx, Function.update_self, hp]; exact h c
  · rw [Function.update_of_ne hx]; exact h x

/-- Taking the mutex while it is free. -/
theorem Owned.take (h : Owned holds none pc) (hp : holds p = true) :
    Owned holds (some c) (Function.update pc c p) := by
  intro x
  by_cases hx : x = c
  · rw [hx, Function.update_self, hp]; simp
  · rw [Function.update_of_ne hx, h.not_holds x]
    simp [Ne.symm hx]

/-- Giving the mutex back. -/
theorem Owned.give (h : Owned holds owner pc) (hc : holds (pc c) = true) (hp : holds p = false) :
    Owned holds none (Function.update pc c p) := by
  intro x
  by_cases hx : x = c
  · rw [hx, Function.update_self, hp]; simp
  · have hother : holds (pc x) ≠ true := fun hxp => hx (h.unique hxp hc)
    rw [Function.update_of_ne hx]
    simp [hother]

end Moves

end Mutex
