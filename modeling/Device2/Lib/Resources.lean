/-
Device2/Lib/Resources.lean

Programs that acquire handles and may throw.

A program gives a value or an exception, and changes the set of open handles
(`Prog`).  A handle comes from a supply of handles that are not open (`Supply`), and
stays open until it is released; an exception releases nothing.

`NoLeak` is what one asks of a program that is to keep one handle: if it throws, the
same handles are open as before, and if it returns, one more, the one it keeps.
There is a rule for each of the shapes such programs have: a check in front of the
handle (`noLeak_check_bind`) or behind it (`noLeak_bind_check_iff`), checks under a
handler that closes it (`noLeak_guarded`), and a handle that is dropped for the next
one (`not_noLeak_after_acquire`).

Handles that were leaked add up: after any number of uses, each closed again when it
was successful, the same handles are open exactly if no use leaks (`useAll_eq_iff`).
-/
import Mathlib.Data.Finset.Basic
import Mathlib.Tactic.Common

namespace Resources

/-! ### Programs -/

/-- Handles that are not open. -/
structure Supply (H : Type) where
  fresh : Finset H → H
  fresh_notMem : ∀ s, fresh s ∉ s

/-- A program over open handles `H`, with exceptions `E`. -/
abbrev Prog (H E : Type) := ExceptT E (StateM (Finset H))

variable {H E α β : Type} {s t : Finset H}

/-- Result and open handles of a program started with `s` open. -/
def run (x : Prog H E α) (s : Finset H) : Except E α × Finset H := (x.run.run s).run

/-- A computation that has nothing to do with handles. -/
def check (r : Except E α) : Prog H E α := ExceptT.mk (pure r)

@[simp] theorem run_check (r : Except E α) (s : Finset H) : run (check r) s = (r, s) := rfl

@[simp] theorem run_throw (e : E) (s : Finset H) :
    run (throw e : Prog H E α) s = (.error e, s) := rfl

theorem run_bind (x : Prog H E α) (f : α → Prog H E β) (s : Finset H) :
    run (x >>= f) s =
      match run x s with
      | (.ok a, t) => run (f a) t
      | (.error e, t) => (.error e, t) := by
  simp only [run, ExceptT.run_bind, StateT.run_bind]
  rcases StateT.run (ExceptT.run x) s with ⟨a | e, t⟩ <;> rfl

theorem run_tryCatch (x : Prog H E α) (f : E → Prog H E α) (s : Finset H) :
    run (tryCatch x f) s =
      match run x s with
      | (.ok a, t) => (.ok a, t)
      | (.error e, t) => run (f e) t := by
  simp only [run, tryCatch, tryCatchThe, MonadExceptOf.tryCatch, ExceptT.tryCatch,
    ExceptT.run_mk, StateT.run_bind]
  show _ = match StateT.run x s with
    | (.ok a, t) => _
    | (.error e, t) => _
  rcases StateT.run x s with ⟨a | e, t⟩ <;> rfl

theorem run_bind_of_ok {x : Prog H E α} {a : α} (h : run x s = (.ok a, t)) (f : α → Prog H E β) :
    run (x >>= f) s = run (f a) t := by
  rw [run_bind, h]

theorem run_bind_of_error {x : Prog H E α} {e : E} (h : run x s = (.error e, t))
    (f : α → Prog H E β) : run (x >>= f) s = (.error e, t) := by
  rw [run_bind, h]

section Handles
variable [DecidableEq H]

/-- Open a handle, unless the system has an error. -/
def acquire (S : Supply H) : Option E → Prog H E H
  | some e => throw e
  | none => do
    let s ← get
    set (insert (S.fresh s) s)
    return S.fresh s

/-- Close a handle. -/
def release (h : H) : Prog H E Unit := modify fun s => s.erase h

theorem run_acquire_none (S : Supply H) (s : Finset H) :
    run (acquire S none : Prog H E H) s = (.ok (S.fresh s), insert (S.fresh s) s) := rfl

theorem run_acquire_some (S : Supply H) (e : E) (s : Finset H) :
    run (acquire S (some e)) s = (.error e, s) := rfl

theorem run_release (h : H) (s : Finset H) :
    run (release h : Prog H E Unit) s = (.ok (), s.erase h) := rfl

/-! ### Programs that keep one handle -/

/-- The result keeps a handle that was not open before, and nothing that was open has
been closed. -/
structure Acquires (kept : α → H) (x : Prog H E α) : Prop where
  grows : ∀ s, s ⊆ (run x s).2
  keeps : ∀ {s a}, (run x s).1 = .ok a → kept a ∈ (run x s).2 ∧ kept a ∉ s

/-- After an exception the same handles are open as before; otherwise one more, the
one that is kept. -/
def NoLeak (kept : α → H) (s : Finset H) : Except E α × Finset H → Prop
  | (.error _, t) => t = s
  | (.ok a, t) => kept a ∉ s ∧ t = insert (kept a) s

variable {S : Supply H} {kept : α → H} {kept' : β → H}

theorem Acquires.of_noLeak {x : Prog H E α} (h : ∀ s, NoLeak kept s (run x s)) :
    Acquires kept x := by
  refine ⟨fun s => ?_, ?_⟩
  · have hs := h s
    rcases e : run x s with ⟨e' | a, t⟩
    · rw [e] at hs
      exact hs.symm.subset
    · rw [e] at hs
      rw [hs.2]
      exact Finset.subset_insert _ s
  · intro s a ha
    have hs := h s
    rcases e : run x s with ⟨e' | b, t⟩
    · rw [e] at ha
      cases ha
    · rw [e] at ha hs
      cases ha
      exact ⟨hs.2 ▸ Finset.mem_insert_self _ s, hs.1⟩

theorem noLeak_acquire (fail : Option E) : NoLeak id s (run (acquire S fail) s) := by
  cases fail with
  | some e => exact rfl
  | none => exact ⟨S.fresh_notMem s, rfl⟩

theorem acquires_acquire (fail : Option E) : Acquires id (acquire S fail) :=
  .of_noLeak fun _ => noLeak_acquire fail

/-! #### A check in front -/

omit [DecidableEq H] in
theorem Acquires.check_bind {r : Except E β} {f : β → Prog H E α} (h : ∀ b, Acquires kept (f b)) :
    Acquires kept (check r >>= f) := by
  rcases r with e | b
  · refine ⟨fun s => ?_, ?_⟩
    · rw [run_bind_of_error (run_check _ s)]
    · intro s a ha
      rw [run_bind_of_error (run_check _ s)] at ha
      cases ha
  · refine ⟨fun s => ?_, ?_⟩
    · rw [run_bind_of_ok (run_check _ s)]
      exact (h b).grows s
    · intro s a ha
      rw [run_bind_of_ok (run_check _ s)] at ha ⊢
      exact (h b).keeps ha

/-- Nothing can leak before the check is passed. -/
theorem noLeak_check_bind {r : Except E β} {f : β → Prog H E α} :
    NoLeak kept s (run (check r >>= f) s) ↔ ∀ b, r = .ok b → NoLeak kept s (run (f b) s) := by
  rcases r with e | b
  · rw [run_bind_of_error (run_check _ s)]
    exact iff_of_true rfl fun b hb => by cases hb
  · rw [run_bind_of_ok (run_check _ s)]
    exact ⟨fun h c hc => by cases hc; exact h, fun h => h b rfl⟩

/-! #### A check behind -/

section Behind
variable {x : Prog H E β} {r : β → Except E α}

omit [DecidableEq H] in
theorem Acquires.bind_check (h : Acquires kept' x) (hk : ∀ b a, r b = .ok a → kept a = kept' b) :
    Acquires kept (x >>= fun b => check (r b)) := by
  refine ⟨fun s => ?_, ?_⟩
  · have hgrows := h.grows s
    rcases e : run x s with ⟨e' | b, t⟩
    · rw [e] at hgrows
      rw [run_bind_of_error e]
      exact hgrows
    · rw [e] at hgrows
      rw [run_bind_of_ok e]
      exact hgrows
  · intro s a ha
    rcases e : run x s with ⟨e' | b, t⟩
    · rw [run_bind_of_error e] at ha
      cases ha
    · rw [run_bind_of_ok e] at ha ⊢
      have hkeeps := h.keeps (congrArg Prod.fst e)
      rw [e] at hkeeps
      rw [hk b a ha]
      exact hkeeps

/-- A handle that has been opened is leaked by a check that throws. -/
theorem noLeak_bind_check_iff (h : Acquires kept' x)
    (hk : ∀ b a, r b = .ok a → kept a = kept' b) :
    NoLeak kept s (run (x >>= fun b => check (r b)) s) ↔
      NoLeak kept' s (run x s) ∧ ∀ b, (run x s).1 = .ok b → ∃ a, r b = .ok a := by
  rcases e : run x s with ⟨e' | b, t⟩
  · rw [run_bind_of_error e]
    exact ⟨fun hs => ⟨hs, fun b hb => by cases hb⟩, fun hs => hs.1⟩
  · rw [run_bind_of_ok e, run_check]
    have hkeeps := h.keeps (congrArg Prod.fst e)
    rw [e] at hkeeps
    rcases e' : r b with e'' | a
    · constructor
      · intro hs
        exact absurd (hs ▸ hkeeps.1) hkeeps.2
      · rintro ⟨-, hall⟩
        obtain ⟨a, ha⟩ := hall b rfl
        rw [e'] at ha
        cases ha
    · have hab := hk b a e'
      constructor
      · rintro ⟨hnew, ht⟩
        rw [hab] at hnew ht
        exact ⟨⟨hnew, ht⟩, fun c hc => by cases hc; exact ⟨a, e'⟩⟩
      · rintro ⟨⟨hnew, ht⟩, -⟩
        rw [← hab] at hnew ht
        exact ⟨hnew, ht⟩

end Behind

/-! #### The handle alone -/

omit [DecidableEq H] in
theorem Acquires.keep {x : Prog H E α} (h : Acquires kept x) :
    Acquires id (do let a ← x; return kept a) :=
  h.bind_check fun a b hb => by cases hb; rfl

theorem noLeak_keep_iff {x : Prog H E α} (h : Acquires kept x) :
    NoLeak id s (run (do let a ← x; return kept a) s) ↔ NoLeak kept s (run x s) := by
  have hbehind : NoLeak id s (run (x >>= fun a => check (.ok (kept a))) s) ↔
      NoLeak kept s (run x s) ∧ ∀ a, (run x s).1 = .ok a → ∃ b, Except.ok (kept a) = .ok b :=
    noLeak_bind_check_iff h fun a b hb => by cases hb; rfl
  exact hbehind.trans (and_iff_left fun a _ => ⟨_, rfl⟩)

/-! #### Checks under a handler -/

section Guarded
variable {r : H → Except E α} {fail : Option E}

/-- Open a handle and go through the checks; a check that throws closes it again. -/
def guarded (S : Supply H) (fail : Option E) (r : H → Except E α) : Prog H E α := do
  let h ← acquire S fail
  try check (r h)
  catch e =>
    release h
    throw e

theorem run_guarded_of_ok {a : α} (h : r (S.fresh s) = .ok a) :
    run (guarded S none r) s = (.ok a, insert (S.fresh s) s) := by
  rw [guarded, run_bind_of_ok (run_acquire_none S s), run_tryCatch, run_check, h]

theorem run_guarded_of_error {e : E} (h : r (S.fresh s) = .error e) :
    run (guarded S none r) s = (.error e, s) := by
  rw [guarded, run_bind_of_ok (run_acquire_none S s), run_tryCatch, run_check, h]
  show run (release _ >>= fun _ => throw e) _ = _
  rw [run_bind_of_ok (run_release _ _), run_throw, Finset.erase_insert (S.fresh_notMem s)]

theorem run_guarded_of_fail (e : E) : run (guarded S (some e) r) s = (.error e, s) := by
  rw [guarded, run_bind_of_error (run_acquire_some S e s)]

/-- **The handler closes what is open**, whatever the checks are. -/
theorem noLeak_guarded (hk : ∀ h a, r h = .ok a → kept a = h) :
    NoLeak kept s (run (guarded S fail r) s) := by
  cases fail with
  | some e => rw [run_guarded_of_fail]; exact rfl
  | none =>
    rcases h : r (S.fresh s) with e | a
    · rw [run_guarded_of_error h]
      exact rfl
    · rw [run_guarded_of_ok h]
      have hkept := hk _ _ h
      exact ⟨hkept ▸ S.fresh_notMem s, by rw [hkept]⟩

end Guarded

/-! #### A handle that is dropped -/

section Dropped
variable {y : Prog H E α}

theorem Acquires.after_acquire (h : Acquires kept y) :
    Acquires kept (acquire S none >>= fun _ => y) := by
  refine ⟨fun s => ?_, ?_⟩
  · rw [run_bind_of_ok (run_acquire_none S s)]
    exact (Finset.subset_insert _ s).trans (h.grows _)
  · intro s a ha
    rw [run_bind_of_ok (run_acquire_none S s)] at ha ⊢
    obtain ⟨hopen, hnew⟩ := h.keeps ha
    exact ⟨hopen, fun hs => hnew (Finset.mem_insert_of_mem hs)⟩

/-- To go on without the handle is to leak it. -/
theorem not_noLeak_after_acquire (h : Acquires kept y) :
    ¬ NoLeak kept s (run (acquire S none >>= fun _ => y) s) := by
  rw [run_bind_of_ok (run_acquire_none S s)]
  have hopen : S.fresh s ∈ (run y (insert (S.fresh s) s)).2 :=
    h.grows _ (Finset.mem_insert_self _ s)
  rcases e : run y (insert (S.fresh s) s) with ⟨e' | a, t⟩
  · rw [e] at hopen
    intro ht
    have hts : t = s := ht
    exact S.fresh_notMem s (hts ▸ hopen)
  · have hnew := (h.keeps (congrArg Prod.fst e)).2
    rw [e] at hopen
    rintro ⟨-, ht⟩
    -- the handle is open and was not open before, so it would be the one kept
    rcases Finset.mem_insert.mp (ht ▸ hopen) with heq | hmem
    · exact hnew (heq ▸ Finset.mem_insert_self _ s)
    · exact S.fresh_notMem s hmem

end Dropped

/-! ### Any number of uses -/

/-- Run the program, and close what it kept. -/
def useOnce (kept : α → H) (x : Prog H E α) (s : Finset H) : Finset H :=
  match run x s with
  | (.error _, t) => t
  | (.ok a, t) => t.erase (kept a)

/-- One use after another, of the programs `x i` for the `i` in the list. -/
def useAll {ι : Type} (kept : α → H) (x : ι → Prog H E α) (is : List ι) (s : Finset H) : Finset H :=
  is.foldl (fun s i => useOnce kept (x i) s) s

section Uses
variable {x : Prog H E α}

theorem subset_useOnce (h : Acquires kept x) (s : Finset H) : s ⊆ useOnce kept x s := by
  have hgrows := h.grows s
  rw [useOnce]
  rcases e : run x s with ⟨e' | a, t⟩
  · rw [e] at hgrows
    exact hgrows
  · have hnew := (h.keeps (congrArg Prod.fst e)).2
    rw [e] at hgrows
    exact fun c hc => Finset.mem_erase.mpr ⟨fun hca => hnew (hca ▸ hc), hgrows hc⟩

theorem useOnce_eq_iff (h : Acquires kept x) :
    useOnce kept x s = s ↔ NoLeak kept s (run x s) := by
  rw [useOnce]
  rcases e : run x s with ⟨e' | a, t⟩
  · exact Iff.rfl
  · obtain ⟨hopen, hnew⟩ := h.keeps (congrArg Prod.fst e)
    rw [e] at hopen
    constructor
    · intro hs
      have ht : t.erase (kept a) = s := hs
      exact ⟨hnew, by rw [← ht, Finset.insert_erase hopen]⟩
    · rintro ⟨-, ht⟩
      show t.erase (kept a) = s
      rw [ht, Finset.erase_insert hnew]

variable {ι : Type} {xs : ι → Prog H E α} {is : List ι} {P : ι → Prop}

theorem subset_useAll (h : ∀ i, Acquires kept (xs i)) (is : List ι) (s : Finset H) :
    s ⊆ useAll kept xs is s := by
  induction is generalizing s with
  | nil => exact Finset.Subset.refl s
  | cons i is ih => exact (subset_useOnce (h i) s).trans (ih _)

/-- **Leaks add up**: after some uses the same handles are open as before exactly if
no use leaks. -/
theorem useAll_eq_iff (h : ∀ i, Acquires kept (xs i))
    (hP : ∀ i s, NoLeak kept s (run (xs i) s) ↔ P i) (s : Finset H) :
    useAll kept xs is s = s ↔ ∀ i ∈ is, P i := by
  induction is generalizing s with
  | nil => exact iff_of_true rfl fun i hi => absurd hi List.not_mem_nil
  | cons i is ih =>
    rw [List.forall_mem_cons, ← hP i s, ← useOnce_eq_iff (h i)]
    show useAll kept xs is (useOnce kept (xs i) s) = s ↔ _
    constructor
    · intro hs
      -- what the first use leaks would still be open at the end
      have hone : useOnce kept (xs i) s = s :=
        Finset.Subset.antisymm ((subset_useAll h is _).trans hs.subset) (subset_useOnce (h i) s)
      rw [hone] at hs
      exact ⟨hone, (ih s).mp hs⟩
    · rintro ⟨hone, hall⟩
      rw [hone]
      exact (ih s).mpr hall

end Uses

end Handles

end Resources
