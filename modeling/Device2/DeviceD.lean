/-
Device2/DeviceD.lean

What `device_d` is called for.

`main` takes its command from the options: `stop` before `reload`, and otherwise a
start, in the background with `dofork`.  No configuration file has a say in this
(`command_of_settings`): it can give the daemon its address and its files, but it can
neither start one nor send a signal to one.  And a process does what it was called for
as long as it is there (`Belongs`), whatever the others do: only a start in the
foreground ever writes the pid-file under its own number, and only `stop` and `reload`
send a signal (`does_command`).
-/
import Device2.PidFile
import Device2.Settings

namespace Device2

open Std StepSystem Getopt PidFile

namespace DeviceD

/-- `main` of `device_d` up to the parameters. -/
def settings (R : Readers) (args : List Str) (files : Str → ConfFile) : Except Err DaemonSettings := do
  let opts ← deviceDOpts args files
  daemonSettings R opts

/-- What `main` goes on with. -/
def command (stop reload dofork : Bool) : PidFile.Command :=
  if stop ∨ reload then if stop then .stop else .reload else .start dofork

/-! ### The command line decides -/

/-- Options the file of `device_d` does not know are those of the command line. -/
theorem deviceDOpts_unknown {args : List Str} {files : Str → ConfFile} {opts : Opt}
    (h : deviceDOpts args files = .ok opts) : ∃ o, parseOptionsAll deviceDOptions args = .ok (o, []) ∧
      ∀ k ∉ deviceDKnown, (k ∈ opts ↔ k ∈ o) := by
  obtain ⟨⟨o, nonopt⟩, hparse, hrest⟩ := exists_of_bind h
  cases nonopt with
  | cons w ws => cases hrest
  | nil =>
    obtain ⟨-, -, hrest⟩ := exists_of_bind hrest
    obtain ⟨optsf, hconf, hrest⟩ := exists_of_bind hrest
    cases hrest
    refine ⟨o, hparse, fun k hk => ?_⟩
    rw [ExtTreeMap.mem_iff_isSome_getElem?, ExtTreeMap.mem_iff_isSome_getElem?, putMissing_getElem?,
      readConf_unknown hk hconf, Option.or_none]

theorem command_of_settings {R : Readers} {args : List Str} {files : Str → ConfFile} {c : DaemonSettings}
    (h : settings R args files = .ok c) : ∃ o, parseOptionsAll deviceDOptions args = .ok (o, []) ∧
      c.stop = decide ("stop".toList ∈ o) ∧ c.reload = decide ("reload".toList ∈ o) ∧
      c.dofork = decide ("dofork".toList ∈ o) := by
  obtain ⟨opts, hopts, hc⟩ := exists_of_bind h
  obtain ⟨o, hparse, hmem⟩ := deviceDOpts_unknown hopts
  obtain ⟨port, -, hc⟩ := exists_of_bind hc
  obtain ⟨verb, -, hc⟩ := exists_of_bind hc
  obtain ⟨test, -, hc⟩ := exists_of_bind hc
  cases hc
  exact ⟨o, hparse, decide_eq_decide.mpr (hmem _ (by decide)), decide_eq_decide.mpr (hmem _ (by decide)),
    decide_eq_decide.mpr (hmem _ (by decide))⟩

/-! ### A process does what it was called for -/

/-- The places of a process that was called for `cmd`.  A start in the background ends
at the fork; the child has a number of its own. -/
def Belongs : PidFile.Command → PidFile.Pc → Prop
  | .start dofork, .check d | .start dofork, .probe d _ | .start dofork, .unlink d
  | .start dofork, .fork d => d = dofork
  | .start dofork, .write | .start dofork, .flush | .start dofork, .boot
  | .start dofork, .serving | .start dofork, .leaving => dofork = false
  | .stop, .find st | .stop, .kill st _ => st = true
  | .reload, .find st | .reload, .kill st _ => st = false
  | .stop, .wait _ | .stop, .unlinkStale | .reload, .unlinkStale => True
  | _, .done => True
  | _, _ => False

theorem belongs_done (cmd : PidFile.Command) : Belongs cmd .done := by
  cases cmd <;> trivial

theorem belongs_entry (cmd : PidFile.Command) : Belongs cmd (World.entry cmd) := by
  cases cmd <;> rfl

/-- A signal makes a daemon leave, and leaves all others where they are. -/
theorem Belongs.leaves {cmd : PidFile.Command} {pc pc' : PidFile.Pc} (h : Belongs cmd pc)
    (hpc : pc' = pc ∨ pc = .serving ∧ pc' = .leaving) : Belongs cmd pc' := by
  rcases hpc with rfl | ⟨rfl, rfl⟩
  · exact h
  · cases cmd <;> exact h

variable {s t : World} {p p' : Pid} {cmd : PidFile.Command} {pc pc' : PidFile.Pc}

theorem alive_of_pc (hpc : s.pc p = some pc) : s.Alive p := .inl (by rw [hpc]; rfl)

theorem exit_pc (h : (s.exit p').pc p = some pc') : s.pc p = some pc' := by
  by_cases he : p = p'
  · subst he
    rw [World.exit] at h
    dsimp only at h
    rw [Function.update_self] at h
    cases h
  · rw [World.exit] at h
    dsimp only at h
    rwa [Function.update_of_ne he] at h

/-- Where a process was before a signal. -/
theorem deliver_pc {hup valid : Bool} {q : Pid} (h : (s.deliver hup valid q).pc p = some pc') :
    ∃ pc, s.pc p = some pc ∧ (pc' = pc ∨ pc = .serving ∧ pc' = .leaving) := by
  rw [World.deliver] at h
  split at h
  · exact ⟨pc', h, .inl rfl⟩
  · rename_i hserving
    split at h
    · exact ⟨pc', h, .inl rfl⟩
    · by_cases he : p = q
      · subst he
        rw [World.goto_pc_self] at h
        cases h
        exact ⟨_, hserving, .inr ⟨rfl, rfl⟩⟩
      · rw [World.goto_pc_of_ne he] at h
        exact ⟨pc', h, .inl rfl⟩
  · exact ⟨pc', exit_pc h, .inl rfl⟩

theorem foldl_deliver_pc {hup valid : Bool} {qs : List Pid}
    (h : (qs.foldl (World.deliver hup valid) s).pc p = some pc') :
    ∃ pc, s.pc p = some pc ∧ (pc' = pc ∨ pc = .serving ∧ pc' = .leaving) := by
  induction qs generalizing s with
  | nil => exact ⟨pc', h, .inl rfl⟩
  | cons q qs ih =>
    obtain ⟨pc₁, h₁, hlater⟩ := ih h
    obtain ⟨pc, hpc, hfirst⟩ := deliver_pc h₁
    refine ⟨pc, hpc, ?_⟩
    -- nobody leaves twice
    rcases hfirst with rfl | ⟨rfl, rfl⟩ <;> rcases hlater with rfl | ⟨hserving, rfl⟩
    · exact .inl rfl
    · exact .inr ⟨hserving, rfl⟩
    · exact .inr ⟨rfl, rfl⟩
    · cases hserving

/-- The own step of a process. -/
theorem Belongs.move (h : Belongs cmd pc) (hpc : s.pc p = some pc) {a : World.Answers}
    (hm : s.move p a pc = some t) (ht : t.pc p = some pc') : Belongs cmd pc' := by
  have hgoto : ∀ {u : World} {d : PidFile.Pc}, t = u.goto p d → pc' = d := by
    rintro u d rfl
    rw [World.goto_pc_self] at ht
    exact (Option.some.inj ht).symm
  cases pc with
  | check d =>
    simp only [World.move] at hm
    split at hm <;> cases hm <;> cases hgoto rfl
    · cases cmd <;> exact h
    · split <;> cases cmd <;> exact h
  | probe d q =>
    cases hm
    cases hgoto rfl
    split
    · exact belongs_done cmd
    · cases cmd <;> exact h
  | unlink d =>
    cases hm
    cases hgoto rfl
    cases cmd <;> exact h
  | fork d =>
    cases d with
    | false =>
      cases hm
      cases hgoto rfl
      cases cmd <;> first | exact h.symm | exact h
    | true =>
      simp only [World.move] at hm
      split at hm
      · cases hm
        cases hgoto rfl
        exact belongs_done cmd
      · split at hm
        · cases hm
        · rename_i hfree
          cases hm
          -- the child is another process
          have hne : p ≠ a.child := fun he => hfree (.inr (he ▸ alive_of_pc hpc))
          rw [World.goto_pc_of_ne hne, World.goto_pc_self] at ht
          cases ht
          exact belongs_done cmd
  | write =>
    simp only [World.move] at hm
    split at hm <;> cases hm <;> cases hgoto rfl
    · cases cmd <;> exact h
    · exact belongs_done cmd
  | flush =>
    cases hm
    cases hgoto rfl
    cases cmd <;> exact h
  | boot =>
    cases hm
    cases hgoto rfl
    split <;> cases cmd <;> exact h
  | serving => cases hm
  | leaving =>
    cases hm
    cases hgoto rfl
    exact belongs_done cmd
  | find st =>
    simp only [World.move] at hm
    split at hm <;> cases hm <;> cases hgoto rfl
    · exact belongs_done cmd
    · split
      · cases cmd <;> exact h
      · exact belongs_done cmd
  | kill st q =>
    simp only [World.move] at hm
    split at hm
    · split at hm
      · rename_i hend
        cases hm
        rw [hend] at ht
        cases ht
      · cases hm
        cases hgoto rfl
        split
        · rename_i hst
          subst hst
          cases cmd <;> trivial
        · exact belongs_done cmd
    · cases hm
      cases hgoto rfl
      split
      · cases cmd <;> trivial
      · exact belongs_done cmd
  | unlinkStale =>
    cases hm
    cases hgoto rfl
    exact belongs_done cmd
  | wait q =>
    simp only [World.move] at hm
    split at hm
    · cases hm
    · cases hm
      cases hgoto rfl
      exact belongs_done cmd
  | done =>
    cases hm
    have hdone := exit_pc ht
    rw [hpc] at hdone
    cases hdone
    exact h

/-- A step of another process. -/
theorem move_other {a : World.Answers} {d : PidFile.Pc} (hne : p ≠ p') (hpc : s.pc p = some pc)
    (hm : s.move p' a d = some t) (ht : t.pc p = some pc') : pc' = pc ∨ pc = .serving ∧ pc' = .leaving := by
  have hsame : s.pc p = some pc' → pc' = pc := fun hs => Option.some.inj (hs.symm.trans hpc)
  have hgoto : ∀ {u : World} {d : PidFile.Pc}, (u.goto p' d).pc p = some pc' → u.pc p = some pc' := by
    intro u d hu
    rwa [World.goto_pc_of_ne hne] at hu
  have hsignal : (∃ pc, s.pc p = some pc ∧ (pc' = pc ∨ pc = .serving ∧ pc' = .leaving)) →
      pc' = pc ∨ pc = .serving ∧ pc' = .leaving := by
    rintro ⟨pc₀, hpc₀, h⟩
    cases hpc.symm.trans hpc₀
    exact h
  have hremove : ∀ {ok : Bool}, (s.removeFile ok).pc p = some pc' → s.pc p = some pc' := by
    intro ok hu
    rwa [World.removeFile_pc] at hu
  cases d with
  | check _ | write | find _ =>
    simp only [World.move] at hm
    split at hm <;> cases hm <;> exact .inl (hsame (hgoto ht))
  | probe _ _ | flush | boot =>
    cases hm
    exact .inl (hsame (hgoto ht))
  | unlink _ | leaving | unlinkStale =>
    cases hm
    exact .inl (hsame (hremove (hgoto ht)))
  | fork d =>
    cases d with
    | false => cases hm; exact .inl (hsame (hgoto ht))
    | true =>
      simp only [World.move] at hm
      split at hm
      · cases hm
        exact .inl (hsame (hgoto ht))
      · split at hm
        · cases hm
        · rename_i hfree
          cases hm
          have hchild : p ≠ a.child := fun he => hfree (.inr (he ▸ alive_of_pc hpc))
          rw [World.goto_pc_of_ne hchild] at ht
          exact .inl (hsame (hgoto ht))
  | serving => cases hm
  | kill st q =>
    simp only [World.move] at hm
    split at hm
    · split at hm <;> cases hm
      · exact hsignal (foldl_deliver_pc ht)
      · exact hsignal (foldl_deliver_pc (hgoto ht))
    · cases hm
      exact .inl (hsame (hgoto ht))
  | wait q =>
    simp only [World.move] at hm
    split at hm <;> cases hm
    exact .inl (hsame (hgoto ht))
  | done =>
    cases hm
    exact .inl (hsame (exit_pc ht))

/-- **A step**, after which the process is still there. -/
theorem Belongs.step (h : Belongs cmd pc) (hpc : s.pc p = some pc) {e : World.Happening}
    (he : s.step e = some t) (ht : t.pc p = some pc') : Belongs cmd pc' := by
  have hsame : s.pc p = some pc' → Belongs cmd pc' := fun hs => Option.some.inj (hs.symm.trans hpc) ▸ h
  cases e with
  | spawn p' cmd' =>
    simp only [World.step] at he
    split at he
    · cases he
    · rename_i hfree
      cases he
      have hne : p ≠ p' := fun he => hfree (.inr (he ▸ alive_of_pc hpc))
      rw [World.goto_pc_of_ne hne] at ht
      exact hsame ht
  | move p' a =>
    obtain ⟨d, hd, hm⟩ := Option.bind_eq_some_iff.mp he
    by_cases hp : p = p'
    · subst hp
      rw [hpc] at hd
      cases hd
      exact h.move hpc hm ht
    · exact h.leaves (move_other hp hpc hm ht)
  | signal q hup valid =>
    cases he
    obtain ⟨pc₀, hpc₀, hleave⟩ := deliver_pc ht
    cases hpc.symm.trans hpc₀
    exact h.leaves hleave
  | crash q =>
    cases he
    exact hsame (exit_pc ht)
  | born q =>
    simp only [World.step] at he
    split at he <;> cases he
    exact hsame ht
  | gone q =>
    cases he
    exact hsame ht

/-- The process is still there after the step. -/
def Remains (p : Pid) (_ : World) (_ : World.Happening) (t : World) : Prop := (t.pc p).isSome = true

/-- A process from its command on, for as long as it is there. -/
theorem run_belongs {s' : World} {es : List World.Happening}
    (hspawn : s.step (.spawn p cmd) = some s') (hrun : run World.step s' es = some t)
    (hthere : Along World.step (Remains p) s' es) : ∃ pc, t.pc p = some pc ∧ Belongs cmd pc := by
  have hstart : ∃ pc, s'.pc p = some pc ∧ Belongs cmd pc := by
    simp only [World.step] at hspawn
    split at hspawn <;> cases hspawn
    exact ⟨_, World.goto_pc_self, belongs_entry cmd⟩
  refine run_invariant_along (I := fun s => ∃ pc, s.pc p = some pc ∧ Belongs cmd pc) ?_ hstart hthere hrun
  rintro s e t ⟨pc, hpc, h⟩ he ht
  obtain ⟨pc', hpc'⟩ := Option.isSome_iff_exists.mp ht
  exact ⟨pc', hpc', h.step hpc he hpc'⟩

/-- **The command line decides what a process does.**  If `main` comes to the
parameters, the command is that of the options, whatever the files say.  And while the
process is there, whatever happens around it: it writes and removes the pid-file as its
own only if this is a start in the foreground, it signals only after `stop` or `reload`,
and then with the right signal. -/
theorem does_command {R : Readers} {args : List Str} {files : Str → ConfFile} {c : DaemonSettings}
    (h : settings R args files = .ok c) :
    let cmd := command c.stop c.reload c.dofork
    (∃ o, parseOptionsAll deviceDOptions args = .ok (o, []) ∧
      cmd = command ("stop".toList ∈ o) ("reload".toList ∈ o) ("dofork".toList ∈ o)) ∧
    ∀ (p : Pid) (s s' t : World) (es : List World.Happening), s.step (.spawn p cmd) = some s' →
      run World.step s' es = some t → Along World.step (Remains p) s' es →
      (t.Holds p → cmd = .start false) ∧
      ∀ stop q, t.pc p = some (.kill stop q) → cmd = if stop then .stop else .reload := by
  intro cmd
  constructor
  · obtain ⟨o, hparse, hstop, hreload, hdofork⟩ := command_of_settings h
    refine ⟨o, hparse, ?_⟩
    show command c.stop c.reload c.dofork = _
    rw [hstop, hreload, hdofork]
  · intro p s s' t es hspawn hrun hthere
    obtain ⟨pc, hpc, hbelongs⟩ := run_belongs hspawn hrun hthere
    generalize cmd = cmd at hbelongs
    refine ⟨fun ⟨pc', hpc', hholds⟩ => ?_, fun stop q hkill => ?_⟩
    · rw [hpc] at hpc'
      cases hpc'
      cases cmd with
      | start =>
        cases pc <;> cases hholds <;> exact congrArg PidFile.Command.start hbelongs
      | stop | reload => cases pc <;> cases hholds <;> exact hbelongs.elim
    · rw [hpc] at hkill
      cases hkill
      cases cmd with
      | start => exact hbelongs.elim
      | stop => cases hbelongs; rfl
      | reload => cases hbelongs; rfl

/-- `device_d -S` with an empty file. -/
theorem does_command_test :
    ∃ c, settings decimalReaders ["-S".toList] (fun _ => some (confLines nul [])) = .ok c ∧
      ∀ (p : Pid) (s s' t : World) (es : List World.Happening), s.step (.spawn p .stop) = some s' →
        run World.step s' es = some t → Along World.step (Remains p) s' es → ¬ t.Holds p := by
  let items : List (Item deviceDOptions) := [.flags ⟨⟨"stop", false, 'S'⟩, 'S', by decide, rfl, rfl⟩ []]
  obtain ⟨opts, hopts, hget⟩ : ∃ opts : Opt,
      deviceDOpts ["-S".toList] (fun _ => some (confLines nul [])) = .ok opts ∧
        ∀ k, opts[k]? = effective k items [] :=
    ⟨_, deviceDOpts_written nul items [] (by unfold NoHelp; decide) (fun _ _ hmem => by cases hmem) rfl,
      putMissing_effective items []⟩
  have hport : optGet decimalReaders.strToInt opts "port" 8082 = .ok 8082 := by
    rw [optGet, hget]; rfl
  have hverb : optGet decimalReaders.strToInt opts "verbose" 1 = .ok 1 := by
    rw [optGet, hget]; rfl
  have htest : optGet decimalReaders.strToBool opts "test" false = .ok false := by
    rw [optGet, hget]; rfl
  have hstop : "stop".toList ∈ opts := by
    rw [ExtTreeMap.mem_iff_isSome_getElem?, hget]; rfl
  obtain ⟨c, hc, hcmd⟩ : ∃ c, settings decimalReaders ["-S".toList]
      (fun _ => some (confLines nul [])) = .ok c ∧ command c.stop c.reload c.dofork = .stop := by
    rw [settings, hopts]
    show ∃ c, daemonSettings decimalReaders opts = .ok c ∧ _
    rw [daemonSettings, hport, hverb, htest]
    refine ⟨_, rfl, ?_⟩
    dsimp only
    rw [decide_eq_true hstop]
    rfl
  refine ⟨c, hc, fun p s s' t es hspawn hrun hthere hholds => ?_⟩
  have := ((does_command hc).2 p s s' t es (by rw [hcmd]; exact hspawn) hrun hthere).1 hholds
  rw [hcmd] at this
  cases this

end DeviceD

end Device2
