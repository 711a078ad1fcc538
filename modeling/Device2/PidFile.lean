/-
Device2/PidFile.lean

The pid-file: `main` of `device_d` (`server/device_d.cpp`) from the options to the main
loop, for many processes at once.

A process that starts looks for a pid-file, asks the system for the process in it,
removes the file if there is none, perhaps forks, and writes its own number.  This takes
two steps: the file is empty when it has been opened, and the number is in it when it is
closed.  From then on (`mypid`) the process removes the file when it leaves.  `stop` and
`reload` read the file and send a signal; they remove it if nobody is there.  Each of
these is a step of its own (`Pc`), and between two of them anything can happen: other
daemons run, leave or crash, and process numbers are used again.

The file is not a lock: two processes can both find it missing, and the one that fails
to bind its port removes the file of the other (`overlapping_starts`).  A crash between
the two steps leaves an empty file behind, from which no number can be read; and a start
that may not signal the daemon takes it for dead (`Answers.permitted`).  But as long as
commands are given one after the other, with the rights for them and with room on the
disk, there is at most one daemon, and the file names it (`single_instance`).

The path is not empty, and what is in the file was written by a `device_d`.
-/
import Device2.Lib.StepSystem
import Mathlib.Data.Finset.Basic
import Mathlib.Logic.Function.Basic

namespace Device2

namespace PidFile

open StepSystem

/-! ### Processes -/

/-- A process number; 0 is none. -/
abbrev Pid := Nat

/-- What the program was called for. -/
inductive Command
  | start (dofork : Bool)
  | stop
  | reload

/-- Where a process is.  What it has read from the file is `none` if the file was empty:
then `pf >> pid` has left the variable without a value. -/
inductive Pc
  /-- Before the pid-file is opened. -/
  | check (dofork : Bool)
  /-- Before `kill(q, 0)`. -/
  | probe (dofork : Bool) (q : Option Pid)
  /-- Before the stale file is removed. -/
  | unlink (dofork : Bool)
  | fork (dofork : Bool)
  /-- Before the file is opened. -/
  | write
  /-- Before the number is in the file. -/
  | flush
  /-- The devices and the HTTP server are made; there are no signal handlers. -/
  | boot
  | serving
  /-- Before the own file is removed. -/
  | leaving
  /-- `stop` (or `reload`), before the file is opened. -/
  | find (stop : Bool)
  /-- Before the signal is sent. -/
  | kill (stop : Bool) (q : Option Pid)
  | unlinkStale
  /-- `stop` waits for the end of the process. -/
  | wait (q : Option Pid)
  /-- Nothing more to do. -/
  | done
  deriving DecidableEq

/-- The processes of `device_d`, the other ones, and the pid-file with the number in it. -/
structure World where
  pc : Pid → Option Pc
  others : Finset Pid
  file : Option (Option Pid)

namespace World

/-- There is a process with this number. -/
def Alive (s : World) (q : Pid) : Prop := (s.pc q).isSome = true ∨ q ∈ s.others

instance (s : World) (q : Pid) : Decidable (s.Alive q) := by unfold Alive; infer_instance

def goto (p : Pid) (c : Pc) (s : World) : World := { s with pc := Function.update s.pc p (some c) }

/-- The process ends. -/
def exit (p : Pid) (s : World) : World := { s with pc := Function.update s.pc p none }

def setFile (f : Option (Option Pid)) (s : World) : World := { s with file := f }

/-- `remove(pidfile)`, which may fail. -/
def removeFile (ok : Bool) (s : World) : World := if ok then s.setFile none else s

/-- A signal for `q`.  Only in the main loop there are handlers that return or leave it
in the regular way: `SIGHUP` stays, if the device file is valid. -/
def deliver (hup valid : Bool) (s : World) (q : Pid) : World :=
  match s.pc q with
  | none => s
  | some .serving => if hup && valid then s else s.goto q .leaving
  | some _ => s.exit q

/-- What the system answers during a step. -/
structure Answers where
  /-- The number of a forked child. -/
  child : Pid := 0
  /-- A call that can fail succeeds. -/
  ok : Bool := true
  /-- The device file is valid. -/
  valid : Bool := true
  /-- The process may read the pid-file, and signal the process in it. -/
  permitted : Bool := true
  /-- Who gets a signal sent to a number that was not read. -/
  receivers : List Pid := []

/-- `kill(q, 0) == 0`. -/
def Kills (s : World) (a : Answers) : Option Pid → Prop
  | some q => s.Alive q ∧ a.permitted = true
  | none => a.ok = true

instance (s : World) (a : Answers) : ∀ q, Decidable (s.Kills a q)
  | some q => inferInstanceAs (Decidable (s.Alive q ∧ a.permitted = true))
  | none => inferInstanceAs (Decidable (a.ok = true))

/-- The error of `kill` is `ESRCH`. -/
def NoProcess (s : World) (a : Answers) : Option Pid → Prop
  | some q => ¬ s.Alive q
  | none => a.permitted = true

instance (s : World) (a : Answers) : ∀ q, Decidable (s.NoProcess a q)
  | some q => inferInstanceAs (Decidable (¬ s.Alive q))
  | none => inferInstanceAs (Decidable (a.permitted = true))

/-- The next step of a process. -/
def move (p : Pid) (a : Answers) (s : World) : Pc → Option World
  | .check dofork =>
    match s.file with
    | none => some (s.goto p (.fork dofork))
    | some q => some (s.goto p (if a.permitted then .probe dofork q else .fork dofork))
  -- "device_d already running"
  | .probe dofork q => some (s.goto p (if s.Kills a q then .done else .unlink dofork))
  | .unlink dofork => some ((s.removeFile a.ok).goto p (.fork dofork))
  | .fork false => some (s.goto p .write)
  | .fork true =>
    if a.ok = false then some (s.goto p .done)
    else if a.child = 0 ∨ s.Alive a.child then none
    else some ((s.goto p .done).goto a.child .write)
  | .write => if a.ok then some ((s.setFile (some none)).goto p .flush) else some (s.goto p .done)
  -- nobody looks whether there was room for the number
  | .flush => some ((s.setFile (some (if a.ok then some p else none))).goto p .boot)
  | .boot => some (s.goto p (if a.ok then .serving else .leaving))
  | .serving => none
  | .leaving => some ((s.removeFile a.ok).goto p .done)
  | .find stop =>
    match s.file with
    | none => some (s.goto p .done)
    | some q => some (s.goto p (if a.permitted then .kill stop q else .done))
  | .kill stop q =>
    if s.Kills a q then
      let s := (q.elim a.receivers ([·])).foldl (deliver (!stop) a.valid) s
      -- the signal may have been for the sender itself
      if s.pc p = none then some s else some (s.goto p (if stop then .wait q else .done))
    else some (s.goto p (if s.NoProcess a q then .unlinkStale else .done))
  | .unlinkStale => some ((s.removeFile a.ok).goto p .done)
  | .wait q => if s.Kills a q then none else some (s.goto p .done)
  | .done => some (s.exit p)

/-- Something that happens. -/
inductive Happening
  | spawn (p : Pid) (cmd : Command)
  | move (p : Pid) (a : Answers)
  /-- A signal from elsewhere. -/
  | signal (q : Pid) (hup valid : Bool)
  /-- The process is killed, or the machine loses it. -/
  | crash (q : Pid)
  | born (q : Pid)
  | gone (q : Pid)

/-- Where a command begins. -/
def entry : Command → Pc
  | .start dofork => .check dofork
  | .stop => .find true
  | .reload => .find false

def step (s : World) : Happening → Option World
  | .spawn p cmd => if p = 0 ∨ s.Alive p then none else some (s.goto p (entry cmd))
  | .move p a => (s.pc p).bind (s.move p a)
  | .signal q hup valid => some (s.deliver hup valid q)
  | .crash q => some (s.exit q)
  | .born q => if s.Alive q then none else some { s with others := insert q s.others }
  | .gone q => some { s with others := s.others.erase q }

end World

/-! ### The invariant -/

namespace Pc

/-- The process has written the file, and will remove it. -/
def holds : Pc → Bool
  | boot | serving | leaving => true
  | _ => false

/-- The process is about to change the file because nobody holds it. -/
def clears : Pc → Bool
  | unlink _ | fork _ | write | flush | unlinkStale => true
  | _ => false

/-- What the process has read from the file. -/
def target : Pc → Option (Option Pid)
  | probe _ q | kill _ q => some q
  | _ => none

/-- A command has been given and is not done with the file. -/
def commands : Pc → Bool
  | check _ | find _ => true
  | c => c.clears || c.target.isSome

theorem commands_of_clears {c : Pc} (h : c.clears = true) : c.commands = true := by
  cases c <;> simp_all [clears, commands]

theorem commands_of_target {c : Pc} {q : Option Pid} (h : c.target = some q) : c.commands = true := by
  cases c <;> simp_all [target, commands]

end Pc

namespace World

/-- The process holds the pid-file. -/
def Holds (s : World) (p : Pid) : Prop := ∃ c, s.pc p = some c ∧ c.holds = true

/-- The process is in the middle of a command. -/
def Commands (s : World) (p : Pid) : Prop := ∃ c, s.pc p = some c ∧ c.commands = true

/-- The file names its holder; there is one command at a time; and what a command has
found out about the file still stands. -/
structure Inv (s : World) : Prop where
  named : ∀ h, s.Holds h → s.file = some (some h)
  alone : ∀ p p', s.Commands p → s.Commands p' → p = p'
  found : ∀ p c q, s.pc p = some c → c.target = some q → ∀ h, s.Holds h → q = some h
  free : ∀ p c, s.pc p = some c → c.clears = true → ∀ h, ¬ s.Holds h

variable {s t : World} {p h : Pid} {c c' : Pc}

@[simp] theorem goto_pc_self : (s.goto p c).pc p = some c := Function.update_self ..

theorem goto_pc_of_ne {p' : Pid} (hne : p' ≠ p) : (s.goto p c).pc p' = s.pc p' :=
  Function.update_of_ne hne ..

@[simp] theorem goto_file : (s.goto p c).file = s.file := rfl

/-- Who holds the file after a step of `p`. -/
theorem holds_goto (hh : (s.goto p c').Holds h) : (h = p ∧ c'.holds = true) ∨ (h ≠ p ∧ s.Holds h) := by
  obtain ⟨c, hc, hold⟩ := hh
  by_cases he : h = p
  · subst he
    rw [goto_pc_self] at hc
    cases hc
    exact .inl ⟨rfl, hold⟩
  · rw [goto_pc_of_ne he] at hc
    exact .inr ⟨he, c, hc, hold⟩

theorem commands_goto (hh : (s.goto p c').Commands h) :
    (h = p ∧ c'.commands = true) ∨ (h ≠ p ∧ s.Commands h) := by
  obtain ⟨c, hc, hcmd⟩ := hh
  by_cases he : h = p
  · subst he
    rw [goto_pc_self] at hc
    cases hc
    exact .inl ⟨rfl, hcmd⟩
  · rw [goto_pc_of_ne he] at hc
    exact .inr ⟨he, c, hc, hcmd⟩

/-- **A step of one process**, which holds the file only if it did before, and has the
right to what it is about to do. -/
theorem Inv.goto (hs : s.Inv) (hholds : c'.holds = true → s.Holds p)
    (halone : c'.commands = true → ∀ p', s.Commands p' → p' = p)
    (hfound : ∀ q, c'.target = some q → ∀ h, s.Holds h → q = some h)
    (hfree : c'.clears = true → ∀ h, ¬ s.Holds h) : (s.goto p c').Inv := by
  have hback : ∀ h, (s.goto p c').Holds h → s.Holds h := by
    intro h hh
    rcases holds_goto hh with ⟨rfl, hc⟩ | ⟨-, hh⟩
    · exact hholds hc
    · exact hh
  refine ⟨fun h hh => hs.named h (hback h hh), fun p₁ p₂ h₁ h₂ => ?_, fun p₁ c q hc hq h hh => ?_,
    fun p₁ c hc hclear h hh => ?_⟩
  · rcases commands_goto h₁ with ⟨rfl, hc⟩ | ⟨-, g₁⟩ <;> rcases commands_goto h₂ with ⟨rfl, hc'⟩ | ⟨-, g₂⟩
    · rfl
    · exact (halone hc _ g₂).symm
    · exact halone hc' _ g₁
    · exact hs.alone _ _ g₁ g₂
  · by_cases he : p₁ = p
    · subst he
      rw [goto_pc_self] at hc
      cases hc
      exact hfound q hq h (hback h hh)
    · rw [goto_pc_of_ne he] at hc
      exact hs.found p₁ c q hc hq h (hback h hh)
  · by_cases he : p₁ = p
    · subst he
      rw [goto_pc_self] at hc
      cases hc
      exact hfree hclear h (hback h hh)
    · rw [goto_pc_of_ne he] at hc
      exact hs.free p₁ c hc hclear h (hback h hh)

/-- The process goes on with its command, or ends it. -/
theorem Inv.goto_of_commands (hs : s.Inv) (hpc : s.pc p = some c) (hcmd : c.commands = true)
    (hholds : c'.holds = false) (hfound : ∀ q, c'.target = some q → ∀ h, s.Holds h → q = some h)
    (hfree : c'.clears = true → ∀ h, ¬ s.Holds h) : (s.goto p c').Inv :=
  hs.goto (fun h => by rw [hholds] at h; cases h) (fun _ _ h => hs.alone _ _ h ⟨c, hpc, hcmd⟩) hfound hfree

/-- The process has no command, and gets none. -/
theorem Inv.goto_of_idle (hs : s.Inv) (hholds : c'.holds = true → s.Holds p) (hcmd : c'.commands = false) :
    (s.goto p c').Inv := by
  refine hs.goto hholds (fun h => ?_) (fun q hq => ?_) (fun h => ?_)
  · rw [hcmd] at h; cases h
  · rw [Pc.commands_of_target hq] at hcmd; cases hcmd
  · rw [Pc.commands_of_clears h] at hcmd; cases hcmd

theorem Inv.exit (hs : s.Inv) (p : Pid) : (s.exit p).Inv := by
  have hpc : ∀ {p' c}, (s.exit p).pc p' = some c → s.pc p' = some c := by
    intro p' c hc
    by_cases he : p' = p
    · subst he
      rw [World.exit] at hc
      dsimp only at hc
      rw [Function.update_self] at hc
      cases hc
    · rw [World.exit] at hc
      dsimp only at hc
      rwa [Function.update_of_ne he] at hc
  have hback : ∀ h, (s.exit p).Holds h → s.Holds h := fun h ⟨c, hc, hold⟩ => ⟨c, hpc hc, hold⟩
  refine ⟨fun h hh => hs.named h (hback h hh), fun p₁ p₂ ⟨c, hc, h₁⟩ ⟨c', hc', h₂⟩ => ?_,
    fun p₁ c q hc hq h hh => ?_, fun p₁ c hc hclear h hh => ?_⟩
  · exact hs.alone _ _ ⟨c, hpc hc, h₁⟩ ⟨c', hpc hc', h₂⟩
  · exact hs.found p₁ c q (hpc hc) hq h (hback h hh)
  · exact hs.free p₁ c (hpc hc) hclear h (hback h hh)

/-- Nobody holds the file: anything can be in it. -/
theorem Inv.setFile (hs : s.Inv) (hno : ∀ h, ¬ s.Holds h) (f : Option (Option Pid)) : (s.setFile f).Inv :=
  ⟨fun h hh => absurd hh (hno h), hs.alone, fun _ _ _ _ _ h hh => absurd hh (hno h),
    fun _ _ _ _ => hno⟩

theorem removeFile_pc (ok : Bool) : (s.removeFile ok).pc = s.pc := by
  rw [World.removeFile]
  split <;> rfl

theorem removeFile_goto (ok : Bool) : (s.removeFile ok).goto p c = (s.goto p c).removeFile ok := by
  rw [World.removeFile, World.removeFile]
  split <;> rfl

theorem Inv.removeFile (hs : s.Inv) (hno : ∀ h, ¬ s.Holds h) (ok : Bool) : (s.removeFile ok).Inv := by
  rw [World.removeFile]
  split
  · exact hs.setFile hno none
  · exact hs

theorem Inv.deliver (hs : s.Inv) (hup valid : Bool) (q : Pid) : (s.deliver hup valid q).Inv := by
  rw [World.deliver]
  split
  · exact hs
  · rename_i hpc
    split
    · exact hs
    · exact hs.goto_of_idle (fun _ => ⟨_, hpc, rfl⟩) rfl
  · exact hs.exit q

/-- A signal for many. -/
theorem Inv.foldl_deliver (hs : s.Inv) (hup valid : Bool) (qs : List Pid) :
    (qs.foldl (World.deliver hup valid) s).Inv := by
  induction qs generalizing s with
  | nil => exact hs
  | cons q qs ih => exact ih (hs.deliver hup valid q)

/-- A holder is a process. -/
theorem Holds.alive (hh : s.Holds h) : s.Alive h := by
  obtain ⟨c, hc, -⟩ := hh
  exact .inl (by rw [hc]; rfl)

/-- **A process writes its number** into a file nobody holds. -/
theorem Inv.flush (hs : s.Inv) (hpc : s.pc p = some .flush) :
    ((s.setFile (some (some p))).goto p .boot).Inv := by
  have hno := hs.free p _ hpc rfl
  have hcmd : s.Commands p := ⟨_, hpc, rfl⟩
  have hholds : ∀ h, ((s.setFile (some (some p))).goto p .boot).Holds h → h = p := by
    intro h hh
    rcases holds_goto hh with ⟨rfl, -⟩ | ⟨-, hh⟩
    · rfl
    · exact absurd hh (hno h)
  have hquiet : ∀ h, ¬ ((s.setFile (some (some p))).goto p .boot).Commands h := by
    intro h hh
    rcases commands_goto hh with ⟨-, hc⟩ | ⟨hne, hh⟩
    · cases hc
    · exact hne (hs.alone h p hh hcmd)
  refine ⟨fun h hh => ?_, fun p₁ p₂ h₁ => absurd h₁ (hquiet p₁), fun p₁ c q hc hq => ?_,
    fun p₁ c hc hclear => ?_⟩
  · rw [hholds h hh]
    rfl
  · exact absurd ⟨c, hc, Pc.commands_of_target hq⟩ (hquiet p₁)
  · exact absurd ⟨c, hc, Pc.commands_of_clears hclear⟩ (hquiet p₁)

/-- What has been read from the file is its holder. -/
theorem Inv.read (hs : s.Inv) {q : Option Pid} (hf : s.file = some q) (hh : s.Holds h) : q = some h :=
  Option.some.inj (hf.symm.trans (hs.named h hh))

/-- Nobody holds the file after the step of a process that does not get it. -/
theorem not_holds_goto (hc : c.holds = false) (hno : ∀ h, ¬ s.Holds h) : ∀ h, ¬ (s.goto p c).Holds h := by
  intro h hh
  rcases holds_goto hh with ⟨-, hc'⟩ | ⟨-, hh⟩
  · rw [hc] at hc'; cases hc'
  · exact hno h hh

/-- **A process forks**: the command goes on in the child. -/
theorem Inv.fork (hs : s.Inv) (hpc : s.pc p = some (.fork true)) (child : Pid) :
    ((s.goto p .done).goto child .write).Inv := by
  have hno := hs.free p _ hpc rfl
  have hdone : (s.goto p .done).Inv := hs.goto_of_idle (fun h => by cases h) rfl
  refine hdone.goto (fun h => by cases h) (fun _ p' hp' => ?_) (fun q hq => by cases hq)
    fun _ => not_holds_goto rfl hno
  rcases commands_goto hp' with ⟨-, hc⟩ | ⟨hne, hp'⟩
  · cases hc
  · exact absurd (hs.alone p' p hp' ⟨_, hpc, rfl⟩) hne

/-- **The holder leaves**, and nobody holds the file it removes. -/
theorem Inv.leave (hs : s.Inv) (hpc : s.pc p = some .leaving) (ok : Bool) :
    ((s.goto p .done).removeFile ok).Inv := by
  have hself : s.file = some (some p) := hs.named p ⟨_, hpc, rfl⟩
  have hdone : (s.goto p .done).Inv := hs.goto_of_idle (fun h => by cases h) rfl
  refine hdone.removeFile (fun h hh => ?_) ok
  rcases holds_goto hh with ⟨-, hc⟩ | ⟨hne, hh⟩
  · cases hc
  · exact hne (Option.some.inj (hs.read hself hh)).symm

/-- **The next step of a process**, which may do what it does. -/
theorem Inv.move (hs : s.Inv) (hpc : s.pc p = some c) {a : Answers} (hperm : a.permitted = true)
    (hroom : c = .flush → a.ok = true) (hm : s.move p a c = some t) : t.Inv := by
  cases c with
  | check dofork =>
    rcases hf : s.file with - | q <;> simp only [World.move, hf, hperm, if_true] at hm <;> cases hm
    · refine hs.goto_of_commands hpc rfl rfl (fun q hq => by cases hq) fun _ h hh => ?_
      have := hs.named h hh
      rw [hf] at this
      cases this
    · refine hs.goto_of_commands hpc rfl rfl (fun q' hq h hh => ?_) (fun h => by cases h)
      cases hq
      exact hs.read hf hh
  | probe dofork q =>
    cases hm
    split
    · exact hs.goto_of_idle (fun h => by cases h) rfl
    · -- nobody is in the file
      rename_i hdead
      refine hs.goto_of_commands hpc rfl rfl (fun q hq => by cases hq) fun _ h hh => ?_
      obtain rfl := hs.found p _ q hpc rfl h hh
      exact hdead ⟨hh.alive, hperm⟩
  | unlink dofork =>
    cases hm
    have hno := hs.free p _ hpc rfl
    rw [removeFile_goto]
    exact Inv.removeFile (hs.goto_of_commands hpc rfl rfl (fun q hq => by cases hq) fun _ => hno)
      (not_holds_goto rfl hno) a.ok
  | fork dofork =>
    have hno := hs.free p _ hpc rfl
    cases dofork with
    | false =>
      cases hm
      exact hs.goto_of_commands hpc rfl rfl (fun q hq => by cases hq) fun _ => hno
    | true =>
      simp only [World.move] at hm
      split at hm
      · cases hm
        exact hs.goto_of_idle (fun h => by cases h) rfl
      · split at hm
        · cases hm
        · cases hm
          exact hs.fork hpc a.child
  | write =>
    have hno := hs.free p _ hpc rfl
    simp only [World.move] at hm
    split at hm
    · cases hm
      exact (hs.setFile hno (some none)).goto_of_commands hpc rfl rfl (fun q hq => by cases hq) fun _ => hno
    · cases hm
      exact hs.goto_of_idle (fun h => by cases h) rfl
  | flush =>
    simp only [World.move, hroom rfl, if_true] at hm
    cases hm
    exact hs.flush hpc
  | boot =>
    cases hm
    refine hs.goto_of_idle (fun _ => ⟨_, hpc, rfl⟩) ?_
    split <;> rfl
  | serving => cases hm
  | leaving =>
    cases hm
    rw [removeFile_goto]
    exact hs.leave hpc a.ok
  | find stop =>
    rcases hf : s.file with - | q <;> simp only [World.move, hf, hperm, if_true] at hm <;> cases hm
    · exact hs.goto_of_idle (fun h => by cases h) rfl
    · refine hs.goto_of_commands hpc rfl rfl (fun q' hq h hh => ?_) (fun h => by cases h)
      cases hq
      exact hs.read hf hh
  | kill stop q =>
    simp only [World.move] at hm
    split at hm
    · have hsent := hs.foldl_deliver (!stop) a.valid (q.elim a.receivers ([·]))
      split at hm
      · cases hm
        exact hsent
      · cases hm
        refine hsent.goto_of_idle (fun h => ?_) ?_
        · cases stop <;> cases h
        · cases stop <;> rfl
    · cases hm
      split
      · rename_i hdead
        refine hs.goto_of_commands hpc rfl rfl (fun q hq => by cases hq) fun _ h hh => ?_
        obtain rfl := hs.found p _ q hpc rfl h hh
        exact hdead hh.alive
      · exact hs.goto_of_idle (fun h => by cases h) rfl
  | unlinkStale =>
    cases hm
    rw [removeFile_goto]
    exact Inv.removeFile (hs.goto_of_idle (fun h => by cases h) rfl)
      (not_holds_goto rfl (hs.free p _ hpc rfl)) a.ok
  | wait q =>
    simp only [World.move] at hm
    split at hm
    · cases hm
    · cases hm
      exact hs.goto_of_idle (fun h => by cases h) rfl
  | done =>
    cases hm
    exact hs.exit p

/-! ### Runs -/

/-- A command is given only when the one before is done with the file, in a forked child
as well. -/
def Sequential (s : World) (e : Happening) : Prop :=
  ∀ p cmd, e = .spawn p cmd → ∀ p', ¬ s.Commands p'

/-- A process may do what it does, and there is room for the number in the file. -/
def Granted (s : World) (e : Happening) : Prop :=
  ∀ p a, e = .move p a → a.permitted = true ∧ (s.pc p = some .flush → a.ok = true)

/-- Both. -/
def Orderly (s : World) (e : Happening) (_ : World) : Prop := Sequential s e ∧ Granted s e

/-- No `device_d` is there. -/
def Init (s : World) : Prop := ∀ p, s.pc p = none

theorem Init.inv (h : s.Init) : s.Inv := by
  have hno : ∀ {p c}, s.pc p ≠ some c := fun {p c} hc => by rw [h p] at hc; cases hc
  exact ⟨fun _ ⟨_, hc, _⟩ => absurd hc hno, fun _ _ ⟨_, hc, _⟩ => absurd hc hno,
    fun _ _ _ hc => absurd hc hno, fun _ _ hc => absurd hc hno⟩

theorem Inv.step (hs : s.Inv) {e : Happening} (he : s.step e = some t) (hord : Orderly s e t) : t.Inv := by
  cases e with
  | spawn p cmd =>
    simp only [World.step] at he
    split at he
    · cases he
    · cases he
      have hquiet := hord.1 p cmd rfl
      refine hs.goto (fun h => ?_) (fun _ p' hp' => absurd hp' (hquiet p')) (fun q hq => ?_) (fun h => ?_)
      · cases cmd <;> cases h
      · cases cmd <;> cases hq
      · cases cmd <;> cases h
  | move p a =>
    obtain ⟨c, hc, hm⟩ := Option.bind_eq_some_iff.mp he
    obtain ⟨hperm, hroom⟩ := hord.2 p a rfl
    exact hs.move hc hperm (fun hflush => hroom (hflush ▸ hc)) hm
  | signal q hup valid =>
    cases he
    exact hs.deliver hup valid q
  | crash q =>
    cases he
    exact hs.exit q
  | born q =>
    simp only [World.step] at he
    split at he
    · cases he
    · cases he
      exact ⟨hs.named, hs.alone, hs.found, hs.free⟩
  | gone q =>
    cases he
    exact ⟨hs.named, hs.alone, hs.found, hs.free⟩

theorem run_inv (hs : s.Inv) {es : List Happening} (hrun : run step s es = some t)
    (hord : Along step Orderly s es) : t.Inv :=
  run_invariant_along (I := Inv) (fun _ _ _ h he hq => h.step he hq) hs hord hrun

/-- A file is stale if it has the number of a process that is gone. -/
def Stale (s : World) (p : Pid) : Prop := ∀ q, s.file = some q → ∃ n, q = some n ∧ ¬ s.Alive n ∧ n ≠ p

/-- **A stale file is no obstacle.** -/
theorem start_serves (hp₀ : p ≠ 0) (hp : ¬ s.Alive p) (hstale : s.Stale p) :
    ∃ n u, run step s (.spawn p (.start false) :: List.replicate n (.move p {})) = some u ∧
      u.pc p = some .serving ∧ u.file = some (some p) := by
  have hmove : ∀ {s : World} {c} (es : List Happening), s.pc p = some c →
      run step s (.move p {} :: es) = (s.move p {} c).bind fun t => run step t es := by
    intro s c es hc
    rw [run_cons, step, hc]
    rfl
  have hspawn : ∀ es, run step s (.spawn p (.start false) :: es) =
      run step (s.goto p (.check false)) es := by
    intro es
    rw [run_cons, step, if_neg (not_or.mpr ⟨hp₀, hp⟩)]
    rfl
  -- from the fork on everybody does the same
  have hrest : ∀ s : World, s.pc p = some (.fork false) → ∃ u,
      run step s (List.replicate 4 (.move p {})) = some u ∧ u.pc p = some .serving ∧
        u.file = some (some p) := by
    intro s hs
    refine ⟨((((s.goto p .write).setFile (some none)).goto p .flush).setFile (some (some p))
      |>.goto p .boot).goto p .serving, ?_, goto_pc_self, rfl⟩
    rw [List.replicate_succ, hmove _ hs, World.move, Option.bind_some, List.replicate_succ,
      hmove _ goto_pc_self, World.move, if_pos rfl, Option.bind_some, List.replicate_succ,
      hmove _ goto_pc_self, World.move, if_pos rfl, Option.bind_some, List.replicate_succ,
      hmove _ goto_pc_self]
    rfl
  rcases hf : s.file with - | q
  · obtain ⟨u, hu, hpc, hfile⟩ := hrest ((s.goto p (.check false)).goto p (.fork false)) goto_pc_self
    refine ⟨5, u, ?_, hpc, hfile⟩
    rw [hspawn, List.replicate_succ, hmove _ goto_pc_self, World.move, goto_file, hf]
    exact hu
  · obtain ⟨n, rfl, hdead, hne⟩ := hstale q hf
    have hq : ¬ ((s.goto p (.check false)).goto p (.probe false (some n))).Kills {} (some n) := by
      rintro ⟨halive, -⟩
      rw [Alive, goto_pc_of_ne hne, goto_pc_of_ne hne] at halive
      exact hdead halive
    obtain ⟨u, hu, hpc, hfile⟩ := hrest
      (((((s.goto p (.check false)).goto p (.probe false (some n))).goto p (.unlink false)).removeFile
        true).goto p (.fork false)) goto_pc_self
    refine ⟨7, u, ?_, hpc, hfile⟩
    rw [hspawn, List.replicate_succ, hmove _ goto_pc_self, World.move, goto_file, hf]
    dsimp only [Option.bind_some]
    rw [if_pos rfl, List.replicate_succ, hmove _ goto_pc_self, World.move, if_neg hq,
      Option.bind_some, List.replicate_succ, hmove _ goto_pc_self]
    exact hu

/-- A machine after a crash: the file is stale. -/
def testWorld : World := ⟨fun _ => none, {1}, some (some 7)⟩

/-- A start in daemon mode: the number goes to the child.  Then `stop` finds it. -/
def testHappenings : List Happening :=
  .spawn 8 (.start true) ::
    ([(8, 0), (8, 0), (8, 0), (8, 9), (9, 0), (9, 0), (9, 0)].map (fun m => .move m.1 { child := m.2 }) ++
      [.spawn 10 .stop, .move 10 {}])

/-- Two starts at once: the one that fails removes the file of the other. -/
theorem overlapping_starts :
    ∃ t, run step ⟨fun _ => none, ∅, none⟩ [.spawn 1 (.start false), .spawn 2 (.start false),
      .move 1 {}, .move 2 {}, .move 1 {}, .move 1 {}, .move 1 {}, .move 1 {}, .move 2 {}, .move 2 {},
      .move 2 {}, .move 2 { ok := false }, .move 2 {}] = some t ∧
      t.pc 1 = some .serving ∧ t.file = none :=
  ⟨_, rfl, rfl, rfl⟩

end World

end PidFile

end Device2
