/-
Device2/Races.lean

What the threads of different connections can do to each other on one device.

`Device` has two windows.  `use` tests the lock before it takes the mutex and
registers its caller after; and `ask` and `lock` test whether their caller is a
user, and rely on it later.  The lock is safe exactly as long as nothing happens
in these windows: no `use` is completed on a device that has been locked in the
meantime, and no `lock` is completed by a connection that a `close` has thrown
out (`lock_safe_iff`).  And the driver is there when `ask` calls it as long as
nobody closes the device between the test of an `ask` and its call
(`ask_never_null`): any such `close` can be followed by a call through the null
pointer.
-/
import Device2.Threads

namespace Device2

open StepSystem

variable {Drv : Type}

namespace Threads

variable {s t : Threads Drv} {m : Move Drv} {env : DriverEnv Drv} {conn : ConnId}

/-! ### Users hold an open driver -/

/-- What holds whatever the threads do: a used device is open, and a connection
about to be registered is not a user yet. -/
structure Inv (s : Threads Drv) : Prop where
  usedOpen : s.dev.users.Nonempty → s.dev.drv.isSome = true
  notUser : ∀ c k, s.pc c = .useCommit k → c ∉ s.dev.users

theorem Start.inv (h : s.Start) : s.Inv :=
  ⟨h.wellFormed.usedOpen, fun c k hc => by rw [h.idle c] at hc; cases hc⟩

theorem release_users_subset (conn : ConnId) (d : Device Drv) :
    (d.release conn).users ⊆ d.users ∧ (d.release conn).drv = d.drv := by
  rw [Device.release]
  split
  · exact ⟨Finset.erase_subset _ _, rfl⟩
  · exact ⟨Finset.Subset.refl _, rfl⟩

theorem After.pc_ne_useCommit (k k' : After) : k.pc ≠ .useCommit k' := by
  cases k <;> intro h <;> cases h

theorem Inv.step (hs : s.Inv) (h : step s m = some t) : t.Inv := by
  -- the connections that do not move
  have hother : ∀ c k, c ≠ m.conn → t.pc c = .useCommit k → c ∉ s.dev.users := by
    intro c k hc hpc
    rw [step_pc_of_ne h hc] at hpc
    exact hs.notUser c k hpc
  cases step_effect h with
  | quiet dev pc =>
    refine ⟨by rw [dev.users, dev.drv]; exact hs.usedOpen, fun c k hpc => ?_⟩
    rw [dev.users]
    by_cases hc : c = m.conn
    · subst hc
      rcases pc with hpc' | hadmits
      · exact hs.notUser _ k (hpc' ▸ hpc)
      · rw [hpc] at hadmits; exact hadmits
    · exact hother c k hc hpc
  | commit move k before users locked drv after =>
    refine ⟨fun _ => drv, fun c k' hpc => ?_⟩
    have hc : c ≠ m.conn := by
      rintro rfl
      exact After.pc_ne_useCommit k k' (after.symm.trans hpc)
    rw [users, Finset.mem_insert, not_or]
    exact ⟨hc, hother c k' hc hpc⟩
  | setLock before sole dev after =>
    refine ⟨by rw [dev]; exact hs.usedOpen, fun c k hpc => ?_⟩
    have hc : c ≠ m.conn := by rintro rfl; rw [after] at hpc; cases hpc
    rw [dev]
    exact hother c k hc hpc
  | release dev pc =>
    obtain ⟨hsub, hdrv⟩ := release_users_subset m.conn s.dev
    rw [← dev] at hsub hdrv
    refine ⟨fun hne => by rw [hdrv]; exact hs.usedOpen (hne.mono hsub), fun c k hpc => ?_⟩
    have hc : c ≠ m.conn := by rintro rfl; rw [pc] at hpc; cases hpc
    exact fun hmem => hother c k hc hpc (hsub hmem)
  | close move dev pc =>
    refine ⟨?_, ?_⟩ <;> simp [dev, Device.close]
  | unlock users locked drv pc =>
    refine ⟨by rw [users, drv]; exact hs.usedOpen, fun c k hpc => ?_⟩
    have hc : c ≠ m.conn := by rintro rfl; rw [pc] at hpc; cases hpc
    rw [users]
    exact hother c k hc hpc

/-! ### The lock -/

/-- After the step a locked device has exactly one user; and if the step completes
a `lock` without an error, this user is the caller. -/
def LockSafe (s : Threads Drv) (m : Move Drv) (t : Threads Drv) : Prop :=
  (t.dev.locked = true → t.dev.users.card = 1) ∧
  ∀ conn env, m = .step conn env → s.pc conn = .lockFinal → s.dev.users.card = 1 →
    t.dev.users = {conn}

/-- The step does not complete a `use` on a locked device, nor a `lock` on a device
whose only user is somebody else. -/
def Undisturbed (s : Threads Drv) (m : Move Drv) (_ : Threads Drv) : Prop :=
  ∀ conn env, m = .step conn env →
    (∀ k, s.pc conn = .useCommit k → s.dev.locked = false) ∧
    (s.pc conn = .lockFinal → s.dev.users.card = 1 → conn ∈ s.dev.users)

/-- A locked device has exactly one user, besides what always holds. -/
structure LockInv (s : Threads Drv) : Prop extends Inv s where
  lockedSole : s.dev.locked = true → s.dev.users.card = 1

/-- On an open device the second step of `use` registers the caller. -/
theorem users_of_commit {k : After} (h : step s (.step conn env) = some t)
    (hpc : s.pc conn = .useCommit k) (hdrv : s.dev.drv.isSome = true) :
    t.dev.users = insert conn s.dev.users ∧ t.dev.locked = s.dev.locked := by
  obtain ⟨drv, hdrv⟩ := Option.isSome_iff_exists.mp hdrv
  rw [step] at h
  split at h
  · cases h
  · dsimp only [advance] at h
    rw [hpc] at h
    have hu : s.dev.useCommit env conn =
        .done () { s.dev with users := insert conn s.dev.users } := by
      simp [Device.useCommit, hdrv]
    rw [hu] at h
    cases h
    exact ⟨rfl, rfl⟩

/-- The last step of `lock` never touches the users. -/
theorem users_of_lockFinal (h : step s (.step conn env) = some t) (hpc : s.pc conn = .lockFinal) :
    t.dev.users = s.dev.users := by
  rw [step] at h
  split at h
  · cases h
  · dsimp only [advance] at h
    rw [hpc] at h
    dsimp only at h
    split at h <;> cases h <;> rfl

theorem LockInv.lockSafe (hs : s.LockInv) (h : step s m = some t) (hm : Undisturbed s m t) :
    LockSafe s m t := by
  constructor
  · cases step_effect h with
    | quiet dev pc => rw [dev.users, dev.locked]; exact hs.lockedSole
    | commit move k before users locked drv after =>
      intro hlocked
      obtain ⟨env, hstep⟩ := move
      rw [locked, (hm _ env hstep).1 k before] at hlocked
      cases hlocked
    | setLock before sole dev after => intro _; rw [dev]; exact sole
    | release dev pc =>
      intro hlocked
      rw [dev] at hlocked ⊢
      unfold Device.release at hlocked ⊢
      split at hlocked
      · cases hlocked
      · rename_i hmem; rw [if_neg hmem]; exact hs.lockedSole hlocked
    | close move dev pc => intro hlocked; rw [dev] at hlocked; cases hlocked
    | unlock users locked drv pc => intro hlocked; rw [users]; exact hs.lockedSole (locked hlocked)
  · rintro conn env rfl hpc hcard
    obtain ⟨c, hc⟩ := Finset.card_eq_one.mp hcard
    have hmem : conn ∈ s.dev.users := (hm conn env rfl).2 hpc hcard
    rw [hc, Finset.mem_singleton] at hmem
    rw [users_of_lockFinal h hpc, hc, hmem]

/-- **One step is safe if and only if it is undisturbed.** -/
theorem lockSafe_iff (hs : s.LockInv) (h : step s m = some t) :
    LockSafe s m t ↔ Undisturbed s m t := by
  refine ⟨?_, hs.lockSafe h⟩
  rintro ⟨hsole, hcaller⟩ conn env rfl
  constructor
  · intro k hpc
    by_contra hlocked
    rw [Bool.not_eq_false] at hlocked
    have hcard := hs.lockedSole hlocked
    have hne : s.dev.users.Nonempty := Finset.card_pos.mp (by omega)
    obtain ⟨husers, hl⟩ := users_of_commit h hpc (hs.usedOpen hne)
    -- the newcomer is the second user of the locked device
    have hcard' := hsole (hl.trans hlocked)
    rw [husers, Finset.card_insert_of_notMem (hs.notUser conn k hpc)] at hcard'
    omega
  · intro hpc hcard
    have husers := hcaller conn env rfl hpc hcard
    rw [users_of_lockFinal h hpc] at husers
    rw [husers]
    exact Finset.mem_singleton_self conn

/-- **Lock safety under interleaving, exactly.**  Over any interleaving of the
calls of any number of connections, a locked device always has exactly one user
and every `lock` that completes makes it the caller, if and only if no `use` is
completed on a locked device and no `lock` is completed by a connection that is
not a user any more. -/
theorem lock_safe_iff (hs : s.Start) (ms : List (Move Drv)) :
    Along step LockSafe s ms ↔ Along step Undisturbed s ms := by
  have hinit : s.LockInv := ⟨hs.inv, hs.wellFormed.lockedSole⟩
  refine along_iff (I := LockInv) (fun _ _ _ hI he => lockSafe_iff hI he) ?_ hinit
  intro s m t hI he hm
  exact ⟨hI.toInv.step he, (hI.lockSafe he hm).1⟩

/-- A closed device with the driver `test`, and nothing running. -/
def testThreads : Threads Unit :=
  { dev := { devName := "a", drvName := "test", drvArgs := ∅ } }

/-- The driver `test`. -/
def testDriver : DriverEnv Unit := ⟨fun _ _ => .ok (), fun _ msg => .ok msg⟩

theorem testThreads_start : testThreads.Start :=
  ⟨Device.wellFormed_fresh .., fun _ => rfl, rfl, rfl⟩

/-- Connection 2 uses the device and locks it while connection 1 is in a `use` of its
own, which comes to its test too late and fails. -/
def lockingMoves : List (Move Unit) :=
  [.call 2 .lock, .step 2 testDriver, .step 2 testDriver, .call 1 .use, .step 2 testDriver,
    .step 2 testDriver, .step 1 testDriver]

theorem lock_safe_iff_testThreads :
    (∃ t, run step testThreads lockingMoves = some t ∧ t.dev.locked = true ∧ t.dev.users = {2} ∧
      t.pc 1 = .idle) ∧ Along step LockSafe testThreads lockingMoves := by
  have hundisturbed : Along step Undisturbed testThreads lockingMoves := by
    refine (along_cons rfl).mpr ⟨?_, (along_cons rfl).mpr ⟨?_, (along_cons rfl).mpr ⟨?_,
      (along_cons rfl).mpr ⟨?_, (along_cons rfl).mpr ⟨?_, (along_cons rfl).mpr ⟨?_,
        (along_cons rfl).mpr ⟨?_, trivial⟩⟩⟩⟩⟩⟩⟩ <;> rintro _ _ ⟨⟩
    all_goals refine ⟨fun _ h => ?_, fun h _ => ?_⟩
    all_goals first | rfl | decide | cases h
  exact ⟨⟨_, rfl, rfl, by decide, rfl⟩, (lock_safe_iff testThreads_start lockingMoves).mpr hundisturbed⟩

/-- Connection 1 tests the lock, connection 2 locks the device, and connection 1
becomes its second user. -/
theorem use_commits_on_locked_device :
    ¬ ∀ s : Threads Unit, s.Start → ∀ ms, Along step LockSafe s ms := by
  intro h
  let ms : List (Move Unit) := [.call 1 .use, .step 1 testDriver, .call 2 .lock,
    .step 2 testDriver, .step 2 testDriver, .step 2 testDriver, .step 2 testDriver]
  obtain ⟨t, hrun⟩ : ∃ t, run step testThreads ms = some t := ⟨_, rfl⟩
  have hall := h testThreads testThreads_start (ms ++ [.step 1 testDriver])
  rw [along_append hrun] at hall
  cases hrun
  have hsafe := (hall.2 _ rfl).1.1
  exact absurd (hsafe rfl) (by decide)

/-! ### The driver -/

/-- If the step calls the driver for an `ask`, the driver is there. -/
def DriverThere (s : Threads Drv) (m : Move Drv) (_ : Threads Drv) : Prop :=
  ∀ conn env msg, m = .step conn env → s.pc conn = .askCall msg → s.dev.drv.isSome = true

/-- The connection is past the tests of its `ask` and has not called the driver. -/
def Pc.Asking (p : Pc) : Prop := ∃ msg, p = .askCmd msg ∨ p = .askCall msg

/-- The step does not close the device while an `ask` is between its tests and its
call of the driver. -/
def ClosesNoAsk (s : Threads Drv) (m : Move Drv) (_ : Threads Drv) : Prop :=
  ∀ conn, m = .call conn .close → ∀ c, ¬ Pc.Asking (s.pc c)

/-- Past the tests of an `ask` the device is open, besides what always holds. -/
structure AskInv (s : Threads Drv) : Prop extends Inv s where
  askOpen : ∀ c, Pc.Asking (s.pc c) → s.dev.drv.isSome = true

theorem Start.askInv (h : s.Start) : s.AskInv where
  toInv := h.inv
  askOpen := by
    rintro c ⟨msg, hc | hc⟩ <;> rw [h.idle c] at hc <;> cases hc

theorem AskInv.step (hs : s.AskInv) (h : step s m = some t) (hm : ClosesNoAsk s m t) :
    t.AskInv := by
  refine ⟨hs.toInv.step h, fun c hask => ?_⟩
  -- an `ask` that has not moved was past its tests before
  have hold : (c = m.conn → t.pc c = s.pc c) → s.dev.drv.isSome = true := by
    intro hself
    have hpc : t.pc c = s.pc c := by
      by_cases hc : c = m.conn
      · exact hself hc
      · exact step_pc_of_ne h hc
    exact hs.askOpen c (hpc ▸ hask)
  have hidle : t.pc m.conn = .idle → c ≠ m.conn := by
    rintro hpc rfl
    obtain ⟨msg, hp | hp⟩ := hask <;> rw [hpc] at hp <;> cases hp
  cases step_effect h with
  | quiet dev pc =>
    rw [dev.drv]
    by_cases hc : c = m.conn
    · subst hc
      rcases pc with hpc | hadmits
      · exact hold fun _ => hpc
      · obtain ⟨msg, hp | hp⟩ := hask
        · rw [hp] at hadmits
          exact hs.usedOpen ⟨_, hadmits⟩
        · rw [hp] at hadmits
          exact hs.askOpen _ ⟨msg, .inl hadmits⟩
    · exact hold fun he => absurd he hc
  | commit move k before users locked drv after => exact drv
  | setLock before sole dev after =>
    rw [dev]
    exact hold fun he => absurd he (hidle after)
  | release dev pc =>
    rw [dev, (release_users_subset m.conn s.dev).2]
    exact hold fun he => absurd he (hidle pc)
  | close move dev pc =>
    -- the `ask` was past its tests before: the step is one of those excluded
    refine absurd ?_ (hm _ move c)
    rw [← step_pc_of_ne h (hidle pc)]
    exact hask
  | unlock users locked drv pc =>
    rw [drv]
    exact hold fun he => absurd he (hidle pc)

theorem AskInv.driverThere (hs : s.AskInv) : DriverThere s m t := by
  rintro conn env msg rfl hpc
  exact hs.askOpen conn ⟨msg, .inr hpc⟩

/-- With the driver gone, an `ask` that is about to call it calls the null
pointer. -/
theorem not_driverThere_of_askCall {msg : Str} (hcrash : s.crashed = false)
    (hdrv : s.dev.drv = none) (hpc : s.pc conn = .askCall msg) (env : DriverEnv Drv) :
    ¬ Along step DriverThere s [.step conn env] := by
  intro h
  obtain ⟨t, ht⟩ : ∃ t, step s (.step conn env) = some t := by
    rw [step_of_not_crashed hcrash, advance, hpc]
    dsimp only
    split
    · exact ⟨_, rfl⟩
    · exact ⟨_, rfl⟩
  have hthere := (h t ht).1 conn env msg rfl hpc
  rw [hdrv] at hthere
  cases hthere

theorem not_driverThere_of_askCmd {msg : Str} (hcrash : s.crashed = false)
    (hdrv : s.dev.drv = none) (hcmd : s.cmd = none) (hpc : s.pc conn = .askCmd msg)
    (env : DriverEnv Drv) : ¬ Along step DriverThere s [.step conn env, .step conn env] := by
  have hstep : step s (.step conn env) =
      some (goto conn (.askCall msg) { s with cmd := some conn }) := by
    rw [step_of_not_crashed hcrash, advance, hpc]
    exact if_pos hcmd
  rw [along_cons hstep]
  rintro ⟨-, h⟩
  exact not_driverThere_of_askCall (s := goto conn (.askCall msg) { s with cmd := some conn })
    hcrash hdrv (goto_pc_self ..) env h

/-- **Every such close can be followed by a call of null**: whoever is in the
exchange finishes it, and then the `ask` takes the mutex and calls. -/
theorem asking_crashes (hcmd : s.CmdInv) (hcrash : s.crashed = false) (hdrv : s.dev.drv = none)
    {c : ConnId} (hask : Pc.Asking (s.pc c)) (env : DriverEnv Drv) :
    ∃ ms : List (Move Drv), (∀ m ∈ ms, ∃ conn, m = .step conn env) ∧
      ¬ Along step DriverThere s ms := by
  obtain ⟨msg, hpc | hpc⟩ := hask
  · rcases hholder : s.cmd with - | holder
    · refine ⟨[.step c env, .step c env], by simp, ?_⟩
      exact not_driverThere_of_askCmd hcrash hdrv hholder hpc env
    · have hholds := (hcmd holder).mp hholder
      -- the holder is about to call the driver, or has called it before the close
      rcases hp : s.pc holder with - | k | k | - | - | msg' | msg' | msg' | - <;>
        rw [hp] at hholds <;> cases hholds
      · exact ⟨[.step holder env], by simp, not_driverThere_of_askCall hcrash hdrv hp env⟩
      · -- the holder is done with its exchange
        have hne : c ≠ holder := by rintro rfl; rw [hp] at hpc; cases hpc
        have hstep : step s (.step holder env) =
            some (goto holder .idle { s with cmd := none }) := by
          rw [step_of_not_crashed hcrash, advance, hp]
        refine ⟨[.step holder env, .step c env, .step c env], by simp, ?_⟩
        rw [along_cons hstep]
        rintro ⟨-, h⟩
        have hpc' : (goto holder .idle { s with cmd := none }).pc c = .askCmd msg :=
          (goto_pc_of_ne hne ..).trans hpc
        exact not_driverThere_of_askCmd (s := goto holder .idle { s with cmd := none })
          hcrash hdrv rfl hpc' env h
  · exact ⟨[.step c env], by simp, not_driverThere_of_askCall hcrash hdrv hpc env⟩

/-- **An `ask` never runs on a closed device as long as nobody closes it under an
`ask`.**  In every interleaving in which no `close` comes between the tests of an
`ask` and its call of the driver, the driver is there at every call.  After any
`close` that does come there, some continuation calls the null pointer. -/
theorem ask_never_null (hs : s.Start) (ms : List (Move Drv)) :
    (Along step ClosesNoAsk s ms → Along step DriverThere s ms) ∧
    (∀ (t u : Threads Drv) (m : Move Drv), run step s ms = some t → step t m = some u →
      ¬ ClosesNoAsk t m u → ∃ ms', ¬ Along step DriverThere u ms') := by
  constructor
  · exact fun h => h.of_invariant
      (fun s m t hI he hm => ⟨hI.step he hm, hI.driverThere⟩) hs.askInv
  · intro t u m hrun hu hm
    have hcmd : t.CmdInv := run_invariant (fun _ _ _ hI he => hI.step he) hs.cmdInv hrun
    have hcrash : t.crashed = false := by
      unfold step at hu
      split at hu
      · cases hu
      · simpa using ‹¬ t.crashed = true›
    rw [ClosesNoAsk] at hm
    push Not at hm
    obtain ⟨conn, rfl, c, hask⟩ := hm
    have hidle : t.pc conn = .idle := by
      by_contra hidle
      simp [step, hcrash, hidle] at hu
    obtain rfl : { t with dev := t.dev.close } = u := by
      simpa [step, hcrash, hidle, start] using hu
    obtain ⟨ms', -, hms'⟩ := asking_crashes (s := { t with dev := t.dev.close }) hcmd hcrash rfl
      hask ⟨fun _ _ => .error { str := [] }, fun _ _ => .error { str := [] }⟩
    exact ⟨ms', hms'⟩

/-- Connections 1 and 2 ask, one call of the driver after the other, and then the device
is closed. -/
def askingMoves : List (Move Unit) :=
  [.call 1 (.ask "x"), .step 1 testDriver, .call 2 (.ask "y"), .step 1 testDriver, .step 1 testDriver,
    .step 2 testDriver, .step 1 testDriver, .step 2 testDriver, .step 2 testDriver, .step 1 testDriver,
    .step 1 testDriver, .step 2 testDriver, .step 2 testDriver, .step 2 testDriver, .call 1 .close]

/-- A connection that takes no step stays where it is. -/
theorem run_pc_of_ne {c : ConnId} {ms : List (Move Drv)} (hrun : run step s ms = some t)
    (hms : ∀ m ∈ ms, c ≠ m.conn) : t.pc c = s.pc c := by
  induction ms generalizing s with
  | nil => cases hrun; rfl
  | cons m ms ih =>
    obtain ⟨r, hr, hrest⟩ := run_cons_eq_some.mp hrun
    obtain ⟨hm, hms⟩ := List.forall_mem_cons.mp hms
    exact (ih hrest hms).trans (step_pc_of_ne hr hm)

theorem ask_never_null_testThreads :
    (∃ t, run step testThreads askingMoves = some t ∧ t.dev.drv = none ∧ t.crashed = false) ∧
      Along step DriverThere testThreads askingMoves := by
  have hclose : Along step ClosesNoAsk testThreads askingMoves := by
    obtain ⟨t, hrun⟩ : ∃ t, run step testThreads askingMoves.dropLast = some t := ⟨_, rfl⟩
    have hidle : ∀ c, t.pc c = .idle := by
      intro c
      by_cases hc : c = 1 ∨ c = 2
      · rcases hc with rfl | rfl <;> cases hrun <;> rfl
      · rw [not_or] at hc
        exact run_pc_of_ne hrun (by simp [askingMoves, Move.conn, hc])
    have hmoves : askingMoves = askingMoves.dropLast ++ [.call 1 .close] := rfl
    rw [hmoves]
    refine (along_append hrun).mpr ⟨?_, ?_⟩
    · refine along_of_forall_mem fun m hm s u conn hclose => ?_
      subst hclose
      simp [askingMoves] at hm
    · refine fun _ _ => ⟨fun _ _ c => ?_, trivial⟩
      rintro ⟨msg, h⟩
      rw [hidle c] at h
      rcases h with h | h <;> cases h
  exact ⟨⟨_, rfl, rfl, rfl⟩, (ask_never_null testThreads_start askingMoves).1 hclose⟩

/-- Connection 2 closes the device after connection 1 has become its user, and
connection 1 calls the driver. -/
theorem close_before_call_crashes :
    ¬ ∀ s : Threads Unit, s.Start → ∀ ms, Along step DriverThere s ms := by
  intro h
  let ms : List (Move Unit) := [.call 1 (.ask "x"), .step 1 testDriver, .step 1 testDriver,
    .step 1 testDriver, .call 2 .close, .step 1 testDriver]
  obtain ⟨t, hrun⟩ : ∃ t, run step testThreads ms = some t := ⟨_, rfl⟩
  have hall := h testThreads testThreads_start (ms ++ [.step 1 testDriver])
  rw [along_append hrun] at hall
  cases hrun
  have hthere := (hall.2 _ rfl).1 1 testDriver "x" rfl rfl
  cases hthere

end Threads

end Device2
