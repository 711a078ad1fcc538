/-
Device2/Threads.lean

One device and the threads of the HTTP server (`server/http_server.cpp`: a thread
for each connection), with the calls cut into the steps that the mutexes of
`Device` make atomic.

`use` reads `users` and `locked` before it takes `data_mutex` and changes them
after; `lock` calls `use` and takes the mutex again to count the users; `ask`
calls `use` and then takes another mutex, `cmd_mutex`, for the exchange with the
driver.  `release`, `close` and `unlock` are single steps.  A connection runs one
call at a time, any call it likes (`Move.call`); which connection moves next and
what the driver says is up to the label.

`Effect` says once what a step can do to users, lock and driver, and `step_cases`
where it goes.  `call_alone` is the link to the methods of `Device2.Device`: the
steps of a call that nobody interrupts are the method.
-/
import Device2.Device
import Device2.Lib.Mutex
import Device2.Lib.StepSystem

namespace Device2

open Mutex StepSystem

variable {Drv : Type}

/-! ### The steps of the calls -/

namespace Device

/-- The part of `Device::use` after its tests, under `data_mutex`. -/
def useCommit (env : DriverEnv Drv) (conn : ConnId) (d : Device Drv) :
    Outcome (Device Drv) Drv Unit :=
  match d.drv with
  | some _ => .done () { d with users := insert conn d.users }
  | none =>
    match env.create d.drvName d.drvArgs with
    | .error e => ⟨.error (.err e), d, []⟩
    | .ok drv => .done () { d with drv := some drv, users := insert conn d.users }

end Device

/-- What a call goes on with after `use`. -/
inductive After
  | ret
  | lock
  | ask (msg : Str)
  deriving DecidableEq

/-- Where a connection is in its call. -/
inductive Pc
  | idle
  | useTest (k : After)
  | useCommit (k : After)
  | lockTest
  | lockFinal
  | askTest (msg : Str)
  | askCmd (msg : Str)
  | askCall (msg : Str)
  | askRet
  deriving DecidableEq

def After.pc : After → Pc
  | ret => .idle
  | lock => .lockFinal
  | ask msg => .askCmd msg

/-- Where a call that goes on with `k` starts. -/
def After.testPc : After → Pc
  | ret => .useTest .ret
  | lock => .lockTest
  | ask msg => .askTest msg

/-- The calls of a connection. -/
inductive Call
  | use
  | release
  | close
  | lock
  | unlock
  | ask (msg : Str)
  deriving DecidableEq

/-- The device and the threads. -/
structure Threads (Drv : Type) where
  dev : Device Drv
  pc : ConnId → Pc := fun _ => .idle
  /-- The connection that holds `cmd_mutex`. -/
  cmd : Option ConnId := none
  /-- The driver was called through the null pointer. -/
  crashed : Bool := false

/-- A connection starts a call, or takes the next step of the one it is in. -/
inductive Move (Drv : Type)
  | call (conn : ConnId) (c : Call)
  | step (conn : ConnId) (env : DriverEnv Drv)

def Move.conn : Move Drv → ConnId
  | call conn _ => conn
  | step conn _ => conn

namespace Threads

/-- Move the connection. -/
def goto (conn : ConnId) (p : Pc) (s : Threads Drv) : Threads Drv :=
  { s with pc := Function.update s.pc conn p }

/-- The first step of a call, or the whole of it. -/
def start (conn : ConnId) (s : Threads Drv) : Call → Threads Drv
  | .use => s.goto conn (.useTest .ret)
  | .lock => s.goto conn .lockTest
  | .ask msg => s.goto conn (.askTest msg)
  | .release => { s with dev := s.dev.release conn }
  | .close => { s with dev := s.dev.close }
  | .unlock => { s with dev := (s.dev.unlock conn : Outcome (Device Drv) Drv Unit).state }

/-- The next step of a call.  An exception ends the call. -/
def advance (env : DriverEnv Drv) (conn : ConnId) (s : Threads Drv) : Option (Threads Drv) :=
  match s.pc conn with
  | .idle => none
  | .useTest k =>
    if conn ∈ s.dev.users then some (s.goto conn k.pc)
    else if s.dev.locked then some (s.goto conn .idle)
    else some (s.goto conn (.useCommit k))
  | .useCommit k =>
    let o := s.dev.useCommit env conn
    match o.ret with
    | .ok () => some (goto conn k.pc { s with dev := o.state })
    | .error _ => some (goto conn .idle { s with dev := o.state })
  | .lockTest =>
    if conn ∈ s.dev.users then some (s.goto conn .lockFinal)
    else some (s.goto conn (.useTest .lock))
  | .lockFinal =>
    if s.dev.users.card ≠ 1 then some (s.goto conn .idle)
    else some (goto conn .idle { s with dev := { s.dev with locked := true } })
  | .askTest msg =>
    if conn ∈ s.dev.users then some (s.goto conn (.askCmd msg))
    else some (s.goto conn (.useTest (.ask msg)))
  | .askCmd msg =>
    -- wait for `cmd_mutex`
    if s.cmd = none then some (goto conn (.askCall msg) { s with cmd := some conn }) else none
  | .askCall msg =>
    let o := s.dev.askOpened env msg
    if o.ret = .error .nullDriver then some { s with crashed := true }
    else some (goto conn .askRet { s with dev := o.state })
  | .askRet => some (goto conn .idle { s with cmd := none })

/-- One step of one thread. -/
def step (s : Threads Drv) (m : Move Drv) : Option (Threads Drv) :=
  if s.crashed then none
  else
    match m with
    | .call conn c => if s.pc conn = .idle then some (s.start conn c) else none
    | .step conn env => s.advance env conn

/-- No call is running. -/
structure Start (s : Threads Drv) : Prop where
  wellFormed : s.dev.WellFormed
  idle : ∀ c, s.pc c = .idle
  cmd : s.cmd = none
  crashed : s.crashed = false

/-! ### What a step can do -/

variable {s t : Threads Drv} {m : Move Drv} {env : DriverEnv Drv} {conn : ConnId}

@[simp] theorem goto_dev (conn : ConnId) (p : Pc) (s : Threads Drv) :
    (s.goto conn p).dev = s.dev := rfl

@[simp] theorem goto_pc_self (conn : ConnId) (p : Pc) (s : Threads Drv) :
    (s.goto conn p).pc conn = p := Function.update_self ..

theorem goto_pc_of_ne {c : ConnId} (h : c ≠ conn) (p : Pc) (s : Threads Drv) :
    (s.goto conn p).pc c = s.pc c := Function.update_of_ne h ..

/-- Users, lock and driver are the same. -/
structure Same (d d' : Device Drv) : Prop where
  users : d'.users = d.users
  locked : d'.locked = d.locked
  drv : d'.drv = d.drv

theorem Same.refl (d : Device Drv) : Same d d := ⟨rfl, rfl, rfl⟩

/-- What must hold for a connection to get where it is without touching users,
lock and driver. -/
def Admits (s : Threads Drv) (conn : ConnId) : Pc → Prop
  | .useCommit _ => conn ∉ s.dev.users
  | .askCmd _ => conn ∈ s.dev.users
  | .askCall msg => s.pc conn = .askCmd msg
  | _ => True

/-- **What a step can do** to users, lock and driver. -/
inductive Effect (s : Threads Drv) (m : Move Drv) (t : Threads Drv) : Prop
  /-- Nothing; the connection moves on, or its call ends. -/
  | quiet (dev : Same s.dev t.dev) (pc : t.pc m.conn = s.pc m.conn ∨ Admits s m.conn (t.pc m.conn))
  /-- `use` opens the device and registers the connection. -/
  | commit (move : ∃ env, m = .step m.conn env) (k : After) (before : s.pc m.conn = .useCommit k)
      (users : t.dev.users = insert m.conn s.dev.users) (locked : t.dev.locked = s.dev.locked)
      (drv : t.dev.drv.isSome = true) (after : t.pc m.conn = k.pc)
  /-- `lock` sets the lock. -/
  | setLock (before : s.pc m.conn = .lockFinal) (sole : s.dev.users.card = 1)
      (dev : t.dev = { s.dev with locked := true }) (after : t.pc m.conn = .idle)
  | release (dev : t.dev = s.dev.release m.conn) (pc : t.pc m.conn = .idle)
  | close (move : m = .call m.conn .close) (dev : t.dev = s.dev.close) (pc : t.pc m.conn = .idle)
  | unlock (users : t.dev.users = s.dev.users) (locked : t.dev.locked = true → s.dev.locked = true)
      (drv : t.dev.drv = s.dev.drv) (pc : t.pc m.conn = .idle)

theorem After.admits {k : After} (h : conn ∈ s.dev.users) : Admits s conn k.pc := by
  cases k
  · trivial
  · trivial
  · exact h

theorem unlock_spec (d : Device Drv) (conn : ConnId) :
    let d' := (d.unlock conn : Outcome (Device Drv) Drv Unit).state
    d'.users = d.users ∧ (d'.locked = true → d.locked = true) ∧ d'.drv = d.drv := by
  rw [Device.unlock]
  split
  · exact ⟨rfl, id, rfl⟩
  · split
    · exact ⟨rfl, id, rfl⟩
    · exact ⟨rfl, by simp [Outcome.done], rfl⟩

/-- `useCommit` fails and changes nothing, or leaves the device open and used. -/
theorem useCommit_cases (env : DriverEnv Drv) (conn : ConnId) (d : Device Drv) :
    (d.drv = none ∧ ∃ e, d.useCommit env conn = ⟨.error (.err e), d, []⟩) ∨
    (∃ drv, d.useCommit env conn =
      .done () { d with drv := some drv, users := insert conn d.users }) := by
  rw [Device.useCommit]
  rcases hd : d.drv with - | drv
  · rcases hc : env.create d.drvName d.drvArgs with e | drv
    · exact .inl ⟨rfl, e, by simp⟩
    · exact .inr ⟨drv, by simp⟩
  · exact .inr ⟨drv, by simp⟩

theorem effect_start (hidle : s.pc conn = .idle) (c : Call) :
    Effect s (.call conn c : Move Drv) (s.start conn c) := by
  cases c with
  | use | lock | ask msg =>
    exact .quiet (.refl _) (.inr (by simp [start, Move.conn, Admits]))
  | release => exact .release rfl hidle
  | close => exact .close rfl rfl hidle
  | unlock =>
    obtain ⟨hu, hl, hd⟩ := unlock_spec s.dev conn
    exact .unlock hu hl hd hidle

theorem effect_advance (h : s.advance env conn = some t) : Effect s (.step conn env) t := by
  have quiet : ∀ p, Admits s conn p → Effect s (.step conn env) (s.goto conn p) := by
    intro p hp
    exact .quiet (.refl _) (.inr (by simpa [Move.conn] using hp))
  rw [advance] at h
  rcases hpc : s.pc conn with - | k | k | - | - | msg | msg | msg | - <;> rw [hpc] at h
  · cases h
  · dsimp only at h
    split at h
    · rename_i hmem; cases h; exact quiet _ (After.admits hmem)
    · rename_i hmem
      split at h
      · cases h; exact quiet _ trivial
      · cases h; exact quiet _ hmem
  · rcases useCommit_cases env conn s.dev with ⟨-, e, hu⟩ | ⟨drv, hu⟩
    · simp only [hu] at h
      cases h; exact quiet _ trivial
    · simp only [hu, Outcome.done] at h
      cases h
      exact .commit ⟨env, rfl⟩ k hpc rfl rfl rfl (by simp [Move.conn])
  · dsimp only at h
    split at h
    · cases h; exact quiet _ trivial
    · cases h; exact quiet _ trivial
  · dsimp only at h
    split at h
    · cases h; exact quiet _ trivial
    · rename_i hcard
      cases h
      exact .setLock hpc (not_not.mp hcard) rfl (by simp [Move.conn])
  · dsimp only at h
    split at h
    · rename_i hmem; cases h; exact quiet _ hmem
    · cases h; exact quiet _ trivial
  · dsimp only at h
    split at h
    · cases h
      exact .quiet (.refl _) (.inr (by simpa [Move.conn, Admits] using hpc))
    · cases h
  · dsimp only at h
    split at h
    · cases h; exact .quiet (.refl _) (.inl rfl)
    · cases h
      obtain ⟨hd, hu, hl, -⟩ := Device.askOpened_frame env msg s.dev
      exact .quiet ⟨hu, hl, hd⟩ (.inr (by simp [Move.conn, Admits]))
  · cases h
    exact .quiet (.refl _) (.inr (by simp [Move.conn, Admits]))

theorem step_effect (h : step s m = some t) : Effect s m t := by
  unfold step at h
  split at h
  · cases h
  · cases m with
    | call conn c =>
      dsimp only at h
      split at h
      · rename_i hidle; cases h; exact effect_start hidle c
      · cases h
    | step conn env => exact effect_advance h

/-! ### The mutex of the exchange -/

/-- The connection is between taking and releasing `cmd_mutex`. -/
def Pc.holdsCmd : Pc → Bool
  | .askCall _ => true
  | .askRet => true
  | _ => false

theorem After.holdsCmd_pc (k : After) : Pc.holdsCmd k.pc = false := by
  cases k <;> rfl

/-- **Where a step goes.**  The connection moves on, on the same side of the mutex;
it takes the mutex; it calls the null pointer; or it gives the mutex back. -/
theorem advance_cases (h : s.advance env conn = some t) :
    (∃ p d, t = goto conn p { s with dev := d } ∧ Pc.holdsCmd p = Pc.holdsCmd (s.pc conn)) ∨
    (∃ msg, s.pc conn = .askCmd msg ∧ s.cmd = none ∧
      t = goto conn (.askCall msg) { s with cmd := some conn }) ∨
    (∃ msg, s.pc conn = .askCall msg ∧ t = { s with crashed := true }) ∨
    (s.pc conn = .askRet ∧ t = goto conn .idle { s with cmd := none }) := by
  have on : ∀ p d, some (goto conn p { s with dev := d }) = some t →
      Pc.holdsCmd p = Pc.holdsCmd (s.pc conn) →
      ∃ p d, t = goto conn p { s with dev := d } ∧ Pc.holdsCmd p = Pc.holdsCmd (s.pc conn) :=
    fun p d ht hp => ⟨p, d, (Option.some.inj ht).symm, hp⟩
  rw [advance] at h
  rcases hpc : s.pc conn with - | k | k | - | - | msg | msg | msg | - <;> rw [hpc] at h on
  case idle => cases h
  case useTest =>
    left
    dsimp only at h
    split at h
    · exact on k.pc s.dev h (After.holdsCmd_pc k)
    · split at h
      · exact on .idle s.dev h rfl
      · exact on (.useCommit k) s.dev h rfl
  case useCommit =>
    left
    dsimp only at h
    split at h
    · exact on k.pc _ h (After.holdsCmd_pc k)
    · exact on .idle _ h rfl
  case lockTest =>
    left
    dsimp only at h
    split at h
    · exact on .lockFinal s.dev h rfl
    · exact on (.useTest .lock) s.dev h rfl
  case lockFinal =>
    left
    dsimp only at h
    split at h
    · exact on .idle s.dev h rfl
    · exact on .idle _ h rfl
  case askTest =>
    left
    dsimp only at h
    split at h
    · exact on (.askCmd msg) s.dev h rfl
    · exact on (.useTest (.ask msg)) s.dev h rfl
  case askCmd =>
    dsimp only at h
    split at h
    · rename_i hcmd; exact .inr (.inl ⟨msg, rfl, hcmd, (Option.some.inj h).symm⟩)
    · cases h
  case askCall =>
    dsimp only at h
    split at h
    · exact .inr (.inr (.inl ⟨msg, rfl, (Option.some.inj h).symm⟩))
    · exact .inl (on .askRet _ h rfl)
  case askRet => exact .inr (.inr (.inr ⟨rfl, (Option.some.inj h).symm⟩))

/-- The first step of a call: a place of the caller, or a new device. -/
theorem start_cases (hidle : s.pc conn = .idle) (c : Call) :
    ∃ p d, s.start conn c = goto conn p { s with dev := d } ∧ Pc.holdsCmd p = false := by
  have stay : ∀ d, ({ s with dev := d } : Threads Drv) = goto conn .idle { s with dev := d } := by
    intro d
    rw [goto, ← hidle, Function.update_eq_self]
  cases c with
  | use => exact ⟨.useTest .ret, s.dev, rfl, rfl⟩
  | lock => exact ⟨.lockTest, s.dev, rfl, rfl⟩
  | ask msg => exact ⟨.askTest msg, s.dev, rfl, rfl⟩
  | release | close | unlock => exact ⟨.idle, _, stay _, rfl⟩

theorem step_cases (h : step s m = some t) :
    (∃ p d, t = goto m.conn p { s with dev := d } ∧
      Pc.holdsCmd p = Pc.holdsCmd (s.pc m.conn)) ∨
    (∃ msg, s.pc m.conn = .askCmd msg ∧ s.cmd = none ∧
      t = goto m.conn (.askCall msg) { s with cmd := some m.conn }) ∨
    (∃ msg, s.pc m.conn = .askCall msg ∧ t = { s with crashed := true }) ∨
    (s.pc m.conn = .askRet ∧ t = goto m.conn .idle { s with cmd := none }) := by
  unfold step at h
  split at h
  · cases h
  · cases m with
    | call conn c =>
      dsimp only at h
      split at h
      · rename_i hidle
        obtain ⟨p, d, hstart, hp⟩ := start_cases hidle c
        refine .inl ⟨p, d, (Option.some.inj h).symm.trans hstart, ?_⟩
        rw [hp, show s.pc (Move.conn (.call conn c : Move Drv)) = .idle from hidle]
        rfl
      · cases h
    | step conn env => exact advance_cases h

/-- Only the connection that moves changes its place. -/
theorem step_pc_of_ne (h : step s m = some t) {c : ConnId} (hc : c ≠ m.conn) :
    t.pc c = s.pc c := by
  rcases step_cases h with ⟨p, d, rfl, -⟩ | ⟨msg, -, -, rfl⟩ | ⟨msg, -, rfl⟩ | ⟨-, rfl⟩
  · exact goto_pc_of_ne hc ..
  · exact goto_pc_of_ne hc ..
  · rfl
  · exact goto_pc_of_ne hc ..

/-- A step leaves `cmd_mutex` alone, takes it when it is free, or gives it back. -/
theorem step_cmd (h : step s m = some t) :
    (t.cmd = s.cmd ∧ Pc.holdsCmd (t.pc m.conn) = Pc.holdsCmd (s.pc m.conn)) ∨
    (s.cmd = none ∧ t.cmd = some m.conn ∧ Pc.holdsCmd (t.pc m.conn) = true) ∨
    (Pc.holdsCmd (s.pc m.conn) = true ∧ t.cmd = none ∧ Pc.holdsCmd (t.pc m.conn) = false) := by
  rcases step_cases h with ⟨p, d, rfl, hp⟩ | ⟨msg, -, hcmd, rfl⟩ | ⟨msg, -, rfl⟩ | ⟨hpc, rfl⟩
  · exact .inl ⟨rfl, by rw [goto_pc_self]; exact hp⟩
  · exact .inr (.inl ⟨hcmd, rfl, by rw [goto_pc_self]; rfl⟩)
  · exact .inl ⟨rfl, rfl⟩
  · exact .inr (.inr ⟨by rw [hpc]; rfl, rfl, by rw [goto_pc_self]; rfl⟩)

/-- `cmd_mutex` belongs to the connection in the exchange, if there is one. -/
def CmdInv (s : Threads Drv) : Prop := Owned Pc.holdsCmd s.cmd s.pc

theorem Start.cmdInv (h : s.Start) : s.CmdInv := by
  intro c
  rw [h.cmd, h.idle c]
  simp [Pc.holdsCmd]

theorem CmdInv.step (hs : s.CmdInv) (h : step s m = some t) : t.CmdInv := by
  have hpc : t.pc = Function.update s.pc m.conn (t.pc m.conn) := by
    funext c
    by_cases hc : c = m.conn
    · rw [hc, Function.update_self]
    · rw [Function.update_of_ne hc, step_pc_of_ne h hc]
  unfold CmdInv at hs ⊢
  rw [hpc]
  rcases step_cmd h with ⟨h₁, h₂⟩ | ⟨h₁, h₂, h₃⟩ | ⟨h₁, h₂, h₃⟩
  · rw [h₁]; exact hs.move h₂
  · rw [h₁] at hs
    rw [h₂]; exact hs.take h₃
  · rw [h₂]; exact hs.give h₁ h₃

/-! ### A call that nobody interrupts -/

theorem goto_goto (conn : ConnId) (p q : Pc) (s : Threads Drv) :
    goto conn p (s.goto conn q) = s.goto conn p := by
  simp [goto, Function.update_idem]

theorem goto_of_pc {p : Pc} (h : s.pc conn = p) : s.goto conn p = s := by
  simp [goto, ← h, Function.update_eq_self]

theorem step_of_not_crashed (h : s.crashed = false) :
    step s (.step conn env) = s.advance env conn := by
  rw [step, if_neg (by simp [h])]

/-- The steps of `use`, one after the other, are `use`. -/
theorem use_alone (env : DriverEnv Drv) {k : After} (hpc : s.pc conn = .useTest k)
    (hcrash : s.crashed = false) :
    ∃ n, run step s (List.replicate n (.step conn env)) =
      some (goto conn (match (s.dev.use env conn).ret with | .ok () => k.pc | .error _ => .idle)
        { s with dev := (s.dev.use env conn).state }) := by
  by_cases hmem : conn ∈ s.dev.users
  · refine ⟨1, ?_⟩
    have huse : s.dev.use env conn = .done () s.dev := if_pos hmem
    rw [List.replicate_one, run_cons, step_of_not_crashed hcrash, huse]
    simp [advance, hpc, hmem, Outcome.done]
  rcases hl : s.dev.locked with - | -
  · -- the two steps: the tests, and the change under the mutex
    refine ⟨2, ?_⟩
    have huse : s.dev.use env conn = s.dev.useCommit env conn := by
      rw [Device.use, if_neg hmem, if_neg (by simp [hl])]
      rfl
    have h₁ : s.advance env conn = some (s.goto conn (.useCommit k)) := by
      simp [advance, hpc, hmem, hl]
    have h₂ : (s.goto conn (.useCommit k)).advance env conn =
        some (goto conn (match (s.dev.useCommit env conn).ret with
          | .ok () => k.pc | .error _ => .idle)
          { s with dev := (s.dev.useCommit env conn).state }) := by
      rw [advance]
      rw [goto_pc_self]
      dsimp only [goto_dev]
      split <;> exact congrArg some (goto_goto conn _ (.useCommit k)
        { s with dev := (s.dev.useCommit env conn).state })
    have hcrash' : (s.goto conn (.useCommit k)).crashed = false := hcrash
    rw [List.replicate_succ, List.replicate_one, run_cons,
      step_of_not_crashed hcrash, h₁, Option.bind_some, run_cons, step_of_not_crashed hcrash', h₂, huse]
    rfl
  · refine ⟨1, ?_⟩
    have huse : s.dev.use env conn = .throw "device is locked" s.dev := by
      rw [Device.use, if_neg hmem, if_pos hl]
    rw [List.replicate_one, run_cons, step_of_not_crashed hcrash, huse]
    simp [advance, hpc, hmem, hl, Outcome.throw, throwErr]

theorem run_replicate_add {m : Move Drv} {u : Threads Drv} {n k : Nat}
    (hn : run step s (List.replicate n m) = some t) (hk : run step t (List.replicate k m) = some u) :
    run step s (List.replicate (n + k) m) = some u := by
  rw [← List.replicate_append_replicate]
  exact run_append_eq_some.mpr ⟨t, hn, hk⟩

/-- The test in front of `use` and the steps of `use` are `use`. -/
theorem test_alone (env : DriverEnv Drv) {k : After} (hpc : s.pc conn = After.testPc k)
    (hcrash : s.crashed = false) :
    ∃ n, run step s (List.replicate n (.step conn env)) =
      some (goto conn (match (s.dev.use env conn).ret with | .ok () => k.pc | .error _ => .idle)
        { s with dev := (s.dev.use env conn).state }) := by
  -- a user goes straight on, anybody else to `use`
  have hgo : ∀ p : Pc, step s (.step conn env) = some (s.goto conn p) →
      (conn ∈ s.dev.users → p = k.pc) → (conn ∉ s.dev.users → p = .useTest k) →
      ∃ n, run step s (List.replicate n (.step conn env)) =
        some (goto conn (match (s.dev.use env conn).ret with | .ok () => k.pc | .error _ => .idle)
          { s with dev := (s.dev.use env conn).state }) := by
    intro p hstep hin hout
    by_cases hmem : conn ∈ s.dev.users
    · refine ⟨1, ?_⟩
      have huse : s.dev.use env conn = .done () s.dev := if_pos hmem
      rw [List.replicate_one, run_cons, hstep, huse, hin hmem]
      rfl
    · rw [hout hmem] at hstep
      obtain ⟨n, hrun⟩ := use_alone (s := s.goto conn (.useTest k)) env (goto_pc_self ..) hcrash
      refine ⟨n + 1, ?_⟩
      rw [List.replicate_succ, run_cons, hstep, Option.bind_some, hrun]
      exact congrArg some (goto_goto conn _ (.useTest k)
        { s with dev := (s.dev.use env conn).state })
  cases k with
  | ret => exact use_alone env hpc hcrash
  | lock =>
    refine hgo (if conn ∈ s.dev.users then .lockFinal else .useTest .lock) ?_
      (fun h => if_pos h) (fun h => if_neg h)
    have hpc' : s.pc conn = .lockTest := hpc
    rw [step_of_not_crashed hcrash, advance, hpc']
    dsimp only
    split <;> rfl
  | ask msg =>
    refine hgo (if conn ∈ s.dev.users then .askCmd msg else .useTest (.ask msg)) ?_
      (fun h => if_pos h) (fun h => if_neg h)
    have hpc' : s.pc conn = .askTest msg := hpc
    rw [step_of_not_crashed hcrash, advance, hpc']
    dsimp only
    split <;> rfl

/-- The count of the users in `lock`. -/
theorem lockFinal_alone (env : DriverEnv Drv) (hpc : s.pc conn = .lockFinal)
    (hcrash : s.crashed = false) :
    run step s (List.replicate 1 (.step conn env)) =
      some (goto conn .idle { s with dev :=
        if s.dev.users.card ≠ 1 then s.dev else { s.dev with locked := true } }) := by
  rw [List.replicate_one, run_cons, step_of_not_crashed hcrash, advance, hpc]
  dsimp only
  split <;> rfl

/-- The exchange with the driver, from the wait for `cmd_mutex` on. -/
theorem exchange_alone (env : DriverEnv Drv) {msg : Str} (hpc : s.pc conn = .askCmd msg)
    (hcrash : s.crashed = false) (hcmd : s.cmd = none)
    (hnull : (s.dev.askOpened env msg).ret ≠ .error .nullDriver) :
    run step s (List.replicate 3 (.step conn env)) =
      some (goto conn .idle { s with dev := (s.dev.askOpened env msg).state }) := by
  have h₁ : step s (.step conn env) =
      some (goto conn (.askCall msg) { s with cmd := some conn }) := by
    rw [step_of_not_crashed hcrash, advance, hpc]
    exact if_pos hcmd
  have h₂ : step (goto conn (.askCall msg) { s with cmd := some conn }) (.step conn env) =
      some (goto conn .askRet
        { s with dev := (s.dev.askOpened env msg).state, cmd := some conn }) := by
    rw [step_of_not_crashed (by exact hcrash), advance, goto_pc_self]
    dsimp only
    rw [if_neg (by exact hnull)]
    exact congrArg some (goto_goto conn .askRet (.askCall msg)
      { s with dev := (s.dev.askOpened env msg).state, cmd := some conn })
  have h₃ : step (goto conn .askRet
      { s with dev := (s.dev.askOpened env msg).state, cmd := some conn }) (.step conn env) =
      some (goto conn .idle { s with dev := (s.dev.askOpened env msg).state }) := by
    rw [step_of_not_crashed (by exact hcrash), advance, goto_pc_self]
    dsimp only
    rw [← hcmd]
    exact congrArg some (goto_goto conn .idle .askRet
      { s with dev := (s.dev.askOpened env msg).state })
  show run step s [.step conn env, .step conn env, .step conn env] = _
  rw [run_cons, h₁, Option.bind_some, run_cons, h₂, Option.bind_some, run_cons, h₃]
  rfl

end Threads

/-- The method behind a call. -/
def Call.method (env : DriverEnv Drv) (conn : ConnId) (d : Device Drv) : Call → Device Drv
  | .use => (d.use env conn).state
  | .release => d.release conn
  | .close => d.close
  | .lock => (d.lock env conn).state
  | .unlock => (d.unlock conn : Outcome (Device Drv) Drv Unit).state
  | .ask msg => (d.ask env conn msg).state

namespace Threads

/-- **A call that nobody interrupts is the method**: it comes back to where it
started, with the device the method leaves. -/
theorem call_alone (env : DriverEnv Drv) (conn : ConnId) (c : Call) (hs : s.Start) :
    ∃ n, run step s (.call conn c :: List.replicate n (.step conn env)) =
      some { s with dev := c.method env conn s.dev } := by
  have hcall : step s (.call conn c) = some (s.start conn c) := by
    simp [step, hs.crashed, hs.idle conn]
  have hback : ∀ d : Device Drv, goto conn .idle { s with dev := d } = { s with dev := d } :=
    fun d => goto_of_pc (hs.idle conn)
  have hsome : ∀ (k : After) {n : Nat} {u : Threads Drv},
      step s (.call conn c) = some (s.goto conn (After.testPc k)) →
      run step (s.goto conn (After.testPc k)) (List.replicate n (.step conn env)) = some u →
      run step s (.call conn c :: List.replicate n (.step conn env)) = some u :=
    fun _ _ _ h₁ h₂ => run_cons_eq_some.mpr ⟨_, h₁, h₂⟩
  have htest : ∀ k : After, ∃ n, run step (s.goto conn (After.testPc k))
      (List.replicate n (.step conn env)) =
        some (goto conn (match (s.dev.use env conn).ret with | .ok () => k.pc | .error _ => .idle)
          { s with dev := (s.dev.use env conn).state }) := by
    intro k
    obtain ⟨n, hrun⟩ := test_alone (s := s.goto conn (After.testPc k)) env (goto_pc_self ..)
      hs.crashed
    exact ⟨n, hrun.trans (congrArg some (goto_goto conn _ (After.testPc k)
      { s with dev := (s.dev.use env conn).state }))⟩
  cases c with
  | release | close | unlock => exact ⟨0, by rw [run_cons, hcall]; rfl⟩
  | use =>
    obtain ⟨n, hrun⟩ := htest .ret
    refine ⟨n, hsome .ret hcall (hrun.trans (congrArg some ?_))⟩
    have hidle : (match (s.dev.use env conn).ret with
        | .ok () => After.pc .ret | .error _ => .idle) = Pc.idle := by
      split <;> rfl
    rw [hidle]
    exact hback _
  | lock =>
    obtain ⟨n, hrun⟩ := htest .lock
    rcases hret : (s.dev.use env conn).ret with x | ⟨⟩
    · rw [hret] at hrun
      refine ⟨n, hsome .lock hcall (hrun.trans (congrArg some ?_))⟩
      rw [Call.method, Device.lock_eq, Outcome.bind_of_error hret]
      exact hback _
    · rw [hret] at hrun
      have hdev : (if (s.dev.use env conn).state.users.card ≠ 1 then (s.dev.use env conn).state
          else { (s.dev.use env conn).state with locked := true }) = (s.dev.lock env conn).state := by
        rw [Device.lock_eq, Outcome.bind_of_ok hret]
        by_cases hcard : (s.dev.use env conn).state.users.card = 1
        · simp [hcard, Outcome.done]
        · simp [hcard, Outcome.throw]
      have hfinal := lockFinal_alone
        (s := goto conn .lockFinal { s with dev := (s.dev.use env conn).state }) env
        (goto_pc_self ..) hs.crashed
      refine ⟨n + 1, hsome .lock hcall (run_replicate_add hrun (hfinal.trans (congrArg some ?_)))⟩
      refine (goto_goto conn .idle .lockFinal { s with dev := _ }).trans ((hback _).trans ?_)
      exact congrArg (fun d => { s with dev := d }) hdev
  | ask msg =>
    obtain ⟨n, hrun⟩ := htest (.ask msg)
    rcases hret : (s.dev.use env conn).ret with x | ⟨⟩
    · rw [hret] at hrun
      refine ⟨n, hsome (.ask msg) hcall (hrun.trans (congrArg some ?_))⟩
      rw [Call.method, Device.ask_eq, Outcome.bind_of_error hret]
      exact hback _
    · rw [hret] at hrun
      have hnull : (s.dev.ask env conn msg).ret ≠ .error .nullDriver :=
        hs.wellFormed.ask_ne_nullDriver
      rw [Device.ask_eq, Outcome.bind_of_ok hret] at hnull
      have hexch := exchange_alone
        (s := goto conn (.askCmd msg) { s with dev := (s.dev.use env conn).state }) env
        (goto_pc_self ..) hs.crashed hs.cmd hnull
      refine ⟨n + 3, hsome (.ask msg) hcall (run_replicate_add hrun (hexch.trans (congrArg some ?_)))⟩
      rw [Call.method, Device.ask_eq, Outcome.bind_of_ok hret]
      exact (goto_goto conn .idle (.askCmd msg) _).trans (hback _)

end Threads

end Device2
