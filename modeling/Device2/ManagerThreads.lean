/-
Device2/ManagerThreads.lean

The threads of the server with its three kinds of mutexes: the requests to devices, and
the reloads.

`DevManager::run` takes the shared lock of the manager for an action on a device and
keeps it during the call; `read_conf` takes the exclusive lock to put new devices in
place.  Inside a call the threads are those of `Device2.Threads`, where `data_mutex`
makes the steps and `cmd_mutex` is held for an exchange.  A `reload` is read on the
thread of its connection, or on the main thread, to which the system gives `SIGHUP`.

What the code does outside of these mutexes is left out: requests without the name of a
device, the actions on names and lists, and `conn_close` and `release_all`, which go
through the devices without the lock of the manager.  Data races are left out as well: a
step reads and writes the data of its device alone, although the tests of `use` and
`lock`, `info`, and an exchange, which goes to the driver and to the log buffers, do so
without `data_mutex`.  An exchange with its two lines for the logs is one step, and so
are `info` and the actions of the log.

`Effect` says what a step can do, and a request or a reload that nobody interrupts is
the one of `DevManager` (`request_alone`, `reload_alone`).  `Inv` is what holds of the
locks: they are held by the threads that are at such places.
-/
import Device2.DeviceRuns
import Device2.Threads

namespace Device2

open Std StepSystem Mutex DevManager

variable {Drv : Type}

/-! ### The steps -/

/-- The call of an action, if it is one that has several steps. -/
def DevManager.DevAct.toCall (msg : Str) : DevAct → Option Call
  | .ask => some (.ask msg)
  | .use => some .use
  | .release => some .release
  | .lock => some .lock
  | .unlock => some .unlock
  | .close => some .close
  | .logStart | .logFinish | .logGet | .info => none

/-- The first step of an action on a device; the log and `info` take only one. -/
def Threads.enter (conn : ConnId) (a : DevAct) (msg : Str) (th : Threads Drv) : Threads Drv :=
  match a.toCall msg with
  | some c => th.start conn c
  | none => { th with dev := (a.call noDriver conn msg th.dev).state }

/-- A thread of the server. -/
inductive Tid
  | conn (c : ConnId)
  | main
  deriving DecidableEq

/-- Where a thread is. -/
inductive Place (Drv : Type)
  | idle
  | wantShared (k : Str) (a : DevAct) (msg : Str)
  /-- Inside a call of the device `k`, with the shared lock. -/
  | inCall (k : Str)
  /-- A new list of devices has been read. -/
  | wantLock (ret : ExtTreeMap Str (Device Drv))
  /-- With the exclusive lock. -/
  | renewing (ret : ExtTreeMap Str (Device Drv))

/-- The manager, the devices with the calls on them, and the threads. -/
structure Pool (Drv : Type) where
  devfile : Str
  devices : ExtTreeMap Str (Threads Drv)
  place : Tid → Place Drv := fun _ => .idle
  /-- The holders of the shared lock. -/
  readers : Finset ConnId := ∅
  /-- The holder of the exclusive lock. -/
  writer : Option Tid := none
  /-- A driver was called through the null pointer. -/
  crashed : Bool := false

/-- What a thread does next. -/
inductive PoolMove (Drv : Type)
  | request (conn : ConnId) (k : Str) (a : DevAct) (msg : Str)
  | reload (t : Tid) (file : ConfFile)
  | lockShared (conn : ConnId)
  | call (conn : ConnId) (env : DriverEnv Drv)
  | unlockShared (conn : ConnId)
  | lock (t : Tid)
  | renew (t : Tid)

namespace PoolMove

def tid : PoolMove Drv → Tid
  | request conn _ _ _ => .conn conn
  | reload t _ => t
  | lockShared conn => .conn conn
  | call conn _ => .conn conn
  | unlockShared conn => .conn conn
  | lock t => t
  | renew t => t

/-- The thread goes on with what it has begun. -/
def GoesOn : PoolMove Drv → Prop
  | request .. | reload .. => False
  | lockShared _ | call .. | unlockShared _ | lock _ | renew _ => True

end PoolMove

namespace Pool

/-- Move the thread. -/
def goto (t : Tid) (p : Place Drv) (s : Pool Drv) : Pool Drv :=
  { s with place := Function.update s.place t p }

/-- Change the calls of a device. -/
def setDevice (k : Str) (th : Threads Drv) (s : Pool Drv) : Pool Drv :=
  { s with devices := s.devices.insert k th }

/-- New devices, and no calls on them. -/
def fresh (ret : ExtTreeMap Str (Device Drv)) : ExtTreeMap Str (Threads Drv) :=
  ret.map fun _ d => { dev := d }

/-- One step of one thread. -/
def step (s : Pool Drv) (m : PoolMove Drv) : Option (Pool Drv) :=
  if s.crashed then none
  else
    match m, s.place m.tid with
    | .request conn k a msg, .idle =>
      -- a request without a name does not come to the lock
      if k = [] then none else some (s.goto (.conn conn) (.wantShared k a msg))
    | .reload t file, .idle =>
      match parseConf s.devfile file with
      | .error _ => some s
      | .ok ret => some (s.goto t (.wantLock ret))
    | .lockShared conn, .wantShared k a msg =>
      if s.writer = none then
        match s.devices[k]? with
        -- an unknown device: the exception gives the lock back
        | none => some (s.goto (.conn conn) .idle)
        | some th =>
          some { (s.goto (.conn conn) (.inCall k)).setDevice k (th.enter conn a msg) with
            readers := insert conn s.readers }
      else none
    | .call conn env, .inCall k =>
      match s.devices[k]? with
      | none => none
      | some th =>
        (th.step (.step conn env)).map fun th' => { s.setDevice k th' with crashed := th'.crashed }
    | .unlockShared conn, .inCall k =>
      match s.devices[k]? with
      | none => none
      | some th =>
        if th.pc conn = .idle then
          some { s.goto (.conn conn) .idle with readers := s.readers.erase conn }
        else none
    | .lock t, .wantLock ret =>
      if s.writer = none ∧ s.readers = ∅ then some { s.goto t (.renewing ret) with writer := some t }
      else none
    | .renew t, .renewing ret => some { s.goto t .idle with devices := fresh ret, writer := none }
    | _, _ => none

/-- The manager, before any thread does something. -/
def ofManager (m : DevManager Drv) : Pool Drv where
  devfile := m.devfile
  devices := fresh m.devices

/-- The server between two requests. -/
def Init (s : Pool Drv) : Prop := ∃ v : Server Drv, v.Reachable ∧ s = ofManager v.mgr

abbrev Reachable (s : Pool Drv) : Prop := StepSystem.Reachable step Init s

variable {s t : Pool Drv} {m : PoolMove Drv} {conn : ConnId} {k : Str}

@[simp] theorem goto_place_self (i : Tid) (p : Place Drv) (s : Pool Drv) :
    (s.goto i p).place i = p := Function.update_self ..

theorem goto_place_of_ne {i j : Tid} (h : j ≠ i) (p : Place Drv) (s : Pool Drv) :
    (s.goto i p).place j = s.place j := Function.update_of_ne h ..

theorem setDevice_getElem? (k : Str) (th : Threads Drv) (s : Pool Drv) (k' : Str) :
    (s.setDevice k th).devices[k']? = if k = k' then some th else s.devices[k']? := by
  rw [setDevice, getElem?_insert_if]

theorem insert_insert_self {V : Type} (devs : ExtTreeMap Str V) (k : Str) (v v' : V) :
    (devs.insert k v).insert k v' = devs.insert k v' := by
  refine ExtTreeMap.ext_getElem? fun {k'} => ?_
  simp only [getElem?_insert_if]
  split <;> rfl

theorem fresh_insert (ret : ExtTreeMap Str (Device Drv)) (k : Str) (d : Device Drv) :
    fresh (ret.insert k d) = (fresh ret).insert k { dev := d } := by
  refine ExtTreeMap.ext_getElem? fun {k'} => ?_
  simp only [fresh, ExtTreeMap.getElem?_map, getElem?_insert_if]
  split <;> rfl

theorem fresh_getElem? {ret : ExtTreeMap Str (Device Drv)} {th : Threads Drv}
    (h : (fresh ret)[k]? = some th) : ∃ d, ret[k]? = some d ∧ th = { dev := d } := by
  rw [fresh, ExtTreeMap.getElem?_map] at h
  obtain ⟨d, hd, rfl⟩ := Option.map_eq_some_iff.mp h
  exact ⟨d, hd, rfl⟩

/-! ### What a step can do -/

/-- **What a step can do.** -/
inductive Effect (s : Pool Drv) : PoolMove Drv → Pool Drv → Prop
  | refused (i : Tid) (file : ConfFile) (e : Err) (idle : s.place i = .idle)
      (file_error : (parseConf s.devfile file : Except Err (ExtTreeMap Str (Device Drv))) = .error e) :
      Effect s (.reload i file) s
  | request (conn : ConnId) (k : Str) (a : DevAct) (msg : Str)
      (idle : s.place (.conn conn) = .idle) (named : k ≠ []) :
      Effect s (.request conn k a msg) (s.goto (.conn conn) (.wantShared k a msg))
  | reload (i : Tid) (file : ConfFile) (ret : ExtTreeMap Str (Device Drv))
      (idle : s.place i = .idle) (file_ok : parseConf s.devfile file = .ok ret) :
      Effect s (.reload i file) (s.goto i (.wantLock ret))
  | unknown (conn : ConnId) (k : Str) (a : DevAct) (msg : Str)
      (place : s.place (.conn conn) = .wantShared k a msg) (unknown : s.devices[k]? = none) :
      Effect s (.lockShared conn) (s.goto (.conn conn) .idle)
  | enter (conn : ConnId) (k : Str) (a : DevAct) (msg : Str) (th : Threads Drv)
      (place : s.place (.conn conn) = .wantShared k a msg) (free : s.writer = none)
      (device : s.devices[k]? = some th) :
      Effect s (.lockShared conn)
        { (s.goto (.conn conn) (.inCall k)).setDevice k (th.enter conn a msg) with
          readers := insert conn s.readers }
  | call (conn : ConnId) (env : DriverEnv Drv) (k : Str) (th th' : Threads Drv)
      (place : s.place (.conn conn) = .inCall k) (device : s.devices[k]? = some th)
      (step : th.step (.step conn env) = some th') :
      Effect s (.call conn env) { s.setDevice k th' with crashed := th'.crashed }
  | leave (conn : ConnId) (k : Str) (th : Threads Drv) (place : s.place (.conn conn) = .inCall k)
      (device : s.devices[k]? = some th) (done : th.pc conn = .idle) :
      Effect s (.unlockShared conn)
        { s.goto (.conn conn) .idle with readers := s.readers.erase conn }
  | lock (i : Tid) (ret : ExtTreeMap Str (Device Drv)) (place : s.place i = .wantLock ret)
      (free : s.writer = none) (alone : s.readers = ∅) :
      Effect s (.lock i) { s.goto i (.renewing ret) with writer := some i }
  | renew (i : Tid) (ret : ExtTreeMap Str (Device Drv)) (place : s.place i = .renewing ret) :
      Effect s (.renew i) { s.goto i .idle with devices := fresh ret, writer := none }

theorem step_effect (h : s.step m = some t) : s.crashed = false ∧ Effect s m t := by
  rw [step.eq_def] at h
  split at h
  · cases h
  rename_i hc
  refine ⟨Bool.eq_false_iff.mpr hc, ?_⟩
  split at h
  · rename_i conn k a msg hp
    split at h
    · cases h
    · rename_i hk
      cases h; exact .request conn k a msg hp hk
  · rename_i i file hp
    split at h
    · rename_i e hfile
      cases h; exact .refused i file e hp hfile
    · rename_i ret hfile
      cases h; exact .reload i file ret hp hfile
  · rename_i conn k a msg hp
    split at h
    · rename_i hfree
      split at h
      · rename_i hk
        cases h; exact .unknown conn k a msg hp hk
      · rename_i th hth
        cases h; exact .enter conn k a msg th hp hfree hth
    · cases h
  · rename_i conn env k hp
    split at h
    · cases h
    · rename_i th hth
      obtain ⟨th', hstep, rfl⟩ := Option.map_eq_some_iff.mp h
      exact .call conn env k th th' hp hth hstep
  · rename_i conn k hp
    split at h
    · cases h
    · rename_i th hth
      split at h
      · rename_i hdone
        cases h; exact .leave conn k th hp hth hdone
      · cases h
  · rename_i i ret hp
    split at h
    · rename_i hfree
      cases h; exact .lock i ret hp hfree.1 hfree.2
    · cases h
  · rename_i i ret hp
    cases h; exact .renew i ret hp
  · cases h

section Steps
variable {i : Tid} {ret : ExtTreeMap Str (Device Drv)} {a : DevAct} {msg : Str} {th : Threads Drv}

theorem step_lockShared (hfine : s.crashed = false) (hc : s.place (.conn conn) = .wantShared k a msg)
    (hfree : s.writer = none) (hk : s.devices[k]? = some th) : s.step (.lockShared conn) =
      some { (s.goto (.conn conn) (.inCall k)).setDevice k (th.enter conn a msg) with
        readers := insert conn s.readers } := by
  rw [step.eq_def, if_neg (by simp [hfine])]
  simp only [PoolMove.tid, hc, hk]
  exact if_pos hfree

theorem step_lockShared_unknown (hfine : s.crashed = false)
    (hc : s.place (.conn conn) = .wantShared k a msg) (hfree : s.writer = none)
    (hk : s.devices[k]? = none) :
    s.step (.lockShared conn) = some (s.goto (.conn conn) .idle) := by
  rw [step.eq_def, if_neg (by simp [hfine])]
  simp only [PoolMove.tid, hc, hk]
  exact if_pos hfree

theorem step_call (hfine : s.crashed = false) (hc : s.place (.conn conn) = .inCall k)
    (hk : s.devices[k]? = some th) {env : DriverEnv Drv} {th' : Threads Drv}
    (hth : th.step (.step conn env) = some th') :
    s.step (.call conn env) = some { s.setDevice k th' with crashed := th'.crashed } := by
  rw [step.eq_def, if_neg (by simp [hfine])]
  simp only [PoolMove.tid, hc, hk, hth, Option.map_some]

theorem step_unlockShared (hfine : s.crashed = false) (hc : s.place (.conn conn) = .inCall k)
    (hk : s.devices[k]? = some th) (hdone : th.pc conn = .idle) : s.step (.unlockShared conn) =
      some { s.goto (.conn conn) .idle with readers := s.readers.erase conn } := by
  rw [step.eq_def, if_neg (by simp [hfine])]
  simp only [PoolMove.tid, hc, hk]
  exact if_pos hdone

theorem step_lock (hfine : s.crashed = false) (hi : s.place i = .wantLock ret)
    (hfree : s.writer = none) (halone : s.readers = ∅) :
    s.step (.lock i) = some { s.goto i (.renewing ret) with writer := some i } := by
  rw [step.eq_def, if_neg (by simp [hfine])]
  simp only [PoolMove.tid, hi]
  exact if_pos ⟨hfree, halone⟩

theorem step_renew (hfine : s.crashed = false) (hi : s.place i = .renewing ret) :
    s.step (.renew i) = some { s.goto i .idle with devices := fresh ret, writer := none } := by
  rw [step.eq_def, if_neg (by simp [hfine])]
  simp only [PoolMove.tid, hi]

end Steps

/-- Only the thread that moves changes its place. -/
theorem step_place_of_ne (h : s.step m = some t) {i : Tid} (hi : i ≠ m.tid) : t.place i = s.place i := by
  obtain ⟨-, he⟩ := step_effect h
  cases he with
  | refused => rfl
  | call => rfl
  | request | reload | unknown | enter | leave | lock | renew => exact goto_place_of_ne hi ..

end Pool

/-! ### A request alone -/

namespace DevManager

/-- The call of an action is the action. -/
theorem DevAct.method_toCall {a : DevAct} {msg : Str} {c : Call} (h : a.toCall msg = some c)
    (env : DriverEnv Drv) (conn : ConnId) (d : Device Drv) :
    c.method env conn d = (a.call env conn msg d).state := by
  cases a <;> cases h
  case use => exact (noAnswer_state _).symm
  case lock => exact (noAnswer_state _).symm
  case unlock => exact (noAnswer_state _).symm
  all_goals rfl

end DevManager

namespace Threads

variable {th : Threads Drv}

theorem enter_crashed (conn : ConnId) (a : DevAct) (msg : Str) (th : Threads Drv) :
    (th.enter conn a msg).crashed = th.crashed := by
  cases a <;> rfl

/-- An action that nobody interrupts, after its first step. -/
theorem enter_alone (hs : th.Start) (conn : ConnId) (env : DriverEnv Drv) (a : DevAct) (msg : Str) :
    ∃ n, run Threads.step (th.enter conn a msg) (List.replicate n (.step conn env)) =
      some { th with dev := (a.call env conn msg th.dev).state } := by
  rw [enter]
  rcases hc : a.toCall msg with - | c
  · refine ⟨0, ?_⟩
    cases a <;> cases hc <;> rfl
  · obtain ⟨n, hrun⟩ := call_alone env conn c hs
    rw [DevAct.method_toCall hc] at hrun
    obtain ⟨u, hu, hrest⟩ := run_cons_eq_some.mp hrun
    have hstart : Threads.step th (.call conn c) = some (th.start conn c) := by
      simp [Threads.step, hs.crashed, hs.idle conn]
    cases hstart.symm.trans hu
    exact ⟨n, hrest⟩

end Threads

namespace Pool

variable {s : Pool Drv} {conn : ConnId} {k : Str} {th th' : Threads Drv}

/-- The steps of a connection inside a call are those of the device. -/
theorem run_calls {env : DriverEnv Drv} {n : ℕ} (hc : s.place (.conn conn) = .inCall k)
    (hk : s.devices[k]? = some th) (hcrash : s.crashed = th.crashed)
    (hrun : run Threads.step th (List.replicate n (.step conn env)) = some th') :
    run step s (List.replicate n (.call conn env)) =
      some { s.setDevice k th' with crashed := th'.crashed } := by
  induction n generalizing s th with
  | zero =>
    cases hrun
    refine congrArg some ?_
    rw [setDevice, insert_getElem?_self hk, ← hcrash]
  | succ n ih =>
    rw [List.replicate_succ] at hrun ⊢
    obtain ⟨th₁, h₁, hrest⟩ := run_cons_eq_some.mp hrun
    have hfine : th.crashed = false := by
      rw [Threads.step] at h₁
      split at h₁
      · cases h₁
      · simpa using ‹¬ th.crashed = true›
    rw [run_cons, step_call (hcrash.trans hfine) hc hk h₁, Option.bind_some]
    refine (ih (s := { s.setDevice k th₁ with crashed := th₁.crashed }) hc
      ((setDevice_getElem? ..).trans (if_pos rfl)) rfl hrest).trans (congrArg some ?_)
    simp only [setDevice, insert_insert_self]

/-- **A request that nobody interrupts** is the action on the device. -/
theorem request_alone {m : DevManager Drv} (hm : m.AllDevices Device.WellFormed) (hk : k ≠ [])
    {d : Device Drv} (hd : m.devices[k]? = some d) (url : Str) (conn : ConnId)
    (env : DriverEnv Drv) (a : DevAct) (msg : Str) :
    ∃ n, run step (ofManager m) ([.request conn k a msg, .lockShared conn] ++
      (List.replicate n (.call conn env) ++ [.unlockShared conn])) =
        some (ofManager (m.onDevice url k (a.call env conn msg)).state) := by
  have hfresh : (fresh m.devices)[k]? = some { dev := d } := by
    rw [fresh, ExtTreeMap.getElem?_map, hd]
    rfl
  have hstart : ({ dev := d } : Threads Drv).Start := ⟨hm k d hd, fun _ => rfl, rfl, rfl⟩
  obtain ⟨n, hrun⟩ := Threads.enter_alone hstart conn env a msg
  refine ⟨n, ?_⟩
  -- the connection gets the lock and enters the call
  let s₁ : Pool Drv := (ofManager m).goto (.conn conn) (.wantShared k a msg)
  let s₂ : Pool Drv := { (s₁.goto (.conn conn) (.inCall k)).setDevice k
    (Threads.enter conn a msg { dev := d }) with readers := insert conn s₁.readers }
  have h₁ : step (ofManager m) (.request conn k a msg) = some s₁ := by
    simp [step, ofManager, PoolMove.tid, hk, s₁]
  have h₂ : step s₁ (.lockShared conn) = some s₂ :=
    step_lockShared rfl (goto_place_self ..) rfl hfresh
  rw [List.cons_append, run_cons, h₁, Option.bind_some, List.cons_append, run_cons, h₂,
    Option.bind_some, List.nil_append, run_append]
  -- and leaves it when it is done
  have hcall : s₂.place (.conn conn) = .inCall k := goto_place_self ..
  have hdev : s₂.devices[k]? = some _ := (setDevice_getElem? ..).trans (if_pos rfl)
  let s₃ : Pool Drv := { s₂.setDevice k { dev := (a.call env conn msg d).state } with crashed := false }
  have h₃ : run step s₂ (List.replicate n (.call conn env)) = some s₃ :=
    run_calls hcall hdev (Threads.enter_crashed conn a msg { dev := d }).symm hrun
  have h₄ : step s₃ (.unlockShared conn) =
      some { s₃.goto (.conn conn) .idle with readers := s₃.readers.erase conn } :=
    step_unlockShared (k := k) rfl hcall ((setDevice_getElem? ..).trans (if_pos rfl)) rfl
  rw [h₃, Option.bind_some, run_cons, h₄]
  refine congrArg some ?_
  rw [onDevice_of_getElem? url hk hd]
  simp [s₃, s₂, s₁, goto, setDevice, ofManager, insert_insert_self, fresh_insert]

/-- A reload that nobody interrupts. -/
theorem reload_alone (m : DevManager Drv) (i : Tid) {file : ConfFile}
    (hok : (m.readConf file).ret.isOk) :
    run step (ofManager m) [.reload i file, .lock i, .renew i] =
      some (ofManager (m.readConf file).state) := by
  rcases readConf_cases file m with ⟨e, -, hr⟩ | ⟨ret, hp, hr⟩
  · rw [hr] at hok
    cases hok
  · let s₁ : Pool Drv := (ofManager m).goto i (.wantLock ret)
    let s₂ : Pool Drv := { s₁.goto i (.renewing ret) with writer := some i }
    have h₁ : step (ofManager m) (.reload i file) = some s₁ := by
      simp [step, ofManager, PoolMove.tid, hp, s₁]
    have h₂ : step s₁ (.lock i) = some s₂ := step_lock rfl (goto_place_self ..) rfl rfl
    have h₃ : step s₂ (.renew i) =
        some { s₂.goto i .idle with devices := fresh ret, writer := none } :=
      step_renew rfl (goto_place_self ..)
    rw [run_cons, h₁, Option.bind_some, run_cons, h₂, Option.bind_some, run_cons, h₃, hr]
    refine congrArg some ?_
    simp [s₂, s₁, goto, ofManager, Outcome.done]

end Pool

/-! ### The locks -/

namespace Place

/-- The thread has the exclusive lock. -/
def renews : Place Drv → Bool
  | renewing _ => true
  | _ => false

/-- The thread is in a request for a device. -/
def inRequest : Place Drv → Bool
  | wantShared .. => true
  | inCall _ => true
  | _ => false

end Place

namespace Threads

variable {th : Threads Drv} {conn c : ConnId}

theorem enter_pc_of_ne (h : c ≠ conn) (a : DevAct) (msg : Str) (th : Threads Drv) :
    (th.enter conn a msg).pc c = th.pc c := by
  cases a <;> first | rfl | exact goto_pc_of_ne h ..

theorem enter_cmdInv (hcmd : th.CmdInv) (hidle : th.pc conn = .idle) (a : DevAct) (msg : Str) :
    (th.enter conn a msg).CmdInv := by
  rw [enter]
  split
  · rename_i c _
    obtain ⟨p, d, hstart, hp⟩ := start_cases hidle c
    rw [hstart]
    apply Owned.move hcmd
    rw [hp, hidle]
    rfl
  · exact hcmd

end Threads

namespace Pool

variable {s t : Pool Drv} {m : PoolMove Drv} {conn : ConnId} {k : Str} {th : Threads Drv}

/-- The calls on the device `k` are those of connections that are inside a call of
it, and one of them at most is in the exchange. -/
structure Sound (s : Pool Drv) (k : Str) (th : Threads Drv) : Prop where
  cmd : th.CmdInv
  inside : ∀ c, th.pc c ≠ .idle → s.place (.conn c) = .inCall k
  fine : s.crashed = false → th.crashed = false

/-- The locks of the manager are held by the threads that are at such places. -/
structure Inv (s : Pool Drv) : Prop where
  readers : ∀ c, c ∈ s.readers ↔ ∃ k, s.place (.conn c) = .inCall k
  writer : Owned Place.renews s.writer s.place
  excl : s.writer ≠ none → s.readers = ∅
  known : ∀ c k, s.place (.conn c) = .inCall k → ∃ th, s.devices[k]? = some th
  sound : ∀ k th, s.devices[k]? = some th → s.Sound k th
  main : (s.place .main).inRequest = false
  finite : ∃ T : Finset Tid, ∀ i, i ∉ T → s.place i = .idle

theorem Sound.fresh (d : Device Drv) : s.Sound k { dev := d } where
  cmd := fun c => by simp [Threads.Pc.holdsCmd]
  inside := fun c hc => absurd rfl hc
  fine := fun _ => rfl

/-- A thread outside of the calls moves. -/
theorem Sound.goto {i : Tid} {p : Place Drv} (h : s.Sound k th) (hi : ∀ k', s.place i ≠ .inCall k') :
    (s.goto i p).Sound k th where
  cmd := h.cmd
  inside := by
    intro c hc
    have hplace := h.inside c hc
    have hne : Tid.conn c ≠ i := by rintro rfl; exact hi k hplace
    exact (goto_place_of_ne hne ..).trans hplace
  fine := h.fine

theorem Init.inv (h : Init s) : s.Inv := by
  obtain ⟨v, -, rfl⟩ := h
  refine ⟨?_, ?_, fun _ => rfl, ?_, ?_, rfl, ⟨∅, fun _ _ => rfl⟩⟩
  · intro c
    simp [ofManager]
  · intro i
    simp [ofManager, Place.renews]
  · intro c k hc
    cases hc
  · intro k th hth
    obtain ⟨d, -, rfl⟩ := fresh_getElem? hth
    exact .fresh d

/-- The thread that moves is among those that are somewhere. -/
theorem finite_goto (h : ∃ T : Finset Tid, ∀ i, i ∉ T → s.place i = .idle) (i : Tid) (p : Place Drv) :
    ∃ T : Finset Tid, ∀ j, j ∉ T → (s.goto i p).place j = .idle := by
  obtain ⟨T, hT⟩ := h
  refine ⟨insert i T, fun j hj => ?_⟩
  rw [Finset.mem_insert, not_or] at hj
  exact (goto_place_of_ne hj.1 ..).trans (hT j hj.2)

theorem main_goto (h : (s.place .main).inRequest = false) {i : Tid} {p : Place Drv}
    (hp : i = .main → p.inRequest = false) : ((s.goto i p).place .main).inRequest = false := by
  by_cases hi : Tid.main = i
  · subst hi
    rw [goto_place_self]
    exact hp rfl
  · rw [goto_place_of_ne hi]
    exact h

/-- Who is inside a call, after a thread has moved elsewhere. -/
theorem inCall_goto {i : Tid} {p : Place Drv} (hi : ∀ k', s.place i ≠ .inCall k')
    (hp : ∀ k', p ≠ .inCall k') (c : ConnId) (k : Str) :
    (s.goto i p).place (.conn c) = .inCall k ↔ s.place (.conn c) = .inCall k := by
  by_cases hc : Tid.conn c = i
  · rw [← hc, goto_place_self]
    exact iff_of_false (hp k) (hc ▸ hi k)
  · rw [goto_place_of_ne hc]

/-- A thread outside of the calls moves, and takes no lock. -/
theorem Inv.goto (hs : s.Inv) {i : Tid} {p : Place Drv} (hi : ∀ k', s.place i ≠ .inCall k')
    (hp : ∀ k', p ≠ .inCall k') (hr : p.renews = (s.place i).renews)
    (hmain : i = .main → p.inRequest = false) : (s.goto i p).Inv where
  readers c := (hs.readers c).trans (exists_congr fun k => (inCall_goto hi hp c k).symm)
  writer := hs.writer.move hr
  excl := hs.excl
  known c k h := hs.known c k ((inCall_goto hi hp c k).mp h)
  sound k th h := (hs.sound k th h).goto hi
  main := main_goto hs.main hmain
  finite := finite_goto hs.finite i p

/-- The calls on a device go on, and the threads stay where they are. -/
theorem Inv.setDevice (hs : s.Inv) {th' : Threads Drv} {b : Bool} (hcmd : th'.CmdInv)
    (hin : ∀ c, th'.pc c ≠ .idle → s.place (.conn c) = .inCall k)
    (hfine : b = false → th'.crashed = false) (hb : b = false → s.crashed = false) :
    Inv { s.setDevice k th' with crashed := b } where
  readers := hs.readers
  writer := hs.writer
  excl := hs.excl
  known c k' h := by
    obtain ⟨x, hx⟩ := hs.known c k' h
    show ∃ th, (s.setDevice k th').devices[k']? = some th
    rw [setDevice_getElem?]
    split
    · exact ⟨_, rfl⟩
    · exact ⟨x, hx⟩
  sound k' x hx := by
    change (s.setDevice k th').devices[k']? = some x at hx
    rw [setDevice_getElem?] at hx
    split at hx
    · rename_i hkk
      cases hx
      exact ⟨hcmd, fun c hc => hkk ▸ hin c hc, hfine⟩
    · have h := hs.sound k' x hx
      exact ⟨h.cmd, h.inside, fun hb' => h.fine (hb hb')⟩
  main := hs.main
  finite := hs.finite

/-- A thread enters a call with the shared lock. -/
theorem Inv.enter (hs : s.Inv) {a : DevAct} {msg : Str} (hplace : s.place (.conn conn) = .wantShared k a msg)
    (hfree : s.writer = none) (hk : s.devices[k]? = some th) :
    Inv { (s.goto (.conn conn) (.inCall k)).setDevice k (th.enter conn a msg) with
      readers := insert conn s.readers } := by
  have hth := hs.sound k th hk
  have hself : (s.goto (.conn conn) (.inCall k)).place (.conn conn) = .inCall k := goto_place_self ..
  have hother : ∀ i, i ≠ Tid.conn conn → (s.goto (.conn conn) (.inCall k)).place i = s.place i :=
    fun i hi => goto_place_of_ne hi ..
  have hidle : th.pc conn = .idle := by
    by_contra hpc
    have h := hth.inside conn hpc
    rw [hplace] at h
    cases h
  refine ⟨?_, ?_, fun h => absurd hfree h, ?_, ?_, ?_, finite_goto hs.finite _ _⟩
  · intro c
    rw [Finset.mem_insert]
    by_cases hc : c = conn
    · subst hc
      exact iff_of_true (.inl rfl) ⟨k, hself⟩
    · have hne : Tid.conn c ≠ .conn conn := fun h => hc (Tid.conn.inj h)
      rw [or_iff_right hc, hs.readers c]
      exact exists_congr fun k' => (congrArg (· = _) (hother _ hne).symm).to_iff
  · apply hs.writer.move
    rw [hplace]
    rfl
  · intro c k' hc
    show ∃ x, ((s.goto (.conn conn) (.inCall k)).setDevice k _).devices[k']? = some x
    rw [setDevice_getElem?]
    split
    · exact ⟨_, rfl⟩
    · rename_i hkk
      by_cases hcc : c = conn
      · subst hcc
        exact absurd (Place.inCall.inj (hself.symm.trans hc)) hkk
      · have hne : Tid.conn c ≠ .conn conn := fun h => hcc (Tid.conn.inj h)
        exact hs.known c k' ((hother _ hne).symm.trans hc)
  · intro k' x hx
    change ((s.goto (.conn conn) (.inCall k)).setDevice k _).devices[k']? = some x at hx
    rw [setDevice_getElem?] at hx
    split at hx
    · rename_i hkk
      subst hkk
      cases hx
      refine ⟨Threads.enter_cmdInv hth.cmd hidle a msg, fun c hc => ?_, fun hcr => ?_⟩
      · by_cases hcc : c = conn
        · subst hcc
          exact hself
        · have hne : Tid.conn c ≠ .conn conn := fun h => hcc (Tid.conn.inj h)
          rw [Threads.enter_pc_of_ne hcc] at hc
          exact (hother _ hne).trans (hth.inside c hc)
      · rw [Threads.enter_crashed]
        exact hth.fine hcr
    · have h := (hs.sound k' x hx).goto (i := .conn conn) (p := .inCall k) (by simp [hplace])
      exact ⟨h.cmd, h.inside, h.fine⟩
  · exact main_goto (i := .conn conn) (p := .inCall k) hs.main (by simp)

/-- A thread leaves its call and gives the shared lock back. -/
theorem Inv.leave (hs : s.Inv) (hplace : s.place (.conn conn) = .inCall k)
    (hk : s.devices[k]? = some th) (hdone : th.pc conn = .idle) :
    Inv { s.goto (.conn conn) .idle with readers := s.readers.erase conn } := by
  have hother : ∀ i, i ≠ Tid.conn conn → (s.goto (.conn conn) .idle).place i = s.place i :=
    fun i hi => goto_place_of_ne hi ..
  have hself : (s.goto (.conn conn) .idle).place (.conn conn) = .idle := goto_place_self ..
  have hstay : ∀ c k', (s.goto (.conn conn) .idle).place (.conn c) = .inCall k' ↔
      c ≠ conn ∧ s.place (.conn c) = .inCall k' := by
    intro c k'
    by_cases hc : c = conn
    · subst hc
      rw [hself]
      simp
    · have hne : Tid.conn c ≠ .conn conn := fun h => hc (Tid.conn.inj h)
      rw [hother _ hne]
      simp [hc]
  refine ⟨?_, ?_, ?_, ?_, ?_, ?_, finite_goto hs.finite _ _⟩
  · intro c
    rw [Finset.mem_erase, hs.readers c, ← exists_and_left]
    exact exists_congr fun k' => (hstay c k').symm
  · apply hs.writer.move
    rw [hplace]
    rfl
  · intro hw
    rw [hs.excl hw]
    rfl
  · intro c k' hc
    exact hs.known c k' ((hstay c k').mp hc).2
  · intro k' x hx
    have h := hs.sound k' x hx
    refine ⟨h.cmd, fun c hc => (hstay c k').mpr ⟨?_, h.inside c hc⟩, h.fine⟩
    rintro rfl
    -- the connection is done with its only call
    obtain rfl : k = k' := Place.inCall.inj (hplace.symm.trans (h.inside c hc))
    cases hk.symm.trans hx
    exact hc hdone
  · exact main_goto (i := .conn conn) (p := .idle) hs.main (by simp)

/-- A thread takes the exclusive lock. -/
theorem Inv.lock (hs : s.Inv) {i : Tid} {ret : ExtTreeMap Str (Device Drv)}
    (hplace : s.place i = .wantLock ret) (hfree : s.writer = none) (halone : s.readers = ∅) :
    Inv { s.goto i (.renewing ret) with writer := some i } := by
  have hin := fun c k => inCall_goto (s := s) (i := i) (p := .renewing ret) (by simp [hplace])
    (by simp) c k
  refine ⟨fun c => ?_, ?_, fun _ => halone, ?_, ?_, ?_, finite_goto hs.finite _ _⟩
  · exact (hs.readers c).trans (exists_congr fun k => (hin c k).symm)
  · have hw := hs.writer
    rw [hfree] at hw
    exact hw.take rfl
  · exact fun c k hc => hs.known c k ((hin c k).mp hc)
  · intro k th hth
    have h := (hs.sound k th hth).goto (i := i) (p := .renewing ret) (by simp [hplace])
    exact ⟨h.cmd, h.inside, h.fine⟩
  · exact main_goto hs.main fun _ => rfl

/-- The new devices are put in place, while nobody is inside a call. -/
theorem Inv.renew (hs : s.Inv) {i : Tid} {ret : ExtTreeMap Str (Device Drv)}
    (hplace : s.place i = .renewing ret) :
    Inv { s.goto i .idle with devices := fresh ret, writer := none } := by
  have hholds : (s.place i).renews = true := by
    rw [hplace]
    rfl
  have hin := fun c k => inCall_goto (s := s) (i := i) (p := .idle) (by simp [hplace]) (by simp) c k
  have hempty : s.readers = ∅ := hs.excl (by rw [(hs.writer i).mpr hholds]; simp)
  refine ⟨fun c => ?_, hs.writer.give hholds rfl, fun h => absurd rfl h, ?_, ?_, ?_,
    finite_goto hs.finite _ _⟩
  · exact (hs.readers c).trans (exists_congr fun k => (hin c k).symm)
  · intro c k hc
    have hmem := (hs.readers c).mpr ⟨k, (hin c k).mp hc⟩
    rw [hempty] at hmem
    cases hmem
  · intro k th hth
    obtain ⟨d, -, rfl⟩ := fresh_getElem? hth
    exact .fresh d
  · exact main_goto hs.main fun _ => rfl

theorem Inv.step (hs : s.Inv) (h : s.step m = some t) : t.Inv := by
  obtain ⟨hfine, he⟩ := step_effect h
  cases he with
  | refused => exact hs
  | request conn k a msg idle named =>
    exact hs.goto (by simp [idle]) (by simp) (by rw [idle]; rfl) (by simp)
  | reload i file ret idle file_ok =>
    exact hs.goto (by simp [idle]) (by simp) (by rw [idle]; rfl) (fun _ => rfl)
  | unknown conn k a msg place unknown =>
    exact hs.goto (by simp [place]) (by simp) (by rw [place]; rfl) (by simp)
  | enter conn k a msg th place free device => exact hs.enter place free device
  | call conn env k th th' place device step =>
    have hth := hs.sound k th device
    refine hs.setDevice (hth.cmd.step step) ?_ id (fun _ => hfine)
    intro c hc
    by_cases hcc : c = conn
    · rw [hcc]
      exact place
    · rw [Threads.step_pc_of_ne step hcc] at hc
      exact hth.inside c hc
  | leave conn k th place device done => exact hs.leave place device done
  | lock i ret place free alone => exact hs.lock place free alone
  | renew i ret place => exact hs.renew place

theorem Init.crashed (h : Init s) : s.crashed = false := by
  obtain ⟨v, -, rfl⟩ := h
  rfl

theorem Reachable.inv (h : Reachable s) : s.Inv :=
  StepSystem.Reachable.invariant (fun _ => Init.inv) (fun _ _ _ => Inv.step) h

/-! ### Two devices -/

/-- The two devices of `n2.txt`, and nothing running. -/
def testPool : Pool Unit := ofManager Server.testServer.mgr

/-- Connection 1 is inside an `ask`. -/
def testCall : Pool Unit :=
  (run step testPool [.request 1 "a" .ask "x", .lockShared 1]).getD testPool

theorem testPool_init : Init testPool := ⟨_, Server.testServer_reachable, rfl⟩

theorem testCall_reachable : Reachable testCall :=
  ⟨testPool, [.request 1 "a" .ask "x", .lockShared 1], testPool_init, rfl⟩

end Pool

end Device2
