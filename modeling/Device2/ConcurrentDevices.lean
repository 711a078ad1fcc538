/-
Device2/ConcurrentDevices.lean

What every device keeps while the threads of the server run.

A step of a thread does something to one device at most (`DeviceStep`), or puts new
devices in place, as a file has them.  So a property that new devices have and that the
steps on a device preserve is kept by all devices (`Holds.step`), whatever the threads
of other devices do, and also across reloads.

One such property is that the driver is there when an `ask` calls it: only a `close`
under an `ask` can make the server call the null pointer (`driver_never_null`).
-/
import Device2.Addressing
import Device2.Exceptions
import Device2.ManagerThreads
import Device2.Races

namespace Device2

open Std StepSystem DevManager

variable {Drv : Type}

/-- The devices differ in their log buffers only. -/
structure Device.Alike (d d' : Device Drv) : Prop extends Threads.Same d d' where
  devName : d'.devName = d.devName
  drvName : d'.drvName = d.drvName
  drvArgs : d'.drvArgs = d.drvArgs

/-- The devices that have been read. -/
def Place.read? : Place Drv → Option (ExtTreeMap Str (Device Drv))
  | wantLock ret => some ret
  | renewing ret => some ret
  | _ => none

namespace Pool

variable {s t : Pool Drv} {m : PoolMove Drv} {P : Str → Threads Drv → Prop}

/-! ### All devices -/

/-- What a step does to the calls on the device `k`. -/
inductive DeviceStep (s : Pool Drv) (m : PoolMove Drv) (k : Str) (th : Threads Drv) :
    Threads Drv → Prop
  | enter (conn : ConnId) (a : DevAct) (msg : Str) (move : m = .lockShared conn)
      (place : s.place (.conn conn) = .wantShared k a msg) (idle : th.pc conn = .idle) :
      DeviceStep s m k th (th.enter conn a msg)
  | call (conn : ConnId) (env : DriverEnv Drv) (th' : Threads Drv) (move : m = .call conn env)
      (place : s.place (.conn conn) = .inCall k) (step : th.step (.step conn env) = some th') :
      DeviceStep s m k th th'

/-- All devices satisfy `P`, and what has been read comes from a file. -/
structure Holds (P : Str → Threads Drv → Prop) (s : Pool Drv) : Prop extends Inv s where
  all : ∀ (k : Str) (th : Threads Drv), s.devices[k]? = some th → P k th
  read : ∀ i ret, (s.place i).read? = some ret → ∃ file, parseConf s.devfile file = .ok ret
  wanted : ∀ i k a msg, s.place i = .wantShared k a msg → k ≠ []

/-- A thread moves, and has read nothing that is not in a file. -/
theorem Holds.read_goto (hs : s.Holds P) {i : Tid} {p : Place Drv}
    (hp : ∀ ret, p.read? = some ret → ∃ file, parseConf s.devfile file = .ok ret) :
    ∀ j ret, ((s.goto i p).place j).read? = some ret → ∃ file, parseConf s.devfile file = .ok ret := by
  intro j ret hj
  by_cases hji : j = i
  · subst hji
    rw [goto_place_self] at hj
    exact hp ret hj
  · rw [goto_place_of_ne hji] at hj
    exact hs.read j ret hj

/-- A thread moves, and does not want a device without a name. -/
theorem Holds.wanted_goto (hs : s.Holds P) {i : Tid} {p : Place Drv}
    (hp : ∀ k a msg, p = .wantShared k a msg → k ≠ []) :
    ∀ j k a msg, (s.goto i p).place j = .wantShared k a msg → k ≠ [] := by
  intro j k a msg hj
  by_cases hji : j = i
  · subst hji
    rw [goto_place_self] at hj
    exact hp k a msg hj
  · rw [goto_place_of_ne hji] at hj
    exact hs.wanted j k a msg hj

/-- A device among the others. -/
theorem Holds.all_insert (hs : s.Holds P) {k : Str} {th' : Threads Drv} (hth : P k th') :
    ∀ (k' : Str) (th : Threads Drv), (s.devices.insert k th')[k']? = some th → P k' th := by
  intro k' th hk
  rw [getElem?_insert_if] at hk
  split at hk
  · rename_i hkk
    cases hk
    exact hkk ▸ hth
  · exact hs.all k' th hk

/-- **What every device keeps.** -/
theorem Holds.step (hs : s.Holds P) (h : s.step m = some t)
    (hfresh : ∀ k d, DeviceName k → Fresh k d → P k { dev := d })
    (hdev : ∀ (k : Str) (th th' : Threads Drv), s.devices[k]? = some th → P k th →
      th.crashed = false → s.DeviceStep m k th th' → P k th') :
    t.Holds P := by
  have hinv := hs.toInv.step h
  obtain ⟨hfine, he⟩ := step_effect h
  have hidle : ∀ conn (k : Str) (th : Threads Drv), s.devices[k]? = some th →
      (∀ k', s.place (.conn conn) ≠ .inCall k') → th.pc conn = .idle := by
    intro conn k th hk hplace
    by_contra hpc
    exact hplace k ((hs.sound k th hk).inside conn hpc)
  have hdev' : ∀ (k : Str) (th th' : Threads Drv), s.devices[k]? = some th →
      s.DeviceStep m k th th' → P k th' :=
    fun k th th' hk hstep => hdev k th th' hk (hs.all k th hk) ((hs.sound k th hk).fine hfine) hstep
  cases he with
  | refused => exact hs
  | request conn k a msg idle named =>
    exact ⟨hinv, hs.all, hs.read_goto (by simp [Place.read?]),
      hs.wanted_goto (by rintro _ _ _ ⟨⟩; exact named)⟩
  | reload i file ret idle file_ok =>
    refine ⟨hinv, hs.all, hs.read_goto ?_, hs.wanted_goto (by simp)⟩
    rintro _ ⟨⟩
    exact ⟨file, file_ok⟩
  | unknown conn k a msg place unknown =>
    exact ⟨hinv, hs.all, hs.read_goto (by simp [Place.read?]), hs.wanted_goto (by simp)⟩
  | enter conn k a msg th place free device =>
    refine ⟨hinv, hs.all_insert ?_, hs.read_goto (by simp [Place.read?]), hs.wanted_goto (by simp)⟩
    exact hdev' k th _ device (.enter conn a msg rfl place (hidle conn k th device (by simp [place])))
  | call conn env k th th' place device step =>
    refine ⟨hinv, hs.all_insert ?_, hs.read, hs.wanted⟩
    exact hdev' k th th' device (.call conn env th' rfl place step)
  | leave conn k th place device done =>
    exact ⟨hinv, hs.all, hs.read_goto (by simp [Place.read?]), hs.wanted_goto (by simp)⟩
  | lock i ret place free alone =>
    refine ⟨hinv, hs.all, hs.read_goto ?_, hs.wanted_goto (by simp)⟩
    rintro _ ⟨⟩
    exact hs.read i ret (by rw [place]; rfl)
  | renew i ret place =>
    refine ⟨hinv, fun k th hth => ?_, hs.read_goto (by simp [Place.read?]), hs.wanted_goto (by simp)⟩
    obtain ⟨d, hd, rfl⟩ := fresh_getElem? hth
    obtain ⟨file, hfile⟩ := hs.read i ret (by rw [place]; rfl)
    have hnamed : ({ devfile := s.devfile, devices := ret } : DevManager Drv).AllNamed :=
      allNamed_of_parseConf hfile
    exact hfresh k d (hnamed k (ExtTreeMap.mem_iff_isSome_getElem?.mpr (by simp [hd])))
      (parseConf_fresh hfile k d hd)

/-- The server between two requests. -/
theorem Init.holds (h : Init s) (hP : ∀ k d, DeviceName k → d.WellFormed → P k { dev := d }) :
    s.Holds P := by
  have hinv := Init.inv h
  obtain ⟨v, hv, rfl⟩ := h
  refine ⟨hinv, fun k th hth => ?_, fun i ret hi => (by cases hi), fun i k a msg hi => (by cases hi)⟩
  obtain ⟨d, hd, rfl⟩ := fresh_getElem? hth
  exact hP k d (hv.allNamed k (ExtTreeMap.mem_iff_isSome_getElem?.mpr (by simp [hd])))
    (hv.inv.devices k d hd)

/-! ### The null pointer -/

/-- No `close` comes to a device while an `ask` on it is between its tests and its
call of the driver. -/
def ClosesNoAsk (s : Pool Drv) (m : PoolMove Drv) (_ : Pool Drv) : Prop :=
  ∀ conn k msg th, m = .lockShared conn → s.place (.conn conn) = .wantShared k .close msg →
    s.devices[k]? = some th → ∀ c, ¬ Threads.Pc.Asking (th.pc c)

end Pool

namespace Threads

variable {th : Threads Drv} {conn : ConnId}

/-- The calls rely on users and driver only. -/
theorem Inv.congr (h : th.Inv) {d : Device Drv} (hd : Same th.dev d) :
    ({ th with dev := d } : Threads Drv).Inv where
  usedOpen := by
    show d.users.Nonempty → d.drv.isSome = true
    rw [hd.users, hd.drv]
    exact h.usedOpen
  notUser c k hc := by
    show c ∉ d.users
    rw [hd.users]
    exact h.notUser c k hc

theorem AskInv.congr (h : th.AskInv) {d : Device Drv} (hd : Same th.dev d) :
    ({ th with dev := d } : Threads Drv).AskInv where
  toInv := h.toInv.congr hd
  askOpen c hc := by
    show d.drv.isSome = true
    rw [hd.drv]
    exact h.askOpen c hc

/-- A call of an open device does not call the null pointer. -/
theorem AskInv.not_crashed (h : th.AskInv) (hfine : th.crashed = false) {env : DriverEnv Drv}
    {th' : Threads Drv} (hstep : th.step (.step conn env) = some th') : th'.crashed = false := by
  rw [step_of_not_crashed hfine] at hstep
  by_cases hcall : ∃ msg, th.pc conn = .askCall msg
  · obtain ⟨msg, hpc⟩ := hcall
    have hnull : (th.dev.askOpened env msg).ret ≠ .error .nullDriver := by
      intro hret
      obtain ⟨e, he⟩ := Device.askOpened_throwsErr (h.askOpen conn ⟨msg, .inr hpc⟩) _ hret
      cases he
    rw [advance, hpc] at hstep
    dsimp only at hstep
    rw [if_neg hnull] at hstep
    cases hstep
    exact hfine
  · rcases advance_cases hstep with ⟨p, d, rfl, -⟩ | ⟨msg, -, -, rfl⟩ | ⟨msg, hpc, -⟩ | ⟨-, rfl⟩
    · exact hfine
    · exact hfine
    · exact absurd ⟨msg, hpc⟩ hcall
    · exact hfine

/-- The first step of an action is the first step of a call; or it does not touch
anything but the log buffers. -/
theorem enter_cases (hfine : th.crashed = false) (hidle : th.pc conn = .idle) (a : DevAct) (msg : Str) :
    (∃ c, a.toCall msg = some c ∧ th.step (.call conn c) = some (th.enter conn a msg)) ∨
    (a.toCall msg = none ∧ ∃ d, th.dev.Alike d ∧ th.enter conn a msg = { th with dev := d }) := by
  have hcall : ∀ c, th.step (.call conn c) = some (th.start conn c) := by
    intro c
    simp [Threads.step, hfine, hidle]
  have hlog : ∀ bufs, th.dev.Alike { th.dev with logBufs := bufs } :=
    fun _ => ⟨⟨rfl, rfl, rfl⟩, rfl, rfl, rfl⟩
  cases a with
  | ask | use | release | lock | unlock | close => exact .inl ⟨_, rfl, hcall _⟩
  | logStart | logFinish => exact .inr ⟨rfl, _, hlog _, rfl⟩
  | info => exact .inr ⟨rfl, _, hlog th.dev.logBufs, rfl⟩
  | logGet =>
    refine .inr ⟨rfl, _, ?_, rfl⟩
    show th.dev.Alike (th.dev.logGet conn : Outcome (Device Drv) Drv Str).state
    rw [Device.logGet]
    split
    · exact hlog th.dev.logBufs
    · exact hlog _

/-- The first step of an action keeps what an `ask` needs, if it closes no device under
one. -/
theorem AskInv.enter (h : th.AskInv) (hfine : th.crashed = false) (hidle : th.pc conn = .idle)
    {a : DevAct} (hclose : a = .close → ∀ c, ¬ Pc.Asking (th.pc c)) (msg : Str) :
    (th.enter conn a msg).AskInv := by
  rcases enter_cases hfine hidle a msg with ⟨c, hc, hstep⟩ | ⟨-, d, hd, henter⟩
  · refine h.step hstep ?_
    rintro conn' ⟨⟩
    refine hclose ?_
    cases a <;> cases hc
    rfl
  · rw [henter]
    exact h.congr hd.toSame

end Threads

namespace Pool

variable {s t : Pool Drv} {m : PoolMove Drv}

theorem askInv_of_wellFormed {d : Device Drv} (h : d.WellFormed) :
    ({ dev := d } : Threads Drv).AskInv :=
  Threads.Start.askInv ⟨h, fun _ => rfl, rfl, rfl⟩

/-- Past the tests of an `ask` its device is open. -/
abbrev AskInv (s : Pool Drv) : Prop := s.Holds fun _ th => th.AskInv

theorem AskInv.step (hs : s.AskInv) (h : s.step m = some t) (hm : ClosesNoAsk s m t) : t.AskInv := by
  refine Holds.step hs h (fun k d _ hd => askInv_of_wellFormed (Server.fresh_wellFormed k d hd)) ?_
  intro k th th' hk hth hfine hstep
  cases hstep with
  | enter conn a msg move place idle =>
    refine hth.enter hfine idle ?_ msg
    rintro rfl
    exact hm conn k msg th move place hk
  | call conn env th' move place step => exact hth.step step (by intro c hc; cases hc)

theorem AskInv.not_crashed (hs : s.AskInv) (h : s.step m = some t) : t.crashed = false := by
  obtain ⟨hfine, he⟩ := step_effect h
  cases he with
  | call conn env k th th' place device step =>
    exact (hs.all k th device).not_crashed ((hs.sound k th device).fine hfine) step
  | refused | request | reload | unknown | enter | leave | lock | renew => exact hfine

theorem closesNoAsk_of_ne (h : ∀ conn, m ≠ .lockShared conn) : ClosesNoAsk s m t :=
  fun conn _ _ _ hm => absurd hm (h conn)

/-- **An `ask` finds its driver.**  As long as no `close` comes to a device while an
`ask` on it is between its tests and its call of the driver, no driver is called through
the null pointer, whatever requests to devices and reloads the threads make. -/
theorem driver_never_null (hs : Init s) {ms : List (PoolMove Drv)} (hrun : run step s ms = some t)
    (hclose : Along step ClosesNoAsk s ms) : t.crashed = false :=
  (run_invariant_along (I := fun s => s.AskInv ∧ s.crashed = false)
    (fun _ _ _ hI h hm => ⟨hI.1.step h hm, hI.1.not_crashed h⟩)
    ⟨hs.holds fun _ _ _ hd => askInv_of_wellFormed hd, hs.crashed⟩ hclose hrun).2

/-- Connection 2 closes a device while connection 1 is in an `ask` on the other one; the
driver is called, and then the devices are replaced. -/
def testClose : List (PoolMove Unit) :=
  let call : PoolMove Unit := .call 1 Server.testEnv.toDriverEnv
  [.request 1 "a" .ask "x", .lockShared 1, call, .request 2 "b" .close "", .lockShared 2] ++
    [call, call, call, .reload .main Server.n2Conf, call, call, .unlockShared 2, .unlockShared 1,
      .lock .main, .renew .main]

theorem driver_never_null_testPool : ∃ t : Pool Unit,
    run step testPool testClose = some t ∧ t.crashed = false := by
  obtain ⟨t, ht⟩ : ∃ t, run step testPool testClose = some t := by
    apply Option.isSome_iff_exists.mp
    decide +kernel
  refine ⟨t, ht, driver_never_null testPool_init ht ?_⟩
  refine fun _ h₁ => ⟨closesNoAsk_of_ne (by simp), ?_⟩
  cases h₁
  refine fun _ h₂ => ⟨?_, ?_⟩
  · rintro _ k msg th ⟨⟩ hplace
    cases hplace
  cases h₂
  refine fun _ h₃ => ⟨closesNoAsk_of_ne (by simp), ?_⟩
  cases h₃
  refine fun _ h₄ => ⟨closesNoAsk_of_ne (by simp), ?_⟩
  cases h₄
  -- nobody is in a call of `b`
  refine fun _ _ => ⟨?_, along_of_forall_mem fun m hm _ _ => closesNoAsk_of_ne ?_⟩
  · rintro _ k msg th ⟨⟩ hplace hk c ⟨msg', hc⟩
    cases hplace
    cases hk
    rcases hc with hc | hc <;> cases hc
  · rintro conn rfl
    simp at hm

end Pool

end Device2
