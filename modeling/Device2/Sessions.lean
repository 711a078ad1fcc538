/-
Device2/Sessions.lean

The beginning and the end of a session with the server.

A connection has a name from `conn_open` to `conn_close`.  That `conn_open` and
the other resets to the default name can not fail is not visible in
`set_conn_name`, which does throw: it follows from the names of all reachable
states (`NamesOk`), of which none but the connection's own can be `#<number>`.

`conn_close` and `release_all` call `Device::release` for every device.  On a
well-formed device this takes away everything the connection has there and
nothing of anybody else (`Device.LeftBy`): the lock it clears without asking can
only be the connection's own.  So whoever is found in a user set or owns a log
buffer is still there (`Device.OwnedBy`).
-/
import Device2.FailedRequests

namespace Device2

open Std StepSystem DevManager

variable {Drv : Type}

/-! ### Names -/

namespace Server

variable {s : Server Drv}

/-- **Connection names.**  In every reachable state the open connections are the
ones that have a name, the names are non-empty and distinct, and only a default
name starts with `#`.  So opening a connection, `release_all` and a reset of the
name never fail, and `get_conn_name` finds the name it asks for. -/
theorem sessions_named (h : s.Reachable) :
    ((∀ c, c ∈ s.mgr.connNames ↔ c ∈ s.conns) ∧
      (∀ (c c' : ConnId) (n : Str), s.mgr.connNames[c]? = some n → s.mgr.connNames[c']? = some n →
        c = c') ∧
      (∀ (c : ConnId) (n : Str), s.mgr.connNames[c]? = some n → n ≠ [] ∧
        (n.head? = some '#' → n = '#' :: typeToStr c))) ∧
    (∀ c, c ∉ s.conns → (s.mgr.connOpen c).ret = .ok ()) ∧
    (∀ c ∈ s.conns, ∀ (env : Env Drv) (url : Str),
      (∀ msg, parseUrl url = some ["release_all".toList, [], msg] → (s.mgr.run env url c).ret = .ok []) ∧
      (parseUrl url = some ["set_conn_name".toList, [], []] → (s.mgr.run env url c).ret = .ok []) ∧
      (∀ arg msg, parseUrl url = some ["get_conn_name".toList, arg, msg] →
        (s.mgr.run env url c).state = s.mgr)) := by
  have hnames := h.inv.names
  refine ⟨⟨hnames.named, hnames.distinct, fun c n hn => ⟨hnames.nonempty c n hn,
    hnames.reserved c n hn⟩⟩, fun c _ => ?_, fun c hc env url => ⟨fun msg hurl => ?_, fun hurl => ?_,
    fun arg msg hurl => ?_⟩⟩
  · rw [connOpen, setConnName_default c s.mgr (hnames.default_free c)]
    rfl
  · rw [run_eq hurl]
    exact releaseAll_ok (hnames.default_free c)
  · rw [run_eq hurl]
    show ((s.mgr.setConnName c []).bind fun _ m => .done [] m).ret = _
    rw [setConnName_default c s.mgr (hnames.default_free c)]
    rfl
  · -- the entry is there, so `conn_names[conn]` does not make one
    rw [run_eq hurl]
    have hmem : c ∈ s.mgr.connNames := (hnames.named c).mpr hc
    rcases runAction_cases env url "get_conn_name" arg msg c s.mgr with
      ⟨a, ha, -⟩ | ⟨ha, -⟩ | ⟨ha, -⟩ | ⟨-, -, hnot, -⟩ | ⟨ha, -⟩ | ⟨-, -, -, hr, -⟩
    · cases a <;> exact absurd ha (by decide)
    · exact absurd ha (by decide)
    · exact absurd ha (by decide)
    · exact absurd hmem hnot
    · exact absurd ha (by decide)
    · exact hr

/-- Connection 1 has a name of its own, has locked one device and logs the other one,
which connection 2 uses and logs. -/
def busyRun : List (Event Unit) :=
  [.request 1 testEnv "set_conn_name/lab", .request 1 testEnv "use/a", .request 1 testEnv "lock/a",
    .request 1 testEnv "log_start/b", .request 2 testEnv "use/b", .request 2 testEnv "log_start/b"]

def busyServer : Server Unit := (run step testServer busyRun).getD testServer

theorem busyServer_reachable : busyServer.Reachable :=
  ⟨_, [.connOpen 1, .connOpen 2] ++ busyRun, ⟨"n2.txt", n2Conf, rfl⟩, rfl⟩

theorem sessions_named_busyServer :
    busyServer.mgr.connNames[1]? = some "lab".toList ∧ (busyServer.mgr.connOpen 3).ret = .ok () ∧
    (busyServer.mgr.run testEnv "release_all" 1).ret = .ok [] ∧
    (busyServer.mgr.run testEnv "set_conn_name" 1).ret = .ok [] := by
  obtain ⟨-, hopen, hrequests⟩ := sessions_named busyServer_reachable
  obtain ⟨hrelease, hreset, -⟩ := hrequests 1 (by decide +kernel) testEnv "release_all"
  exact ⟨by decide +kernel, hopen 3 (by decide +kernel), hrelease [] (by decide),
    (hrequests 1 (by decide +kernel) testEnv "set_conn_name").2.1 (by decide)⟩

end Server

/-! ### Leaving a device -/

namespace Device

variable {conn : ConnId} {conns : Finset ConnId} {d : Device Drv}

/-- The connection `conn` has left the device: nothing of it is there any more,
and everybody else has what they had. -/
structure LeftBy (conn : ConnId) (d d' : Device Drv) : Prop where
  notUser : conn ∉ d'.users
  noBuffer : conn ∉ d'.logBufs
  /-- A lock of the connection is gone. -/
  unlocked : d.locked = true → conn ∈ d.users → d'.locked = false
  users : ∀ c, c ≠ conn → (c ∈ d'.users ↔ c ∈ d.users)
  /-- The locks of the others stay, and nobody gets one. -/
  locks : ∀ c, c ≠ conn → (d'.locked = true ∧ c ∈ d'.users ↔ d.locked = true ∧ c ∈ d.users)
  buffers : ∀ c, c ≠ conn → d'.logBufs[c]? = d.logBufs[c]?
  driver : d'.drv = d.drv

theorem mem_release_users (c : ConnId) :
    c ∈ (d.release conn).users ↔ c ≠ conn ∧ c ∈ d.users := by
  rw [release]
  split
  · exact Finset.mem_erase
  · rename_i hmem
    exact ⟨fun hc => ⟨fun he => hmem (he ▸ hc), hc⟩, fun hc => hc.2⟩

theorem mem_release_logBufs (c : ConnId) :
    c ∈ (d.release conn).logBufs ↔ c ≠ conn ∧ c ∈ d.logBufs := by
  rw [release_logBufs, mem_erase_iff]

@[simp] theorem release_drv : (d.release conn).drv = d.drv := by
  rw [release]; split <;> rfl

/-- `release` takes away all the connection has, and nothing else. -/
theorem WellFormed.leftBy_release (h : d.WellFormed) (conn : ConnId) :
    LeftBy conn d (d.release conn) := by
  have hunlock : conn ∈ d.users → (d.release conn).locked = false := by
    intro hmem
    rw [Device.release, if_pos hmem]
  refine ⟨fun hu => ((mem_release_users conn).mp hu).1 rfl,
    fun hb => ((mem_release_logBufs conn).mp hb).1 rfl, fun _ => hunlock,
    fun c hc => by rw [mem_release_users, and_iff_right hc], fun c hc => ?_, fun c hc => ?_,
    release_drv⟩
  · rw [mem_release_users, and_iff_right hc]
    by_cases hmem : conn ∈ d.users
    · -- a lock can only be the connection's own: a locked device has one user
      apply iff_of_false (by simp [hunlock hmem])
      rintro ⟨hl, hu⟩
      exact hc (Finset.card_le_one.mp (h.lockedSole hl).le c hu conn hmem)
    · rw [Device.release, if_neg hmem]
  · rw [release_logBufs, getElem?_erase_if, if_neg (Ne.symm hc)]

/-- Users of the device and owners of its log buffers are among `conns`. -/
structure OwnedBy (conns : Finset ConnId) (d : Device Drv) : Prop where
  users : ∀ c ∈ d.users, c ∈ conns
  buffers : ∀ c ∈ d.logBufs, c ∈ conns

theorem OwnedBy.mono {conns' : Finset ConnId} (h : d.OwnedBy conns) (hs : conns ⊆ conns') :
    d.OwnedBy conns' :=
  ⟨fun c hc => hs (h.users c hc), fun c hc => hs (h.buffers c hc)⟩

theorem OwnedBy.release (h : d.OwnedBy conns) (conn : ConnId) :
    (d.release conn).OwnedBy (conns.erase conn) := by
  refine ⟨fun c hc => ?_, fun c hc => ?_⟩
  · obtain ⟨hne, hu⟩ := (mem_release_users c).mp hc
    exact Finset.mem_erase.mpr ⟨hne, h.users c hu⟩
  · obtain ⟨hne, hb⟩ := (mem_release_logBufs c).mp hc
    exact Finset.mem_erase.mpr ⟨hne, h.buffers c hb⟩

/-- What one call may do: let the caller in as a user or as a listener. -/
theorem OwnedBy.of_subset {d' : Device Drv} (h : d.OwnedBy conns) (hc : conn ∈ conns)
    (hu : ∀ c ∈ d'.users, c = conn ∨ c ∈ d.users)
    (hb : ∀ c ∈ d'.logBufs, c = conn ∨ c ∈ d.logBufs) : d'.OwnedBy conns := by
  refine ⟨fun c hmem => ?_, fun c hmem => ?_⟩
  · rcases hu c hmem with rfl | hmem
    · exact hc
    · exact h.users c hmem
  · rcases hb c hmem with rfl | hmem
    · exact hc
    · exact h.buffers c hmem

theorem use_users (env : DriverEnv Drv) (conn : ConnId) (d : Device Drv) :
    ∀ c ∈ (d.use env conn).state.users, c = conn ∨ c ∈ d.users := by
  intro c hc
  rcases use_cases env conn d with ⟨-, h⟩ | ⟨-, -, h⟩ | ⟨-, -, -, e, h⟩ | ⟨-, -, drv, -, h⟩
  · rw [h] at hc; exact .inr hc
  · rw [h] at hc; exact .inr hc
  · rw [h] at hc; exact .inr hc
  · rw [h] at hc; exact Finset.mem_insert.mp hc

theorem mem_logMessage_logBufs (pref msg : Str) (d : Device Drv) (c : ConnId) :
    c ∈ (d.logMessage pref msg).logBufs ↔ c ∈ d.logBufs := by
  rw [← ExtTreeMap.isSome_getElem?_iff_mem, ← ExtTreeMap.isSome_getElem?_iff_mem,
    logMessage_getElem?, Option.isSome_map]

/-- An exchange with the driver neither makes nor drops a buffer. -/
theorem mem_askOpened_logBufs (env : DriverEnv Drv) (msg : Str) (d : Device Drv) (c : ConnId) :
    c ∈ (d.askOpened env msg).state.logBufs ↔ c ∈ d.logBufs := by
  rw [askOpened]
  split
  · rw [drvAsk_state]
  · dsimp only
    split <;> simp only [drvAsk_state, mem_logMessage_logBufs]

end Device

/-- A call of an open connection leaves the device to open connections. -/
theorem DevManager.DevAct.call_ownedBy {conns : Finset ConnId} {conn : ConnId} (hc : conn ∈ conns)
    (a : DevAct) (env : DriverEnv Drv) (msg : Str) {d : Device Drv} (h : d.OwnedBy conns) :
    (a.call env conn msg d).state.OwnedBy conns := by
  have huse : (d.use env conn).state.OwnedBy conns :=
    h.of_subset hc (Device.use_users env conn d) fun c hb => .inr (by simpa using hb)
  cases a with
  | ask =>
    show (d.ask env conn msg).state.OwnedBy conns
    rw [Device.ask_eq]
    refine Outcome.bind_state huse fun _ _ => ⟨fun c hmem => huse.users c ?_, fun c hmem =>
      huse.buffers c ?_⟩
    · rwa [(Device.askOpened_frame env msg _).2.1] at hmem
    · rwa [Device.mem_askOpened_logBufs] at hmem
  | use => simpa [DevAct.call] using huse
  | lock =>
    show (noAnswer (d.lock env conn)).state.OwnedBy conns
    rw [noAnswer_state, Device.lock_eq]
    refine Outcome.bind_state huse fun _ _ => ?_
    split
    · exact huse
    · exact ⟨huse.users, huse.buffers⟩
  | unlock =>
    show (noAnswer (d.unlock conn)).state.OwnedBy conns
    rw [noAnswer_state]
    rw [Device.unlock]
    split
    · exact h
    · split
      · exact h
      · exact ⟨h.users, h.buffers⟩
  | release => exact (h.release conn).mono (Finset.erase_subset conn conns)
  | logStart => exact h.of_subset hc (fun c hu => .inr hu) fun c hb => mem_insert_iff.mp hb
  | logFinish => exact h.of_subset hc (fun c hu => .inr hu) fun c hb => .inr (mem_erase_iff.mp hb).2
  | logGet =>
    show (d.logGet conn : Outcome (Device Drv) Drv Str).state.OwnedBy conns
    rw [Device.logGet]
    split
    · exact h
    · exact h.of_subset hc (fun c hu => .inr hu) fun c hb => mem_insert_iff.mp hb
  | info => exact h
  | close => exact ⟨by simp [DevAct.call, Outcome.done, Device.close],
      by simp [DevAct.call, Outcome.done, Device.close]⟩

/-! ### Leaving the server -/

/-- The connection has left every device, and the devices are the same. -/
def DevManager.TornDown (conn : ConnId) (m m' : DevManager Drv) : Prop :=
  ∀ k : Str, Option.Rel (Device.LeftBy conn) m.devices[k]? m'.devices[k]?

theorem DevManager.tornDown_releaseDevices {m m' : DevManager Drv}
    (h : m.AllDevices Device.WellFormed) (conn : ConnId)
    (hm : m'.devices = (m.releaseDevices conn).devices) : TornDown conn m m' := by
  intro k
  rw [hm, releaseDevices_getElem?]
  rcases hd : m.devices[k]? with - | d
  · exact .none
  · exact .some ((h k d hd).leftBy_release conn)

namespace Server

variable {s t : Server Drv}

theorem fresh_ownedBy (conns : Finset ConnId) (k : Str) (d : Device Drv) (h : Fresh k d) :
    d.OwnedBy conns := by
  obtain ⟨drvName, drvArgs, rfl⟩ := h
  exact ⟨by simp, by simp⟩

/-- **Every step leaves the devices to the open connections.** -/
theorem step_ownedBy {e : Event Drv} (h : s.mgr.AllDevices (Device.OwnedBy s.conns))
    (he : step s e = some t) : t.mgr.AllDevices (Device.OwnedBy t.conns) := by
  cases e with
  | connOpen conn =>
    simp only [step] at he
    split at he
    · cases he
    · cases he
      intro k d hd
      refine (h k d ?_).mono (Finset.subset_insert conn s.conns)
      rwa [connOpen, setConnName_devices] at hd
  | request conn env url =>
    simp only [step] at he
    split at he
    · rename_i hc
      cases he
      exact AllDevices.run h (fun a msg d hd => a.call_ownedBy hc _ msg hd) (fresh_ownedBy s.conns)
    · cases he
  | connClose conn =>
    simp only [step] at he
    split at he
    · cases he
      -- the one who goes has nothing left anywhere
      intro k d hd
      have hd' : (s.mgr.releaseDevices conn).devices[k]? = some d := hd
      rw [releaseDevices_getElem?] at hd'
      obtain ⟨d₀, hd₀, rfl⟩ := Option.map_eq_some_iff.mp hd'
      exact (h k d₀ hd₀).release conn
    · cases he
  | readConf file =>
    cases he
    exact AllDevices.readConf h (fresh_ownedBy s.conns) file

/-- In every reachable state the devices are in the hands of open connections. -/
theorem Reachable.ownedBy (h : s.Reachable) : s.mgr.AllDevices (Device.OwnedBy s.conns) := by
  refine StepSystem.Reachable.invariant (I := fun s => s.mgr.AllDevices (Device.OwnedBy s.conns))
    (fun s hs => ?_) (fun _ _ _ => step_ownedBy) h
  obtain ⟨devfile, file, rfl⟩ := hs
  have h₀ : ({ devfile } : DevManager Drv).AllDevices (Device.OwnedBy ∅) := by simp [AllDevices]
  exact h₀.readConf (fresh_ownedBy ∅) file

/-- **Teardown is complete and private.**  After `conn_close` and after
`release_all` the connection has left every device, and the other connections and
the drivers are untouched.  So users and owners of log buffers are open
connections, in every reachable state. -/
theorem session_teardown (h : s.Reachable) :
    (∀ c ∈ s.conns, TornDown c s.mgr (s.mgr.connClose c) ∧
      ∀ (env : Env Drv) (url msg : Str), parseUrl url = some ["release_all".toList, [], msg] →
        TornDown c s.mgr (s.mgr.run env url c).state) ∧
    ∀ (k : Str) d, s.mgr.devices[k]? = some d → ∀ c, c ∈ d.users ∨ c ∈ d.logBufs → c ∈ s.conns := by
  refine ⟨fun c _ => ⟨tornDown_releaseDevices h.inv.devices c rfl, fun env url msg hurl => ?_⟩,
    fun k d hd c hc => ?_⟩
  · rw [run_eq hurl]
    show TornDown c s.mgr (((s.mgr.releaseDevices c).setConnName c []).bind fun _ m => .done [] m).state
    rw [Outcome.bind_done_state]
    exact tornDown_releaseDevices h.inv.devices c (setConnName_devices ..)
  · rcases hc with hu | hb
    · exact (h.ownedBy k d hd).users c hu
    · exact (h.ownedBy k d hd).buffers c hb

/-- Connection 1 leaves in both ways. -/
theorem session_teardown_busyServer :
    (∃ a b, busyServer.mgr.devices["a".toList]? = some a ∧ busyServer.mgr.devices["b".toList]? = some b ∧
      a.users = {1} ∧ a.locked = true ∧ b.users = {2} ∧ 1 ∈ b.logBufs ∧ 2 ∈ b.logBufs) ∧
    TornDown 1 busyServer.mgr (busyServer.mgr.connClose 1) ∧
    TornDown 1 busyServer.mgr (busyServer.mgr.run testEnv "release_all" 1).state := by
  obtain ⟨hleave, -⟩ := session_teardown busyServer_reachable
  obtain ⟨hclose, hrelease⟩ := hleave 1 (by decide +kernel)
  exact ⟨⟨_, _, rfl, rfl, by decide +kernel, by decide +kernel, by decide +kernel, by decide +kernel,
    by decide +kernel⟩, hclose, hrelease testEnv "release_all" [] (by decide)⟩

end Server

end Device2
