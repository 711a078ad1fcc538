/-
Device2/FailedRequests.lean

What a failed request leaves behind.  Every action other than `ask` checks
before it changes anything, so that an exception leaves the whole manager as it
was, with one exception: `lock` calls `use` first and counts the users
afterwards.  Called by a connection that does not use the device yet, while
others do, it throws with the caller already registered (`LockByNewcomer`).

`failed_request_iff` is the exact statement: in a reachable state, a failed
request leaves no trace if and only if it is not such a `lock`.  Two methods that
could fail half-way do not: `release_all` releases the devices before it renames
the caller, but the default name is always free; and `reload` installs the new
map only when the whole file has been read.
-/
import Device2.Server

namespace Device2

open Std StepSystem DevManager

variable {Drv : Type}

/-! ### One device -/

namespace Device

variable {env : DriverEnv Drv} {conn : ConnId} {msg : Str} {d : Device Drv}

/-- The device is in use and unlocked, and `conn` is not among its users. -/
structure SharedWithout (conn : ConnId) (d : Device Drv) : Prop where
  notUser : conn ∉ d.users
  used : d.users.Nonempty
  unlocked : d.locked = false

/-- A newcomer's `lock` throws, but has made it a user. -/
theorem SharedWithout.lock (hwf : d.WellFormed) (h : d.SharedWithout conn) :
    d.lock env conn = ⟨throwErr "Can't lock the device: it is in use",
      { d with users := insert conn d.users }, []⟩ := by
  obtain ⟨drv, hdrv⟩ := Option.isSome_iff_exists.mp (hwf.usedOpen h.used)
  have huse : d.use env conn = .done () { d with users := insert conn d.users } := by
    rw [use, if_neg h.notUser, if_neg (by simp [h.unlocked]), hdrv]
  -- there was a user before, so now there are two at least
  have hcard : (insert conn d.users).card ≠ 1 := by
    rw [Finset.card_insert_of_notMem h.notUser]
    have := h.used.card_pos
    omega
  rw [lock_eq, huse, Outcome.done_bind, if_pos hcard]
  rfl

theorem SharedWithout.lock_changes (hwf : d.WellFormed) (h : d.SharedWithout conn) :
    (d.lock env conn).state ≠ d := by
  rw [h.lock hwf]
  intro heq
  exact h.notUser (by rw [← heq]; exact Finset.mem_insert_self ..)

/-- Any other failed `lock` leaves the device as it was. -/
theorem lock_error_state (h : ¬ d.SharedWithout conn) {x : Exn}
    (hx : (d.lock env conn).ret = .error x) : (d.lock env conn).state = d := by
  rw [lock_eq] at hx ⊢
  rcases use_cases env conn d with ⟨-, hu⟩ | ⟨-, -, hu⟩ | ⟨-, -, -, e, hu⟩ | ⟨hm, hl, drv, -, hu⟩
  · rw [hu, Outcome.done_bind] at hx ⊢
    split at hx
    · rename_i hcard; rw [if_pos hcard]; rfl
    · cases hx
  · rw [hu]; rfl
  · rw [hu]; rfl
  · -- the caller has become a user: the only one, so that `lock` succeeds
    have hempty : d.users = ∅ := by
      by_contra hne
      exact h ⟨hm, Finset.nonempty_iff_ne_empty.mpr hne, hl⟩
    rw [hu, Outcome.done_bind, if_neg (by simp [hempty])] at hx
    cases hx

end Device

namespace DevManager

variable {env : Env Drv} {url arg : Str} {conn : ConnId} {m : DevManager Drv}

/-- A failed method other than `ask` leaves the device as it was, unless it is a
newcomer's `lock`. -/
theorem DevAct.call_error_state (a : DevAct) {env : DriverEnv Drv} {msg : Str} {d : Device Drv}
    (hask : a ≠ .ask) (hlock : a = .lock → ¬ d.SharedWithout conn) {x : Exn}
    (hx : (a.call env conn msg d).ret = .error x) : (a.call env conn msg d).state = d := by
  cases a with
  | ask => exact absurd rfl hask
  | use =>
    rw [DevAct.call, noAnswer_state]
    exact Device.use_error_state (noAnswer_error.mp hx)
  | lock =>
    rw [DevAct.call, noAnswer_state]
    exact Device.lock_error_state (hlock rfl) (noAnswer_error.mp hx)
  | unlock =>
    have hx' : (d.unlock conn : Outcome (Device Drv) Drv Unit).ret = .error x :=
      noAnswer_error.mp hx
    rw [DevAct.call, noAnswer_state]
    unfold Device.unlock at hx' ⊢
    split
    · rfl
    · split
      · rfl
      · rename_i h₁ h₂
        rw [if_neg h₁, if_neg h₂] at hx'; cases hx'
  | logGet =>
    simp only [DevAct.call, Device.logGet] at hx ⊢
    split
    · rfl
    · rename_i buf hbuf
      rw [hbuf] at hx; cases hx
  | release | logStart | logFinish | info | close => cases hx

/-- The request is a `lock` of a device in use and unlocked, by a connection that
does not use it. -/
def LockByNewcomer (m : DevManager Drv) (url : Str) (conn : ConnId) : Prop :=
  ∃ k msg d, parseUrl url = some ["lock".toList, k, msg] ∧ k ≠ [] ∧
    m.devices[k]? = some d ∧ d.SharedWithout conn

theorem onDevice_error_state {f : Device Drv → Outcome (Device Drv) Drv Str} {x : Exn}
    (hx : (m.onDevice url arg f).ret = .error x)
    (hf : ∀ d y, arg ≠ [] → m.devices[arg]? = some d → (f d).ret = .error y → (f d).state = d) :
    (m.onDevice url arg f).state = m := by
  rcases hd : m.devices[arg]? with - | d
  · simp only [onDevice, hd]; split <;> rfl
  · by_cases harg : arg = []
    · rw [onDevice, if_pos harg]; rfl
    · rw [onDevice_of_getElem? url harg hd] at hx
      exact onDevice_state_eq url hd (hf d x harg hd hx)

theorem setConnName_error_state {name : Str} {x : Exn}
    (hx : ((m.setConnName conn name).bind fun _ m' => .done ([] : Str) m').ret = .error x) :
    ((m.setConnName conn name).bind fun _ m' => .done ([] : Str) m').state = m := by
  rcases setConnName_cases conn name m with ⟨y, hr⟩ | ⟨n, -, -, -, hr⟩
  · rw [hr]; rfl
  · rw [hr] at hx; cases hx

/-- `release_all` can not fail while nobody else has the default name. -/
theorem releaseAll_ok
    (h : ∀ (c : ConnId) n, m.connNames[c]? = some n → c ≠ conn → n ≠ '#' :: typeToStr conn) :
    (((m.releaseDevices conn).setConnName conn []).bind
      fun _ m' => .done ([] : Str) m' : Outcome (DevManager Drv) Drv Str).ret = .ok [] := by
  rw [setConnName_default conn (m.releaseDevices conn) h]; rfl

/-- **A failed request leaves no trace**, unless it is an `ask` or a newcomer's
`lock`. -/
theorem run_error_state
    (hfree : ∀ (c : ConnId) n, m.connNames[c]? = some n → c ≠ conn → n ≠ '#' :: typeToStr conn)
    {act msg : Str} (hurl : parseUrl url = some [act, arg, msg]) (hact : act ≠ "ask".toList)
    (hnew : ¬ m.LockByNewcomer url conn) {x : Exn} (hx : (m.run env url conn).ret = .error x) :
    (m.run env url conn).state = m := by
  rw [run_eq hurl] at hx ⊢
  rcases runAction_cases env url act arg msg conn m with
    ⟨a, ha, hr⟩ | ⟨-, hr, hok⟩ | ⟨-, -, hr⟩ | ⟨-, -, -, hr⟩ | ⟨-, -, hr⟩ | ⟨-, -, -, hr, -⟩
  · rw [hr] at hx ⊢
    refine onDevice_error_state hx fun d y harg hd hy => ?_
    refine a.call_error_state ?_ ?_ hy
    · rintro rfl; exact hact ha
    · rintro rfl hshared
      exact hnew ⟨arg, msg, d, by rw [hurl, ha]; rfl, harg, hd, hshared⟩
  · -- a failed reload has not got as far as the map
    rw [hr]
    rcases readConf_cases env.conf m with ⟨e, -, hc⟩ | ⟨ret, -, hc⟩
    · rw [hc]
    · rw [hx, hc] at hok
      exact absurd (hok.mpr rfl) (by simp [Except.isOk, Except.toBool])
  · rw [hr] at hx ⊢; exact setConnName_error_state hx
  · rw [hr] at hx; cases hx
  · -- `release_all` does not fail
    rw [hr, releaseAll_ok hfree] at hx; cases hx
  · exact hr

/-- A newcomer's `lock` throws and changes the manager. -/
theorem LockByNewcomer.run (h : m.LockByNewcomer url conn) (env : Env Drv)
    (hwf : m.AllDevices Device.WellFormed) :
    (m.run env url conn).ret = throwErr "Can't lock the device: it is in use" ∧
    (m.run env url conn).state ≠ m := by
  obtain ⟨k, msg, d, hurl, hk, hd, hshared⟩ := h
  have hlock : d.lock env.toDriverEnv conn = _ := hshared.lock (hwf k d hd)
  rw [run_devAct (a := .lock) hurl, onDevice_of_getElem? url hk hd]
  refine ⟨noAnswer_error.mpr (by rw [hlock]; rfl), fun heq => ?_⟩
  -- equal managers would have equal devices `k`
  have hdev := congrArg (fun m' : DevManager Drv => m'.devices[k]?) heq
  simp only [ExtTreeMap.getElem?_insert_self, hd, Option.some.injEq, DevAct.call,
    noAnswer_state] at hdev
  exact hshared.lock_changes (hwf k d hd) hdev

end DevManager

namespace Server

/-- **Failed requests leave no trace, exactly but for a newcomer's `lock`.**  In
every reachable state, for every connection and every URL whose action is not
`ask`: an exception of `run` leaves devices, device map and connection names as
they were if and only if the request is not a `lock` of a device that is in use,
unlocked, and not used by the caller. -/
theorem failed_request_iff {s : Server Drv} (hs : s.Reachable) (conn : ConnId) (env : Env Drv)
    {url act arg msg : Str}
    (hurl : parseUrl url = some [act, arg, msg]) (hact : act ≠ "ask".toList) :
    ((∃ x, (s.mgr.run env url conn).ret = .error x) → (s.mgr.run env url conn).state = s.mgr) ↔
      ¬ s.mgr.LockByNewcomer url conn := by
  constructor
  · intro h hnew
    obtain ⟨hthrow, hchanged⟩ := hnew.run env hs.inv.devices
    exact hchanged (h ⟨_, hthrow⟩)
  · rintro hnew ⟨x, hx⟩
    exact run_error_state (hs.inv.names.default_free conn) hurl hact hnew hx

/-- Connection 2 sends a request with an unknown action. -/
theorem failed_request_iff_testServer :
    ((∃ x, (testServer.mgr.run testEnv "x/b/text" 2).ret = .error x) →
      (testServer.mgr.run testEnv "x/b/text" 2).state = testServer.mgr) ↔
      ¬ testServer.mgr.LockByNewcomer "x/b/text" 2 :=
  failed_request_iff testServer_reachable 2 testEnv
    (show parseUrl "x/b/text" = some ["x".toList, "b".toList, "text".toList] by decide) (by decide)

/-- Connection 1 uses `a`, connection 2 tries to lock it: the request fails, and
connection 2 has become a user of `a`. -/
theorem failed_lock_leaves_trace :
    ¬ ∀ s : Server Unit, s.Reachable → ∀ conn ∈ s.conns, ∀ (env : Env Unit) (url act arg msg : Str),
      parseUrl url = some [act, arg, msg] → act ≠ "ask".toList →
      (∃ x, (s.mgr.run env url conn).ret = .error x) → (s.mgr.run env url conn).state = s.mgr := by
  intro h
  let s : Server Unit := ⟨(testServer.mgr.run testEnv "use/a" 1).state, {2, 1}⟩
  have hs : s.Reachable :=
    StepSystem.Reachable.next (e := .request 1 testEnv "use/a") testServer_reachable rfl
  have hsame := h s hs 2 (by decide) testEnv "lock/a" "lock" "a" [] (by decide) (by decide)
    ⟨_, rfl⟩
  have husers := congrArg (fun m : DevManager Unit => (m.devices["a".toList]?).map (·.users)) hsame
  exact absurd husers (by decide)

end Server

end Device2
