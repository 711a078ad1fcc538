/-
Device2/Exclusive.lean

What a lock is for: while a connection holds the lock of a device, no other
connection reaches the device.

The lock flag does not say who set it, and `release` and `unlock` clear it
without asking.  That this is enough rests on the invariant of `Device2.Server`
(a locked device has a single user): `Device.HeldBy conn` is the state of a
device locked by `conn`, every method called by anybody else leaves it in that
state, and only the events of `EndsLock` end it.
-/
import Device2.Server

namespace Device2

open Std StepSystem DevManager

variable {Drv : Type}

/-! ### A device in the hands of one connection -/

namespace Device

variable {env : DriverEnv Drv} {conn other : ConnId} {msg : Str} {d : Device Drv}

/-- The device is locked and `conn` is its only user. -/
structure HeldBy (conn : ConnId) (d : Device Drv) : Prop where
  locked : d.locked = true
  users : d.users = {conn}

theorem HeldBy.congr {d' : Device Drv} (h : d.HeldBy conn) (hu : d'.users = d.users)
    (hl : d'.locked = d.locked) : d'.HeldBy conn :=
  ⟨hl.trans h.locked, hu.trans h.users⟩

/-- A successful `lock` hands the device to the caller. -/
theorem heldBy_of_lock (h : (d.lock env conn).ret = .ok ()) :
    (d.lock env conn).state.HeldBy conn := by
  rw [lock_eq] at h ⊢
  rcases hr : (d.use env conn).ret with x | ⟨⟩
  · rw [Outcome.bind_of_error hr] at h; cases h
  · rw [Outcome.bind_of_ok hr] at h ⊢
    by_cases hc : (d.use env conn).state.users.card = 1
    · rw [if_neg (not_not.mpr hc)] at h ⊢
      -- the only user there is, is the one `use` has just let in
      obtain ⟨c, hu⟩ := Finset.card_eq_one.mp hc
      have hmem : conn ∈ ({c} : Finset ConnId) := hu ▸ use_ok_mem hr
      rw [← Finset.mem_singleton.mp hmem] at hu
      exact ⟨rfl, hu⟩
    · rw [if_pos hc] at h; cases h

/-- `use` of the holder does nothing. -/
theorem HeldBy.use_self (h : d.HeldBy conn) : d.use env conn = .done () d := by
  rw [use, if_pos (by simp [h.users])]

/-- `use` of anybody else is refused. -/
theorem HeldBy.use_other (h : d.HeldBy conn) (hne : other ≠ conn) :
    d.use env other = .throw "device is locked" d := by
  rw [use, if_neg (by simp [h.users, hne]), if_pos h.locked]

theorem HeldBy.lock_self (h : d.HeldBy conn) : (d.lock env conn).state.HeldBy conn := by
  rw [lock_eq, h.use_self, Outcome.done_bind]
  rw [if_neg (by simp [h.users])]
  exact ⟨rfl, h.users⟩

theorem HeldBy.ask_self (h : d.HeldBy conn) : (d.ask env conn msg).state.HeldBy conn := by
  rw [ask_eq, h.use_self, Outcome.done_bind]
  obtain ⟨-, hu, hl, -⟩ := askOpened_frame env msg d
  exact h.congr hu hl

theorem HeldBy.lock_other (h : d.HeldBy conn) (hne : other ≠ conn) :
    d.lock env other = .throw "device is locked" d := by
  rw [lock_eq, h.use_other hne]; rfl

theorem HeldBy.ask_other (h : d.HeldBy conn) (hne : other ≠ conn) :
    d.ask env other msg = .throw "device is locked" d := by
  rw [ask_eq, h.use_other hne]; rfl

theorem HeldBy.unlock_other (h : d.HeldBy conn) (hne : other ≠ conn) :
    d.unlock other = (.throw "device is locked by another connection" d :
      Outcome (Device Drv) Drv Unit) := by
  rw [unlock, if_neg (by simp [h.locked]), if_pos (by simp [h.users, hne])]

theorem HeldBy.release_other (h : d.HeldBy conn) (hne : other ≠ conn) :
    (d.release other).HeldBy conn := by
  rw [release, if_neg (by simp [h.users, hne])]
  exact h.congr rfl rfl

end Device

/-! ### One request -/

/-- The actions that need the device to be free for the caller. -/
def NeedsDevice (a : DevAct) : Prop :=
  a = .ask ∨ a = .use ∨ a = .lock ∨ a = .unlock

/-- The calls that can take a device from `conn`: anybody's `close`, and its own
`unlock` and `release`. -/
def TakesFrom (conn other : ConnId) (a : DevAct) : Prop :=
  a = .close ∨ other = conn ∧ (a = .unlock ∨ a = .release)

theorem DevAct.call_heldBy {env : DriverEnv Drv} {conn other : ConnId} {msg : Str}
    {d : Device Drv} (h : d.HeldBy conn) (a : DevAct) (ha : ¬ TakesFrom conn other a) :
    (a.call env other msg d).state.HeldBy conn := by
  by_cases hself : other = conn
  · -- the holder's own calls
    subst hself
    cases a with
    | close => exact absurd (.inl rfl) ha
    | unlock => exact absurd (.inr ⟨rfl, .inl rfl⟩) ha
    | release => exact absurd (.inr ⟨rfl, .inr rfl⟩) ha
    | ask => exact h.ask_self
    | use => simpa [DevAct.call, h.use_self, Outcome.done] using h
    | lock => simpa [DevAct.call] using h.lock_self
    | logGet =>
      simp only [DevAct.call, Device.logGet]
      split
      · exact h
      · exact h.congr rfl rfl
    | logStart | logFinish | info => exact h.congr rfl rfl
  · -- anybody else is refused, or touches the log buffers only
    cases a with
    | close => exact absurd (.inl rfl) ha
    | unlock => simpa [DevAct.call, h.unlock_other hself, Outcome.throw] using h
    | release => exact h.release_other hself
    | ask => simpa [DevAct.call, h.ask_other hself, Outcome.throw] using h
    | use => simpa [DevAct.call, h.use_other hself, Outcome.throw] using h
    | lock => simpa [DevAct.call, h.lock_other hself, Outcome.throw] using h
    | logGet =>
      simp only [DevAct.call, Device.logGet]
      split
      · exact h
      · exact h.congr rfl rfl
    | logStart | logFinish | info => exact h.congr rfl rfl

/-- **Nobody else gets through.**  A call that needs the device throws, changes
nothing and sends nothing to the driver. -/
theorem DevAct.call_refused (env : DriverEnv Drv) {conn other : ConnId} (msg : Str)
    {d : Device Drv} (h : d.HeldBy conn) (hne : other ≠ conn) {a : DevAct} (ha : NeedsDevice a) :
    ∃ text, a.call env other msg d = .throw text d := by
  rcases ha with rfl | rfl | rfl | rfl
  · exact ⟨_, h.ask_other hne⟩
  · exact ⟨_, by simp only [DevAct.call, h.use_other hne]; rfl⟩
  · exact ⟨_, by simp only [DevAct.call, h.lock_other hne]; rfl⟩
  · exact ⟨_, by simp only [DevAct.call, h.unlock_other hne]; rfl⟩

namespace Server

/-! ### The lock over a run -/

/-- The device named `k` exists and is locked with `conn` as its only user. -/
def Holds (conn : ConnId) (k : Str) (m : DevManager Drv) : Prop :=
  ∃ d, m.devices[k]? = some d ∧ d.HeldBy conn

/-- The events that end the lock `conn` has on the device `k`: its own `unlock`
or `release` of `k`, its `release_all` or disconnect, anybody's `close` of `k`,
and a successful reload. -/
def EndsLock (conn : ConnId) (k : Str) (s : Server Drv) : Event Drv → Prop
  | .connOpen _ => False
  | .connClose other => other = conn
  | .readConf file => (s.mgr.readConf file).ret.isOk
  | .request other env url =>
    ∃ act arg msg, parseUrl url = some [act, arg, msg] ∧
      (other = conn ∧ (act = "unlock".toList ∨ act = "release".toList) ∧ arg = k ∨
        other = conn ∧ act = "release_all".toList ∧ arg = [] ∨
        act = "close".toList ∧ arg = k ∨
        act = "reload".toList ∧ (s.mgr.run env url other).ret.isOk)

theorem Holds.congr {conn : ConnId} {k : Str} {m m' : DevManager Drv} (h : Holds conn k m)
    (hd : m'.devices = m.devices) : Holds conn k m' := by
  obtain ⟨d, hk, hd'⟩ := h
  exact ⟨d, by rw [hd]; exact hk, hd'⟩

theorem Holds.releaseDevices {conn other : ConnId} {k : Str} {m : DevManager Drv}
    (h : Holds conn k m) (hne : other ≠ conn) : Holds conn k (m.releaseDevices other) := by
  obtain ⟨d, hk, hd⟩ := h
  exact ⟨d.release other, by rw [releaseDevices_getElem?, hk]; rfl, hd.release_other hne⟩

theorem Holds.readConf {conn : ConnId} {k : Str} {m : DevManager Drv} {file : ConfFile}
    (h : Holds conn k m) (hf : ¬ (m.readConf file).ret.isOk) :
    Holds conn k (m.readConf file).state := by
  rcases readConf_cases file m with ⟨e, -, hr⟩ | ⟨ret, -, hr⟩
  · rw [hr]; exact h
  · rw [hr] at hf; exact absurd rfl hf

theorem Holds.run {conn other : ConnId} {k : Str} {s : Server Drv} {env : Env Drv} {url : Str}
    (h : Holds conn k s.mgr) (hno : ¬ EndsLock conn k s (.request other env url)) :
    Holds conn k (s.mgr.run env url other).state := by
  obtain ⟨act, arg, msg, hurl⟩ := parseUrl_three url
  have hno' := fun hp => hno ⟨act, arg, msg, hurl, hp⟩
  rw [run_eq hurl] at hno' ⊢
  obtain ⟨d, hk, hd⟩ := h
  rcases runAction_cases env url act arg msg other s.mgr with
    ⟨a, hact, hr⟩ | ⟨hact, hr, hok⟩ | ⟨-, -, hr⟩ | ⟨-, -, -, hr⟩ | ⟨hact, harg, hr⟩ |
    ⟨-, -, -, hr, -⟩
  · -- a call on one device: on `k` it does not end the lock, elsewhere it does not matter
    rw [hr]
    by_cases hka : arg = k ∧ arg ≠ []
    · have ha : ¬ TakesFrom conn other a := by
        rintro (rfl | ⟨hself, rfl | rfl⟩)
        · exact hno' (.inr (.inr (.inl ⟨hact, hka.1⟩)))
        · exact hno' (.inl ⟨hself, .inl hact, hka.1⟩)
        · exact hno' (.inl ⟨hself, .inr hact, hka.1⟩)
      refine ⟨(a.call env.toDriverEnv other msg d).state, ?_, DevAct.call_heldBy hd a ha⟩
      rw [onDevice_getElem?, if_pos hka, hk]; rfl
    · exact ⟨d, by rw [onDevice_getElem?, if_neg hka]; exact hk, hd⟩
  · -- a reload that does not end the lock has failed
    have hfail : ¬ (s.mgr.readConf env.conf).ret.isOk := fun hc =>
      hno' (.inr (.inr (.inr ⟨hact, hok.mpr hc⟩)))
    rw [hr]
    exact Holds.readConf ⟨d, hk, hd⟩ hfail
  · rw [hr, Outcome.bind_done_state]
    exact Holds.congr ⟨d, hk, hd⟩ (setConnName_devices ..)
  · rw [hr]; exact ⟨d, hk, hd⟩
  · -- a `release_all` of somebody else
    have hne : other ≠ conn := fun hself => hno' (.inr (.inl ⟨hself, hact, harg⟩))
    have hrel := Holds.releaseDevices ⟨d, hk, hd⟩ hne
    rw [hr, Outcome.bind_done_state]
    exact hrel.congr (setConnName_devices ..)
  · rw [hr]; exact ⟨d, hk, hd⟩

/-- A step that does not end the lock keeps it. -/
theorem Holds.step {conn : ConnId} {k : Str} {s t : Server Drv} {e : Event Drv}
    (h : Holds conn k s.mgr) (he : s.step e = some t) (hno : ¬ EndsLock conn k s e) :
    Holds conn k t.mgr := by
  cases e with
  | connOpen other =>
    simp only [Server.step] at he
    split at he
    · cases he
    · cases he; exact h.congr (by simp [DevManager.connOpen])
  | connClose other =>
    simp only [Server.step] at he
    split at he
    · cases he; exact (h.releaseDevices hno).congr rfl
    · cases he
  | readConf file => cases he; exact h.readConf hno
  | request other env url =>
    simp only [Server.step] at he
    split at he
    · cases he; exact h.run hno
    · cases he

/-- A successful `lock` request takes the lock. -/
theorem holds_of_lock {m : DevManager Drv} {env : Env Drv} {url k msg : Str} {conn : ConnId}
    (hurl : parseUrl url = some ["lock".toList, k, msg])
    (hok : (m.run env url conn).ret.isOk) : Holds conn k (m.run env url conn).state := by
  rw [run_devAct (a := .lock) hurl] at hok ⊢
  by_cases hk : k = []
  · simp [onDevice, hk, Outcome.throw, throwErr, Except.isOk, Except.toBool] at hok
  rcases hd : m.devices[k]? with - | d
  · simp [onDevice, hk, hd, Outcome.throw, throwErr, Except.isOk, Except.toBool] at hok
  · rw [onDevice_of_getElem? url hk hd] at hok ⊢
    refine ⟨_, ExtTreeMap.getElem?_insert_self, ?_⟩
    rcases hl : (d.lock env.toDriverEnv conn).ret with x | ⟨⟩
    · simp [DevAct.call, noAnswer_error.mpr hl, Except.isOk, Except.toBool] at hok
    · simpa [DevAct.call] using Device.heldBy_of_lock hl

/-- While the lock is held, a request of anybody else that needs the device is
refused as a whole. -/
theorem Holds.refused {conn other : ConnId} {k act msg url : Str} {m : DevManager Drv}
    {env : Env Drv} (h : Holds conn k m) (hne : other ≠ conn) {a : DevAct} (ha : NeedsDevice a)
    (hact : act = a.name) (hurl : parseUrl url = some [act, k, msg]) :
    ∃ text, m.run env url other = .throw text m := by
  obtain ⟨d, hk, hd⟩ := h
  obtain ⟨text, hcall⟩ := DevAct.call_refused env.toDriverEnv msg hd hne ha
  have hrun : m.run env url other = m.onDevice url k (a.call env.toDriverEnv other msg) :=
    run_devAct (hact ▸ hurl) env other m
  by_cases hnil : k = []
  · exact ⟨_, by rw [hrun, onDevice, if_pos hnil]⟩
  · refine ⟨text, ?_⟩
    rw [hrun, onDevice_of_getElem? url hnil hk, hcall]
    simp [Outcome.throw, insert_getElem?_self hk]

/-- **Lock exclusivity over whole runs.**  In every reachable state a locked
device has exactly one user and a used device an open driver.  After a
successful `lock/<k>` by `conn`, as long as nothing of `EndsLock` happens, the
device stays locked with `conn` as its only user, and every `ask`, `use`, `lock`
and `unlock` of `k` by another connection throws, sends nothing to a driver and
leaves the whole manager as it was. -/
theorem lock_exclusive :
    (∀ s : Server Drv, s.Reachable → ∀ (k : Str) d, s.mgr.devices[k]? = some d →
      (d.locked = true → d.users.card = 1) ∧ (d.users.Nonempty → d.drv.isSome = true)) ∧
    (∀ (s s₁ s₂ : Server Drv) (conn : ConnId) (env : Env Drv) (url k msg : Str)
      (es : List (Event Drv)), s.Reachable →
      parseUrl url = some ["lock".toList, k, msg] → (s.mgr.run env url conn).ret.isOk →
      s.step (.request conn env url) = some s₁ →
      Along step (fun s e _ => ¬ EndsLock conn k s e) s₁ es → run step s₁ es = some s₂ →
      (∃ d, s₂.mgr.devices[k]? = some d ∧ d.locked = true ∧ d.users = {conn}) ∧
      ∀ (other : ConnId) (env' : Env Drv) (url' act' msg' : Str), other ≠ conn →
        act' ∈ ["ask".toList, "use".toList, "lock".toList, "unlock".toList] →
        parseUrl url' = some [act', k, msg'] →
        ∃ text, s₂.mgr.run env' url' other = ⟨throwErr text, s₂.mgr, []⟩) := by
  refine ⟨fun s hs k d hd => ?_, ?_⟩
  · have hwf := hs.inv.devices k d hd
    exact ⟨hwf.lockedSole, hwf.usedOpen⟩
  intro s s₁ s₂ conn env url k msg es _ hurl hok hs₁ hno hs₂
  have h₁ : Holds conn k s₁.mgr := by
    simp only [Server.step] at hs₁
    split at hs₁
    · cases hs₁; exact holds_of_lock hurl hok
    · cases hs₁
  have h₂ : Holds conn k s₂.mgr :=
    run_invariant_along (I := fun s => Holds conn k s.mgr)
      (fun _ _ _ h he hφ => h.step he hφ) h₁ hno hs₂
  refine ⟨?_, fun other env' url' act' msg' hne hact hurl' => ?_⟩
  · obtain ⟨d, hk, hd⟩ := h₂
    exact ⟨d, hk, hd.locked, hd.users⟩
  · simp only [List.mem_cons, List.not_mem_nil, or_false] at hact
    rcases hact with hact | hact | hact | hact
    · exact h₂.refused (a := .ask) hne (.inl rfl) hact hurl'
    · exact h₂.refused (a := .use) hne (.inr (.inl rfl)) hact hurl'
    · exact h₂.refused (a := .lock) hne (.inr (.inr (.inl rfl))) hact hurl'
    · exact h₂.refused (a := .unlock) hne (.inr (.inr (.inr rfl))) hact hurl'

/-- Connection 1 locks `a`; after connection 2 has tried to release it, `a` is
still locked and connection 2 gets no answer from it. -/
theorem lock_exclusive_testServer :
    let s₁ : Server Unit := ⟨(testServer.mgr.run testEnv "lock/a" 1).state, {2, 1}⟩
    let s₂ : Server Unit := ⟨(s₁.mgr.run testEnv "release/a" 2).state, {2, 1}⟩
    (∃ d, s₂.mgr.devices["a".toList]? = some d ∧ d.locked = true ∧ d.users = {1}) ∧
    ∃ text, s₂.mgr.run testEnv "ask/a/x" 2 = ⟨throwErr text, s₂.mgr, []⟩ := by
  intro s₁ s₂
  have hno : Along step (fun s e _ => ¬ EndsLock 1 "a" s e) s₁
      [.request 2 testEnv "release/a"] := by
    intro t _
    refine ⟨?_, trivial⟩
    rintro ⟨act, arg, msg, hurl, hends⟩
    have hparts : parseUrl "release/a" = some ["release".toList, "a".toList, []] := by decide
    rw [hparts] at hurl
    cases hurl
    revert hends
    decide
  obtain ⟨hheld, hrefused⟩ := lock_exclusive.2 testServer s₁ s₂ 1 testEnv "lock/a" "a" []
    [.request 2 testEnv "release/a"] testServer_reachable (by decide) (by decide) rfl hno rfl
  exact ⟨hheld, hrefused 2 testEnv "ask/a/x" "ask" "x" (by decide) (by decide) (by decide)⟩

end Server

end Device2
