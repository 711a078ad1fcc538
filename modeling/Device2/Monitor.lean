/-
Device2/Monitor.lean

`device_c monitor`: all communication of a device, as another client sees it.

The client starts a log and polls it (`Downloader.monitor`); between two polls other
connections send any requests (`Turn`).  What is printed is compared with `produced`,
the entries of the device's whole traffic, which know nothing of logs.

Nothing is printed twice or out of order, and what is missing is exact: of the entries
of one gap only the last `max_log_size` are there.  So up to 512 asks between two polls
nothing is missing at all (`monitor_history`).  The monitor ends with an error at the
first gap in which the device was closed or reloaded, and of the polls the server
answers in time no other one fails (`LogEnds`).  A poll that comes too late is not
followed: the server closes a connection after 10 s, and its logs with it.
-/
import Device2.RemoteDevice

namespace Device2

open Std StepSystem DevManager

variable {Drv : Type}

/-! ### The client -/

namespace Downloader

variable {σ : Type}

/-- The loop of `monitor`, as far as its first `n` rounds. -/
def monitorLoop (D : Downloader σ) (dev : Str) : Nat → σ → Session σ
  | 0, s => ⟨[], .ok (), s⟩
  | n + 1, s =>
    match D.get "log_get" dev [] s with
    | (.error e, s) => ⟨[], .error e, s⟩
    | (.ok text, s) =>
      let r := D.monitorLoop dev n s
      { r with out := text ++ r.out }

/-- `Downloader::monitor`. -/
def monitor (D : Downloader σ) (dev : Str) (n : Nat) (s : σ) : Session σ :=
  match D.get "log_start" dev [] s with
  | (.error e, s) => ⟨[], .error e, s⟩
  | (.ok _, s) => D.monitorLoop dev n s

end Downloader

/-! ### The device -/

namespace Device

variable {d : Device Drv} {c : ConnId}

/-- The requests of a monitor. -/
def poll (c : ConnId) : DevRequest Drv := ⟨c, noDriver, .logGet, []⟩

/-- What a monitor prints of the entries: of each gap the last ones. -/
def printed (c : ConnId) : Device Drv → List (List (DevRequest Drv)) → List Str
  | _, [] => []
  | d, rs :: gaps =>
    (d.produced rs).rtake d.maxLogSize ++ ((d.after rs).next (poll c)).printed c gaps

theorem produced_append (d : Device Drv) (rs rs' : List (DevRequest Drv)) :
    d.produced (rs ++ rs') = d.produced rs ++ (d.after rs).produced rs' := by
  induction rs generalizing d with
  | nil => rfl
  | cons r rs ih =>
    show d.entries r ++ (d.next r).produced (rs ++ rs') = _
    rw [ih, ← List.append_assoc]
    rfl

/-- The history of some gaps begins with that of the first one. -/
theorem produced_gap (d : Device Drv) (rs : List (DevRequest Drv)) (gaps : List (List (DevRequest Drv))) :
    d.produced ((rs :: gaps).flatMap (· ++ [poll c])) =
      d.produced rs ++ ((d.after rs).next (poll c)).produced (gaps.flatMap (· ++ [poll c])) := by
  have hpoll : ((d.after rs).entries (poll c)) = [] := entries_of_ne_ask (by simp [poll])
  rw [List.flatMap_cons, List.append_assoc, produced_append]
  show _ ++ ((d.after rs).entries (poll c) ++ _) = _
  rw [hpoll]
  rfl

/-- An exchange has two entries, and nothing else has any. -/
theorem entries_length_le (d : Device Drv) (r : DevRequest Drv) :
    (d.entries r).length ≤ 2 * [r].countP (·.act = .ask) := by
  by_cases h : r.act = .ask
  · rw [List.countP_singleton, if_pos (by simpa using h), entries]
    split
    · rcases (d.call r).ret with (e | - | -) | answer <;> simp [exchange]
    · simp
  · rw [entries_of_ne_ask h]
    exact Nat.zero_le _

theorem produced_length_le (d : Device Drv) (rs : List (DevRequest Drv)) :
    (d.produced rs).length ≤ 2 * rs.countP (·.act = .ask) := by
  induction rs generalizing d with
  | nil => exact Nat.le_refl 0
  | cons r rs ih =>
    have hfirst := d.entries_length_le r
    have hrest := ih (d.next r)
    rw [← List.singleton_append, List.countP_append, produced_append, List.length_append]
    simp only [produced, List.append_nil, after_cons, after_nil]
    omega

theorem after_maxLogSize (d : Device Drv) (rs : List (DevRequest Drv)) :
    (d.after rs).maxLogSize = d.maxLogSize :=
  after_invariant (P := fun d' => d'.maxLogSize = d.maxLogSize)
    (fun d' r h => (next_maxLogSize d' r).trans h) rfl rs

theorem rtake_sublist {α : Type} (l : List α) (n : Nat) : (l.rtake n).Sublist l :=
  List.drop_sublist _ _

/-- Nothing is made up, and the order is kept. -/
theorem printed_sublist (c : ConnId) (d : Device Drv) (gaps : List (List (DevRequest Drv))) :
    (d.printed c gaps).Sublist (d.produced (gaps.flatMap (· ++ [poll c]))) := by
  induction gaps generalizing d with
  | nil => exact List.Sublist.refl _
  | cons rs gaps ih =>
    rw [produced_gap]
    exact (rtake_sublist _ _).append (ih _)

/-- Few asks in each gap: nothing is missing. -/
theorem printed_eq (c : ConnId) (d : Device Drv) (gaps : List (List (DevRequest Drv)))
    (h : ∀ rs ∈ gaps, 2 * rs.countP (·.act = .ask) ≤ d.maxLogSize) :
    d.printed c gaps = d.produced (gaps.flatMap (· ++ [poll c])) := by
  induction gaps generalizing d with
  | nil => rfl
  | cons rs gaps ih =>
    obtain ⟨hrs, hgaps⟩ := List.forall_mem_cons.mp h
    have hmax : ((d.after rs).next (poll c)).maxLogSize = d.maxLogSize := by
      rw [next_maxLogSize, after_maxLogSize]
    have hall : (d.produced rs).rtake d.maxLogSize = d.produced rs := by
      have := d.produced_length_le rs
      rw [List.rtake, Nat.sub_eq_zero_of_le (by omega), List.drop_zero]
    rw [produced_gap, printed, hall, ih _ (by rwa [hmax])]

/-- A device whose buffers hold the last entries of some logs. -/
structure Logged (d : Device Drv) : Prop where
  wellFormed : d.WellFormed
  maxLogSize : d.maxLogSize = 1024
  refines : ∃ v, Refines d v

theorem Logged.next (h : d.Logged) (r : DevRequest Drv) : (d.next r).Logged := by
  obtain ⟨v, hv⟩ := h.refines
  exact ⟨r.act.call_wellFormed r.env r.conn r.msg h.wellFormed,
    (next_maxLogSize d r).trans h.maxLogSize, _, hv.next h.wellFormed r⟩

theorem logged_fresh (k : Str) (d : Device Drv) (h : Fresh k d) : d.Logged := by
  obtain ⟨drvName, drvArgs, rfl⟩ := h
  exact ⟨wellFormed_fresh .., rfl, fun _ => none, refines_fresh k drvName drvArgs⟩

/-- The requests of others neither begin nor end a log, but for a `close`. -/
theorem quiet {r : DevRequest Drv} (hc : r.conn ≠ c) (hclose : r.act ≠ .close) :
    ¬ Marks c r ∧ ¬ Stops c r := by
  constructor
  · rintro ⟨h, -⟩
    exact hc h
  · rintro (h | ⟨h, -⟩)
    · exact hclose h
    · exact hc h

/-- **One gap.**  The buffer has collected what the others have made. -/
theorem Logged.poll (h : d.Logged) (hbuf : d.logBufs[c]? = some []) {rs : List (DevRequest Drv)}
    (hc : ∀ r ∈ rs, r.conn ≠ c) (hclose : ∀ r ∈ rs, r.act ≠ .close) :
    ((d.after rs).logGet c : Outcome (Device Drv) Drv Str).ret =
        .ok (unlines ((d.produced rs).rtake d.maxLogSize)) ∧
      ((d.after rs).next (Device.poll c)).logBufs[c]? = some [] := by
  obtain ⟨v, hv⟩ := h.refines
  -- our log is empty, whatever the others have
  have hstart : Refines d fun c' => if c' = c then some [] else v c' := by
    intro c'
    dsimp only
    split
    · rename_i hc'
      rw [hc', hbuf, Option.map_some, List.rtake_nil, List.map_nil]
    · exact hv c'
  have hquiet : ∀ r ∈ rs, ¬ Marks c r ∧ ¬ Stops c r := fun r hr => quiet (hc r hr) (hclose r hr)
  have hcollected : LogSpec.after (fun c' => if c' = c then some [] else v c') d rs c =
      some (d.produced rs) := by
    rw [LogSpec.after_quiet hquiet, if_pos rfl]
    rfl
  have hget := (hstart.after h.wellFormed rs).logGet hcollected
  refine ⟨?_, ?_⟩
  · rw [hget, after_maxLogSize]
    rfl
  · show ((d.after rs).logGet c : Outcome (Device Drv) Drv Str).state.logBufs[c]? = _
    rw [hget]
    exact ExtTreeMap.getElem?_insert_self

/-- Others do not start our log. -/
theorem Logged.notMem_next (h : d.Logged) (hbuf : c ∉ d.logBufs) {r : DevRequest Drv}
    (hc : r.conn ≠ c) : c ∉ (d.next r).logBufs := by
  obtain ⟨v, hv⟩ := h.refines
  have hmem : ∀ {d' : Device Drv} {v' : LogSpec}, Refines d' v' →
      (c ∈ d'.logBufs ↔ (v' c).isSome = true) := by
    intro d' v' h'
    rw [ExtTreeMap.mem_iff_isSome_getElem?, h' c, Option.isSome_map]
  rw [hmem (hv.next h.wellFormed r), LogSpec.step_isSome]
  rintro ⟨-, ⟨hr, -⟩ | hsome⟩
  · exact hc hr
  · exact hbuf ((hmem hv).mpr hsome)

theorem Logged.notMem_after (h : d.Logged) (hbuf : c ∉ d.logBufs) {rs : List (DevRequest Drv)}
    (hc : ∀ r ∈ rs, r.conn ≠ c) : c ∉ (d.after rs).logBufs := by
  induction rs generalizing d with
  | nil => exact hbuf
  | cons r rs ih =>
    obtain ⟨hr, hrs⟩ := List.forall_mem_cons.mp hc
    exact ih (h.next r) (h.notMem_next hbuf hr) hrs

/-- After a `close` among the requests of others our log is gone. -/
theorem Logged.notMem_of_close (h : d.Logged) {rs : List (DevRequest Drv)}
    (hc : ∀ r ∈ rs, r.conn ≠ c) (hclose : ∃ r ∈ rs, r.act = .close) : c ∉ (d.after rs).logBufs := by
  induction rs generalizing d with
  | nil => simp at hclose
  | cons r rs ih =>
    obtain ⟨-, hrs⟩ := List.forall_mem_cons.mp hc
    obtain ⟨r', hr', hact⟩ := hclose
    rcases List.mem_cons.mp hr' with rfl | hmem
    · apply (h.next r').notMem_after _ hrs
      obtain ⟨conn, env, act, msg⟩ := r'
      subst hact
      show c ∉ (∅ : ExtTreeMap ConnId (List Str))
      simp
    · exact ih (h.next r) hrs ⟨r', hmem, hact⟩

end Device

/-! ### The gaps -/

/-- What the device named `k` sees of the requests of others. -/
def othersSeenBy (k : Str) (rs : List (ConnId × Env Drv × Str)) : List (DevRequest Drv) :=
  rs.flatMap fun r => Event.seenBy k (.request r.1 r.2.1 r.2.2)

theorem seenBy_conn {k : Str} {conn : ConnId} {env : Env Drv} {url : Str} {r : DevRequest Drv}
    (h : r ∈ Event.seenBy k (.request conn env url)) : r.conn = conn := by
  obtain ⟨act, arg, msg, hurl⟩ := parseUrl_three url
  simp only [Event.seenBy, hurl, requestsTo] at h
  split at h
  · rw [List.mem_singleton.mp h]
  · split at h
    · obtain ⟨a, -, rfl⟩ := Option.map_eq_some_iff.mp (Option.mem_toList.mp h)
      rfl
    · cases h

theorem othersSeenBy_conn {k : Str} {c : ConnId} {rs : List (ConnId × Env Drv × Str)}
    (hc : ∀ r ∈ rs, r.1 ≠ c) : ∀ r ∈ othersSeenBy k rs, r.conn ≠ c := by
  intro r hr
  obtain ⟨o, ho, hr⟩ := List.mem_flatMap.mp hr
  rw [seenBy_conn hr]
  exact hc o ho

namespace DevManager

variable {k : Str} {c : ConnId} {m : DevManager Drv}

/-- A request of another connection as a step of the manager. -/
def served (m : DevManager Drv) (r : ConnId × Env Drv × Str) : DevManager Drv :=
  (m.run r.2.1 r.2.2 r.1).state

/-- The request reloads the devices. -/
def Reloads (m : DevManager Drv) (r : ConnId × Env Drv × Str) : Prop :=
  (∃ arg msg, parseUrl r.2.2 = some ["reload".toList, arg, msg]) ∧ (m.run r.2.1 r.2.2 r.1).ret.isOk

/-- One of the requests closes the device named `k`, or reloads the devices. -/
def LosesLogs (k : Str) : DevManager Drv → List (ConnId × Env Drv × Str) → Prop
  | _, [] => False
  | m, r :: rs => (∃ r' ∈ othersSeenBy k [r], r'.act = .close) ∨ m.Reloads r ∨
      LosesLogs k (m.served r) rs

theorem AllDevices.served (h : m.AllDevices Device.Logged) (r : ConnId × Env Drv × Str) :
    (m.served r).AllDevices Device.Logged :=
  h.run (fun a msg _ hd => hd.next ⟨r.1, r.2.1.toDriverEnv, a, msg⟩) Device.logged_fresh

theorem AllDevices.foldl_served (h : m.AllDevices Device.Logged) (rs : List (ConnId × Env Drv × Str)) :
    (rs.foldl DevManager.served m).AllDevices Device.Logged := by
  induction rs generalizing m with
  | nil => exact h
  | cons r rs ih => exact ih (h.served r)

theorem AllDevices.devAct_logged (h : m.AllDevices Device.Logged) (url arg : Str) (a : DevAct)
    (env : DriverEnv Drv) (conn : ConnId) (msg : Str) :
    (m.onDevice url arg (a.call env conn msg)).state.AllDevices Device.Logged :=
  h.onDevice fun _ hd => hd.next ⟨conn, env, a, msg⟩

/-- The connection has no log of the device named `k`. -/
def NoLog (c : ConnId) (k : Str) (m : DevManager Drv) : Prop :=
  ∀ d, m.devices[k]? = some d → c ∉ d.logBufs

theorem Reloads.noLog {r : ConnId × Env Drv × Str} (h : m.Reloads r) : (m.served r).NoLog c k := by
  obtain ⟨⟨arg, msg, hurl⟩, hok⟩ := h
  intro d hd
  obtain ⟨drvName, drvArgs, rfl⟩ := parseConf_fresh (Server.devices_of_reload hurl hok) k d hd
  simp

/-- A request that does not reload is one the device follows. -/
theorem follows_served {r : ConnId × Env Drv × Str} (h : ¬ m.Reloads r) :
    Server.Follows k (othersSeenBy k [r]) m (m.served r) := by
  rw [othersSeenBy, List.flatMap_singleton]
  exact Server.follows_run fun hurl hok => h ⟨hurl, hok⟩

theorem NoLog.served (h : m.NoLog c k) (hm : m.AllDevices Device.Logged)
    {r : ConnId × Env Drv × Str} (hc : r.1 ≠ c) : (m.served r).NoLog c k := by
  by_cases hload : m.Reloads r
  · exact hload.noLog
  · intro d hd
    rw [follows_served hload] at hd
    obtain ⟨d₀, hd₀, rfl⟩ := Option.map_eq_some_iff.mp hd
    exact (hm k d₀ hd₀).notMem_after (h d₀ hd₀) (othersSeenBy_conn (by simpa using hc))

theorem NoLog.foldl_served (h : m.NoLog c k) (hm : m.AllDevices Device.Logged)
    {rs : List (ConnId × Env Drv × Str)} (hc : ∀ r ∈ rs, r.1 ≠ c) : (rs.foldl DevManager.served m).NoLog c k := by
  induction rs generalizing m with
  | nil => exact h
  | cons r rs ih =>
    obtain ⟨hr, hrs⟩ := List.forall_mem_cons.mp hc
    exact ih (h.served hm hr) (hm.served r) hrs

/-- A gap with a `close` or a reload takes our log away. -/
theorem noLog_of_losesLogs (hm : m.AllDevices Device.Logged) {rs : List (ConnId × Env Drv × Str)}
    (hc : ∀ r ∈ rs, r.1 ≠ c) (h : m.LosesLogs k rs) : (rs.foldl DevManager.served m).NoLog c k := by
  induction rs generalizing m with
  | nil => cases h
  | cons r rs ih =>
    obtain ⟨hr, hrs⟩ := List.forall_mem_cons.mp hc
    rcases h with hclose | hload | hrest
    · by_cases hload : m.Reloads r
      · exact hload.noLog.foldl_served (hm.served r) hrs
      · apply NoLog.foldl_served _ (hm.served r) hrs
        intro d hd
        rw [follows_served hload] at hd
        obtain ⟨d₀, hd₀, rfl⟩ := Option.map_eq_some_iff.mp hd
        exact (hm k d₀ hd₀).notMem_of_close (othersSeenBy_conn (by simpa using hr)) hclose
    · exact hload.noLog.foldl_served (hm.served r) hrs
    · exact ih (hm.served r) hrs hrest

/-- A gap without: the device goes through what it sees. -/
theorem follows_of_not_losesLogs {rs : List (ConnId × Env Drv × Str)} (h : ¬ m.LosesLogs k rs) :
    (∀ r ∈ othersSeenBy k rs, r.act ≠ .close) ∧
      Server.Follows k (othersSeenBy k rs) m (rs.foldl DevManager.served m) := by
  induction rs generalizing m with
  | nil => exact ⟨by simp [othersSeenBy], .of_eq rfl⟩
  | cons r rs ih =>
    rw [LosesLogs, not_or, not_or] at h
    obtain ⟨hclose, hload, hrest⟩ := h
    obtain ⟨hact, hfollows⟩ := ih hrest
    have hsplit : othersSeenBy k (r :: rs) = othersSeenBy k [r] ++ othersSeenBy k rs := by
      simp [othersSeenBy]
    rw [hsplit]
    refine ⟨fun r' hr' => ?_, (follows_served hload).trans hfollows⟩
    rcases List.mem_append.mp hr' with hr' | hr'
    · exact fun hact' => hclose ⟨r', hr', hact'⟩
    · exact hact r' hr'

end DevManager

/-- In every reachable state of the server the buffers hold the last entries of some logs. -/
theorem Server.Reachable.logged {s : Server Drv} (h : s.Reachable) : s.mgr.AllDevices Device.Logged := by
  refine StepSystem.Reachable.invariant (I := fun s => s.mgr.AllDevices Device.Logged)
    (fun s hs => ?_) (fun s e t hs he => ?_) h
  · obtain ⟨devfile, file, rfl⟩ := hs
    have h₀ : ({ devfile } : DevManager Drv).AllDevices Device.Logged := by simp [AllDevices]
    exact h₀.readConf Device.logged_fresh file
  · cases e with
    | connOpen conn =>
      simp only [Server.step] at he
      split at he
      · cases he
      · cases he
        intro k d hd
        rw [connOpen, setConnName_devices] at hd
        exact hs k d hd
    | request conn env url =>
      simp only [Server.step] at he
      split at he
      · cases he
        exact hs.served (conn, env, url)
      · cases he
    | connClose conn =>
      simp only [Server.step] at he
      split at he
      · cases he
        exact hs.releaseDevices fun d hd => hd.next ⟨conn, noDriver, .release, []⟩
      · cases he
    | readConf file =>
      cases he
      exact hs.readConf Device.logged_fresh file

/-! ### The polls -/

namespace Remote

variable {conn : ConnId} {dev : Str} {w : Remote Drv} {d : Device Drv} {t : Turn Drv}
  {ts : List (Turn Drv)}

/-- In the next gap the log is lost. -/
def LogEnds (dev : Str) (w : Remote Drv) : Prop :=
  ∃ t ∈ w.turns.head?, w.dm.LosesLogs dev t.others

theorem logEnds_iff (hts : w.turns = t :: ts) : w.LogEnds dev ↔ w.dm.LosesLogs dev t.others := by
  simp [LogEnds, hts]

/-- Right after `log_start` or `log_get` of `conn`. -/
structure Watches (conn : ConnId) (dev : Str) (w : Remote Drv) (d : Device Drv) : Prop where
  logged : w.dm.AllDevices Device.Logged
  device : w.dm.devices[dev]? = some d
  buffer : d.logBufs[conn]? = some []
  others : ∀ t ∈ w.turns, ∀ r ∈ t.others, r.1 ≠ conn

theorem Watches.wellFormed (h : w.Watches conn dev d) : w.dm.AllDevices Device.WellFormed :=
  fun k d' hd' => (h.logged k d' hd').wellFormed

/-- **A poll** prints what the gap before it has produced. -/
theorem Watches.poll (h : w.Watches conn dev d) (hne : dev ≠ []) (hts : w.turns = t :: ts)
    (hkeep : ¬ w.dm.LosesLogs dev t.others) :
    let o := t.request conn "log_get" dev [] w.dm
    o.ret = .ok (unlines ((d.produced (othersSeenBy dev t.others)).rtake d.maxLogSize)) ∧
      (⟨o.state, ts, w.asked ++ o.asked⟩ : Remote Drv).Watches conn dev
        ((d.after (othersSeenBy dev t.others)).next (Device.poll conn)) := by
  have hothers := List.forall_mem_cons.mp (hts ▸ h.others)
  obtain ⟨hclose, hfollows⟩ := follows_of_not_losesLogs hkeep
  have hd : (t.before w.dm).devices[dev]? = some (d.after (othersSeenBy dev t.others)) := by
    rw [show t.before w.dm = t.others.foldl DevManager.served w.dm from rfl, hfollows, h.device,
      Option.map_some]
  obtain ⟨hret, hbuf⟩ := (h.logged dev d h.device).poll h.buffer (othersSeenBy_conn hothers.1) hclose
  have hnext := (h.logged.foldl_served t.others).devAct_logged (requestUrl "log_get" dev []) dev
    .logGet t.env.toDriverEnv conn []
  change ((t.before w.dm).onDevice _ _ _).state.AllDevices _ at hnext
  rw [show "log_get".toList = DevAct.logGet.name from rfl, t.request_devAct,
    onDevice_of_getElem? _ hne hd]
  rw [onDevice_of_getElem? _ hne hd] at hnext
  refine ⟨hret, hnext, ?_, hbuf, hothers.2⟩
  exact ExtTreeMap.getElem?_insert_self

/-- A poll after the log has ended fails. -/
theorem Watches.ends (h : w.Watches conn dev d) (hts : w.turns = t :: ts)
    (hend : w.dm.LosesLogs dev t.others) :
    ∃ e, clientResult (t.request conn "log_get" dev [] w.dm).ret = .error e := by
  have hothers := List.forall_mem_cons.mp (hts ▸ h.others)
  have hno : (t.before w.dm).NoLog conn dev := noLog_of_losesLogs h.logged hothers.1 hend
  rw [show "log_get".toList = DevAct.logGet.name from rfl, t.request_devAct, onDevice]
  split
  · exact ⟨_, rfl⟩
  · split
    · exact ⟨_, rfl⟩
    · rename_i d' hd'
      have hnone : d'.logBufs[conn]? = none := ExtTreeMap.getElem?_eq_none (hno d' hd')
      refine ⟨{ str := "Logging is off" }, ?_⟩
      show clientResult (d'.logGet conn : Outcome (Device Drv) Drv Str).ret = _
      rw [Device.logGet]
      rw [hnone]
      rfl

/-- `log_start` begins the watch. -/
theorem watches_logStart (hw : w.dm.AllDevices Device.Logged) (hts : w.turns = t :: ts)
    (hothers : ∀ t ∈ w.turns, ∀ r ∈ t.others, r.1 ≠ conn) {text : Str}
    (hstart : clientResult (t.request conn "log_start" dev [] w.dm).ret = .ok text) :
    dev ≠ [] ∧ ∃ d, Watches conn dev ⟨(t.request conn "log_start" dev [] w.dm).state, ts,
      w.asked ++ (t.request conn "log_start" dev [] w.dm).asked⟩ d := by
  have hlogged := (hw.foldl_served t.others).devAct_logged (requestUrl "log_start" dev []) dev
    .logStart t.env.toDriverEnv conn []
  change ((t.before w.dm).onDevice _ _ _).state.AllDevices _ at hlogged
  have hrest := (List.forall_mem_cons.mp (hts ▸ hothers)).2
  rw [show "log_start".toList = DevAct.logStart.name from rfl, t.request_devAct] at hstart ⊢
  by_cases hne : dev = []
  · rw [onDevice, if_pos hne] at hstart
    cases hstart
  · rcases hd : (t.before w.dm).devices[dev]? with - | d
    · rw [onDevice, if_neg hne, hd] at hstart
      cases hstart
    · rw [onDevice_of_getElem? _ hne hd] at hlogged ⊢
      refine ⟨hne, d.logStart conn, hlogged, ?_, ?_, hrest⟩
      · exact ExtTreeMap.getElem?_insert_self
      · exact ExtTreeMap.getElem?_insert_self

end Remote

/-! ### The monitor -/

variable {M : UrlDecoder}

/-- The server after some polls. -/
def Link.polled (L : Link M Drv) (dev : Str) (w : Remote Drv) : Nat → Remote Drv
  | 0 => w
  | i + 1 => L.polled dev (L.client.get "log_get" dev [] w).2 i

/-- **The loop of the monitor**, by its polls. -/
theorem monitorLoop_watches (L : Link M Drv) {dev : Str} (hget : L.Carries "log_get" dev [])
    (hne : dev ≠ []) {n : Nat} {w : Remote Drv} {d : Device Drv} (h : w.Watches L.conn dev d)
    (hturns : n ≤ w.turns.length) :
    let m := L.client.monitorLoop dev n w
    ∃ k ≤ n, (m.ret.isOk = true ↔ k = n) ∧
      (∀ i < k, ¬ (L.polled dev w i).LogEnds dev) ∧ (k < n → (L.polled dev w k).LogEnds dev) ∧
      m.out = unlines (d.printed L.conn ((w.turns.take k).map fun t => othersSeenBy dev t.others)) := by
  induction n generalizing w d with
  | zero => exact ⟨0, Nat.le_refl 0, ⟨fun _ => rfl, fun _ => rfl⟩, by simp, by simp, rfl⟩
  | succ n ih =>
    obtain ⟨t, ts, hts⟩ := List.exists_cons_of_ne_nil (List.ne_nil_of_length_pos
      (Nat.lt_of_lt_of_le (Nat.succ_pos n) hturns))
    have hpoll := L.get_eq hget hts h.wellFormed
    dsimp only at hpoll ⊢
    rw [Downloader.monitorLoop, hpoll]
    by_cases hend : w.dm.LosesLogs dev t.others
    · obtain ⟨e, he⟩ := h.ends hts hend
      rw [he]
      refine ⟨0, Nat.zero_le _, ⟨fun hok => ?_, fun hn => ?_⟩, by simp,
        fun _ => (Remote.logEnds_iff hts).mpr hend, rfl⟩
      · cases hok
      · cases hn
    · -- one more poll, and then the rest
      obtain ⟨hret, hwatch⟩ := h.poll hne hts hend
      rw [hret] at hpoll ⊢
      rw [hts] at hturns
      obtain ⟨k, hk, hok, hbefore, hlast, hout⟩ := ih hwatch (Nat.le_of_succ_le_succ hturns)
      refine ⟨k + 1, Nat.succ_le_succ hk, ?_, fun i hi => ?_, fun hkn => ?_, ?_⟩
      · rw [Nat.add_right_cancel_iff]
        exact hok
      · cases i with
        | zero => exact mt (Remote.logEnds_iff hts).mp hend
        | succ i =>
          rw [Link.polled, hpoll]
          exact hbefore i (Nat.lt_of_succ_lt_succ hi)
      · rw [Link.polled, hpoll]
        exact hlast (Nat.lt_of_succ_lt_succ hkn)
      · have happend : ∀ es es' : List Str, unlines (es ++ es') = unlines es ++ unlines es' :=
          fun es es' => List.flatMap_append
        rw [hts, List.take_succ_cons, List.map_cons, Device.printed, happend]
        exact congrArg (unlines _ ++ ·) hout

/-- **The monitor prints the history of the device.**  A client starts its log and polls
it `n` times; the server answers all of this in time, and between the polls the other
connections do what they want.  The monitor goes on, poll by poll, to the first gap in
which the device is closed or reloaded, and ends there with an error; no other poll
fails.  Up to there it has printed entries of the device's history since `log_start`, in
their order and none twice; of each gap the last 1024, which is all of them if there
have been up to 512 asks in every gap. -/
theorem monitor_history (L : Link M Drv) {dev : Str} (hfirst : L.Carries "log_start" dev [])
    (hget : L.Carries "log_get" dev []) {s : Server Drv} (hs : s.Reachable) {w w' : Remote Drv}
    (hw : w.dm = s.mgr) (hothers : ∀ t ∈ w.turns, ∀ r ∈ t.others, r.1 ≠ L.conn) {n : Nat}
    (hturns : n < w.turns.length) {text : Str}
    (hstart : L.client.get "log_start" dev [] w = (.ok text, w')) :
    let m := L.client.monitor dev n w
    ∃ k ≤ n, ∃ d, w'.dm.devices[dev]? = some d ∧
      (m.ret.isOk = true ↔ k = n) ∧ (∀ i < k, ¬ (L.polled dev w' i).LogEnds dev) ∧
      (k < n → (L.polled dev w' k).LogEnds dev) ∧
      let gaps := (w'.turns.take k).map fun t => othersSeenBy dev t.others
      let history := d.produced (gaps.flatMap (· ++ [Device.poll L.conn]))
      m.out = unlines (d.printed L.conn gaps) ∧ (d.printed L.conn gaps).Sublist history ∧
        ((∀ rs ∈ gaps, rs.countP (·.act = .ask) ≤ 512) → m.out = unlines history) := by
  have hlogged := hw ▸ hs.logged
  have hmonitor : L.client.monitor dev n w = L.client.monitorLoop dev n w' := by
    rw [Downloader.monitor, hstart]
  rcases hts : w.turns with - | ⟨t, ts⟩
  · simp [hts] at hturns
  rw [L.get_eq hfirst hts fun k d' hd' => (hlogged k d' hd').wellFormed] at hstart
  obtain ⟨hret, rfl⟩ := Prod.mk.inj hstart
  obtain ⟨hne, d, hwatch⟩ := Remote.watches_logStart hlogged hts hothers hret
  obtain ⟨k, hk, hok, hbefore, hlast, hout⟩ := monitorLoop_watches L hget hne hwatch
    (Nat.le_of_lt_succ (hts ▸ hturns))
  dsimp only
  rw [hmonitor]
  refine ⟨k, hk, d, hwatch.device, hok, hbefore, hlast, hout, Device.printed_sublist .., fun hfew => ?_⟩
  rw [hout, Device.printed_eq]
  intro rs hrs
  have := hfew rs hrs
  rw [(hwatch.logged dev d hwatch.device).maxLogSize]
  omega

/-- The server with `n2.txt`: a log, and a poll after a message of another connection. -/
def testMonitored : Remote Unit where
  dm := Server.testServer.mgr
  turns := [⟨[], Server.testEnv⟩, ⟨[(2, Server.testEnv, "/ask/a/x")], Server.testEnv⟩]

theorem monitor_history_test :
    let w' := (testLink.client.get "log_start" "a" [] testMonitored).2
    let m := testLink.client.monitor "a" 1 testMonitored
    ∃ k ≤ 1, ∃ d, w'.dm.devices["a".toList]? = some d ∧
      (m.ret.isOk = true ↔ k = 1) ∧ (∀ i < k, ¬ (testLink.polled "a" w' i).LogEnds "a") ∧
      (k < 1 → (testLink.polled "a" w' k).LogEnds "a") ∧
      let gaps := (w'.turns.take k).map fun t => othersSeenBy "a" t.others
      let history := d.produced (gaps.flatMap (· ++ [Device.poll 1]))
      m.out = unlines (d.printed 1 gaps) ∧ (d.printed 1 gaps).Sublist history ∧
        ((∀ rs ∈ gaps, rs.countP (·.act = .ask) ≤ 512) → m.out = unlines history) := by
  have hfirst : testLink.Carries "log_start" "a" [] := ⟨by decide, by decide, by decide, by simp, by decide⟩
  have hget : testLink.Carries "log_get" "a" [] := ⟨by decide, by decide, by decide, by simp, by decide⟩
  have hothers : ∀ t ∈ testMonitored.turns, ∀ r ∈ t.others, r.1 ≠ testLink.conn := by
    decide +kernel
  have hstart : testLink.client.get "log_start" "a" [] testMonitored =
      (.ok [], (testLink.client.get "log_start" "a" [] testMonitored).2) := by
    refine Prod.ext ?_ rfl
    decide +kernel
  exact monitor_history testLink hfirst hget Server.testServer_reachable rfl hothers (by decide) hstart

end Device2
