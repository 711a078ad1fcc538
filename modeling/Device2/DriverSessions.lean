/-
Device2/DriverSessions.lean

The drivers of a device, over a run of the server.

A device opens its driver when somebody first uses it and keeps it when the users have
gone; `close` and a reload give it back.  `driverEvents` writes down what `Driver::create`,
`ask` and the destructor see of it, step by step.  The trace of any run is the life of a
slot for one driver (`driver_lives`): there is never a second driver for a device, and
what is asked is asked of the driver that is open.

Which requests a device sees does not depend on its users or locks; so this holds
whoever sends what, and in whatever order.
-/
import Device2.DeviceRuns
import Device2.Lib.Simulation
import Device2.Lib.SlotTrace
import Device2.Logging

namespace Device2

open Std StepSystem SlotTrace DevManager

variable {Drv : Type}

/-! ### One device -/

namespace Device

variable {env : DriverEnv Drv} {conn : ConnId} {d : Device Drv}

/-- The driver `use` creates, if it has to and can. -/
def creates (env : DriverEnv Drv) (conn : ConnId) (d : Device Drv) : Option Drv :=
  if conn ∈ d.users ∨ d.locked = true ∨ d.drv.isSome = true then none
  else (env.create d.drvName d.drvArgs).toOption

/-- What a driver sees of a request. -/
def driverEvents (d : Device Drv) (r : DevRequest Drv) : List (SlotEvent Drv Str) :=
  match r.act with
  | .use | .lock => (d.creates r.env r.conn).toList.map .opened
  | .ask => (d.creates r.env r.conn).toList.map .opened ++
      (d.call r).asked.map fun a => .used a.1 a.2
  | .close => d.drv.toList.map .closed
  | _ => []

/-- What the drivers see of some requests. -/
def driverTrace : Device Drv → List (DevRequest Drv) → List (SlotEvent Drv Str)
  | _, [] => []
  | d, r :: rs => d.driverEvents r ++ (d.next r).driverTrace rs

/-- `use` opens a driver where there is none. -/
theorem use_lives (env : DriverEnv Drv) (conn : ConnId) (d : Device Drv) :
    Lives d.drv ((d.creates env conn).toList.map (.opened (β := Str))) (d.use env conn).state.drv := by
  rw [creates, use]
  by_cases hmem : conn ∈ d.users
  · rw [if_pos (.inl hmem), if_pos hmem]
    exact .nil _
  rw [if_neg hmem]
  by_cases hlock : d.locked = true
  · rw [if_pos (.inr (.inl hlock)), if_pos hlock]
    exact .nil _
  rw [if_neg hlock]
  rcases hdrv : d.drv with - | x
  · rw [if_neg (by simp [hmem, hlock])]
    rcases hc : env.create d.drvName d.drvArgs with e | x
    · show Lives none [] d.drv
      rw [hdrv]
      exact .nil _
    · exact .opened (.nil _)
  · rw [if_pos (.inr (.inr rfl))]
    exact .nil _

/-- An opened device asks its own driver. -/
theorem askOpened_lives (env : DriverEnv Drv) (msg : Str) (d : Device Drv) :
    Lives d.drv ((d.askOpened env msg).asked.map fun a => .used a.1 a.2)
      (d.askOpened env msg).state.drv := by
  rw [(askOpened_ret env msg d).2, (askOpened_frame env msg d).1]
  rcases hdrv : d.drv with - | x
  · rw [drvAsk, hdrv]
    exact .nil _
  · rw [drvAsk_of_some hdrv]
    exact .used msg (.nil _)

/-- **A request and the driver.** -/
theorem next_lives (d : Device Drv) (r : DevRequest Drv) :
    Lives d.drv (d.driverEvents r) (d.next r).drv := by
  obtain ⟨conn, env, act, msg⟩ := r
  cases act with
  | use =>
    show Lives _ _ (noAnswer (d.use env conn)).state.drv
    rw [noAnswer_state]
    exact use_lives env conn d
  | lock =>
    show Lives _ _ (noAnswer (d.lock env conn)).state.drv
    rw [noAnswer_state, lock_eq]
    have huse := use_lives env conn d
    rcases hu : (d.use env conn).ret with x | u
    · rw [Outcome.bind_of_error hu]
      exact huse
    · -- the count of the users does not touch the driver
      rw [Outcome.bind_of_ok hu]
      dsimp only
      split <;> exact huse
  | ask =>
    show Lives _ (_ ++ (d.ask env conn msg).asked.map _) (d.ask env conn msg).state.drv
    rw [ask_eq]
    have huse := use_lives env conn d
    rcases hu : (d.use env conn).ret with x | u
    · rw [Outcome.bind_of_error hu, use_asked]
      exact huse.append (.nil _)
    · rw [Outcome.bind_of_ok hu, use_asked]
      exact huse.append (askOpened_lives env msg _)
  | unlock =>
    show Lives d.drv [] (noAnswer (d.unlock conn)).state.drv
    rw [noAnswer_state, unlock]
    split
    · exact .nil _
    · split <;> exact .nil _
  | release =>
    show Lives d.drv [] (d.release conn).drv
    rw [release]
    split <;> exact .nil _
  | logGet =>
    show Lives d.drv [] (d.logGet conn : Outcome (Device Drv) Drv Str).state.drv
    rw [logGet]
    split <;> exact .nil _
  | logStart | logFinish | info => exact .nil _
  | close => exact .close _

theorem after_lives (d : Device Drv) (rs : List (DevRequest Drv)) :
    Lives d.drv (d.driverTrace rs) (d.after rs).drv := by
  induction rs generalizing d with
  | nil => exact .nil _
  | cons r rs ih => exact (d.next_lives r).append (ih _)

end Device

/-! ### The server -/

namespace Server

variable {k : Str} {s t : Server Drv} {e : Event Drv}

/-- The event puts new devices in place of the old ones. -/
def Renews (s : Server Drv) : Event Drv → Prop
  | .readConf file => (s.mgr.readConf file).ret.isOk = true
  | .request conn env url =>
    (parseUrl url).map (·.head?) = some (some "reload".toList) ∧ (s.mgr.run env url conn).ret.isOk = true
  | _ => False

instance (s : Server Drv) (e : Event Drv) : Decidable (s.Renews e) := by
  cases e <;> unfold Renews <;> infer_instance

/-- The open driver of the device named `k`. -/
def driver (k : Str) (s : Server Drv) : Option Drv := (s.mgr.devices[k]?).bind (·.drv)

/-- What the drivers of the device named `k` see of an event. -/
def driverEvents (k : Str) (s : Server Drv) (e : Event Drv) : List (SlotEvent Drv Str) :=
  if s.Renews e then (s.driver k).toList.map .closed
  else match s.mgr.devices[k]? with
    | none => []
    | some d => d.driverTrace (e.seenBy k)

theorem keepsDevices_of_not_renews (h : ¬ s.Renews e) : KeepsDevices s e t := by
  cases e with
  | connOpen | connClose => trivial
  | readConf file => exact h
  | request conn env url =>
    rintro ⟨arg, msg, hurl⟩ hok
    exact h ⟨by rw [hurl]; rfl, hok⟩

theorem devices_of_renews (he : s.step e = some t) (h : s.Renews e) :
    ∃ file, parseConf s.mgr.devfile file = .ok t.mgr.devices := by
  cases e with
  | connOpen | connClose => exact h.elim
  | readConf file =>
    cases he
    refine ⟨file, ?_⟩
    rcases readConf_cases file s.mgr with ⟨e, -, hr⟩ | ⟨ret, hp, hr⟩
    · have hok : (s.mgr.readConf file).ret.isOk = true := h
      rw [hr] at hok
      cases hok
    · rw [hr]
      exact hp
  | request conn env url =>
    obtain ⟨hname, hok⟩ := h
    obtain ⟨act, arg, msg, hurl⟩ := parseUrl_three url
    rw [hurl] at hname
    obtain rfl : act = "reload".toList := Option.some.inj (Option.some.inj hname)
    simp only [step] at he
    split at he
    · cases he
      exact ⟨env.conf, devices_of_reload hurl hok⟩
    · cases he

/-- **A step and the driver.** -/
theorem step_lives (k : Str) (he : s.step e = some t) :
    Lives (s.driver k) (s.driverEvents k e) (t.driver k) := by
  rw [driverEvents]
  by_cases h : s.Renews e
  · have hnone : t.driver k = none := by
      rw [driver]
      rcases hd : t.mgr.devices[k]? with - | d
      · rfl
      · obtain ⟨file, hfile⟩ := devices_of_renews he h
        obtain ⟨drvName, drvArgs, rfl⟩ := parseConf_fresh hfile k d hd
        rfl
    rw [if_pos h, hnone]
    exact .close _
  · have hfollows : t.mgr.devices[k]? = (s.mgr.devices[k]?).map (·.after (e.seenBy k)) :=
      follows_step he (keepsDevices_of_not_renews h)
    rw [if_neg h, driver, driver, hfollows]
    rcases s.mgr.devices[k]? with - | d
    · exact .nil _
    · exact d.after_lives _

theorem run_lives (k : Str) {es : List (Event Drv)} (hrun : run step s es = some t) :
    Lives (s.driver k) (trace step (driverEvents k) s es) (t.driver k) := by
  induction es generalizing s with
  | nil => cases hrun; exact .nil _
  | cons e es ih =>
    obtain ⟨u, he, hrest⟩ := run_cons_eq_some.mp hrun
    rw [trace, he]
    exact (step_lives k he).append (ih hrest)

/-- Whatever a driver is asked is in the trace of a device. -/
theorem asked_in_trace {conn : ConnId} {env : Env Drv} {url : Str} {a : Drv × Str}
    (ha : a ∈ (s.mgr.run env url conn).asked) :
    ∃ k, SlotEvent.used a.1 a.2 ∈ s.driverEvents k (.request conn env url) := by
  obtain ⟨act, arg, msg, hurl⟩ := parseUrl_three url
  rw [run_eq hurl] at ha
  have hname : ∀ (name : Str) (m : DevManager Drv), (m.setConnName conn name).asked = [] := by
    intro name m
    rcases setConnName_cases conn name m with ⟨x, h⟩ | ⟨n, -, -, -, h⟩
    · rw [h]
    · rw [h]
      rfl
  have hbind : ∀ {α : Type} (o : Outcome (DevManager Drv) Drv α) (f : DevManager Drv → Str),
      (o.bind fun _ m => .done (f m) m).asked = o.asked := by
    intro α o f
    rcases hr : o.ret with x | u
    · rw [Outcome.bind_of_error hr]
    · rw [Outcome.bind_of_ok hr]
      exact List.append_nil _
  rcases runAction_cases env url act arg msg conn s.mgr with
    ⟨b, rfl, hr⟩ | ⟨rfl, -⟩ | ⟨-, -, hr⟩ | ⟨-, -, -, hr⟩ | ⟨-, -, hr⟩ | ⟨-, -, -, -, hr⟩
  · rw [hr, onDevice] at ha
    by_cases harg : arg = []
    · rw [if_pos harg] at ha
      cases ha
    rw [if_neg harg] at ha
    rcases hd : s.mgr.devices[arg]? with - | d
    · rw [hd] at ha
      cases ha
    · rw [hd] at ha
      by_cases hb : b = .ask
      · subst hb
        refine ⟨arg, ?_⟩
        have hkeep : ¬ s.Renews (.request conn env url) := by
          rintro ⟨hact, -⟩
          rw [hurl] at hact
          exact absurd (Option.some.inj (Option.some.inj hact)) (by decide)
        have hseen : Event.seenBy arg (.request conn env url) =
            [⟨conn, env.toDriverEnv, .ask, msg⟩] := by
          simp only [Event.seenBy, hurl, requestsTo]
          rw [if_neg (by simp [harg]), if_pos ⟨trivial, harg⟩, DevAct.ofName?_name]
          rfl
        rw [driverEvents, if_neg hkeep, hd, hseen]
        exact List.mem_append_left _ (List.mem_append_right _ (List.mem_map.mpr ⟨a, ha, rfl⟩))
      · have hnone : (b.call env.toDriverEnv conn msg d).asked = [] :=
          Device.call_asked (r := ⟨conn, env.toDriverEnv, b, msg⟩) hb d
        dsimp only at ha
        rw [hnone] at ha
        cases ha
  · have hasked : (s.mgr.runAction env url "reload" arg msg conn).asked = [] := by
      show ((s.mgr.readConf env.conf).bind fun _ m => .done _ m).asked = []
      rw [hbind (s.mgr.readConf env.conf)]
      rcases readConf_cases env.conf s.mgr with ⟨e, -, h⟩ | ⟨ret, -, h⟩
      · rw [h]
      · rw [h]
        rfl
    rw [hasked] at ha
    cases ha
  · rw [hr, hbind _ fun _ => [], hname] at ha
    cases ha
  · rw [hr] at ha
    cases ha
  · rw [hr, hbind _ fun _ => [], hname] at ha
    cases ha
  · rw [hr] at ha
    cases ha

/-! ### Runs -/

theorem driver_init (h : Init s) (k : Str) : s.driver k = none := by
  obtain ⟨devfile, file, rfl⟩ := h
  rcases readConf_cases file ({ devfile } : DevManager Drv) with ⟨e, -, hr⟩ | ⟨ret, hp, hr⟩
  · show ((DevManager.devices (DevManager.readConf file { devfile }).state)[k]?).bind _ = none
    rw [hr]
    simp
  · show ((DevManager.devices (DevManager.readConf file { devfile }).state)[k]?).bind _ = none
    rw [hr]
    show (ret[k]?).bind _ = none
    rcases hd : ret[k]? with - | d
    · rfl
    · obtain ⟨drvName, drvArgs, rfl⟩ := parseConf_fresh hp k d hd
      rfl

/-- **One driver at a time.**  In any run of the server, for each device: drivers are
opened and closed in turn, so that all that were opened have been closed, up to the one
that is open now; and a message is given to a driver only after this driver was opened
and before it is closed.  The traces of the devices hold everything any driver is
asked. -/
theorem driver_lives {es : List (Event Drv)} (hs : Init s) (hrun : run step s es = some t) (k : Str) :
    let drivers := trace step (driverEvents k) s es
    Lives none drivers (t.driver k) ∧
    drivers.countP SlotEvent.isOpened = drivers.countP SlotEvent.isClosed + (t.driver k).toList.length ∧
    (∀ pre x msg post, drivers = pre ++ .used x msg :: post →
      ∃ before since, pre = before ++ .opened x :: since ∧ ∀ e ∈ since, e.isClosed = false) ∧
    ∀ (conn : ConnId) (env : Env Drv) (url : Str), ∀ a ∈ (t.mgr.run env url conn).asked,
      ∃ k, SlotEvent.used a.1 a.2 ∈ t.driverEvents k (.request conn env url) := by
  have hlives := run_lives k hrun
  rw [driver_init hs k] at hlives
  refine ⟨hlives, ?_, fun pre x msg post he => ?_, fun conn env url a ha => asked_in_trace ha⟩
  · have := hlives.count
    rwa [Option.toList_none, List.length_nil, Nat.zero_add] at this
  · rw [he] at hlives
    exact hlives.used_open

/-- Two connections use the device `a`, and then it is closed. -/
def testRun : List (Event Unit) :=
  [.connOpen 1, .connOpen 2, .request 1 testEnv "use/a", .request 2 testEnv "ask/a/x",
    .connClose 1, .request 2 testEnv "close/a"]

theorem driver_lives_testRun :
    let s : Server Unit := ⟨DevManager.create "n2.txt" n2Conf, ∅⟩
    ∃ t, run step s testRun = some t ∧ t.driver "a" = none ∧
      let drivers := trace step (driverEvents "a") s testRun
      drivers.countP SlotEvent.isOpened = drivers.countP SlotEvent.isClosed := by
  intro s
  have hrun : run step s testRun = some (testRun.foldl (fun t e => (step t e).getD t) s) := rfl
  have h := (driver_lives ⟨"n2.txt", n2Conf, rfl⟩ hrun "a").2.1
  exact ⟨_, hrun, by decide +kernel, h.trans (by decide +kernel)⟩

end Server

end Device2
