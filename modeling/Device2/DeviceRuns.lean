/-
Device2/DeviceRuns.lean

One device over a run of complete requests.  A `DevRequest` is a call of one
method of the device; `Device.after` is the device after a list of them.

This is what a run of the server looks like from one of its devices:
`Server.device_of_run` says that, as long as no reload succeeds, the device named
`k` goes through the methods the requests call on it, a `release` for every
disconnect and `release_all`, and nothing else.
-/
import Device2.Server

namespace Device2

open Std StepSystem DevManager

variable {Drv : Type}

/-- A request as one device sees it. -/
structure DevRequest (Drv : Type) where
  conn : ConnId
  env : DriverEnv Drv
  act : DevAct
  msg : Str

namespace Device

/-- The device and the answer after a request. -/
def call (d : Device Drv) (r : DevRequest Drv) : Outcome (Device Drv) Drv Str :=
  r.act.call r.env r.conn r.msg d

/-- The device after a request. -/
def next (d : Device Drv) (r : DevRequest Drv) : Device Drv := (d.call r).state

/-- The device after a list of requests. -/
def after (d : Device Drv) (rs : List (DevRequest Drv)) : Device Drv := rs.foldl next d

@[simp] theorem after_nil (d : Device Drv) : d.after [] = d := rfl

@[simp] theorem after_cons (d : Device Drv) (r : DevRequest Drv) (rs : List (DevRequest Drv)) :
    d.after (r :: rs) = (d.next r).after rs := rfl

theorem after_append (d : Device Drv) (rs rs' : List (DevRequest Drv)) :
    d.after (rs ++ rs') = (d.after rs).after rs' := List.foldl_append ..

/-- What every request preserves holds after all of them. -/
theorem after_invariant {P : Device Drv → Prop} (hP : ∀ d r, P d → P (d.next r)) {d : Device Drv}
    (h : P d) (rs : List (DevRequest Drv)) : P (d.after rs) := by
  induction rs generalizing d with
  | nil => exact h
  | cons r rs ih => exact ih (hP d r h)

/-- Only `ask` asks. -/
theorem call_asked {r : DevRequest Drv} (hr : r.act ≠ .ask) (d : Device Drv) : (d.call r).asked = [] := by
  obtain ⟨conn, env, a, msg⟩ := r
  have hno : ∀ o : Outcome (Device Drv) Drv Unit, o.asked = [] → (noAnswer o).asked = [] := by
    intro o ho
    rw [noAnswer]
    rcases hret : o.ret with x | u
    · rw [Outcome.bind_of_error hret]; exact ho
    · rw [Outcome.bind_of_ok hret, ho]; rfl
  cases a with
  | ask => exact absurd rfl hr
  | use => exact hno _ use_asked
  | lock =>
    apply hno
    rw [lock_eq]
    rcases hu : (d.use env conn).ret with x | u
    · rw [Outcome.bind_of_error hu]; exact use_asked
    · rw [Outcome.bind_of_ok hu, use_asked]
      dsimp only
      split <;> rfl
  | unlock =>
    apply hno
    rw [unlock]
    split
    · rfl
    · split <;> rfl
  | logGet =>
    show (d.logGet conn : Outcome (Device Drv) Drv Str).asked = []
    rw [logGet]
    split <;> rfl
  | release | logStart | logFinish | info | close => rfl

end Device

/-! ### The server, seen from one device -/

/-- The action of a name, if it calls a method of one device. -/
def DevManager.DevAct.ofName? (name : Str) : Option DevAct :=
  [ask, use, release, lock, unlock, logStart, logFinish, logGet, info, close].find? (·.name = name)

theorem DevManager.DevAct.ofName?_name (a : DevAct) : ofName? a.name = some a := by
  cases a <;> rfl

theorem DevManager.DevAct.ofName?_eq_none {name : Str} (h : ∀ a : DevAct, name ≠ a.name) :
    ofName? name = none :=
  List.find?_eq_none.mpr fun a _ => by simpa using (h a).symm

/-- A `release` needs no driver. -/
def noDriver : DriverEnv Drv :=
  ⟨fun _ _ => .error { str := [] }, fun _ _ => .error { str := [] }⟩

/-- What the device named `k` sees of a request. -/
def requestsTo (k : Str) (conn : ConnId) (env : DriverEnv Drv) (act arg msg : Str) :
    List (DevRequest Drv) :=
  if act = "release_all" ∧ arg = [] then [⟨conn, env, .release, []⟩]
  else if arg = k ∧ arg ≠ [] then ((DevAct.ofName? act).map (⟨conn, env, ·, msg⟩)).toList
  else []

/-- What the device named `k` sees of an event. -/
def Event.seenBy (k : Str) : Event Drv → List (DevRequest Drv)
  | .request conn env url =>
    match parseUrl url with
    | some [act, arg, msg] => requestsTo k conn env.toDriverEnv act arg msg
    | _ => []
  | .connClose conn => [⟨conn, noDriver, .release, []⟩]
  | .connOpen _ => []
  | .readConf _ => []

namespace Server

/-- The event does not install a new device map. -/
def KeepsDevices (s : Server Drv) : Event Drv → Server Drv → Prop
  | .readConf file, _ => ¬ (s.mgr.readConf file).ret.isOk
  | .request conn env url, _ =>
    (∃ arg msg, parseUrl url = some ["reload".toList, arg, msg]) →
      ¬ (s.mgr.run env url conn).ret.isOk
  | _, _ => True

/-- The device named `k` of `m'` is that of `m` after the requests `rs`. -/
def Follows (k : Str) (rs : List (DevRequest Drv)) (m m' : DevManager Drv) : Prop :=
  m'.devices[k]? = (m.devices[k]?).map (·.after rs)

variable {k : Str} {m m' : DevManager Drv} {rs : List (DevRequest Drv)}

theorem Follows.of_eq (h : m'.devices = m.devices) : Follows k [] m m' := by
  rw [Follows]
  rw [h]
  simp

theorem Follows.trans {m'' : DevManager Drv} {rs' : List (DevRequest Drv)} (h : Follows k rs m m')
    (h' : Follows k rs' m' m'') : Follows k (rs ++ rs') m m'' := by
  unfold Follows at h h' ⊢
  rw [h', h, Option.map_map]
  exact congrArg (Option.map · _) (funext fun d => (Device.after_append d rs rs').symm)

theorem Follows.congr {m'' : DevManager Drv} (h : Follows k rs m m')
    (hd : m''.devices = m'.devices) : Follows k rs m m'' := by
  unfold Follows at h ⊢
  rw [hd, h]

/-- `release_all` and a disconnect are a `release` for every device. -/
theorem follows_releaseDevices (k : Str) (m : DevManager Drv) (conn : ConnId)
    (env : DriverEnv Drv) :
    Follows k [⟨conn, env, .release, []⟩] m (m.releaseDevices conn) :=
  releaseDevices_getElem? conn m k

theorem follows_readConf {file : ConfFile} (h : ¬ (m.readConf file).ret.isOk) :
    Follows k [] m (m.readConf file).state := by
  rcases readConf_cases file m with ⟨e, -, hr⟩ | ⟨ret, -, hr⟩
  · rw [hr]; exact .of_eq rfl
  · rw [hr] at h; exact absurd rfl h

/-- A request that calls no method of a device, and is no `release_all`. -/
theorem requestsTo_other {conn : ConnId} {env : DriverEnv Drv} {act arg msg : Str}
    (hname : ∀ a : DevAct, act ≠ a.name) (hall : ¬ (act = "release_all".toList ∧ arg = [])) :
    requestsTo k conn env act arg msg = [] := by
  rw [requestsTo, if_neg hall, DevAct.ofName?_eq_none hname]
  exact ite_self _

theorem follows_run {url : Str} {conn : ConnId} {env : Env Drv}
    (h : (∃ arg msg, parseUrl url = some ["reload".toList, arg, msg]) →
      ¬ (m.run env url conn).ret.isOk) :
    Follows k (Event.seenBy k (.request conn env url)) m (m.run env url conn).state := by
  obtain ⟨act, arg, msg, hurl⟩ := parseUrl_three url
  have hseen : Event.seenBy k (.request conn env url) =
      requestsTo k conn env.toDriverEnv act arg msg := by
    simp only [Event.seenBy, hurl]
  rw [run_eq hurl] at h ⊢
  rw [hseen]
  rcases runAction_cases env url act arg msg conn m with
    ⟨a, rfl, hr⟩ | ⟨rfl, hr, hok⟩ | ⟨rfl, -, hr⟩ | ⟨rfl, -, -, hr⟩ | ⟨rfl, rfl, hr⟩ |
    ⟨hne, -, hall, hr, -⟩
  · -- a call on one device: the device named `k` sees it if it is the one
    have hall : ¬ (a.name = "release_all".toList ∧ arg = []) := by
      rintro ⟨hname, -⟩
      cases a <;> exact absurd hname (by decide)
    rw [hr, Follows, onDevice_getElem?, requestsTo, if_neg hall, DevAct.ofName?_name]
    split
    · rfl
    · simp
  · rw [hr, requestsTo_other (fun a => by cases a <;> decide) (fun hc => absurd hc.1 (by decide))]
    exact follows_readConf fun hc => h ⟨arg, msg, hurl⟩ (hok.mpr hc)
  · rw [hr, requestsTo_other (fun a => by cases a <;> decide) (fun hc => absurd hc.1 (by decide))]
    rw [Outcome.bind_done_state]
    exact .of_eq (setConnName_devices ..)
  · rw [hr, requestsTo_other (fun a => by cases a <;> decide) (fun hc => absurd hc.1 (by decide))]
    exact .of_eq rfl
  · rw [hr, Outcome.bind_done_state]
    exact (follows_releaseDevices k m conn env.toDriverEnv).congr (setConnName_devices ..)
  · rw [hr, requestsTo_other hne hall]
    exact .of_eq rfl

/-- A reload that succeeds installs the map of the file. -/
theorem devices_of_reload {env : Env Drv} {url arg msg : Str} {conn : ConnId}
    (hurl : parseUrl url = some ["reload".toList, arg, msg]) (hok : (m.run env url conn).ret.isOk) :
    parseConf m.devfile env.conf = .ok (m.run env url conn).state.devices := by
  rw [run_eq hurl] at hok ⊢
  rcases runAction_cases env url "reload" arg msg conn m with
    ⟨a, ha, -⟩ | ⟨-, hstate, hret⟩ | ⟨hname, -⟩ | ⟨hname, -⟩ | ⟨hname, -⟩ | ⟨-, hname, -⟩
  · cases a <;> exact absurd ha (by decide)
  · rw [hstate]
    rcases readConf_cases env.conf m with ⟨e, -, hr⟩ | ⟨ret, hp, hr⟩
    · rw [hret, hr] at hok
      cases hok
    · rw [hr]
      exact hp
  · exact absurd hname (by decide)
  · exact absurd hname (by decide)
  · exact absurd hname (by decide)
  · exact absurd rfl hname

theorem follows_step {s t : Server Drv} {e : Event Drv} (he : s.step e = some t)
    (hkeep : KeepsDevices s e t) : Follows k (e.seenBy k) s.mgr t.mgr := by
  cases e with
  | connOpen conn =>
    simp only [step] at he
    split at he
    · cases he
    · cases he; exact .of_eq (by simp [DevManager.connOpen])
  | request conn env url =>
    simp only [step] at he
    split at he
    · cases he; exact follows_run hkeep
    · cases he
  | connClose conn =>
    simp only [step] at he
    split at he
    · cases he; exact (follows_releaseDevices k s.mgr conn noDriver).congr rfl
    · cases he
  | readConf file => cases he; exact follows_readConf hkeep

/-- **A run of the server is a run of each device**, as long as no reload
succeeds: the device named `k` goes through the requests it sees, in their order. -/
theorem device_of_run {s t : Server Drv} {es : List (Event Drv)} (k : Str)
    (hrun : run step s es = some t) (hkeep : Along step KeepsDevices s es) :
    t.mgr.devices[k]? = (s.mgr.devices[k]?).map (·.after (es.flatMap (Event.seenBy k))) := by
  induction es generalizing s with
  | nil => cases hrun; simp
  | cons e es ih =>
    obtain ⟨u, he, hrest⟩ := run_cons_eq_some.mp hrun
    obtain ⟨hfirst, hkeep'⟩ := hkeep u he
    exact (follows_step he hfirst).trans (ih hrest hkeep')

end Server

end Device2
