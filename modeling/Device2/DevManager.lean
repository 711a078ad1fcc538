/-
Device2/DevManager.lean

Class `DevManager` (`server/dev_manager.h`, `server/dev_manager.cpp`): the
devices of the configuration file, the connection names, and `run`, which turns
a URL into a call of one of them.

The device file is what `read_words` delivers from it, line by line
(`ConfFile`); the clock, the file and the drivers' answers during one request
are an `Env`.

The spec lemmas come in the order of the methods.  `runAction_cases` says once what a
request can be: a call of one device method, a read-only request, a reload, a
renaming or a `release_all`; everything about whole runs is derived from it.
-/
import Device2.Device

namespace Device2

open Std

/-! ### URLs -/

/-- The loop of `parse_url`, for the `k` components still to be cut off: the
component number, the start of the rest and the components so far. -/
def parseUrlLoop (url : Str) : (k i p1 : Nat) → List Str → Option (Nat × Nat × List Str)
  | 0, i, p1, ret => some (i, p1, ret)
  | k + 1, i, p1, ret =>
    match find url '/' p1 with
    | none => some (i, p1, ret)
    | some p2 =>
      match substr url p1 (p2 - p1) with
      | none => none
      | some piece => parseUrlLoop url k (i + 1) (p2 + 1) (ret.set i piece)

/-- `DevManager::parse_url`: action, argument and message of a URL.  `none`
stands for a read past the end. -/
def parseUrl (url : Str) : Option (List Str) :=
  match parseUrlLoop url 2 0 (if url.head? = some '/' then 1 else 0) [[], [], []] with
  | none => none
  | some (i, p1, ret) => (substrFrom url p1).map (ret.set i ·)

theorem parseUrlLoop_spec (url : Str) (k i p1 : Nat) (ret : List Str) (hp : p1 ≤ url.length) :
    ∃ i' p1' ret', parseUrlLoop url k i p1 ret = some (i', p1', ret') ∧
      p1' ≤ url.length ∧ ret'.length = ret.length := by
  induction k generalizing i p1 ret with
  | zero => exact ⟨i, p1, ret, rfl, hp, rfl⟩
  | succ k ih =>
    rw [parseUrlLoop]
    rcases hf : find url '/' p1 with - | p2
    · exact ⟨i, p1, ret, rfl, hp, rfl⟩
    · have hlt : p2 < url.length := (find_lt hf).2
      simp only [substr, if_pos hp]
      obtain ⟨i', p1', ret', h, hp', hlen⟩ := ih (i + 1) (p2 + 1)
        (ret.set i ((url.drop p1).take (p2 - p1))) hlt
      exact ⟨i', p1', ret', h, hp', by rw [hlen, List.length_set]⟩

/-- `parse_url` never reads past the end and gives three components. -/
theorem parseUrl_three (url : Str) : ∃ act arg msg, parseUrl url = some [act, arg, msg] := by
  -- a leading slash is skipped
  have hp : (if url.head? = some '/' then 1 else 0) ≤ url.length := by
    cases url <;> simp; split <;> omega
  obtain ⟨i, p1, ret, h, hp1, hlen⟩ := parseUrlLoop_spec url 2 0 _ [[], [], []] hp
  have hlen' : (ret.set i (url.drop p1)).length = 3 := by rw [List.length_set, hlen]; rfl
  obtain ⟨act, arg, msg, he⟩ := List.length_eq_three.mp hlen'
  exact ⟨act, arg, msg, by rw [parseUrl, h]; simp [substrFrom, hp1, he]⟩

/-! ### The device file -/

/-- One call of `read_words` on the device file: the line number it leaves in
`line_num[0]`, and the words or the error. -/
structure ReadWords where
  line : Nat
  words : Except Err (List Str)

/-- A device file: what `read_words` delivers up to the end of the file, where
it returns no words; `none` when the file can not be opened. -/
abbrev ConfFile := Option (List ReadWords)

/-- Characters a device name can not contain. -/
def badNameChars : List Char := [' ', '\n', '\t', '/', '\\']

/-- The `[-<parameter> <value>]` pairs of one line. -/
def readConfOpts : List Str → Opt → Except Err Opt
  | name :: value :: rest, opt =>
    if name.length < 2 ∨ name.head? ≠ some '-' then
      .error { str := "parameter name should be prefixed with \"-\" ".toList
        ++ "and contain at least one character: ".toList ++ name }
    else readConfOpts rest (opt.insert name.tail value)
  | _, opt => .ok opt

variable {Drv : Type}

/-- One pass of the loop of `read_conf`, for a non-empty list of words. -/
def readConfLine (vs : List Str) (ret : ExtTreeMap Str (Device Drv)) :
    Except Err (ExtTreeMap Str (Device Drv)) :=
  match vs with
  | dev :: drv :: args =>
    if dev = [] then .error { str := "empty device name" }
    else if ((cStr dev).takeWhile (· ∉ badNameChars)).length ≠ dev.length then
      .error { str := "symbols ' ', '\\n', '\\t', '/', and '\\' ".toList
        ++ "are not allowed in device name: ".toList ++ dev }
    else if args.length % 2 ≠ 0 then
      .error { str := "even-size list of [-<parameter> <value>] pairs expected" }
    else
      match readConfOpts args ∅ with
      | .error e => .error e
      | .ok opt =>
        if dev ∈ ret then .error { str := "duplicated device name: ".toList ++ dev }
        else .ok (ret.insert dev { devName := dev, drvName := drv, drvArgs := opt })
  | _ => .error { str := "expected: <device name> <driver name> [-<parameter> <value>]" }

/-- The loop of `read_conf`; an error comes with its line number. -/
def readConfLoop : List ReadWords → ExtTreeMap Str (Device Drv) →
    Except (Nat × Err) (ExtTreeMap Str (Device Drv))
  | [], ret => .ok ret
  | r :: rs, ret =>
    match r.words with
    | .error e => .error (r.line, e)
    -- the end of the file
    | .ok [] => .ok ret
    | .ok vs =>
      match readConfLine vs ret with
      | .error e => .error (r.line, e)
      | .ok ret' => readConfLoop rs ret'

/-- The device map of a file, or the text of the error. -/
def parseConf (devfile : Str) (file : ConfFile) : Except Err (ExtTreeMap Str (Device Drv)) :=
  match file with
  | none => .error { str := "can't open configuration: ".toList ++ devfile }
  | some rs => (readConfLoop rs ∅).mapError fun e =>
      { str := "bad configuration file ".toList ++ devfile ++ " at line ".toList
          ++ typeToStr e.1 ++ ": ".toList ++ e.2.str }

/-! ### The manager -/

/-- What the outside world answers during one request. -/
structure Env (Drv : Type) extends DriverEnv Drv where
  conf : ConfFile
  tvSec : Nat
  tvUsec : Nat

/-- Class `DevManager`. -/
structure DevManager (Drv : Type) where
  /-- All devices (from configuration file). -/
  devices : ExtTreeMap Str (Device Drv) := ∅
  /-- Device list file. -/
  devfile : Str
  /-- Connection names. -/
  connNames : ExtTreeMap ConnId Str := ∅

namespace DevManager

/-- `DevManager::read_conf`: the configuration is applied only if no errors have
been found. -/
def readConf (file : ConfFile) (m : DevManager Drv) : Outcome (DevManager Drv) Drv Unit :=
  match parseConf m.devfile file with
  | .error e => ⟨.error (.err e), m, []⟩
  | .ok ret => .done () { m with devices := ret }

/-- The constructor: an error in the file is written to the log only. -/
def create (devfile : Str) (file : ConfFile) : DevManager Drv :=
  (readConf file { devfile }).state

/-- `~DevManager`: close all devices. -/
def destroy (m : DevManager Drv) : DevManager Drv :=
  { m with devices := m.devices.map fun _ d => d.close }

/-- `DevManager::set_conn_name`. -/
def setConnName (conn : ConnId) (name : Str) (m : DevManager Drv) :
    Outcome (DevManager Drv) Drv Unit :=
  if name.head? = some '#' then .throw "name can not start with #" m
  else
    -- an empty name stands for the default one
    let name := if name = [] then '#' :: typeToStr conn else name
    if m.connNames.toList.any fun c => c.1 ≠ conn ∧ c.2 = name then
      .throw "name belongs to another connection" m
    else .done () { m with connNames := m.connNames.insert conn name }

/-- `DevManager::conn_open`. -/
def connOpen (conn : ConnId) (m : DevManager Drv) : Outcome (DevManager Drv) Drv Unit :=
  m.setConnName conn []

/-- `for (auto & d:devices) d.second.release(conn)`. -/
def releaseDevices (conn : ConnId) (m : DevManager Drv) : DevManager Drv :=
  { m with devices := m.devices.map fun _ d => d.release conn }

/-- `DevManager::conn_close`. -/
def connClose (conn : ConnId) (m : DevManager Drv) : DevManager Drv :=
  { m.releaseDevices conn with connNames := m.connNames.erase conn }

/-- The common part of the actions on one device: find the device named `arg`
and call its method. -/
def onDevice (url arg : Str) (m : DevManager Drv)
    (method : Device Drv → Outcome (Device Drv) Drv Str) : Outcome (DevManager Drv) Drv Str :=
  if arg = [] then .throw ("device name expected: ".toList ++ url) m
  else
    match m.devices[arg]? with
    | none => .throw ("unknown device: ".toList ++ arg) m
    | some d =>
      let o := method d
      ⟨o.ret, { m with devices := m.devices.insert arg o.state }, o.asked⟩

/-- A method without an answer: the action answers with the empty string. -/
def noAnswer {α : Type} (o : Outcome (Device Drv) Drv α) : Outcome (Device Drv) Drv Str :=
  o.bind fun _ d => .done [] d

/-- `get_time`: unix seconds with microsecond precision. -/
def getTime (env : Env Drv) : Str :=
  typeToStr env.tvSec ++ ['.'] ++ (typeToStr env.tvUsec).leftpad 6 '0'

/-- `DevManager::run` for the components of the URL. -/
def runAction (env : Env Drv) (url act arg msg : Str) (conn : ConnId) (m : DevManager Drv) :
    Outcome (DevManager Drv) Drv Str :=
  if act = "ask" then
    m.onDevice url arg (·.ask env.toDriverEnv conn msg)
  else if act = "use" then
    m.onDevice url arg fun d => noAnswer (d.use env.toDriverEnv conn)
  else if act = "release" then
    m.onDevice url arg fun d => .done [] (d.release conn)
  else if act = "lock" then
    m.onDevice url arg fun d => noAnswer (d.lock env.toDriverEnv conn)
  else if act = "unlock" then
    m.onDevice url arg fun d => noAnswer (d.unlock conn)
  else if act = "log_start" then
    m.onDevice url arg fun d => .done [] (d.logStart conn)
  else if act = "log_finish" then
    m.onDevice url arg fun d => .done [] (d.logFinish conn)
  else if act = "log_get" then
    m.onDevice url arg (·.logGet conn)
  else if act = "info" then
    m.onDevice url arg fun d => .done (d.print conn) d
  else if act = "devices" ∨ act = "list" then
    if arg ≠ [] then .throw ("unexpected argument: ".toList ++ url) m
    else .done (unlines m.devices.keys) m
  else if act = "reload" then
    (m.readConf env.conf).bind fun _ m =>
      .done ("Device configuration reloaded: ".toList ++ typeToStr m.devices.size
        ++ " devices".toList) m
  else if act = "close" then
    m.onDevice url arg fun d => .done [] d.close
  else if act = "ping" then .done [] m
  else if act = "get_time" then
    if arg ≠ [] then .throw ("unexpected argument: ".toList ++ url) m
    else .done (getTime env) m
  else if act = "set_conn_name" then
    if msg ≠ [] then .throw ("unexpected argument: ".toList ++ msg) m
    else (m.setConnName conn arg).bind fun _ m => .done [] m
  else if act = "get_conn_name" then
    if arg ≠ [] then .throw ("unexpected argument: ".toList ++ arg) m
    else
      -- `conn_names[conn]` creates the entry if it is missing
      match m.connNames[conn]? with
      | some name => .done name m
      | none => .done [] { m with connNames := m.connNames.insert conn [] }
  else if act = "list_conn_names" then
    if arg ≠ [] then .throw ("unexpected argument: ".toList ++ arg) m
    else .done (unlines m.connNames.values) m
  else if act = "release_all" then
    if arg ≠ [] then .throw ("unexpected argument: ".toList ++ arg) m
    else ((m.releaseDevices conn).setConnName conn []).bind fun _ m => .done [] m
  else .throw ("unknown action: ".toList ++ act) m

/-- `DevManager::run`: process a request from the HTTP server. -/
def run (env : Env Drv) (url : Str) (conn : ConnId) (m : DevManager Drv) :
    Outcome (DevManager Drv) Drv Str :=
  match parseUrl url with
  | some [act, arg, msg] => m.runAction env url act arg msg conn
  | _ => ⟨.error .outOfRange, m, []⟩

/-! ### What a request can do -/

/-- The actions that call one method of the device named in the URL. -/
inductive DevAct
  | ask | use | release | lock | unlock | logStart | logFinish | logGet | info | close
  deriving DecidableEq

/-- The action's name in a URL. -/
def DevAct.name : DevAct → Str
  | ask => "ask"
  | use => "use"
  | release => "release"
  | lock => "lock"
  | unlock => "unlock"
  | logStart => "log_start"
  | logFinish => "log_finish"
  | logGet => "log_get"
  | info => "info"
  | close => "close"

/-- The method the action calls. -/
def DevAct.call (env : DriverEnv Drv) (conn : ConnId) (msg : Str) :
    DevAct → Device Drv → Outcome (Device Drv) Drv Str
  | ask => fun d => d.ask env conn msg
  | use => fun d => noAnswer (d.use env conn)
  | release => fun d => .done [] (d.release conn)
  | lock => fun d => noAnswer (d.lock env conn)
  | unlock => fun d => noAnswer (d.unlock conn)
  | logStart => fun d => .done [] (d.logStart conn)
  | logFinish => fun d => .done [] (d.logFinish conn)
  | logGet => fun d => d.logGet conn
  | info => fun d => .done (d.print conn) d
  | close => fun d => .done [] d.close

variable {env : Env Drv} {url act arg msg : Str} {conn : ConnId} {m : DevManager Drv}

/-- The actions of one device are the branches of `run` that call `onDevice`. -/
theorem runAction_devAct (env : Env Drv) (url arg msg : Str) (conn : ConnId) (m : DevManager Drv)
    (a : DevAct) :
    m.runAction env url a.name arg msg conn =
      m.onDevice url arg (a.call env.toDriverEnv conn msg) := by
  cases a <;> rfl

theorem run_eq (hurl : parseUrl url = some [act, arg, msg]) (env : Env Drv) (conn : ConnId)
    (m : DevManager Drv) : m.run env url conn = m.runAction env url act arg msg conn := by
  simp only [run, hurl]

/-- A URL of a device action. -/
theorem run_devAct {a : DevAct} (hurl : parseUrl url = some [a.name, arg, msg]) (env : Env Drv)
    (conn : ConnId) (m : DevManager Drv) :
    m.run env url conn = m.onDevice url arg (a.call env.toDriverEnv conn msg) := by
  rw [run_eq hurl, runAction_devAct]

/-- **What a request can be.**  A call of one device method; a reload; a renaming
of the caller; a request for the caller's name; a `release_all`; or a request
that leaves the manager as it is. -/
theorem runAction_cases (env : Env Drv) (url act arg msg : Str) (conn : ConnId)
    (m : DevManager Drv) :
    (∃ a : DevAct, act = a.name ∧ m.runAction env url act arg msg conn =
      m.onDevice url arg (a.call env.toDriverEnv conn msg)) ∨
    (act = "reload".toList ∧ (m.runAction env url act arg msg conn).state =
      (m.readConf env.conf).state ∧ ((m.runAction env url act arg msg conn).ret.isOk ↔
        (m.readConf env.conf).ret.isOk)) ∨
    (act = "set_conn_name".toList ∧ msg = [] ∧ m.runAction env url act arg msg conn =
      (m.setConnName conn arg).bind fun _ m => .done [] m) ∨
    (act = "get_conn_name".toList ∧ arg = [] ∧ conn ∉ m.connNames ∧
      m.runAction env url act arg msg conn =
        .done [] { m with connNames := m.connNames.insert conn [] }) ∨
    (act = "release_all".toList ∧ arg = [] ∧ m.runAction env url act arg msg conn =
      ((m.releaseDevices conn).setConnName conn []).bind fun _ m => .done [] m) ∨
    ((∀ a : DevAct, act ≠ a.name) ∧ act ≠ "reload".toList ∧
      ¬ (act = "release_all".toList ∧ arg = []) ∧
      (m.runAction env url act arg msg conn).state = m ∧
      (m.runAction env url act arg msg conn).asked = []) := by
  by_cases hdev : ∃ a : DevAct, act = a.name
  · obtain ⟨a, rfl⟩ := hdev
    exact .inl ⟨a, rfl, runAction_devAct ..⟩
  have hne : ∀ a : DevAct, act ≠ a.name := fun a h => hdev ⟨a, h⟩
  right
  rw [runAction]
  -- the ten branches of the device actions are out
  rw [if_neg (show ¬ act = "ask".toList from hne .ask),
    if_neg (show ¬ act = "use".toList from hne .use),
    if_neg (show ¬ act = "release".toList from hne .release),
    if_neg (show ¬ act = "lock".toList from hne .lock),
    if_neg (show ¬ act = "unlock".toList from hne .unlock),
    if_neg (show ¬ act = "log_start".toList from hne .logStart),
    if_neg (show ¬ act = "log_finish".toList from hne .logFinish),
    if_neg (show ¬ act = "log_get".toList from hne .logGet),
    if_neg (show ¬ act = "info".toList from hne .info),
    if_neg (show ¬ act = "close".toList from hne .close)]
  by_cases hrel : act = "reload".toList
  · subst hrel
    left
    refine ⟨rfl, ?_⟩
    rw [if_neg (by decide), if_pos rfl]
    rcases hr : (m.readConf env.conf).ret with x | u
    · rw [Outcome.bind_of_error hr]; simp [Except.isOk, Except.toBool]
    · rw [Outcome.bind_of_ok hr]; simp [Outcome.done, Except.isOk, Except.toBool]
  right
  by_cases hset : act = "set_conn_name".toList ∧ msg = []
  · obtain ⟨rfl, rfl⟩ := hset
    exact .inl ⟨rfl, rfl, rfl⟩
  right
  by_cases hget : act = "get_conn_name".toList ∧ arg = [] ∧ conn ∉ m.connNames
  · obtain ⟨rfl, rfl, hmem⟩ := hget
    have hnone : m.connNames[conn]? = none := ExtTreeMap.getElem?_eq_none hmem
    refine .inl ⟨rfl, rfl, hmem, ?_⟩
    simp [hnone]
  right
  by_cases hall : act = "release_all".toList ∧ arg = []
  · obtain ⟨rfl, rfl⟩ := hall
    exact .inl ⟨rfl, rfl, rfl⟩
  right
  refine ⟨hne, hrel, hall, ?_⟩
  rw [if_neg hrel]
  -- every branch left answers or throws without touching the manager
  by_cases hset' : act = "set_conn_name".toList
  · subst hset'
    have hmsg : msg ≠ [] := fun h => hset ⟨rfl, h⟩
    rw [if_neg (by decide), if_neg (by decide), if_neg (by decide), if_pos rfl, if_pos hmsg]
    exact ⟨rfl, rfl⟩
  by_cases hget' : act = "get_conn_name".toList
  · subst hget'
    rw [if_neg (by decide), if_neg (by decide), if_neg (by decide), if_neg (by decide),
      if_pos rfl]
    by_cases harg : arg = []
    · rw [if_neg (not_not.mpr harg)]
      rcases hn : m.connNames[conn]? with - | name
      · exact absurd ⟨rfl, harg, by simpa using hn⟩ hget
      · exact ⟨rfl, rfl⟩
    · rw [if_pos harg]
      exact ⟨rfl, rfl⟩
  by_cases hall' : act = "release_all".toList
  · subst hall'
    have harg : arg ≠ [] := fun h => hall ⟨rfl, h⟩
    rw [if_neg (by decide), if_neg (by decide), if_neg (by decide), if_neg (by decide),
      if_neg (by decide), if_neg (by decide), if_pos rfl, if_pos harg]
    exact ⟨rfl, rfl⟩
  rw [if_neg hset', if_neg hget', if_neg hall']
  split_ifs <;> exact ⟨rfl, rfl⟩

/-! ### The devices after a request -/

@[simp] theorem noAnswer_state {α : Type} (o : Outcome (Device Drv) Drv α) :
    (noAnswer o).state = o.state := Outcome.bind_done_state o fun _ => []

theorem noAnswer_error {α : Type} {o : Outcome (Device Drv) Drv α} {x : Exn} :
    (noAnswer o).ret = .error x ↔ o.ret = .error x := by
  rcases hr : o.ret with y | a
  · rw [noAnswer, Outcome.bind_of_error hr]; simp
  · rw [noAnswer, Outcome.bind_of_ok hr]; simp [Outcome.done]

/-- Only the device named in the URL is touched. -/
theorem onDevice_getElem? (url arg : Str) (m : DevManager Drv)
    (f : Device Drv → Outcome (Device Drv) Drv Str) (k : Str) :
    (m.onDevice url arg f).state.devices[k]? =
      if arg = k ∧ arg ≠ [] then (m.devices[k]?).map fun d => (f d).state else m.devices[k]? := by
  rw [onDevice]
  by_cases harg : arg = []
  · simp [harg, Outcome.throw]
  · rw [if_neg harg]
    rcases hd : m.devices[arg]? with - | d
    · by_cases hk : arg = k
      · subst hk; simp [Outcome.throw, hd]
      · simp [Outcome.throw, hk]
    · by_cases hk : arg = k
      · subst hk; simp [hd, harg]
      · simp [hk, getElem?_insert_if]

theorem onDevice_of_getElem? {d : Device Drv} (url : Str) (harg : arg ≠ [])
    (hd : m.devices[arg]? = some d) (f : Device Drv → Outcome (Device Drv) Drv Str) :
    m.onDevice url arg f =
      ⟨(f d).ret, { m with devices := m.devices.insert arg (f d).state }, (f d).asked⟩ := by
  simp [onDevice, harg, hd]

@[simp] theorem onDevice_connNames (url arg : Str) (m : DevManager Drv)
    (f : Device Drv → Outcome (Device Drv) Drv Str) :
    (m.onDevice url arg f).state.connNames = m.connNames := by
  rw [onDevice]
  split
  · rfl
  · split <;> rfl

/-- A method that leaves its device as it was leaves the manager as it was. -/
theorem onDevice_state_eq {d : Device Drv} (url : Str) (hd : m.devices[arg]? = some d)
    {f : Device Drv → Outcome (Device Drv) Drv Str} (hf : (f d).state = d) :
    (m.onDevice url arg f).state = m := by
  rw [onDevice]
  split
  · rfl
  · simp [hd, hf, insert_getElem?_self hd]

theorem releaseDevices_getElem? (conn : ConnId) (m : DevManager Drv) (k : Str) :
    (m.releaseDevices conn).devices[k]? = (m.devices[k]?).map (·.release conn) := by
  simp [releaseDevices]

/-- Every device satisfies `P`. -/
def AllDevices (P : Device Drv → Prop) (m : DevManager Drv) : Prop :=
  ∀ (k : Str) d, m.devices[k]? = some d → P d

section AllDevices
variable {P : Device Drv → Prop}

theorem AllDevices.onDevice (h : m.AllDevices P) {f : Device Drv → Outcome (Device Drv) Drv Str}
    (hf : ∀ d, P d → P (f d).state) : (m.onDevice url arg f).state.AllDevices P := by
  intro k d hd
  rw [onDevice_getElem?] at hd
  split at hd
  · obtain ⟨d', hd', rfl⟩ := Option.map_eq_some_iff.mp hd
    exact hf d' (h k d' hd')
  · exact h k d hd

theorem AllDevices.releaseDevices (h : m.AllDevices P) (hP : ∀ d, P d → P (d.release conn)) :
    (m.releaseDevices conn).AllDevices P := by
  intro k d hd
  rw [releaseDevices_getElem?] at hd
  obtain ⟨d', hd', rfl⟩ := Option.map_eq_some_iff.mp hd
  exact hP d' (h k d' hd')

end AllDevices

/-! ### Reading the device file -/

/-- A device as the configuration file makes it, under the name `k`. -/
def Fresh (k : Str) (d : Device Drv) : Prop :=
  ∃ drvName drvArgs, d = { devName := k, drvName, drvArgs }

/-- What an accepted line looks like, and the device it adds. -/
theorem readConfLine_ok {vs : List Str} {ret ret' : ExtTreeMap Str (Device Drv)}
    (h : readConfLine vs ret = .ok ret') :
    ∃ dev drv args opt, vs = dev :: drv :: args ∧ dev ≠ [] ∧
      ((cStr dev).takeWhile (· ∉ badNameChars)).length = dev.length ∧ args.length % 2 = 0 ∧
      readConfOpts args ∅ = .ok opt ∧ dev ∉ ret ∧
      ret' = ret.insert dev { devName := dev, drvName := drv, drvArgs := opt } := by
  unfold readConfLine at h
  split at h
  · rename_i dev drv args
    by_cases h₁ : dev = []
    · rw [if_pos h₁] at h; cases h
    rw [if_neg h₁] at h
    by_cases h₂ : ((cStr dev).takeWhile (· ∉ badNameChars)).length = dev.length
    · rw [if_neg (not_not.mpr h₂)] at h
      by_cases h₃ : args.length % 2 = 0
      · rw [if_neg (not_not.mpr h₃)] at h
        rcases ho : readConfOpts args ∅ with e | opt
        · rw [ho] at h; cases h
        · rw [ho] at h
          dsimp only at h
          by_cases h₄ : dev ∈ ret
          · rw [if_pos h₄] at h; cases h
          · rw [if_neg h₄] at h
            cases h
            exact ⟨dev, drv, args, opt, rfl, h₁, h₂, h₃, ho, h₄, rfl⟩
      · rw [if_pos h₃] at h; cases h
    · rw [if_pos h₂] at h; cases h
  · cases h

theorem readConfLine_fresh {vs : List Str} {ret ret' : ExtTreeMap Str (Device Drv)}
    (h : ∀ k d, ret[k]? = some d → Fresh k d) (hr : readConfLine vs ret = .ok ret') :
    ∀ k d, ret'[k]? = some d → Fresh k d := by
  obtain ⟨dev, drv, args, opt, -, -, -, -, -, -, rfl⟩ := readConfLine_ok hr
  intro k d hd
  rw [getElem?_insert_if] at hd
  split at hd
  · subst k
    cases hd
    exact ⟨drv, opt, rfl⟩
  · exact h k d hd

theorem readConfLoop_fresh {rs : List ReadWords} {ret ret' : ExtTreeMap Str (Device Drv)}
    (h : ∀ k d, ret[k]? = some d → Fresh k d) (hr : readConfLoop rs ret = .ok ret') :
    ∀ k d, ret'[k]? = some d → Fresh k d := by
  induction rs generalizing ret with
  | nil => cases hr; exact h
  | cons r rs ih =>
    rw [readConfLoop] at hr
    rcases hw : r.words with e | vs
    · simp [hw] at hr
    · cases vs with
      | nil => simp only [hw] at hr; cases hr; exact h
      | cons v vs =>
        simp only [hw] at hr
        rcases hl : readConfLine (v :: vs) ret with e | ret₁
        · simp [hl] at hr
        · rw [hl] at hr
          exact ih (readConfLine_fresh h hl) hr

/-- Every device of a file is closed, unused, unlocked and not logged. -/
theorem parseConf_fresh {devfile : Str} {file : ConfFile} {ret : ExtTreeMap Str (Device Drv)}
    (hr : parseConf devfile file = .ok ret) : ∀ k d, ret[k]? = some d → Fresh k d := by
  rcases file with - | rs
  · cases hr
  · rcases hl : (readConfLoop rs ∅ : Except _ (ExtTreeMap Str (Device Drv))) with e | ret'
    · simp [parseConf, hl, Except.mapError] at hr
    · simp only [parseConf, hl, Except.mapError] at hr
      cases hr
      exact readConfLoop_fresh (by simp) hl

/-- `read_conf` either fails and changes nothing, or installs the map of the file. -/
theorem readConf_cases (file : ConfFile) (m : DevManager Drv) :
    (∃ e, parseConf m.devfile file = (.error e : Except Err (ExtTreeMap Str (Device Drv))) ∧
      m.readConf file = ⟨.error (.err e), m, []⟩) ∨
    (∃ ret, parseConf m.devfile file = .ok ret ∧
      m.readConf file = .done () { m with devices := ret }) := by
  rcases hp : (parseConf m.devfile file : Except Err (ExtTreeMap Str (Device Drv))) with e | ret
  · exact .inl ⟨e, hp, by simp [readConf, hp]⟩
  · exact .inr ⟨ret, hp, by simp [readConf, hp]⟩

theorem AllDevices.readConf {P : Device Drv → Prop} (h : m.AllDevices P)
    (hP : ∀ k d, Fresh k d → P d) (file : ConfFile) : (m.readConf file).state.AllDevices P := by
  rcases readConf_cases file m with ⟨e, -, hr⟩ | ⟨ret, hp, hr⟩
  · rw [hr]; exact h
  · rw [hr]
    intro k d hd
    exact hP k d (parseConf_fresh hp k d hd)

/-! ### Connection names -/

/-- `set_conn_name` either throws and changes nothing, or stores a non-empty name
nobody else has, which starts with `#` only if it is the default name. -/
theorem setConnName_cases (conn : ConnId) (name : Str) (m : DevManager Drv) :
    (∃ x, m.setConnName conn name = ⟨.error x, m, []⟩) ∨
    (∃ n, n ≠ [] ∧ (n.head? = some '#' → n = '#' :: typeToStr conn) ∧
      (∀ (c : ConnId) n', m.connNames[c]? = some n' → c ≠ conn → n' ≠ n) ∧
      m.setConnName conn name = .done () { m with connNames := m.connNames.insert conn n }) := by
  rw [setConnName]
  by_cases hhead : name.head? = some '#'
  · exact .inl ⟨_, if_pos hhead⟩
  rw [if_neg hhead]
  dsimp only
  generalize hn : (if name = [] then '#' :: typeToStr conn else name) = n
  by_cases hany : (m.connNames.toList.any fun c => c.1 ≠ conn ∧ c.2 = n) = true
  · exact .inl ⟨_, if_pos hany⟩
  · refine .inr ⟨n, ?_, ?_, ?_, if_neg hany⟩
    · rw [← hn]
      split
      · simp
      · assumption
    · rw [← hn]; split
      · simp
      · exact fun h => absurd h hhead
    · intro c n' hc hne heq
      refine hany (List.any_eq_true.mpr ⟨(c, n'), ?_, by simp [hne, heq]⟩)
      exact ExtTreeMap.mem_toList_iff_getElem?_eq_some.mpr hc

@[simp] theorem setConnName_devices (conn : ConnId) (name : Str) (m : DevManager Drv) :
    (m.setConnName conn name).state.devices = m.devices := by
  rcases setConnName_cases conn name m with ⟨x, h⟩ | ⟨n, -, -, -, h⟩
  · rw [h]
  · rw [h]; rfl

/-- The default name is free unless another connection already has it. -/
theorem setConnName_default (conn : ConnId) (m : DevManager Drv)
    (h : ∀ (c : ConnId) n, m.connNames[c]? = some n → c ≠ conn → n ≠ '#' :: typeToStr conn) :
    m.setConnName conn [] =
      .done () { m with connNames := m.connNames.insert conn ('#' :: typeToStr conn) } := by
  have hany : ¬ (m.connNames.toList.any fun c => c.1 ≠ conn ∧ c.2 = '#' :: typeToStr conn) = true := by
    intro ha
    obtain ⟨⟨c, n⟩, hc, hp⟩ := List.any_eq_true.mp ha
    have hp' : c ≠ conn ∧ n = '#' :: typeToStr conn := of_decide_eq_true hp
    exact h c n (ExtTreeMap.mem_toList_iff_getElem?_eq_some.mp hc) hp'.1 hp'.2
  rw [setConnName]
  rw [if_neg (by simp)]
  simp only [if_true]
  exact if_neg hany

end DevManager

end Device2
