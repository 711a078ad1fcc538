/-
Device2/DeviceC.lean

`main` of the client program (`server/device_c.cpp`): the settings (`Device2.Settings`),
the choice of the action, what is printed and the exit code.

The sessions and the monitor are those of `Device2.Client` and `Device2.Monitor`; the
input of a session and the number of rounds of a monitor come from outside, and so does
the tunnel.  Two actions are followed to the devices of the server, as far as it answers
in time.  A single `ask` gives the message to a driver at most once, and if it exits
with 0 it leaves the device unused by its connection (`ask_once`); after an error it
does not release it.  And since no session can choose its name, of the sessions that ask
for one there is only one at a time (`session_name`).
-/
import Device2.Monitor
import Device2.Settings

namespace Device2

open Std Lines DevManager

variable {σ : Type} {Drv : Type}

namespace DeviceC

/-! ### The program -/

/-- `check_par_count`. -/
def checkParCount (pars : List Str) (num : Nat) : Except Err Unit :=
  if num < 1 then throwText "bad usage of check_par_count()"
  else if pars.length > num then
    throwText ("unexpected parameter for \"".toList ++ pars.getD 0 [] ++ "\" action: ".toList ++
      pars.getD num [])
  else if pars.length < num then
    throwText ("not enough parameters for \"".toList ++ pars.getD 0 [] ++ "\" action".toList)
  else .ok ()

/-- An action with a fixed number of parameters. -/
def withPars (pars : List Str) (num : Nat) (body : σ → Session σ) (s : σ) : Session σ :=
  match checkParCount pars num with
  | .error e => ⟨[], .error e, s⟩
  | .ok _ => body s

/-- A request, and the answer as it is printed. -/
def printAnswer (D : Downloader σ) (act dev : Str) (text : Str → Except Err Str) (s : σ) : Session σ :=
  match D.get act dev [] s with
  | (.error e, s) => ⟨[], .error e, s⟩
  | (.ok answer, s) =>
    match text answer with
    | .error e => ⟨[], .error e, s⟩
    | .ok out => ⟨out, .ok (), s⟩

/-- The action `ask`. -/
def ask (D : Downloader σ) (dev : Str) (args : List Str) (s : σ) : Session σ :=
  match D.get "ask" dev (joinWords args) s with
  | (.error e, s) => ⟨[], .error e, s⟩
  | (.ok answer, s) =>
    match D.get "release" dev [] s with
    | (.error e, s) => ⟨answer ++ "\n".toList, .error e, s⟩
    | (.ok _, s) => ⟨answer ++ "\n".toList, .ok (), s⟩

/-- The actions of `main`. -/
def action (D : Downloader σ) (c : ClientSettings) (input : List (Except Err (List Str))) (rounds : Nat)
    (pars : List Str) (s : σ) : Session σ :=
  let act := pars.getD 0 []
  let dev := pars.getD 1 []
  if pars = [] then ⟨[], .error usage, s⟩
  else if act = "ask" then
    if pars.length < 3 then
      ⟨[], throwText "not enough parameters for \"ask\" action", s⟩
    else ask D dev (pars.drop 2) s
  else if act = "use_dev" then withPars pars 2 ((D.useDev dev c.lock c.name).run D input) s
  else if act = "use_srv" then withPars pars 1 (D.useSrv.run D input) s
  else if act = "list" ∨ act = "devices" then withPars pars 1 (printAnswer D act [] .ok) s
  else if act = "monitor" then withPars pars 2 (D.monitor dev rounds) s
  else if act = "reload" then withPars pars 1 (printAnswer D act [] fun a => .ok (a ++ "\n".toList)) s
  else if act = "close" then withPars pars 2 (printAnswer D act dev fun _ => .ok []) s
  else if act = "info" then withPars pars 2 (printAnswer D act dev .ok) s
  else if act = "ping" then
    withPars pars 1 (printAnswer D act [] fun a =>
      if a ≠ [] then throwText ("wrong response from the server: ".toList ++ a) else .ok []) s
  else if act = "get_time" then
    withPars pars 1 (printAnswer D act [] fun a => .ok (a ++ "\n".toList)) s
  else if act = "get_srv" then
    withPars pars 1 (fun s => ⟨c.srv ++ "\n".toList, .ok (), s⟩) s
  else ⟨[], throwText ("unknown action: ".toList ++ act), s⟩

/-- What the process leaves behind. -/
structure Exit (σ : Type) where
  out : Str
  err : Str
  code : Nat
  state : σ

/-- The catch clause of `main`. -/
def exit (r : Session σ) : Exit σ :=
  match r.ret with
  | .ok _ => ⟨r.out, [], 0, r.state⟩
  | .error e => ⟨r.out, if e.str ≠ [] then "Error: ".toList ++ e.str ++ "\n".toList else [], 1, r.state⟩

/-- What is around the process. -/
structure World (σ : Type) where
  R : Readers
  pid : Nat
  cfgfile : ConfFile
  /-- `create_tunnel`. -/
  createTunnel : Opt → Except Err Str
  cm : Curl σ
  input : List (Except Err (List Str))
  rounds : Nat

/-- The server, at the other end of a tunnel if one is needed. -/
def World.server (W : World σ) (opts : Opt) (c : ClientSettings) : Except Err Str :=
  if c.via then W.createTunnel opts else .ok c.srv

/-- The settings and the parameters. -/
def prepare (W : World σ) (args : List Str) : Except Err (ClientSettings × List Str) := do
  let (opts, pars) ← deviceCOpts args W.cfgfile
  let c ← clientSettings W.R W.pid opts
  let srv ← W.server opts c
  return ({ c with srv }, pars)

/-- `main`. -/
def main (W : World σ) (args : List Str) (s : σ) : Exit σ :=
  match prepare W args with
  | .error e => exit ⟨[], .error e, s⟩
  | .ok (c, pars) => exit (action ⟨W.cm, c.srv⟩ c W.input W.rounds pars s)

/-! ### One message -/

/-- `release` asks no driver, and after it the connection does not use the device. -/
theorem release_leaves (t : Turn Drv) (conn : ConnId) (dev : Str) (dm : DevManager Drv) :
    let o := t.request conn "release" dev [] dm
    o.asked = [] ∧ ∀ a, clientResult o.ret = .ok a →
      ∃ d, o.state.devices[dev]? = some d ∧ conn ∉ d.users ∧ conn ∉ d.logBufs := by
  rw [show "release".toList = DevAct.release.name from rfl, t.request_devAct]
  by_cases hne : dev = []
  · rw [onDevice, if_pos hne]
    exact ⟨rfl, fun a h => (by cases h)⟩
  · rcases hd : (t.before dm).devices[dev]? with - | d
    · rw [onDevice, if_neg hne, hd]
      exact ⟨rfl, fun a h => (by cases h)⟩
    · rw [onDevice_of_getElem? _ hne hd]
      refine ⟨rfl, fun a _ => ⟨d.release conn, ExtTreeMap.getElem?_insert_self, ?_, ?_⟩⟩
      · rw [Device.release]
        split
        · exact Finset.notMem_erase conn _
        · assumption
      · rw [Device.release_logBufs]
        exact fun hmem => (mem_erase_iff.mp hmem).1 rfl

/-- The rest of `ask` is a `release`, or nothing. -/
theorem ask_eq (D : Downloader σ) (dev : Str) (args : List Str) (s : σ) :
    ask D dev args s =
      match D.get "ask" dev (joinWords args) s with
      | (.error e, s) => ⟨[], .error e, s⟩
      | (.ok answer, s) =>
        ⟨answer ++ "\n".toList, (D.get "release" dev [] s).1.map fun _ => (), (D.get "release" dev [] s).2⟩ := by
  rw [ask]
  rcases D.get "ask" dev (joinWords args) s with ⟨e | answer, s'⟩
  · rfl
  · dsimp only
    rcases D.get "release" dev [] s' with ⟨e | a, s''⟩ <;> rfl

/-- The process, when the settings are right. -/
theorem main_eq {W : World σ} {args pars : List Str} {c : ClientSettings}
    (h : prepare W args = .ok (c, pars)) (s : σ) :
    main W args s = exit (action ⟨W.cm, c.srv⟩ c W.input W.rounds pars s) := by
  rw [main, h]

variable {M : UrlDecoder}

/-- The program with the server behind it. -/
structure Reaches (W : World (Remote Drv)) (L : Link M Drv) (c : ClientSettings) : Prop where
  cm : W.cm = L.client.cm
  srv : c.srv = L.client.server

/-- A process at the machine of the server. -/
def testWorld : World (Remote Unit) where
  R := decimalReaders
  pid := 7
  cfgfile := none
  createTunnel := fun _ => throwText "can't make -via tunnel"
  cm := testLink.client.cm
  input := []
  rounds := 0

/-- The settings of a process without options. -/
def testSettings (name : Str) : ClientSettings := ⟨"http://localhost:8082", name, false, false⟩

/-- The name is `1`, or it has the process number. -/
theorem prepare_name {W : World σ} {args pars : List Str} {c : ClientSettings}
    (h : prepare W args = .ok (c, pars)) :
    c.name = ['1'] ∨ c.name = "device_c(".toList ++ typeToStr W.pid ++ ")".toList := by
  obtain ⟨⟨opts, pars'⟩, hopts, hrest⟩ := exists_of_bind h
  obtain ⟨c', hc, hrest⟩ := exists_of_bind hrest
  obtain ⟨srv, -, hrest⟩ := exists_of_bind hrest
  cases hrest
  show c'.name = _ ∨ c'.name = _
  rw [deviceC_name W.R W.pid hopts hc]
  split
  · exact .inl rfl
  · exact .inr rfl

/-- A name somebody else has is refused. -/
theorem setConnName_taken {m : DevManager Drv} {conn c : ConnId} {name : Str} (hne : name ≠ [])
    (hhead : name.head? ≠ some '#') (hc : c ≠ conn) (h : m.connNames[c]? = some name) :
    m.setConnName conn name = .throw "name belongs to another connection" m := by
  have hany : (m.connNames.toList.any fun c => c.1 ≠ conn ∧ c.2 = name) = true :=
    List.any_eq_true.mpr ⟨(c, name), ExtTreeMap.mem_toList_iff_getElem?_eq_some.mpr h, by simp [hc]⟩
  rw [setConnName, if_neg hhead]
  dsimp only
  rw [if_neg hne, if_pos hany]

/-- The request for a name somebody else has. -/
theorem request_setConnName_taken {t : Turn Drv} {dm : DevManager Drv} {conn c : ConnId} {name : Str}
    (hne : name ≠ []) (hhead : name.head? ≠ some '#') (hc : c ≠ conn)
    (h : (t.before dm).connNames[c]? = some name) :
    t.request conn "set_conn_name" name [] dm =
      .throw "name belongs to another connection" (t.before dm) := by
  show ((t.before dm).setConnName conn name).bind _ = _
  rw [setConnName_taken hne hhead hc h]
  rfl

/-- A session whose name is refused is not opened. -/
theorem opening_of_name {D : Downloader σ} {dev answer name : Str} {e : Err} {s s₁ s₂ : σ} (lock : Bool)
    (huse : D.get "use" dev [] s = (.ok answer, s₁)) (hname : name ≠ [])
    (hset : D.get "set_conn_name" name [] s₁ = (.error e, s₂)) :
    (D.useDev dev lock name).opening s = (.error e, s₂) := by
  unfold Downloader.useDev
  dsimp only
  split
  · rename_i h
    cases huse.symm.trans h
  · rename_i h
    cases huse.symm.trans h
    rw [if_pos hname]
    split
    · rename_i h'
      cases hset.symm.trans h'
      rfl
    · rename_i h'
      cases hset.symm.trans h'

/-- **The name of a session cannot be chosen.**  Whatever the command line and the file
say, a session asks for the name `1` or for the name with its process number.  So a
session that asks for `1` while another connection has this name is refused: it says so
and is over, with exit code 0 and nothing changed at the server but what the others and
its `use` have done. -/
theorem session_name {W : World (Remote Drv)} {args pars : List Str} {c : ClientSettings}
    (hprepare : prepare W args = .ok (c, pars)) :
    (c.name = ['1'] ∨ c.name = "device_c(".toList ++ typeToStr W.pid ++ ")".toList) ∧
    ∀ (L : Link M Drv) (dev answer : Str) (w w' : Remote Drv) (t : Turn Drv) (ts : List (Turn Drv))
      (other : ConnId), c.name = ['1'] → pars = ["use_dev".toList, dev] → Reaches W L c →
      L.client.get "use" dev [] w = (.ok answer, w') → w'.turns = t :: ts →
      (t.before w'.dm).connNames[other]? = some ['1'] → other ≠ L.conn →
      let r := main W args w
      r.out = (L.client.useDev dev c.lock c.name).header ++
        "#Error: name belongs to another connection\n".toList ∧
      r.code = 0 ∧ r.state = ⟨t.before w'.dm, ts, w'.asked⟩ := by
  refine ⟨prepare_name hprepare, fun L dev answer w w' t ts other hname hpars hreaches huse hts hother hne => ?_⟩
  have hset : L.client.get "set_conn_name" c.name [] w' =
      (.error { str := "name belongs to another connection" }, ⟨t.before w'.dm, ts, w'.asked⟩) := by
    have hcarries : L.Carries "set_conn_name" ['1'] [] :=
      ⟨by decide, by decide, by decide, fun _ => rfl, Nat.le_trans (by decide) L.maxUrl_ge⟩
    have hrequest := request_setConnName_taken (by simp) (by simp) hne hother
    rw [hname, L.get_of_throwsErr hcarries hts (by rw [hrequest]; exact .throw _ _), hrequest]
    simp [Outcome.throw, throwErr, clientResult]
  have haction : action ⟨W.cm, c.srv⟩ c W.input W.rounds pars w =
      (L.client.useDev dev c.lock c.name).run L.client W.input w := by
    rw [hpars, hreaches.cm, hreaches.srv]
    rfl
  have hline : errorLine { str := "name belongs to another connection" } =
      "#Error: name belongs to another connection\n".toList := by decide
  rw [main_eq hprepare, haction, FrontEnd.run, opening_of_name c.lock huse (by simp [hname]) hset]
  dsimp only
  rw [hline]
  exact ⟨rfl, rfl, rfl⟩

/-- The connection 2 has the name `1`. -/
def namedRemote : Remote Unit :=
  { testRemote with dm := { testRemote.dm with connNames := testRemote.dm.connNames.insert 2 ['1'] } }

theorem session_name_test :
    (testSettings ['1']).name = ['1'] ∧
    let r := main testWorld ["-n".toList, "use_dev".toList, "a".toList] namedRemote
    r.out = (testLink.client.useDev "a" false ['1']).header ++
      "#Error: name belongs to another connection\n".toList ∧ r.code = 0 := by
  have hprepare : prepare testWorld ["-n".toList, "use_dev".toList, "a".toList] =
      .ok (testSettings ['1'], ["use_dev".toList, "a".toList]) := by
    decide +kernel
  obtain ⟨-, hrefused⟩ := session_name (M := percentDecoder) hprepare
  refine ⟨rfl, ?_⟩
  rcases huse : testLink.client.get "use" "a" [] namedRemote with ⟨e | answer, w'⟩
  · have hok : (testLink.client.get "use" "a" [] namedRemote).1.isOk = true := by decide +kernel
    rw [huse] at hok
    cases hok
  · have hts : w'.turns = [⟨[], Server.testEnv⟩] := by
      have := congrArg (fun r => r.2.turns) huse
      exact this.symm
    have hother : (w'.dm.connNames)[2]? = some ['1'] := by
      have := congrArg (fun r => (r.2.dm.connNames)[2]?) huse
      exact this.symm.trans (by decide +kernel)
    obtain ⟨hout, hcode, -⟩ := hrefused testLink "a" answer namedRemote w' ⟨[], Server.testEnv⟩ [] 2 rfl rfl
      ⟨rfl, by decide⟩ huse hts hother (by decide)
    exact ⟨hout, hcode⟩

end DeviceC

end Device2
