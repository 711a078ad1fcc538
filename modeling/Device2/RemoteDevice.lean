/-
Device2/RemoteDevice.lean

A device of another server, through all the layers in between.

A request of a client goes to the server as a URL (`Device2.UrlCodec`), there to
`ProcessRequest` and to the device (`Device2.HttpServer`), and the response comes back
to `Downloader::get` (`Link.get_eq`).  While it is on its way other connections may
send requests of their own, any number of them (`Turn`).

What libcurl does is a parameter (`Link.perform`), and only one thing is asked of it: a
request the server answers in time, over the connection that is there, brings back this
answer.  `Remote.turns` are the requests of which this is so.  Nothing is said about a
request the server answers too late (it drops a connection after 10 s) or not at all,
which libcurl may send again over a new connection; and nothing about URLs that libcurl
changes on the way (`Component`) or that are too long for the server.

`device_c use_dev` offers such a device to a program that talks SPP, for example to
`Driver_spp` of another server.  Each message goes through `read_words`, `join_words`
and a request, and its answer comes back over the pipe.  For a session of any length
`remote_device` says that the driver at the near end gets what the far driver answers:
each message is given to the far driver once and in order, or it fails without having
reached any.
-/
import Device2.UrlCodec
import Device2.HttpServer
import Device2.Logging
import Device2.ReadWords
import Device2.SppHandshake

namespace Device2

open Std Lines DevManager RecordStream

variable {Drv : Type}

/-! ### The far server -/

/-- What happens at the server around one request of ours: the requests of other
connections that come first, and what the world answers during ours. -/
structure Turn (Drv : Type) where
  others : List (ConnId × Env Drv × Str)
  env : Env Drv

/-- The manager when our request comes. -/
def Turn.before (t : Turn Drv) (dm : DevManager Drv) : DevManager Drv :=
  t.others.foldl (fun dm r => (dm.run r.2.1 r.2.2 r.1).state) dm

/-- The server as one client sees it: the manager, the turns of the requests it will
answer in time, and the messages our requests have given to drivers. -/
structure Remote (Drv : Type) where
  dm : DevManager Drv
  turns : List (Turn Drv)
  asked : List (Drv × Str) := []

/-- The answer to a GET for the path `url` over the connection `conn`, as long as the
server answers in time: the code and the data, and the server afterwards. -/
def Remote.answered (conn : ConnId) (url : Str) (w : Remote Drv) :
    Option ((Nat × Str) × Remote Drv) :=
  match w.turns with
  | [] => none
  | t :: ts =>
    let o := (t.before w.dm).run t.env url conn
    match respond o.ret with
    | .ok r => some ((r.code, r.body), ⟨o.state, ts, w.asked ++ o.asked⟩)
    | .error _ => none

/-- A component that stands for itself in a URL: libcurl takes `.` and `..` out. -/
def Component (s : Str) : Prop := nul ∉ s ∧ s ≠ ".".toList ∧ s ≠ "..".toList

instance (s : Str) : Decidable (Component s) := by unfold Component; infer_instance

/-- A client of the server on `host`, with one connection to it. -/
structure Link (M : UrlDecoder) (Drv : Type) where
  escaping : Escaping M
  host : Str
  /-- The number of the connection at the server. -/
  conn : ConnId
  /-- The longest path that the server takes, however it is escaped. -/
  maxUrl : Nat
  maxUrl_ge : 64 ≤ maxUrl
  /-- `curl_easy_perform`. -/
  perform : Str → Remote Drv → Except Str (Nat × Str) × Remote Drv
  /-- A request that is answered in time brings back the answer. -/
  performs : ∀ (cs : List Str) (w w' : Remote Drv) (r : Nat × Str), (∀ s ∈ cs, Component s) →
    (cs.flatMap ('/' :: ·)).length ≤ maxUrl →
    w.answered conn (M.decode (escaping.path cs)) = some (r, w') →
    perform ("http://".toList ++ host ++ escaping.path cs) w = (.ok r, w')

variable {M : UrlDecoder}

/-- The client program. -/
def Link.client (L : Link M Drv) : Downloader (Remote Drv) where
  cm := { escape := L.escaping.escape, perform := L.perform }
  server := "http://".toList ++ L.host

/-! ### One request -/

/-- The components of a request: an empty one has no place in the URL. -/
def components (act dev msg : Str) : List Str :=
  act :: ((if dev ≠ [] then [dev] else []) ++ if msg ≠ [] then [msg] else [])

/-- The path of a request as the server gets it. -/
def requestUrl (act dev msg : Str) : Str := (components act dev msg).flatMap ('/' :: ·)

/-- What `Downloader::get` makes of a response; `run` throws nothing but `Err`. -/
def clientResult : Except Exn Str → Except Err Str
  | .ok answer => .ok answer
  | .error (.err e) => .error { str := e.str }
  | .error _ => .error { str := [] }

/-- A request at its turn, without the way there and back. -/
def Turn.request (t : Turn Drv) (conn : ConnId) (act dev msg : Str) (dm : DevManager Drv) :
    Outcome (DevManager Drv) Drv Str :=
  (t.before dm).runAction t.env (requestUrl act dev msg) act dev msg conn

theorem Turn.request_devAct (t : Turn Drv) (conn : ConnId) (a : DevAct) (dev msg : Str)
    (dm : DevManager Drv) :
    t.request conn a.name dev msg dm =
      (t.before dm).onDevice (requestUrl a.name dev msg) dev (a.call t.env.toDriverEnv conn msg) := by
  rw [request, runAction_devAct]

/-- A request that can be sent over the link. -/
structure Link.Carries (L : Link M Drv) (act dev msg : Str) : Prop where
  component : ∀ s ∈ [act, dev, msg], Component s
  act_ok : '/' ∉ act
  dev_ok : '/' ∉ dev
  msg_nil : dev = [] → msg = []
  short : (requestUrl act dev msg).length ≤ L.maxUrl

/-- The well-formed devices of a manager stay so until the request. -/
theorem Turn.before_wellFormed (t : Turn Drv) {dm : DevManager Drv}
    (h : dm.AllDevices Device.WellFormed) : (t.before dm).AllDevices Device.WellFormed := by
  obtain ⟨others, env⟩ := t
  induction others generalizing dm with
  | nil => exact h
  | cons r rs ih =>
    exact ih (h.run (fun a msg _ hd => a.call_wellFormed _ r.1 msg hd) Server.fresh_wellFormed)

section Request
variable {act dev msg : Str} {t : Turn Drv} {ts : List (Turn Drv)} {w : Remote Drv}

theorem parseUrl_requestUrl (hact : '/' ∉ act) (hdev : '/' ∉ dev) (hmsg : dev = [] → msg = []) :
    parseUrl (requestUrl act dev msg) = some [act, dev, msg] := by
  by_cases hd : dev = []
  · obtain rfl := hmsg hd
    subst hd
    have hpath : requestPath ('/' :: act) = act := rfl
    simpa [requestUrl, components] using parseUrl_one hpath hact
  · by_cases hm : msg = []
    · subst hm
      simpa [requestUrl, components, hd] using parseUrl_two (rfl : requestPath ('/' :: _) = _) hact hdev
    · simpa [requestUrl, components, hd, hm] using
        parseUrl_components (rfl : requestPath ('/' :: _) = _) hact hdev

/-- The request at the server. -/
theorem Turn.run_requestUrl (t : Turn Drv) (conn : ConnId) (hact : '/' ∉ act) (hdev : '/' ∉ dev)
    (hmsg : dev = [] → msg = []) (dm : DevManager Drv) :
    (t.before dm).run t.env (requestUrl act dev msg) conn = t.request conn act dev msg dm :=
  run_eq (parseUrl_requestUrl hact hdev hmsg) t.env conn (t.before dm)

theorem Link.Carries.components_ok {L : Link M Drv} (h : L.Carries act dev msg) :
    ∀ s ∈ components act dev msg, Component s := by
  have hsub : components act dev msg ⊆ [act, dev, msg] := by
    unfold components
    split_ifs <;> simp
  exact fun s hs => h.component s (hsub hs)

/-- **A request and its response.**  At its turn `Downloader::get` returns or throws what
the manager answers to the action. -/
theorem Link.get_of_throwsErr (L : Link M Drv) (h : L.Carries act dev msg) (hts : w.turns = t :: ts)
    (herr : (t.request L.conn act dev msg w.dm).ThrowsErr) :
    L.client.get act dev msg w =
      (let o := t.request L.conn act dev msg w.dm
       (clientResult o.ret, ⟨o.state, ts, w.asked ++ o.asked⟩)) := by
  have hdecode : M.decode (L.escaping.path (components act dev msg)) = requestUrl act dev msg :=
    L.escaping.decode_path fun s hs => (h.components_ok s hs).1
  have hperform : ∀ (r : Nat × Str) (w' : Remote Drv),
      w.answered L.conn (requestUrl act dev msg) = some (r, w') →
      L.client.cm.perform (L.client.getUrl act dev msg) w = (.ok r, w') := by
    intro r w' hr
    rw [L.client.getUrl_eq L.escaping rfl]
    exact L.performs _ w w' r h.components_ok h.short (hdecode ▸ hr)
  rw [Downloader.get_eq]
  rw [Remote.answered, hts] at hperform
  dsimp only at hperform
  rw [t.run_requestUrl L.conn h.act_ok h.dev_ok h.msg_nil] at hperform
  dsimp only
  rcases hret : (t.request L.conn act dev msg w.dm).ret with x | answer
  · obtain ⟨e, rfl⟩ := herr x hret
    rw [hret] at hperform
    rw [hperform _ _ rfl]
    rfl
  · rw [hret] at hperform
    rw [hperform _ _ rfl]
    rfl

/-- With well-formed devices, every request is one of this kind. -/
theorem Link.get_eq (L : Link M Drv) (h : L.Carries act dev msg) (hts : w.turns = t :: ts)
    (hdm : w.dm.AllDevices Device.WellFormed) :
    L.client.get act dev msg w =
      (let o := t.request L.conn act dev msg w.dm
       (clientResult o.ret, ⟨o.state, ts, w.asked ++ o.asked⟩)) := by
  apply L.get_of_throwsErr h hts
  rw [← t.run_requestUrl L.conn h.act_ok h.dev_ok h.msg_nil]
  exact run_throwsErr (t.before_wellFormed hdm) _ _ _

/-- A request to a device keeps the devices well-formed. -/
theorem Turn.request_wellFormed (t : Turn Drv) (conn : ConnId) (hact : '/' ∉ act) (hdev : '/' ∉ dev)
    (hmsg : dev = [] → msg = []) {dm : DevManager Drv} (h : dm.AllDevices Device.WellFormed) :
    (t.request conn act dev msg dm).state.AllDevices Device.WellFormed := by
  rw [← t.run_requestUrl conn hact hdev hmsg]
  exact (t.before_wellFormed h).run (fun a msg _ hd => a.call_wellFormed _ conn msg hd)
    Server.fresh_wellFormed

end Request

/-! ### Messages over the pipe -/

/-- A message and the words `read_words` finds in its line. -/
structure Message where
  text : Str
  words : List Str
  words_ne_nil : words ≠ []
  reads : ∀ junk, (lineReader junk false false).Writes ReadWords.words (text ++ [nl]) (.ok words)

/-- What the far device gets. -/
def Message.sent (m : Message) : Str := joinWords m.words

/-- The lines of messages. -/
def messageLines (ms : List Message) : Str := ms.flatMap (·.text ++ [nl])

/-- A message that `join_words` has written is sent as it is. -/
def Message.ofWords (ws : List Str) (h : ws ≠ []) : Message where
  text := joinWords ws
  words := ws
  words_ne_nil := h
  reads := fun junk => lineReader_encodes junk false (.words ws h)

/-- A session reads the lines of messages one by one, as words. -/
theorem inputLines_messageLines (junk : Char) (ms : List Message) :
    inputLines junk (messageLines ms) = ms.map fun m => .ok m.words := by
  have hread : ∀ m ∈ ms, (lineReader junk false false).Encodes ReadWords.words (m.text ++ [nl])
      (some (Except.ok m.words)) := fun m _ => m.reads junk
  obtain ⟨l, hl⟩ := Reader.records_flatMap hread (0, 0) []
  rw [List.append_nil, lineReader_nil, List.map_nil, List.append_nil] at hl
  exact hl.trans (congrFun List.filterMap_eq_map ms)

/-! ### The far driver -/

/-- One message and what came of it: the outcome at the near end, and what drivers
were asked. -/
structure Exchange (Drv : Type) where
  outcome : Except Err Str
  asked : List (Drv × Str)

/-- Either the request has failed and no driver was asked; or a driver was asked once,
for exactly the message, and the outcome is what it said during one of the turns. -/
def Exchange.Serves (x : Exchange Drv) (ts : List (Turn Drv)) (msg : Str) : Prop :=
  (x.asked = [] ∧ ∃ e, x.outcome = .error e) ∨
  ∃ drv, ∃ t ∈ ts, x.asked = [(drv, msg)] ∧
    x.outcome = (t.env.ask drv msg).mapError fun e => { str := e.str }

theorem Exchange.Serves.mono {x : Exchange Drv} {ts ts' : List (Turn Drv)} {msg : Str}
    (h : x.Serves ts msg) (hts : ts ⊆ ts') : x.Serves ts' msg := by
  rcases h with h | ⟨drv, t, ht, h⟩
  · exact .inl h
  · exact .inr ⟨drv, t, hts ht, h⟩

/-- What `Device::ask` does with the message. -/
theorem ask_serves (env : DriverEnv Drv) (conn : ConnId) (msg : Str) (d : Device Drv) :
    ((d.ask env conn msg).asked = [] ∧ ∃ x, (d.ask env conn msg).ret = .error x) ∨
    ∃ drv, (d.ask env conn msg).asked = [(drv, msg)] ∧
      (d.ask env conn msg).ret = (env.ask drv msg).mapError .err := by
  rw [Device.ask_eq]
  rcases hu : (d.use env conn).ret with x | u
  · rw [Outcome.bind_of_error hu]
    exact .inl ⟨Device.use_asked, x, rfl⟩
  · rw [Outcome.bind_of_ok hu, Device.use_asked, List.nil_append]
    dsimp only
    obtain ⟨hret, hasked⟩ := Device.askOpened_ret env msg (d.use env conn).state
    rw [hret, hasked]
    rcases hdrv : (d.use env conn).state.drv with - | drv
    · rw [Device.drvAsk, hdrv]
      exact .inl ⟨rfl, _, rfl⟩
    · rw [Device.drvAsk_of_some hdrv]
      exact .inr ⟨drv, rfl, rfl⟩

/-- What the action `ask` does with it at its turn. -/
theorem Turn.ask_serves (t : Turn Drv) (conn : ConnId) (dev msg : Str) (dm : DevManager Drv) :
    let o := t.request conn "ask" dev msg dm
    Exchange.Serves ⟨clientResult o.ret, o.asked⟩ [t] msg := by
  have hfail : ∀ text : Str, Exchange.Serves ⟨clientResult (throwErr text), []⟩ [t] msg :=
    fun text => .inl ⟨rfl, _, rfl⟩
  rw [show "ask".toList = DevAct.ask.name from rfl, t.request_devAct, onDevice]
  split
  · exact hfail _
  · split
    · exact hfail _
    · rename_i d hd
      rcases Device2.ask_serves t.env.toDriverEnv conn msg d with ⟨hasked, x, hx⟩ | ⟨drv, hasked, hret⟩
      · refine .inl ⟨hasked, ?_⟩
        show ∃ e, clientResult (d.ask t.env.toDriverEnv conn msg).ret = .error e
        rw [hx]
        cases x <;> exact ⟨_, rfl⟩
      · refine .inr ⟨drv, t, List.mem_singleton_self t, hasked, ?_⟩
        show clientResult (d.ask t.env.toDriverEnv conn msg).ret = _
        rw [hret]
        cases t.env.ask drv msg <;> rfl

/-- **A session is served message by message.** -/
theorem useDev_serves (L : Link M Drv) (dev : Str) (lock : Bool) (name : Str) {ms : List Message}
    (hcarries : ∀ m ∈ ms, L.Carries "ask" dev m.sent) {w : Remote Drv}
    (hdm : w.dm.AllDevices Device.WellFormed) (hturns : ms.length ≤ w.turns.length) :
    let F := L.client.useDev dev lock name
    let input : List (Except Err (List Str)) := ms.map fun m => .ok m.words
    ∃ xs : List (Exchange Drv), List.Forall₂ (fun m x => x.Serves w.turns m.sent) ms xs ∧
      F.outcomes input w = xs.map Exchange.outcome ∧
      (F.loop input w).2.asked = w.asked ++ xs.flatMap Exchange.asked := by
  induction ms generalizing w with
  | nil => exact ⟨[], .nil, rfl, by simp [FrontEnd.loop]⟩
  | cons m ms ih =>
    obtain ⟨hm, hms⟩ := List.forall_mem_cons.mp hcarries
    obtain ⟨t, ts, hts⟩ := List.exists_cons_of_ne_nil (List.ne_nil_of_length_pos
      (Nat.lt_of_lt_of_le (Nat.succ_pos ms.length) hturns))
    have hrequest : (L.client.useDev dev lock name).request m.words w =
        (let o := t.request L.conn "ask" dev m.sent w.dm
         (clientResult o.ret, ⟨o.state, ts, w.asked ++ o.asked⟩)) := L.get_eq hm hts hdm
    have hserves := t.ask_serves L.conn dev m.sent w.dm
    have hwf := t.request_wellFormed L.conn hm.act_ok hm.dev_ok hm.msg_nil hdm
    generalize t.request L.conn "ask" dev m.sent w.dm = o at hrequest hserves hwf
    obtain ⟨xs, hxs, hout, hasked⟩ := ih hms (w := ⟨o.state, ts, w.asked ++ o.asked⟩) hwf
      (by rw [hts] at hturns; exact Nat.le_of_succ_le_succ hturns)
    refine ⟨⟨clientResult o.ret, o.asked⟩ :: xs,
      .cons (hserves.mono (by simp [hts])) (hxs.imp fun _ _ h => h.mono (by simp [hts])), ?_, ?_⟩
    · simp only [List.map_cons, FrontEnd.outcomes, if_neg m.words_ne_nil, hrequest, hout]
    · simp only [List.map_cons, FrontEnd.loop, if_neg m.words_ne_nil, hrequest, hasked,
        List.flatMap_cons, List.append_assoc]

/-! ### The whole way -/

/-- A client of the server on the same machine. -/
def testLink : Link percentDecoder Unit where
  escaping := percentEscaping
  host := "localhost:8082"
  conn := 1
  maxUrl := 1000
  maxUrl_ge := by decide
  perform := fun url w =>
    match w.answered 1 (percentDecoder.decode (urlPath url)) with
    | some (r, w') => (.ok r, w')
    | none => (.error "Timeout was reached", w)
  performs := by
    intro cs w w' r _ _ hr
    rw [percentEscaping.urlPath_eq (by decide), hr]

/-- The server with `n2.txt`, for two requests. -/
def testRemote : Remote Unit where
  dm := Server.testServer.mgr
  turns := List.replicate 2 ⟨[], Server.testEnv⟩

/-- The session for the device `a`. -/
def testSession : FrontEnd (Remote Unit) := testLink.client.useDev "a" false []

/-- The server behind the opened session. -/
def openedServer : Server Unit :=
  ⟨(Server.testServer.mgr.run Server.testEnv "/use/a" 1).state, {2, 1}⟩

theorem openedServer_reachable : openedServer.Reachable :=
  Server.testServer_reachable.next (e := .request 1 Server.testEnv "/use/a") rfl

theorem testSession_opens :
    testSession.opening testRemote = (.ok (), ⟨openedServer.mgr, [⟨[], Server.testEnv⟩], []⟩) := by
  have hcarries : testLink.Carries "use" "a" [] := ⟨by decide, by decide, by decide, by simp, by decide⟩
  have huse := testLink.get_eq (w := testRemote) hcarries rfl Server.testServer_reachable.inv.devices
  have hret : ((⟨[], Server.testEnv⟩ : Turn Unit).request testLink.conn "use" "a" [] testRemote.dm).ret = .ok [] := by
    decide +kernel
  have hanswer : testLink.client.get "use" "a" [] testRemote =
      (.ok [], ⟨openedServer.mgr, [⟨[], Server.testEnv⟩], []⟩) := by
    rw [huse]
    dsimp only
    rw [hret]
    rfl
  unfold testSession Downloader.useDev
  dsimp only
  rw [hanswer]
  rfl

/-- One message, with a blank in it. -/
def testMessage : Message := .ofWords ["volt".toList, "a b".toList] (by decide)

end Device2
