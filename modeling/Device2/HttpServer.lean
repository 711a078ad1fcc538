/-
Device2/HttpServer.lean

The HTTP server (`server/http_server.cpp`): the callbacks of libmicrohttpd,
`ConnFunc` and `ProcessRequest`.

libmicrohttpd itself is what calls them: it starts and closes connections, and calls
`ProcessRequest` for an open one, round by round, with the context pointer it left
there the last time.  After `MHD_NO` it only closes the connection.  A connection is
known by its number in `socket_context`; the numbers are counted up (`cmax`).
Arguments of the URL are collected and used by nobody; they are left out.

libmicrohttpd has a thread for each connection; here the callbacks run one after another
(for the calls of `DevManager` at the same time see `Device2.ManagerThreads`).

`ConnFunc` catches no exception and `ProcessRequest` only those of the class `Err`,
so a call of `DevManager` that ends in another way, or a failing `conn_open`, takes
the server down.  That this does not happen is not visible here: it follows from
the invariants of `Server`, which the callbacks refine (`simulates`).
-/
import Device2.Exceptions
import Device2.InfoReport
import Device2.Lib.Simulation

namespace Device2

open Std StepSystem DevManager

variable {Drv : Type}

/-! ### The callbacks -/

/-- What an MHD connection carries: its number (`socket_context`), whether the
context pointer of the request points to `dummy`, and whether `MHD_NO` was returned. -/
structure HttpConn where
  cnum : ConnId
  ptr : Bool := false
  refused : Bool := false
  deriving DecidableEq

/-- A queued response, with the text given to `MHD_add_response_header` for an `Error`
header.  libmicrohttpd leaves the header out if the text is empty or has line breaks;
nobody looks whether it did. -/
structure Response where
  code : Nat
  body : Str
  error : Option Str := none
  deriving DecidableEq

/-- How a call of `ProcessRequest` ends: with `MHD_NO`, with `MHD_YES` after the
headers, or with a response. -/
inductive Round
  | no
  | headers
  | answered (r : Response)
  deriving DecidableEq

/-- The response to what `DevManager::run` returns or throws; other exceptions are
not caught. -/
def respond : Except Exn Str → Except Exn Response
  | .ok msg => .ok { code := 200, body := msg }
  | .error (.err e) => .ok { code := 400, body := e.str, error := cStr e.str }
  | .error x => .error x

/-- `ProcessRequest`. -/
def processRequest (env : Env Drv) (url method : Str) (uploadDataSize : Nat) (c : HttpConn)
    (dm : DevManager Drv) : Except Exn Round × HttpConn × DevManager Drv :=
  if method ≠ "GET".toList then (.ok .no, { c with refused := true }, dm)
  -- the first time only the headers are valid
  else if c.ptr = false then (.ok .headers, { c with ptr := true }, dm)
  -- upload data in a GET
  else if uploadDataSize ≠ 0 then (.ok .no, { c with refused := true }, dm)
  else
    let o := dm.run env url c.cnum
    ((respond o.ret).map .answered, { c with ptr := false }, o.state)

/-- The manager, the connection counter, and the open connections. -/
structure HttpServer (Drv : Type) where
  dm : DevManager Drv
  cmax : ConnId := 0
  conns : ExtTreeMap Nat HttpConn := ∅

/-- What libmicrohttpd and the main thread call; `h` is the handle of an MHD
connection, which may be used again once it is closed. -/
inductive Callback (Drv : Type)
  | started (h : Nat)
  | access (h : Nat) (env : Env Drv) (url method : Str) (uploadDataSize : Nat)
  | closed (h : Nat)
  | readConf (file : ConfFile)

namespace HttpServer

/-- One callback, where it can come: what leaves it, and the server afterwards.  A
callback other than `ProcessRequest` has no round. -/
def callback (H : HttpServer Drv) : Callback Drv → Option (Except Exn (Option Round) × HttpServer Drv)
  | .started h =>
    if h ∈ H.conns then none
    else
      let o := H.dm.connOpen H.cmax
      some (o.ret.map fun _ => none, ⟨o.state, H.cmax + 1, H.conns.insert h { cnum := H.cmax }⟩)
  | .access h env url method uploadDataSize =>
    match H.conns[h]? with
    | none => none
    | some c =>
      if c.refused then none
      else
        let r := processRequest env url method uploadDataSize c H.dm
        some (r.1.map some, ⟨r.2.2, H.cmax, H.conns.insert h r.2.1⟩)
  | .closed h =>
    match H.conns[h]? with
    | none => none
    | some c => some (.ok none, ⟨H.dm.connClose c.cnum, H.cmax, H.conns.erase h⟩)
  -- the main thread, on a signal; an exception ends the process
  | .readConf file =>
    let o := H.dm.readConf file
    if o.ret.isOk then some (.ok none, { H with dm := o.state }) else none

/-- A callback as a step. -/
def step (H : HttpServer Drv) (cb : Callback Drv) : Option (HttpServer Drv) :=
  (H.callback cb).map Prod.snd

/-- The server after its start. -/
def Init (H : HttpServer Drv) : Prop := ∃ devfile file, H = { dm := DevManager.create devfile file }

abbrev Reachable (H : HttpServer Drv) : Prop := StepSystem.Reachable step Init H

end HttpServer

/-! ### Refinement -/

namespace HttpServer

variable {H H' : HttpServer Drv} {s : Server Drv} {cb : Callback Drv}

/-- The server with the numbers of the open MHD connections, which are distinct and
have been counted. -/
structure Refines (H : HttpServer Drv) (s : Server Drv) : Prop where
  mgr : s.mgr = H.dm
  conns : ∀ c, c ∈ s.conns ↔ ∃ (h : Nat) (hc : HttpConn), H.conns[h]? = some hc ∧ hc.cnum = c
  counted : ∀ (h : Nat) (hc : HttpConn), H.conns[h]? = some hc → hc.cnum < H.cmax
  distinct : ∀ (h h' : Nat) (hc hc' : HttpConn), H.conns[h]? = some hc → H.conns[h']? = some hc' →
    hc.cnum = hc'.cnum → h = h'

/-- What a callback is for the server: the second round of a request is the request,
the first one and a refused one are nothing. -/
def events (H : HttpServer Drv) : Callback Drv → List (Event Drv)
  | .started _ => [.connOpen H.cmax]
  | .access h env url method uploadDataSize =>
    match H.conns[h]? with
    | none => []
    | some c =>
      if method = "GET".toList ∧ c.ptr = true ∧ uploadDataSize = 0 then [.request c.cnum env url]
      else []
  | .closed h =>
    match H.conns[h]? with
    | none => []
    | some c => [.connClose c.cnum]
  | .readConf file => [.readConf file]

/-- What `ProcessRequest` does: nothing but to look at the headers or to refuse, or
one request to the manager. -/
theorem processRequest_cases (env : Env Drv) (url method : Str) (n : Nat) (c : HttpConn)
    (dm : DevManager Drv) :
    (method = "GET".toList ∧ c.ptr = true ∧ n = 0 ∧ processRequest env url method n c dm =
      ((respond (dm.run env url c.cnum).ret).map .answered, { c with ptr := false },
        (dm.run env url c.cnum).state)) ∨
    (¬ (method = "GET".toList ∧ c.ptr = true ∧ n = 0) ∧
      ((c.ptr = false ∧ processRequest env url method n c dm = (.ok .headers, { c with ptr := true }, dm)) ∨
        processRequest env url method n c dm = (.ok .no, { c with refused := true }, dm))) := by
  rw [processRequest]
  by_cases hm : method = "GET".toList
  · rw [if_neg (not_not.mpr hm)]
    rcases hp : c.ptr with - | -
    · exact .inr ⟨by simp, .inl ⟨rfl, if_pos rfl⟩⟩
    · by_cases hn : n = 0
      · refine .inl ⟨hm, rfl, hn, ?_⟩
        rw [if_neg (by simp), if_neg (not_not.mpr hn)]
      · refine .inr ⟨fun h => hn h.2.2, .inr ?_⟩
        rw [if_neg (by simp), if_pos hn]
  · exact .inr ⟨fun h => hm h.1, .inr (if_pos hm)⟩

/-- Only the two flags of a connection change in a round. -/
theorem processRequest_cnum (env : Env Drv) (url method : Str) (n : Nat) (c : HttpConn)
    (dm : DevManager Drv) : (processRequest env url method n c dm).2.1.cnum = c.cnum := by
  rcases processRequest_cases env url method n c dm with ⟨-, -, -, h⟩ | ⟨-, ⟨-, h⟩ | h⟩ <;> rw [h]

/-- A callback of an open connection, with the connection found. -/
theorem callback_access {h : Nat} {env : Env Drv} {url method : Str} {n : Nat}
    {r : Except Exn (Option Round)} (he : H.callback (.access h env url method n) = some (r, H')) :
    ∃ c, H.conns[h]? = some c ∧ c.refused = false ∧
      r = (processRequest env url method n c H.dm).1.map some ∧
      H' = ⟨(processRequest env url method n c H.dm).2.2, H.cmax,
        H.conns.insert h (processRequest env url method n c H.dm).2.1⟩ := by
  rw [callback] at he
  rcases hc : H.conns[h]? with - | c
  · simp [hc] at he
  · simp only [hc] at he
    split at he
    · cases he
    · rename_i hr
      cases he
      exact ⟨c, rfl, by simpa using hr, rfl, rfl⟩

/-- Storing a connection again with its number leaves the numbers as they are. -/
theorem Refines.insert (hR : H.Refines s) {h : Nat} {c c' : HttpConn} (hc : H.conns[h]? = some c)
    (hnum : c'.cnum = c.cnum) (s' : Server Drv) (hs : s'.conns = s.conns) :
    Refines ⟨s'.mgr, H.cmax, H.conns.insert h c'⟩ s' := by
  -- each connection of one map is one of the other with the same number
  have hto : ∀ (i : Nat) (ci : HttpConn), (H.conns.insert h c')[i]? = some ci →
      ∃ ci', H.conns[i]? = some ci' ∧ ci'.cnum = ci.cnum := by
    intro i ci hi
    rw [getElem?_insert_if] at hi
    split at hi
    · rename_i he
      cases hi
      exact ⟨c, he ▸ hc, hnum.symm⟩
    · exact ⟨ci, hi, rfl⟩
  have hfrom : ∀ (i : Nat) (ci : HttpConn), H.conns[i]? = some ci →
      ∃ ci', (H.conns.insert h c')[i]? = some ci' ∧ ci'.cnum = ci.cnum := by
    intro i ci hi
    rw [getElem?_insert_if]
    split
    · rename_i he
      rw [← he, hc] at hi
      cases hi
      exact ⟨c', rfl, hnum⟩
    · exact ⟨ci, hi, rfl⟩
  refine ⟨rfl, fun c₀ => ?_, fun i ci hi => ?_, fun i j ci cj hi hj hij => ?_⟩
  · rw [hs, hR.conns]
    constructor
    · rintro ⟨i, ci, hi, rfl⟩
      obtain ⟨ci', hi', he⟩ := hfrom i ci hi
      exact ⟨i, ci', hi', he⟩
    · rintro ⟨i, ci, hi, rfl⟩
      obtain ⟨ci', hi', he⟩ := hto i ci hi
      exact ⟨i, ci', hi', he⟩
  · obtain ⟨ci', hi', he⟩ := hto i ci hi
    exact he ▸ hR.counted i ci' hi'
  · obtain ⟨ci', hi', he⟩ := hto i ci hi
    obtain ⟨cj', hj', he'⟩ := hto j cj hj
    exact hR.distinct i j ci' cj' hi' hj' (by rw [he, he', hij])

/-- **Every callback is what `events` says.** -/
theorem simulates : Simulates step Server.step (@Refines Drv) events := by
  intro H s cb H' hR he
  obtain ⟨⟨r, H''⟩, hcb, rfl⟩ := Option.map_eq_some_iff.mp he
  cases cb with
  | started h =>
    rw [callback] at hcb
    split at hcb
    · cases hcb
    · rename_i hh
      cases hcb
      -- the number is new
      have hfresh : H.cmax ∉ s.conns := by
        intro hmem
        obtain ⟨i, ci, hi, hnum⟩ := (hR.conns H.cmax).mp hmem
        exact absurd (hR.counted i ci hi) (by rw [hnum]; exact lt_irrefl _)
      have hnone : H.conns[h]? = none := ExtTreeMap.getElem?_eq_none hh
      refine ⟨⟨(s.mgr.connOpen H.cmax).state, insert H.cmax s.conns⟩, ?_, ?_⟩
      · show (Server.step s (.connOpen H.cmax)).bind _ = _
        rw [Server.step, if_neg hfresh]
        rfl
      · refine ⟨by rw [hR.mgr], fun c => ?_, fun i ci hi => ?_, fun i j ci cj hi hj hij => ?_⟩
        · rw [Finset.mem_insert, hR.conns]
          constructor
          · rintro (rfl | ⟨i, ci, hi, rfl⟩)
            · exact ⟨h, _, by rw [getElem?_insert_if, if_pos rfl], rfl⟩
            · refine ⟨i, ci, ?_, rfl⟩
              rw [getElem?_insert_if, if_neg (by rintro rfl; rw [hnone] at hi; cases hi)]
              exact hi
          · rintro ⟨i, ci, hi, rfl⟩
            rw [getElem?_insert_if] at hi
            split at hi
            · cases hi; exact .inl rfl
            · exact .inr ⟨i, ci, hi, rfl⟩
        · rw [getElem?_insert_if] at hi
          split at hi
          · cases hi; exact Nat.lt_succ_self _
          · exact Nat.lt_succ_of_lt (hR.counted i ci hi)
        · rw [getElem?_insert_if] at hi hj
          split at hi <;> split at hj
          · rename_i h₁ h₂; rw [← h₁, ← h₂]
          · cases hi; exact absurd (hR.counted j cj hj) (by rw [← hij]; exact lt_irrefl _)
          · cases hj; exact absurd (hR.counted i ci hi) (by rw [hij]; exact lt_irrefl _)
          · exact hR.distinct i j ci cj hi hj hij
  | access h env url method n =>
    obtain ⟨c, hc, -, -, rfl⟩ := callback_access hcb
    have hnum := processRequest_cnum env url method n c H.dm
    have hmem : c.cnum ∈ s.conns := (hR.conns c.cnum).mpr ⟨h, c, hc, rfl⟩
    simp only [events, hc]
    rcases processRequest_cases env url method n c H.dm with ⟨hm, hp, hn, hr⟩ | ⟨hno, hr⟩
    · rw [if_pos ⟨hm, hp, hn⟩]
      refine ⟨⟨(s.mgr.run env url c.cnum).state, s.conns⟩, ?_, ?_⟩
      · show (Server.step s (.request c.cnum env url)).bind _ = _
        rw [Server.step, if_pos hmem]
        rfl
      · rw [hr] at hnum ⊢
        rw [hR.mgr]
        exact hR.insert hc hnum ⟨_, s.conns⟩ rfl
    · rw [if_neg hno]
      have hdm : (processRequest env url method n c H.dm).2.2 = H.dm := by
        rcases hr with ⟨-, hr⟩ | hr <;> rw [hr]
      refine ⟨s, rfl, ?_⟩
      rw [hdm, ← hR.mgr]
      exact hR.insert hc (hR.mgr ▸ hnum) s rfl
  | closed h =>
    rw [callback] at hcb
    rcases hc : H.conns[h]? with - | c
    · simp [hc] at hcb
    · simp only [hc] at hcb
      cases hcb
      have hmem : c.cnum ∈ s.conns := (hR.conns c.cnum).mpr ⟨h, c, hc, rfl⟩
      simp only [events, hc]
      refine ⟨⟨s.mgr.connClose c.cnum, s.conns.erase c.cnum⟩, ?_, ?_⟩
      · show (Server.step s (.connClose c.cnum)).bind _ = _
        rw [Server.step, if_pos hmem]
        rfl
      · refine ⟨by rw [hR.mgr], fun c₀ => ?_, fun i ci hi => ?_, fun i j ci cj hi hj hij => ?_⟩
        · rw [Finset.mem_erase, hR.conns]
          constructor
          · rintro ⟨hne, i, ci, hi, rfl⟩
            refine ⟨i, ci, ?_, rfl⟩
            rw [getElem?_erase_if, if_neg (by rintro rfl; rw [hc] at hi; cases hi; exact hne rfl)]
            exact hi
          · rintro ⟨i, ci, hi, rfl⟩
            rw [getElem?_erase_if] at hi
            split at hi
            · cases hi
            · rename_i hne
              exact ⟨fun hij => hne (hR.distinct h i c ci hc hi hij.symm), i, ci, hi, rfl⟩
        · rw [getElem?_erase_if] at hi
          split at hi
          · cases hi
          · exact hR.counted i ci hi
        · rw [getElem?_erase_if] at hi hj
          split at hi <;> split at hj
          · cases hi
          · cases hi
          · cases hj
          · exact hR.distinct i j ci cj hi hj hij
  | readConf file =>
    simp only [callback] at hcb
    split at hcb
    · cases hcb
      exact ⟨⟨(s.mgr.readConf file).state, s.conns⟩, rfl, by rw [hR.mgr], hR.conns, hR.counted,
        hR.distinct⟩
    · cases hcb

theorem init_refines (h : Init H) : ∃ s : Server Drv, Server.Init s ∧ H.Refines s := by
  obtain ⟨devfile, file, rfl⟩ := h
  refine ⟨_, ⟨devfile, file, rfl⟩, rfl, by simp, by simp, by simp⟩

/-- The numbers are counted up. -/
theorem opened_trace {cbs : List (Callback Drv)} (hrun : run step H cbs = some H') :
    ∃ n, H'.cmax = H.cmax + n ∧ Server.opened (trace step events H cbs) = List.range' H.cmax n := by
  induction cbs generalizing H with
  | nil => cases hrun; exact ⟨0, rfl, rfl⟩
  | cons cb cbs ih =>
    obtain ⟨H₁, he, hrest⟩ := run_cons_eq_some.mp hrun
    obtain ⟨n, hn, htrace⟩ := ih hrest
    obtain ⟨⟨r, H₂⟩, hcb, rfl⟩ := Option.map_eq_some_iff.mp he
    rw [trace, he, Option.elim_some, Server.opened, List.filterMap_append]
    rw [Server.opened] at htrace
    rw [htrace]
    cases cb with
    | started h =>
      rw [callback] at hcb
      split at hcb
      · cases hcb
      · cases hcb
        refine ⟨n + 1, hn.trans (by rw [Nat.add_comm n 1]; exact Nat.add_assoc ..), ?_⟩
        rw [List.range'_succ]
        rfl
    | access h env url method k =>
      obtain ⟨c, hc, -, -, rfl⟩ := callback_access hcb
      refine ⟨n, hn, ?_⟩
      simp only [events, hc]
      split <;> rfl
    | closed h =>
      rw [callback] at hcb
      rcases hc : H.conns[h]? with - | c
      · simp [hc] at hcb
      · simp only [hc] at hcb
        cases hcb
        refine ⟨n, hn, ?_⟩
        simp only [events, hc]
        rfl
    | readConf file =>
      simp only [callback] at hcb
      split at hcb
      · cases hcb; exact ⟨n, hn, rfl⟩
      · cases hcb

/-- A reachable state refines one of the server that counts its connections. -/
theorem Reachable.exists_server (h : H.Reachable) : ∃ s : Server Drv, s.CountedReachable ∧ H.Refines s := by
  obtain ⟨H₀, cbs, hinit, hrun⟩ := h
  obtain ⟨s₀, hs₀, hR₀⟩ := init_refines hinit
  obtain ⟨s, hs, hR⟩ := simulates.run hR₀ hrun
  obtain ⟨n, -, htrace⟩ := opened_trace hrun
  obtain ⟨devfile, file, rfl⟩ := hinit
  refine ⟨s, ⟨s₀, _, hs₀, hs, ?_⟩, hR⟩
  rw [htrace, List.length_range', ← List.range_eq_range']

/-! ### What the callbacks guarantee -/

/-- The response to a request is always there. -/
theorem respond_ok {o : Outcome (DevManager Drv) Drv Str} (h : o.ThrowsErr) :
    ∃ r, respond o.ret = .ok r := by
  rcases hr : o.ret with x | msg
  · obtain ⟨e, rfl⟩ := h x hr
    exact ⟨_, rfl⟩
  · exact ⟨_, rfl⟩

/-- No exception leaves a callback. -/
theorem Reachable.callback_ok (hH : H.Reachable) {r : Except Exn (Option Round)}
    (hcb : H.callback cb = some (r, H')) : ∃ round, r = .ok round := by
  obtain ⟨s, hs, hR⟩ := hH.exists_server
  have hinv := hs.reachable.inv
  cases cb with
  | started h =>
    rw [callback] at hcb
    split at hcb
    · cases hcb
    · cases hcb
      -- nobody else has the default name
      have hfree := hinv.names.default_free H.cmax
      rw [hR.mgr] at hfree
      rw [DevManager.connOpen, setConnName_default H.cmax H.dm hfree]
      exact ⟨none, rfl⟩
  | access h env url method n =>
    obtain ⟨c, -, -, rfl, -⟩ := callback_access hcb
    rcases processRequest_cases env url method n c H.dm with ⟨-, -, -, hr⟩ | ⟨-, ⟨-, hr⟩ | hr⟩
    · obtain ⟨r, hresp⟩ := respond_ok (run_throwsErr (hR.mgr ▸ hinv.devices) env url c.cnum)
      rw [hr, hresp]
      exact ⟨_, rfl⟩
    · rw [hr]; exact ⟨_, rfl⟩
    · rw [hr]; exact ⟨_, rfl⟩
  | closed h =>
    rw [callback] at hcb
    rcases hc : H.conns[h]? with - | c
    · simp [hc] at hcb
    · simp only [hc] at hcb
      cases hcb
      exact ⟨none, rfl⟩
  | readConf file =>
    simp only [callback] at hcb
    split at hcb
    · cases hcb; exact ⟨none, rfl⟩
    · cases hcb

/-- **The callbacks refine the server and never take it down.**  A reachable state is
one of the server that counts its connections from 0; no exception leaves a callback,
so each request that is run gets its response; and whoever uses a device or has a log
of it is an open connection of libmicrohttpd. -/
theorem callbacks_safe (hH : H.Reachable) :
    (∃ s : Server Drv, s.CountedReachable ∧ H.Refines s) ∧
    (∀ cb r H', H.callback cb = some (r, H') → ∃ round, r = .ok round) ∧
    ∀ (k : Str) d, H.dm.devices[k]? = some d → ∀ c, c ∈ d.users ∨ c ∈ d.logBufs →
      ∃ (h : Nat) (hc : HttpConn), H.conns[h]? = some hc ∧ hc.cnum = c := by
  obtain ⟨s, hs, hR⟩ := hH.exists_server
  refine ⟨⟨s, hs, hR⟩, fun cb r H' hcb => hH.callback_ok hcb, fun k d hd c hc => ?_⟩
  have howned := hs.reachable.ownedBy k d (hR.mgr ▸ hd)
  apply (hR.conns c).mp
  rcases hc with hu | hb
  · exact howned.users c hu
  · exact howned.buffers c hb

/-- The two rounds of a request. -/
def twoRounds (h : Nat) (url : Str) : List (Callback Unit) :=
  List.replicate 2 (.access h Server.testEnv url "GET" 0)

/-- One connection, which uses a device and has a log of it. -/
def testCallbacks : List (Callback Unit) :=
  .started 7 :: (twoRounds 7 "/use/a" ++ twoRounds 7 "/log_start/a")

/-- The server with `n2.txt` after its start. -/
def startedHttp : HttpServer Unit := { dm := DevManager.create "n2.txt" Server.n2Conf }

def testHttp : HttpServer Unit := (run step startedHttp testCallbacks).getD startedHttp

theorem testHttp_reachable : testHttp.Reachable := by
  have hsome : (run step startedHttp testCallbacks).isSome = true := by decide +kernel
  obtain ⟨H, hrun⟩ := Option.isSome_iff_exists.mp hsome
  refine ⟨startedHttp, testCallbacks, ⟨"n2.txt", Server.n2Conf, rfl⟩, ?_⟩
  rw [testHttp, hrun]
  rfl

/-- Its connection is a user, and has a buffer. -/
example : (testHttp.dm.devices["a".toList]?).any (fun d => 0 ∈ d.users ∧ 0 ∈ d.logBufs) = true := by
  decide +kernel

theorem callbacks_safe_testHttp :
    (∃ s : Server Unit, s.CountedReachable ∧ testHttp.Refines s) ∧
    (∀ cb r H', testHttp.callback cb = some (r, H') → ∃ round, r = .ok round) ∧
    ∀ (k : Str) d, testHttp.dm.devices[k]? = some d → ∀ c, c ∈ d.users ∨ c ∈ d.logBufs →
      ∃ (h : Nat) (hc : HttpConn), testHttp.conns[h]? = some hc ∧ hc.cnum = c :=
  callbacks_safe testHttp_reachable

/-! ### Rounds -/

/-- A call of `ProcessRequest` that has ended, and the manager before and after it. -/
structure Visit (Drv : Type) where
  env : Env Drv
  url : Str
  round : Round
  before : DevManager Drv
  after : DevManager Drv

/-- The calls of `ProcessRequest` for one MHD connection. -/
def visits (h : Nat) (H : HttpServer Drv) : List (Callback Drv) → List (Visit Drv)
  | [] => []
  | cb :: cbs =>
    match H.callback cb with
    | none => []
    | some (r, H') =>
      (match cb, r with
        | .access h' env url _ _, .ok (some round) =>
          if h' = h then [⟨env, url, round, H.dm, H'.dm⟩] else []
        | _, _ => []) ++ visits h H' cbs

/-- Calls two by two.  The first one leaves the manager as it is; the second one is one
request to the manager as it is then, and queues the response to it.  `b` says whether
the headers of the current request have been seen; nothing comes after a refusal. -/
inductive Alternate (cnum : ConnId) : Bool → List (Visit Drv) → Prop
  | nil (b : Bool) : Alternate cnum b []
  | headers {v : Visit Drv} {vs : List (Visit Drv)} (round : v.round = .headers)
      (after : v.after = v.before) (rest : Alternate cnum true vs) : Alternate cnum false (v :: vs)
  | answered {v : Visit Drv} {vs : List (Visit Drv)} (r : Response) (round : v.round = .answered r)
      (response : respond (v.before.run v.env v.url cnum).ret = .ok r)
      (after : v.after = (v.before.run v.env v.url cnum).state) (rest : Alternate cnum false vs) :
      Alternate cnum true (v :: vs)
  | no (b : Bool) {v : Visit Drv} (round : v.round = .no) (after : v.after = v.before) :
      Alternate cnum b [v]

/-- A callback of another connection leaves this one as it is. -/
theorem callback_other {h : Nat} {r : Except Exn (Option Round)}
    (hcb : H.callback cb = some (r, H')) (hne : ∀ env url method n, cb ≠ .access h env url method n)
    (hclosed : cb ≠ .closed h) {c : HttpConn} (hc : H.conns[h]? = some c) : H'.conns[h]? = some c := by
  cases cb with
  | started h' =>
    rw [callback] at hcb
    split at hcb
    · cases hcb
    · rename_i hh
      cases hcb
      have hh' : h' ≠ h := by
        rintro rfl
        exact hh (ExtTreeMap.mem_iff_isSome_getElem?.mpr (by rw [hc]; rfl))
      rw [getElem?_insert_if, if_neg hh']
      exact hc
  | access h' env url method n =>
    obtain ⟨c', hc', -, -, rfl⟩ := callback_access hcb
    have hh' : h' ≠ h := by
      rintro rfl
      exact hne env url method n rfl
    rw [getElem?_insert_if, if_neg hh']
    exact hc
  | closed h' =>
    have hh' : h' ≠ h := by
      rintro rfl
      exact hclosed rfl
    rw [callback] at hcb
    rcases hc' : H.conns[h']? with - | c'
    · simp [hc'] at hcb
    · simp only [hc'] at hcb
      cases hcb
      rw [getElem?_erase_if, if_neg hh']
      exact hc
  | readConf file =>
    simp only [callback] at hcb
    split at hcb
    · cases hcb; exact hc
    · cases hcb

section Calls
variable {h : Nat} {c : HttpConn} {cb : Callback Drv} {cbs : List (Callback Drv)}
  {r : Except Exn (Option Round)} {env : Env Drv} {url method : Str} {n : Nat} {round : Round}

theorem visits_own (hcb : H.callback (.access h env url method n) = some (.ok (some round), H')) :
    visits h H (.access h env url method n :: cbs) =
      ⟨env, url, round, H.dm, H'.dm⟩ :: visits h H' cbs := by
  rw [visits, hcb]
  dsimp only
  rw [if_pos rfl, List.singleton_append]

theorem visits_other (hcb : H.callback cb = some (r, H'))
    (hne : ∀ env url method n, cb ≠ .access h env url method n) :
    visits h H (cb :: cbs) = visits h H' cbs := by
  rw [visits, hcb]
  dsimp only
  split
  · rw [if_neg fun he => hne _ _ _ _ (by rw [he])]
    rfl
  · rfl

/-- After a refusal there are no more rounds. -/
theorem visits_refused (hc : H.conns[h]? = some c) (hr : c.refused = true)
    (hopen : ∀ cb ∈ cbs, cb ≠ .closed h) : visits h H cbs = [] := by
  induction cbs generalizing H with
  | nil => rfl
  | cons cb cbs ih =>
    obtain ⟨hcl, hopen⟩ := List.forall_mem_cons.mp hopen
    rcases hcb : H.callback cb with - | ⟨r, H'⟩
    · rw [visits, hcb]
    · have hne : ∀ env url method n, cb ≠ .access h env url method n := by
        rintro env url method n rfl
        obtain ⟨c', hc', hr', -⟩ := callback_access hcb
        rw [hc] at hc'
        cases hc'
        rw [hr] at hr'
        cases hr'
      rw [visits_other hcb hne]
      exact ih (callback_other hcb hne hcl hc) hopen

/-- **One call of `ProcessRequest`**: the request and its response, if the headers have
been seen; or the headers; or a refusal. -/
theorem round_cases (hc : H.conns[h]? = some c)
    (hcb : H.callback (.access h env url method n) = some (.ok (some round), H')) :
    (c.ptr = true ∧ (∃ resp, round = .answered resp ∧ respond (H.dm.run env url c.cnum).ret = .ok resp) ∧
      H'.dm = (H.dm.run env url c.cnum).state ∧ H'.conns[h]? = some { c with ptr := false }) ∨
    (c.ptr = false ∧ round = .headers ∧ H'.dm = H.dm ∧ H'.conns[h]? = some { c with ptr := true }) ∨
    (round = .no ∧ H'.dm = H.dm ∧ H'.conns[h]? = some { c with refused := true }) := by
  obtain ⟨c', hc', -, hround, rfl⟩ := callback_access hcb
  rw [hc] at hc'
  cases hc'
  have hstored : ∀ c' : HttpConn, (H.conns.insert h c')[h]? = some c' := fun c' =>
    ExtTreeMap.getElem?_insert_self
  rcases processRequest_cases env url method n c H.dm with
    ⟨-, hp, -, hproc⟩ | ⟨-, ⟨hp, hproc⟩ | hproc⟩
  · rw [hproc] at hround ⊢
    refine .inl ⟨hp, ?_, rfl, hstored _⟩
    rcases hresp : respond (H.dm.run env url c.cnum).ret with x | resp
    · rw [hresp] at hround
      cases hround
    · rw [hresp] at hround
      cases hround
      exact ⟨resp, rfl, rfl⟩
  · rw [hproc] at hround ⊢
    cases hround
    exact .inr (.inl ⟨hp, rfl, rfl, hstored _⟩)
  · rw [hproc] at hround ⊢
    cases hround
    exact .inr (.inr ⟨rfl, rfl, hstored _⟩)

/-- **Two rounds for each request.**  While a connection is open, its calls of
`ProcessRequest` alternate, whatever happens on the others in between: the headers
first, which changes nothing, and then exactly one request to the manager, whose result
is the response. -/
theorem rounds_alternate (hH : H.Reachable) {h : Nat} {c : HttpConn} (hc : H.conns[h]? = some c)
    (hr : c.refused = false) {cbs : List (Callback Drv)} (hopen : ∀ cb ∈ cbs, cb ≠ .closed h) :
    Alternate c.cnum c.ptr (visits h H cbs) := by
  induction cbs generalizing H c with
  | nil => exact .nil _
  | cons cb cbs ih =>
    obtain ⟨hcl, hopen'⟩ := List.forall_mem_cons.mp hopen
    rcases hcb : H.callback cb with - | ⟨r, H'⟩
    · rw [visits, hcb]
      exact .nil _
    have hH' : H'.Reachable := hH.next (by rw [step, hcb]; rfl)
    by_cases hacc : ∃ env url method n, cb = .access h env url method n
    · obtain ⟨env, url, method, n, rfl⟩ := hacc
      obtain ⟨round, rfl⟩ : ∃ round, r = .ok (some round) := by
        obtain ⟨c', -, -, hround, -⟩ := callback_access hcb
        obtain ⟨_, rfl⟩ := hH.callback_ok hcb
        rcases e : (processRequest env url method n c' H.dm).1 with x | round
        · rw [e] at hround; cases hround
        · exact ⟨round, hround.trans (by rw [e]; rfl)⟩
      rw [visits_own hcb]
      rcases round_cases hc hcb with ⟨hp, ⟨resp, rfl, hresp⟩, hdm, hc'⟩ | ⟨hp, rfl, hdm, hc'⟩ |
        ⟨rfl, hdm, hc'⟩
      · rw [hp]
        exact .answered resp rfl hresp hdm (ih hH' hc' hr hopen')
      · rw [hp]
        exact .headers rfl hdm (ih hH' hc' hr hopen')
      · rw [visits_refused hc' rfl hopen']
        exact .no _ rfl hdm
    · have hne : ∀ env url method n, cb ≠ .access h env url method n :=
        fun env url method n he => hacc ⟨env, url, method, n, he⟩
      rw [visits_other hcb hne]
      exact ih hH' (callback_other hcb hne hcl hc) hr hopen'

end Calls

theorem rounds_alternate_testHttp :
    Alternate 0 false (visits 7 testHttp
      [.access 7 Server.testEnv "/ask/a/x" "GET" 0, .access 7 Server.testEnv "/ask/a/x" "GET" 0]) := by
  have hc : testHttp.conns[(7 : Nat)]? = some { cnum := 0 } := by
    decide +kernel
  exact rounds_alternate testHttp_reachable hc rfl (by simp)

end HttpServer

end Device2
