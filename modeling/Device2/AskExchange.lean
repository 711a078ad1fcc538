/-
Device2/AskExchange.lean

The exchange of `Device::ask` with the physical device, cut into the steps that
other threads can see: take `cmd_mutex`, log the message, write it, read the
answer, log it, give the mutex back.

The physical device is a queue: it answers the messages it was sent one by one and
in order, whenever it likes and with whatever it likes.  Nothing in a reply says
whose it is.  That every `ask` gets its own rests on the mutex: `Exchanging`
ties the two queues to the place of the connection that holds it.

Requests and replies carry the ask they belong to (`Ask`), and the histories
`granted`, `sent`, `answered` and `returned` record what has happened; no step
looks at any of them.
-/
import Device2.Logging
import Device2.Lib.Mutex
import Device2.Lib.StepSystem

namespace Device2

open Std RecentBuffer Mutex StepSystem

/-! ### Asks and log entries -/

/-- An ask that has been granted `cmd_mutex`: who, what, and as which one. -/
structure Ask where
  conn : ConnId
  msg : Str
  num : Nat
  deriving DecidableEq

/-- A reply of the physical device, and the ask it answers. -/
structure AskReply where
  ask : Ask
  text : Str
  deriving DecidableEq

/-- A log entry, and the ask it belongs to. -/
inductive LogEntry
  | asked (a : Ask)
  | answered (a : Ask) (text : Str)
  deriving DecidableEq

/-- The entry as it stands in the buffer. -/
def LogEntry.render : LogEntry → Str
  | asked a => ">> ".toList ++ a.msg ++ [nl]
  | answered _ text => "<< ".toList ++ text ++ [nl]

/-- Where a connection is in its `ask`. -/
inductive AskPc
  | idle
  | takeCmd (msg : Str)
  | logMsg (a : Ask)
  | write (a : Ask)
  | read (a : Ask)
  | logAnswer (a : Ask) (r : AskReply)
  | giveCmd (a : Ask) (r : AskReply)
  deriving DecidableEq

/-- The device with its queues, the connections and the history. -/
structure AskState where
  pc : ConnId → AskPc := fun _ => .idle
  /-- The connection that holds `cmd_mutex`. -/
  cmd : Option ConnId := none
  /-- Messages the physical device has not answered yet. -/
  requests : List Ask := []
  /-- Replies nobody has read yet. -/
  replies : List AskReply := []
  logBufs : ExtTreeMap ConnId (List LogEntry)
  maxLogSize : Nat := 1024
  /-- The asks that were granted the mutex, in order. -/
  granted : List Ask := []
  /-- The asks whose message was written, in order. -/
  sent : List Ask := []
  /-- The replies of the device, in order. -/
  answered : List AskReply := []
  /-- The asks that have returned, with what they returned, in order. -/
  returned : List (Ask × AskReply) := []

/-- A connection begins an `ask`; it takes the next step of it; the physical device
answers its oldest message. -/
inductive AskEvent
  | ask (conn : ConnId) (msg : Str)
  | step (conn : ConnId)
  | device (text : Str)
  deriving DecidableEq

namespace AskState

def goto (conn : ConnId) (p : AskPc) (s : AskState) : AskState :=
  { s with pc := Function.update s.pc conn p }

/-- `Device::log_message`. -/
def log (e : LogEntry) (s : AskState) : AskState :=
  { s with logBufs := s.logBufs.map fun _ b => popOver s.maxLogSize (b ++ [e]) }

/-- The next step of an `ask`; `none` while it has to wait. -/
def advance (conn : ConnId) (s : AskState) : Option AskState :=
  match s.pc conn with
  | .idle => none
  | .takeCmd msg =>
    if s.cmd = none then
      let a : Ask := ⟨conn, msg, s.granted.length⟩
      some (goto conn (.logMsg a) { s with cmd := some conn, granted := s.granted ++ [a] })
    else none
  | .logMsg a => some (goto conn (.write a) (s.log (.asked a)))
  | .write a =>
    some (goto conn (.read a) { s with requests := s.requests ++ [a], sent := s.sent ++ [a] })
  | .read a =>
    match s.replies with
    | [] => none
    | r :: rs => some (goto conn (.logAnswer a r) { s with replies := rs })
  | .logAnswer a r => some (goto conn (.giveCmd a r) (s.log (.answered a r.text)))
  | .giveCmd a r =>
    some (goto conn .idle { s with cmd := none, returned := s.returned ++ [(a, r)] })

/-- The physical device answers its oldest message. -/
def deviceStep (text : Str) (s : AskState) : Option AskState :=
  match s.requests with
  | [] => none
  | a :: as =>
    some { s with
      requests := as
      replies := s.replies ++ [⟨a, text⟩]
      answered := s.answered ++ [⟨a, text⟩] }

/-- One step of one party. -/
def step (s : AskState) : AskEvent → Option AskState
  | .ask conn msg => if s.pc conn = .idle then some (s.goto conn (.takeCmd msg)) else none
  | .step conn => s.advance conn
  | .device text => s.deviceStep text

/-! ### Log buffers -/

/-- Every message entry is followed by the answer entry of the same ask; only the
last entry of the buffer may be the message of the `pending` ask. -/
def Followed (pending : Option Ask) : List LogEntry → Prop
  | [] => True
  | .answered _ _ :: q => Followed pending q
  | [.asked a] => pending = some a
  | .asked a :: .answered a' _ :: q => a' = a ∧ Followed pending q
  | .asked _ :: .asked _ :: _ => False

/-- The ask of an entry in a buffer is not changed by dropping older entries. -/
theorem Followed.tail {pending : Option Ask} {e : LogEntry} {q : List LogEntry}
    (h : Followed pending (e :: q)) : Followed pending q := by
  match e, q, h with
  | .answered _ _, _, h => exact h
  | .asked _, [], _ => trivial
  | .asked _, .answered _ _ :: _, h => exact h.2

theorem Followed.popOver {pending : Option Ask} {n : Nat} {q : List LogEntry}
    (h : Followed pending q) : Followed pending (popOver n q) := by
  induction q with
  | nil => exact h
  | cons e q ih =>
    rw [RecentBuffer.popOver]
    split
    · exact ih h.tail
    · exact h

/-- The message of a new ask. -/
theorem Followed.asked {q : List LogEntry} (h : Followed none q) (a : Ask) :
    Followed (some a) (q ++ [.asked a]) := by
  match q, h with
  | [], _ => rfl
  | .answered _ _ :: q, h => exact Followed.asked (q := q) h a
  | .asked _ :: .answered _ _ :: q, h => exact ⟨h.1, Followed.asked (q := q) h.2 a⟩

/-- The answer of the pending ask. -/
theorem Followed.answered {a : Ask} {q : List LogEntry} (h : Followed (some a) q) (text : Str) :
    Followed none (q ++ [.answered a text]) := by
  match q, h with
  | [], _ => trivial
  | .answered _ _ :: q, h => exact Followed.answered (q := q) h text
  | [.asked a'], h => exact ⟨Option.some.inj h, trivial⟩
  | .asked _ :: .answered _ _ :: q, h => exact ⟨h.1, Followed.answered (q := q) h.2 text⟩

/-! ### The invariant -/

/-- The connection is between taking and giving back `cmd_mutex`. -/
def holdsCmd : AskPc → Bool
  | .idle => false
  | .takeCmd _ => false
  | _ => true

/-- Where the connection that holds the mutex is; `idle` when nobody does. -/
def holderPc (s : AskState) : AskPc :=
  match s.cmd with
  | none => .idle
  | some c => s.pc c

/-- What the queues and the histories look like, by the place of the holder. -/
def Exchanging (s : AskState) : AskPc → Prop
  | .idle | .takeCmd _ => s.requests = [] ∧ s.replies = [] ∧ s.granted = s.sent
  | .logMsg a | .write a => s.requests = [] ∧ s.replies = [] ∧ s.granted = s.sent ++ [a]
  | .read a => s.granted = s.sent ∧
      (s.requests = [a] ∧ s.replies = [] ∨ s.requests = [] ∧ ∃ text, s.replies = [⟨a, text⟩])
  | .logAnswer a r | .giveCmd a r =>
      s.requests = [] ∧ s.replies = [] ∧ s.granted = s.sent ∧ r.ask = a

/-- The reply that has been read and not returned yet. -/
def inHand : AskPc → List AskReply
  | .logAnswer _ r => [r]
  | .giveCmd _ r => [r]
  | _ => []

/-- The ask whose message is in the log and whose answer is not. -/
def pending : AskPc → Option Ask
  | .write a => some a
  | .read a => some a
  | .logAnswer a _ => some a
  | _ => none

/-- What holds in every state. -/
structure Inv (s : AskState) : Prop where
  owned : Owned holdsCmd s.cmd s.pc
  exchanging : s.Exchanging s.holderPc
  /-- The device answers what it was sent, in order. -/
  answers : s.sent = s.answered.map AskReply.ask ++ s.requests
  /-- Every reply of the device is returned once, in order. -/
  delivered : s.answered = s.returned.map Prod.snd ++ inHand s.holderPc ++ s.replies
  /-- Every ask returned its own reply. -/
  own : ∀ p ∈ s.returned, p.2.ask = p.1
  /-- Asks are numbered as they are granted. -/
  numbered : s.granted.map Ask.num = List.range s.granted.length
  logged : ∀ (c : ConnId) b, s.logBufs[c]? = some b → Followed (pending s.holderPc) b

/-- The start: nobody asks, the queues and histories are empty, and the entries in
the buffers are paired. -/
structure Start (s : AskState) : Prop where
  idle : ∀ c, s.pc c = .idle
  cmd : s.cmd = none
  requests : s.requests = []
  replies : s.replies = []
  granted : s.granted = []
  sent : s.sent = []
  answered : s.answered = []
  returned : s.returned = []
  logged : ∀ (c : ConnId) b, s.logBufs[c]? = some b → Followed none b

theorem Start.inv {s : AskState} (h : s.Start) : s.Inv where
  owned := fun c => by rw [h.cmd, h.idle c]; simp [holdsCmd]
  exchanging := by
    rw [holderPc, h.cmd]
    exact ⟨h.requests, h.replies, h.granted.trans h.sent.symm⟩
  answers := by rw [h.sent, h.answered, h.requests]; rfl
  delivered := by rw [h.answered, h.returned, h.replies, holderPc, h.cmd]; rfl
  own := by rw [h.returned]; simp
  numbered := by rw [h.granted]; rfl
  logged := by rw [holderPc, h.cmd]; exact h.logged

variable {Drv : Type} {s t : AskState} {conn : ConnId}

/-- What the invariant says about the place of the holder. -/
structure Placed (s : AskState) (p : AskPc) : Prop where
  exchanging : s.Exchanging p
  delivered : s.answered = s.returned.map Prod.snd ++ inHand p ++ s.replies
  logged : ∀ (c : ConnId) b, s.logBufs[c]? = some b → Followed (pending p) b

theorem Inv.placed (hs : s.Inv) {p : AskPc} (hp : s.holderPc = p) : s.Placed p := by
  subst hp
  exact ⟨hs.exchanging, hs.delivered, hs.logged⟩

theorem Placed.inv {p : AskPc} (h : s.Placed p) (hp : s.holderPc = p)
    (howned : Owned holdsCmd s.cmd s.pc)
    (hanswers : s.sent = s.answered.map AskReply.ask ++ s.requests)
    (hown : ∀ q ∈ s.returned, q.2.ask = q.1)
    (hnumbered : s.granted.map Ask.num = List.range s.granted.length) : s.Inv := by
  subst hp
  exact ⟨howned, h.exchanging, hanswers, h.delivered, hown, hnumbered, h.logged⟩

/-- The connection at a place that holds the mutex is the holder. -/
theorem Inv.holder (hs : s.Inv) {p : AskPc} (hpc : s.pc conn = p) (hp : holdsCmd p = true) :
    s.cmd = some conn ∧ s.Placed p := by
  have hcmd : s.cmd = some conn := (hs.owned conn).mpr (by rw [hpc]; exact hp)
  have hplace : s.holderPc = p := by
    rw [holderPc, hcmd]
    exact hpc
  exact ⟨hcmd, hs.placed hplace⟩

theorem holderPc_goto (p : AskPc) (hcmd : s.cmd = some conn) : (s.goto conn p).holderPc = p := by
  rw [holderPc, goto]
  dsimp only
  rw [hcmd]
  exact Function.update_self ..

/-- A log entry goes to every buffer. -/
theorem log_getElem? (e : LogEntry) (s : AskState) (c : ConnId) :
    (s.log e).logBufs[c]? = (s.logBufs[c]?).map fun b => popOver s.maxLogSize (b ++ [e]) := by
  rw [log, ExtTreeMap.getElem?_map]

theorem followed_log {a a' : Option Ask} {e : LogEntry}
    (he : ∀ q, Followed a q → Followed a' (q ++ [e]))
    (h : ∀ (c : ConnId) b, s.logBufs[c]? = some b → Followed a b) :
    ∀ (c : ConnId) b, (s.log e).logBufs[c]? = some b → Followed a' b := by
  intro c b hb
  rw [log_getElem?] at hb
  obtain ⟨q, hq, rfl⟩ := Option.map_eq_some_iff.mp hb
  exact (he q (h c q hq)).popOver

/-- A connection that begins to ask touches nothing. -/
theorem Inv.ask (hs : s.Inv) (hidle : s.pc conn = .idle) (msg : Str) :
    (s.goto conn (.takeCmd msg)).Inv := by
  have hholder : (s.goto conn (.takeCmd msg)).holderPc = s.holderPc := by
    unfold holderPc goto
    rcases hcmd : s.cmd with - | c
    · rfl
    · have hc : c ≠ conn := by
        rintro rfl
        have := (hs.owned c).mp hcmd
        rw [hidle] at this
        cases this
      exact Function.update_of_ne hc ..
  obtain ⟨hex, hdel, hlog⟩ := hs.placed rfl
  have hex' : (s.goto conn (.takeCmd msg)).Exchanging s.holderPc := by
    generalize s.holderPc = p at hex ⊢
    cases p <;> exact hex
  exact Placed.inv ⟨hex', hdel, hlog⟩ hholder (hs.owned.move (by rw [hidle]; rfl)) hs.answers
    hs.own hs.numbered

/-- The mutex is granted. -/
theorem Inv.takeCmd (hs : s.Inv) {msg : Str} (hcmd : s.cmd = none) :
    let a : Ask := ⟨conn, msg, s.granted.length⟩
    (goto conn (.logMsg a) { s with cmd := some conn, granted := s.granted ++ [a] }).Inv := by
  intro a
  obtain ⟨⟨hreq, hrep, hgranted⟩, hdel, hlog⟩ : s.Placed .idle :=
    hs.placed (by rw [holderPc, hcmd])
  have howned := hs.owned
  rw [hcmd] at howned
  refine Placed.inv (p := .logMsg a) ⟨⟨hreq, hrep, congrArg (· ++ [a]) hgranted⟩, hdel, hlog⟩
    (holderPc_goto _ rfl) (howned.take rfl) hs.answers hs.own ?_
  show (s.granted ++ [a]).map Ask.num = List.range (s.granted ++ [a]).length
  rw [List.map_append, hs.numbered, List.length_append, List.length_singleton, List.range_succ]
  rfl

/-- The message is logged. -/
theorem Inv.logMsg (hs : s.Inv) {a : Ask} (hpc : s.pc conn = .logMsg a) :
    (goto conn (.write a) (s.log (.asked a))).Inv := by
  obtain ⟨hcmd, hex, hdel, hlog⟩ := hs.holder hpc rfl
  have hlog' := followed_log (fun q hq => Followed.asked hq a) hlog
  exact Placed.inv (p := .write a) ⟨hex, hdel, hlog'⟩ (holderPc_goto _ hcmd)
    (hs.owned.move (by rw [hpc]; rfl)) hs.answers hs.own hs.numbered

/-- The message is written. -/
theorem Inv.write (hs : s.Inv) {a : Ask} (hpc : s.pc conn = .write a) :
    (goto conn (.read a) { s with requests := s.requests ++ [a], sent := s.sent ++ [a] }).Inv := by
  obtain ⟨hcmd, ⟨hreq, hrep, hgranted⟩, hdel, hlog⟩ := hs.holder hpc rfl
  have hex : Exchanging { s with requests := s.requests ++ [a], sent := s.sent ++ [a] } (.read a) :=
    ⟨hgranted, .inl ⟨congrArg (· ++ [a]) hreq, hrep⟩⟩
  refine Placed.inv (p := .read a) ⟨hex, hdel, hlog⟩ (holderPc_goto _ hcmd)
    (hs.owned.move (by rw [hpc]; rfl)) ?_ hs.own hs.numbered
  show s.sent ++ [a] = s.answered.map AskReply.ask ++ (s.requests ++ [a])
  rw [hs.answers, List.append_assoc]

/-- The reply is read: it is the only one, and it answers the message just sent. -/
theorem Inv.read (hs : s.Inv) {a : Ask} (hpc : s.pc conn = .read a) {r : AskReply}
    {rs : List AskReply} (hreplies : s.replies = r :: rs) :
    (goto conn (.logAnswer a r) { s with replies := rs }).Inv := by
  obtain ⟨hcmd, ⟨hgranted, hqueues⟩, hdel, hlog⟩ := hs.holder hpc rfl
  obtain ⟨hreq, text, hrep⟩ : s.requests = [] ∧ ∃ text, s.replies = [⟨a, text⟩] := by
    -- there is a reply, so the device has answered
    rcases hqueues with ⟨-, hnone⟩ | h
    · rw [hnone] at hreplies; cases hreplies
    · exact h
  obtain ⟨rfl, rfl⟩ : (⟨a, text⟩ : AskReply) = r ∧ [] = rs := List.cons.inj (hrep.symm.trans hreplies)
  have hdel' : s.answered = s.returned.map Prod.snd ++ [⟨a, text⟩] ++ [] := by
    rw [hdel, hrep]
    simp [inHand]
  exact Placed.inv (p := .logAnswer a ⟨a, text⟩) ⟨⟨hreq, rfl, hgranted, rfl⟩, hdel', hlog⟩
    (holderPc_goto _ hcmd) (hs.owned.move (by rw [hpc]; rfl)) hs.answers hs.own hs.numbered

/-- The answer is logged. -/
theorem Inv.logAnswer (hs : s.Inv) {a : Ask} {r : AskReply} (hpc : s.pc conn = .logAnswer a r) :
    (goto conn (.giveCmd a r) (s.log (.answered a r.text))).Inv := by
  obtain ⟨hcmd, hex, hdel, hlog⟩ := hs.holder hpc rfl
  have hlog' := followed_log (fun q hq => Followed.answered hq r.text) hlog
  exact Placed.inv (p := .giveCmd a r) ⟨hex, hdel, hlog'⟩ (holderPc_goto _ hcmd)
    (hs.owned.move (by rw [hpc]; rfl)) hs.answers hs.own hs.numbered

/-- The ask returns, and the mutex is free again. -/
theorem Inv.giveCmd (hs : s.Inv) {a : Ask} {r : AskReply} (hpc : s.pc conn = .giveCmd a r) :
    (goto conn .idle { s with cmd := none, returned := s.returned ++ [(a, r)] }).Inv := by
  obtain ⟨-, ⟨hreq, hrep, hgranted, hask⟩, hdel, hlog⟩ := hs.holder hpc rfl
  have hdel' : s.answered = (s.returned ++ [(a, r)]).map Prod.snd ++ [] ++ s.replies := by
    rw [hdel]
    simp [inHand]
  refine Placed.inv (p := .idle) ⟨⟨hreq, hrep, hgranted⟩, hdel', hlog⟩ rfl
    (hs.owned.give (by rw [hpc]; rfl) rfl) hs.answers ?_ hs.numbered
  intro p hp
  rcases List.mem_append.mp hp with hp | hp
  · exact hs.own p hp
  · rw [List.mem_singleton.mp hp]; exact hask

/-- The physical device answers: it can only be the message of the holder. -/
theorem Inv.device (hs : s.Inv) {text : Str} {a : Ask} {as : List Ask}
    (hrequests : s.requests = a :: as) :
    Inv { s with
      requests := as
      replies := s.replies ++ [⟨a, text⟩]
      answered := s.answered ++ [⟨a, text⟩] } := by
  have hex := hs.exchanging
  obtain ⟨hplace, hgranted, rfl, hrep⟩ :
      s.holderPc = .read a ∧ s.granted = s.sent ∧ as = [] ∧ s.replies = [] := by
    rcases hp : s.holderPc with - | msg | a' | a' | a' | ⟨a', r⟩ | ⟨a', r⟩ <;> rw [hp] at hex
    -- only a holder that waits has left a message in the queue
    case read =>
      obtain ⟨hgranted, ⟨hreq, hrep⟩ | ⟨hreq, -⟩⟩ := hex
      · obtain ⟨rfl, rfl⟩ : a' = a ∧ [] = as := List.cons.inj (hreq.symm.trans hrequests)
        exact ⟨rfl, hgranted, rfl, hrep⟩
      · rw [hreq] at hrequests; cases hrequests
    all_goals
      have hnone := hex.1
      rw [hrequests] at hnone
      cases hnone
  obtain ⟨-, hdel, hlog⟩ := hs.placed hplace
  rw [hrep, List.nil_append]
  let r : AskReply := ⟨a, text⟩
  have hdel' : s.answered ++ [r] = s.returned.map Prod.snd ++ [] ++ [r] := by
    rw [hdel, hrep]
    simp [inHand]
  refine Placed.inv (p := .read a) ⟨⟨hgranted, .inr ⟨rfl, text, rfl⟩⟩, hdel', hlog⟩ hplace
    hs.owned ?_ hs.own hs.numbered
  show s.sent = (s.answered ++ [r]).map AskReply.ask ++ []
  rw [hs.answers, hrequests, List.map_append, List.append_nil]
  rfl

/-- **Every step keeps the invariant.** -/
theorem Inv.step (hs : s.Inv) {e : AskEvent} (h : s.step e = some t) : t.Inv := by
  cases e with
  | ask conn msg =>
    simp only [AskState.step] at h
    split at h
    · rename_i hidle; cases h; exact hs.ask hidle msg
    · cases h
  | step conn =>
    dsimp only [AskState.step, advance] at h
    rcases hpc : s.pc conn with - | msg | a | a | a | ⟨a, r⟩ | ⟨a, r⟩ <;> rw [hpc] at h <;>
      dsimp only at h
    · cases h
    · split at h
      · rename_i hcmd; cases h; exact hs.takeCmd hcmd
      · cases h
    · cases h; exact hs.logMsg hpc
    · cases h; exact hs.write hpc
    · split at h
      · cases h
      · rename_i hreplies; cases h; exact hs.read hpc hreplies
    · cases h; exact hs.logAnswer hpc
    · cases h; exact hs.giveCmd hpc
  | device text =>
    dsimp only [AskState.step, deviceStep] at h
    split at h
    · cases h
    · rename_i hrequests; cases h; exact hs.device hrequests

/-! ### An ask that nobody interrupts -/

/-- The buffers of the exchange and those of the device hold the same texts. -/
def SameLogs (s : AskState) (d : Device Drv) : Prop :=
  s.maxLogSize = d.maxLogSize ∧
    ∀ c : ConnId, d.logBufs[c]? = (s.logBufs[c]?).map (·.map LogEntry.render)

/-- Without the asks, a log step is `Device::log_message`. -/
theorem SameLogs.log {d : Device Drv} (h : s.SameLogs d) (pref msg : Str) {e : LogEntry}
    (he : e.render = pref ++ msg ++ [nl]) : (s.log e).SameLogs (d.logMessage pref msg) := by
  refine ⟨h.1.trans (Device.logMessage_maxLogSize ..).symm, fun c => ?_⟩
  rw [Device.logMessage_getElem?, h.2 c, log_getElem?, Option.map_map, Option.map_map, ← h.1, ← he]
  refine congrArg (Option.map · s.logBufs[c]?) (funext fun b => ?_)
  show popOver s.maxLogSize (b.map LogEntry.render ++ [e.render]) =
    (popOver s.maxLogSize (b ++ [e])).map LogEntry.render
  rw [← popOver_map, List.map_append]
  rfl

/-- The steps of an ask, and the answer of the device in between. -/
def askEvents (conn : ConnId) (msg text : Str) : List AskEvent :=
  [.ask conn msg, .step conn, .step conn, .step conn, .device text, .step conn, .step conn,
    .step conn]

/-- **An ask that nobody interrupts is `Device::ask`** on a device whose driver
gives the answer of the physical device: the same answer, the same logs. -/
theorem ask_alone (hs : s.Start) (conn : ConnId) (msg : Str) {d : Device Drv} {drv : Drv}
    (hdrv : d.drv = some drv) {env : DriverEnv Drv} {text : Str}
    (htext : env.ask drv msg = .ok text) (hlogs : s.SameLogs d) :
    ∃ t a, run step s (askEvents conn msg text) = some t ∧ t.returned = [(a, ⟨a, text⟩)] ∧
      (d.askOpened env msg).ret = .ok text ∧ t.SameLogs (d.askOpened env msg).state := by
  let a : Ask := ⟨conn, msg, 0⟩
  have hret : (d.askOpened env msg).ret = .ok text := by
    rw [(Device.askOpened_ret env msg d).1, Device.drvAsk_of_some hdrv, htext]
    rfl
  obtain ⟨pref, entry, hexch, hstate⟩ := Device.askOpened_logs hdrv env msg
  have hentry : "<< ".toList ++ text = pref ++ entry := by
    rw [hret] at hexch
    exact (List.cons.inj (List.cons.inj hexch).2).1
  refine ⟨goto conn .idle { (s.log (.asked a)).log (.answered a text) with
      granted := [a], sent := [a], answered := [⟨a, text⟩], returned := [(a, ⟨a, text⟩)] },
    a, ?_, rfl, hret, ?_⟩
  · simp [askEvents, run_cons, step, advance, deviceStep, goto, log, hs.idle, hs.cmd, hs.requests,
      hs.replies, hs.granted, hs.sent, hs.answered, hs.returned, a]
  · rw [hstate]
    exact (hlogs.log ">> ".toList msg rfl).log pref entry (by rw [← hentry]; rfl)

/-! ### Results -/

/-- `Followed`, entry by entry. -/
theorem Followed.next {open' : Option Ask} {b : List LogEntry} (h : Followed open' b)
    {p q : List LogEntry} {a : Ask} (hb : b = p ++ .asked a :: q) :
    (∃ text q', q = .answered a text :: q') ∨ q = [] ∧ open' = some a := by
  induction p generalizing b with
  | nil =>
    subst hb
    match q, h with
    | [], h => exact .inr ⟨rfl, h⟩
    | .answered a' text :: q', h => exact .inl ⟨text, q', by rw [h.1]⟩
  | cons e p ih =>
    subst hb
    exact ih h.tail rfl

/-- The pending ask is the ask of a connection. -/
theorem pending_cases {a : Ask} (h : pending s.holderPc = some a) :
    ∃ c, s.pc c = .write a ∨ s.pc c = .read a ∨ ∃ r, s.pc c = .logAnswer a r := by
  rw [holderPc] at h
  split at h
  · cases h
  · rename_i c hc
    refine ⟨c, ?_⟩
    rcases hp : s.pc c with - | msg | a' | a' | a' | ⟨a', r⟩ | ⟨a', r⟩ <;> rw [hp] at h <;>
      simp only [pending, reduceCtorEq, Option.some.injEq] at h
    · exact .inl (by rw [h])
    · exact .inr (.inl (by rw [h]))
    · exact .inr (.inr ⟨r, by rw [h]⟩)

/-- The reply in hand is that of an ask about to return it. -/
theorem inHand_cases (s : AskState) :
    inHand s.holderPc = [] ∨ ∃ c a r, (s.pc c = .logAnswer a r ∨ s.pc c = .giveCmd a r) ∧
      inHand s.holderPc = [r] := by
  rw [holderPc]
  split
  · exact .inl rfl
  · rename_i c hc
    rcases hp : s.pc c with - | msg | a | a | a | ⟨a, r⟩ | ⟨a, r⟩
    case logAnswer => exact .inr ⟨c, a, r, .inl hp, rfl⟩
    case giveCmd => exact .inr ⟨c, a, r, .inr hp, rfl⟩
    all_goals exact .inl rfl

theorem Inv.sent_prefix (hs : s.Inv) : s.sent <+: s.granted := by
  have hex := hs.exchanging
  rcases hp : s.holderPc with - | msg | a | a | a | ⟨a, r⟩ | ⟨a, r⟩ <;> rw [hp] at hex
  · exact hex.2.2 ▸ List.prefix_rfl
  · exact hex.2.2 ▸ List.prefix_rfl
  · exact hex.2.2 ▸ List.prefix_append ..
  · exact hex.2.2 ▸ List.prefix_append ..
  · exact hex.1 ▸ List.prefix_rfl
  · exact hex.2.2.1 ▸ List.prefix_rfl
  · exact hex.2.2.1 ▸ List.prefix_rfl

/-- No two replies answer the same ask. -/
theorem Inv.answered_nodup (hs : s.Inv) : (s.answered.map AskReply.ask).Nodup := by
  have hgranted : s.granted.Nodup := by
    apply List.Nodup.of_map Ask.num
    rw [hs.numbered]
    exact List.nodup_range
  have hsent : s.sent.Nodup := hgranted.sublist hs.sent_prefix.sublist
  rw [hs.answers] at hsent
  exact hsent.sublist (List.sublist_append_left ..)

/-- Whoever asks waits for a step that is possible. -/
theorem Inv.progress (hs : s.Inv) {c : ConnId} (hc : s.pc c ≠ .idle) :
    ∃ e t, (∀ c' msg, e ≠ .ask c' msg) ∧ s.step e = some t := by
  have hstep : ∀ e : AskEvent, (∀ c' msg, e ≠ .ask c' msg) → (s.step e).isSome →
      ∃ e t, (∀ c' msg, e ≠ .ask c' msg) ∧ s.step e = some t := by
    intro e he hsome
    obtain ⟨t, ht⟩ := Option.isSome_iff_exists.mp hsome
    exact ⟨e, t, he, ht⟩
  rcases hcmd : s.cmd with - | holder
  · -- the mutex is free: the connection has not taken it yet, and can
    have hfree : holdsCmd (s.pc c) = false := by
      have := hs.owned
      rw [hcmd] at this
      exact this.not_holds c
    refine hstep (.step c) (by intro _ _ h; cases h) ?_
    show (s.advance c).isSome
    rw [advance]
    rcases hp : s.pc c with - | msg | a | a | a | ⟨a, r⟩ | ⟨a, r⟩ <;> rw [hp] at hfree hc
    case idle => exact absurd rfl hc
    case takeCmd => dsimp only; rw [if_pos hcmd]; rfl
    all_goals cases hfree
  · -- the holder goes on, unless it waits for the device; then the device can answer
    have hholds := (hs.owned holder).mp hcmd
    have hex := (hs.holder rfl hholds).2.exchanging
    have hgo : (s.advance holder).isSome ∨ s.requests ≠ [] := by
      rw [advance]
      rcases hp : s.pc holder with - | msg | a | a | a | ⟨a, r⟩ | ⟨a, r⟩ <;>
        rw [hp] at hholds hex
      case idle => cases hholds
      case takeCmd => cases hholds
      case read =>
        obtain ⟨-, ⟨hreq, -⟩ | ⟨-, text, hrep⟩⟩ := hex
        · exact .inr (by rw [hreq]; intro h; cases h)
        · exact .inl (by dsimp only; rw [hrep]; rfl)
      all_goals exact .inl rfl
    rcases hgo with hgo | hreq
    · exact hstep (.step holder) (by intro _ _ h; cases h) hgo
    · obtain ⟨a, as, hreq⟩ := List.exists_cons_of_ne_nil hreq
      refine hstep (.device []) (by intro _ _ h; cases h) ?_
      show (s.deviceStep []).isSome
      rw [deviceStep, hreq]
      rfl

/-- **Answers of different clients are never mixed.**  After any interleaving of
the asks of any number of connections with the physical device:

* every ask that has returned has returned the reply to its own message;
* the device has answered the messages it was sent, in order, and its replies
  are returned once and in order, up to the one in hand and those still queued;
  no two of them answer the same ask;
* the messages reach the device in the order in which the mutex was granted;
* in every log buffer the message of an ask is immediately followed by its
  answer, unless the ask is still waiting for it;
* as long as anybody asks, some step of an ask or of the device is possible. -/
theorem answers_never_mixed (hs : s.Start) {es : List AskEvent} (h : run step s es = some t) :
    (∀ p ∈ t.returned, p.2.ask = p.1) ∧
    t.sent = t.answered.map AskReply.ask ++ t.requests ∧
    (∃ hand, (hand = [] ∨ ∃ c a r, (t.pc c = .logAnswer a r ∨ t.pc c = .giveCmd a r) ∧ hand = [r]) ∧
      t.answered = t.returned.map Prod.snd ++ hand ++ t.replies) ∧
    (t.answered.map AskReply.ask).Nodup ∧
    (t.sent <+: t.granted ∧ t.granted.map Ask.num = List.range t.granted.length) ∧
    (∀ (c : ConnId) b, t.logBufs[c]? = some b → ∀ p a q, b = p ++ .asked a :: q →
      (∃ text q', q = .answered a text :: q') ∨
      q = [] ∧ ∃ c', t.pc c' = .write a ∨ t.pc c' = .read a ∨ ∃ r, t.pc c' = .logAnswer a r) ∧
    (∀ c, t.pc c ≠ .idle → ∃ e u, (∀ c' msg, e ≠ .ask c' msg) ∧ t.step e = some u) := by
  have hI : t.Inv := run_invariant (fun _ _ _ hI he => hI.step he) hs.inv h
  refine ⟨hI.own, hI.answers, ⟨_, inHand_cases t, hI.delivered⟩, hI.answered_nodup,
    ⟨hI.sent_prefix, hI.numbered⟩, fun c b hb p a q hq => ?_, fun c hc => hI.progress hc⟩
  rcases (hI.logged c b hb).next hq with hnext | ⟨hlast, hpending⟩
  · exact .inl hnext
  · exact .inr ⟨hlast, pending_cases hpending⟩

/-- Connection 3 logs, nobody asks. -/
def testExchange : AskState := { logBufs := (∅ : ExtTreeMap ConnId (List LogEntry)).insert 3 [] }

theorem testExchange_start : testExchange.Start := by
  refine ⟨fun _ => rfl, rfl, rfl, rfl, rfl, rfl, rfl, rfl, fun c b hb => ?_⟩
  rw [testExchange, getElem?_insert_if] at hb
  split at hb
  · cases hb; trivial
  · simp at hb

/-- Connection 2 begins to ask while connection 1 is in its exchange. -/
def testEvents : List AskEvent :=
  [.ask 1 "a".toList, .ask 2 "b".toList, .step 1, .step 1, .step 1, .device "A".toList, .step 1,
    .step 1, .step 1, .step 2, .step 2, .step 2, .device "B".toList, .step 2, .step 2, .step 2]

theorem answers_never_mixed_testExchange :
    let t := (run step testExchange testEvents).getD testExchange
    (∀ p ∈ t.returned, p.2.ask = p.1) ∧
      t.returned.map (fun p => (p.1.conn, p.2.text)) = [(1, "A".toList), (2, "B".toList)] := by
  have hrun : run step testExchange testEvents =
      some ((run step testExchange testEvents).getD testExchange) := rfl
  exact ⟨(answers_never_mixed testExchange_start hrun).1, by decide⟩

end AskState

end Device2
