/-
Device2/Serializable.lean

The server with threads against the server that serves one request after the other.

A call is not atomic (`Device2.Threads`).  But what it does to users, lock and driver,
it does in one step: `use` when it registers its caller, `lock` when it counts the
users, `ask` when it calls the driver; a call that goes through `use` first does that
as a request of its own (`Threads.deeds`).  So as long as what a call has tested still
holds when it relies on it (`Intact`), the threads do what some sequence of complete
requests does, with the same answers to the callers and the same messages to the
drivers, in the same order (`serializable`).

Two answers are not among them.  An exchange writes its lines into the log buffers one
by one, and a `log_get` of another thread may come in between (see
`Device2.AskExchange`), so the buffers are left out, and with them what `log_get`
answers.  And `reload` counts the new devices for its answer when it has given the lock
back.  Which steps there are, and what is taken as one, is said in
`Device2.ManagerThreads`.
-/
import Device2.ConcurrentDevices
import Device2.Lib.Simulation

namespace Device2

open Std StepSystem DevManager

variable {Drv : Type}

/-! ### What the threads do and say -/

/-- An answer to a caller, or a message to a driver. -/
inductive Told (Drv : Type)
  | answer (conn : ConnId) (ret : Except Exn Str)
  | command (drv : Drv) (msg : Str)

/-- A complete request, and whether the caller gets its answer. -/
structure Deed (Drv : Type) extends DevRequest Drv where
  told : Bool := true

/-- The action behind a call that goes on with `k` after `use`. -/
def After.act : After → DevAct
  | ret => .use
  | lock => .lock
  | ask _ => .ask

def After.msg : After → Str
  | ask msg => msg
  | ret | lock => []

namespace Threads

/-- What a step says.  An `ask` is answered when the driver has answered it. -/
def told (s : Threads Drv) : Move Drv → List (Told Drv)
  | .call conn .release => [.answer conn (.ok [])]
  | .call conn .close => [.answer conn (.ok [])]
  | .call conn .unlock => [.answer conn (noAnswer (s.dev.unlock conn)).ret]
  | .call _ .use | .call _ .lock | .call _ (.ask _) => []
  | .step conn env =>
    match s.pc conn with
    | .useTest k =>
      if conn ∈ s.dev.users then (if k = .ret then [.answer conn (.ok [])] else [])
      else if s.dev.locked then [.answer conn (throwErr "device is locked")]
      else []
    | .useCommit k =>
      match (s.dev.useCommit env conn).ret with
      | .ok () => if k = .ret then [.answer conn (.ok [])] else []
      | .error x => [.answer conn (.error x)]
    | .lockFinal =>
      if s.dev.users.card ≠ 1 then [.answer conn (throwErr "Can't lock the device: it is in use")]
      else [.answer conn (.ok [])]
    | .askCall msg =>
      let o := s.dev.askOpened env msg
      o.asked.map (fun a => .command a.1 a.2) ++ [.answer conn o.ret]
    | .idle | .lockTest | .askTest _ | .askCmd _ | .askRet => []

/-- The complete request that a step stands for, if any. -/
def deeds (s : Threads Drv) : Move Drv → List (Deed Drv)
  | .call conn .release => [{ conn, env := noDriver, act := .release, msg := [] }]
  | .call conn .close => [{ conn, env := noDriver, act := .close, msg := [] }]
  | .call conn .unlock => [{ conn, env := noDriver, act := .unlock, msg := [] }]
  | .call _ .use | .call _ .lock | .call _ (.ask _) => []
  | .step conn env =>
    match s.pc conn with
    | .useTest k =>
      if conn ∈ s.dev.users then
        (if k = .ret then [{ conn, env, act := .use, msg := [] }] else [])
      else if s.dev.locked then [{ conn, env, act := k.act, msg := k.msg }]
      else []
    | .useCommit k =>
      match (s.dev.useCommit env conn).ret with
      -- the `use` of a `lock` or an `ask` is a request without an answer
      | .ok () => [{ conn, env, act := .use, msg := [], told := k = .ret }]
      | .error _ => [{ conn, env, act := k.act, msg := k.msg }]
    | .lockFinal => [{ conn, env, act := .lock, msg := [] }]
    | .askCall msg => [{ conn, env, act := .ask, msg }]
    | .idle | .lockTest | .askTest _ | .askCmd _ | .askRet => []

/-- What the call has tested before still holds when it relies on it: the device is
not locked when `use` registers its caller, and the caller of a `lock` or an `ask` is
still a user. -/
def Intact (s : Threads Drv) : Move Drv → Prop
  | .call .. => True
  | .step conn _ =>
    match s.pc conn with
    | .useCommit _ => s.dev.locked = false
    | .lockFinal | .askCall _ => conn ∈ s.dev.users
    | _ => True

instance (s : Threads Drv) : ∀ m, Decidable (s.Intact m)
  | .call .. => .isTrue trivial
  | .step conn _ => by
    show Decidable (match s.pc conn with
      | .useCommit _ => s.dev.locked = false
      | .lockFinal | .askCall _ => conn ∈ s.dev.users
      | _ => True)
    split <;> infer_instance

end Threads

/-- What a complete request says. -/
def Deed.out (d : Device Drv) (q : Deed Drv) : List (Told Drv) :=
  let o := d.call q.toDevRequest
  o.asked.map (fun a => .command a.1 a.2) ++ if q.told then [.answer q.conn o.ret] else []

/-- The device after a complete request. -/
def Deed.next (d : Device Drv) (q : Deed Drv) : Device Drv := d.next q.toDevRequest

/-! ### Requests of which something is known -/

namespace Device

variable {d : Device Drv} {env : DriverEnv Drv} {conn : ConnId} {x : Exn}

theorem use_of_mem (h : conn ∈ d.users) : d.use env conn = .done () d := if_pos h

theorem use_of_locked (h : conn ∉ d.users) (hl : d.locked = true) :
    d.use env conn = .throw "device is locked" d := by
  rw [use, if_neg h, if_pos hl]

/-- The part under `data_mutex` is all of `use` on a device that is not locked. -/
theorem use_eq_useCommit (h : conn ∉ d.users) (hl : d.locked = false) :
    d.use env conn = d.useCommit env conn := by
  rw [use, if_neg h, if_neg (by simp [hl])]
  rfl

/-- A call whose `use` fails is this failure. -/
theorem call_of_use_error (k : After) (h : d.use env conn = ⟨.error x, d, []⟩) :
    d.call ⟨conn, env, k.act, k.msg⟩ = ⟨.error x, d, []⟩ := by
  cases k with
  | ret => simp [call, After.act, DevAct.call, noAnswer, h, Outcome.bind]
  | lock => simp [call, After.act, DevAct.call, noAnswer, lock_eq, h, Outcome.bind]
  | ask msg => simp [call, After.act, DevAct.call, ask_eq, h, Outcome.bind]

theorem call_use_of_ok {d' : Device Drv} (h : d.use env conn = .done () d') :
    d.call ⟨conn, env, .use, []⟩ = .done [] d' := by
  simp [call, DevAct.call, noAnswer, h, Outcome.bind, Outcome.done]

theorem call_lock_of_mem (h : conn ∈ d.users) : d.call ⟨conn, env, .lock, []⟩ =
    if d.users.card ≠ 1 then .throw "Can't lock the device: it is in use" d
    else .done [] { d with locked := true } := by
  rw [call]
  show noAnswer (d.lock env conn) = _
  rw [lock_eq, use_of_mem h, Outcome.done_bind]
  split <;> rfl

theorem call_ask_of_mem (h : conn ∈ d.users) (msg : Str) :
    d.call ⟨conn, env, .ask, msg⟩ = d.askOpened env msg := by
  rw [call]
  show d.ask env conn msg = _
  rw [ask_eq, use_of_mem h, Outcome.done_bind]

end Device

/-- A single request. -/
theorem outputs_singleton (d : Device Drv) (q : Deed Drv) :
    outputs Deed.next Deed.out d [q] = Deed.out d q := by
  rw [outputs, outputs, List.append_nil]

namespace Threads

variable {s t : Threads Drv} {m : Move Drv} {conn : ConnId} {env : DriverEnv Drv}

/-- What a step does and says is what its request does and says. -/
def StepSerial (s : Threads Drv) (m : Move Drv) (t : Threads Drv) : Prop :=
  t.dev = (s.deeds m).foldl Deed.next s.dev ∧
    s.told m = outputs Deed.next Deed.out s.dev (s.deeds m)

/-- A step that stands for one request. -/
theorem StepSerial.one {q : Deed Drv} {o : Outcome (Device Drv) Drv Str} (hdeeds : s.deeds m = [q])
    (ho : s.dev.call q.toDevRequest = o) (hdev : t.dev = o.state)
    (htold : s.told m = o.asked.map (fun a => .command a.1 a.2) ++
      if q.told then [.answer q.conn o.ret] else []) : StepSerial s m t := by
  rw [StepSerial, hdeeds, outputs_singleton]
  subst ho
  exact ⟨hdev, htold⟩

/-- A step that changes nothing and says nothing. -/
theorem StepSerial.none (hdeeds : s.deeds m = []) (hdev : t.dev = s.dev) (htold : s.told m = []) :
    StepSerial s m t := by
  rw [StepSerial, hdeeds]
  exact ⟨hdev, htold⟩

theorem useTest_serial {k : After} (hpc : s.pc conn = .useTest k) (h : s.advance env conn = some t) :
    StepSerial s (.step conn env) t := by
  rw [advance, hpc] at h
  dsimp only at h
  by_cases hmem : conn ∈ s.dev.users
  · rw [if_pos hmem] at h
    cases h
    by_cases hk : k = .ret
    · refine .one (q := { conn, env, act := .use, msg := [] }) (o := .done [] s.dev) ?_
        (Device.call_use_of_ok (Device.use_of_mem hmem)) rfl ?_
      · simp [deeds, hpc, hmem, hk]
      · simp [told, hpc, hmem, hk, Outcome.done]
    · exact .none (by simp [deeds, hpc, hmem, hk]) rfl (by simp [told, hpc, hmem, hk])
  · rw [if_neg hmem] at h
    rcases hl : s.dev.locked with - | -
    · rw [hl] at h
      cases h
      exact .none (by simp [deeds, hpc, hmem, hl]) rfl (by simp [told, hpc, hmem, hl])
    · rw [hl] at h
      cases h
      refine .one (q := { conn, env, act := k.act, msg := k.msg }) ?_
        (Device.call_of_use_error k (Device.use_of_locked hmem hl)) rfl ?_
      · simp [deeds, hpc, hmem, hl]
      · simp [told, hpc, hmem, hl, throwErr]

theorem useCommit_serial (hs : s.Inv) {k : After} (hpc : s.pc conn = .useCommit k)
    (hl : s.dev.locked = false) (h : s.advance env conn = some t) :
    StepSerial s (.step conn env) t := by
  have huse : s.dev.use env conn = s.dev.useCommit env conn :=
    Device.use_eq_useCommit (hs.notUser conn k hpc) hl
  rw [advance, hpc] at h
  dsimp only at h
  rcases useCommit_cases env conn s.dev with ⟨-, e, hu⟩ | ⟨drv, hu⟩
  · rw [hu] at h huse
    cases h
    refine .one (q := { conn, env, act := k.act, msg := k.msg }) ?_
      (Device.call_of_use_error k huse) rfl ?_
    · simp [deeds, hpc, hu]
    · simp [told, hpc, hu]
  · rw [hu] at h huse
    cases h
    refine .one (q := { conn, env, act := .use, msg := [], told := k = .ret }) ?_
      (Device.call_use_of_ok huse) rfl ?_
    · simp [deeds, hpc, hu, Outcome.done]
    · simp [told, hpc, hu, Outcome.done]

theorem lockFinal_serial (hpc : s.pc conn = .lockFinal) (hmem : conn ∈ s.dev.users)
    (h : s.advance env conn = some t) : StepSerial s (.step conn env) t := by
  rw [advance, hpc] at h
  dsimp only at h
  refine .one (q := { conn, env, act := .lock, msg := [] }) (by simp [deeds, hpc])
    (Device.call_lock_of_mem hmem) ?_ ?_
  · split at h <;> cases h <;> rename_i hcard
    · rw [if_pos hcard]; rfl
    · rw [if_neg hcard]; rfl
  · simp only [told, hpc]
    split <;> rfl

theorem askCall_serial (hs : s.Inv) {msg : Str} (hpc : s.pc conn = .askCall msg)
    (hmem : conn ∈ s.dev.users) (h : s.advance env conn = some t) :
    StepSerial s (.step conn env) t := by
  have hnull : (s.dev.askOpened env msg).ret ≠ .error .nullDriver := by
    intro hret
    obtain ⟨e, he⟩ := Device.askOpened_throwsErr (hs.usedOpen ⟨conn, hmem⟩) _ hret
    cases he
  rw [advance, hpc] at h
  dsimp only at h
  rw [if_neg hnull] at h
  cases h
  exact .one (q := { conn, env, act := .ask, msg }) (by simp [deeds, hpc])
    (Device.call_ask_of_mem hmem msg) rfl (by simp [told, hpc])

/-- The other steps touch only places and `cmd_mutex`. -/
theorem quiet_serial (hdeeds : s.deeds (.step conn env) = []) (htold : s.told (.step conn env) = [])
    (hpc : s.pc conn = .lockTest ∨ (∃ msg, s.pc conn = .askTest msg ∨ s.pc conn = .askCmd msg) ∨
      s.pc conn = .askRet) (h : s.advance env conn = some t) : StepSerial s (.step conn env) t := by
  refine .none hdeeds ?_ htold
  rw [advance] at h
  rcases hpc with hpc | ⟨msg, hpc | hpc⟩ | hpc <;> rw [hpc] at h <;> dsimp only at h
  · split at h <;> cases h <;> rfl
  · split at h <;> cases h <;> rfl
  · split at h <;> cases h
    rfl
  · cases h
    rfl

/-- **One step is one request**, or none. -/
theorem step_serial (hs : s.Inv) (h : step s m = some t) (hm : s.Intact m) : StepSerial s m t := by
  unfold step at h
  split at h
  · cases h
  cases m with
  | call conn c =>
    dsimp only at h
    split at h
    · cases h
      cases c with
      | use | lock | ask => exact .none rfl rfl rfl
      | release => exact .one rfl rfl rfl rfl
      | close => exact .one rfl rfl rfl rfl
      | unlock =>
        refine .one rfl rfl (noAnswer_state _).symm ?_
        rw [Device.call_asked (by simp)]
        rfl
    · cases h
  | step conn env =>
    dsimp only at h
    rw [Intact] at hm
    rcases hpc : s.pc conn with - | k | k | - | - | msg | msg | msg | - <;> simp only [hpc] at hm
    case useTest => exact useTest_serial hpc h
    case useCommit => exact useCommit_serial hs hpc hm h
    case lockFinal => exact lockFinal_serial hpc hm h
    case askCall => exact askCall_serial hs hpc hm h
    case idle => simp [advance, hpc] at h
    all_goals exact quiet_serial (by simp [deeds, hpc]) (by simp [told, hpc]) (by simp [hpc]) h

end Threads

/-! ### Log buffers do not matter -/

/-- The actions whose answer does not depend on the log buffers. -/
def DevManager.DevAct.Unlogged (a : DevAct) : Prop := a ≠ .logGet

namespace Device

variable {d d' : Device Drv} {env : DriverEnv Drv} {conn : ConnId}

theorem Alike.refl (d : Device Drv) : d.Alike d := ⟨.refl d, rfl, rfl, rfl⟩

theorem Alike.trans {d'' : Device Drv} (h : d.Alike d') (h' : d'.Alike d'') : d.Alike d'' where
  users := h'.users.trans h.users
  locked := h'.locked.trans h.locked
  drv := h'.drv.trans h.drv
  devName := h'.devName.trans h.devName
  drvName := h'.drvName.trans h.drvName
  drvArgs := h'.drvArgs.trans h.drvArgs

/-- The two calls end in the same way and leave devices that are alike. -/
structure AlikeOutcomes {α : Type} (o o' : Outcome (Device Drv) Drv α) : Prop where
  ret : o'.ret = o.ret
  asked : o'.asked = o.asked
  state : o.state.Alike o'.state

theorem AlikeOutcomes.bind {α β : Type} {o o' : Outcome (Device Drv) Drv α}
    {f f' : α → Device Drv → Outcome (Device Drv) Drv β} (h : AlikeOutcomes o o')
    (hf : ∀ a, AlikeOutcomes (f a o.state) (f' a o'.state)) :
    AlikeOutcomes (o.bind f) (o'.bind f') := by
  rcases hr : o.ret with x | a
  · rw [Outcome.bind_of_error hr, Outcome.bind_of_error (h.ret.trans hr)]
    exact ⟨rfl, h.asked, h.state⟩
  · rw [Outcome.bind_of_ok hr, Outcome.bind_of_ok (h.ret.trans hr)]
    exact ⟨(hf a).ret, by rw [h.asked, (hf a).asked], (hf a).state⟩

theorem AlikeOutcomes.noAnswer {α : Type} {o o' : Outcome (Device Drv) Drv α}
    (h : AlikeOutcomes o o') : AlikeOutcomes (noAnswer o) (noAnswer o') :=
  h.bind fun _ => ⟨rfl, rfl, h.state⟩

theorem Alike.use (h : d.Alike d') : AlikeOutcomes (d.use env conn) (d'.use env conn) := by
  rw [Device.use, Device.use, h.users, h.locked, h.drv, h.drvName, h.drvArgs]
  split
  · exact ⟨rfl, rfl, h⟩
  · split
    · exact ⟨rfl, rfl, h⟩
    · split
      · exact ⟨rfl, rfl, ⟨rfl, rfl, rfl⟩, h.devName, rfl, rfl⟩
      · split
        · exact ⟨rfl, rfl, h⟩
        · exact ⟨rfl, rfl, ⟨rfl, rfl, rfl⟩, h.devName, rfl, rfl⟩

theorem logMessage_alike (pref msg : Str) (d : Device Drv) : d.Alike (d.logMessage pref msg) := by
  rw [logMessage]
  split
  · exact .refl d
  · exact ⟨⟨rfl, rfl, rfl⟩, rfl, rfl, rfl⟩

theorem askOpened_alike (env : DriverEnv Drv) (msg : Str) (d : Device Drv) :
    d.Alike (d.askOpened env msg).state := by
  rw [askOpened]
  split
  · rw [drvAsk_state]
    exact .refl d
  · have hlogged : d.Alike ((d.logMessage ">> " msg).drvAsk env msg).state := by
      rw [drvAsk_state]
      exact logMessage_alike ..
    dsimp only
    split
    · exact hlogged.trans (logMessage_alike ..)
    · exact hlogged.trans (logMessage_alike ..)
    · exact hlogged

theorem Alike.symm (h : d.Alike d') : d'.Alike d where
  users := h.users.symm
  locked := h.locked.symm
  drv := h.drv.symm
  devName := h.devName.symm
  drvName := h.drvName.symm
  drvArgs := h.drvArgs.symm

theorem Alike.askOpened (h : d.Alike d') (msg : Str) :
    AlikeOutcomes (d.askOpened env msg) (d'.askOpened env msg) := by
  have hask : (d'.drvAsk env msg).ret = (d.drvAsk env msg).ret ∧
      (d'.drvAsk env msg).asked = (d.drvAsk env msg).asked := by
    rw [drvAsk, drvAsk, h.drv]
    split <;> exact ⟨rfl, rfl⟩
  obtain ⟨hret, hasked⟩ := askOpened_ret env msg d
  obtain ⟨hret', hasked'⟩ := askOpened_ret env msg d'
  refine ⟨?_, ?_, ?_⟩
  · rw [hret, hret', hask.1]
  · rw [hasked, hasked', hask.2]
  · exact (askOpened_alike env msg d).symm.trans (h.trans (askOpened_alike env msg d'))

theorem Alike.release (h : d.Alike d') (conn : ConnId) : (d.release conn).Alike (d'.release conn) := by
  rw [Device.release, Device.release, h.users]
  split
  · exact ⟨⟨rfl, rfl, h.drv⟩, h.devName, h.drvName, h.drvArgs⟩
  · exact ⟨⟨rfl, h.locked, h.drv⟩, h.devName, h.drvName, h.drvArgs⟩

theorem Alike.lock (h : d.Alike d') : AlikeOutcomes (d.lock env conn) (d'.lock env conn) := by
  rw [lock_eq, lock_eq]
  refine h.use.bind fun _ => ?_
  have huse : AlikeOutcomes (d.use env conn) (d'.use env conn) := h.use
  have hs := huse.state
  rw [hs.users]
  split
  · exact ⟨rfl, rfl, hs⟩
  · exact ⟨rfl, rfl, ⟨rfl, rfl, hs.drv⟩, hs.devName, hs.drvName, hs.drvArgs⟩

theorem Alike.unlock (h : d.Alike d') :
    AlikeOutcomes (d.unlock conn : Outcome (Device Drv) Drv Unit) (d'.unlock conn) := by
  rw [Device.unlock, Device.unlock, h.users, h.locked]
  split
  · exact ⟨rfl, rfl, h⟩
  · split
    · exact ⟨rfl, rfl, h⟩
    · exact ⟨rfl, rfl, ⟨rfl, rfl, h.drv⟩, h.devName, h.drvName, h.drvArgs⟩

theorem Alike.print (h : d.Alike d') (conn : ConnId) : d'.print conn = d.print conn := by
  unfold Device.print
  simp only [h.users, h.locked, h.devName, h.drvName, h.drvArgs]

/-- An action does the same on devices that differ in their log buffers. -/
theorem Alike.call (h : d.Alike d') {r : DevRequest Drv} (hr : r.act.Unlogged) :
    AlikeOutcomes (d.call r) (d'.call r) := by
  obtain ⟨conn, env, a, msg⟩ := r
  cases a with
  | ask =>
    show AlikeOutcomes (d.ask env conn msg) (d'.ask env conn msg)
    rw [ask_eq, ask_eq]
    exact h.use.bind fun _ => h.use.state.askOpened msg
  | use => exact h.use.noAnswer
  | release => exact ⟨rfl, rfl, h.release conn⟩
  | lock => exact h.lock.noAnswer
  | unlock => exact h.unlock.noAnswer
  | close => exact ⟨rfl, rfl, ⟨rfl, rfl, rfl⟩, h.devName, h.drvName, h.drvArgs⟩
  | info =>
    show AlikeOutcomes (.done (d.print conn) d) (.done (d'.print conn) d')
    rw [h.print conn]
    exact ⟨rfl, rfl, h⟩
  | logStart | logFinish => exact ⟨rfl, rfl, ⟨h.users, h.locked, h.drv⟩, h.devName, h.drvName, h.drvArgs⟩
  | logGet => exact absurd rfl hr

end Device

/-- The requests and what they say, on devices that are alike. -/
theorem alike_deeds {d d' : Device Drv} (h : d.Alike d') {qs : List (Deed Drv)}
    (hqs : ∀ q ∈ qs, q.act.Unlogged) :
    (qs.foldl Deed.next d).Alike (qs.foldl Deed.next d') ∧
      outputs Deed.next Deed.out d qs = outputs Deed.next Deed.out d' qs := by
  induction qs generalizing d d' with
  | nil => exact ⟨h, rfl⟩
  | cons q qs ih =>
    obtain ⟨hq, hqs'⟩ := List.forall_mem_cons.mp hqs
    have hcall := h.call hq
    have hnext : (q.next d).Alike (q.next d') := hcall.state
    obtain ⟨halike, hout⟩ := ih hnext hqs'
    refine ⟨halike, ?_⟩
    have hfirst : q.out d' = q.out d := by
      simp only [Deed.out, hcall.ret, hcall.asked]
    rw [outputs, outputs, hfirst, hout]

theorem After.unlogged (k : After) : k.act.Unlogged := by
  cases k <;> simp [After.act, DevAct.Unlogged]

/-- The requests behind the steps of a connection are its own, and none is a `log_get`. -/
theorem Threads.deeds_spec (th : Threads Drv) (m : Move Drv) :
    ∀ q ∈ th.deeds m, q.act.Unlogged ∧ q.conn = m.conn := by
  intro q hq
  have one : ∀ q₀ : Deed Drv, q₀.act.Unlogged → q₀.conn = m.conn → q ∈ [q₀] →
      q.act.Unlogged ∧ q.conn = m.conn := by
    intro q₀ h hc hq
    rw [List.mem_singleton.mp hq]
    exact ⟨h, hc⟩
  have huse : DevAct.Unlogged .use := After.unlogged .ret
  have hlock : DevAct.Unlogged .lock := After.unlogged .lock
  have hask : DevAct.Unlogged .ask := After.unlogged (.ask [])
  cases m with
  | call conn c =>
    cases c with
    | use | lock | ask => exact absurd hq List.not_mem_nil
    | release | close | unlock => exact one _ (by simp [DevAct.Unlogged]) rfl hq
  | step conn env =>
    rw [deeds] at hq
    rcases hpc : th.pc conn with - | k | k | - | - | msg | msg | msg | - <;> simp only [hpc] at hq
    case useTest =>
      split at hq
      · split at hq
        · exact one _ huse rfl hq
        · exact absurd hq List.not_mem_nil
      · split at hq
        · exact one _ k.unlogged rfl hq
        · exact absurd hq List.not_mem_nil
    case useCommit =>
      split at hq
      · exact one _ huse rfl hq
      · exact one _ k.unlogged rfl hq
    case lockFinal => exact one _ hlock rfl hq
    case askCall => exact one _ hask rfl hq
    all_goals exact absurd hq List.not_mem_nil

/-! ### The manager -/

/-- A complete request to the manager, or a list of devices that is put in place. -/
inductive ManagerDeed (Drv : Type)
  | call (k : Str) (q : Deed Drv)
  | install (devices : ExtTreeMap Str (Device Drv))

namespace ManagerDeed

/-- The manager after a complete request. -/
def next (m : DevManager Drv) : ManagerDeed Drv → DevManager Drv
  | call k q => (m.onDevice [] k (·.call q.toDevRequest)).state
  | install devices => { m with devices }

/-- What a complete request says. -/
def out (m : DevManager Drv) : ManagerDeed Drv → List (Told Drv)
  | call k q =>
    let o := m.onDevice [] k (·.call q.toDevRequest)
    o.asked.map (fun a => .command a.1 a.2) ++ if q.told then [.answer q.conn o.ret] else []
  | install _ => []

variable {m : DevManager Drv} {k : Str} {d : Device Drv}

/-- Requests to one device. -/
theorem calls (hk : k ≠ []) (hd : m.devices[k]? = some d) (qs : List (Deed Drv)) :
    (qs.map (call k)).foldl next m =
        { m with devices := m.devices.insert k (qs.foldl Deed.next d) } ∧
      outputs next out m (qs.map (call k)) = outputs Deed.next Deed.out d qs := by
  induction qs generalizing m d with
  | nil => exact ⟨by rw [List.map_nil, List.foldl_nil, List.foldl_nil, insert_getElem?_self hd], rfl⟩
  | cons q qs ih =>
    have hcall : m.onDevice [] k (·.call q.toDevRequest) = ⟨(d.call q.toDevRequest).ret,
        { m with devices := m.devices.insert k (q.next d) }, (d.call q.toDevRequest).asked⟩ :=
      onDevice_of_getElem? [] hk hd _
    have hnext : next m (call k q) = { m with devices := m.devices.insert k (q.next d) } := by
      rw [next, hcall]
    have hout : out m (call k q) = q.out d := by
      rw [out, hcall]
      rfl
    obtain ⟨hstate, hsaid⟩ := ih (m := next m (call k q)) (d := q.next d)
      (by rw [hnext]; exact (getElem?_insert_if ..).trans (if_pos rfl))
    refine ⟨?_, ?_⟩
    · rw [List.map_cons, List.foldl_cons, List.foldl_cons, hstate, hnext]
      dsimp only
      rw [Pool.insert_insert_self]
    · rw [List.map_cons, outputs, outputs, hout, hsaid]

/-- A request to a device that is not there. -/
theorem call_unknown (hk : k ≠ []) (hd : m.devices[k]? = none) (q : Deed Drv) :
    next m (call k q) = m ∧ out m (call k q) =
      if q.told then [.answer q.conn (throwErr ("unknown device: ".toList ++ k))] else [] := by
  have hcall : m.onDevice [] k (·.call q.toDevRequest) = .throw ("unknown device: ".toList ++ k) m := by
    simp [onDevice, hk, hd]
  exact ⟨by rw [next, hcall]; rfl, by rw [out, hcall]; rfl⟩

end ManagerDeed

namespace Pool

/-- The complete requests that a step stands for; `log_get` is left out. -/
def deeds (s : Pool Drv) (m : PoolMove Drv) : List (ManagerDeed Drv) :=
  match m, s.place m.tid with
  | .lockShared conn, .wantShared k a msg =>
    match s.devices[k]? with
    | none => [.call k { conn, env := noDriver, act := a, msg }]
    | some th =>
      match a.toCall msg with
      | some c => (th.deeds (.call conn c)).map (.call k)
      | none => if a = .logGet then [] else [.call k { conn, env := noDriver, act := a, msg }]
  | .call conn env, .inCall k =>
    match s.devices[k]? with
    | none => []
    | some th => (th.deeds (.step conn env)).map (.call k)
  | .renew _, .renewing ret => [.install ret]
  | _, _ => []

/-- What a step says, but for the answers to `log_get` and to `reload`. -/
def told (s : Pool Drv) (m : PoolMove Drv) : List (Told Drv) :=
  match m, s.place m.tid with
  | .lockShared conn, .wantShared k a msg =>
    match s.devices[k]? with
    | none => [.answer conn (throwErr ("unknown device: ".toList ++ k))]
    | some th =>
      match a.toCall msg with
      | some c => th.told (.call conn c)
      | none => if a = .logGet then [] else [.answer conn (a.call noDriver conn msg th.dev).ret]
  | .call conn env, .inCall k =>
    match s.devices[k]? with
    | none => []
    | some th => th.told (.step conn env)
  | _, _ => []

/-- What the call has tested before still holds when it relies on it. -/
def Intact (s : Pool Drv) (m : PoolMove Drv) (_ : Pool Drv) : Prop :=
  ∀ conn env k th, m = .call conn env → s.place (.conn conn) = .inCall k →
    s.devices[k]? = some th → th.Intact (.step conn env)

theorem intact_iff {s t : Pool Drv} {m : PoolMove Drv} : Intact s m t ↔
    match m, s.place m.tid with
    | .call conn env, .inCall k => ∀ th ∈ s.devices[k]?, th.Intact (.step conn env)
    | _, _ => True := by
  constructor
  · intro h
    split
    · rename_i conn env k hplace
      exact fun th hth => h conn env k th rfl hplace hth
    · trivial
  · rintro h conn env k th rfl hplace hth
    simp only [PoolMove.tid, hplace] at h
    exact h th hth

instance (s : Pool Drv) (m : PoolMove Drv) (t : Pool Drv) : Decidable (Intact s m t) :=
  haveI : Decidable (match m, s.place m.tid with
    | .call conn env, .inCall k => ∀ th ∈ s.devices[k]?, th.Intact (.step conn env)
    | _, _ => True) := by split <;> infer_instance
  decidable_of_iff' _ intact_iff

/-- The manager has the same devices, up to their log buffers. -/
structure Matches (s : Pool Drv) (m : DevManager Drv) : Prop where
  keys : ∀ k : Str, s.devices[k]? = none ↔ m.devices[k]? = none
  alike : ∀ (k : Str) (th : Threads Drv) d, s.devices[k]? = some th → m.devices[k]? = some d →
    th.dev.Alike d

variable {s t : Pool Drv} {pm : PoolMove Drv} {m : DevManager Drv} {k : Str} {th th' : Threads Drv}

theorem Matches.device (h : s.Matches m) (hk : s.devices[k]? = some th) :
    ∃ d, m.devices[k]? = some d ∧ th.dev.Alike d := by
  rcases hd : m.devices[k]? with - | d
  · rw [(h.keys k).mpr hd] at hk
    cases hk
  · exact ⟨d, rfl, h.alike k th d hk hd⟩

theorem Matches.insert (h : s.Matches m) (ht : t.devices = s.devices.insert k th') {d : Device Drv}
    (hd : th'.dev.Alike d) : t.Matches { m with devices := m.devices.insert k d } where
  keys k' := by
    rw [ht]
    simp only [getElem?_insert_if]
    split
    · simp
    · exact h.keys k'
  alike k' x y hx hy := by
    rw [ht, getElem?_insert_if] at hx
    simp only [getElem?_insert_if] at hy
    split at hx
    · rename_i hkk
      rw [if_pos hkk] at hy
      cases hx
      cases hy
      exact hd
    · rename_i hkk
      rw [if_neg hkk] at hy
      exact h.alike k' x y hx hy

theorem Matches.congr (h : s.Matches m) (ht : t.devices = s.devices) : t.Matches m where
  keys k := ht ▸ h.keys k
  alike k := ht ▸ h.alike k

theorem matches_ofManager (m : DevManager Drv) : (ofManager m).Matches m where
  keys k := by
    show (fresh m.devices)[k]? = none ↔ _
    rw [fresh, ExtTreeMap.getElem?_map, Option.map_eq_none_iff]
  alike k th d hk hd := by
    obtain ⟨d', hd', rfl⟩ := fresh_getElem? hk
    cases hd.symm.trans hd'
    exact .refl d

/-- Devices have names, and what their calls rely on is there. -/
abbrev RaceInv (s : Pool Drv) : Prop := s.Holds fun k th => k ≠ [] ∧ th.Inv

theorem raceInv_of_wellFormed {d : Device Drv} (hk : DeviceName k) (hd : d.WellFormed) :
    k ≠ [] ∧ ({ dev := d } : Threads Drv).Inv :=
  ⟨hk.1, Threads.Start.inv ⟨hd, fun _ => rfl, rfl, rfl⟩⟩

theorem RaceInv.step (hs : s.RaceInv) (h : s.step pm = some t) : t.RaceInv := by
  refine Holds.step hs h
    (fun k d hk hd => raceInv_of_wellFormed hk (Server.fresh_wellFormed k d hd)) ?_
  intro k th th' _ hth hfine hstep
  refine ⟨hth.1, ?_⟩
  have henter : ∀ conn a msg, th.pc conn = .idle → (th.enter conn a msg).Inv := by
    intro conn a msg hidle
    rcases Threads.enter_cases hfine hidle a msg with ⟨c, -, hc⟩ | ⟨-, d, hd, he⟩
    · exact hth.2.step hc
    · rw [he]
      exact hth.2.congr hd.toSame
  cases hstep with
  | enter conn a msg move place idle => exact henter conn a msg idle
  | call conn env th' move place step => exact hth.2.step step

/-- The requests of one device. -/
theorem serial_device (qs : List (Deed Drv)) (hm : s.Matches m) (hne : k ≠ [])
    (hk : s.devices[k]? = some th) (ht : t.devices = s.devices.insert k th')
    (hqs : ∀ q ∈ qs, q.act.Unlogged)
    (hdev : th'.dev.Alike (qs.foldl Deed.next th.dev)) :
    t.Matches ((qs.map (.call k)).foldl ManagerDeed.next m) ∧
      outputs Deed.next Deed.out th.dev qs =
        outputs ManagerDeed.next ManagerDeed.out m (qs.map (.call k)) := by
  obtain ⟨d, hd, halike⟩ := hm.device hk
  obtain ⟨hstate, hsaid⟩ := ManagerDeed.calls hne hd qs
  obtain ⟨halike', hout⟩ := alike_deeds halike hqs
  rw [hstate, hsaid, hout]
  exact ⟨hm.insert ht (hdev.trans halike'), rfl⟩

/-- A step of a call. -/
theorem serial_call (hm : s.Matches m) (hne : k ≠ []) (hk : s.devices[k]? = some th)
    (ht : t.devices = s.devices.insert k th') {mv : Move Drv} (hser : th.StepSerial mv th') :
    t.Matches (((th.deeds mv).map (.call k)).foldl ManagerDeed.next m) ∧
      th.told mv = outputs ManagerDeed.next ManagerDeed.out m ((th.deeds mv).map (.call k)) := by
  rw [hser.2]
  refine serial_device _ hm hne hk ht (fun q hq => (th.deeds_spec mv q hq).1) ?_
  rw [hser.1]
  exact .refl _

/-- A step that stands for no request. -/
theorem serial_quiet (hm : s.Matches m) (hdeeds : s.deeds pm = []) (htold : s.told pm = [])
    (ht : t.devices = s.devices) : t.Matches ((s.deeds pm).foldl ManagerDeed.next m) ∧
      s.told pm = outputs ManagerDeed.next ManagerDeed.out m (s.deeds pm) := by
  rw [hdeeds, htold]
  exact ⟨hm.congr ht, rfl⟩

/-- The first step of an action. -/
theorem serial_enter (hs : s.RaceInv) (hm : s.Matches m) (hfine : s.crashed = false)
    {conn : ConnId} {a : DevAct} {msg : Str} (hplace : s.place (.conn conn) = .wantShared k a msg)
    (hk : s.devices[k]? = some th) (ht : t.devices = s.devices.insert k (th.enter conn a msg)) :
    t.Matches ((s.deeds (.lockShared conn)).foldl ManagerDeed.next m) ∧
      s.told (.lockShared conn) =
        outputs ManagerDeed.next ManagerDeed.out m (s.deeds (.lockShared conn)) := by
  obtain ⟨hne, hinv⟩ := hs.all k th hk
  have hsound := hs.sound k th hk
  have hidle : th.pc conn = .idle := by
    by_contra hpc
    cases hplace.symm.trans (hsound.inside conn hpc)
  rcases Threads.enter_cases (hsound.fine hfine) hidle a msg with ⟨c, hc, hstep⟩ | ⟨hc, d, hd, he⟩
  · have hdeeds : s.deeds (.lockShared conn) = (th.deeds (.call conn c)).map (.call k) := by
      simp only [deeds, PoolMove.tid, hplace, hk, hc]
    have htold : s.told (.lockShared conn) = th.told (.call conn c) := by
      simp only [told, PoolMove.tid, hplace, hk, hc]
    rw [hdeeds, htold]
    exact serial_call hm hne hk ht (Threads.step_serial hinv hstep trivial)
  · by_cases ha : a = .logGet
    · have hdeeds : s.deeds (.lockShared conn) = [] := by
        simp only [deeds, PoolMove.tid, hplace, hk, hc, if_pos ha]
      have htold : s.told (.lockShared conn) = [] := by
        simp only [told, PoolMove.tid, hplace, hk, hc, if_pos ha]
      rw [hdeeds, htold]
      rw [he] at ht
      exact serial_device [] hm hne hk ht (by simp) hd.symm
    · let q : Deed Drv := { conn, env := noDriver, act := a, msg }
      have hdeeds : s.deeds (.lockShared conn) = [q].map (.call k) := by
        simp only [deeds, PoolMove.tid, hplace, hk, hc, if_neg ha, List.map_cons, List.map_nil, q]
      have hask : q.act ≠ .ask := by
        rintro h
        change a = .ask at h
        subst h
        cases hc
      have htold : s.told (.lockShared conn) = outputs Deed.next Deed.out th.dev [q] := by
        rw [outputs_singleton, Deed.out, Device.call_asked hask]
        simp only [told, PoolMove.tid, hplace, hk, hc, if_neg ha, if_true, List.map_nil, List.nil_append, q]
        rfl
      have hstate : th.enter conn a msg = { th with dev := q.next th.dev } := by
        rw [Threads.enter, hc]
        rfl
      rw [hstate] at ht
      rw [hdeeds, htold]
      exact serial_device [q] hm hne hk ht (by simpa [q, DevAct.Unlogged] using ha) (.refl _)

theorem step_serial (hs : s.RaceInv) (h : s.step pm = some t) (hint : Intact s pm t) :
    Serial ManagerDeed.next ManagerDeed.out Matches deeds told s pm t := by
  intro m hm
  obtain ⟨hfine, he⟩ := step_effect h
  cases he with
  | refused i file e idle file_error => exact serial_quiet hm rfl rfl rfl
  | request conn k a msg idle named => exact serial_quiet hm rfl rfl rfl
  | reload i file ret idle file_ok => exact serial_quiet hm rfl rfl rfl
  | unknown conn k a msg place unknown =>
    obtain ⟨hnext, hout⟩ := ManagerDeed.call_unknown (hs.wanted _ k a msg place)
      ((hm.keys k).mp unknown) (Deed.mk ⟨conn, noDriver, a, msg⟩ true)
    have hdeeds : s.deeds (.lockShared conn) = [.call k (Deed.mk ⟨conn, noDriver, a, msg⟩ true)] := by
      simp only [deeds, PoolMove.tid, place, unknown]
    have htold : s.told (.lockShared conn) =
        [.answer conn (throwErr ("unknown device: ".toList ++ k))] := by
      simp only [told, PoolMove.tid, place, unknown]
    rw [hdeeds, htold, outputs, outputs, hout, List.foldl_cons, List.foldl_nil, hnext]
    exact ⟨hm.congr rfl, rfl⟩
  | enter conn k a msg th place free device => exact serial_enter hs hm hfine place device rfl
  | call conn env k th th' place device step =>
    have hdeeds : s.deeds (.call conn env) = (th.deeds (.step conn env)).map (.call k) := by
      simp only [deeds, PoolMove.tid, place, device]
    have htold : s.told (.call conn env) = th.told (.step conn env) := by
      simp only [told, PoolMove.tid, place, device]
    obtain ⟨hne, hinv⟩ := hs.all k th device
    rw [hdeeds, htold]
    exact serial_call hm hne device rfl
      (Threads.step_serial hinv step (hint conn env k th rfl place device))
  | leave conn k th place device done => exact serial_quiet hm rfl rfl rfl
  | lock i ret place free alone => exact serial_quiet hm rfl rfl rfl
  | renew i ret place =>
    have hdeeds : s.deeds (.renew i) = [.install ret] := by
      simp only [deeds, PoolMove.tid, place]
    have htold : s.told (.renew i) = [] := by
      rfl
    rw [hdeeds, htold]
    exact ⟨(matches_ofManager { m with devices := ret }).congr rfl, rfl⟩

end Pool

/-! ### The server that serves one request after the other -/

/-- A file that is read without an error gives its devices under any name. -/
theorem DevManager.parseConf_ok {devfile devfile' : Str} {file : ConfFile}
    {ret : ExtTreeMap Str (Device Drv)} (h : parseConf devfile file = .ok ret) :
    parseConf devfile' file = .ok ret := by
  rcases file with - | rs
  · cases h
  · rcases hl : (readConfLoop rs ∅ : Except _ (ExtTreeMap Str (Device Drv))) with e | ret' <;>
      simp only [parseConf, hl, Except.mapError] at h ⊢
    · cases h
    · exact h

namespace ManagerDeed

/-- A request of an open connection, or the devices of a file. -/
def Possible (conns : Finset ConnId) : ManagerDeed Drv → Prop
  | call _ q => q.conn ∈ conns
  | install devices => ∃ devfile file, parseConf devfile file = .ok devices

variable {v : Server Drv} {e : ManagerDeed Drv}

/-- What the deed is for the server. -/
theorem exists_event (hv : v.Reachable) (he : e.Possible v.conns) :
    ∃ v' : Server Drv, v'.Reachable ∧ v'.conns = v.conns ∧ v'.mgr = e.next v.mgr := by
  cases e with
  | call k q =>
    rcases hd : v.mgr.devices[k]? with - | d
    · refine ⟨v, hv, rfl, ?_⟩
      rw [next, onDevice, hd]
      split <;> rfl
    · have hk : DeviceName k :=
        hv.allNamed k (ExtTreeMap.mem_iff_isSome_getElem?.mpr (by simp [hd]))
      let env : Env Drv := { q.env with conf := none, tvSec := 0, tvUsec := 0 }
      have hurl : parseUrl (requestUrl q.act.name k q.msg) = some [q.act.name, k, q.msg] :=
        parseUrl_requestUrl (by cases q.act <;> decide) hk.no_slash fun h => absurd h hk.1
      refine ⟨⟨(v.mgr.run env (requestUrl q.act.name k q.msg) q.conn).state, v.conns⟩,
        hv.next (e := .request q.conn env _) (if_pos he), rfl, ?_⟩
      show (v.mgr.run env _ q.conn).state = _
      rw [run_devAct hurl, next, onDevice_of_getElem? _ hk.1 hd, onDevice_of_getElem? _ hk.1 hd]
      rfl
  | install devices =>
    obtain ⟨devfile, file, hfile⟩ := he
    refine ⟨⟨(v.mgr.readConf file).state, v.conns⟩, hv.next (e := .readConf file) rfl, rfl, ?_⟩
    rcases readConf_cases file v.mgr with ⟨e, hp, -⟩ | ⟨ret, hp, hr⟩
    · cases hp.symm.trans (parseConf_ok hfile)
    · cases hp.symm.trans (parseConf_ok hfile)
      show (v.mgr.readConf file).state = _
      rw [hr]
      rfl

theorem exists_run (hv : v.Reachable) {es : List (ManagerDeed Drv)}
    (hes : ∀ e ∈ es, e.Possible v.conns) :
    ∃ v' : Server Drv, v'.Reachable ∧ v'.mgr = es.foldl next v.mgr := by
  induction es generalizing v with
  | nil => exact ⟨v, hv, rfl⟩
  | cons e es ih =>
    obtain ⟨he, hes⟩ := List.forall_mem_cons.mp hes
    obtain ⟨v₁, hv₁, hconns, hmgr⟩ := exists_event hv he
    rw [List.foldl_cons, ← hmgr]
    exact ih hv₁ (hconns ▸ hes)

end ManagerDeed

namespace Pool

variable {s t : Pool Drv} {pm : PoolMove Drv}

theorem possible_deeds (hs : s.RaceInv) {conns : Finset ConnId}
    (hconn : ∀ c, pm.tid = .conn c → c ∈ conns) : ∀ e ∈ s.deeds pm, e.Possible conns := by
  intro e he
  have hone : ∀ k (q : Deed Drv), pm.tid = .conn q.conn → e ∈ [ManagerDeed.call k q] →
      e.Possible conns := by
    intro k q hq he
    rw [List.mem_singleton.mp he]
    exact hconn _ hq
  have hmap : ∀ (th : Threads Drv) (mv : Move Drv) k, pm.tid = .conn mv.conn →
      e ∈ (th.deeds mv).map (.call k) → e.Possible conns := by
    intro th mv k htid he
    obtain ⟨q, hq, rfl⟩ := List.mem_map.mp he
    show q.conn ∈ conns
    rw [(th.deeds_spec mv q hq).2]
    exact hconn _ htid
  rw [deeds.eq_def] at he
  split at he
  · split at he
    · exact hone _ _ rfl he
    · split at he
      · exact hmap _ _ _ rfl he
      · split at he
        · exact absurd he List.not_mem_nil
        · exact hone _ _ rfl he
  · split at he
    · exact absurd he List.not_mem_nil
    · exact hmap _ _ _ rfl he
  · rename_i i ret hplace
    rw [List.mem_singleton.mp he]
    change s.place i = .renewing ret at hplace
    obtain ⟨file, hfile⟩ := hs.read i ret (by rw [hplace]; rfl)
    exact ⟨_, file, hfile⟩
  · exact absurd he List.not_mem_nil

/-- The connections 1 and 2 ask the same device at the same time, each from its request to
its answer; connection 1 has opened it, and connection 2 has its exchange first.  The
main thread has read new devices meanwhile, and puts them in place when both are done. -/
def testAsks : List (PoolMove Unit) :=
  let call conn : PoolMove Unit := .call conn Server.testEnv.toDriverEnv
  [.request 1 "a" .ask "x", .request 2 "a" .ask "y", .lockShared 1, .lockShared 2,
    .reload .main Server.n2Conf, call 1, call 2, call 1, call 1, call 2, call 2, call 2, call 2,
    call 2, call 1, call 1, call 1, .unlockShared 1, .unlockShared 2, .lock .main, .renew .main]

theorem testAsks_intact : Along step Intact testPool testAsks := by
  decide +kernel

end Pool

end Device2
