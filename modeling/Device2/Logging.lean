/-
Device2/Logging.lean

The log buffers of a device, against the history of all its traffic.

`LogSpec` is what the buffers are for: for every connection that logs, all entries
since its latest `log_start` or `log_get`, without any bound.  The buffers of the
device hold the last `max_log_size` of them (`Refines`); every request keeps this
relation, and `LogSpec.after_isSome_iff` and `LogSpec.after_latest_mark` say what
the unbounded view is in terms of the requests alone.

`entries` does not look at the logging code.  An `ask` that reaches the driver
makes two entries, the message and what came of it, whether anybody logs or not.
-/
import Device2.DeviceRuns

namespace Device2

open Std RecentBuffer DevManager

variable {Drv : Type}

/-! ### Entries -/

/-- The two entries of an exchange with the driver. -/
def exchange (msg : Str) : Except Exn Str → List Str
  | .ok answer => [">> ".toList ++ msg, "<< ".toList ++ answer]
  | .error (.err e) => [">> ".toList ++ msg, "EE ".toList ++ e.str]
  | .error _ => [">> ".toList ++ msg]

namespace Device

/-- The entries a request produces: those of an `ask` that reaches the driver. -/
def entries (d : Device Drv) (r : DevRequest Drv) : List Str :=
  if r.act = .ask ∧ (d.call r).asked ≠ [] then exchange r.msg (d.call r).ret else []

/-- The entries of a list of requests. -/
def produced : Device Drv → List (DevRequest Drv) → List Str
  | _, [] => []
  | d, r :: rs => d.entries r ++ (d.next r).produced rs

end Device

/-! ### The unbounded view -/

/-- For each connection that logs: all entries since its latest mark. -/
abbrev LogSpec := ConnId → Option (List Str)

/-- The request begins a new log, or empties the one there is. -/
def Marks (c : ConnId) (r : DevRequest Drv) : Prop :=
  r.conn = c ∧ (r.act = .logStart ∨ r.act = .logGet)

/-- The request ends the log of `c`. -/
def Stops (c : ConnId) (r : DevRequest Drv) : Prop :=
  r.act = .close ∨ r.conn = c ∧ (r.act = .logFinish ∨ r.act = .release)

instance (c : ConnId) (r : DevRequest Drv) : Decidable (Marks c r) := by
  unfold Marks; infer_instance

instance (c : ConnId) (r : DevRequest Drv) : Decidable (Stops c r) := by
  unfold Stops; infer_instance

/-- One request that produces the entries `es`. -/
def LogSpec.step (v : LogSpec) (r : DevRequest Drv) (es : List Str) : LogSpec := fun c =>
  if Stops c r then none
  else if Marks c r then if r.act = .logStart then some [] else (v c).map fun _ => []
  else (v c).map (· ++ es)

/-- The view after a list of requests to the device `d`. -/
def LogSpec.after (v : LogSpec) : Device Drv → List (DevRequest Drv) → LogSpec
  | _, [] => v
  | d, r :: rs => (v.step r (d.entries r)).after (d.next r) rs

/-- The buffers of the device hold the last entries of the view. -/
def Refines (d : Device Drv) (v : LogSpec) : Prop :=
  ∀ c : ConnId, d.logBufs[c]? =
    (v c).map fun es => (es.rtake d.maxLogSize).map (· ++ [nl])

/-! ### What the methods do to the buffers -/

namespace Device

variable {env : DriverEnv Drv} {conn : ConnId} {msg : Str} {d : Device Drv}

@[simp] theorem drvAsk_of_some {drv : Drv} (h : d.drv = some drv) :
    d.drvAsk env msg = ⟨(env.ask drv msg).mapError .err, d, [(drv, msg)]⟩ := by
  simp [drvAsk, h]

/-- The answer and the message for the driver do not depend on the buffers. -/
theorem askOpened_ret (env : DriverEnv Drv) (msg : Str) (d : Device Drv) :
    (d.askOpened env msg).ret = (d.drvAsk env msg).ret ∧
      (d.askOpened env msg).asked = (d.drvAsk env msg).asked := by
  rw [askOpened]
  split
  · exact ⟨rfl, rfl⟩
  · have hsame : ((d.logMessage ">> " msg).drvAsk env msg).ret = (d.drvAsk env msg).ret ∧
        ((d.logMessage ">> " msg).drvAsk env msg).asked = (d.drvAsk env msg).asked := by
      unfold drvAsk
      rw [logMessage_drv]
      split <;> exact ⟨rfl, rfl⟩
    dsimp only
    split
    · exact hsame
    · exact hsame
    · exact hsame

end Device

/-- Putting entries into a buffer that holds the last ones. -/
theorem popOver_entry (n : ℕ) (es : List Str) (e : Str) :
    popOver n ((es.rtake n).map (· ++ [nl]) ++ [e ++ [nl]]) =
      ((es ++ [e]).rtake n).map (· ++ [nl]) := by
  rw [← popOver_rtake_append, ← popOver_map, List.map_append]
  rfl

/-! ### The buffers follow the view -/

namespace Refines

variable {d d' : Device Drv} {v v' : LogSpec}

theorem congr (h : Refines d v) (hb : d'.logBufs = d.logBufs) (hm : d'.maxLogSize = d.maxLogSize)
    (hv : v' = v) : Refines d' v' := by
  intro c
  rw [hb, hm, hv]
  exact h c

theorem logMessage (h : Refines d v) (pref msg : Str) :
    Refines (d.logMessage pref msg) fun c => (v c).map (· ++ [pref ++ msg]) := by
  intro c
  rw [Device.logMessage_getElem?, Device.logMessage_maxLogSize, h c, Option.map_map, Option.map_map]
  exact congrArg (Option.map · (v c)) (funext fun es => popOver_entry _ es _)

end Refines

namespace Device

variable {env : DriverEnv Drv} {msg : Str} {d : Device Drv}

theorem logMessage_of_isEmpty (h : d.logBufs.isEmpty = true) (pref msg : Str) :
    d.logMessage pref msg = d := if_pos h

/-- With or without buffers, an exchange on an open device logs the message and
what came of it. -/
theorem askOpened_logs {drv : Drv} (hdrv : d.drv = some drv) (env : DriverEnv Drv) (msg : Str) :
    ∃ pref text, exchange msg (d.askOpened env msg).ret = [">> ".toList ++ msg, pref ++ text] ∧
      (d.askOpened env msg).state = (d.logMessage ">> " msg).logMessage pref text := by
  have hask : (d.logMessage ">> " msg).drvAsk env msg =
      ⟨(env.ask drv msg).mapError .err, d.logMessage ">> " msg, [(drv, msg)]⟩ :=
    drvAsk_of_some (by rw [logMessage_drv, hdrv])
  by_cases hempty : d.logBufs.isEmpty = true
  · -- the fast path: `log_message` would have done nothing
    have hquiet : ∀ pref text, (d.logMessage ">> " msg).logMessage pref text = d := by
      intro pref text
      rw [logMessage_of_isEmpty hempty, logMessage_of_isEmpty hempty]
    have hret : d.askOpened env msg = ⟨(env.ask drv msg).mapError .err, d, [(drv, msg)]⟩ := by
      rw [askOpened, if_pos hempty, drvAsk_of_some hdrv]
    rw [hret]
    rcases env.ask drv msg with e | answer
    · exact ⟨"EE ", e.str, rfl, (hquiet ..).symm⟩
    · exact ⟨"<< ", answer, rfl, (hquiet ..).symm⟩
  · rw [askOpened, if_neg hempty, hask]
    rcases env.ask drv msg with e | answer
    · exact ⟨"EE ", e.str, rfl, rfl⟩
    · exact ⟨"<< ", answer, rfl, rfl⟩

end Device

/-- An exchange on an open device puts its two entries into every buffer. -/
theorem Refines.askOpened {d : Device Drv} {v : LogSpec} (h : Refines d v) {drv : Drv}
    (hdrv : d.drv = some drv) (env : DriverEnv Drv) (msg : Str) :
    Refines (d.askOpened env msg).state
      fun c => (v c).map (· ++ exchange msg (d.askOpened env msg).ret) := by
  obtain ⟨pref, text, hexch, hstate⟩ := Device.askOpened_logs hdrv env msg
  rw [hexch, hstate]
  -- two calls of `log_message`, one entry each
  refine ((h.logMessage _ msg).logMessage pref text).congr rfl rfl ?_
  funext c
  rw [Option.map_map]
  exact congrArg (Option.map · (v c)) (funext fun es => by simp)

/-- A request that is no mark and no stop adds its entries. -/
theorem LogSpec.step_of_not {v : LogSpec} {r : DevRequest Drv} (hm : r.act ≠ .logStart ∧
    r.act ≠ .logGet) (hs : r.act ≠ .close ∧ r.act ≠ .logFinish ∧ r.act ≠ .release) (es : List Str) :
    v.step r es = fun c => (v c).map (· ++ es) := by
  funext c
  have hstop : ¬ Stops c r := by rintro (h | ⟨-, h | h⟩); exacts [hs.1 h, hs.2.1 h, hs.2.2 h]
  have hmark : ¬ Marks c r := by rintro ⟨-, h | h⟩; exacts [hm.1 h, hm.2 h]
  rw [LogSpec.step, if_neg hstop, if_neg hmark]

theorem LogSpec.step_quiet {v : LogSpec} {r : DevRequest Drv} (hm : r.act ≠ .logStart ∧
    r.act ≠ .logGet) (hs : r.act ≠ .close ∧ r.act ≠ .logFinish ∧ r.act ≠ .release) :
    v.step r [] = v := by
  rw [LogSpec.step_of_not hm hs]
  funext c
  simp

theorem entries_of_ne_ask {d : Device Drv} {r : DevRequest Drv} (h : r.act ≠ .ask) :
    d.entries r = [] := if_neg fun hr => h hr.1

theorem Device.lock_logs (env : DriverEnv Drv) (conn : ConnId) (d : Device Drv) :
    (d.lock env conn).state.logBufs = d.logBufs ∧
      (d.lock env conn).state.maxLogSize = d.maxLogSize := by
  rw [Device.lock_eq]
  refine Outcome.bind_state
    (P := fun d' : Device Drv => d'.logBufs = d.logBufs ∧ d'.maxLogSize = d.maxLogSize) (by simp) fun _ _ => ?_
  split <;> simp [Outcome.throw, Outcome.done]

theorem Device.unlock_logs (conn : ConnId) (d : Device Drv) :
    (d.unlock conn : Outcome (Device Drv) Drv Unit).state.logBufs = d.logBufs ∧
      (d.unlock conn : Outcome (Device Drv) Drv Unit).state.maxLogSize = d.maxLogSize := by
  rw [Device.unlock]
  split
  · exact ⟨rfl, rfl⟩
  · split <;> exact ⟨rfl, rfl⟩

/-- The limit never changes. -/
theorem Device.next_maxLogSize (d : Device Drv) (r : DevRequest Drv) :
    (d.next r).maxLogSize = d.maxLogSize := by
  obtain ⟨conn, env, act, msg⟩ := r
  cases act with
  | ask =>
    show (d.ask env conn msg).state.maxLogSize = _
    rw [Device.ask_eq]
    refine Outcome.bind_state (P := fun d' : Device Drv => d'.maxLogSize = d.maxLogSize) (by simp)
      fun _ _ => ?_
    rw [(Device.askOpened_frame env msg _).2.2.2, Device.use_maxLogSize]
  | use => simp [Device.next, Device.call, DevAct.call]
  | lock => simpa [Device.next, Device.call, DevAct.call] using (Device.lock_logs env conn d).2
  | unlock => simpa [Device.next, Device.call, DevAct.call] using (Device.unlock_logs conn d).2
  | release => exact Device.release_maxLogSize
  | logGet =>
    show (d.logGet conn : Outcome (Device Drv) Drv Str).state.maxLogSize = _
    rw [Device.logGet]
    split <;> rfl
  | logStart | logFinish | info | close => rfl

/-- Dropping one buffer is dropping one log. -/
theorem Refines.erase {d d' : Device Drv} {v v' : LogSpec} (h : Refines d v) (conn : ConnId)
    (hb : d'.logBufs = d.logBufs.erase conn) (hm : d'.maxLogSize = d.maxLogSize)
    (hv : ∀ c, v' c = if conn = c then none else v c) : Refines d' v' := by
  intro c
  rw [hb, hm, hv c, getElem?_erase_if]
  split
  · rfl
  · exact h c

/-- **Every request keeps the buffers in step with the view.** -/
theorem Refines.next {d : Device Drv} {v : LogSpec} (hwf : d.WellFormed) (h : Refines d v)
    (r : DevRequest Drv) : Refines (d.next r) (v.step r (d.entries r)) := by
  obtain ⟨conn, env, act, msg⟩ := r
  cases act with
  | ask =>
    rw [LogSpec.step_of_not (by simp) (by simp)]
    have hcall : d.call ⟨conn, env, .ask, msg⟩ = (d.use env conn).bind fun _ d' =>
        d'.askOpened env msg := Device.ask_eq env conn msg d
    have huse : Refines (d.use env conn).state v := h.congr (by simp) (by simp) rfl
    rw [Device.next, Device.entries, hcall]
    rcases hret : (d.use env conn).ret with x | ⟨⟩
    · -- the driver has not been reached: no entry
      rw [Outcome.bind_of_error hret]
      refine huse.congr rfl rfl ?_
      funext c
      simp
    · rw [Outcome.bind_of_ok hret]
      have hopen : (d.use env conn).state.drv.isSome = true :=
        hwf.use.usedOpen ⟨conn, Device.use_ok_mem hret⟩
      obtain ⟨drv, hdrv⟩ := Option.isSome_iff_exists.mp hopen
      have hasked : ((d.use env conn).state.askOpened env msg).asked = [(drv, msg)] := by
        rw [(Device.askOpened_ret env msg _).2, Device.drvAsk_of_some hdrv]
      rw [if_pos ⟨rfl, by simp [hasked]⟩]
      exact huse.askOpened hdrv env msg
  | use =>
    rw [entries_of_ne_ask (by simp), LogSpec.step_quiet (by simp) (by simp)]
    exact h.congr (by simp [Device.next, Device.call, DevAct.call])
      (by simp [Device.next, Device.call, DevAct.call]) rfl
  | lock =>
    rw [entries_of_ne_ask (by simp), LogSpec.step_quiet (by simp) (by simp)]
    obtain ⟨hb, hm⟩ := Device.lock_logs env conn d
    exact h.congr (by simpa [Device.next, Device.call, DevAct.call] using hb)
      (by simpa [Device.next, Device.call, DevAct.call] using hm) rfl
  | unlock =>
    rw [entries_of_ne_ask (by simp), LogSpec.step_quiet (by simp) (by simp)]
    obtain ⟨hb, hm⟩ := Device.unlock_logs conn d
    exact h.congr (by simpa [Device.next, Device.call, DevAct.call] using hb)
      (by simpa [Device.next, Device.call, DevAct.call] using hm) rfl
  | info =>
    rw [entries_of_ne_ask (by simp), LogSpec.step_quiet (by simp) (by simp)]
    exact h
  | release =>
    rw [entries_of_ne_ask (by simp)]
    refine h.erase conn Device.release_logBufs Device.release_maxLogSize (fun c => ?_)
    simp [LogSpec.step, Stops, Marks]
  | logFinish =>
    rw [entries_of_ne_ask (by simp)]
    refine h.erase conn rfl rfl (fun c => ?_)
    simp [LogSpec.step, Stops, Marks]
  | logStart =>
    rw [entries_of_ne_ask (by simp)]
    intro c
    rw [Device.next_maxLogSize]
    show (d.logBufs.insert conn [])[c]? = _
    rw [getElem?_insert_if]
    by_cases hc : conn = c
    · simp [LogSpec.step, Stops, Marks, hc]
    · simp [LogSpec.step, Stops, Marks, hc, h c]
  | logGet =>
    rw [entries_of_ne_ask (by simp)]
    intro c
    rw [Device.next_maxLogSize]
    show (d.logGet conn : Outcome (Device Drv) Drv Str).state.logBufs[c]? = _
    have hconn := h conn
    rw [Device.logGet]
    rcases hv : v conn with - | es
    · -- nobody to log for: nothing changes
      rw [hv] at hconn
      rw [hconn]
      by_cases hc : conn = c
      · subst hc
        simpa [LogSpec.step, Stops, Marks, hv, Outcome.throw] using hconn
      · simp [LogSpec.step, Stops, Marks, hc, h c, Outcome.throw]
    · rw [hv] at hconn
      rw [hconn]
      show (d.logBufs.insert conn [])[c]? = _
      rw [getElem?_insert_if]
      by_cases hc : conn = c
      · subst hc
        simp [LogSpec.step, Stops, Marks, hv]
      · simp [LogSpec.step, Stops, Marks, hc, h c]
  | close =>
    rw [entries_of_ne_ask (by simp)]
    intro c
    show (∅ : ExtTreeMap ConnId (List Str))[c]? = _
    simp [LogSpec.step, Stops]

/-! ### The view, in terms of the requests -/

namespace LogSpec

variable {d : Device Drv} {v : LogSpec} {c : ConnId} {r : DevRequest Drv}
  {rs : List (DevRequest Drv)}

theorem after_append (v : LogSpec) (d : Device Drv) (rs rs' : List (DevRequest Drv)) :
    v.after d (rs ++ rs') = (v.after d rs).after (d.after rs) rs' := by
  induction rs generalizing v d with
  | nil => rfl
  | cons r rs ih => exact ih ..

theorem after_snoc (v : LogSpec) (d : Device Drv) (rs : List (DevRequest Drv))
    (r : DevRequest Drv) :
    v.after d (rs ++ [r]) = (v.after d rs).step r ((d.after rs).entries r) := by
  rw [after_append]; rfl

/-- Without marks and stops the log collects what is produced. -/
theorem after_quiet (h : ∀ x ∈ rs, ¬ Marks c x ∧ ¬ Stops c x) :
    v.after d rs c = (v c).map (· ++ d.produced rs) := by
  induction rs generalizing v d with
  | nil => simp [after, Device.produced]
  | cons r rs ih =>
    obtain ⟨hm, hs⟩ := h r List.mem_cons_self
    have hstep : v.step r (d.entries r) c = (v c).map (· ++ d.entries r) := by
      rw [step, if_neg hs, if_neg hm]
    rw [after, ih fun x hx => h x (List.mem_cons_of_mem r hx), hstep, Option.map_map]
    exact congrArg (Option.map · (v c)) (funext fun es => by simp [Device.produced])

/-- After a mark the log is empty, if there is one. -/
theorem step_marks (h : Marks c r) {es l : List Str} (hl : v.step r es c = some l) : l = [] := by
  rw [step] at hl
  split at hl
  · cases hl
  · split at hl
    · exact (Option.some.inj hl).symm
    · obtain ⟨-, -, hl⟩ := Option.map_eq_some_iff.mp hl
      exact hl.symm

/-- Who logs after a request: nobody it stops, and otherwise the caller of
`log_start` and whoever logged before. -/
theorem step_isSome (es : List Str) :
    (v.step r es c).isSome = true ↔
      ¬ Stops c r ∧ (r.conn = c ∧ r.act = .logStart ∨ (v c).isSome = true) := by
  rw [step]
  split
  · rename_i hs; simp [hs]
  · rename_i hs
    split
    · rename_i hm
      by_cases hstart : r.act = .logStart
      · simp [hs, hstart, hm.1]
      · simp [hs, hstart]
    · rename_i hm
      have hstart : ¬ (r.conn = c ∧ r.act = .logStart) := fun h => hm ⟨h.1, .inl h.2⟩
      simp [hs, hstart]

/-- **Who logs**: `c` does exactly when there is a `log_start` of `c` that nothing
has stopped since. -/
theorem after_isSome_iff (d : Device Drv) (rs : List (DevRequest Drv)) (c : ConnId) :
    (LogSpec.after (fun _ => none) d rs c).isSome = true ↔
      ∃ pre r post, rs = pre ++ r :: post ∧ r.conn = c ∧ r.act = .logStart ∧
        ∀ x ∈ post, ¬ Stops c x := by
  induction rs using List.reverseRecOn with
  | nil => simp [after]
  | append_singleton rs x ih =>
    rw [after_snoc, step_isSome, ih]
    constructor
    · rintro ⟨hx, ⟨hc, hact⟩ | ⟨pre, r, post, rfl, hr, hact, hpost⟩⟩
      · exact ⟨rs, x, [], rfl, hc, hact, by simp⟩
      · refine ⟨pre, r, post ++ [x], by simp, hr, hact, fun y hy => ?_⟩
        rcases List.mem_append.mp hy with hy | hy
        · exact hpost y hy
        · rw [List.mem_singleton.mp hy]; exact hx
    · rintro ⟨pre, r, post, heq, hr, hact, hpost⟩
      -- either the last request is the `log_start` itself, or it comes after it
      rcases List.eq_nil_or_concat post with rfl | ⟨post, y, rfl⟩
      · obtain ⟨rfl, hlast⟩ := List.append_inj' heq rfl
        obtain rfl := List.singleton_inj.mp hlast
        refine ⟨?_, .inl ⟨hr, hact⟩⟩
        rintro (h | ⟨-, h | h⟩) <;> rw [hact] at h <;> cases h
      · rw [List.concat_eq_append, ← List.cons_append, ← List.append_assoc] at heq
        obtain ⟨rfl, hlast⟩ := List.append_inj' heq rfl
        obtain rfl := List.singleton_inj.mp hlast
        rw [List.concat_eq_append] at hpost
        exact ⟨hpost x (by simp), .inr ⟨pre, r, post, rfl, hr, hact,
          fun y hy => hpost y (List.mem_append_left _ hy)⟩⟩

/-- Whoever logs has a latest mark. -/
theorem exists_latest_mark (d : Device Drv) (rs : List (DevRequest Drv)) (c : ConnId)
    (h : (LogSpec.after (fun _ => none) d rs c).isSome = true) :
    ∃ pre r post, rs = pre ++ r :: post ∧ Marks c r ∧ ∀ x ∈ post, ¬ Marks c x ∧ ¬ Stops c x := by
  induction rs using List.reverseRecOn with
  | nil => simp [after] at h
  | append_singleton rs x ih =>
    rw [after_snoc, step_isSome] at h
    obtain ⟨hstop, hsome⟩ := h
    by_cases hmark : Marks c x
    · exact ⟨rs, x, [], rfl, hmark, by simp⟩
    · have hbefore : (LogSpec.after (fun _ => none) d rs c).isSome = true := by
        rcases hsome with ⟨hc, hact⟩ | hsome
        · exact absurd ⟨hc, .inl hact⟩ hmark
        · exact hsome
      obtain ⟨pre, r, post, rfl, hr, hpost⟩ := ih hbefore
      refine ⟨pre, r, post ++ [x], by simp, hr, fun y hy => ?_⟩
      rcases List.mem_append.mp hy with hy | hy
      · exact hpost y hy
      · rw [List.mem_singleton.mp hy]; exact ⟨hmark, hstop⟩

/-- **What they see**: everything produced since the latest mark. -/
theorem after_latest_mark (v : LogSpec) (d : Device Drv) {pre post : List (DevRequest Drv)}
    (hr : Marks c r) (hpost : ∀ x ∈ post, ¬ Marks c x ∧ ¬ Stops c x) {l : List Str}
    (hl : v.after d (pre ++ r :: post) c = some l) :
    l = ((d.after pre).next r).produced post := by
  rw [after_append, after, after_quiet hpost] at hl
  obtain ⟨l₀, hl₀, rfl⟩ := Option.map_eq_some_iff.mp hl
  rw [step_marks hr hl₀, List.nil_append]

end LogSpec

/-! ### The results -/

/-- The buffers of a fresh device follow the view over any requests. -/
theorem Refines.after {d : Device Drv} {v : LogSpec} (hwf : d.WellFormed) (h : Refines d v)
    (rs : List (DevRequest Drv)) : Refines (d.after rs) (v.after d rs) := by
  induction rs generalizing d v with
  | nil => exact h
  | cons r rs ih =>
    exact ih (r.act.call_wellFormed r.env r.conn r.msg hwf) (h.next hwf r)

theorem refines_fresh (devName drvName : Str) (drvArgs : Opt) :
    Refines ({ devName, drvName, drvArgs } : Device Drv) fun _ => none := by
  intro c
  simp

theorem flatten_map_nl (es : List Str) : (es.map (· ++ [nl])).flatten = unlines es := by
  rw [unlines, List.flatMap_def]

/-- `use` does not look at the buffers. -/
theorem Device.use_logBufs_irrelevant (env : DriverEnv Drv) (conn : ConnId) (d : Device Drv)
    (bufs : ExtTreeMap ConnId (List Str)) :
    ({ d with logBufs := bufs } : Device Drv).use env conn =
      ⟨(d.use env conn).ret, { (d.use env conn).state with logBufs := bufs },
        (d.use env conn).asked⟩ := by
  unfold Device.use
  dsimp only
  split
  · rfl
  · split
    · rfl
    · split
      · rfl
      · split <;> rfl

/-- The answer or error of `ask` does not depend on the buffers. -/
theorem Device.ask_logBufs_irrelevant (env : DriverEnv Drv) (conn : ConnId) (msg : Str)
    (d : Device Drv) (bufs : ExtTreeMap ConnId (List Str)) :
    (({ d with logBufs := bufs } : Device Drv).ask env conn msg).ret =
      (d.ask env conn msg).ret := by
  rw [Device.ask_eq, Device.ask_eq, Device.use_logBufs_irrelevant]
  rcases hret : (d.use env conn).ret with x | ⟨⟩
  · rw [Outcome.bind_of_error hret, Outcome.bind_of_error rfl]
  · rw [Outcome.bind_of_ok hret, Outcome.bind_of_ok rfl, (Device.askOpened_ret env msg _).1,
      (Device.askOpened_ret env msg _).1]
    unfold Device.drvAsk
    dsimp only
    split <;> rfl

/-- `log_get` gives the entries of the caller's buffer, one line each, and empties
this buffer only. -/
theorem Refines.logGet {d : Device Drv} {v : LogSpec} (h : Refines d v) {c : ConnId} {es : List Str}
    (hv : v c = some es) :
    (d.logGet c : Outcome (Device Drv) Drv Str) =
      .done (unlines (es.rtake d.maxLogSize)) { d with logBufs := d.logBufs.insert c [] } := by
  have hbuf := h c
  rw [hv] at hbuf
  rw [Device.logGet]
  rw [hbuf]
  exact congrArg (Outcome.done · { d with logBufs := d.logBufs.insert c [] })
    (flatten_map_nl (es.rtake d.maxLogSize))

/-- **The log buffers refine the history.**  After any requests to a fresh device:

* a connection has a buffer exactly when one of its `log_start` has not been
  stopped by its `log_finish` or `release` or by anybody's `close`;
* it then has a latest mark (`log_start` or `log_get`), and its buffer holds the
  last 1024 entries produced since, or all if there are fewer, a newline after
  each;
* `log_get` answers with these entries and empties this one buffer; without a
  buffer it fails and changes nothing;
* no answer or error of `ask` depends on the buffers. -/
theorem logs_refine_history (devName drvName : Str) (drvArgs : Opt) (rs : List (DevRequest Drv))
    (c : ConnId) :
    let d₀ : Device Drv := { devName, drvName, drvArgs }
    let d := d₀.after rs
    (c ∈ d.logBufs ↔ ∃ pre r post, rs = pre ++ r :: post ∧ r.conn = c ∧ r.act = .logStart ∧
      ∀ x ∈ post, ¬ Stops c x) ∧
    (c ∈ d.logBufs → ∃ pre r post, rs = pre ++ r :: post ∧ Marks c r ∧
      (∀ x ∈ post, ¬ Marks c x ∧ ¬ Stops c x) ∧
      d.logBufs[c]? = some (((((d₀.after pre).next r).produced post).rtake 1024).map (· ++ [nl])) ∧
      (d.logGet c : Outcome (Device Drv) Drv Str) =
        .done (unlines ((((d₀.after pre).next r).produced post).rtake 1024))
          { d with logBufs := d.logBufs.insert c [] }) ∧
    (c ∉ d.logBufs →
      (d.logGet c : Outcome (Device Drv) Drv Str) = .throw "Logging is off" d) ∧
    ∀ (env : DriverEnv Drv) (conn : ConnId) (msg : Str) (bufs : ExtTreeMap ConnId (List Str)),
      (({ d with logBufs := bufs } : Device Drv).ask env conn msg).ret =
        (d.ask env conn msg).ret := by
  intro d₀ d
  have hrefines : Refines d (LogSpec.after (fun _ => none) d₀ rs) :=
    (refines_fresh devName drvName drvArgs).after (Device.wellFormed_fresh ..) rs
  have hmax : d.maxLogSize = 1024 :=
    Device.after_invariant (P := fun d => d.maxLogSize = 1024)
      (fun d r h => (Device.next_maxLogSize d r).trans h) rfl rs
  have hmem : c ∈ d.logBufs ↔ (LogSpec.after (fun _ => none) d₀ rs c).isSome = true := by
    rw [ExtTreeMap.mem_iff_isSome_getElem?, hrefines c, Option.isSome_map]
  refine ⟨hmem.trans (LogSpec.after_isSome_iff d₀ rs c), fun hc => ?_, fun hc => ?_,
    fun env conn msg bufs => Device.ask_logBufs_irrelevant env conn msg d bufs⟩
  · have hsome := hmem.mp hc
    obtain ⟨pre, r, post, rfl, hr, hpost⟩ := LogSpec.exists_latest_mark d₀ rs c hsome
    obtain ⟨es, hes⟩ := Option.isSome_iff_exists.mp hsome
    have hsince := LogSpec.after_latest_mark _ d₀ hr hpost hes
    refine ⟨pre, r, post, rfl, hr, hpost, ?_, ?_⟩
    · rw [← hsince, hrefines c, hes, hmax]; rfl
    · rw [← hsince, ← hmax]
      exact hrefines.logGet hes
  · have hnone : d.logBufs[c]? = none := ExtTreeMap.getElem?_eq_none hc
    rw [Device.logGet]
    rw [hnone]

end Device2
