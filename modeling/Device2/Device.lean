/-
Device2/Device.lean

One device of the server: class `Device` (`server/device.h`,
`server/device.cpp`), method by method.

A method is a function from the device before the call to an `Outcome`: the
value or the exception that leaves the call, the device afterwards, and the
messages passed to the driver on the way.  An exception does not undo what the
method did before it, so the device afterwards is there in both cases.

The driver behind the pointer `drv` is not modelled here.  It is a value of an
arbitrary type `Drv`, and a `DriverEnv` says what `Driver::create` and the
driver's `ask` answer during one request; every result holds for all such
answers.

`Device.WellFormed` is the invariant the whole server rests on: a locked device
has exactly one user, and a device with a user holds an open driver.  The
second half of the file says what each method can do (`use_cases`, `lock_eq`,
...) and derives from it that every method keeps the invariant.
-/
import Device2.Basic
import Device2.Lib.RecentBuffer

namespace Device2

open Std RecentBuffer

/-! ### What a call leaves behind -/

/-- Value or exception, state afterwards, and messages passed to `Driver::ask`. -/
structure Outcome (σ Drv α : Type) where
  ret : Except Exn α
  state : σ
  asked : List (Drv × Str)

namespace Outcome

variable {σ Drv α β : Type}

/-- Return without having done anything else. -/
def done (a : α) (s : σ) : Outcome σ Drv α := ⟨.ok a, s, []⟩

/-- `throw Err() << text`. -/
def throw (text : Str) (s : σ) : Outcome σ Drv α := ⟨throwErr text, s, []⟩

/-- Go on with `f`, unless an exception leaves the first call. -/
def bind (o : Outcome σ Drv α) (f : α → σ → Outcome σ Drv β) : Outcome σ Drv β :=
  match o.ret with
  | .error e => ⟨.error e, o.state, o.asked⟩
  | .ok a => ⟨(f a o.state).ret, (f a o.state).state, o.asked ++ (f a o.state).asked⟩

@[simp] theorem done_bind (a : α) (s : σ) (f : α → σ → Outcome σ Drv β) :
    (done a s).bind f = f a s := by
  simp [done, bind]

theorem bind_of_error {o : Outcome σ Drv α} {f : α → σ → Outcome σ Drv β} {x : Exn}
    (h : o.ret = .error x) : o.bind f = ⟨.error x, o.state, o.asked⟩ := by
  simp [bind, h]

theorem bind_of_ok {o : Outcome σ Drv α} {f : α → σ → Outcome σ Drv β} {a : α}
    (h : o.ret = .ok a) :
    o.bind f = ⟨(f a o.state).ret, (f a o.state).state, o.asked ++ (f a o.state).asked⟩ := by
  simp [bind, h]

/-- What holds of the state after the first call, and after whatever follows its
success, holds after both. -/
theorem bind_state {P : σ → Prop} {o : Outcome σ Drv α} {f : α → σ → Outcome σ Drv β}
    (ho : P o.state) (hf : ∀ a, o.ret = .ok a → P (f a o.state).state) : P (o.bind f).state := by
  rcases hr : o.ret with x | a
  · rw [bind_of_error hr]; exact ho
  · rw [bind_of_ok hr]; exact hf a hr

/-- An answer put after a call changes nothing. -/
theorem bind_done_state (o : Outcome σ Drv α) (f : σ → β) :
    (o.bind fun _ s => done (f s) s).state = o.state :=
  bind_state (P := (· = o.state)) rfl fun _ _ => rfl

end Outcome

/-- What the outside world answers to a device during one request: the result
of `Driver::create` and the result of a driver's `ask`. -/
structure DriverEnv (Drv : Type) where
  create : Str → Opt → Except Err Drv
  ask : Drv → Str → Except Err Str

/-- Class `Device`.  A fresh one is closed, unused, unlocked and not logged. -/
structure Device (Drv : Type) where
  /-- Device driver (non-null if device is in use). -/
  drv : Option Drv := none
  /-- Connections which use the device. -/
  users : Finset ConnId := ∅
  /-- Is the device locked by a single user? -/
  locked : Bool := false
  devName : Str
  drvName : Str
  drvArgs : Opt
  /-- Log buffers: connection -> lines. -/
  logBufs : ExtTreeMap ConnId (List Str) := ∅
  /-- Max number of lines in the log. -/
  maxLogSize : Nat := 1024
  deriving DecidableEq

namespace Device

variable {Drv : Type}

/-! ### The methods -/

/-- `Device::use`. -/
def use (env : DriverEnv Drv) (conn : ConnId) (d : Device Drv) : Outcome (Device Drv) Drv Unit :=
  if conn ∈ d.users then .done () d
  else if d.locked then .throw "device is locked" d
  else match d.drv with
    | some _ => .done () { d with users := insert conn d.users }
    | none =>
      match env.create d.drvName d.drvArgs with
      | .error e => ⟨.error (.err e), d, []⟩
      | .ok drv => .done () { d with drv := some drv, users := insert conn d.users }

/-- `Device::release`. -/
def release (conn : ConnId) (d : Device Drv) : Device Drv :=
  if conn ∈ d.users then
    { d with logBufs := d.logBufs.erase conn, locked := false, users := d.users.erase conn }
  else { d with logBufs := d.logBufs.erase conn }

/-- `Device::close`. -/
def close (d : Device Drv) : Device Drv :=
  { d with logBufs := ∅, users := ∅, locked := false, drv := none }

/-- `if (users.count(conn)==0) use(conn)`, as in `lock` and `ask`. -/
def useIfNeeded (env : DriverEnv Drv) (conn : ConnId) (d : Device Drv) :
    Outcome (Device Drv) Drv Unit :=
  if conn ∈ d.users then .done () d else d.use env conn

/-- `Device::lock`. -/
def lock (env : DriverEnv Drv) (conn : ConnId) (d : Device Drv) : Outcome (Device Drv) Drv Unit :=
  (d.useIfNeeded env conn).bind fun _ d =>
    if d.users.card ≠ 1 then .throw "Can't lock the device: it is in use" d
    else .done () { d with locked := true }

/-- `Device::unlock`. -/
def unlock (conn : ConnId) (d : Device Drv) : Outcome (Device Drv) Drv Unit :=
  if ¬ d.locked then .done () d
  else if conn ∉ d.users then .throw "device is locked by another connection" d
  else .done () { d with locked := false }

/-- `Device::log_start`. -/
def logStart (conn : ConnId) (d : Device Drv) : Device Drv :=
  { d with logBufs := d.logBufs.insert conn [] }

/-- `Device::log_finish`. -/
def logFinish (conn : ConnId) (d : Device Drv) : Device Drv :=
  { d with logBufs := d.logBufs.erase conn }

/-- `Device::log_get`: the loop pops the lines one by one and leaves the empty
buffer in place. -/
def logGet (conn : ConnId) (d : Device Drv) : Outcome (Device Drv) Drv Str :=
  match d.logBufs[conn]? with
  | none => .throw "Logging is off" d
  | some buf => .done buf.flatten { d with logBufs := d.logBufs.insert conn [] }

/-- `Device::log_message`. -/
def logMessage (pref msg : Str) (d : Device Drv) : Device Drv :=
  if d.logBufs.isEmpty then d
  else { d with logBufs := d.logBufs.map fun _ b => popOver d.maxLogSize (b ++ [pref ++ msg ++ [nl]]) }

/-- `drv->ask(msg)`. -/
def drvAsk (env : DriverEnv Drv) (msg : Str) (d : Device Drv) : Outcome (Device Drv) Drv Str :=
  match d.drv with
  | none => ⟨.error .nullDriver, d, []⟩
  | some drv => ⟨(env.ask drv msg).mapError .err, d, [(drv, msg)]⟩

/-- `Device::ask` after the device is open: without log buffers just the answer,
otherwise message, answer and error are logged. -/
def askOpened (env : DriverEnv Drv) (msg : Str) (d : Device Drv) : Outcome (Device Drv) Drv Str :=
  if d.logBufs.isEmpty then d.drvAsk env msg
  else
    -- the log buffers change before the driver is called, and stay changed if it throws
    let o := (d.logMessage ">> " msg).drvAsk env msg
    match o.ret with
    | .ok ret => { o with state := o.state.logMessage "<< " ret }
    | .error (.err e) => { o with state := o.state.logMessage "EE " e.str }
    -- `catch (Err & e)` does not see anything else
    | .error _ => o

/-- `Device::ask`. -/
def ask (env : DriverEnv Drv) (conn : ConnId) (msg : Str) (d : Device Drv) :
    Outcome (Device Drv) Drv Str :=
  (d.useIfNeeded env conn).bind fun _ d => d.askOpened env msg

/-- `Device::print`. -/
def print (conn : ConnId) (d : Device Drv) : Str :=
  "Device: ".toList ++ d.devName ++ [nl]
    ++ "Driver: ".toList ++ d.drvName ++ [nl]
    ++ (if d.drvArgs.size ≠ 0 then "Driver arguments:\n".toList else [])
    ++ d.drvArgs.toList.flatMap (fun o =>
        "  -".toList ++ o.1 ++ ": ".toList ++ o.2 ++ [nl])
    ++ "Device is ".toList ++ (if 0 < d.users.card then "open".toList else "closed".toList) ++ [nl]
    ++ "Number of users: ".toList ++ typeToStr d.users.card ++ [nl]
    ++ (if conn ≠ 0 ∧ conn ∈ d.users then "You are currently using the device\n".toList else [])
    ++ (if d.locked then "Device is locked\n".toList else [])

/-! ### What each method can do -/

variable {env : DriverEnv Drv} {conn : ConnId} {msg : Str} {d : Device Drv}

/-- `use` does nothing for a user, fails on a locked device and when the driver
cannot be opened, and otherwise leaves the device open with one more user. -/
theorem use_cases (env : DriverEnv Drv) (conn : ConnId) (d : Device Drv) :
    (conn ∈ d.users ∧ d.use env conn = .done () d) ∨
    (conn ∉ d.users ∧ d.locked = true ∧ d.use env conn = .throw "device is locked" d) ∨
    (conn ∉ d.users ∧ d.locked = false ∧ d.drv = none ∧
      ∃ e, d.use env conn = ⟨.error (.err e), d, []⟩) ∨
    (conn ∉ d.users ∧ d.locked = false ∧ ∃ drv, (∀ drv', d.drv = some drv' → drv' = drv) ∧
      d.use env conn = .done () { d with drv := some drv, users := insert conn d.users }) := by
  rw [use]
  by_cases hmem : conn ∈ d.users
  · exact .inl ⟨hmem, if_pos hmem⟩
  · rw [if_neg hmem]
    right
    rcases hl : d.locked with - | -
    · right
      rcases hd : d.drv with - | drv
      · rcases hc : env.create d.drvName d.drvArgs with e | drv
        · exact .inl ⟨hmem, rfl, rfl, e, by simp⟩
        · exact .inr ⟨hmem, rfl, drv, by simp, by simp⟩
      · refine .inr ⟨hmem, rfl, drv, by simp, ?_⟩
        simp only [Bool.false_eq_true, if_false]
    · exact .inl ⟨hmem, rfl, by simp⟩

/-- The test in front of `use` is the test `use` starts with. -/
@[simp] theorem useIfNeeded_eq_use : d.useIfNeeded env conn = d.use env conn := by
  by_cases hmem : conn ∈ d.users
  · rw [useIfNeeded, if_pos hmem, use, if_pos hmem]
  · rw [useIfNeeded, if_neg hmem]

@[simp] theorem use_asked : (d.use env conn).asked = [] := by
  rcases use_cases env conn d with ⟨-, h⟩ | ⟨-, -, h⟩ | ⟨-, -, -, e, h⟩ | ⟨-, -, drv, -, h⟩ <;>
    simp [h, Outcome.done, Outcome.throw]

@[simp] theorem use_logBufs : (d.use env conn).state.logBufs = d.logBufs := by
  rcases use_cases env conn d with ⟨-, h⟩ | ⟨-, -, h⟩ | ⟨-, -, -, e, h⟩ | ⟨-, -, drv, -, h⟩ <;>
    simp [h, Outcome.done, Outcome.throw]

@[simp] theorem use_maxLogSize : (d.use env conn).state.maxLogSize = d.maxLogSize := by
  rcases use_cases env conn d with ⟨-, h⟩ | ⟨-, -, h⟩ | ⟨-, -, -, e, h⟩ | ⟨-, -, drv, -, h⟩ <;>
    simp [h, Outcome.done, Outcome.throw]

/-- A failed `use` leaves the device as it was. -/
theorem use_error_state {x : Exn} (h : (d.use env conn).ret = .error x) :
    (d.use env conn).state = d := by
  rcases use_cases env conn d with ⟨-, hu⟩ | ⟨-, -, hu⟩ | ⟨-, -, -, e, hu⟩ | ⟨-, -, drv, -, hu⟩ <;>
    simp_all [Outcome.done, Outcome.throw]

/-- `release` drops the buffer of the connection whether it is a user or not. -/
@[simp] theorem release_logBufs : (d.release conn).logBufs = d.logBufs.erase conn := by
  unfold release; split <;> rfl

@[simp] theorem release_maxLogSize : (d.release conn).maxLogSize = d.maxLogSize := by
  unfold release; split <;> rfl

/-- After a successful `use` the connection is a user of an open device. -/
theorem use_ok_mem (h : (d.use env conn).ret = .ok ()) : conn ∈ (d.use env conn).state.users := by
  rcases use_cases env conn d with ⟨hm, hu⟩ | ⟨-, -, hu⟩ | ⟨-, -, -, e, hu⟩ | ⟨-, -, drv, -, hu⟩
  · simpa [hu, Outcome.done] using hm
  · simp [hu, Outcome.throw, throwErr] at h
  · simp [hu] at h
  · simp [hu, Outcome.done]

/-- `lock` is `use` followed by the count of the users. -/
theorem lock_eq (env : DriverEnv Drv) (conn : ConnId) (d : Device Drv) :
    d.lock env conn = (d.use env conn).bind fun _ d' =>
      if d'.users.card ≠ 1 then .throw "Can't lock the device: it is in use" d'
      else .done () { d' with locked := true } := by
  rw [lock, useIfNeeded_eq_use]

theorem ask_eq (env : DriverEnv Drv) (conn : ConnId) (msg : Str) (d : Device Drv) :
    d.ask env conn msg = (d.use env conn).bind fun _ d' => d'.askOpened env msg := by
  rw [ask, useIfNeeded_eq_use]

/-! Logging touches the log buffers only. -/

@[simp] theorem logMessage_drv (pref : Str) : (d.logMessage pref msg).drv = d.drv := by
  unfold logMessage; split <;> rfl

@[simp] theorem logMessage_users (pref : Str) : (d.logMessage pref msg).users = d.users := by
  unfold logMessage; split <;> rfl

@[simp] theorem logMessage_locked (pref : Str) : (d.logMessage pref msg).locked = d.locked := by
  unfold logMessage; split <;> rfl

@[simp] theorem logMessage_maxLogSize (pref : Str) :
    (d.logMessage pref msg).maxLogSize = d.maxLogSize := by
  unfold logMessage; split <;> rfl

theorem logBufs_getElem?_of_isEmpty (h : d.logBufs.isEmpty = true) (c : ConnId) :
    d.logBufs[c]? = none := by
  rw [ExtTreeMap.isEmpty_iff.mp h]; simp

/-- `log_message` puts the entry into every buffer. -/
theorem logMessage_getElem? (pref msg : Str) (d : Device Drv) (c : ConnId) :
    (d.logMessage pref msg).logBufs[c]? =
      (d.logBufs[c]?).map fun b => popOver d.maxLogSize (b ++ [pref ++ msg ++ [nl]]) := by
  rw [logMessage]
  split
  · rename_i h
    rw [logBufs_getElem?_of_isEmpty h]; rfl
  · simp

@[simp] theorem drvAsk_state : (d.drvAsk env msg).state = d := by
  unfold drvAsk; split <;> rfl

/-- `askOpened` changes the log buffers only. -/
theorem askOpened_frame (env : DriverEnv Drv) (msg : Str) (d : Device Drv) :
    (d.askOpened env msg).state.drv = d.drv ∧ (d.askOpened env msg).state.users = d.users ∧
    (d.askOpened env msg).state.locked = d.locked ∧
    (d.askOpened env msg).state.maxLogSize = d.maxLogSize := by
  rw [askOpened]
  split
  · simp
  · dsimp only
    split <;> simp

/-! ### Well-formed devices -/

/-- The invariant of a device: a locked device has exactly one user, and a
device with a user holds an open driver. -/
structure WellFormed (d : Device Drv) : Prop where
  lockedSole : d.locked = true → d.users.card = 1
  usedOpen : d.users.Nonempty → d.drv.isSome = true

/-- The invariant looks at three fields only. -/
theorem WellFormed.congr {d d' : Device Drv} (h : d.WellFormed) (hu : d'.users = d.users)
    (hl : d'.locked = d.locked) (hd : d'.drv = d.drv) : d'.WellFormed :=
  ⟨by rw [hl, hu]; exact h.lockedSole, by rw [hu, hd]; exact h.usedOpen⟩

theorem wellFormed_fresh (devName drvName : Str) (drvArgs : Opt) :
    ({ devName, drvName, drvArgs } : Device Drv).WellFormed :=
  ⟨by simp, by simp⟩

theorem WellFormed.use (h : d.WellFormed) : (d.use env conn).state.WellFormed := by
  rcases use_cases env conn d with ⟨-, hu⟩ | ⟨-, -, hu⟩ | ⟨-, -, -, e, hu⟩ | ⟨-, hl, drv, -, hu⟩
  · simpa [hu, Outcome.done] using h
  · simpa [hu, Outcome.throw] using h
  · simpa [hu] using h
  · rw [hu]
    exact ⟨by simp [Outcome.done, hl], by simp [Outcome.done]⟩

theorem WellFormed.release (h : d.WellFormed) : (d.release conn).WellFormed := by
  rw [Device.release]
  split
  · exact ⟨by simp, fun ⟨c, hc⟩ => h.usedOpen ⟨c, Finset.mem_of_mem_erase hc⟩⟩
  · exact h.congr rfl rfl rfl

theorem WellFormed.close (d : Device Drv) : d.close.WellFormed :=
  ⟨by simp [Device.close], by simp [Device.close]⟩

theorem WellFormed.lock (h : d.WellFormed) : (d.lock env conn).state.WellFormed := by
  rw [lock_eq]
  have hu : (d.use env conn).state.WellFormed := h.use
  refine Outcome.bind_state hu fun _ _ => ?_
  -- the lock is set exactly when the count that the invariant asks for is right
  by_cases hc : (d.use env conn).state.users.card = 1
  · simp only [hc, ne_eq, not_true_eq_false, if_false, Outcome.done]
    exact ⟨fun _ => hc, hu.usedOpen⟩
  · simpa [hc, Outcome.throw] using hu

theorem WellFormed.unlock (h : d.WellFormed) :
    (d.unlock conn : Outcome (Device Drv) Drv Unit).state.WellFormed := by
  rw [Device.unlock]
  split
  · exact h
  · split
    · exact h
    · exact ⟨by simp [Outcome.done], h.usedOpen⟩

theorem WellFormed.logGet (h : d.WellFormed) :
    (d.logGet conn : Outcome (Device Drv) Drv Str).state.WellFormed := by
  rw [Device.logGet]
  split
  · exact h
  · exact h.congr rfl rfl rfl

theorem WellFormed.ask (h : d.WellFormed) : (d.ask env conn msg).state.WellFormed := by
  rw [ask_eq]
  have hu : (d.use env conn).state.WellFormed := h.use
  refine Outcome.bind_state hu fun _ _ => ?_
  obtain ⟨h₁, h₂, h₃, -⟩ := askOpened_frame env msg (d.use env conn).state
  exact hu.congr h₂ h₃ h₁

/-- **No call through the null pointer.**  On a well-formed device a successful
`use` leaves a driver behind `drv`, so `ask` never ends in `nullDriver`. -/
theorem WellFormed.ask_ne_nullDriver (h : d.WellFormed) :
    (d.ask env conn msg).ret ≠ .error .nullDriver := by
  have hopen : ∀ d' : Device Drv, d'.drv.isSome = true →
      (d'.askOpened env msg).ret ≠ .error .nullDriver := by
    intro d' hd'
    obtain ⟨drv, hdrv⟩ := Option.isSome_iff_exists.mp hd'
    rw [askOpened]
    rcases ha : env.ask drv msg with e | ret <;> split <;>
      simp [drvAsk, hdrv, ha, Except.mapError]
  rw [ask_eq]
  -- `use` found the driver there, threw, or has just opened it
  rcases use_cases env conn d with ⟨hm, hu⟩ | ⟨-, -, hu⟩ | ⟨-, -, -, e, hu⟩ | ⟨-, -, drv, -, hu⟩
  · rw [hu, Outcome.done_bind]
    exact hopen d (h.usedOpen ⟨conn, hm⟩)
  · simp [hu, Outcome.bind, Outcome.throw, throwErr]
  · simp [hu, Outcome.bind]
  · rw [hu, Outcome.done_bind]
    exact hopen _ rfl

end Device

end Device2
