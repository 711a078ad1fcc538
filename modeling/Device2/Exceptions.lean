/-
Device2/Exceptions.lean

What can leave a request by an exception.

`ProcessRequest` (`server/http_server.cpp`) catches exceptions of the class `Err` and no
others.  A call of one of `Device`'s methods throws nothing else as long as there is a
driver behind the pointer (`Device.WellFormed`), and so does `DevManager::run` as long
as all its devices are well-formed (`run_throwsErr`): `Outcome.ThrowsErr` is kept by
one call after another and by a choice between two.
-/
import Device2.Server

namespace Device2

open DevManager

variable {Drv : Type}

namespace Outcome

variable {σ α β : Type}

/-- Nothing but an `Err` leaves the call. -/
def ThrowsErr (o : Outcome σ Drv α) : Prop := ∀ x, o.ret = .error x → ∃ e, x = .err e

theorem ThrowsErr.done (a : α) (s : σ) : (Outcome.done a s : Outcome σ Drv α).ThrowsErr :=
  fun _ h => nomatch h

theorem ThrowsErr.throw (text : Str) (s : σ) : (Outcome.throw text s : Outcome σ Drv α).ThrowsErr :=
  fun _ h => ⟨_, (Except.error.inj h).symm⟩

theorem ThrowsErr.ite {P : Prop} [Decidable P] {o o' : Outcome σ Drv α} (h : P → o.ThrowsErr)
    (h' : ¬ P → o'.ThrowsErr) : (if P then o else o').ThrowsErr := by
  split
  · exact h ‹_›
  · exact h' ‹_›

theorem ThrowsErr.bind {o : Outcome σ Drv α} {f : α → σ → Outcome σ Drv β} (ho : o.ThrowsErr)
    (hf : ∀ a, o.ret = .ok a → (f a o.state).ThrowsErr) : (o.bind f).ThrowsErr := by
  intro x hx
  rcases hr : o.ret with y | a
  · rw [bind_of_error hr] at hx
    cases hx
    exact ho x hr
  · rw [bind_of_ok hr] at hx
    exact hf a hr x hx

end Outcome

namespace Device

variable {env : DriverEnv Drv} {conn : ConnId} {msg : Str} {d : Device Drv}

theorem use_throwsErr (env : DriverEnv Drv) (conn : ConnId) (d : Device Drv) :
    (d.use env conn).ThrowsErr := by
  rcases use_cases env conn d with ⟨-, h⟩ | ⟨-, -, h⟩ | ⟨-, -, -, e, h⟩ | ⟨-, -, drv, -, h⟩
  · rw [h]; exact .done _ _
  · rw [h]; exact .throw _ _
  · rw [h]; exact fun x hx => ⟨e, (Except.error.inj hx).symm⟩
  · rw [h]; exact .done _ _

/-- The driver throws an `Err`, if there is one. -/
theorem askOpened_throwsErr (hopen : d.drv.isSome = true) : (d.askOpened env msg).ThrowsErr := by
  obtain ⟨drv, hdrv⟩ := Option.isSome_iff_exists.mp hopen
  intro x hx
  rw [askOpened] at hx
  rcases ha : env.ask drv msg with e | ret <;> split at hx <;>
    simp [drvAsk, hdrv, ha, Except.mapError] at hx
  · exact ⟨e, hx.symm⟩
  · exact ⟨e, hx.symm⟩

theorem WellFormed.ask_throwsErr (h : d.WellFormed) : (d.ask env conn msg).ThrowsErr := by
  rw [ask_eq]
  refine (use_throwsErr env conn d).bind fun _ hok => askOpened_throwsErr ?_
  exact h.use.usedOpen ⟨conn, use_ok_mem hok⟩

theorem lock_throwsErr (env : DriverEnv Drv) (conn : ConnId) (d : Device Drv) :
    (d.lock env conn).ThrowsErr := by
  rw [lock_eq]
  refine (use_throwsErr env conn d).bind fun _ _ => ?_
  split
  · exact .throw _ _
  · exact .done _ _

theorem unlock_throwsErr (conn : ConnId) (d : Device Drv) :
    (d.unlock conn : Outcome (Device Drv) Drv Unit).ThrowsErr := by
  rw [unlock]
  split
  · exact .done _ _
  · split
    · exact .throw _ _
    · exact .done _ _

theorem logGet_throwsErr (conn : ConnId) (d : Device Drv) :
    (d.logGet conn : Outcome (Device Drv) Drv Str).ThrowsErr := by
  rw [logGet]
  split
  · exact .throw _ _
  · exact .done _ _

end Device

namespace DevManager

variable {env : Env Drv} {url act arg msg : Str} {conn : ConnId} {m : DevManager Drv}

theorem DevAct.call_throwsErr (a : DevAct) (env : DriverEnv Drv) (conn : ConnId) (msg : Str)
    {d : Device Drv} (h : d.WellFormed) : (a.call env conn msg d).ThrowsErr := by
  cases a with
  | ask => exact h.ask_throwsErr
  | use => exact (Device.use_throwsErr env conn d).bind fun _ _ => .done _ _
  | lock => exact (Device.lock_throwsErr env conn d).bind fun _ _ => .done _ _
  | unlock => exact (Device.unlock_throwsErr conn d).bind fun _ _ => .done _ _
  | logGet => exact Device.logGet_throwsErr conn d
  | release | logStart | logFinish | info | close => exact .done _ _

theorem onDevice_throwsErr {f : Device Drv → Outcome (Device Drv) Drv Str}
    (h : ∀ d, m.devices[arg]? = some d → (f d).ThrowsErr) : (m.onDevice url arg f).ThrowsErr := by
  rw [onDevice]
  split
  · exact .throw _ _
  · split
    · exact .throw _ _
    · rename_i d hd
      exact h d hd

theorem setConnName_throwsErr (conn : ConnId) (name : Str) (m : DevManager Drv) :
    (m.setConnName conn name).ThrowsErr := by
  rw [setConnName]
  split
  · exact .throw _ _
  · dsimp only
    generalize (if name = [] then '#' :: typeToStr conn else name) = n
    split
    · exact .throw _ _
    · exact .done _ _

theorem readConf_throwsErr (file : ConfFile) (m : DevManager Drv) : (m.readConf file).ThrowsErr := by
  rcases readConf_cases file m with ⟨e, -, hr⟩ | ⟨ret, -, hr⟩
  · rw [hr]; exact fun x hx => ⟨e, (Except.error.inj hx).symm⟩
  · rw [hr]; exact .done _ _

/-- **A request ends with an answer or with an `Err`.** -/
theorem run_throwsErr (h : m.AllDevices Device.WellFormed) (env : Env Drv) (url : Str) (conn : ConnId) :
    (m.run env url conn).ThrowsErr := by
  obtain ⟨act, arg, msg, hurl⟩ := parseUrl_three url
  rw [run_eq hurl]
  by_cases hdev : ∃ a : DevAct, act = a.name
  · obtain ⟨a, rfl⟩ := hdev
    rw [runAction_devAct]
    exact onDevice_throwsErr fun d hd => a.call_throwsErr _ conn msg (h arg d hd)
  · have hne : ∀ a : DevAct, act ≠ a.name := fun a ha => hdev ⟨a, ha⟩
    rw [runAction, if_neg (show ¬ act = "ask".toList from hne .ask),
      if_neg (show ¬ act = "use".toList from hne .use),
      if_neg (show ¬ act = "release".toList from hne .release),
      if_neg (show ¬ act = "lock".toList from hne .lock),
      if_neg (show ¬ act = "unlock".toList from hne .unlock),
      if_neg (show ¬ act = "log_start".toList from hne .logStart),
      if_neg (show ¬ act = "log_finish".toList from hne .logFinish),
      if_neg (show ¬ act = "log_get".toList from hne .logGet),
      if_neg (show ¬ act = "info".toList from hne .info)]
    -- the requests to the manager, in the order of the source
    refine .ite (fun _ => .ite (fun _ => .throw _ _) fun _ => .done _ _) fun _ => ?_
    refine .ite (fun _ => (readConf_throwsErr _ _).bind fun _ _ => .done _ _) fun _ => ?_
    refine .ite (fun hclose => absurd hclose (hne .close)) fun _ => ?_
    refine .ite (fun _ => .done _ _) fun _ => ?_
    refine .ite (fun _ => .ite (fun _ => .throw _ _) fun _ => .done _ _) fun _ => ?_
    refine .ite (fun _ => .ite (fun _ => .throw _ _) fun _ =>
      (setConnName_throwsErr _ _ _).bind fun _ _ => .done _ _) fun _ => ?_
    refine .ite (fun _ => .ite (fun _ => .throw _ _) fun _ => ?_) fun _ => ?_
    · split
      · exact .done _ _
      · exact .done _ _
    refine .ite (fun _ => .ite (fun _ => .throw _ _) fun _ => .done _ _) fun _ => ?_
    refine .ite (fun _ => .ite (fun _ => .throw _ _) fun _ =>
      (setConnName_throwsErr _ _ _).bind fun _ _ => .done _ _) fun _ => ?_
    exact .throw _ _

end DevManager

end Device2
