/-
Device2/Daemon.lean

The server process: `main` of `device_d` (`server/device_d.cpp`) from the moment
the HTTP server runs and the signal handlers are set.

A handler that throws unwinds into the main loop.  Around it stand two clauses:
`catch(int)`, which ends the loop in the regular way, and further out
`catch(Err)`, which ends the program with an error code.  `StopFunc` throws an
`int`; what leaves `ReloadFunc` is the `Err` of `read_conf`, and it goes past the
first clause.

So a signal with an erroneous device file stops the server, where a `reload`
request with the same file only fails.  `serves_on_iff` is the exact statement
about whole runs.
-/
import Device2.Server

namespace Device2

open Std StepSystem DevManager

variable {Drv : Type}

/-! ### Signals -/

/-- The signals with a handler; a `SIGHUP` comes with the device file it finds. -/
inductive Signal
  | term
  | int
  | quit
  | hup (file : ConfFile)

/-- What a handler throws. -/
inductive Thrown
  | int (n : Int)
  | exn (x : Exn)
  deriving DecidableEq

/-- `StopFunc`. -/
def stopFunc (m : DevManager Drv) : Except Thrown Unit × DevManager Drv := (.error (.int 0), m)

/-- `ReloadFunc`. -/
def reloadFunc (file : ConfFile) (m : DevManager Drv) : Except Thrown Unit × DevManager Drv :=
  let o := m.readConf file
  (o.ret.mapError .exn, o.state)

/-- The handler of a signal. -/
def Signal.handler : Signal → DevManager Drv → Except Thrown Unit × DevManager Drv
  | term | int | quit => stopFunc
  | hup file => reloadFunc file

/-- The return value of `main` after something was thrown into the main loop; `none`
when no clause catches it and the process is aborted. -/
def mainRet : Thrown → Option Int
  -- `catch(int)` around the loop
  | .int _ => some 0
  -- `catch(Err)` around everything
  | .exn (.err e) => some (if e.code = -1 then 1 else e.code)
  | .exn _ => none

/-! ### The process -/

/-- In the main loop, or left with a return value. -/
inductive Phase
  | serving
  | exited (ret : Option Int)
  deriving DecidableEq

/-- The process. -/
structure Daemon (Drv : Type) where
  phase : Phase
  server : Server Drv

/-- A signal, or something a client does. -/
inductive DaemonEvent (Drv : Type)
  | signal (sig : Signal)
  | client (e : Event Drv)

namespace Daemon

/-- One step of a process in its main loop.  When the loop is left, the HTTP server
closes its connections and the manager its devices.  The device file is read
for a signal or a request, never on its own. -/
def step (s : Daemon Drv) (e : DaemonEvent Drv) : Option (Daemon Drv) :=
  match s.phase with
  | .exited _ => none
  | .serving =>
    match e with
    | .signal sig =>
      match sig.handler s.server.mgr with
      | (.ok (), m) => some ⟨.serving, ⟨m, s.server.conns⟩⟩
      | (.error x, m) => some ⟨.exited (mainRet x), ⟨m.destroy, ∅⟩⟩
    | .client (.readConf _) => none
    | .client e => (s.server.step e).map (⟨.serving, ·⟩)

/-- The signals that are there to stop the server. -/
def StopsServer : DaemonEvent Drv → Prop
  | .signal (.hup _) => False
  | .signal _ => True
  | .client _ => False

/-- The event reads the device file, by a signal or by a request. -/
def Reads (file : ConfFile) : DaemonEvent Drv → Prop
  | .signal (.hup f) => f = file
  | .client (.request _ env url) =>
    (∃ arg msg, parseUrl url = some ["reload".toList, arg, msg]) ∧ env.conf = file
  | _ => False

/-- The device map after the file has been read: the map of a valid file, the old
map if there is an error. -/
def reloaded (m : DevManager Drv) (file : ConfFile) : ExtTreeMap Str (Device Drv) :=
  match parseConf m.devfile file with
  | .ok ret => ret
  | .error _ => m.devices

/-- The step keeps the server serving, unless it is there to stop it, and handles
the device file as a `reload` request does. -/
def ServesOn (s : Daemon Drv) (e : DaemonEvent Drv) (t : Daemon Drv) : Prop :=
  StopsServer e ∨
    t.phase = .serving ∧ ∀ file, Reads file e → t.server.mgr.devices = reloaded s.server.mgr file

/-- A `SIGHUP` finds a valid device file. -/
def HupValid (s : Daemon Drv) (e : DaemonEvent Drv) (_ : Daemon Drv) : Prop :=
  ∀ file, e = .signal (.hup file) →
    ∃ ret : ExtTreeMap Str (Device Drv), parseConf s.server.mgr.devfile file = .ok ret

/-! ### One step -/

theorem readConf_devices (file : ConfFile) (m : DevManager Drv) :
    (m.readConf file).state.devices = reloaded m file := by
  rw [reloaded]
  rcases readConf_cases file m with ⟨e, hp, hr⟩ | ⟨ret, hp, hr⟩
  · rw [hr, hp]
  · rw [hr, hp]; rfl

/-- A `reload` request installs the map of the file or leaves the map alone. -/
theorem run_reload_devices {m : DevManager Drv} {env : Env Drv} {url arg msg : Str} {conn : ConnId}
    (hurl : parseUrl url = some ["reload".toList, arg, msg]) :
    (m.run env url conn).state.devices = reloaded m env.conf := by
  -- what follows `read_conf` only writes the answer
  rw [run_eq hurl, ← readConf_devices]
  show ((m.readConf env.conf).bind fun _ m => .done _ m).state.devices = _
  rw [Outcome.bind_done_state (m.readConf env.conf)]

/-- A client never stops the server. -/
theorem servesOn_client {s t : Daemon Drv} {e : Event Drv}
    (he : s.step (.client e) = some t) : ServesOn s (.client e) t := by
  right
  unfold step at he
  rcases hp : s.phase with - | ret
  · rw [hp] at he
    cases e with
    | readConf file => cases he
    | connOpen conn | connClose conn =>
      obtain ⟨s', -, rfl⟩ := Option.map_eq_some_iff.mp he
      exact ⟨rfl, fun file hfile => hfile.elim⟩
    | request conn env url =>
      obtain ⟨s', hs', rfl⟩ := Option.map_eq_some_iff.mp he
      refine ⟨rfl, ?_⟩
      rintro file ⟨⟨arg, msg, hurl⟩, rfl⟩
      simp only [Server.step] at hs'
      split at hs'
      · cases hs'
        exact run_reload_devices hurl
      · cases hs'
  · rw [hp] at he; cases he

/-- A `SIGHUP` with a valid file does what a `reload` request does; with an
erroneous one it ends the program. -/
theorem step_hup {s t : Daemon Drv} {file : ConfFile}
    (he : s.step (.signal (.hup file)) = some t) :
    (∃ ret, parseConf s.server.mgr.devfile file = .ok ret ∧ t.phase = .serving ∧
      t.server.mgr.devices = ret) ∨
    (∃ e, parseConf s.server.mgr.devfile file =
        (.error e : Except Err (ExtTreeMap Str (Device Drv))) ∧
      t.phase = .exited (some (if e.code = -1 then 1 else e.code))) := by
  rw [step] at he
  rcases hp : s.phase with - | ret
  · rw [hp] at he
    simp only [Signal.handler, reloadFunc] at he
    rcases readConf_cases file s.server.mgr with ⟨e, hparse, hr⟩ | ⟨ret, hparse, hr⟩
    · rw [hr] at he
      cases he
      exact .inr ⟨e, hparse, rfl⟩
    · rw [hr] at he
      cases he
      exact .inl ⟨ret, hparse, rfl, rfl⟩
  · rw [hp] at he; cases he

/-- **One step**: it serves on if and only if it is not a `SIGHUP` that finds an
erroneous file. -/
theorem servesOn_iff {s t : Daemon Drv} {e : DaemonEvent Drv} (he : s.step e = some t) :
    ServesOn s e t ↔ HupValid s e t := by
  cases e with
  | client e => exact ⟨fun _ file hfile => (by cases hfile), fun _ => servesOn_client he⟩
  | signal sig =>
    cases sig with
    | term | int | quit => exact ⟨fun _ file hfile => (by cases hfile), fun _ => .inl trivial⟩
    | hup file =>
      rcases step_hup he with ⟨ret, hparse, hphase, hdevices⟩ | ⟨e, hparse, hphase⟩
      · refine ⟨fun _ f hf => ?_, fun _ => .inr ⟨hphase, ?_⟩⟩
        · cases hf; exact ⟨ret, hparse⟩
        · rintro f rfl
          rw [hdevices, reloaded, hparse]
      · -- the `Err` has gone past `catch(int)`: the process has left its loop
        refine ⟨?_, fun hvalid => ?_⟩
        · rintro (hstop | ⟨hserving, -⟩)
          · exact hstop.elim
          · rw [hphase] at hserving; cases hserving
        · obtain ⟨ret, hret⟩ := hvalid file rfl
          rw [hret] at hparse; cases hparse

/-! ### Runs -/

/-- **A reload by a signal is as safe as one by a client, exactly as long as the
file is valid.**  Over any run of signals and requests, the server serves on up
to the first signal that is there to stop it, and every reading of the device
file installs the map of a valid file and leaves the map alone otherwise, if and
only if every `SIGHUP` finds a valid file. -/
theorem serves_on_iff (s : Daemon Drv) (es : List (DaemonEvent Drv)) :
    Along step ServesOn s es ↔ Along step HupValid s es := by
  have hstep : ∀ (s : Daemon Drv) (e : DaemonEvent Drv) (t : Daemon Drv), True →
      step s e = some t → (ServesOn s e t ↔ HupValid s e t) :=
    fun _ _ _ _ he => servesOn_iff he
  exact along_iff hstep (fun _ _ _ _ _ _ => trivial) trivial

/-- A `SIGHUP` while the device file can not be opened ends the server with the
exit code 1. -/
theorem hup_with_bad_file_exits :
    (¬ ∀ (s : Daemon Unit) (es : List (DaemonEvent Unit)), s.phase = .serving →
      s.server.Reachable → Along step ServesOn s es) ∧
    ((⟨.serving, Server.testServer⟩ : Daemon Unit).step (.signal (.hup none))).map (·.phase) =
      some (.exited (some 1)) := by
  refine ⟨fun h => ?_, rfl⟩
  have hrun := h ⟨.serving, Server.testServer⟩ [.signal (.hup none)] rfl Server.testServer_reachable
  obtain ⟨hstop | ⟨hserving, -⟩, -⟩ := hrun _ rfl
  · exact hstop.elim
  · cases hserving

end Daemon

end Device2
