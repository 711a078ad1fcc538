/-
Device2/Server.lean

The running server as a transition system: the manager together with the
connections the HTTP server has open (`server/http_server.cpp`, `ConnFunc` and
`ProcessRequest`).  A step is one complete request, the opening or closing of a
connection, or a reading of the device file; the label carries the environment
of the request, so a run ranges over all outcomes of `Driver::create`, of the
drivers' `ask` and of the file.

Every reachable state satisfies `Server.Inv`: all devices are well-formed, and
the connection names are those of the open connections, distinct, and default
names where they start with `#`.
-/
import Device2.DevManager
import Device2.Lib.StepSystem

namespace Device2

open Std StepSystem DevManager

variable {Drv : Type}

/-! ### The transition system -/

/-- The manager and the open connections. -/
structure Server (Drv : Type) where
  mgr : DevManager Drv
  conns : Finset ConnId

/-- What can happen to the server. -/
inductive Event (Drv : Type)
  | connOpen (conn : ConnId)
  | request (conn : ConnId) (env : Env Drv) (url : Str)
  | connClose (conn : ConnId)
  | readConf (file : ConfFile)

namespace Server

/-- One step.  Only a fresh connection opens, only an open one sends requests
and closes. -/
def step (s : Server Drv) : Event Drv → Option (Server Drv)
  | .connOpen conn =>
    if conn ∈ s.conns then none
    else some ⟨(s.mgr.connOpen conn).state, insert conn s.conns⟩
  | .request conn env url =>
    if conn ∈ s.conns then some ⟨(s.mgr.run env url conn).state, s.conns⟩ else none
  | .connClose conn =>
    if conn ∈ s.conns then some ⟨s.mgr.connClose conn, s.conns.erase conn⟩ else none
  | .readConf file => some ⟨(s.mgr.readConf file).state, s.conns⟩

/-- The server after its start: no connections yet. -/
def Init (s : Server Drv) : Prop :=
  ∃ devfile file, s = ⟨DevManager.create devfile file, ∅⟩

/-- A state some run of the server ends in. -/
abbrev Reachable (s : Server Drv) : Prop := StepSystem.Reachable step Init s

end Server

/-! ### What a step preserves of the devices -/

namespace DevManager

variable {env : Env Drv} {url : Str} {conn : ConnId} {m : DevManager Drv}

theorem DevAct.call_wellFormed (a : DevAct) (env : DriverEnv Drv) (conn : ConnId)
    (msg : Str) {d : Device Drv} (h : d.WellFormed) : (a.call env conn msg d).state.WellFormed := by
  cases a with
  | ask => exact h.ask
  | use => simpa [DevAct.call] using h.use
  | release => exact h.release
  | lock => simpa [DevAct.call] using h.lock
  | unlock => simpa [DevAct.call] using h.unlock
  | logGet => exact h.logGet
  | close => exact Device.WellFormed.close d
  | logStart | logFinish | info => exact h.congr rfl rfl rfl

/-- A property of devices that fresh ones have and every method preserves holds
of all devices after a request. -/
theorem AllDevices.run {P : Device Drv → Prop} (h : m.AllDevices P)
    (hcall : ∀ (a : DevAct) msg d, P d → P (a.call env.toDriverEnv conn msg d).state)
    (hfresh : ∀ k d, Fresh k d → P d) : (m.run env url conn).state.AllDevices P := by
  obtain ⟨act, arg, msg, hurl⟩ := parseUrl_three url
  rw [run_eq hurl]
  rcases runAction_cases env url act arg msg conn m with
    ⟨a, -, hr⟩ | ⟨-, hr, -⟩ | ⟨-, -, hr⟩ | ⟨-, -, -, hr⟩ | ⟨-, -, hr⟩ | ⟨-, -, -, hr, -⟩
  · rw [hr]; exact h.onDevice (hcall a msg)
  · rw [hr]; exact h.readConf hfresh _
  · -- a renaming, whether it succeeds or not
    rw [hr, Outcome.bind_done_state, AllDevices, setConnName_devices]
    exact h
  · rw [hr]; exact h
  · rw [hr, Outcome.bind_done_state, AllDevices, setConnName_devices]
    exact h.releaseDevices fun d hd => hcall .release [] d hd
  · rw [hr]; exact h

end DevManager

/-! ### Names -/

/-- The names are those of the open connections, non-empty and distinct, and a
name starts with `#` only if it is its connection's default name. -/
structure NamesOk (names : ExtTreeMap ConnId Str) (conns : Finset ConnId) : Prop where
  named : ∀ c, c ∈ names ↔ c ∈ conns
  distinct : ∀ (c c' : ConnId) (n : Str), names[c]? = some n → names[c']? = some n → c = c'
  nonempty : ∀ (c : ConnId) (n : Str), names[c]? = some n → n ≠ []
  reserved : ∀ (c : ConnId) (n : Str), names[c]? = some n → n.head? = some '#' →
    n = '#' :: typeToStr c

namespace NamesOk

variable {names : ExtTreeMap ConnId Str} {conns : Finset ConnId}

theorem empty : NamesOk ∅ ∅ := ⟨by simp, by simp, by simp, by simp⟩

/-- Storing a name nobody else has. -/
theorem insert (h : NamesOk names conns) {conn : ConnId} {n : Str} (hn : n ≠ [])
    (hres : n.head? = some '#' → n = '#' :: typeToStr conn)
    (hfree : ∀ (c : ConnId) n', names[c]? = some n' → c ≠ conn → n' ≠ n) :
    NamesOk (names.insert conn n) (insert conn conns) := by
  -- a name in the new map is the new one, or was there before and is somebody else's
  have key : ∀ (c : ConnId) (n' : Str), (names.insert conn n)[c]? = some n' →
      c = conn ∧ n' = n ∨ c ≠ conn ∧ names[c]? = some n' := by
    intro c n' hc
    rw [getElem?_insert_if] at hc
    split at hc
    · rename_i he
      exact .inl ⟨he.symm, (Option.some.inj hc).symm⟩
    · rename_i he
      exact .inr ⟨fun h => he h.symm, hc⟩
  refine ⟨fun c => ?_, fun c c' n' hc hc' => ?_, fun c n' hc => ?_, fun c n' hc => ?_⟩
  · rw [mem_insert_iff, Finset.mem_insert, h.named c]
  · rcases key c n' hc with ⟨h₁, h₂⟩ | ⟨h₁, h₂⟩ <;>
      rcases key c' n' hc' with ⟨h₁', h₂'⟩ | ⟨h₁', h₂'⟩
    · rw [h₁, h₁']
    · exact absurd h₂ (hfree c' n' h₂' h₁')
    · exact absurd h₂' (hfree c n' h₂ h₁)
    · exact h.distinct c c' n' h₂ h₂'
  · rcases key c n' hc with ⟨rfl, rfl⟩ | ⟨-, hc⟩
    · exact hn
    · exact h.nonempty c n' hc
  · rcases key c n' hc with ⟨rfl, rfl⟩ | ⟨-, hc⟩
    · exact hres
    · exact h.reserved c n' hc

theorem erase (h : NamesOk names conns) (conn : ConnId) :
    NamesOk (names.erase conn) (conns.erase conn) := by
  have key : ∀ (c : ConnId) (n : Str), (names.erase conn)[c]? = some n → names[c]? = some n := by
    intro c n hc
    rw [getElem?_erase_if] at hc
    split at hc
    · cases hc
    · exact hc
  refine ⟨fun c => ?_, fun c c' n hc hc' => h.distinct c c' n (key c n hc) (key c' n hc'),
    fun c n hc => h.nonempty c n (key c n hc), fun c n hc => h.reserved c n (key c n hc)⟩
  rw [mem_erase_iff, Finset.mem_erase, h.named c]

/-- The default name of a connection can be taken by nobody else. -/
theorem default_free (h : NamesOk names conns) (conn : ConnId) :
    ∀ (c : ConnId) n, names[c]? = some n → c ≠ conn → n ≠ '#' :: typeToStr conn := by
  intro c n hc hne hn
  have hown : n = '#' :: typeToStr c := h.reserved c n hc (by simp [hn])
  rw [hn] at hown
  exact hne (typeToStr_injective (List.cons.inj hown).2).symm

end NamesOk

/-! ### The invariant of the server -/

namespace Server

variable {s t : Server Drv}

/-- What holds in every state of the server between two requests. -/
structure Inv (s : Server Drv) : Prop where
  devices : s.mgr.AllDevices Device.WellFormed
  names : NamesOk s.mgr.connNames s.conns

theorem fresh_wellFormed (k : Str) (d : Device Drv) (h : Fresh k d) : d.WellFormed := by
  obtain ⟨drvName, drvArgs, rfl⟩ := h
  exact Device.wellFormed_fresh ..

theorem init_inv (h : Init s) : s.Inv := by
  obtain ⟨devfile, file, rfl⟩ := h
  have h₀ : ({ devfile } : DevManager Drv).AllDevices Device.WellFormed := by
    simp [AllDevices]
  refine ⟨h₀.readConf fresh_wellFormed file, ?_⟩
  rw [DevManager.create]
  rcases readConf_cases file ({ devfile } : DevManager Drv) with ⟨e, -, hr⟩ | ⟨ret, -, hr⟩ <;>
    rw [hr] <;> exact .empty

/-- `set_conn_name` keeps the names in order. -/
theorem setConnName_names {m : DevManager Drv} {conns : Finset ConnId} {conn : ConnId}
    (h : NamesOk m.connNames conns) (hc : conn ∈ conns) (name : Str) :
    NamesOk (m.setConnName conn name).state.connNames conns := by
  rcases setConnName_cases conn name m with ⟨x, hr⟩ | ⟨n, hn, hres, hfree, hr⟩
  · rw [hr]; exact h
  · rw [hr]
    have := h.insert hn hres hfree
    rwa [Finset.insert_eq_self.mpr hc] at this

/-- A request of an open connection keeps the names in order. -/
theorem run_names {m : DevManager Drv} {conns : Finset ConnId} {conn : ConnId}
    (h : NamesOk m.connNames conns) (hc : conn ∈ conns) (env : Env Drv) (url : Str) :
    NamesOk (m.run env url conn).state.connNames conns := by
  obtain ⟨act, arg, msg, hurl⟩ := parseUrl_three url
  rw [run_eq hurl]
  rcases runAction_cases env url act arg msg conn m with
    ⟨a, -, hr⟩ | ⟨-, hr, -⟩ | ⟨-, -, hr⟩ | ⟨-, -, hmem, hr⟩ | ⟨-, -, hr⟩ | ⟨-, -, -, hr, -⟩
  · rw [hr, onDevice_connNames]; exact h
  · rw [hr]
    rcases readConf_cases env.conf m with ⟨e, -, hc⟩ | ⟨ret, -, hc⟩ <;> rw [hc] <;> exact h
  · rw [hr, Outcome.bind_done_state]
    exact setConnName_names h hc arg
  · -- `get_conn_name` of a connection without a name: an open one has one
    exact absurd ((h.named conn).mpr hc) hmem
  · rw [hr, Outcome.bind_done_state]
    exact setConnName_names (m := m.releaseDevices conn) h hc []
  · rw [hr]; exact h

/-- **Every step keeps the invariant.** -/
theorem step_inv {e : Event Drv} (h : s.Inv) (he : step s e = some t) : t.Inv := by
  cases e with
  | connOpen conn =>
    simp only [step] at he
    split at he
    · cases he
    · cases he
      -- `conn_open` can not fail: nobody else has the default name
      have hname := setConnName_default conn s.mgr (h.names.default_free conn)
      refine ⟨?_, ?_⟩
      · simpa [DevManager.connOpen, AllDevices] using h.devices
      · simp only [DevManager.connOpen, hname, Outcome.done]
        exact h.names.insert (by simp) (by simp) (h.names.default_free conn)
  | request conn env url =>
    simp only [step] at he
    split at he
    · rename_i hc
      cases he
      exact ⟨h.devices.run (fun a msg d hd => a.call_wellFormed _ conn msg hd) fresh_wellFormed,
        run_names h.names hc env url⟩
    · cases he
  | connClose conn =>
    simp only [step] at he
    split at he
    · cases he
      exact ⟨h.devices.releaseDevices fun d hd => hd.release, h.names.erase conn⟩
    · cases he
  | readConf file =>
    cases he
    refine ⟨h.devices.readConf fresh_wellFormed file, ?_⟩
    rcases readConf_cases file s.mgr with ⟨e, -, hr⟩ | ⟨ret, -, hr⟩ <;> rw [hr] <;> exact h.names

theorem Reachable.inv (h : s.Reachable) : s.Inv :=
  StepSystem.Reachable.invariant (fun _ => init_inv) (fun _ _ _ => step_inv) h

/-! ### A small server

Two devices with the driver `test`, which repeats any message sent to it, and
two open connections. -/

/-- `test_data/n2.txt`. -/
def n2Conf : ConfFile :=
  some [⟨1, .ok ["a".toList, "test".toList]⟩,
    ⟨2, .ok ["b".toList, "test".toList, "-a".toList, "b".toList, "-c".toList, "d".toList]⟩]

/-- The driver `test`. -/
def testEnv : Env Unit where
  create := fun _ _ => .ok ()
  ask := fun _ msg => .ok msg
  conf := n2Conf
  tvSec := 0
  tvUsec := 0

/-- The server with `n2.txt` and the connections 1 and 2. -/
def testServer : Server Unit :=
  ⟨(((DevManager.create "n2.txt" n2Conf).connOpen 1).state.connOpen 2).state, {2, 1}⟩

theorem testServer_reachable : testServer.Reachable :=
  ⟨_, [.connOpen 1, .connOpen 2], ⟨"n2.txt", n2Conf, rfl⟩, rfl⟩

end Server

end Device2
