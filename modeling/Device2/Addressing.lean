/-
Device2/Addressing.lean

From the list of the devices to the devices.

The names of devices are keys of a map, lines of the answer to `list`, and components
of a URL.  What makes these agree is a check in `read_conf`, far away from both: no
name has a blank, a newline, a slash or a backslash (`AllNamed`).  Every state of the
server keeps what the file was checked for, through any requests and reloads; so a
client can cut the list into lines and use each of them as an address
(`list_addresses`).  There is one gap: the check lets the names `.` and `..` pass, and
libcurl takes these out of a URL; such a device is listed and cannot be addressed.
-/
import Device2.ConfRoundTrip
import Device2.DriverSessions
import Device2.RemoteDevice

namespace Device2

open Std StepSystem DevManager Lines

variable {Drv : Type}

namespace DevManager

variable {m : DevManager Drv} {k : Str}

/-- A name a device file can give to a device. -/
def DeviceName (k : Str) : Prop := k ≠ [] ∧ ∀ c ∈ k, c ∉ reservedChars

theorem DeviceName.no_slash (h : DeviceName k) : '/' ∉ k := fun hk => h.2 '/' hk (by decide)

theorem DeviceName.one_line (h : DeviceName k) : nl ∉ k := fun hk => h.2 nl hk (by decide)

/-- The link carries a request for such a name, but for one that is too long and for
the two names with dots. -/
theorem DeviceName.carries {M : UrlDecoder} (L : Link M Drv) (h : DeviceName k)
    (hk : k ≠ ".".toList ∧ k ≠ "..".toList) (a : DevAct) {msg : Str} (hmsg : Component msg)
    (hshort : (requestUrl a.name k msg).length ≤ L.maxUrl) : L.Carries a.name k msg where
  component := by
    have hact : Component a.name := by cases a <;> decide
    have hdev : Component k := ⟨fun hnul => h.2 nul hnul (by decide), hk⟩
    simp [hact, hdev, hmsg]
  act_ok := by cases a <;> decide
  dev_ok := h.no_slash
  msg_nil := fun hnil => absurd hnil h.1
  short := hshort

/-- All devices have such names. -/
def AllNamed (m : DevManager Drv) : Prop := ∀ k ∈ m.devices, DeviceName k

theorem allNamed_of_parseConf {devfile : Str} {file : ConfFile}
    (h : parseConf devfile file = .ok m.devices) : m.AllNamed := by
  obtain ⟨C, hC⟩ := exists_config h
  intro k hk
  exact C.name_ok k (hC ▸ hk)

theorem AllNamed.follows {m' : DevManager Drv} (h : m.AllNamed)
    (hf : ∀ k, ∃ rs, Server.Follows k rs m m') : m'.AllNamed := by
  intro k hk
  obtain ⟨rs, hrs⟩ := hf k
  apply h k
  rw [ExtTreeMap.mem_iff_isSome_getElem?] at hk ⊢
  rwa [hrs, Option.isSome_map] at hk

/-- **A request keeps the names**, and a reload checks the new ones. -/
theorem AllNamed.run (h : m.AllNamed) (env : Env Drv) (url : Str) (conn : ConnId) :
    (m.run env url conn).state.AllNamed := by
  by_cases hload : (∃ arg msg, parseUrl url = some ["reload".toList, arg, msg]) ∧
      (m.run env url conn).ret.isOk
  · obtain ⟨⟨arg, msg, hurl⟩, hok⟩ := hload
    exact allNamed_of_parseConf (Server.devices_of_reload hurl hok)
  · exact h.follows fun k => ⟨_, Server.follows_run fun hurl hok => hload ⟨hurl, hok⟩⟩

end DevManager

theorem Turn.before_allNamed (t : Turn Drv) {m : DevManager Drv} (h : m.AllNamed) :
    (t.before m).AllNamed := by
  obtain ⟨others, env⟩ := t
  induction others generalizing m with
  | nil => exact h
  | cons r rs ih => exact ih (h.run r.2.1 r.2.2 r.1)

/-- In every reachable state the devices have names from a file. -/
theorem Server.Reachable.allNamed {s : Server Drv} (h : s.Reachable) : s.mgr.AllNamed := by
  refine StepSystem.Reachable.invariant (I := fun s => s.mgr.AllNamed) (fun s hs => ?_)
    (fun s e t hs he => ?_) h
  · obtain ⟨devfile, file, rfl⟩ := hs
    rcases readConf_cases file ({ devfile } : DevManager Drv) with ⟨e, -, hr⟩ | ⟨ret, hp, hr⟩
    · show (DevManager.readConf file ({ devfile } : DevManager Drv)).state.AllNamed
      rw [hr]
      intro k hk
      exact absurd hk (by simp)
    · show (DevManager.readConf file ({ devfile } : DevManager Drv)).state.AllNamed
      rw [hr]
      exact allNamed_of_parseConf hp
  · by_cases hrenew : s.Renews e
    · obtain ⟨file, hfile⟩ := Server.devices_of_renews he hrenew
      exact allNamed_of_parseConf hfile
    · exact hs.follows fun k => ⟨_, Server.follows_step he (Server.keepsDevices_of_not_renews hrenew)⟩

/-! ### The list and the devices -/

/-- Lines are found again in their text. -/
theorem completeLines_unlines {ls : List Str} (h : ∀ l ∈ ls, nl ∉ l) :
    completeLines nl (unlines ls) = ls := by
  induction ls with
  | nil => exact completeLines_nil nl
  | cons l ls ih =>
    obtain ⟨hl, hls⟩ := List.forall_mem_cons.mp h
    show completeLines nl (l ++ [nl] ++ unlines ls) = _
    rw [List.append_assoc, List.singleton_append, completeLines_line hl, ih hls]

variable {M : UrlDecoder}

/-- **Every device is listed, and every line of the list is an address.**  Whatever has
happened at the server, and whatever others do before our request comes: the lines of
the answer to `list` are the names of the devices; and a request for one of these names,
answered in time, calls its method on the device with this name, with the message as it
is, and on no other.  Left out are the names and messages that do not get through a URL:
`.`, `..`, a message with a NUL, and what is too long. -/
theorem list_addresses (L : Link M Drv) {s : Server Drv} (hs : s.Reachable) {w : Remote Drv}
    (hw : w.dm = s.mgr) {t : Turn Drv} {ts : List (Turn Drv)} (hts : w.turns = t :: ts) :
    let m := t.before w.dm
    (∃ out, (L.client.get "list" [] [] w).1 = .ok out ∧ completeLines nl out = m.devices.keys) ∧
    ∀ k ∈ m.devices.keys, ∃ d, m.devices[k]? = some d ∧
      (k ≠ ".".toList ∧ k ≠ "..".toList → ∀ (a : DevAct) (msg : Str), Component msg →
        (requestUrl a.name k msg).length ≤ L.maxUrl →
        let o := a.call t.env.toDriverEnv L.conn msg d
        L.client.get a.name k msg w = (clientResult o.ret,
          ⟨{ m with devices := m.devices.insert k o.state }, ts, w.asked ++ o.asked⟩)) := by
  have hnamed : (t.before w.dm).AllNamed := t.before_allNamed (hw ▸ hs.allNamed)
  have hwf := hw ▸ hs.inv.devices
  refine ⟨⟨unlines (t.before w.dm).devices.keys, ?_, ?_⟩, fun k hk => ?_⟩
  · have hlist : L.Carries "list" [] [] :=
      ⟨by decide, by decide, by simp, fun _ => rfl, Nat.le_trans (by decide) L.maxUrl_ge⟩
    rw [L.get_eq hlist hts hwf]
    rfl
  · refine completeLines_unlines fun k hk => (hnamed k ?_).one_line
    exact ExtTreeMap.mem_keys.mp hk
  · have hmem : k ∈ (t.before w.dm).devices := ExtTreeMap.mem_keys.mp hk
    have hname := hnamed k hmem
    obtain ⟨d, hd⟩ := Option.isSome_iff_exists.mp (ExtTreeMap.mem_iff_isSome_getElem?.mp hmem)
    refine ⟨d, hd, fun hdots a msg hmsg hshort => ?_⟩
    rw [L.get_eq (hname.carries L hdots a hmsg hshort) hts hwf, t.request_devAct,
      onDevice_of_getElem? _ hname.1 hd]

theorem list_addresses_test :
    let m := (⟨[], Server.testEnv⟩ : Turn Unit).before testRemote.dm
    (∃ out, (testLink.client.get "list" [] [] testRemote).1 = .ok out ∧
      completeLines nl out = m.devices.keys) ∧
    ∀ k ∈ m.devices.keys, ∃ d, m.devices[k]? = some d ∧
      (k ≠ ".".toList ∧ k ≠ "..".toList → ∀ (a : DevAct) (msg : Str), Component msg →
        (requestUrl a.name k msg).length ≤ testLink.maxUrl →
        let o := a.call Server.testEnv.toDriverEnv 1 msg d
        testLink.client.get a.name k msg testRemote = (clientResult o.ret,
          ⟨{ m with devices := m.devices.insert k o.state }, [⟨[], Server.testEnv⟩],
            testRemote.asked ++ o.asked⟩)) :=
  list_addresses testLink Server.testServer_reachable rfl rfl

end Device2
