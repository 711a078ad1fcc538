/-
Device2/InfoReport.lean

The report of `info/<device>` (`Device::print`, `server/device.cpp`) against the state
it reports on.

The report says that a device is open when it has users; `release` takes away the
last user and leaves the driver open.  It tells a connection that it uses the device
unless the number of the connection is 0, which stands for no connection there and is
the number of the first one (`cmax`, `server/http_server.cpp`).

`Truthful` is what a report should say, `InfoOk` where it does (`info_truthful_iff`).
A sentence can also be found in a report because the name of a driver or the value of
an option contains it (`Mentions`).
-/
import Device2.Sessions
import Device2.Lib.Lines

namespace Device2

open Std StepSystem DevManager Lines

variable {Drv : Type}

/-! ### The report -/

def openSentence : Str := "Device is open"

def usingSentence : Str := "You are currently using the device"

def lockedSentence : Str := "Device is locked"

namespace Device

/-- The lines on the configuration of the device. -/
def header (d : Device Drv) : Str :=
  "Device: ".toList ++ d.devName ++ [nl]
    ++ "Driver: ".toList ++ d.drvName ++ [nl]
    ++ (if d.drvArgs.size ≠ 0 then "Driver arguments:\n".toList else [])
    ++ d.drvArgs.toList.flatMap (fun o =>
        "  -".toList ++ o.1 ++ ": ".toList ++ o.2 ++ [nl])

/-- A name or an option contains the sentence. -/
def Mentions (sentence : Str) (d : Device Drv) : Prop := sentence <:+: d.header

/-- The report `text` for the connection `conn` tells the truth. -/
structure Truthful (conn : ConnId) (d : Device Drv) (text : Str) : Prop where
  opened : openSentence <:+: text ↔ d.drv.isSome = true
  counted : ∃ state rest, nl ∉ state ∧ text = d.header ++ ("Device is ".toList ++ state ++ [nl])
    ++ ("Number of users: ".toList ++ typeToStr d.users.card ++ [nl]) ++ rest
  used : usingSentence <:+: text ↔ conn ∈ d.users
  locked : lockedSentence <:+: text ↔ d.locked = true

/-- Where a report tells the truth: without users the driver is closed, and connection
0 does not use the device; nor does a sentence come from somewhere else. -/
structure InfoOk (conn : ConnId) (d : Device Drv) : Prop where
  unused : d.users = ∅ → (d.drv.isSome = true ↔ d.Mentions openSentence)
  first : conn = 0 → conn ∈ d.users → d.Mentions usingSentence
  stranger : conn ∉ d.users → ¬ d.Mentions usingSentence
  unlocked : d.locked = false → ¬ d.Mentions lockedSentence

/-! ### Sentences in the report -/

variable {d : Device Drv} {conn : ConnId} {w : Str}

/-- The text ends with a newline. -/
def EndsLine (s : Str) : Prop := ∃ t, s = t ++ [nl]

theorem EndsLine.append {s t : Str} (hs : EndsLine s) (ht : t = [] ∨ EndsLine t) :
    EndsLine (s ++ t) := by
  rcases ht with rfl | ⟨t, rfl⟩
  · rwa [List.append_nil]
  · exact ⟨s ++ t, (List.append_assoc ..).symm⟩

theorem endsLine_flatMap {α : Type} (f : α → Str) (l : List α) :
    l.flatMap (fun x => f x ++ [nl]) = [] ∨ EndsLine (l.flatMap fun x => f x ++ [nl]) := by
  rcases List.eq_nil_or_concat l with rfl | ⟨l, x, rfl⟩
  · exact .inl rfl
  · refine .inr ⟨l.flatMap (fun x => f x ++ [nl]) ++ f x, ?_⟩
    rw [List.concat_eq_append, List.flatMap_append, List.append_assoc]
    simp

theorem endsLine_header (d : Device Drv) : EndsLine d.header := by
  have hargs : (if d.drvArgs.size ≠ 0 then "Driver arguments:\n".toList else []) = [] ∨
      EndsLine (if d.drvArgs.size ≠ 0 then "Driver arguments:\n".toList else []) := by
    split_ifs
    · exact .inr ⟨"Driver arguments:", by decide⟩
    · exact .inl rfl
  have hnames : EndsLine ("Device: ".toList ++ d.devName ++ [nl] ++ "Driver: ".toList ++ d.drvName ++ [nl]) :=
    ⟨_, rfl⟩
  exact (hnames.append hargs).append
    (endsLine_flatMap (fun o : Str × Str => "  -".toList ++ o.1 ++ ": ".toList ++ o.2) _)

/-- The report: the header and up to four lines. -/
theorem print_eq (conn : ConnId) (d : Device Drv) :
    d.print conn = d.header ++ ("Device is ".toList ++
      (if 0 < d.users.card then "open".toList else "closed".toList) ++ nl ::
      ("Number of users: ".toList ++ typeToStr d.users.card ++ nl ::
      ((if conn ≠ 0 ∧ conn ∈ d.users then usingSentence ++ [nl] else []) ++
        (if d.locked then lockedSentence ++ [nl] else [])))) := by
  have hassoc : ∀ h a b c e f g : Str, h ++ a ++ b ++ [nl] ++ c ++ e ++ [nl] ++ f ++ g =
      h ++ (a ++ b ++ nl :: (c ++ e ++ nl :: (f ++ g))) := by simp
  have husing : "You are currently using the device\n".toList = usingSentence ++ [nl] := by decide
  have hlocked : "Device is locked\n".toList = lockedSentence ++ [nl] := by decide
  show d.header ++ "Device is ".toList
    ++ (if 0 < d.users.card then "open".toList else "closed".toList) ++ [nl]
    ++ "Number of users: ".toList ++ typeToStr d.users.card ++ [nl]
    ++ (if conn ≠ 0 ∧ conn ∈ d.users then "You are currently using the device\n".toList else [])
    ++ (if d.locked then "Device is locked\n".toList else []) = _
  rw [husing, hlocked]
  exact hassoc ..

/-- A sentence is in the report if it is in one of its lines. -/
theorem infix_print_iff (hw : nl ∉ w) (hne : w ≠ []) :
    w <:+: d.print conn ↔ d.Mentions w ∨
      w <:+: "Device is ".toList ++ (if 0 < d.users.card then "open".toList else "closed".toList) ∨
      w <:+: "Number of users: ".toList ++ typeToStr d.users.card ∨
      (conn ≠ 0 ∧ conn ∈ d.users) ∧ w <:+: usingSentence ∨ d.locked = true ∧ w <:+: lockedSentence := by
  have hnil : ¬ w <:+: [] := fun h => hne (List.infix_nil.mp h)
  have hheader : ∀ t, w <:+: d.header ++ t ↔ w <:+: d.header ∨ w <:+: t := by
    intro t
    obtain ⟨h, hh⟩ := endsLine_header d
    rw [hh, List.append_assoc]
    show w <:+: h ++ nl :: t ↔ w <:+: h ++ nl :: [] ∨ _
    rw [infix_append_cons_iff hw, infix_append_cons_iff hw, or_iff_left hnil]
  have hline : ∀ (P : Prop) [Decidable P] (sentence t : Str),
      w <:+: (if P then sentence ++ [nl] else []) ++ t ↔ P ∧ w <:+: sentence ∨ w <:+: t := by
    intro P _ sentence t
    split_ifs with hP
    · rw [List.append_assoc, and_iff_right hP]
      exact infix_append_cons_iff hw
    · simp [hP]
  rw [print_eq, hheader, infix_append_cons_iff hw, infix_append_cons_iff hw, hline,
    ← List.append_nil (if d.locked then lockedSentence ++ [nl] else []), hline, or_iff_left hnil]
  rfl

/-- A number has no letters. -/
theorem not_infix_usersLine {c : Char} (hc : c ∈ w) (hdigit : c.isDigit = false)
    (hline : c ∉ "Number of users: ".toList) (n : Nat) :
    ¬ w <:+: "Number of users: ".toList ++ typeToStr n := by
  intro h
  rcases List.mem_append.mp (h.subset hc) with hmem | hmem
  · exact hline hmem
  · have hnum : c ∈ Nat.toDigits 10 n := by
      rw [typeToStr, Nat.repr] at hmem
      simpa using hmem
    rw [Nat.isDigit_of_mem_toDigits (by decide) (by decide) hnum] at hdigit
    cases hdigit

/-! ### When the report is true -/

theorem open_infix_print :
    openSentence <:+: d.print conn ↔ d.Mentions openSentence ∨ d.users.Nonempty := by
  have hnumber := not_infix_usersLine (w := openSentence) (c := 'D') (by decide) (by decide) (by decide)
    d.users.card
  have husing : ¬ openSentence <:+: usingSentence := by decide
  have hlocked : ¬ openSentence <:+: lockedSentence := by decide
  have hstate : openSentence <:+: "Device is ".toList ++
      (if 0 < d.users.card then "open".toList else "closed".toList) ↔ d.users.Nonempty := by
    rw [← Finset.card_pos]
    split_ifs with h
    · exact iff_of_true (by decide) h
    · exact iff_of_false (by decide) h
  rw [infix_print_iff (by decide) (by decide), hstate]
  simp only [hnumber, husing, hlocked, and_false, or_false]

theorem using_infix_print :
    usingSentence <:+: d.print conn ↔ d.Mentions usingSentence ∨ conn ≠ 0 ∧ conn ∈ d.users := by
  have hnumber := not_infix_usersLine (w := usingSentence) (c := 'Y') (by decide) (by decide) (by decide)
    d.users.card
  have hlocked : ¬ usingSentence <:+: lockedSentence := by decide
  have hstate : ¬ usingSentence <:+: "Device is ".toList ++
      (if 0 < d.users.card then "open".toList else "closed".toList) := by
    split_ifs <;> decide
  have hself : usingSentence <:+: usingSentence := List.infix_rfl
  rw [infix_print_iff (by decide) (by decide)]
  simp only [hnumber, hlocked, hstate, hself, and_false, and_true, or_false, false_or]

theorem locked_infix_print :
    lockedSentence <:+: d.print conn ↔ d.Mentions lockedSentence ∨ d.locked = true := by
  have hnumber := not_infix_usersLine (w := lockedSentence) (c := 'D') (by decide) (by decide) (by decide)
    d.users.card
  have husing : ¬ lockedSentence <:+: usingSentence := by decide
  have hstate : ¬ lockedSentence <:+: "Device is ".toList ++
      (if 0 < d.users.card then "open".toList else "closed".toList) := by
    split_ifs <;> decide
  have hself : lockedSentence <:+: lockedSentence := List.infix_rfl
  rw [infix_print_iff (by decide) (by decide)]
  simp only [hnumber, husing, hstate, hself, and_false, and_true, false_or]

/-- The line with the number of users is always right. -/
theorem print_counted (conn : ConnId) (d : Device Drv) :
    ∃ state rest, nl ∉ state ∧ d.print conn = d.header ++ ("Device is ".toList ++ state ++ [nl])
      ++ ("Number of users: ".toList ++ typeToStr d.users.card ++ [nl]) ++ rest := by
  have hassoc : ∀ h a b c e f : Str, h ++ (a ++ b ++ nl :: (c ++ e ++ nl :: f)) =
      h ++ (a ++ b ++ [nl]) ++ (c ++ e ++ [nl]) ++ f := by simp
  refine ⟨if 0 < d.users.card then "open".toList else "closed".toList,
    (if conn ≠ 0 ∧ conn ∈ d.users then usingSentence ++ [nl] else []) ++
      (if d.locked then lockedSentence ++ [nl] else []), ?_, ?_⟩
  · split_ifs <;> decide
  · rw [print_eq]
    exact hassoc ..

theorem WellFormed.truthful_print_iff (h : d.WellFormed) (conn : ConnId) :
    Truthful conn d (d.print conn) ↔ InfoOk conn d := by
  constructor
  · rintro ⟨hopen, -, husing, hlocked⟩
    rw [open_infix_print] at hopen
    rw [using_infix_print] at husing
    rw [locked_infix_print] at hlocked
    refine ⟨fun hempty => ?_, fun hzero hmem => ?_, fun hno hmention => ?_, fun hunlocked hmention => ?_⟩
    · rw [← hopen, hempty]
      simp
    · exact (husing.mpr hmem).resolve_right fun h => h.1 hzero
    · exact hno (husing.mp (.inl hmention))
    · rw [hlocked.mp (.inl hmention)] at hunlocked
      cases hunlocked
  · rintro ⟨hunused, hfirst, hstranger, hunlocked⟩
    refine ⟨?_, print_counted conn d, ?_, ?_⟩
    · rw [open_infix_print]
      rcases Finset.eq_empty_or_nonempty d.users with hempty | hne
      · rw [hunused hempty, hempty]
        simp
      · exact iff_of_true (.inr hne) (h.usedOpen hne)
    · rw [using_infix_print]
      by_cases hmem : conn ∈ d.users
      · by_cases hzero : conn = 0
        · exact iff_of_true (.inl (hfirst hzero hmem)) hmem
        · exact iff_of_true (.inr ⟨hzero, hmem⟩) hmem
      · exact iff_of_false (fun h => h.elim (hstranger hmem) fun h => hmem h.2) hmem
    · rw [locked_infix_print]
      rcases hl : d.locked with - | -
      · simp [hunlocked hl]
      · simp

end Device

/-! ### All reachable states -/

namespace Server

/-- The connections in the order they open. -/
def opened (es : List (Event Drv)) : List ConnId :=
  es.filterMap fun
    | .connOpen conn => some conn
    | _ => none

/-- A state some run ends in that counts its connections: `cmax`. -/
def CountedReachable (s : Server Drv) : Prop :=
  ∃ s₀ es, Init s₀ ∧ run step s₀ es = some s ∧ opened es = List.range (opened es).length

theorem CountedReachable.reachable {s : Server Drv} (h : s.CountedReachable) : s.Reachable := by
  obtain ⟨s₀, es, hs₀, hrun, -⟩ := h
  exact ⟨s₀, es, hs₀, hrun⟩

/-- The answer to `info/<device>`. -/
theorem run_info {s : Server Drv} {k msg url : Str} {d : Device Drv} (hk : k ≠ [])
    (hd : s.mgr.devices[k]? = some d) (hurl : parseUrl url = some ["info".toList, k, msg])
    (conn : ConnId) (env : Env Drv) : (s.mgr.run env url conn).ret = .ok (d.print conn) := by
  have hinfo : parseUrl url = some [DevAct.info.name, k, msg] := hurl
  rw [run_devAct hinfo, onDevice_of_getElem? url hk hd]
  rfl

/-- **When the report is true**, in any state the server can reach: the device is
closed if it has no users, and it is not connection 0 that uses it. -/
theorem info_truthful_iff {s : Server Drv} (hs : s.CountedReachable) {k msg url : Str}
    {d : Device Drv} (hk : k ≠ []) (hd : s.mgr.devices[k]? = some d)
    (hurl : parseUrl url = some ["info".toList, k, msg]) (conn : ConnId) (env : Env Drv) :
    (∃ text, (s.mgr.run env url conn).ret = .ok text ∧ d.Truthful conn text) ↔ d.InfoOk conn := by
  have hwf : d.WellFormed := hs.reachable.inv.devices k d hd
  rw [← hwf.truthful_print_iff, run_info hk hd hurl]
  constructor
  · rintro ⟨text, htext, h⟩
    cases htext
    exact h
  · exact fun h => ⟨_, rfl, h⟩

/-- The server with `n2.txt` and two connections, of which the first one has said
`use/a` and the second one `use/b` and `release/b`. -/
def countedServer : Server Unit :=
  let m := ((DevManager.create "n2.txt" n2Conf).connOpen 0).state
  let m := (m.connOpen 1).state
  let m := (m.run testEnv "/use/a" 0).state
  let m := (m.run testEnv "/use/b" 1).state
  ⟨(m.run testEnv "/release/b" 1).state, {1, 0}⟩

theorem countedServer_reachable : countedServer.CountedReachable :=
  ⟨_, [.connOpen 0, .connOpen 1, .request 0 testEnv "/use/a", .request 1 testEnv "/use/b",
    .request 1 testEnv "/release/b"], ⟨"n2.txt", n2Conf, rfl⟩, rfl, rfl⟩

/-- The device `a`, used by the first connection. -/
def deviceA : Device Unit :=
  { devName := "a", drvName := "test", drvArgs := ∅, drv := some (), users := {0} }

/-- The device `b`, which nobody uses any more. -/
def deviceB : Device Unit :=
  { devName := "b", drvName := "test", drvArgs := (∅ : Opt).insert "a" "b" |>.insert "c" "d",
    drv := some () }

theorem countedServer_a : countedServer.mgr.devices["a".toList]? = some deviceA := by
  decide +kernel

theorem countedServer_b : countedServer.mgr.devices["b".toList]? = some deviceB := by
  decide +kernel

theorem info_second_connection :
    (∃ text, (countedServer.mgr.run testEnv "/info/a" 1).ret = .ok text ∧ deviceA.Truthful 1 text) ↔
      deviceA.InfoOk 1 := by
  have ha : "a".toList ≠ [] := by decide
  have hurl : parseUrl "/info/a" = some ["info".toList, "a".toList, []] := by decide
  exact info_truthful_iff countedServer_reachable ha countedServer_a hurl 1 testEnv

/-- The first connection is not told that it uses `a`, and `b` is said to be closed. -/
theorem info_not_truthful :
    (0 ∈ deviceA.users ∧ ¬ usingSentence <:+: deviceA.print 0 ∧
      ¬ ∃ text, (countedServer.mgr.run testEnv "/info/a" 0).ret = .ok text ∧ deviceA.Truthful 0 text) ∧
    (deviceB.drv.isSome ∧ ¬ openSentence <:+: deviceB.print 0 ∧
      ¬ ∃ text, (countedServer.mgr.run testEnv "/info/b" 0).ret = .ok text ∧ deviceB.Truthful 0 text) := by
  have hb : ¬ openSentence <:+: deviceB.print 0 := by decide +kernel
  have ha : ¬ usingSentence <:+: deviceA.print 0 := by decide +kernel
  have hurlA : parseUrl "/info/a" = some ["info".toList, "a".toList, []] := by decide
  have hurlB : parseUrl "/info/b" = some ["info".toList, "b".toList, []] := by decide
  refine ⟨⟨by decide, ha, ?_⟩, by decide, hb, ?_⟩
  · rintro ⟨text, htext, h⟩
    rw [run_info (by decide) countedServer_a hurlA] at htext
    cases htext
    exact ha (h.used.mpr (by decide))
  · rintro ⟨text, htext, h⟩
    rw [run_info (by decide) countedServer_b hurlB] at htext
    cases htext
    exact hb (h.opened.mpr rfl)

end Server

end Device2
