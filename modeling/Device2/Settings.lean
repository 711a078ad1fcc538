/-
Device2/Settings.lean

Where the settings of the two programs come from: the command line
(`modules/getopt/getopt.cpp` around `getopt_long`), the configuration file
(`modules/read_words/read_conf.cpp`) and the defaults (`main` of `server/device_d.cpp`
and of `server/device_c.cpp`).

An option can be spelled in four ways, given many times, and be in the file as well;
a file can have comments and empty lines, quotes and escapes.  What counts is
`effective`: the last value on the command line, or else the last in the file
(`settings_written`).

The options `name` of `device_c` and `test` of `device_d` take no argument.  So the
name of a connection can be asked for but not chosen: it is `1` (`session_name`).
-/
import Device2.AddOpts
import Device2.DriverLeaks
import Device2.Lib.Getopt
import Device2.ReadWords

namespace Device2

open Std Getopt Lines RecordStream

/-! ### The command line -/

/-- The value stored for an option. -/
def optValue (d : OptDef) (optarg : Str) : Str := if d.hasArg then optarg else ['1']

/-- `parse_options`: all options up to the first word that is none, and the words from
there on. -/
def parseOptions (defs : List OptDef) (p : Pos) (opts : Opt) : Except Err (Opt × List Str) :=
  match _h : getoptLong defs p with
  | .stop rest => .ok (opts, rest)
  | .unknown (some c) _ => .error { str := "unknown option: -".toList ++ [c] }
  | .unknown none w => .error { str := "unknown option: ".toList ++ w }
  | .missing w => .error { str := "missing argument: ".toList ++ w }
  | .option d arg q => parseOptions defs q (opts.insert d.name (optValue d arg))
  termination_by p.size
  decreasing_by exact (getoptLong_spec _h).2.1

theorem parseOptions_eq (defs : List OptDef) (p : Pos) (opts : Opt) :
    parseOptions defs p opts =
      match getoptLong defs p with
      | .stop rest => .ok (opts, rest)
      | .unknown (some c) _ => .error { str := "unknown option: -".toList ++ [c] }
      | .unknown none w => .error { str := "unknown option: ".toList ++ w }
      | .missing w => .error { str := "missing argument: ".toList ++ w }
      | .option d arg q => parseOptions defs q (opts.insert d.name (optValue d arg)) := by
  rw [parseOptions]
  split <;> rename_i h <;> rw [h]

/-- Options and what `main` stores for them. -/
def optPairs (vs : List (OptDef × Str)) : List (Str × Str) := vs.map fun v => (v.1.name, optValue v.1 v.2)

/-- The last value of the key. -/
def lastGiven (k : Str) (ps : List (Str × Str)) : Option Str :=
  ps.foldl (fun x p => if p.1 = k then some p.2 else x) none

/-- Values stored one after the other: the last one counts. -/
theorem getElem?_puts (ps : List (Str × Str)) (opts : Opt) (k : Str) :
    (ps.foldl (fun o p => o.insert p.1 p.2) opts)[k]? = (lastGiven k ps).or opts[k]? := by
  have hor : ∀ x : Option Str, ps.foldl (fun x p => if p.1 = k then some p.2 else x) (x.or opts[k]?) =
      (ps.foldl (fun x p => if p.1 = k then some p.2 else x) x).or opts[k]? := by
    induction ps with
    | nil => exact fun x => rfl
    | cons p ps ih =>
      intro x
      rw [List.foldl_cons, List.foldl_cons]
      split_ifs with hp
      · exact ih (some p.2)
      · exact ih x
  have hputs := OptUpdate.value_foldl (ps.map fun p => .put p.1 p.2) opts k
  rw [List.foldl_map, List.foldl_map] at hputs
  exact hputs.trans (hor none)

theorem parseOptions_reads {defs : List OptDef} {p q : Pos} {vs : List (OptDef × Str)}
    (h : Reads defs p vs q) (opts : Opt) :
    parseOptions defs p opts =
      parseOptions defs q ((optPairs vs).foldl (fun o p => o.insert p.1 p.2) opts) := by
  induction h generalizing opts with
  | nil => rfl
  | cons found _ ih =>
    rw [parseOptions_eq, found]
    exact ih _

/-- What `parse_options` leaves is not longer than what it was given. -/
theorem parseOptions_rest_le {defs : List OptDef} {p : Pos} {opts o : Opt} {rest : List Str}
    (h : parseOptions defs p opts = .ok (o, rest)) : (Pos.words rest).size ≤ p.size := by
  induction p, opts using parseOptions.induct defs with
  | case1 p opts rest' hstop =>
    rw [parseOptions_eq, hstop] at h
    cases h
    exact getoptLong_stop_le hstop
  | case2 p opts c w hu => rw [parseOptions_eq, hu] at h; cases h
  | case3 p opts w hu => rw [parseOptions_eq, hu] at h; cases h
  | case4 p opts w hm => rw [parseOptions_eq, hm] at h; cases h
  | case5 p opts d arg q hd ih =>
    rw [parseOptions_eq, hd] at h
    exact (ih h).trans (getoptLong_spec hd).2.1.le

/-- `Opt::put_missing` of all options. -/
def putMissing (opts more : Opt) : Opt :=
  more.toList.foldl (fun o p => (OptUpdate.putMissing p.1 p.2).apply o) opts

/-- The loop of `parse_options_all` over the words that are no options.  What a map
`insert`s is put where nothing is. -/
def parseAllLoop (defs : List OptDef) (ws : List Str) (opts : Opt) (nonOpts : List Str) :
    Except Err (Opt × List Str) :=
  match ws with
  | [] => .ok (opts, nonOpts)
  | w :: ws =>
    match _h : parseOptions defs (.words ws) ∅ with
    | .error e => .error e
    | .ok (o, rest) => parseAllLoop defs rest (putMissing opts o) (nonOpts ++ [w])
  termination_by (Pos.words ws).size
  decreasing_by
    have hle := parseOptions_rest_le _h
    have hsize : (Pos.words (w :: ws)).size = w.length + 1 + (Pos.words ws).size := rfl
    omega

/-- `parse_options_all`. -/
def parseOptionsAll (defs : List OptDef) (args : List Str) : Except Err (Opt × List Str) := do
  let (opts, rest) ← parseOptions defs (.words args) ∅
  parseAllLoop defs rest opts []

/-- An option that is there keeps its value. -/
theorem putMissing_getElem? (opts more : Opt) (k : Str) :
    (putMissing opts more)[k]? = opts[k]?.or more[k]? := by
  have hfirst : ∀ (ps : List (Str × Str)) (x : Option Str),
      ps.foldl (fun x p => (OptUpdate.putMissing p.1 p.2).value k x) x =
        x.or ((ps.find? (·.1 = k)).map Prod.snd) := by
    intro ps
    induction ps with
    | nil => exact fun x => (Option.or_none).symm
    | cons p ps ih =>
      intro x
      rw [List.foldl_cons, ih]
      by_cases hp : p.1 = k
      · rw [OptUpdate.value, if_pos hp, List.find?_cons_of_pos (by simpa using hp)]
        cases x <;> rfl
      · rw [OptUpdate.value, if_neg hp, List.find?_cons_of_neg (by simpa using hp)]
  have hfind : (more.toList.find? (·.1 = k)).map Prod.snd = more[k]? := by
    rcases h : more.toList.find? (·.1 = k) with - | ⟨k', v⟩ <;> rw [h]
    · rcases hv : more[k]? with - | v
      · rfl
      · have hmem := ExtTreeMap.mem_toList_iff_getElem?_eq_some.mpr hv
        simpa using List.find?_eq_none.mp h _ hmem
    · have hk : k' = k := by simpa using List.find?_some h
      have hget := ExtTreeMap.mem_toList_iff_getElem?_eq_some.mp (List.mem_of_find?_eq_some h)
      rw [← hk]
      exact hget.symm
  have hputs := OptUpdate.value_foldl (more.toList.map fun p => .putMissing p.1 p.2) opts k
  rw [List.foldl_map, List.foldl_map] at hputs
  exact hputs.trans ((hfirst _ _).trans (by rw [hfind]))

/-! ### The configuration file -/

/-- The loop body of `read_conf`: one line of the file `fname`. -/
def confOption (known : List Str) (fname : Str) (ret : Opt) (r : ReadWords) : Except Err Opt :=
  let place := fname ++ ":".toList ++ typeToStr r.line ++ ": ".toList
  match r.words with
  | .error e => .error e
  | .ok [k, v] =>
    if k ∈ known then .ok (ret.insert k v)
    else .error { str := place ++ "unknown parameter: ".toList ++ k }
  | .ok _ => .error { str := place ++ "two words expected".toList }

/-- `read_conf`; a file that is not there has no options. -/
def readConf (known : List Str) (fname : Str) : ConfFile → Except Err Opt
  | none => .ok ∅
  | some rs => rs.foldlM (confOption known fname) ∅

/-- The options of a file and their values. -/
def confPairs (lines : List TextLine) : List (Str × Str) :=
  lines.filterMap fun
    | .words [k, v] _ => some (k, v)
    | _ => none

/-- Each line with words names an option the program knows, and its value. -/
def ConfOk (known : List Str) (lines : List TextLine) : Prop :=
  ∀ ws h, TextLine.words ws h ∈ lines → ∃ k v, ws = [k, v] ∧ k ∈ known

/-- **What is read from a file.** -/
theorem readConf_text {known : List Str} {lines : List TextLine} (h : ConfOk known lines)
    (fname : Str) (junk : Char) :
    readConf known fname (some (confLines junk (lines.flatMap TextLine.text))) =
      .ok ((confPairs lines).foldl (fun o p => o.insert p.1 p.2) ∅) := by
  have hwords := confLines_text junk lines
  show (confLines junk (lines.flatMap TextLine.text)).foldlM _ ∅ = _
  generalize confLines junk (lines.flatMap TextLine.text) = rs at hwords ⊢
  generalize (∅ : Opt) = o
  -- the calls go through the lines with words, one each
  induction lines generalizing rs o with
  | nil =>
    obtain rfl := List.map_eq_nil_iff.mp hwords
    rfl
  | cons b lines ih =>
    have hlines : ConfOk known lines := fun ws hne hmem => h ws hne (List.mem_cons_of_mem _ hmem)
    rcases b with ⟨ws, hne⟩ | ⟨indent, hindent, t, ht⟩
    · obtain ⟨k, v, rfl, hk⟩ := h ws hne List.mem_cons_self
      rcases rs with - | ⟨r, rs⟩
      · cases hwords
      · obtain ⟨hr, hrs⟩ := List.cons.inj hwords
        have hr : r.words = .ok [k, v] := hr
        have hline : confOption known fname o r = .ok (o.insert k v) := by
          rw [confOption, hr]
          exact if_pos hk
        rw [List.foldlM_cons, hline]
        exact ih hlines rs hrs _
    · exact ih hlines rs hwords o

/-! ### The programs -/

/-- The options of `device_c`. -/
def deviceCOptions : List OptDef :=
  [⟨"server", true, 's'⟩, ⟨"port", true, 'p'⟩, ⟨"via", true, 'v'⟩, ⟨"via_cmd", true, none⟩,
    ⟨"lock", false, 'l'⟩, ⟨"name", false, 'n'⟩, ⟨"help", false, 'h'⟩, ⟨"pod", false, none⟩]

/-- The options of `device_d`. -/
def deviceDOptions : List OptDef :=
  [⟨"cfgfile", true, 'C'⟩, ⟨"devfile", true, 'D'⟩, ⟨"addr", true, 'a'⟩, ⟨"port", true, 'p'⟩,
    ⟨"dofork", false, 'f'⟩, ⟨"stop", false, 'S'⟩, ⟨"reload", false, 'R'⟩, ⟨"user", true, 'U'⟩,
    ⟨"verbose", true, 'v'⟩, ⟨"logfile", true, 'l'⟩, ⟨"pidfile", true, 'P'⟩, ⟨"test", false, none⟩,
    ⟨"help", false, 'h'⟩, ⟨"pod", false, none⟩]

/-- What `usage` throws, after the help has been printed. -/
def usage : Err := { str := [] }

/-- The help is asked for. -/
def checkHelp (opts : Opt) : Except Err Unit :=
  if "help".toList ∈ opts ∨ "pod".toList ∈ opts then .error usage else .ok ()

/-- Parameters in the file of `device_c`. -/
def deviceCKnown : List Str := ["server", "port", "via", "via_cmd"]

/-- Parameters in the file of `device_d`. -/
def deviceDKnown : List Str := ["addr", "port", "logfile", "pidfile", "devfile", "user", "verbose"]

/-- The options of `device_c`, and its action with the parameters. -/
def deviceCOpts (args : List Str) (file : ConfFile) : Except Err (Opt × List Str) := do
  let (opts, pars) ← parseOptions deviceCOptions (.words args) ∅
  checkHelp opts
  let optsf ← readConf deviceCKnown "/etc/device2/device_c.cfg" file
  return (putMissing opts optsf, pars)

/-- The options of `device_d`; `files` are the configuration files there are. -/
def deviceDOpts (args : List Str) (files : Str → ConfFile) : Except Err Opt := do
  let (opts, nonopt) ← parseOptionsAll deviceDOptions args
  match nonopt with
  | w :: _ => throw { str := "unexpected argument: ".toList ++ w }
  | [] =>
    checkHelp opts
    let cfgfile := optStr opts "cfgfile" "/etc/device2/device_d.cfg"
    let optsf ← readConf deviceDKnown cfgfile (files cfgfile)
    return putMissing opts optsf

/-- The settings of `device_c`. -/
structure ClientSettings where
  srv : Str
  name : Str
  lock : Bool
  via : Bool
  deriving DecidableEq

/-- `main` of `device_c`: the parameters, before a tunnel is made. -/
def clientSettings (R : Readers) (pid : Nat) (opts : Opt) : Except Err ClientSettings := do
  let server := optStr opts "server" "localhost"
  let port ← optGet R.strToInt opts "port" 8082
  return {
    srv := "http://".toList ++ server ++ ":".toList ++ intToStr port
    name := optStr opts "name" ("device_c(".toList ++ typeToStr pid ++ ")".toList)
    lock := decide ("lock".toList ∈ opts)
    via := decide ("via".toList ∈ opts) }

/-- The settings of `device_d`. -/
structure DaemonSettings where
  addr : Str
  port : ℤ
  dofork : Bool
  stop : Bool
  reload : Bool
  verb : ℤ
  logfile : Str
  pidfile : Str
  devfile : Str
  test : Bool
  user : Str
  deriving DecidableEq

/-- `main` of `device_d`: the parameters. -/
def daemonSettings (R : Readers) (opts : Opt) : Except Err DaemonSettings := do
  let addr := optStr opts "addr" "127.0.0.1"
  let port ← optGet R.strToInt opts "port" 8082
  let dofork := decide ("dofork".toList ∈ opts)
  let verb ← optGet R.strToInt opts "verbose" 1
  let logfile := optStr opts "logfile" []
  let test ← optGet R.strToBool opts "test" false
  return {
    addr, port, dofork, verb, test
    stop := decide ("stop".toList ∈ opts)
    reload := decide ("reload".toList ∈ opts)
    pidfile := optStr opts "pidfile" "/var/run/device_d.pid"
    devfile := optStr opts "devfile" "/etc/device2/devices.cfg"
    user := optStr opts "user" []
    -- the default log file
    logfile :=
      if logfile = [] then if dofork then "/var/log/device_d.log" else "-" else logfile }

/-! ### What is written and what counts -/

/-- A written command line is read option by option, up to where the options end. -/
theorem parseOptions_written {defs : List OptDef} (h : WellFormed defs) (is : List (Item defs))
    {tail rest : List Str} (ht : Tail tail rest) (opts : Opt) :
    parseOptions defs (.words (is.flatMap Item.words ++ tail)) opts =
      .ok ((optPairs (is.flatMap Item.values)).foldl (fun o p => o.insert p.1 p.2) opts, rest) := by
  rw [parseOptions_reads (reads_items h is tail), parseOptions_eq, getoptLong_tail ht]

theorem lastGiven_eq_none {k : Str} {ps : List (Str × Str)} (h : ∀ p ∈ ps, p.1 ≠ k) :
    lastGiven k ps = none := by
  induction ps with
  | nil => rfl
  | cons p ps ih =>
    obtain ⟨hp, hps⟩ := List.forall_mem_cons.mp h
    rw [lastGiven, List.foldl_cons, if_neg hp]
    exact ih hps

/-- No help is asked for. -/
def NoHelp {defs : List OptDef} (is : List (Item defs)) : Prop :=
  ∀ v ∈ is.flatMap Item.values, v.1.name ≠ "help".toList ∧ v.1.name ≠ "pod".toList

theorem checkHelp_of_noHelp {defs : List OptDef} {is : List (Item defs)} (h : NoHelp is) :
    checkHelp ((optPairs (is.flatMap Item.values)).foldl (fun o p => o.insert p.1 p.2) ∅) = .ok () := by
  have hnot : ∀ k : Str, (∀ v ∈ is.flatMap Item.values, v.1.name ≠ k) →
      k ∉ (optPairs (is.flatMap Item.values)).foldl (fun (o : Opt) p => o.insert p.1 p.2) ∅ := by
    intro k hk
    apply not_mem_of_getElem?_eq_none
    rw [getElem?_puts, lastGiven_eq_none, ExtTreeMap.getElem?_empty]
    · rfl
    · intro p hp
      obtain ⟨v, hv, rfl⟩ := List.mem_map.mp hp
      exact hk v hv
  rw [checkHelp, if_neg]
  rintro (hmem | hmem)
  · exact hnot _ (fun v hv => (h v hv).1) hmem
  · exact hnot _ (fun v hv => (h v hv).2) hmem

/-- The value that counts: the last one on the command line, or else the last one in the
file. -/
def effective {defs : List OptDef} (k : Str) (is : List (Item defs)) (lines : List TextLine) : Option Str :=
  (lastGiven k (optPairs (is.flatMap Item.values))).or (lastGiven k (confPairs lines))

theorem putMissing_effective {defs : List OptDef} (is : List (Item defs)) (lines : List TextLine) (k : Str) :
    (putMissing ((optPairs (is.flatMap Item.values)).foldl (fun o p => o.insert p.1 p.2) ∅)
      ((confPairs lines).foldl (fun o p => o.insert p.1 p.2) ∅))[k]? = effective k is lines := by
  rw [putMissing_getElem?, getElem?_puts, getElem?_puts, ExtTreeMap.getElem?_empty, Option.or_none,
    Option.or_none]
  rfl

theorem deviceCOptions_wellFormed : WellFormed deviceCOptions := by decide

theorem deviceDOptions_wellFormed : WellFormed deviceDOptions := by decide

/-- The options of `device_d` as they are written. -/
theorem deviceDOpts_written (junk : Char) (is : List (Item deviceDOptions)) (lines : List TextLine)
    {files : Str → ConfFile} (hhelp : NoHelp is) (hconf : ConfOk deviceDKnown lines)
    (hfile : files ((lastGiven "cfgfile" (optPairs (is.flatMap Item.values))).getD
      "/etc/device2/device_d.cfg") = some (confLines junk (lines.flatMap TextLine.text))) :
    deviceDOpts (is.flatMap Item.words) files =
      .ok (putMissing ((optPairs (is.flatMap Item.values)).foldl (fun o p => o.insert p.1 p.2) ∅)
        ((confPairs lines).foldl (fun o p => o.insert p.1 p.2) ∅)) := by
  have hparse := parseOptions_written deviceDOptions_wellFormed is Tail.none ∅
  rw [List.append_nil] at hparse
  have hall : parseOptionsAll deviceDOptions (is.flatMap Item.words) =
      .ok ((optPairs (is.flatMap Item.values)).foldl (fun o p => o.insert p.1 p.2) ∅, []) := by
    rw [parseOptionsAll, hparse]
    show parseAllLoop _ [] _ _ = _
    rw [parseAllLoop]
  have hcfg : optStr ((optPairs (is.flatMap Item.values)).foldl (fun o p => o.insert p.1 p.2) ∅)
      "cfgfile" "/etc/device2/device_d.cfg" =
      (lastGiven "cfgfile" (optPairs (is.flatMap Item.values))).getD "/etc/device2/device_d.cfg" := by
    rw [optStr, getElem?_puts, ExtTreeMap.getElem?_empty, Option.or_none]
  rw [deviceDOpts, hall]
  show (checkHelp _ >>= fun _ => _) = _
  rw [checkHelp_of_noHelp hhelp]
  show (readConf deviceDKnown _ _ >>= fun _ => _) = _
  rw [hcfg, hfile, readConf_text hconf]
  rfl

/-- **Settings as they are written.**  Whichever way the options are spelled, in whatever
order and however often, and whatever the file has between its lines: each option has
its last value on the command line, or else its last value in the file, or none.
`device_c` finds its action and the parameters unchanged behind the options, and
`device_d` reads the file the command line names. -/
theorem settings_written (junk : Char) :
    (∀ (is : List (Item deviceCOptions)) (tail pars : List Str) (lines : List TextLine),
      Tail tail pars → NoHelp is → ConfOk deviceCKnown lines →
      ∃ opts, deviceCOpts (is.flatMap Item.words ++ tail)
          (some (confLines junk (lines.flatMap TextLine.text))) = .ok (opts, pars) ∧
        ∀ k, opts[k]? = effective k is lines) ∧
    ∀ (is : List (Item deviceDOptions)) (lines : List TextLine) (files : Str → ConfFile),
      NoHelp is → ConfOk deviceDKnown lines →
      files ((lastGiven "cfgfile" (optPairs (is.flatMap Item.values))).getD
        "/etc/device2/device_d.cfg") = some (confLines junk (lines.flatMap TextLine.text)) →
      ∃ opts, deviceDOpts (is.flatMap Item.words) files = .ok opts ∧
        ∀ k, opts[k]? = effective k is lines := by
  constructor
  · intro is tail pars lines htail hhelp hconf
    refine ⟨_, ?_, putMissing_effective is lines⟩
    rw [deviceCOpts, parseOptions_written deviceCOptions_wellFormed is htail]
    show (checkHelp _ >>= fun _ => _) = _
    rw [checkHelp_of_noHelp hhelp]
    show (readConf deviceCKnown _ _ >>= fun _ => _) = _
    rw [readConf_text hconf]
    rfl
  · intro is lines files hhelp hconf hfile
    exact ⟨_, deviceDOpts_written junk is lines hhelp hconf hfile, putMissing_effective is lines⟩

/-- `-ls10.0.0.1 --port=80`. -/
def testItems : List (Item deviceCOptions) :=
  [.shortArg [⟨⟨"lock", false, 'l'⟩, 'l', by decide, rfl, rfl⟩] ⟨"server", true, 's'⟩ 's' "10.0.0.1"
      (by decide) rfl rfl (by decide),
    .longEq ⟨"port", true, 'p'⟩ "80" (by decide) rfl]

/-- A comment, and a port in quotes. -/
def testLines : List TextLine :=
  [.blank [] (by simp) (some " ports") (by decide), .words ["port".toList, "8082".toList] (by simp)]

theorem settings_written_test :
    (∃ opts, deviceCOpts ("-ls10.0.0.1".toList :: "--port=80".toList :: ["list".toList])
        (some (confLines nul (testLines.flatMap TextLine.text))) = .ok (opts, ["list".toList]) ∧
      ∀ k, opts[k]? = effective k testItems testLines) ∧
    ∃ opts, deviceDOpts ["-vf".toList] (fun _ => some (confLines nul [])) = .ok opts ∧
      ∀ k : Str, opts[k]? = effective k [(.shortArg [] ⟨"verbose", true, 'v'⟩ 'v' ['f']
        (by decide) rfl rfl (by decide) : Item deviceDOptions)] [] := by
  obtain ⟨hclient, hdaemon⟩ := settings_written nul
  constructor
  · refine hclient testItems ["list".toList] ["list".toList] testLines (.operand _ _ (by decide))
      (by unfold NoHelp; decide) ?_
    intro ws h hmem
    obtain rfl : ws = ["port".toList, "8082".toList] := by simpa [testLines] using hmem
    exact ⟨_, _, rfl, by decide⟩
  · refine hdaemon [.shortArg [] ⟨"verbose", true, 'v'⟩ 'v' ['f'] (by decide) rfl rfl (by decide)] []
      (fun _ => some (confLines nul [])) (by unfold NoHelp; decide) ?_ rfl
    intro ws h hmem
    cases hmem

/-- An option without an argument has the value `1`, or none. -/
theorem parseOptions_flag {defs : List OptDef} {k : Str} (hk : ∀ d ∈ defs, d.name = k → d.hasArg = false)
    {p : Pos} {opts o : Opt} {rest : List Str} (h : parseOptions defs p opts = .ok (o, rest))
    (hopts : Given opts k (· = ['1'])) : Given o k (· = ['1']) := by
  induction p, opts using parseOptions.induct defs with
  | case1 p opts rest' hstop =>
    rw [parseOptions_eq, hstop] at h
    cases h
    exact hopts
  | case2 p opts c w hu => rw [parseOptions_eq, hu] at h; cases h
  | case3 p opts w hu => rw [parseOptions_eq, hu] at h; cases h
  | case4 p opts w hm => rw [parseOptions_eq, hm] at h; cases h
  | case5 p opts d arg q hd ih =>
    rw [parseOptions_eq, hd] at h
    refine ih h fun v hv => ?_
    rw [getElem?_insert_if] at hv
    split at hv
    · rename_i hname
      have hflag := hk d (getoptLong_spec hd).1 hname
      rw [optValue, if_neg (by simp [hflag])] at hv
      exact (Option.some.inj hv).symm
    · exact hopts v hv

theorem confOption_unknown {known : List Str} {k : Str} (hk : k ∉ known) {fname : Str} {ret o : Opt}
    {r : ReadWords} (h : confOption known fname ret r = .ok o) : o[k]? = ret[k]? := by
  rw [confOption] at h
  split at h
  · cases h
  · rename_i key v _
    split at h
    · rename_i hkey
      cases h
      have hne : key ≠ k := fun he => hk (he ▸ hkey)
      rw [getElem?_insert_if, if_neg hne]
    · cases h
  · cases h

/-- A file gives no values but those of parameters the program knows. -/
theorem readConf_unknown {known : List Str} {k : Str} (hk : k ∉ known) {fname : Str} {file : ConfFile}
    {o : Opt} (h : readConf known fname file = .ok o) : o[k]? = none := by
  have hloop : ∀ (rs : List ReadWords) (ret : Opt),
      rs.foldlM (confOption known fname) ret = .ok o → o[k]? = ret[k]? := by
    intro rs
    induction rs with
    | nil => intro ret h; cases h; rfl
    | cons r rs ih =>
      intro ret h
      rw [List.foldlM_cons] at h
      rcases hline : confOption known fname ret r with e | ret'
      · rw [hline] at h; cases h
      · rw [hline] at h
        rw [ih ret' h, confOption_unknown hk hline]
  rcases file with - | rs
  · cases h
    exact ExtTreeMap.getElem?_empty
  · rw [hloop rs ∅ h]
    exact ExtTreeMap.getElem?_empty

/-- The name of a session of `device_c`: no argument is taken for `name`, and the file
has none. -/
theorem deviceC_name (R : Readers) (pid : Nat) {args pars : List Str} {file : ConfFile} {opts : Opt}
    {c : ClientSettings} (hopts : deviceCOpts args file = .ok (opts, pars))
    (hc : clientSettings R pid opts = .ok c) :
    c.name = if "name".toList ∈ opts then ['1'] else "device_c(".toList ++ typeToStr pid ++ ")".toList := by
  have hflag : Given opts "name" (· = ['1']) := by
    obtain ⟨⟨o, pars'⟩, hparse, hrest⟩ := exists_of_bind hopts
    obtain ⟨-, -, hrest⟩ := exists_of_bind hrest
    obtain ⟨optsf, hconf, hrest⟩ := exists_of_bind hrest
    cases hrest
    intro v hv
    rw [putMissing_getElem?, readConf_unknown (by decide) hconf, Option.or_none] at hv
    exact parseOptions_flag (by decide) hparse (fun v hv => by simp at hv) v hv
  obtain ⟨port, -, hrest⟩ := exists_of_bind hc
  cases hrest
  show optStr opts "name" _ = _
  rw [optStr]
  rcases hname : opts["name".toList]? with - | v
  · rw [if_neg (not_mem_of_getElem?_eq_none hname)]
    rfl
  · rw [if_pos (mem_of_getElem?_eq_some hname)]
    exact hflag v hname

end Device2
