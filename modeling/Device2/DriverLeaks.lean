/-
Device2/DriverLeaks.lean

When the constructors of the drivers leak a descriptor.

A destructor does not run for an object whose constructor has thrown, so what has
been opened stays open unless the constructor closes it.  Only the one of
`Driver_gpib` does.  In those of `Driver_serial` and `Driver_usbtmc` every check
behind the open device leaks it (`SerialOk`, `UsbtmcOk` are these checks), and
`Driver_net` leaks a socket for each address that does not connect, and the connected
one if an option behind the loop is wrong.

So an attempt to open a device leaves nothing behind exactly if it is tidy
(`Attempt.Tidy`), and any number of attempts do exactly if all of them are
(`open_noLeak_iff`).
-/
import Device2.DriverOpen

namespace Device2

open Resources

variable {H : Type} [DecidableEq H] {R : Readers} {opts : Opt} {errpref : Str}

/-! ### Which checks are passed -/

section Checks
variable {α β : Type}

theorem bind_ok_iff {x : Except Err α} {f : α → Except Err β} :
    (∃ b, (x >>= f) = .ok b) ↔ ∃ a, x = .ok a ∧ ∃ b, f a = .ok b := by
  rcases x with e | a
  · exact iff_of_false (by rintro ⟨b, hb⟩; cases hb) (by rintro ⟨a, ha, -⟩; cases ha)
  · exact ⟨fun h => ⟨a, rfl, h⟩, by rintro ⟨a', ha, h⟩; cases ha; exact h⟩

theorem exists_of_bind {x : Except Err α} {f : α → Except Err β} {b : β} (h : (x >>= f) = .ok b) :
    ∃ a, x = .ok a ∧ f a = .ok b := by
  rcases x with e | a
  · cases h
  · exact ⟨a, rfl, h⟩

/-- What comes next does not look at the value. -/
theorem bind_ok_iff_of_const {x : Except Err α} {f : α → Except Err β} {P : Prop}
    (hf : ∀ a, (∃ b, f a = .ok b) ↔ P) :
    (∃ b, (x >>= f) = .ok b) ↔ (∃ a, x = .ok a) ∧ P := by
  rw [bind_ok_iff]
  simp only [hf]
  exact ⟨fun ⟨a, ha, hP⟩ => ⟨⟨a, ha⟩, hP⟩, fun ⟨⟨a, ha⟩, hP⟩ => ⟨a, ha, hP⟩⟩

theorem unit_ok_iff {x : Except Err Unit} : (∃ a, x = .ok a) ↔ x = .ok () :=
  ⟨fun ⟨_, h⟩ => h, fun h => ⟨(), h⟩⟩

theorem andThen_ok_iff {x : Except Err Unit} {y : Except Err β} {b : β} :
    (x >>= fun _ => y) = .ok b ↔ x = .ok () ∧ y = .ok b := by
  rcases x with e | a
  · exact iff_of_false (by intro h; cases h) (by rintro ⟨h, -⟩; cases h)
  · exact ⟨fun h => ⟨rfl, h⟩, fun h => h.2⟩

@[simp] theorem throwText_ne_ok {text : Str} {b : β} : throwText text ≠ .ok b := by
  intro h
  cases h

/-- A check that throws on `p`. -/
theorem unless_ok_iff {p : Prop} [Decidable p] {text : Str} {b : β} :
    (∃ c, (if p then throwText text else .ok b) = .ok c) ↔ ¬ p := by
  split_ifs with hp
  · exact iff_of_false (by rintro ⟨c, hc⟩; cases hc) (not_not.mpr hp)
  · exact iff_of_true ⟨b, rfl⟩ hp

theorem checkCall_ok_iff {call : Option Str} {what : Str} :
    checkCall call what = .ok () ↔ call = none := by
  cases call <;> simp [checkCall]

end Checks

/-- A check of an option that is made if the option is given. -/
theorem ifGiven_ok_iff {α : Type} {parse : Str → Except Err α} {key : Str} {dflt : α}
    {test : α → Except Err Unit} :
    (if key ∈ opts then optGet parse opts key dflt >>= test else .ok ()) = .ok () ↔
      Given opts key fun v => ∃ a, parse v = .ok a ∧ test a = .ok () := by
  rw [optGet, Given]
  rcases e : opts[key]? with - | v
  · rw [if_neg (not_mem_of_getElem?_eq_none e)]
    simp
  · rw [if_pos (mem_of_getElem?_eq_some e)]
    simp only [Option.some.injEq, forall_eq', ← unit_ok_iff]
    rw [bind_ok_iff]

/-- The value is a truth value. -/
def IsBool (R : Readers) (v : Str) : Prop := ∃ b, R.strToBool v = .ok b

/-- The value is a number. -/
def IsReal (R : Readers) (v : Str) : Prop := ∃ q, R.strToDouble v = .ok q

/-- The values of `-read_cond`. -/
def readConds : List Str := ["always", "never", "qmark", "qmark1w"]

theorem strToReadCond_ok_iff {v : Str} : (∃ c, strToReadCond v = .ok c) ↔ v ∈ readConds := by
  rw [strToReadCond, readConds]
  split_ifs <;> simp_all

theorem readCond_ok_iff (dflt : Str) (h : dflt ∈ readConds) :
    (∃ c, strToReadCond (optStr opts "read_cond" dflt) = .ok c) ↔
      Given opts "read_cond" (· ∈ readConds) := by
  rw [strToReadCond_ok_iff]
  rw [optStr, Given]
  rcases e : opts["read_cond".toList]? with - | v
  · simpa using h
  · simp

/-! ### The serial driver -/

theorem setOpt_ok_iff {oname : Str} :
    setOpt R opts oname = .ok () ↔ Given opts oname (IsBool R) := by
  rw [setOpt, ifGiven_ok_iff]
  exact forall₂_congr fun v _ => exists_congr fun b => and_iff_left rfl

theorem setOpts_ok_iff {onames : List Str} :
    setOpts R opts onames = .ok () ↔ ∀ oname ∈ onames, Given opts oname (IsBool R) := by
  induction onames with
  | nil => exact iff_of_true rfl fun oname h => absurd h List.not_mem_nil
  | cons oname onames ih =>
    rw [setOpts, andThen_ok_iff, setOpt_ok_iff, ih, List.forall_mem_cons]

/-- The value of an option with a baud rate. -/
def IsBaud (R : Readers) (v : Str) : Prop := ∃ b, R.strToInt v = .ok b ∧ b ∈ baudRates

theorem setSpeed_ok_iff {oname : Str} :
    setSpeed R opts errpref oname = .ok () ↔ Given opts oname (IsBaud R) := by
  rw [setSpeed, ifGiven_ok_iff]
  refine forall₂_congr fun v _ => exists_congr fun b => and_congr_right fun _ => ?_
  split_ifs with hb <;> simp [hb]

/-- The value of an option with a number between `lo` and `hi`. -/
def IsIntIn (R : Readers) (lo hi : ℤ) (v : Str) : Prop :=
  ∃ n, R.strToInt v = .ok n ∧ lo ≤ n ∧ n ≤ hi

theorem setChoice_ok_iff {c : IntChoice} :
    setChoice R opts errpref c = .ok () ↔ Given opts c.oname (IsIntIn R c.lo c.hi) := by
  rw [setChoice, ifGiven_ok_iff]
  refine forall₂_congr fun v _ => exists_congr fun n => and_congr_right fun _ => ?_
  split_ifs with hn <;> simp [hn]

theorem setParity_ok_iff :
    setParity opts errpref = .ok () ↔ Given opts "parity" (· ∈ parities) := by
  rw [setParity, Given]
  rcases e : opts["parity".toList]? with - | v
  · rw [if_neg (not_mem_of_getElem?_eq_none e)]
    simp
  · have hpar : optStr opts "parity" "8N1" = v := by rw [optStr, e, Option.getD_some]
    rw [if_pos (mem_of_getElem?_eq_some e)]
    simp only [hpar, Option.some.injEq, forall_eq']
    split_ifs with hv <;> simp [hv]

theorem setTimeout_ok_iff :
    setTimeout R opts errpref = .ok () ↔
      Given opts "timeout" fun v => ∃ q, R.strToDouble v = .ok q ∧ 0 ≤ q ∧ q ≤ 51 / 2 := by
  rw [setTimeout, ifGiven_ok_iff]
  refine forall₂_congr fun v _ => exists_congr fun q => and_congr_right fun _ => ?_
  rw [← not_lt, ← not_lt, ← not_or]
  split_ifs with hq <;> simp [hq, pure, Except.pure]

theorem setVmin_ok_iff :
    setVmin R opts errpref = .ok () ↔ Given opts "vmin" (IsIntIn R 0 255) := by
  rw [setVmin, ifGiven_ok_iff]
  refine forall₂_congr fun v _ => exists_congr fun n => and_congr_right fun _ => ?_
  rw [← not_lt, ← not_lt, ← not_or]
  split_ifs with hn <;> simp [hn, pure, Except.pure]

theorem setNdelay_ok_iff {fcntl : Option Str} :
    setNdelay R opts errpref fcntl = .ok () ↔
      Given opts "ndelay" fun v => IsBool R v ∧ fcntl = none := by
  rw [setNdelay, ifGiven_ok_iff]
  refine forall₂_congr fun v _ => ?_
  simp only [checkCall_ok_iff]
  exact exists_and_right

/-- All flags of the serial line. -/
def serialFlags : List Str := controlFlags ++ inputFlags ++ outputFlags ++ combinedFlags

def serialSpeeds : List Str := ["speed", "ispeed", "ospeed"]

def serialChoices : List IntChoice :=
  [csChoice, bsChoice, crChoice, ffChoice, nlChoice, tabChoice, vtChoice]

/-- The checks between `open` and `tcsetattr`, and the two, are passed. -/
structure SettingsOk (R : Readers) (calls : SerialCalls) (opts : Opt) : Prop where
  ndelay : Given opts "ndelay" fun v => IsBool R v ∧ calls.fcntl = none
  tcgetattr : calls.tcgetattr = none
  speeds : ∀ oname ∈ serialSpeeds, Given opts oname (IsBaud R)
  flags : ∀ oname ∈ serialFlags, Given opts oname (IsBool R)
  choices : ∀ c ∈ serialChoices, Given opts c.oname (IsIntIn R c.lo c.hi)
  parity : Given opts "parity" (· ∈ parities)
  timeout : Given opts "timeout" fun v => ∃ q, R.strToDouble v = .ok q ∧ 0 ≤ q ∧ q ≤ 51 / 2
  vmin : Given opts "vmin" (IsIntIn R 0 255)
  tcsetattr : calls.tcsetattr = none

/-- All checks behind the open serial device are passed. -/
structure SerialOk (R : Readers) (calls : SerialCalls) (opts : Opt) : Prop
    extends SettingsOk R calls opts where
  delay : Given opts "delay" (IsReal R)
  readCond : Given opts "read_cond" (· ∈ readConds)
  flushOnErr : Given opts "flush_on_err" (IsBool R)

theorem forall_serialFlags {P : Str → Prop} :
    (∀ oname ∈ serialFlags, P oname) ↔ (∀ oname ∈ controlFlags, P oname) ∧
      (∀ oname ∈ inputFlags, P oname) ∧ (∀ oname ∈ outputFlags, P oname) ∧
      ∀ oname ∈ combinedFlags, P oname := by
  simp only [serialFlags, List.forall_mem_append, and_assoc]

theorem forall_serialChoices {P : IntChoice → Prop} :
    (∀ c ∈ serialChoices, P c) ↔ P csChoice ∧ P bsChoice ∧ P crChoice ∧ P ffChoice ∧
      P nlChoice ∧ P tabChoice ∧ P vtChoice := by
  simp [serialChoices]

theorem serialSettings_ok_iff {calls : SerialCalls} :
    serialSettings R opts errpref calls = .ok () ↔ SettingsOk R calls opts := by
  simp only [serialSettings, andThen_ok_iff, setNdelay_ok_iff, checkCall_ok_iff, setSpeed_ok_iff,
    setOpts_ok_iff, setChoice_ok_iff, setParity_ok_iff, setTimeout_ok_iff, setVmin_ok_iff]
  constructor
  · rintro ⟨hndelay, hget, hspeed, hispeed, hospeed, hcontrol, hcs, hinput, hbs, hcr, hff, hnl,
      htab, hvt, houtput, hparity, hcombined, htimeout, hvmin, hset⟩
    refine ⟨hndelay, hget, ?_, forall_serialFlags.mpr ⟨hcontrol, hinput, houtput, hcombined⟩,
      forall_serialChoices.mpr ⟨hcs, hbs, hcr, hff, hnl, htab, hvt⟩, hparity, htimeout, hvmin, hset⟩
    simp only [serialSpeeds, List.forall_mem_cons]
    exact ⟨hspeed, hispeed, hospeed, fun oname h => absurd h List.not_mem_nil⟩
  · intro h
    obtain ⟨hcontrol, hinput, houtput, hcombined⟩ := forall_serialFlags.mp h.flags
    obtain ⟨hcs, hbs, hcr, hff, hnl, htab, hvt⟩ := forall_serialChoices.mp h.choices
    have hspeed : ∀ oname ∈ serialSpeeds, Given opts oname (IsBaud R) := h.speeds
    exact ⟨h.ndelay, h.tcgetattr, hspeed _ (by simp [serialSpeeds]),
      hspeed _ (by simp [serialSpeeds]), hspeed _ (by simp [serialSpeeds]), hcontrol, hcs, hinput,
      hbs, hcr, hff, hnl, htab, hvt, houtput, h.parity, hcombined, h.timeout, h.vmin, h.tcsetattr⟩

omit [DecidableEq H] in
theorem serialSetup_ok_iff {calls : SerialCalls} {fd : H} :
    (∃ d, serialSetup R opts errpref calls fd = .ok d) ↔ SerialOk R calls opts := by
  have hmembers : (∃ d, serialSetup R opts errpref calls fd = .ok d) ↔
      (∃ u, serialSettings R opts errpref calls = .ok u) ∧ Given opts "delay" (IsReal R) ∧
      Given opts "read_cond" (· ∈ readConds) ∧ Given opts "flush_on_err" (IsBool R) := by
    rw [serialSetup]
    refine bind_ok_iff_of_const fun _ => ?_
    rw [← readCond_ok_iff "always" (by decide)]
    unfold IsReal IsBool
    rw [← optGet_ok_iff (1 / 10), ← optGet_ok_iff true]
    refine bind_ok_iff_of_const fun _ => bind_ok_iff_of_const fun _ => ?_
    rw [bind_ok_iff]
    exact exists_congr fun _ => and_iff_left ⟨_, rfl⟩
  rw [hmembers, unit_ok_iff, serialSettings_ok_iff]
  constructor
  · rintro ⟨hsettings, hdelay, hcond, hflush⟩
    exact ⟨hsettings, hdelay, hcond, hflush⟩
  · intro h
    exact ⟨h.toSettingsOk, h.delay, h.readCond, h.flushOnErr⟩

/-- The device is not opened: an option without a meaning, or no device. -/
def NotTried (known : List Str) (required : Str) (opts : Opt) : Prop :=
  (∃ k ∈ opts, k ∉ known) ∨ optStr opts required [] = []

theorem checkDev_ok_iff {dflt missing : Str} :
    (∃ e, checkDev opts dflt missing = .ok e) ↔ optStr opts "dev" [] ≠ [] :=
  unless_ok_iff

theorem before_ok_iff {known : List Str} {dflt missing : Str} :
    (∃ e, (checkUnknown opts known >>= fun _ => checkDev opts dflt missing) = .ok e) ↔
      ¬ NotTried known "dev" opts := by
  rw [bind_ok_iff_of_const fun _ => checkDev_ok_iff, unit_ok_iff, checkUnknown_ok_iff]
  simp only [NotTried, not_or, not_exists, not_and, not_not]

/-- A constructor that opens a file and goes through checks leaks the file if a check
fails; only what comes before the file is harmless. -/
theorem noLeak_file_iff {α : Type} {kept : α → H} {before : Except Err Str} {opened : Option Str}
    {what : Str} {setup : Str → H → Except Err α} {S : Supply H} {s : Finset H} {P Q : Prop}
    (hk : ∀ e fd a, setup e fd = .ok a → kept a = fd) (hP : (∃ e, before = .ok e) ↔ ¬ P)
    (hQ : ∀ e fd, (∃ a, setup e fd = .ok a) ↔ Q) :
    NoLeak kept s (run (do
      let errpref ← check before
      let fd ← acquire S (opened.map fun text => { str := errpref ++ what ++ text : Err })
      check (setup errpref fd)) s) ↔ P ∨ opened ≠ none ∨ Q := by
  have hbehind : ∀ e, NoLeak kept s (run (acquire S
      (opened.map fun text => { str := e ++ what ++ text : Err }) >>= fun fd =>
        check (setup e fd)) s) ↔ (opened = none → Q) := by
    intro e
    rw [noLeak_bind_check_iff (acquires_acquire _) (hk e), and_iff_right (noLeak_acquire _)]
    simp only [hQ]
    cases opened with
    | none => exact ⟨fun h _ => h _ rfl, fun h _ _ => h rfl⟩
    | some text => exact iff_of_true (by intro fd h; cases h) (by intro h; cases h)
  have hbefore : (∀ e, before = .ok e → opened = none → Q) ↔
      ((∃ e, before = .ok e) → opened = none → Q) :=
    ⟨fun h ⟨e, he⟩ => h e he, fun h e he => h ⟨e, he⟩⟩
  rw [noLeak_check_bind]
  simp only [hbehind]
  rw [hbefore, hP]
  tauto

theorem acquires_file {α : Type} {kept : α → H} {before : Except Err Str} {fail : Str → Option Err}
    {setup : Str → H → Except Err α} {S : Supply H}
    (hk : ∀ e fd a, setup e fd = .ok a → kept a = fd) :
    Acquires kept (do
      let errpref ← check before
      let fd ← acquire S (fail errpref)
      check (setup errpref fd)) :=
  .check_bind fun e => (acquires_acquire _).bind_check (hk e)

/-- A constructor that opens a file and returns has passed the checks. -/
theorem exists_of_open_file {α : Type} {a : α} {before : Except Err Str} {fail : Str → Option Err}
    {setup : Str → H → Except Err α} {S : Supply H} {s : Finset H}
    (h : (run (do
      let errpref ← check before
      let fd ← acquire S (fail errpref)
      check (setup errpref fd)) s).1 = .ok a) :
    ∃ errpref fd, before = .ok errpref ∧ setup errpref fd = .ok a := by
  rw [run_bind, run_check] at h
  rcases before with err | errpref
  · cases h
  · dsimp only at h
    rw [run_bind] at h
    rcases e : run (acquire S (fail errpref)) s with ⟨err | fd, s'⟩
    · rw [e] at h
      cases h
    · rw [e] at h
      exact ⟨errpref, fd, rfl, h⟩

omit [DecidableEq H] in
theorem serialSetup_cases {calls : SerialCalls} {fd : H} {d : SerialFile H}
    (h : serialSetup R opts errpref calls fd = .ok d) :
    serialSettings R opts errpref calls = .ok () ∧ d.fd = fd ∧ d.errpref = errpref := by
  obtain ⟨_, hsettings, h⟩ := exists_of_bind h
  obtain ⟨_, -, h⟩ := exists_of_bind h
  obtain ⟨_, -, h⟩ := exists_of_bind h
  obtain ⟨_, -, h⟩ := exists_of_bind h
  cases h
  exact ⟨hsettings, rfl, rfl⟩

omit [DecidableEq H] in
theorem serialSetup_fd {calls : SerialCalls} {fd : H} {d : SerialFile H}
    (h : serialSetup R opts errpref calls fd = .ok d) : d.fd = fd :=
  (serialSetup_cases h).2.1

/-- The serial device is not opened, or can not be, or passes all checks. -/
def SerialTidy (R : Readers) (calls : SerialCalls) (opts : Opt) : Prop :=
  NotTried serialKnown "dev" opts ∨ calls.openFile ≠ none ∨ SerialOk R calls opts

theorem acquires_openSerial (files : Supply H) (R : Readers) (calls : SerialCalls) (opts : Opt) :
    Acquires SerialFile.fd (openSerial files R calls opts) :=
  acquires_file fun _ _ _ => serialSetup_fd

theorem noLeak_openSerial_iff (files : Supply H) (R : Readers) (calls : SerialCalls) (opts : Opt)
    (s : Finset H) :
    NoLeak SerialFile.fd s (run (openSerial files R calls opts) s) ↔ SerialTidy R calls opts :=
  noLeak_file_iff (fun _ _ _ => serialSetup_fd) before_ok_iff fun _ _ => serialSetup_ok_iff

/-! ### The usbtmc driver -/

/-- All checks behind the open usbtmc device are passed. -/
structure UsbtmcOk (R : Readers) (calls : UsbtmcCalls) (opts : Opt) : Prop where
  clear : calls.clear = none
  timeout : Given opts "timeout" (IsReal R)
  setTimeout : calls.setTimeout = none
  delay : Given opts "delay" (IsReal R)
  readCond : Given opts "read_cond" (· ∈ readConds)

omit [DecidableEq H] in
theorem usbtmcSetup_ok_iff {calls : UsbtmcCalls} {fd : H} :
    (∃ d, usbtmcSetup R opts errpref calls fd = .ok d) ↔ UsbtmcOk R calls opts := by
  have hchecks : (∃ d, usbtmcSetup R opts errpref calls fd = .ok d) ↔
      (∃ u, checkCall calls.clear (errpref ++ "can't clear device state: ".toList) = .ok u) ∧
      Given opts "timeout" (IsReal R) ∧
      (∃ u, checkCall calls.setTimeout (errpref ++ "can't set timeout: ".toList) = .ok u) ∧
      Given opts "delay" (IsReal R) ∧ Given opts "read_cond" (· ∈ readConds) := by
    rw [← readCond_ok_iff "qmark1w" (by decide)]
    unfold usbtmcSetup IsReal
    rw [← optGet_ok_iff 5, ← optGet_ok_iff (1 / 100)]
    refine bind_ok_iff_of_const fun _ => bind_ok_iff_of_const fun _ =>
      bind_ok_iff_of_const fun _ => bind_ok_iff_of_const fun _ => ?_
    rw [bind_ok_iff]
    exact exists_congr fun _ => and_iff_left ⟨_, rfl⟩
  rw [hchecks, unit_ok_iff, unit_ok_iff, checkCall_ok_iff, checkCall_ok_iff]
  constructor
  · rintro ⟨hclear, htimeout, hset, hdelay, hcond⟩
    exact ⟨hclear, htimeout, hset, hdelay, hcond⟩
  · intro h
    exact ⟨h.clear, h.timeout, h.setTimeout, h.delay, h.readCond⟩

omit [DecidableEq H] in
theorem usbtmcSetup_fd {calls : UsbtmcCalls} {fd : H} {d : UsbtmcFile H}
    (h : usbtmcSetup R opts errpref calls fd = .ok d) : d.fd = fd := by
  obtain ⟨_, -, h⟩ := exists_of_bind h
  obtain ⟨_, -, h⟩ := exists_of_bind h
  obtain ⟨_, -, h⟩ := exists_of_bind h
  obtain ⟨_, -, h⟩ := exists_of_bind h
  obtain ⟨_, -, h⟩ := exists_of_bind h
  cases h
  rfl

/-- The usbtmc device is not opened, or can not be, or passes all checks. -/
def UsbtmcTidy (R : Readers) (calls : UsbtmcCalls) (opts : Opt) : Prop :=
  NotTried usbtmcKnown "dev" opts ∨ calls.openFile ≠ none ∨ UsbtmcOk R calls opts

theorem acquires_openUsbtmc (files : Supply H) (R : Readers) (calls : UsbtmcCalls) (opts : Opt) :
    Acquires UsbtmcFile.fd (openUsbtmc files R calls opts) :=
  acquires_file fun _ _ _ => usbtmcSetup_fd

theorem noLeak_openUsbtmc_iff (files : Supply H) (R : Readers) (calls : UsbtmcCalls) (opts : Opt)
    (s : Finset H) :
    NoLeak UsbtmcFile.fd s (run (openUsbtmc files R calls opts) s) ↔ UsbtmcTidy R calls opts :=
  noLeak_file_iff (fun _ _ _ => usbtmcSetup_fd) before_ok_iff fun _ _ => usbtmcSetup_ok_iff

/-! ### The net driver -/

section Net
variable {files : Supply H} {servinfo : List Address} {e : Str} {s : Finset H}

theorem acquires_connectFirst (servinfo : List Address) (e : Str) :
    Acquires id (connectFirst files errpref servinfo e) := by
  induction servinfo generalizing e with
  | nil => exact .of_noLeak fun _ => rfl
  | cons p servinfo ih =>
    rw [connectFirst]
    cases p.socket with
    | some e' => exact ih e'
    | none =>
      cases p.connect with
      | some e' => exact (ih e').after_acquire
      | none => exact (acquires_acquire none).bind_check fun b a h => by cases h; rfl

/-- The first address for which there is a socket. -/
def firstSocket (servinfo : List Address) : Option Address :=
  servinfo.find? fun p => p.socket.isNone

/-- No socket, nothing to leak. -/
theorem run_connectFirst_of_none (h : firstSocket servinfo = none) :
    ∃ err, run (connectFirst files errpref servinfo e) s = (.error err, s) := by
  induction servinfo generalizing e with
  | nil => exact ⟨_, rfl⟩
  | cons p servinfo ih =>
    rw [firstSocket, List.find?_cons] at h
    rw [connectFirst]
    cases hp : p.socket with
    | some e' =>
      rw [hp] at h
      exact ih h
    | none =>
      rw [hp] at h
      cases h

/-- The first socket connects and is the one that is kept. -/
theorem run_connectFirst_of_connect {p : Address} (h : firstSocket servinfo = some p)
    (hp : p.connect = none) :
    run (connectFirst files errpref servinfo e) s =
      (.ok (files.fresh s), insert (files.fresh s) s) := by
  induction servinfo generalizing e with
  | nil => cases h
  | cons q servinfo ih =>
    rw [firstSocket, List.find?_cons] at h
    rw [connectFirst]
    cases hq : q.socket with
    | some e' =>
      rw [hq] at h
      exact ih h
    | none =>
      rw [hq] at h
      cases h
      rw [run_bind_of_ok (run_acquire_none files s), hp]
      rfl

/-- The first socket does not connect, and is leaked. -/
theorem not_noLeak_connectFirst {p : Address} (h : firstSocket servinfo = some p)
    (hp : p.connect ≠ none) :
    ¬ NoLeak id s (run (connectFirst files errpref servinfo e) s) := by
  induction servinfo generalizing e with
  | nil => cases h
  | cons q servinfo ih =>
    rw [firstSocket, List.find?_cons] at h
    rw [connectFirst]
    cases hq : q.socket with
    | some e' =>
      rw [hq] at h
      exact ih h
    | none =>
      rw [hq] at h
      cases h
      obtain ⟨e', he'⟩ := Option.ne_none_iff_exists'.mp hp
      simp only [he']
      exact not_noLeak_after_acquire (acquires_connectFirst servinfo e')

end Net

/-- All checks behind the connected socket are passed. -/
structure NetOk (R : Readers) (opts : Opt) : Prop where
  bufsize : Given opts "bufsize" fun v => ∃ n, R.strToInt v = .ok n
  timeout : Given opts "timeout" (IsReal R)
  delay : Given opts "delay" (IsReal R)
  readCond : Given opts "read_cond" (· ∈ readConds)

omit [DecidableEq H] in
theorem netSetup_ok_iff {sockfd : H} :
    (∃ d, netSetup R opts errpref sockfd = .ok d) ↔ NetOk R opts := by
  have hchecks : (∃ d, netSetup R opts errpref sockfd = .ok d) ↔
      (Given opts "bufsize" fun v => ∃ n, R.strToInt v = .ok n) ∧ Given opts "timeout" (IsReal R) ∧
      Given opts "delay" (IsReal R) ∧ Given opts "read_cond" (· ∈ readConds) := by
    rw [← readCond_ok_iff "qmark1w" (by decide)]
    unfold netSetup IsReal
    rw [← optGet_ok_iff 4096, ← optGet_ok_iff 5, ← optGet_ok_iff 0]
    refine bind_ok_iff_of_const fun _ => bind_ok_iff_of_const fun _ =>
      bind_ok_iff_of_const fun _ => ?_
    rw [bind_ok_iff]
    exact exists_congr fun _ => and_iff_left ⟨_, rfl⟩
  rw [hchecks]
  constructor
  · rintro ⟨hbufsize, htimeout, hdelay, hcond⟩
    exact ⟨hbufsize, htimeout, hdelay, hcond⟩
  · intro h
    exact ⟨h.bufsize, h.timeout, h.delay, h.readCond⟩

omit [DecidableEq H] in
theorem netSetup_sockfd {sockfd : H} {d : NetSocket H}
    (h : netSetup R opts errpref sockfd = .ok d) : d.sockfd = sockfd := by
  obtain ⟨_, -, h⟩ := exists_of_bind h
  obtain ⟨_, -, h⟩ := exists_of_bind h
  obtain ⟨_, -, h⟩ := exists_of_bind h
  obtain ⟨_, -, h⟩ := exists_of_bind h
  cases h
  rfl

theorem checkAddr_ok_iff : (∃ e, checkAddr opts = .ok e) ↔ optStr opts "addr" [] ≠ [] :=
  unless_ok_iff

theorem netBefore_ok_iff {calls : NetCalls} {servinfo : List Address} :
    (∃ e, netBefore R calls opts = .ok (e, servinfo)) ↔
      ¬ NotTried netKnown "addr" opts ∧ calls.getaddrinfo = .ok servinfo ∧
      Given opts "open_delay" (IsReal R) := by
  have htried : ¬ NotTried netKnown "addr" opts ↔
      checkUnknown opts netKnown = .ok () ∧ ∃ e, checkAddr opts = .ok e := by
    rw [checkUnknown_ok_iff, checkAddr_ok_iff]
    simp only [NotTried, not_or, not_exists, not_and, not_not]
  have hdelay : Given opts "open_delay" (IsReal R) ↔
      ∃ q, optGet R.strToDouble opts "open_delay" 0 = .ok q := (optGet_ok_iff 0).symm
  rw [htried, hdelay]
  constructor
  · rintro ⟨e, h⟩
    obtain ⟨_, hknown, h⟩ := exists_of_bind h
    obtain ⟨e', haddr, h⟩ := exists_of_bind h
    obtain ⟨ps, hinfo, h⟩ := exists_of_bind h
    obtain ⟨q, hq, h⟩ := exists_of_bind h
    cases h
    refine ⟨⟨hknown, _, haddr⟩, ?_, q, hq⟩
    rcases hget : calls.getaddrinfo with text | ps
    · rw [hget] at hinfo
      cases hinfo
    · rw [hget] at hinfo
      cases hinfo
      rfl
  · rintro ⟨⟨hknown, e, haddr⟩, hinfo, q, hq⟩
    refine ⟨e, ?_⟩
    rw [netBefore, hknown, haddr, hinfo, hq]
    rfl

/-- The first socket connects, and then the options are right. -/
def NetTidy (R : Readers) (calls : NetCalls) (opts : Opt) : Prop :=
  NotTried netKnown "addr" opts ∨ ¬ Given opts "open_delay" (IsReal R) ∨
    ∀ servinfo p, calls.getaddrinfo = .ok servinfo → firstSocket servinfo = some p →
      p.connect = none ∧ NetOk R opts

theorem noLeak_openNet_iff (files : Supply H) (R : Readers) (calls : NetCalls) (opts : Opt)
    (s : Finset H) :
    NoLeak NetSocket.sockfd s (run (openNet files R calls opts) s) ↔ NetTidy R calls opts := by
  have hbehind : ∀ e servinfo, NoLeak NetSocket.sockfd s (run (connectFirst files e servinfo
      calls.garbage >>= fun sockfd => check (netSetup R opts e sockfd)) s) ↔
      ∀ p, firstSocket servinfo = some p → p.connect = none ∧ NetOk R opts := by
    intro e servinfo
    have hkept : ∀ (fd : H) d, netSetup R opts e fd = .ok d → d.sockfd = id fd :=
      fun _ _ => netSetup_sockfd
    rw [noLeak_bind_check_iff (acquires_connectFirst servinfo _) hkept]
    simp only [netSetup_ok_iff]
    rcases hfirst : firstSocket servinfo with - | p
    · have hthrows : ∃ err, run (connectFirst files e servinfo calls.garbage) s = (.error err, s) :=
        run_connectFirst_of_none hfirst
      obtain ⟨err, hrun⟩ := hthrows
      rw [hrun]
      exact iff_of_true ⟨rfl, fun b hb => by cases hb⟩ fun p hp => by cases hp
    · by_cases hp : p.connect = none
      · rw [run_connectFirst_of_connect hfirst hp]
        constructor
        · rintro ⟨-, hok⟩ q hq
          cases hq
          exact ⟨hp, hok _ rfl⟩
        · intro h
          exact ⟨⟨files.fresh_notMem s, rfl⟩, fun _ _ => (h p rfl).2⟩
      · exact iff_of_false (fun h => not_noLeak_connectFirst hfirst hp h.1) fun h => hp (h p rfl).1
  rw [openNet, noLeak_check_bind]
  constructor
  · intro h
    by_contra hbad
    simp only [NetTidy, not_or, not_forall] at hbad
    obtain ⟨htried, hdelay, servinfo, p, hinfo, hfirst, hnot⟩ := hbad
    obtain ⟨e, he⟩ := netBefore_ok_iff.mpr ⟨htried, hinfo, not_not.mp hdelay⟩
    have hrun := h _ he
    dsimp only at hrun
    exact hnot ((hbehind e servinfo).mp hrun p hfirst)
  · rintro h ⟨e, servinfo⟩ he
    obtain ⟨htried, hinfo, hdelay⟩ := netBefore_ok_iff.mp ⟨e, he⟩
    dsimp only
    rw [hbehind]
    intro p hfirst
    rcases h with h | h | h
    · exact absurd h htried
    · exact absurd hdelay h
    · exact h servinfo p hinfo hfirst

theorem acquires_openNet (files : Supply H) (R : Readers) (calls : NetCalls) (opts : Opt) :
    Acquires NetSocket.sockfd (openNet files R calls opts) :=
  .check_bind fun r => (acquires_connectFirst r.2 _).bind_check fun _ _ => netSetup_sockfd

/-! ### The GPIB driver -/

omit [DecidableEq H] in
theorem gpibSetup_dh {calls : GpibCalls} {dh : H} {d : GpibHandle H}
    (h : gpibSetup R opts errpref calls dh = .ok d) : d.dh = dh := by
  obtain ⟨_, -, h⟩ := exists_of_bind h
  obtain ⟨_, -, h⟩ := exists_of_bind h
  obtain ⟨_, -, h⟩ := exists_of_bind h
  obtain ⟨_, -, h⟩ := exists_of_bind h
  obtain ⟨_, -, h⟩ := exists_of_bind h
  obtain ⟨_, -, h⟩ := exists_of_bind h
  obtain ⟨_, -, h⟩ := exists_of_bind h
  obtain ⟨_, -, h⟩ := exists_of_bind h
  cases h
  rfl

theorem noLeak_openGpib (devs : Supply H) (R : Readers) (calls : GpibCalls) (opts : Opt)
    (s : Finset H) : NoLeak GpibHandle.dh s (run (openGpib devs R calls opts) s) := by
  rw [openGpib, noLeak_check_bind]
  exact fun e _ => noLeak_guarded fun _ _ => gpibSetup_dh

/-! ### Attempts -/

/-- An attempt to open a device, with the outcomes of all calls it makes. -/
inductive Attempt
  | serial (calls : SerialCalls) (opts : Opt)
  | usbtmc (calls : UsbtmcCalls) (opts : Opt)
  | net (calls : NetCalls) (opts : Opt)
  | gpib (calls : GpibCalls) (opts : Opt)

namespace Attempt

/-- The constructor; of the driver only what its destructor closes is left. -/
def create (files devs : Supply H) (R : Readers) : Attempt → Prog H Err H
  | serial calls opts => do
    let d ← openSerial files R calls opts
    return d.fd
  | usbtmc calls opts => do
    let d ← openUsbtmc files R calls opts
    return d.fd
  | net calls opts => do
    let d ← openNet files R calls opts
    return d.sockfd
  | gpib calls opts => do
    let d ← openGpib devs R calls opts
    return d.dh

/-- Nothing is leaked by it. -/
def Tidy (R : Readers) : Attempt → Prop
  | serial calls opts => SerialTidy R calls opts
  | usbtmc calls opts => UsbtmcTidy R calls opts
  | net calls opts => NetTidy R calls opts
  | gpib _ _ => True

variable (files devs : Supply H) (R : Readers)

theorem acquires_create (a : Attempt) : Acquires id (a.create files devs R) := by
  cases a with
  | serial calls opts => exact (acquires_openSerial files R calls opts).keep
  | usbtmc calls opts => exact (acquires_openUsbtmc files R calls opts).keep
  | net calls opts => exact (acquires_openNet files R calls opts).keep
  | gpib calls opts => exact (Acquires.of_noLeak (noLeak_openGpib devs R calls opts)).keep

theorem noLeak_create_iff (a : Attempt) (s : Finset H) :
    NoLeak id s (run (a.create files devs R) s) ↔ a.Tidy R := by
  cases a with
  | serial calls opts =>
    exact (noLeak_keep_iff (acquires_openSerial files R calls opts)).trans
      (noLeak_openSerial_iff files R calls opts s)
  | usbtmc calls opts =>
    exact (noLeak_keep_iff (acquires_openUsbtmc files R calls opts)).trans
      (noLeak_openUsbtmc_iff files R calls opts s)
  | net calls opts =>
    exact (noLeak_keep_iff (acquires_openNet files R calls opts)).trans
      (noLeak_openNet_iff files R calls opts s)
  | gpib calls opts =>
    exact (noLeak_keep_iff (.of_noLeak (noLeak_openGpib devs R calls opts))).trans
      (iff_of_true (noLeak_openGpib devs R calls opts s) trivial)

end Attempt

/-- The open descriptors after some attempts, each driver closed before the next
attempt. -/
def afterAttempts (files devs : Supply H) (R : Readers) (as : List Attempt) (s : Finset H) :
    Finset H :=
  useAll id (Attempt.create files devs R) as s

/-- **When nothing is leaked**: a constructor that throws leaves the descriptors as
they were, and one that does not leaves one more open, the one of the driver, exactly
if the attempt is tidy; and after any number of attempts the descriptors are as they
were exactly if all of them are tidy. -/
theorem open_noLeak_iff (files devs : Supply H) (R : Readers) :
    (∀ (a : Attempt) s, NoLeak id s (run (a.create files devs R) s) ↔ a.Tidy R) ∧
    ∀ (as : List Attempt) s, afterAttempts files devs R as s = s ↔ ∀ a ∈ as, a.Tidy R := by
  have hone : ∀ (a : Attempt) s, NoLeak id s (run (a.create files devs R) s) ↔ a.Tidy R :=
    Attempt.noLeak_create_iff files devs R
  exact ⟨hone, fun as s => useAll_eq_iff (Attempt.acquires_create files devs R) hone s⟩

/-- The lowest number that is not in use. -/
def lowest : Supply Nat where
  fresh := fun s => ((List.range (s.card + 1)).find? (· ∉ s)).getD 0
  fresh_notMem := by
    intro s
    -- there are more numbers in the range than in the set
    obtain ⟨n, hn, hns⟩ := Finset.exists_mem_notMem_of_card_lt_card
      (s := s) (t := Finset.range (s.card + 1)) (by simp)
    have hsome : ((List.range (s.card + 1)).find? (· ∉ s)).isSome := by
      rw [List.find?_isSome]
      exact ⟨n, by simpa using hn, by simpa using hns⟩
    obtain ⟨m, hm⟩ := Option.isSome_iff_exists.mp hsome
    rw [hm]
    simpa using List.find?_some hm

/-- An instrument that is switched off, behind one address. -/
def switchedOff : NetCalls := ⟨.ok [⟨none, some "Connection refused"⟩], []⟩

/-- The attempt throws, and the socket with the number 3 stays open. -/
theorem openNet_leaks_socket :
    run ((Attempt.net switchedOff (.ofList [("addr".toList, "10.0.0.1".toList)])).create
      lowest lowest decimalReaders) {0, 1, 2} =
    (.error { str := "Driver_net: 10.0.0.1:5025: can't connect: Connection refused" },
      {0, 1, 2, 3}) ∧
    ¬ NoLeak id {0, 1, 2} (run ((Attempt.net switchedOff
      (.ofList [("addr".toList, "10.0.0.1".toList)])).create lowest lowest decimalReaders)
      {0, 1, 2}) := by
  have hrun : run ((Attempt.net switchedOff (.ofList [("addr".toList, "10.0.0.1".toList)])).create
      lowest lowest decimalReaders) {0, 1, 2} =
      (.error { str := "Driver_net: 10.0.0.1:5025: can't connect: Connection refused" },
        {0, 1, 2, 3}) := by
    decide +kernel
  refine ⟨hrun, ?_⟩
  rw [hrun]
  show ¬ ({0, 1, 2, 3} : Finset Nat) = {0, 1, 2}
  decide

end Device2
