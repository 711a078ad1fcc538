/-
Device2/DevicePing.lean

The program `device_ping` (`server/device_ping.cpp`), which opens a device without
the server, sends it one message and prints the answer.

Its command line has the form `<driver> [<driver options>] -- <msg>` (`Readme.md`).
`CommandLine` is that grammar as a type: a value of it is a driver, options and the
words of a message, and `args` is how it is written.  The program goes through its
arguments by an index, and every reading of an argument is checked here (`arg`).

`parseArgs_sound` and `parseArgs_complete` say that the program accepts what is
written by some `CommandLine` and nothing else; `CommandLine.args_injective` that it
is written by one only.
-/
import Device2.Device
import Device2.Lib.Lines

namespace Device2

namespace DevicePing

/-! ### The program -/

/-- `args[i]`: outside the list there is nothing to read. -/
def arg (args : List Str) (i : Nat) : Except Exn Str :=
  match args[i]? with
  | none => .error .outOfRange
  | some s => .ok s

/-- The loop over the options: where it stops, and the options so far. -/
def optsLoop (unquoteWords : Str → Str) (args : List Str) (i : Nat) (opts : Opt) :
    Except Exn (Nat × Opt) :=
  if i + 2 < args.length then do
    let name ← arg args i
    if name = "--".toList then return (i, opts)
    else if name.length < 2 ∨ name.head? ≠ some '-' then
      throwErr ("parameter name should be prefixed with \"-\" ".toList
        ++ "and contain at least one character: ".toList ++ name)
    else
      let value ← arg args (i + 1)
      optsLoop unquoteWords args (i + 2) (opts.insert name.tail (unquoteWords value))
  else return (i, opts)
termination_by args.length - i

/-- The loop that puts the message together. -/
def msgLoop (args : List Str) (j : Nat) (msg : Str) : Except Exn Str :=
  if j < args.length then do
    let word ← arg args j
    msgLoop args (j + 1) (msg ++ (' ' :: word))
  else return msg
termination_by args.length - j

/-- What the command line asks for. -/
structure Request where
  drv : Str
  opts : Opt
  msg : Str

/-- `i>=args.size() || args[i]!="--"`. -/
def noSeparator (args : List Str) (i : Nat) : Except Exn Bool :=
  if args.length ≤ i then return true
  else do
    let s ← arg args i
    return s ≠ "--".toList

/-- `main` up to the message.  `usage` ends with `throw Err()`. -/
def parseArgs (unquoteWords : Str → Str) (args : List Str) : Except Exn Request :=
  if args.length < 1 then throwErr []
  else do
    let drv ← arg args 0
    let (i, opts) ← optsLoop unquoteWords args 1 ∅
    if ← noSeparator args i then
      throwErr "driver options should contain -<name> <value> pairs followed by -- and "
    else if args.length ≤ i + 1 then throwErr "empty message"
    else
      let msg ← arg args (i + 1)
      let msg ← msgLoop args (i + 2) msg
      return { drv, opts, msg }

/-- The rest of `main`: the answer that is printed or the exception, and what has
been sent to the device. -/
def main {Drv : Type} (env : DriverEnv Drv) (unquoteWords : Str → Str) (args : List Str) :
    Except Exn Str × List (Drv × Str) :=
  match parseArgs unquoteWords args with
  | .error x => (.error x, [])
  | .ok r =>
    let dev : Device Drv := { devName := [], drvName := r.drv, drvArgs := r.opts }
    ((dev.ask env 0 r.msg).ret, (dev.ask env 0 r.msg).asked)

/-! ### The grammar -/

/-- The name of an option as it is written. -/
def IsOptionName (name : Str) : Prop :=
  name.head? = some '-' ∧ 2 ≤ name.length ∧ name ≠ "--".toList

/-- A command line: a driver, options with their values, and a message. -/
structure CommandLine where
  drv : Str
  pairs : List (Str × Str)
  words : List Str
  names_ok : ∀ p ∈ pairs, IsOptionName p.1
  words_ne_nil : words ≠ []

/-- Options as they are written. -/
def writePairs (pairs : List (Str × Str)) : List Str := pairs.flatMap fun p => [p.1, p.2]

namespace CommandLine

/-- How it is written. -/
def args (c : CommandLine) : List Str :=
  c.drv :: (writePairs c.pairs ++ "--".toList :: c.words)

/-- The options, one after the other. -/
def opts (unquoteWords : Str → Str) (c : CommandLine) : Opt :=
  c.pairs.foldl (fun opts p => opts.insert p.1.tail (unquoteWords p.2)) ∅

/-- The words with single spaces between them. -/
def msg (c : CommandLine) : Str := [' '].intercalate c.words

/-- What it asks for. -/
def request (unquoteWords : Str → Str) (c : CommandLine) : Request where
  drv := c.drv
  opts := c.opts unquoteWords
  msg := c.msg

end CommandLine

/-! ### Reading the arguments -/

variable {unquoteWords : Str → Str} {args rest words : List Str} {i j : Nat} {opts opts' : Opt}
variable {s name value : Str}

theorem arg_of_drop (h : args.drop i = s :: rest) : arg args i = .ok s := by
  have : args[i]? = some s := by rw [← List.head?_drop, h]; rfl
  rw [arg, this]

theorem drop_succ_of_drop (h : args.drop i = s :: rest) : args.drop (i + 1) = rest := by
  rw [← List.drop_drop, h]
  rfl

/-- Inside the list there is an argument to read. -/
theorem exists_arg (h : i < args.length) :
    ∃ s, arg args i = .ok s ∧ args.drop i = s :: args.drop (i + 1) := by
  have hdrop := List.drop_eq_getElem_cons h
  exact ⟨args[i], arg_of_drop hdrop, hdrop⟩

theorem lt_length_of_drop (h : args.drop i = s :: rest) : i + rest.length + 1 = args.length := by
  have hlen := congrArg List.length h
  simp only [List.length_drop, List.length_cons] at hlen
  omega

/-! ### The loop over the options -/

theorem optsLoop_of_le (h : args.length ≤ i + 2) :
    optsLoop unquoteWords args i opts = .ok (i, opts) := by
  rw [optsLoop, if_neg (Nat.not_lt.mpr h)]
  rfl

/-- One pass of the loop, in front of further arguments. -/
theorem optsLoop_of_drop (h : args.drop i = name :: value :: s :: rest) :
    optsLoop unquoteWords args i opts =
      if name = "--".toList then .ok (i, opts)
      else if name.length < 2 ∨ name.head? ≠ some '-' then
        throwErr ("parameter name should be prefixed with \"-\" ".toList
          ++ "and contain at least one character: ".toList ++ name)
      else optsLoop unquoteWords args (i + 2) (opts.insert name.tail (unquoteWords value)) := by
  have hlt : i + 2 < args.length := by
    have := lt_length_of_drop h
    simp only [List.length_cons] at this
    omega
  rw [optsLoop, if_pos hlt, arg_of_drop h, arg_of_drop (drop_succ_of_drop h)]
  rfl

/-- What is there in front of further arguments. -/
theorem exists_drop_of_lt (h : i + 2 < args.length) :
    ∃ name value s rest,
      args.drop i = name :: value :: s :: rest ∧ s :: rest = args.drop (i + 2) := by
  refine ⟨args[i], args[i + 1], args[i + 2], args.drop (i + 3), ?_, ?_⟩
  · rw [List.drop_eq_getElem_cons (by omega : i < args.length),
      List.drop_eq_getElem_cons (by omega : i + 1 < args.length), List.drop_eq_getElem_cons h]
  · exact (List.drop_eq_getElem_cons h).symm

/-- Nothing outside the list is read. -/
theorem optsLoop_ne_outOfRange : optsLoop unquoteWords args i opts ≠ .error .outOfRange := by
  induction i, opts using optsLoop.induct unquoteWords args with
  | case1 i opts hlt ih =>
    obtain ⟨name, value, s, rest, hdrop, -⟩ := exists_drop_of_lt hlt
    rw [optsLoop_of_drop hdrop]
    split_ifs
    · exact fun h => by cases h
    · exact fun h => by cases h
    · exact ih name value
  | case2 i opts hge =>
    rw [optsLoop_of_le (Nat.not_lt.mp hge)]
    exact fun h => by cases h

/-- Where the loop stops there are options behind it. -/
theorem optsLoop_sound (h : optsLoop unquoteWords args i opts = .ok (j, opts')) :
    ∃ pairs, (∀ p ∈ pairs, IsOptionName p.1) ∧ args.drop i = writePairs pairs ++ args.drop j := by
  induction i, opts using optsLoop.induct unquoteWords args with
  | case1 i opts hlt ih =>
    obtain ⟨name, value, s, rest, hdrop, hrest⟩ := exists_drop_of_lt hlt
    rw [optsLoop_of_drop hdrop] at h
    split_ifs at h with hsep hbad
    · cases h
      exact ⟨[], List.forall_mem_nil _, rfl⟩
    · cases h
    · rw [not_or, not_lt, not_not] at hbad
      obtain ⟨pairs, hnames, hpairs⟩ := ih name value h
      refine ⟨(name, value) :: pairs, List.forall_mem_cons.mpr ⟨⟨hbad.2, hbad.1, hsep⟩, hnames⟩, ?_⟩
      rw [hdrop, hrest, hpairs]
      rfl
  | case2 i opts hge =>
    rw [optsLoop_of_le (Nat.not_lt.mp hge)] at h
    cases h
    exact ⟨[], List.forall_mem_nil _, rfl⟩

/-- At a separator the loop stops. -/
theorem optsLoop_separator (h : args.drop i = "--".toList :: rest) :
    optsLoop unquoteWords args i opts = .ok (i, opts) := by
  by_cases hlt : i + 2 < args.length
  · obtain ⟨name, value, s, rest', hdrop, -⟩ := exists_drop_of_lt hlt
    obtain ⟨rfl, -⟩ := List.cons.inj (h.symm.trans hdrop)
    rw [optsLoop_of_drop hdrop, if_pos rfl]
  · exact optsLoop_of_le (Nat.not_lt.mp hlt)

/-- Options in front of a separator are taken one after the other. -/
theorem optsLoop_complete (pairs : List (Str × Str)) (hnames : ∀ p ∈ pairs, IsOptionName p.1)
    (h : args.drop i = writePairs pairs ++ "--".toList :: rest) :
    ∃ j, args.drop j = "--".toList :: rest ∧ optsLoop unquoteWords args i opts =
      .ok (j, pairs.foldl (fun opts p => opts.insert p.1.tail (unquoteWords p.2)) opts) := by
  induction pairs generalizing i opts with
  | nil => exact ⟨i, h, optsLoop_separator h⟩
  | cons p pairs ih =>
    obtain ⟨⟨hdash, hlen, hsep⟩, hnames⟩ := List.forall_mem_cons.mp hnames
    have hcons : args.drop i = p.1 :: p.2 :: (writePairs pairs ++ "--".toList :: rest) := h
    have hnext := drop_succ_of_drop (drop_succ_of_drop hcons)
    obtain ⟨j, hj, hloop⟩ := @ih (i + 2) (opts.insert p.1.tail (unquoteWords p.2)) hnames hnext
    obtain ⟨s, t, hst⟩ : ∃ s t, writePairs pairs ++ "--".toList :: rest = s :: t :=
      List.exists_cons_of_ne_nil (by simp)
    have hbad : ¬ (p.1.length < 2 ∨ p.1.head? ≠ some '-') := by
      rw [not_or, not_lt, not_not]
      exact ⟨hlen, hdash⟩
    rw [hst] at hcons
    refine ⟨j, hj, ?_⟩
    rw [optsLoop_of_drop hcons, if_neg hsep, if_neg hbad, hloop]
    rfl

/-! ### The message -/

/-- The rest of the arguments goes behind the message. -/
theorem msgLoop_eq (args : List Str) (j : Nat) (msg : Str) :
    msgLoop args j msg = .ok (msg ++ (args.drop j).flatMap (' ' :: ·)) := by
  induction j, msg using msgLoop.induct args with
  | case1 j msg hlt ih =>
    obtain ⟨word, harg, hdrop⟩ := exists_arg hlt
    rw [msgLoop, if_pos hlt, harg, hdrop]
    show msgLoop args (j + 1) (msg ++ (' ' :: word)) = _
    rw [ih word, List.flatMap_cons, List.append_assoc msg]
  | case2 j msg hge =>
    rw [msgLoop, if_neg hge, List.drop_eq_nil_of_le (Nat.not_lt.mp hge), List.flatMap_nil,
      List.append_nil]
    rfl

/-! ### The whole command line -/

section Request
variable {drv : Str}

/-- An error in the options ends the program. -/
theorem parseArgs_of_error {x : Exn} (hdrv : args = drv :: rest)
    (hloop : optsLoop unquoteWords args 1 ∅ = .error x) :
    parseArgs unquoteWords args = .error x := by
  subst hdrv
  rw [parseArgs, if_neg (by simp), hloop]
  rfl

/-- Behind the options there have to be a separator and a message. -/
theorem parseArgs_of_ok (hdrv : args = drv :: rest)
    (hloop : optsLoop unquoteWords args 1 ∅ = .ok (i, opts)) :
    parseArgs unquoteWords args =
      match args.drop i with
      | [] => throwErr "driver options should contain -<name> <value> pairs followed by -- and "
      | sep :: words =>
        if sep ≠ "--".toList then
          throwErr "driver options should contain -<name> <value> pairs followed by -- and "
        else if words = [] then throwErr "empty message"
        else .ok ⟨drv, opts, [' '].intercalate words⟩ := by
  have hlen : ¬ args.length < 1 := by rw [hdrv]; simp
  have harg : arg args 0 = .ok drv := by rw [hdrv]; rfl
  rw [parseArgs, if_neg hlen, harg, hloop]
  show (noSeparator args i >>= _) = _
  rcases hdrop : args.drop i with - | ⟨sep, words⟩
  · have hi : args.length ≤ i := List.drop_eq_nil_iff.mp hdrop
    rw [noSeparator, if_pos hi]
    rfl
  · have hi := lt_length_of_drop hdrop
    have hsep : noSeparator args i = .ok (decide (sep ≠ "--".toList)) := by
      rw [noSeparator, if_neg (by omega), arg_of_drop hdrop]
      rfl
    rw [hsep]
    show (if decide (sep ≠ "--".toList) = true then _ else _) = if sep ≠ "--".toList then _ else _
    by_cases hne : sep ≠ "--".toList
    · rw [if_pos (decide_eq_true hne), if_pos hne]
    · rw [if_neg (by simpa using hne), if_neg hne]
      rcases words with - | ⟨word, words⟩
      · -- the list ends behind the separator
        have hend : args.length ≤ i + 1 := by simp only [List.length_nil] at hi; omega
        rw [if_pos hend, if_pos rfl]
      · have hmore : ¬ args.length ≤ i + 1 := by simp only [List.length_cons] at hi; omega
        have hnext := drop_succ_of_drop hdrop
        rw [if_neg hmore, if_neg (List.cons_ne_nil word words), arg_of_drop hnext]
        show (msgLoop args (i + 2) word >>= _) = _
        rw [msgLoop_eq, drop_succ_of_drop hnext, ← Lines.intercalate_cons]
        rfl

end Request

/-- A command line that is accepted is written by some `CommandLine`. -/
theorem parseArgs_sound {r : Request} (h : parseArgs unquoteWords args = .ok r) :
    ∃ c : CommandLine, c.args = args := by
  rcases hargs : args with - | ⟨drv, rest⟩
  · rw [hargs] at h
    cases h
  rcases hloop : optsLoop unquoteWords args 1 ∅ with x | ⟨i, opts⟩
  · rw [parseArgs_of_error hargs hloop] at h
    cases h
  · obtain ⟨pairs, hnames, hpairs⟩ := optsLoop_sound hloop
    rw [parseArgs_of_ok hargs hloop] at h
    rcases hdrop : args.drop i with - | ⟨sep, words⟩
    · rw [hdrop] at h
      cases h
    · rw [hdrop] at h hpairs
      by_cases hsep : sep ≠ "--".toList
      · simp only [if_pos hsep] at h
        cases h
      · by_cases hwords : words = []
        · simp only [if_neg hsep, if_pos hwords] at h
          cases h
        · refine ⟨⟨drv, pairs, words, hnames, hwords⟩, ?_⟩
          rw [hargs, not_not.mp hsep] at hpairs
          exact congrArg (drv :: ·) hpairs.symm

/-- Every `CommandLine` is accepted, and asks for what it should. -/
theorem parseArgs_complete (unquoteWords : Str → Str) (c : CommandLine) :
    parseArgs unquoteWords c.args = .ok (c.request unquoteWords) := by
  have hdrop : c.args.drop 1 = writePairs c.pairs ++ "--".toList :: c.words := rfl
  obtain ⟨j, hj, hloop⟩ := @optsLoop_complete unquoteWords _ _ _ ∅ c.pairs c.names_ok hdrop
  have hargs : c.args = c.drv :: (writePairs c.pairs ++ "--".toList :: c.words) := rfl
  rw [parseArgs_of_ok hargs hloop, hj]
  show (if "--".toList ≠ "--".toList then _ else if c.words = [] then _ else _) = _
  rw [if_neg (not_not.mpr rfl), if_neg c.words_ne_nil]
  rfl

/-- A separator is not the name of an option, so the first one ends the options. -/
theorem writePairs_injective {pairs pairs' : List (Str × Str)} {words words' : List Str}
    (hnames : ∀ p ∈ pairs, IsOptionName p.1) (hnames' : ∀ p ∈ pairs', IsOptionName p.1)
    (h : writePairs pairs ++ "--".toList :: words = writePairs pairs' ++ "--".toList :: words') :
    pairs = pairs' ∧ words = words' := by
  induction pairs generalizing pairs' with
  | nil =>
    cases pairs' with
    | nil => exact ⟨rfl, (List.cons.inj h).2⟩
    | cons p pairs' => exact absurd (List.cons.inj h).1.symm (hnames' p List.mem_cons_self).2.2
  | cons p pairs ih =>
    obtain ⟨hp, hnames⟩ := List.forall_mem_cons.mp hnames
    cases pairs' with
    | nil => exact absurd (List.cons.inj h).1 hp.2.2
    | cons p' pairs' =>
      obtain ⟨hname, htail⟩ := List.cons.inj h
      obtain ⟨hvalue, htail⟩ := List.cons.inj htail
      obtain ⟨rfl, rfl⟩ := ih hnames (List.forall_mem_cons.mp hnames').2 htail
      exact ⟨by rw [Prod.ext hname hvalue], rfl⟩

/-- A command line is written in one way only. -/
theorem CommandLine.args_injective : Function.Injective CommandLine.args := by
  rintro ⟨drv, pairs, words, hnames, hwords⟩ ⟨drv', pairs', words', hnames', hwords'⟩ h
  obtain ⟨rfl, htail⟩ := List.cons.inj h
  obtain ⟨rfl, rfl⟩ := writePairs_injective hnames hnames' htail
  rfl

/-- Nothing outside the list is read. -/
theorem parseArgs_ne_outOfRange (unquoteWords : Str → Str) (args : List Str) :
    parseArgs unquoteWords args ≠ .error .outOfRange := by
  intro h
  rcases hargs : args with - | ⟨drv, rest⟩
  · rw [hargs] at h
    cases h
  rcases hloop : optsLoop unquoteWords args 1 ∅ with x | ⟨i, opts⟩
  · rw [parseArgs_of_error hargs hloop] at h
    cases h
    exact optsLoop_ne_outOfRange hloop
  · rw [parseArgs_of_ok hargs hloop] at h
    split at h
    · cases h
    · split_ifs at h <;> cases h

/-- What a device that can be opened is sent. -/
theorem main_asked {Drv : Type} {env : DriverEnv Drv} {r : Request} {drv : Drv}
    (hparse : parseArgs unquoteWords args = .ok r) (hopen : env.create r.drv r.opts = .ok drv) :
    (main env unquoteWords args).2 = [(drv, r.msg)] := by
  rw [main, hparse]
  simp [Device.ask, Device.use, Device.askOpened, Device.drvAsk, Outcome.bind, Outcome.done, hopen]

/-- **The grammar of `device_ping`.**  The program takes exactly what the grammar
writes, and asks the device what was written; it reads no argument that is not
there. -/
theorem accepts_grammar {Drv : Type} (env : DriverEnv Drv) (unquoteWords : Str → Str)
    (args : List Str) :
    ((∃ r, parseArgs unquoteWords args = .ok r) ↔ ∃ c : CommandLine, c.args = args) ∧
    (∀ c : CommandLine, c.args = args → parseArgs unquoteWords args = .ok (c.request unquoteWords) ∧
      (∀ c' : CommandLine, c'.args = args → c' = c) ∧
      ∀ drv, env.create c.drv (c.opts unquoteWords) = .ok drv →
        (main env unquoteWords args).2 = [(drv, c.msg)]) ∧
    parseArgs unquoteWords args ≠ .error .outOfRange := by
  refine ⟨⟨?_, ?_⟩, ?_, parseArgs_ne_outOfRange unquoteWords args⟩
  · rintro ⟨r, h⟩
    exact parseArgs_sound h
  · rintro ⟨c, rfl⟩
    exact ⟨_, parseArgs_complete unquoteWords c⟩
  · rintro c rfl
    have hparse := parseArgs_complete unquoteWords c
    exact ⟨hparse, fun c' h => CommandLine.args_injective h, fun drv hopen => main_asked hparse hopen⟩

end DevicePing

end Device2
