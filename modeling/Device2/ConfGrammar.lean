/-
Device2/ConfGrammar.lean

The language of the device file (`Readme.md`), against `DevManager::read_conf`.

`LineOk` is what a line has to look like, and `Grammar` what the file as a whole
adds to it: no device twice.  `Describes` says which device a line stands for; its
options are given by a lookup in the line (`lastValue`), without the map that
`read_conf` builds.

The loop is compared with them line by line.  A line is accepted exactly when it
is `LineOk` and its device is not in the map yet (`readConfLine_ok_iff`), and what
the loop has made of a prefix of the file is the only thing the rest of it depends
on (`readConfLoop_ok_iff`, `readConfLoop_getElem?`).
-/
import Device2.DevManager

namespace Device2

open Std DevManager

variable {Drv : Type}

/-! ### The grammar -/

/-- A line of the device file: `read_words` gives no words only at the end. -/
structure ConfLine where
  line : Nat
  words : List Str
  words_ne_nil : words ≠ []

/-- One call of `read_words`. -/
def ConfLine.read (l : ConfLine) : ReadWords := ⟨l.line, .ok l.words⟩

/-- The file with these lines. -/
def confFile (ls : List ConfLine) : ConfFile := some (ls.map ConfLine.read)

/-- The words of a line two by two. -/
def wordPairs : List Str → List (Str × Str)
  | name :: value :: rest => (name, value) :: wordPairs rest
  | _ => []

/-- Characters a device name can not contain, with the end of a C string. -/
def reservedChars : List Char := [' ', '\t', nl, '/', '\\', nul]

/-- A well-formed line: a device name, a driver name, and pairs of an option name
with its dash and a value. -/
def LineOk (words : List Str) : Prop :=
  ∃ dev drv args, words = dev :: drv :: args ∧ dev ≠ [] ∧ (∀ c ∈ dev, c ∉ reservedChars) ∧
    args.length % 2 = 0 ∧ ∀ p ∈ wordPairs args, p.1.head? = some '-' ∧ 2 ≤ p.1.length

/-- A well-formed file: every line is, and no two have the same first word. -/
def Grammar (ls : List ConfLine) : Prop :=
  (∀ l ∈ ls, LineOk l.words) ∧ (ls.map fun l => l.words.head?).Nodup

/-- The value of an option: that of the last pair with its name. -/
def lastValue (args : List Str) (name : Str) : Option Str :=
  (wordPairs args).reverse.lookup ('-' :: name)

/-- The line stands for the device `d` under the name `k`: closed, unused, unlocked
and not logged. -/
def Describes (words : List Str) (k : Str) (d : Device Drv) : Prop :=
  ∃ drv args opt, words = k :: drv :: args ∧ d = { devName := k, drvName := drv, drvArgs := opt } ∧
    ∀ name, opt[name]? = lastValue args name

/-! ### Options -/

variable {words args : List Str} {opt opt' : Opt} {k : Str} {d : Device Drv}

theorem lastValue_cons (name value : Str) (rest : List Str) (n : Str) :
    lastValue (name :: value :: rest) n =
      (lastValue rest n).or (if name = '-' :: n then some value else none) := by
  simp only [lastValue, wordPairs, List.reverse_cons, List.lookup_append, List.lookup_cons,
    List.lookup_nil]
  by_cases h : name = '-' :: n
  · simp [h]
  · have hne : ('-' :: n == name) = false := by simpa using Ne.symm h
    simp [h, hne]

/-- `read_conf` takes the pairs whose names have a dash and something behind it. -/
theorem readConfOpts_ok_iff (args : List Str) (opt : Opt) :
    (∃ opt', readConfOpts args opt = .ok opt') ↔
      ∀ p ∈ wordPairs args, p.1.head? = some '-' ∧ 2 ≤ p.1.length := by
  fun_induction readConfOpts args opt with
  | case1 name value rest opt hbad =>
    simp only [wordPairs, List.forall_mem_cons]
    constructor
    · rintro ⟨_, h⟩; cases h
    · rintro ⟨⟨hdash, hlen⟩, -⟩
      rcases hbad with h | h
      · omega
      · exact absurd hdash h
  | case2 name value rest opt hgood ih =>
    obtain ⟨hlen, hdash⟩ := not_or.mp hgood
    rw [ih]
    simp only [wordPairs, List.forall_mem_cons]
    exact (and_iff_right ⟨not_not.mp hdash, Nat.le_of_not_lt hlen⟩).symm
  | case3 args opt hshort =>
    have hnil : wordPairs args = [] := by
      unfold wordPairs
      split
      · rename_i name value rest
        exact absurd rfl (hshort name value rest)
      · rfl
    simp [hnil]

/-- Later values win, and what was there before stays behind them. -/
theorem readConfOpts_getElem? (h : readConfOpts args opt = .ok opt') (n : Str) :
    opt'[n]? = (lastValue args n).or opt[n]? := by
  fun_induction readConfOpts args opt with
  | case1 => cases h
  | case2 name value rest opt hgood ih =>
    obtain ⟨-, hdash⟩ := not_or.mp hgood
    obtain ⟨t, rfl⟩ : ∃ t, name = '-' :: t := List.head?_eq_some_iff.mp (not_not.mp hdash)
    rw [ih h, lastValue_cons, getElem?_insert_if]
    by_cases hn : t = n
    · simp [hn]
    · simp [hn]
  | case3 args opt hshort =>
    cases h
    have hnil : lastValue args n = none := by
      unfold lastValue wordPairs
      split
      · rename_i name value rest
        exact absurd rfl (hshort name value rest)
      · rfl
    simp [hnil]

/-! ### One line -/

/-- The test of `read_conf` on the device name. -/
theorem span_eq_length_iff (dev : Str) :
    ((cStr dev).takeWhile (· ∉ badNameChars)).length = dev.length ↔
      ∀ c ∈ dev, c ∉ reservedChars := by
  have hspan : (cStr dev).takeWhile (· ∉ badNameChars) = dev.takeWhile (· ∉ reservedChars) := by
    rw [cStr, List.takeWhile_takeWhile]
    congr 1
    funext c
    simp only [badNameChars, reservedChars, List.mem_cons, List.not_mem_nil, or_false, nl, nul]
    grind
  have hpre : (dev.takeWhile (· ∉ reservedChars)) <+: dev := List.takeWhile_prefix _
  rw [hspan]
  constructor
  · intro hlen
    have heq := hpre.eq_of_length hlen
    rw [List.takeWhile_eq_self_iff] at heq
    simpa using heq
  · intro h
    rw [List.takeWhile_eq_self_iff.mpr (by simpa using h)]

/-- **A line is accepted exactly when it is well-formed and names a new device**,
and then it adds the device it stands for. -/
theorem readConfLine_ok_iff (words : List Str) (ret : ExtTreeMap Str (Device Drv)) :
    (∃ ret', readConfLine words ret = .ok ret') ↔
      LineOk words ∧ ∀ k, words.head? = some k → k ∉ ret := by
  constructor
  · rintro ⟨ret', h⟩
    obtain ⟨dev, drv, args, opt, rfl, hdev, hspan, heven, hopts, hnew, -⟩ := readConfLine_ok h
    refine ⟨⟨dev, drv, args, rfl, hdev, (span_eq_length_iff dev).mp hspan, heven,
      (readConfOpts_ok_iff args ∅).mp ⟨opt, hopts⟩⟩, fun k hk => ?_⟩
    cases hk
    exact hnew
  · rintro ⟨⟨dev, drv, args, rfl, hdev, hchars, heven, hpairs⟩, hnew⟩
    obtain ⟨opt, hopts⟩ := (readConfOpts_ok_iff args ∅).mpr hpairs
    have hspan := (span_eq_length_iff dev).mpr hchars
    refine ⟨ret.insert dev { devName := dev, drvName := drv, drvArgs := opt }, ?_⟩
    simp only [readConfLine]
    rw [if_neg hdev, if_neg (not_not.mpr hspan), if_neg (not_not.mpr heven), hopts]
    exact if_neg (hnew dev rfl)

theorem readConfLine_getElem? {ret ret' : ExtTreeMap Str (Device Drv)}
    (h : readConfLine words ret = .ok ret') (k : Str) (d : Device Drv) :
    ret'[k]? = some d ↔ Describes words k d ∨ ret[k]? = some d := by
  obtain ⟨dev, drv, args, opt, rfl, -, -, -, hopts, hnew, rfl⟩ := readConfLine_ok h
  have hopt : ∀ n, opt[n]? = lastValue args n := by
    intro n
    rw [readConfOpts_getElem? hopts n]
    simp
  rw [getElem?_insert_if]
  by_cases hk : dev = k
  · subst hk
    rw [if_pos rfl]
    constructor
    · intro hd
      cases hd
      exact .inl ⟨drv, args, opt, rfl, rfl, hopt⟩
    · rintro (⟨drv', args', opt', heq, rfl, hopt'⟩ | hd)
      · -- the options are determined by their lookups
        cases heq
        have : opt' = opt := ExtTreeMap.ext_getElem? fun {n} => (hopt' n).trans (hopt n).symm
        rw [this]
      · exact absurd (ExtTreeMap.mem_iff_isSome_getElem?.mpr (by rw [hd]; rfl)) hnew
  · rw [if_neg hk]
    refine ⟨.inr, ?_⟩
    rintro (⟨drv', args', opt', heq, -, -⟩ | hd)
    · cases heq; exact absurd rfl hk
    · exact hd

/-! ### The file -/

/-- **The loop accepts exactly the well-formed lines with new and distinct names.** -/
theorem readConfLoop_ok_iff (ls : List ConfLine) (ret : ExtTreeMap Str (Device Drv)) :
    (∃ ret', readConfLoop (ls.map ConfLine.read) ret = .ok ret') ↔
      Grammar ls ∧ ∀ l ∈ ls, ∀ k, l.words.head? = some k → k ∉ ret := by
  induction ls generalizing ret with
  | nil => simp [readConfLoop, Grammar]
  | cons l ls ih =>
    obtain ⟨w, ws, hw⟩ := List.exists_cons_of_ne_nil l.words_ne_nil
    have hline := readConfLine_ok_iff l.words ret
    rw [List.map_cons, readConfLoop]
    simp only [ConfLine.read, hw] at hline ⊢
    rcases hl : readConfLine (w :: ws) ret with e | ret₁
    · -- the line is refused
      have hbad := mt hline.mpr (by rw [hl]; simp)
      apply iff_of_false (by simp)
      rintro ⟨⟨hok, -⟩, hnew⟩
      exact hbad ⟨hw ▸ hok l List.mem_cons_self, fun k hk =>
        hnew l List.mem_cons_self k (by rw [hw]; exact hk)⟩
    · -- the line is taken, and its device is the one more name in the map
      obtain ⟨hok, hnew⟩ := hline.mp ⟨ret₁, hl⟩
      have hmem : ∀ k, k ∈ ret₁ ↔ k = w ∨ k ∈ ret := by
        obtain ⟨dev, drv, args, opt, heq, -, -, -, -, -, rfl⟩ := readConfLine_ok hl
        cases heq
        exact fun k => mem_insert_iff
      show (∃ ret', readConfLoop (ls.map ConfLine.read) ret₁ = .ok ret') ↔ _
      rw [ih ret₁]
      simp only [Grammar, List.forall_mem_cons, List.map_cons, List.nodup_cons, List.mem_map, hw,
        List.head?_cons]
      constructor
      · rintro ⟨⟨hall, hnodup⟩, hrest⟩
        refine ⟨⟨⟨hok, hall⟩, ?_, hnodup⟩, hnew, fun l' hl' k hk hmem' => ?_⟩
        · rintro ⟨l', hl', hk⟩
          exact hrest l' hl' w hk ((hmem w).mpr (.inl rfl))
        · exact hrest l' hl' k hk ((hmem k).mpr (.inr hmem'))
      · rintro ⟨⟨⟨-, hall⟩, hfirst, hnodup⟩, -, hrest⟩
        refine ⟨⟨hall, hnodup⟩, fun l' hl' k hk hmem' => ?_⟩
        rcases (hmem k).mp hmem' with rfl | hin
        · exact hfirst ⟨l', hl', hk⟩
        · exact hrest l' hl' k hk hin

/-- The devices in the map are those of the lines, and those that were there. -/
theorem readConfLoop_getElem? {ls : List ConfLine} {ret ret' : ExtTreeMap Str (Device Drv)}
    (h : readConfLoop (ls.map ConfLine.read) ret = .ok ret') (k : Str) (d : Device Drv) :
    ret'[k]? = some d ↔ (∃ l ∈ ls, Describes l.words k d) ∨ ret[k]? = some d := by
  induction ls generalizing ret with
  | nil => cases h; simp
  | cons l ls ih =>
    obtain ⟨w, ws, hw⟩ := List.exists_cons_of_ne_nil l.words_ne_nil
    rw [List.map_cons, readConfLoop] at h
    simp only [ConfLine.read, hw] at h
    rcases hl : readConfLine (w :: ws) ret with e | ret₁
    · rw [hl] at h; cases h
    · rw [hl] at h
      rw [ih h, readConfLine_getElem? hl k d, ← or_assoc]
      apply or_congr_left
      simp only [List.mem_cons, exists_eq_or_imp, hw]
      exact or_comm

namespace DevManager

/-- **`read_conf` accepts exactly its grammar**, installs the devices the lines stand
for and no others, and changes nothing when it throws. -/
theorem readConf_grammar (ls : List ConfLine) (m : DevManager Drv) :
    ((m.readConf (confFile ls)).ret = .ok () ↔ Grammar ls) ∧
    ((m.readConf (confFile ls)).ret = .ok () → ∃ devices,
      (m.readConf (confFile ls)).state = { m with devices } ∧
        ∀ k d, devices[k]? = some d ↔ ∃ l ∈ ls, Describes l.words k d) ∧
    ∀ file : ConfFile, (m.readConf file).ret ≠ .ok () → (m.readConf file).state = m := by
  have hloop := readConfLoop_ok_iff ls (∅ : ExtTreeMap Str (Device Drv))
  rw [and_iff_left (by simp)] at hloop
  refine ⟨?_, ?_, fun file hne => ?_⟩
  · rw [← hloop]
    rcases hl : (readConfLoop (ls.map ConfLine.read) ∅ : Except _ (ExtTreeMap Str (Device Drv)))
      with e | ret <;> simp [readConf, parseConf, confFile, hl, Except.mapError, Outcome.done]
  · intro hok
    rcases hl : (readConfLoop (ls.map ConfLine.read) ∅ : Except _ (ExtTreeMap Str (Device Drv)))
      with e | ret
    · simp [readConf, parseConf, confFile, hl, Except.mapError] at hok
    · refine ⟨ret, by simp [readConf, parseConf, confFile, hl, Except.mapError, Outcome.done],
        fun k d => ?_⟩
      rw [readConfLoop_getElem? hl]
      simp
  · rcases readConf_cases file m with ⟨e, -, hr⟩ | ⟨ret, -, hr⟩
    · rw [hr]
    · rw [hr] at hne; exact absurd rfl hne

end DevManager

end Device2
