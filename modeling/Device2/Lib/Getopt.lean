/-
Device2/Lib/Getopt.lean

`getopt_long` of the C library, for an option string that starts with `+:`: the scan
stops at the first word that is not an option, and a missing argument is told apart
from an unknown option.

One call is `getoptLong`.  Between calls the scan stands in front of a word or inside a
word of one-letter options (`Pos`), and every option it finds brings it on
(`getoptLong_spec`).

The other direction is `Item`: the ways to write an option with its argument, as
`--name arg`, `--name=arg`, `-x arg` or `-xarg`, flags of one letter in front.  A scan
gives back what was written, item by item (`Item.reads`), and stops where the options
end (`getoptLong_tail`).
-/
import Mathlib.Algebra.GroupWithZero.Nat
import Mathlib.Data.List.Nodup
import Mathlib.Tactic.Common

namespace Getopt

/-! ### One call -/

/-- An option: its long name, whether it takes an argument, and its letter. -/
structure OptDef where
  name : List Char
  hasArg : Bool
  val : Option Char
  deriving DecidableEq

/-- Where the scan stands: in front of some words, or inside the word `w`, with the
letters `c :: cs` to come. -/
inductive Pos
  | words (ws : List (List Char))
  | inWord (w : List Char) (c : Char) (cs : List Char) (ws : List (List Char))
  deriving DecidableEq

/-- Behind a letter of the word `w`. -/
def Pos.behind (w : List Char) : List Char → List (List Char) → Pos
  | [], ws => .words ws
  | c :: cs, ws => .inWord w c cs ws

/-- What a call finds. -/
inductive Found
  | stop (rest : List (List Char))
  | option (d : OptDef) (arg : List Char) (next : Pos)
  /-- `?`: with the letter in `optopt`, if there is one, and the word. -/
  | unknown (optopt : Option Char) (word : List Char)
  /-- `:`. -/
  | missing (word : List Char)
  deriving DecidableEq

/-- The option a long name stands for: the one of this name, or else the only one it is
a beginning of.  Options that do the same do not make it ambiguous. -/
def lookup (defs : List OptDef) (name : List Char) : Option OptDef :=
  match defs.find? (·.name = name) with
  | some d => some d
  | none =>
    match defs.filter (name.isPrefixOf ·.name) with
    | [] => none
    | d :: ds => if ds.all fun e => e.hasArg = d.hasArg ∧ e.val = d.val then some d else none

/-- A long option, with what follows its name in the word `w`. -/
def foundLong (d : OptDef) (w tail : List Char) (ws : List (List Char)) : Found :=
  match d.hasArg, tail with
  | false, [] => .option d [] (.words ws)
  | false, _ :: _ => .unknown d.val w
  | true, _ :: arg => .option d arg (.words ws)
  | true, [] =>
    match ws with
    | [] => .missing w
    | arg :: ws => .option d arg (.words ws)

def longOption (defs : List OptDef) (w body : List Char) (ws : List (List Char)) : Found :=
  match lookup defs (body.takeWhile (· ≠ '=')) with
  | none => .unknown none w
  | some d => foundLong d w (body.dropWhile (· ≠ '=')) ws

/-- An option of one letter, with the letters `cs` that follow it in the word `w`. -/
def foundShort (d : OptDef) (w cs : List Char) (ws : List (List Char)) : Found :=
  match d.hasArg, cs, ws with
  | false, cs, ws => .option d [] (.behind w cs ws)
  | true, [], [] => .missing w
  | true, [], arg :: ws => .option d arg (.words ws)
  | true, c :: cs, ws => .option d (c :: cs) (.words ws)

def shortOption (defs : List OptDef) (w : List Char) (c : Char) (cs : List Char)
    (ws : List (List Char)) : Found :=
  match defs.find? fun d => d.val = some c ∧ c ≠ ':' ∧ c ≠ ';' with
  | none => .unknown (some c) w
  | some d => foundShort d w cs ws

/-- A call of `getopt_long`. -/
def getoptLong (defs : List OptDef) : Pos → Found
  | .words [] => .stop []
  | .words (w :: ws) =>
    match w with
    | ['-', '-'] => .stop ws
    | '-' :: '-' :: body => longOption defs w body ws
    | '-' :: c :: cs => shortOption defs w c cs ws
    | _ => .stop (w :: ws)
  | .inWord w c cs ws => shortOption defs w c cs ws

/-- What is left to scan. -/
def Pos.size : Pos → Nat
  | words ws => (ws.map fun w => w.length + 1).sum
  | inWord _ _ cs ws => cs.length + 1 + (ws.map fun w => w.length + 1).sum

section Progress
variable {defs : List OptDef} {d : OptDef} {w body arg cs : List Char} {c : Char}
variable {ws : List (List Char)} {p q : Pos}

theorem behind_size (w cs : List Char) (ws : List (List Char)) :
    (Pos.behind w cs ws).size = cs.length + (Pos.words ws).size := by
  cases cs with
  | nil => exact (Nat.zero_add _).symm
  | cons c cs => rfl

theorem foundLong_spec {d' : OptDef} (h : foundLong d' w body ws = .option d arg q) :
    d = d' ∧ q.size ≤ (Pos.words ws).size ∧ (d.hasArg = false → arg = []) := by
  unfold foundLong at h
  split at h
  · cases h; exact ⟨rfl, Nat.le_refl _, fun _ => rfl⟩
  · cases h
  · rename_i hd; cases h; exact ⟨rfl, Nat.le_refl _, fun hd' => by rw [hd] at hd'; cases hd'⟩
  · rename_i hd
    split at h
    · cases h
    · cases h; exact ⟨rfl, Nat.le_add_left _ _, fun hd' => by rw [hd] at hd'; cases hd'⟩

theorem foundShort_spec {d' : OptDef} (h : foundShort d' w cs ws = .option d arg q) :
    d = d' ∧ q.size ≤ cs.length + (Pos.words ws).size ∧ (d.hasArg = false → arg = []) := by
  unfold foundShort at h
  split at h
  · cases h; exact ⟨rfl, Nat.le_of_eq (behind_size ..), fun _ => rfl⟩
  · cases h
  · rename_i hd
    cases h
    refine ⟨rfl, ?_, fun hd' => by rw [hd] at hd'; cases hd'⟩
    show _ ≤ 0 + (_ + (Pos.words _).size)
    omega
  · rename_i hd
    cases h
    exact ⟨rfl, Nat.le_add_left _ _, fun hd' => by rw [hd] at hd'; cases hd'⟩

theorem lookup_mem {name : List Char} (h : lookup defs name = some d) : d ∈ defs := by
  unfold lookup at h
  split at h
  · rename_i e he
    cases h
    exact List.mem_of_find?_eq_some he
  · split at h
    · cases h
    · rename_i e es he
      split at h
      · cases h
        exact List.mem_of_mem_filter (he ▸ List.mem_cons_self)
      · cases h

theorem longOption_spec (h : longOption defs w body ws = .option d arg q) :
    d ∈ defs ∧ q.size ≤ (Pos.words ws).size ∧ (d.hasArg = false → arg = []) := by
  unfold longOption at h
  split at h
  · cases h
  · rename_i e he
    obtain ⟨rfl, hspec⟩ := foundLong_spec h
    exact ⟨lookup_mem he, hspec⟩

theorem shortOption_spec (h : shortOption defs w c cs ws = .option d arg q) :
    d ∈ defs ∧ q.size ≤ cs.length + (Pos.words ws).size ∧ (d.hasArg = false → arg = []) := by
  unfold shortOption at h
  split at h
  · cases h
  · rename_i e he
    obtain ⟨rfl, hspec⟩ := foundShort_spec h
    exact ⟨List.mem_of_find?_eq_some he, hspec⟩

/-- **What a call that finds an option does**: it is one of the options, the scan gets
on, and an option that takes no argument is given none. -/
theorem getoptLong_spec (h : getoptLong defs p = .option d arg q) :
    d ∈ defs ∧ q.size < p.size ∧ (d.hasArg = false → arg = []) := by
  unfold getoptLong at h
  split at h
  · cases h
  · rename_i w ws
    split at h
    · cases h
    · obtain ⟨hd, hle, harg⟩ := longOption_spec h
      refine ⟨hd, ?_, harg⟩
      show _ < _ + 1 + (Pos.words ws).size
      omega
    · obtain ⟨hd, hle, harg⟩ := shortOption_spec h
      refine ⟨hd, ?_, harg⟩
      show _ < _ + 1 + 1 + 1 + (Pos.words ws).size
      omega
    · cases h
  · rename_i w c cs ws
    obtain ⟨hd, hle, harg⟩ := shortOption_spec h
    refine ⟨hd, ?_, harg⟩
    show _ < cs.length + 1 + (Pos.words ws).size
    omega

theorem getoptLong_stop_le {rest : List (List Char)} (h : getoptLong defs p = .stop rest) :
    (Pos.words rest).size ≤ p.size := by
  have hlong : ∀ {w body ws}, longOption defs w body ws ≠ .stop rest := by
    intro w body ws h
    unfold longOption foundLong at h
    split at h
    · cases h
    · split at h
      · cases h
      · cases h
      · cases h
      · split at h <;> cases h
  have hshort : ∀ {w c cs ws}, shortOption defs w c cs ws ≠ .stop rest := by
    intro w c cs ws h
    unfold shortOption foundShort at h
    split at h
    · cases h
    · split at h <;> cases h
  unfold getoptLong at h
  split at h
  · cases h; exact Nat.le_refl _
  · split at h
    · cases h; exact Nat.le_add_left _ _
    · exact absurd h hlong
    · exact absurd h hshort
    · cases h; exact Nat.le_refl _
  · exact absurd h hshort

end Progress

/-! ### Written options -/

/-- Options can be told apart, and written. -/
structure WellFormed (defs : List OptDef) : Prop where
  names : (defs.map OptDef.name).Nodup
  vals : (defs.filterMap OptDef.val).Nodup
  name_ne_nil : ∀ d ∈ defs, d.name ≠ []
  name_eq : ∀ d ∈ defs, '=' ∉ d.name
  val_ne : ∀ d ∈ defs, ∀ c ∈ d.val, c ≠ ':' ∧ c ≠ ';' ∧ c ≠ '-'

-- not by a search through all characters
instance (d : OptDef) : Decidable (∀ c ∈ d.val, c ≠ ':' ∧ c ≠ ';' ∧ c ≠ '-') :=
  Option.decidableForallMem d.val

instance (defs : List OptDef) : Decidable (WellFormed defs) :=
  decidable_of_iff ((defs.map OptDef.name).Nodup ∧ (defs.filterMap OptDef.val).Nodup ∧
    (∀ d ∈ defs, d.name ≠ []) ∧ (∀ d ∈ defs, '=' ∉ d.name) ∧
    ∀ d ∈ defs, ∀ c ∈ d.val, c ≠ ':' ∧ c ≠ ';' ∧ c ≠ '-')
    ⟨fun ⟨h₁, h₂, h₃, h₄, h₅⟩ => ⟨h₁, h₂, h₃, h₄, h₅⟩, fun ⟨h₁, h₂, h₃, h₄, h₅⟩ => ⟨h₁, h₂, h₃, h₄, h₅⟩⟩

/-- A letter of a flag. -/
structure Flag (defs : List OptDef) where
  opt : OptDef
  letter : Char
  mem : opt ∈ defs
  val : opt.val = some letter
  hasArg : opt.hasArg = false

/-- An option as it is written.  `letters` is a word of flags with one more option at
its end. -/
inductive Item (defs : List OptDef)
  /-- `--name`. -/
  | flag (d : OptDef) (mem : d ∈ defs) (hasArg : d.hasArg = false)
  /-- `--name arg`. -/
  | long (d : OptDef) (arg : List Char) (mem : d ∈ defs) (hasArg : d.hasArg = true)
  /-- `--name=arg`. -/
  | longEq (d : OptDef) (arg : List Char) (mem : d ∈ defs) (hasArg : d.hasArg = true)
  /-- `-abc`. -/
  | flags (f : Flag defs) (fs : List (Flag defs))
  /-- `-abcx arg`. -/
  | short (fs : List (Flag defs)) (d : OptDef) (c : Char) (arg : List Char) (mem : d ∈ defs)
      (val : d.val = some c) (hasArg : d.hasArg = true)
  /-- `-abcxarg`. -/
  | shortArg (fs : List (Flag defs)) (d : OptDef) (c : Char) (arg : List Char) (mem : d ∈ defs)
      (val : d.val = some c) (hasArg : d.hasArg = true) (arg_ne_nil : arg ≠ [])

namespace Item

variable {defs : List OptDef}

/-- The words of the command line. -/
def words : Item defs → List (List Char)
  | flag d _ _ => ['-' :: '-' :: d.name]
  | long d arg _ _ => ['-' :: '-' :: d.name, arg]
  | longEq d arg _ _ => ['-' :: '-' :: d.name ++ '=' :: arg]
  | flags f fs => ['-' :: f.letter :: fs.map Flag.letter]
  | short fs _ c arg _ _ _ => ['-' :: fs.map Flag.letter ++ [c], arg]
  | shortArg fs _ c arg _ _ _ _ => ['-' :: fs.map Flag.letter ++ c :: arg]

/-- The options and their arguments. -/
def values : Item defs → List (OptDef × List Char)
  | flag d _ _ => [(d, [])]
  | long d arg _ _ => [(d, arg)]
  | longEq d arg _ _ => [(d, arg)]
  | flags f fs => (f :: fs).map fun f => (f.opt, [])
  | short fs d _ arg _ _ _ => fs.map (fun f => (f.opt, [])) ++ [(d, arg)]
  | shortArg fs d _ arg _ _ _ _ => fs.map (fun f => (f.opt, [])) ++ [(d, arg)]

end Item

/-- Some calls find these options and arguments. -/
inductive Reads (defs : List OptDef) : Pos → List (OptDef × List Char) → Pos → Prop
  | nil (p : Pos) : Reads defs p [] p
  | cons {p q r : Pos} {d : OptDef} {arg : List Char} {vs : List (OptDef × List Char)}
      (found : getoptLong defs p = .option d arg q) (rest : Reads defs q vs r) :
      Reads defs p ((d, arg) :: vs) r

theorem Reads.append {defs : List OptDef} {p q r : Pos} {vs us : List (OptDef × List Char)}
    (h : Reads defs p vs q) (h' : Reads defs q us r) : Reads defs p (vs ++ us) r := by
  induction h with
  | nil => exact h'
  | cons found _ ih => exact .cons found (ih h')

section Written
variable {defs : List OptDef} {d : OptDef} {w arg cs : List Char} {c : Char}
variable {ws : List (List Char)}

theorem find_name (h : WellFormed defs) (hd : d ∈ defs) : defs.find? (·.name = d.name) = some d := by
  have hfound : (defs.find? (·.name = d.name)).isSome = true :=
    List.find?_isSome.mpr ⟨d, hd, by simp⟩
  obtain ⟨e, he⟩ := Option.isSome_iff_exists.mp hfound
  have hname : e.name = d.name := by simpa using List.find?_some he
  rw [he, List.inj_on_of_nodup_map h.names (List.mem_of_find?_eq_some he) hd hname]

/-- Two options of one letter would be twice in the list of letters. -/
theorem eq_of_val {e : OptDef} (h : (defs.filterMap OptDef.val).Nodup) (hd : d ∈ defs)
    (he : e ∈ defs) (hdc : d.val = some c) (hec : e.val = some c) : e = d := by
  have hin : ∀ {y : OptDef} {ds : List OptDef}, y.val = some c → y ∈ ds →
      c ∈ ds.filterMap OptDef.val := fun hy hmem => List.mem_filterMap.mpr ⟨_, hmem, hy⟩
  induction defs with
  | nil => cases hd
  | cons x defs ih =>
    have hnodup : (defs.filterMap OptDef.val).Nodup :=
      h.sublist ((List.sublist_cons_self x defs).filterMap _)
    have hx : x.val = some c → c ∉ defs.filterMap OptDef.val := by
      intro hx
      rw [List.filterMap_cons_some hx, List.nodup_cons] at h
      exact h.1
    clear h
    rcases List.mem_cons.mp hd with rfl | hd'
    · rcases List.mem_cons.mp he with rfl | he'
      · rfl
      · exact absurd (hin hec he') (hx hdc)
    · rcases List.mem_cons.mp he with rfl | he'
      · exact absurd (hin hdc hd') (hx hec)
      · exact ih hnodup hd' he'

theorem find_val (h : WellFormed defs) (hd : d ∈ defs) (hc : d.val = some c) :
    defs.find? (fun d => d.val = some c ∧ c ≠ ':' ∧ c ≠ ';') = some d := by
  obtain ⟨hcolon, hsemi, -⟩ := h.val_ne d hd c hc
  have hfound : (defs.find? fun d => d.val = some c ∧ c ≠ ':' ∧ c ≠ ';').isSome = true :=
    List.find?_isSome.mpr ⟨d, hd, by simp [hc, hcolon, hsemi]⟩
  obtain ⟨e, he⟩ := Option.isSome_iff_exists.mp hfound
  have hval : e.val = some c := by simpa [hcolon, hsemi] using List.find?_some he
  rw [he, eq_of_val h.vals hd (List.mem_of_find?_eq_some he) hc hval]

theorem shortOption_eq (h : WellFormed defs) (hd : d ∈ defs) (hc : d.val = some c) :
    shortOption defs w c cs ws = foundShort d w cs ws := by
  rw [shortOption, find_val h hd hc]

theorem longOption_eq (h : WellFormed defs) (hd : d ∈ defs) (tail : List Char)
    (htail : ∀ c ∈ tail.head?, c = '=') :
    longOption defs w (d.name ++ tail) ws = foundLong d w tail ws := by
  have hname : ∀ c ∈ d.name, decide (c ≠ '=') = true := by
    intro c hc
    exact decide_eq_true fun he => h.name_eq d hd (he ▸ hc)
  have htake : (d.name ++ tail).takeWhile (· ≠ '=') = d.name := by
    rw [List.takeWhile_append_of_pos hname]
    rcases tail with - | ⟨c, tail⟩
    · exact List.append_nil _
    · rw [htail c rfl, List.takeWhile_cons_of_neg (by simp), List.append_nil]
  have hdrop : (d.name ++ tail).dropWhile (· ≠ '=') = tail := by
    rw [List.dropWhile_append_of_pos hname]
    rcases tail with - | ⟨c, tail⟩
    · rfl
    · rw [htail c rfl, List.dropWhile_cons_of_neg (by simp)]
  rw [longOption, htake, hdrop, lookup, find_name h hd]

/-- A word `--name` or `--name=arg` is taken for a long option. -/
theorem getoptLong_long (h : WellFormed defs) (hd : d ∈ defs) (tail : List Char)
    (ws : List (List Char)) :
    getoptLong defs (.words (('-' :: '-' :: (d.name ++ tail)) :: ws)) =
      longOption defs ('-' :: '-' :: (d.name ++ tail)) (d.name ++ tail) ws := by
  obtain ⟨c, name, hname⟩ := List.exists_cons_of_ne_nil (h.name_ne_nil d hd)
  rw [hname]
  rfl

/-- A word of letters is taken for one. -/
theorem getoptLong_short (hc : c ≠ '-') :
    getoptLong defs (.words (('-' :: c :: cs) :: ws)) = shortOption defs ('-' :: c :: cs) c cs ws := by
  unfold getoptLong
  split
  · rename_i heq; cases heq
  · rename_i heq
    cases heq
    split
    · rename_i heq; cases heq; exact absurd rfl hc
    · rename_i heq; cases heq; exact absurd rfl hc
    · rename_i heq; cases heq; rfl
    · rename_i hno; exact absurd rfl (hno c cs)
  · rename_i heq; cases heq

/-- The flags inside a word, one call for each. -/
theorem reads_flags (h : WellFormed defs) (w : List Char) (fs : List (Flag defs)) (cs : List Char)
    (ws : List (List Char)) :
    Reads defs (.behind w (fs.map Flag.letter ++ cs) ws) (fs.map fun f => (f.opt, []))
      (.behind w cs ws) := by
  induction fs with
  | nil => exact .nil _
  | cons f fs ih =>
    refine .cons ?_ ih
    show shortOption defs w f.letter (fs.map Flag.letter ++ cs) ws = _
    rw [shortOption_eq h f.mem f.val, foundShort.eq_def, f.hasArg]

/-- In front of a word of letters the scan is where it will be inside it. -/
theorem getoptLong_word {cs : List Char} (hc : ∀ c ∈ cs.head?, c ≠ '-') (hcs : cs ≠ []) :
    getoptLong defs (.words (('-' :: cs) :: ws)) = getoptLong defs (.behind ('-' :: cs) cs ws) := by
  obtain ⟨c, cs, rfl⟩ := List.exists_cons_of_ne_nil hcs
  exact getoptLong_short (hc c rfl)

theorem reads_word {cs : List Char} {vs : List (OptDef × List Char)} {q : Pos}
    (hc : ∀ c ∈ cs.head?, c ≠ '-') (hcs : cs ≠ []) (hvs : vs ≠ [])
    (h : Reads defs (.behind ('-' :: cs) cs ws) vs q) : Reads defs (.words (('-' :: cs) :: ws)) vs q := by
  cases h with
  | nil => exact absurd rfl hvs
  | cons found rest => exact .cons ((getoptLong_word hc hcs).trans found) rest

/-- **The scan of a written option** gives the option and its argument, and stands
behind it. -/
theorem Item.reads (h : WellFormed defs) (i : Item defs) (ws : List (List Char)) :
    Reads defs (.words (i.words ++ ws)) i.values (.words ws) := by
  have hletter : ∀ {d : OptDef} {c : Char}, d ∈ defs → d.val = some c → c ≠ '-' :=
    fun hd hc => (h.val_ne _ hd _ hc).2.2
  have hhead : ∀ (fs : List (Flag defs)) {d : OptDef} {c : Char} (cs : List Char), d ∈ defs →
      d.val = some c → ∀ x ∈ (fs.map Flag.letter ++ c :: cs).head?, x ≠ '-' := by
    intro fs d c cs hd hc x hx
    rcases fs with - | ⟨f, fs⟩
    · cases hx; exact hletter hd hc
    · cases hx; exact hletter f.mem f.val
  cases i with
  | flag d hd harg =>
    refine .cons ?_ (.nil _)
    have hlong := getoptLong_long h hd [] ws
    rw [longOption_eq h hd [] (by simp), foundLong.eq_def, harg, List.append_nil] at hlong
    exact hlong
  | long d arg hd harg =>
    refine .cons ?_ (.nil _)
    have hlong := getoptLong_long h hd [] (arg :: ws)
    rw [longOption_eq h hd [] (by simp), foundLong.eq_def, harg, List.append_nil] at hlong
    exact hlong
  | longEq d arg hd harg =>
    refine .cons ?_ (.nil _)
    have hlong := getoptLong_long h hd ('=' :: arg) ws
    rw [longOption_eq h hd ('=' :: arg) (by simp), foundLong.eq_def, harg] at hlong
    exact hlong
  | flags f fs =>
    apply reads_word
    · intro c hc; cases hc; exact hletter f.mem f.val
    · simp
    · simp [values]
    · have hfs := reads_flags h ('-' :: f.letter :: fs.map Flag.letter) (f :: fs) [] ws
      rw [List.append_nil] at hfs
      exact hfs
  | short fs d c arg hd hc harg =>
    apply reads_word
    · exact hhead fs [] hd hc
    · simp
    · simp [values]
    · refine (reads_flags h _ fs [c] (arg :: ws)).append (.cons ?_ (.nil _))
      show shortOption defs _ c [] (arg :: ws) = _
      rw [shortOption_eq h hd hc, foundShort.eq_def, harg]
  | shortArg fs d c arg hd hc harg hne =>
    apply reads_word
    · exact hhead fs arg hd hc
    · simp
    · simp [values]
    · refine (reads_flags h _ fs (c :: arg) ws).append (.cons ?_ (.nil _))
      show shortOption defs _ c arg ws = _
      obtain ⟨a, arg, rfl⟩ := List.exists_cons_of_ne_nil hne
      rw [shortOption_eq h hd hc, foundShort.eq_def, harg]

theorem reads_items (h : WellFormed defs) (is : List (Item defs)) (ws : List (List Char)) :
    Reads defs (.words (is.flatMap Item.words ++ ws)) (is.flatMap Item.values) (.words ws) := by
  induction is with
  | nil => exact .nil _
  | cons i is ih =>
    rw [List.flatMap_cons, List.flatMap_cons, List.append_assoc]
    exact (i.reads h _).append ih

end Written

/-! ### Where the options end -/

/-- A word that is not an option. -/
def IsOperand (w : List Char) : Prop := w.head? ≠ some '-' ∨ w = ['-']

instance (w : List Char) : Decidable (IsOperand w) := by unfold IsOperand; infer_instance

/-- The words behind the options, perhaps with `--` in between. -/
inductive Tail : List (List Char) → List (List Char) → Prop
  | none : Tail [] []
  | operand (w : List Char) (ws : List (List Char)) (h : IsOperand w) : Tail (w :: ws) (w :: ws)
  | dashes (ws : List (List Char)) : Tail (['-', '-'] :: ws) ws

theorem getoptLong_tail {defs : List OptDef} {ws rest : List (List Char)} (h : Tail ws rest) :
    getoptLong defs (.words ws) = .stop rest := by
  cases h with
  | none => rfl
  | dashes => rfl
  | operand w ws hw =>
    unfold getoptLong
    split
    · rename_i heq; cases heq
    · rename_i heq
      cases heq
      split
      · rcases hw with hw | hw
        · exact absurd rfl hw
        · cases hw
      · rcases hw with hw | hw
        · exact absurd rfl hw
        · cases hw
      · rcases hw with hw | hw
        · exact absurd rfl hw
        · cases hw
      · rfl
    · rename_i heq; cases heq

end Getopt
