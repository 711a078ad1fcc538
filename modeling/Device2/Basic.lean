/-
Device2/Basic.lean

The vocabulary every module shares: byte strings with the few `std::string`
operations the sources use, `Opt`, connection numbers, and what can leave a
call by an exception.

A `std::string` is a list of characters, a `std::map` an extensional tree map
in key order, a `std::set` a finite set.  `Err` is the only exception class
the sources throw; the two other ways a call can fail to return normally (a
call through a null driver pointer, an index past the end of a string) get
constructors of their own, so that their absence is something to prove.
-/
import Mathlib

namespace Device2

open Std

/-- `std::string`. -/
abbrev Str := List Char

instance : Coe String Str := ⟨String.toList⟩

/-- Connection numbers (`uint64_t`, counted up from 0 by the HTTP server). -/
abbrev ConnId := Nat

/-- `Opt`: option names and values, in the order of the names. -/
abbrev Opt := ExtTreeMap Str Str

/-- `std::endl` of the protocols: the newline character. -/
abbrev nl : Char := '\n'

/-- The character that ends a C string. -/
abbrev nul : Char := Char.ofNat 0

/-! ### Exceptions -/

/-- The exception class `Err`: a text and a code, `-1` unless one is given. -/
structure Err where
  str : Str
  code : Int := -1
  deriving DecidableEq

/-- Ways a call can end without returning: an `Err`, a call of a method through
the null driver pointer, a `std::out_of_range`. -/
inductive Exn
  | err (e : Err)
  | nullDriver
  | outOfRange
  deriving DecidableEq

/-- `throw Err() << text`. -/
def throwErr {α : Type} (text : Str) : Except Exn α := .error (.err { str := text })

/-! ### Strings -/

/-- `type_to_str` of an unsigned number: its decimal form. -/
def typeToStr (n : Nat) : Str := n.repr

theorem typeToStr_injective : Function.Injective typeToStr := by
  intro m n h
  exact Nat.repr_inj.mp (String.toList_injective h)

/-- `s.find(c, pos)`: the first position of `c` from `pos` on; `none` is `npos`. -/
def find (s : Str) (c : Char) (pos : Nat) : Option Nat :=
  ((s.drop pos).idxOf? c).map (pos + ·)

theorem find_lt {s : Str} {c : Char} {pos p : Nat} (h : find s c pos = some p) :
    pos ≤ p ∧ p < s.length := by
  obtain ⟨j, hj, rfl⟩ := Option.map_eq_some_iff.mp h
  have hlt : j < (s.drop pos).length := by
    rw [List.idxOf?, List.findIdx?_eq_some_iff_findIdx_eq] at hj
    exact hj.1
  rw [List.length_drop] at hlt
  omega

theorem find_eq_none {s : Str} {c : Char} {pos : Nat} (h : c ∉ s.drop pos) :
    find s c pos = none := by
  rw [find, List.idxOf?_eq_none_iff.mpr h]
  rfl

/-- The first `c` is behind a piece without one. -/
theorem find_of_drop {s piece rest : Str} {c : Char} {pos : Nat}
    (hdrop : s.drop pos = piece ++ c :: rest) (h : c ∉ piece) :
    find s c pos = some (pos + piece.length) := by
  have hpiece : (piece ++ c :: rest).idxOf? c = some piece.length := by
    clear hdrop
    induction piece with
    | nil => simp [List.idxOf?_cons]
    | cons x piece ih =>
      obtain ⟨hx, hpiece⟩ := not_or.mp (mt List.mem_cons.mpr h)
      simp [List.idxOf?_cons, Ne.symm hx, ih hpiece]
  rw [find, hdrop, hpiece]
  rfl

/-- `s.substr(pos, n)`: at most `n` characters from `pos` on; `none` when `pos`
lies past the end, where the library throws `std::out_of_range`. -/
def substr (s : Str) (pos n : Nat) : Option Str :=
  if pos ≤ s.length then some ((s.drop pos).take n) else none

/-- `s.substr(pos)`. -/
def substrFrom (s : Str) (pos : Nat) : Option Str :=
  if pos ≤ s.length then some (s.drop pos) else none

/-- `s.c_str()` as a C function reads it: the characters before the first NUL. -/
def cStr (s : Str) : Str := s.takeWhile (· ≠ Char.ofNat 0)

theorem cStr_eq_self_iff {s : Str} : cStr s = s ↔ nul ∉ s := by
  rw [cStr, List.takeWhile_eq_self_iff]
  simp only [decide_eq_true_eq]
  refine ⟨fun h hmem => h nul hmem rfl, fun h c hc he => h ?_⟩
  rwa [he] at hc

/-- `tolower` in the C locale. -/
def toLower (c : Char) : Char :=
  if 'A' ≤ c ∧ c ≤ 'Z' then Char.ofNat (c.toNat + 32) else c

/-- `strcasecmp(a.c_str(), b.c_str()) == 0`. -/
def sameNoCase (a b : Str) : Bool := (cStr a).map toLower = (cStr b).map toLower

/-- Pieces written one after the other, each with a newline after it. -/
def unlines (ls : List Str) : Str := ls.flatMap (· ++ [nl])

/-! ### Options -/

instance (key : Str) (known : List Str) : Decidable (key ∈ known) :=
  decidable_of_iff (known.any (· = key) = true) (by simp)

/-- `Opt::check_unknown`. -/
def checkUnknown (opts : Opt) (known : List Str) : Except Err Unit :=
  match opts.keys.filter fun k => k ∉ known with
  | [] => .ok ()
  | [k] => .error { str := "unknown option: ".toList ++ k }
  | ks => .error { str := "unknown options: ".toList ++ ", ".toList.intercalate ks }

/-! ### Maps

The lookup lemmas of the library, with the comparison of the keys read as an
equality. -/

section Maps

variable {κ ν : Type} [Ord κ] [TransOrd κ] [LawfulEqOrd κ]
variable {t : ExtTreeMap κ ν} {k k' : κ} {v : ν}

theorem getElem?_insert_if [DecidableEq κ] : (t.insert k v)[k']? = if k = k' then some v else t[k']? := by
  rw [ExtTreeMap.getElem?_insert]
  simp only [Std.compare_eq_iff_eq]

theorem getElem?_erase_if [DecidableEq κ] : (t.erase k)[k']? = if k = k' then none else t[k']? := by
  rw [ExtTreeMap.getElem?_erase]
  simp only [Std.compare_eq_iff_eq]

theorem mem_insert_iff : k' ∈ t.insert k v ↔ k' = k ∨ k' ∈ t := by
  rw [ExtTreeMap.mem_insert, Std.compare_eq_iff_eq, eq_comm]

theorem mem_erase_iff : k' ∈ t.erase k ↔ k' ≠ k ∧ k' ∈ t := by
  rw [ExtTreeMap.mem_erase, ne_eq, Std.compare_eq_iff_eq, eq_comm]

/-- Storing the value a key already has changes nothing. -/
theorem insert_getElem?_self (h : t[k]? = some v) : t.insert k v = t := by
  classical
  refine ExtTreeMap.ext_getElem? fun {k'} => ?_
  rw [getElem?_insert_if]
  split
  · rename_i hk; rw [← hk, h]
  · rfl

end Maps

end Device2
