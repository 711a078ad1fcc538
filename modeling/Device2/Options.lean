/-
Device2/Options.lean

Texts as numbers, and options read as numbers: `str_to_type` and `Opt::get`.

Which number a text stands for is a parameter (`Readers`), and so is the splitting
of a message into words, which `Device2.ReadWords` fills in.  Numbers are exact.  What
is here is what comes on top of that: the range of the type, and the errors.
-/
import Device2.Basic

namespace Device2

/-! ### Texts as numbers -/

/-- What the libraries make of a text. -/
structure Readers where
  /-- `read_words` of the message after `unquote_words`, in lower case. -/
  words : Str → Except Err (List Str)
  /-- The integer a text stands for, decimal, or hexadecimal after `0x`. -/
  integer : Str → Option ℤ
  /-- The number a text stands for. -/
  real : Str → Option ℚ
  /-- The truth value a text stands for. -/
  bool : Str → Option Bool

/-- The error of all `str_to_type`. -/
def cantParse (s : Str) : Err := { str := "can't parse value: \"".toList ++ s ++ "\"".toList }

namespace Readers

variable (R : Readers)

/-- `str_to_type<unsigned int>`: a negative number is taken modulo `2^32`, one beyond
32 bits is refused. -/
def strToUnsigned (s : Str) : Except Err UInt32 :=
  match R.integer s with
  | some n => if n.natAbs < 2 ^ 32 then .ok (UInt32.ofInt n) else .error (cantParse s)
  | none => .error (cantParse s)

/-- `str_to_type<int>`: what `str_to_type<unsigned int>` gives, as a signed number. -/
def strToInt (s : Str) : Except Err ℤ := (R.strToUnsigned s).map fun u => u.toInt32.toInt

/-- `str_to_type<double>`, in exact arithmetic. -/
def strToDouble (s : Str) : Except Err ℚ :=
  match R.real s with
  | some q => .ok q
  | none => .error (cantParse s)

/-- `str_to_type<bool>`. -/
def strToBool (s : Str) : Except Err Bool :=
  match R.bool s with
  | some b => .ok b
  | none => .error (cantParse s)

variable {R}

theorem strToUnsigned_eq {s : Str} {n : ℤ} (h : R.integer s = some n) :
    R.strToUnsigned s =
      if n.natAbs < 2 ^ 32 then .ok (UInt32.ofInt n) else .error (cantParse s) := by
  rw [strToUnsigned, h]

theorem strToDouble_eq {s : Str} {q : ℚ} (h : R.real s = some q) : R.strToDouble s = .ok q := by
  rw [strToDouble, h]

end Readers

/-! ### Decimal numbers -/

section Decimals

/-- The number a row of decimal digits stands for. -/
def readDigits (s : Str) : Option Nat :=
  if s ≠ [] ∧ s.all Char.isDigit then some (s.foldl (fun n c => 10 * n + (c.toNat - 48)) 0)
  else none

def readInteger : Str → Option ℤ
  | '-' :: s => (readDigits s).map fun n => -(n : ℤ)
  | s => (readDigits s).map fun n => (n : ℤ)

/-- Digits, and perhaps a point among them. -/
def readDecimal (s : Str) : Option ℚ :=
  match s.splitOn '.' with
  | [u] => (readDigits u).map fun n => (n : ℚ)
  | [u, v] => (readDigits (u ++ v)).map fun n => (n : ℚ) / 10 ^ v.length
  | _ => none

/-- Readers of words with spaces between them, decimal numbers, and 0 and 1. -/
def decimalReaders : Readers where
  words := fun s => .ok (((s.map toLower).splitOn ' ').filter (· ≠ []))
  integer := readInteger
  real := fun s =>
    match s with
    | '-' :: s => (readDecimal s).map fun q => -q
    | s => readDecimal s
  bool := fun s => if s = "1".toList then some true else if s = "0".toList then some false else none

end Decimals

/-! ### Options -/

/-- `Opt::get` of a text. -/
def optStr (opts : Opt) (key dflt : Str) : Str := (opts[key]?).getD dflt

/-- `Opt::get` with a conversion. -/
def optGet {α : Type} (parse : Str → Except Err α) (opts : Opt) (key : Str) (dflt : α) :
    Except Err α :=
  match opts[key]? with
  | some v => parse v
  | none => .ok dflt

/-- The value of the option, if it is given, is one of these. -/
def Given (opts : Opt) (key : Str) (P : Str → Prop) : Prop := ∀ v, opts[key]? = some v → P v

theorem mem_of_getElem?_eq_some {opts : Opt} {key v : Str} (h : opts[key]? = some v) :
    key ∈ opts := by
  rw [Std.ExtTreeMap.mem_iff_isSome_getElem?, h, Option.isSome_some]

theorem not_mem_of_getElem?_eq_none {opts : Opt} {key : Str} (h : opts[key]? = none) :
    key ∉ opts := by
  rw [Std.ExtTreeMap.mem_iff_isSome_getElem?, h, Option.isSome_none]
  exact Bool.false_ne_true

theorem optGet_ok_iff {α : Type} {parse : Str → Except Err α} {opts : Opt} {key : Str} (dflt : α) :
    (∃ a, optGet parse opts key dflt = .ok a) ↔ Given opts key fun v => ∃ a, parse v = .ok a := by
  rw [optGet, Given]
  rcases e : opts[key]? with - | v
  · simp
  · simp

theorem checkUnknown_ok_iff {opts : Opt} {known : List Str} :
    checkUnknown opts known = .ok () ↔ ∀ k ∈ opts, k ∈ known := by
  have hkeys : (∀ k ∈ opts, k ∈ known) ↔ opts.keys.filter (fun k => k ∉ known) = [] := by
    rw [List.filter_eq_nil_iff]
    simp
  rw [hkeys]
  rw [checkUnknown]
  rcases e : opts.keys.filter fun k => k ∉ known with - | ⟨k, - | ⟨k', ks⟩⟩
  · simp
  · simp
  · simp

end Device2
