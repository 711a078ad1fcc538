/-
Device2/Spp.lean

The reader of the Simple Pipe Protocol: `Driver_spp::read_spp`, `write` and `ask`
(`server/drv_spp.cpp`).

`read_spp` takes the program's output line by line from `IOFilter::getline`.
Here that is a list of lines together with what comes when no line is left: the
end of the file, or the exception of a read timeout.  The reader gives the text
or the exception, and the lines it has not read.

A reply of a program is its data lines followed by one final line (`Reply`).
`readSpp_reply` says what the reader makes of one: it takes exactly the lines of
the reply, provided that no data line has an unprotected special character.

The tests `if (!flt)` at the head of the methods are not there: a constructor
that does not throw leaves `flt` set, and only the destructor resets it.
-/
import Device2.Basic
import Device2.Lib.Lines

namespace Device2

open Lines

/-! ### The driver -/

/-- What `getline` does when it has no line to deliver: it returns `-1` at the
end of the file, or throws (a read timeout). -/
inductive GetlineEnd
  | eof
  | throws (e : Err)
  deriving DecidableEq

/-- Class `Driver_spp`: the members that `ask` and `read_spp` read. -/
structure DriverSpp where
  prog : Str
  /-- Protocol special character. -/
  ch : Char
  idn : Str
  deriving DecidableEq

namespace DriverSpp

/-- The loop of `Driver_spp::read_spp`: text and unread lines. -/
def readSppLoop (d : DriverSpp) (stop : GetlineEnd) : List Str → Str → Except Err Str × List Str
  | [], _ =>
    match stop with
    | .eof => (.error { str := "SPP: unexpected EOF: ".toList ++ d.prog }, [])
    | .throws e => (.error e, [])
  | l :: ls, ret =>
    if l.head? = some d.ch then
      if (l.drop 1).take 7 = "Error: ".toList then (.error { str := l.drop 8 }, ls)
      else if (l.drop 1).take 7 = "Fatal: ".toList then (.error { str := l.drop 8 }, ls)
      else if l.drop 1 = "OK".toList then (.ok ret, ls)
      else
        let ret := if ret.length > 0 then ret ++ [nl] else ret
        if l[1]? = some d.ch then readSppLoop d stop ls (ret ++ l.drop 1)
        else (.error { str := "SPP: symbol ".toList ++ [d.ch]
          ++ " in the beginning of a line is not protected: ".toList ++ d.prog }, ls)
    else
      let ret := if ret.length > 0 then ret ++ [nl] else ret
      readSppLoop d stop ls (ret ++ l)

/-- `Driver_spp::read_spp`. -/
def readSpp (d : DriverSpp) (stop : GetlineEnd) (lines : List Str) : Except Err Str × List Str :=
  d.readSppLoop stop lines []

end DriverSpp

/-! ### Replies -/

/-- The last line of a reply. -/
inductive Final
  | ok
  | error (text : Str)
  | fatal (text : Str)
  deriving DecidableEq

/-- The final line as the program writes it. -/
def Final.line (ch : Char) : Final → Str
  | ok => ch :: "OK".toList
  | error text => ch :: ("Error: ".toList ++ text)
  | fatal text => ch :: ("Fatal: ".toList ++ text)

/-- A reply: data lines, as the program writes them, and the final line. -/
structure Reply where
  data : List Str
  final : Final
  deriving DecidableEq

namespace Reply

/-- The lines the program writes. -/
def lines (ch : Char) (r : Reply) : List Str := r.data ++ [r.final.line ch]

/-- A data line without its protection. -/
def unprotect (ch : Char) (l : Str) : Str := if l.head? = some ch then l.drop 1 else l

/-- The text of the reply: its data lines without the protection. -/
def text (ch : Char) (r : Reply) : Str := [nl].intercalate (r.data.map (unprotect ch))

/-- The reader takes the line for a final one. -/
def IsFinal (ch : Char) (l : Str) : Prop :=
  l.head? = some ch ∧ ((l.drop 1).take 7 = "Error: ".toList ∨ (l.drop 1).take 7 = "Fatal: ".toList ∨
    l.drop 1 = "OK".toList)

instance (ch : Char) (l : Str) : Decidable (IsFinal ch l) := by unfold IsFinal; infer_instance

/-- A data line the protocol allows: if it starts with the special character,
then with two of them, and it does not look like a final line. -/
def Protected (ch : Char) (l : Str) : Prop :=
  l.head? = some ch → l[1]? = some ch ∧ ¬ IsFinal ch l

instance (ch : Char) (l : Str) : Decidable (Protected ch l) := by unfold Protected; infer_instance

/-- The data do not begin with an empty line followed by other lines. -/
def StartsSolid (ch : Char) (r : Reply) : Prop :=
  (r.data.map (unprotect ch)).head? = some [] → r.data.length = 1

instance (ch : Char) (r : Reply) : Decidable (r.StartsSolid ch) := by
  unfold StartsSolid; infer_instance

/-- What the reader makes of a reply: the empty lines at the beginning are lost. -/
def received (ch : Char) (r : Reply) : Except Err Str :=
  match r.final with
  | .ok => .ok ([nl].intercalate ((r.data.map (unprotect ch)).dropWhile (· = [])))
  | .error text => .error { str := text }
  | .fatal text => .error { str := text }

theorem received_ok {ch : Char} {r : Reply} {s : Str} (h : r.received ch = .ok s) :
    r.final = .ok ∧ s = [nl].intercalate ((r.data.map (unprotect ch)).dropWhile (· = [])) := by
  rw [received] at h
  split at h
  · rename_i hf; cases h; exact ⟨hf, rfl⟩
  · cases h
  · cases h

/-- Nothing is lost of a reply that does not begin with an empty line. -/
theorem StartsSolid.text_eq {ch : Char} {r : Reply} (h : r.StartsSolid ch) :
    [nl].intercalate ((r.data.map (unprotect ch)).dropWhile (· = [])) = r.text ch :=
  (intercalate_dropWhile_iff _).mpr (by rw [List.length_map]; exact h)

end Reply

/-! ### What the reader does with a line -/

namespace DriverSpp

variable {d : DriverSpp} {stop : GetlineEnd} {l ret : Str} {ls : List Str}

theorem append_nl_if (ret l : Str) :
    (if ret.length > 0 then ret ++ [nl] else ret) ++ l = joinAfter nl ret l := by
  cases ret with
  | nil => simp
  | cons c ret => simp [joinAfter]

/-- A data line: one more line of the text. -/
theorem readSppLoop_data (h : Reply.Protected d.ch l) :
    d.readSppLoop stop (l :: ls) ret =
      d.readSppLoop stop ls (joinAfter nl ret (Reply.unprotect d.ch l)) := by
  rw [readSppLoop]
  by_cases hl : l.head? = some d.ch
  · obtain ⟨h₁, hfin⟩ := h hl
    simp only [Reply.IsFinal, not_and, not_or] at hfin
    obtain ⟨he, hf, ho⟩ := hfin hl
    rw [if_pos hl, if_neg he, if_neg hf, if_neg ho, Reply.unprotect, if_pos hl]
    simp only [h₁, if_true, append_nl_if]
  · rw [if_neg hl, Reply.unprotect, if_neg hl]
    simp only [append_nl_if]

/-- All data lines of a reply. -/
theorem readSppLoop_append (h : ∀ l ∈ ls, Reply.Protected d.ch l) (rest : List Str) (ret : Str) :
    d.readSppLoop stop (ls ++ rest) ret =
      d.readSppLoop stop rest ((ls.map (Reply.unprotect d.ch)).foldl (joinAfter nl) ret) := by
  induction ls generalizing ret with
  | nil => rfl
  | cons l ls ih =>
    rw [List.cons_append, readSppLoop_data (h l List.mem_cons_self),
      ih fun m hm => h m (List.mem_cons_of_mem l hm)]
    rfl

/-- The final line ends the reading: the text, or the program's error. -/
theorem readSppLoop_final (f : Final) :
    d.readSppLoop stop (f.line d.ch :: ls) ret =
      (match f with
        | .ok => .ok ret
        | .error text => .error { str := text }
        | .fatal text => .error { str := text }, ls) := by
  cases f <;> simp [readSppLoop, Final.line]

/-- **The reader takes exactly one reply**, whatever comes after it. -/
theorem readSpp_reply {r : Reply} (h : ∀ l ∈ r.data, Reply.Protected d.ch l) (rest : List Str) :
    d.readSpp stop (r.lines d.ch ++ rest) = (r.received d.ch, rest) := by
  rw [readSpp, Reply.lines, List.append_assoc, readSppLoop_append h, List.singleton_append,
    readSppLoop_final, foldl_joinAfter]
  unfold Reply.received
  split <;> rfl

/-- **What a line can be**: the final line of a successful reply, a line that
ends the reading with an error (the rest of an error line, or the complaint about
an unprotected line), or a data line. -/
theorem readSppLoop_cases (d : DriverSpp) (stop : GetlineEnd) (l : Str) (ls : List Str) (ret : Str) :
    (l = Final.ok.line d.ch ∧ d.readSppLoop stop (l :: ls) ret = (.ok ret, ls)) ∨
    (∃ e : Err, (e.str = l.drop 8 ∨ e.str = "SPP: symbol ".toList ++ [d.ch]
        ++ " in the beginning of a line is not protected: ".toList ++ d.prog) ∧
      d.readSppLoop stop (l :: ls) ret = (.error e, ls)) ∨
    (Reply.Protected d.ch l ∧ d.readSppLoop stop (l :: ls) ret =
      d.readSppLoop stop ls (joinAfter nl ret (Reply.unprotect d.ch l))) := by
  by_cases hprot : Reply.Protected d.ch l
  · exact .inr (.inr ⟨hprot, readSppLoop_data hprot⟩)
  · have hl : l.head? = some d.ch := by
      by_contra hl
      exact hprot fun h => absurd h hl
    obtain ⟨t, rfl⟩ : ∃ t, l = d.ch :: t := List.head?_eq_some_iff.mp hl
    rw [readSppLoop, if_pos hl]
    by_cases he : ((d.ch :: t).drop 1).take 7 = "Error: ".toList
    · rw [if_pos he]; exact .inr (.inl ⟨_, .inl rfl, rfl⟩)
    by_cases hf : ((d.ch :: t).drop 1).take 7 = "Fatal: ".toList
    · rw [if_neg he, if_pos hf]; exact .inr (.inl ⟨_, .inl rfl, rfl⟩)
    by_cases ho : (d.ch :: t).drop 1 = "OK".toList
    · rw [if_neg he, if_neg hf, if_pos ho]
      exact .inl ⟨congrArg (d.ch :: ·) ho, rfl⟩
    · -- not a final line: the second character is not the special one
      have h₁ : (d.ch :: t)[1]? ≠ some d.ch := by
        intro h₁
        refine hprot fun _ => ⟨h₁, ?_⟩
        simp only [Reply.IsFinal, not_and, not_or]
        exact fun _ => ⟨he, hf, ho⟩
      rw [if_neg he, if_neg hf, if_neg ho]
      simp only [if_neg h₁]
      exact .inr (.inl ⟨_, .inr rfl, rfl⟩)

/-- The reader leaves an end of the lines it was given. -/
theorem readSppLoop_suffix (d : DriverSpp) (stop : GetlineEnd) (ls : List Str) (ret : Str) :
    (d.readSppLoop stop ls ret).2 <:+ ls := by
  induction ls generalizing ret with
  | nil => cases stop <;> exact List.nil_suffix
  | cons l ls ih =>
    rcases readSppLoop_cases d stop l ls ret with ⟨-, hr⟩ | ⟨e, -, hr⟩ | ⟨-, hr⟩
    · rw [hr]; exact List.suffix_cons l ls
    · rw [hr]; exact List.suffix_cons l ls
    · rw [hr]; exact (ih _).trans (List.suffix_cons l ls)

/-- The reader gets through to a final line only over protected lines. -/
theorem readSppLoop_ok_iff {rest : List Str} {s : Str} :
    d.readSppLoop stop (ls ++ Final.ok.line d.ch :: rest) ret = (.ok s, rest) ↔
      (∀ l ∈ ls, Reply.Protected d.ch l) ∧
        s = (ls.map (Reply.unprotect d.ch)).foldl (joinAfter nl) ret := by
  constructor
  · intro h
    induction ls generalizing ret with
    | nil =>
      rw [List.nil_append, readSppLoop_final] at h
      cases h
      exact ⟨by simp, rfl⟩
    | cons l ls ih =>
      -- a reading that ends here leaves more lines than `rest`
      have hlen : ls ++ Final.ok.line d.ch :: rest ≠ rest := by
        intro heq
        have := congrArg List.length heq
        simp at this
        omega
      rw [List.cons_append] at h
      rcases readSppLoop_cases d stop l (ls ++ Final.ok.line d.ch :: rest) ret with
        ⟨-, hr⟩ | ⟨e, -, hr⟩ | ⟨hprot, hr⟩
      · rw [hr] at h
        exact absurd (Prod.mk.inj h).2 hlen
      · rw [hr] at h
        cases (Prod.mk.inj h).1
      · rw [hr] at h
        obtain ⟨hall, hs⟩ := ih h
        exact ⟨List.forall_mem_cons.mpr ⟨hprot, hall⟩, hs⟩
  · rintro ⟨hall, rfl⟩
    rw [readSppLoop_append hall, readSppLoop_final]

/-- The text of an error does not begin with a newline, as long as no line
contains one. -/
theorem readSppLoop_error_head (hnl : ∀ l ∈ ls, nl ∉ l) {e : Err}
    (h : (d.readSppLoop .eof ls ret).1 = .error e) : e.str.head? ≠ some nl := by
  induction ls generalizing ret with
  | nil => cases h; simp [nl]
  | cons l ls ih =>
    rcases readSppLoop_cases d .eof l ls ret with ⟨-, hr⟩ | ⟨e', he', hr⟩ | ⟨-, hr⟩
    · rw [hr] at h; cases h
    · rw [hr] at h
      obtain rfl : e' = e := Except.error.inj h
      rcases he' with he' | he'
      · intro hhead
        rw [he'] at hhead
        exact hnl l List.mem_cons_self (List.mem_of_mem_drop (List.mem_of_mem_head? hhead))
      · rw [he']; simp [nl]
    · rw [hr] at h
      exact ih (fun m hm => hnl m (List.mem_cons_of_mem l hm)) h

end DriverSpp

end Device2
