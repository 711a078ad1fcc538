/-
Device2/SppFormat.lean

The answer format of the Simple Pipe Protocol (`Readme.md`), and what
`Driver_spp::read_spp` makes of it.

A program that answers with the lines `ls` doubles the special symbol where a
line starts with it, and writes one final line after them (`encode`).  The reader
should give `ls` back, joined by newlines, or throw the text of the error
(`decoded`).  It does so exactly for the `Decodable` answers.  Two things stand
in its way:

* the separator is written once there is some text, so empty lines at the
  beginning are lost;
* a doubled symbol is looked at only after the control words, so a line that
  reads `OK`, `Error: ...` or `Fatal: ...` ends the answer if its first letter
  happens to be the special symbol (`Clash`).
-/
import Device2.Spp

namespace Device2

open Lines

namespace Reply

/-! ### The format -/

/-- A line of an answer as the protocol writes it. -/
def protect (ch : Char) (l : Str) : Str := if l.head? = some ch then ch :: l else l

/-- The answer with the lines `ls`. -/
def encode (ch : Char) (ls : List Str) (f : Final) : Reply where
  data := ls.map (protect ch)
  final := f

/-- What the answer stands for. -/
def decoded (ls : List Str) : Final → Except Err Str
  | .ok => .ok ([nl].intercalate ls)
  | .error text => .error { str := text }
  | .fatal text => .error { str := text }

/-- The protected line looks like a final one: it starts with the special symbol
and is one of the control words. -/
def Clash (ch : Char) (l : Str) : Prop :=
  l.head? = some ch ∧ (l.take 7 = "Error: ".toList ∨ l.take 7 = "Fatal: ".toList ∨ l = "OK".toList)

instance (ch : Char) (l : Str) : Decidable (Clash ch l) := by unfold Clash; infer_instance

/-- The answers the reader understands.  No line clashes with the control words,
and a successful answer does not begin with an empty line followed by others; or
the first line that clashes is an error with the text of the final error. -/
def Decodable (ch : Char) (ls : List Str) (f : Final) : Prop :=
  match ls.find? (Clash ch) with
  | none => f = .ok → ls.head? = some [] → ls.length = 1
  | some l => ∃ text, (f = .error text ∨ f = .fatal text) ∧
      (l = "Error: ".toList ++ text ∨ l = "Fatal: ".toList ++ text)

variable {ch : Char} {l : Str} {ls : List Str}

@[simp] theorem unprotect_protect (ch : Char) (l : Str) : unprotect ch (protect ch l) = l := by
  by_cases hl : l.head? = some ch
  · simp [protect, unprotect, hl]
  · simp [protect, unprotect, hl]

theorem drop_errorWord {text : Str} (h : l = "Error: ".toList ++ text ∨ l = "Fatal: ".toList ++ text) :
    l.drop 7 = text := by
  rcases h with rfl | rfl <;> rfl

/-- Protection is enough, except for the lines that clash. -/
theorem protected_protect (h : ¬ Clash ch l) : Protected ch (protect ch l) := by
  by_cases hl : l.head? = some ch
  · intro _
    rw [protect, if_pos hl]
    refine ⟨by rw [List.getElem?_cons_succ, ← List.head?_eq_getElem?]; exact hl, ?_⟩
    rintro ⟨-, hfin⟩
    exact h ⟨hl, hfin⟩
  · rw [protect, if_neg hl]
    exact fun hl' => absurd hl' hl

end Reply

/-! ### Reading an encoded answer -/

namespace DriverSpp

open Reply

variable {d : DriverSpp} {stop : GetlineEnd} {l ret : Str} {ls rest : List Str}

/-- The lines that do not clash come out as they went in. -/
theorem readSppLoop_encoded (h : ∀ l ∈ ls, ¬ Clash d.ch l) (rest : List Str) (ret : Str) :
    d.readSppLoop stop (ls.map (protect d.ch) ++ rest) ret =
      d.readSppLoop stop rest (ls.foldl (joinAfter nl) ret) := by
  have hprot : ∀ m ∈ ls.map (protect d.ch), Protected d.ch m := by
    intro m hm
    obtain ⟨l, hl, rfl⟩ := List.mem_map.mp hm
    exact protected_protect (h l hl)
  have hback : (ls.map (protect d.ch)).map (unprotect d.ch) = ls := by
    simp [Function.comp_def]
  rw [readSppLoop_append hprot, hback]

/-- A line that clashes ends the reading, as a final line would. -/
theorem readSppLoop_clash (stop : GetlineEnd) (rest : List Str) (ret : Str) (h : Clash d.ch l) :
    (l = "OK".toList ∧ d.readSppLoop stop (protect d.ch l :: rest) ret = (.ok ret, rest)) ∨
    (∃ text, (l = "Error: ".toList ++ text ∨ l = "Fatal: ".toList ++ text) ∧
      d.readSppLoop stop (protect d.ch l :: rest) ret = (.error { str := text }, rest)) := by
  obtain ⟨hl, hword⟩ := h
  rw [protect, if_pos hl]
  rcases hword with he | hf | ho
  · have hsplit : l = "Error: ".toList ++ l.drop 7 := by rw [← he, List.take_append_drop]
    refine .inr ⟨l.drop 7, .inl hsplit, ?_⟩
    rw [hsplit]
    exact readSppLoop_final (.error (l.drop 7))
  · have hsplit : l = "Fatal: ".toList ++ l.drop 7 := by rw [← hf, List.take_append_drop]
    refine .inr ⟨l.drop 7, .inr hsplit, ?_⟩
    rw [hsplit]
    exact readSppLoop_final (.fatal (l.drop 7))
  · rw [ho]
    exact .inl ⟨rfl, readSppLoop_final .ok⟩

/-- Lines left out of a text shorten it. -/
theorem intercalate_dropWhile_ne (pre post : List Str) (hl : l ≠ []) :
    [nl].intercalate (pre.dropWhile (· = [])) ≠ [nl].intercalate (pre ++ l :: post) := by
  intro heq
  have hle := length_intercalate_dropWhile_le (a := nl) pre
  have hlen := congrArg List.length heq
  have hpos : 0 < l.length := List.length_pos_iff.mpr hl
  rw [length_intercalate nl (pre ++ l :: post)] at hlen
  rw [length_intercalate nl pre] at hle
  simp only [List.map_append, List.map_cons, List.sum_append, List.sum_cons, List.length_append,
    List.length_cons] at hlen
  omega

/-- **The reader decodes exactly the decodable answers**: it gives the lines back
joined by newlines, or throws the text of the final error. -/
theorem readSpp_decodes_iff (d : DriverSpp) (stop : GetlineEnd) (ls : List Str) (f : Final) :
    (d.readSpp stop ((encode d.ch ls f).lines d.ch)).1 = decoded ls f ↔ Decodable d.ch ls f := by
  show (d.readSppLoop stop (ls.map (protect d.ch) ++ [f.line d.ch]) []).1 = _ ↔ _
  rcases hfind : ls.find? (Clash d.ch) with - | l
  · -- no line clashes: only the separators can go wrong
    have hnone : ∀ l ∈ ls, ¬ Clash d.ch l := fun l hl =>
      of_decide_eq_false (by simpa using List.find?_eq_none.mp hfind l hl)
    rw [readSppLoop_encoded hnone, readSppLoop_final, foldl_joinAfter]
    simp only [Decodable, hfind]
    cases f with
    | ok => simpa [decoded] using intercalate_dropWhile_iff (a := nl) ls
    | error text => simp [decoded]
    | fatal text => simp [decoded]
  · -- the reading ends at the first line that clashes
    obtain ⟨hclash, pre, post, rfl, hpre⟩ := List.find?_eq_some_iff_append.mp hfind
    have hnone : ∀ m ∈ pre, ¬ Clash d.ch m := fun m hm => by simpa using hpre m hm
    have hl : l ≠ [] := by rintro rfl; simp [Clash] at hclash
    rw [List.map_append, List.append_assoc, readSppLoop_encoded hnone, List.map_cons,
      List.cons_append]
    simp only [Decodable, hfind]
    rcases readSppLoop_clash stop (post.map (protect d.ch) ++ [f.line d.ch])
      (pre.foldl (joinAfter nl) []) (of_decide_eq_true hclash) with
      ⟨rfl, hr⟩ | ⟨text, htext, hr⟩
    · -- as if it were the end of a successful answer
      rw [hr, foldl_joinAfter]
      constructor
      · intro h
        cases f with
        | ok => exact absurd (Except.ok.inj h) (intercalate_dropWhile_ne pre post hl)
        | error text => cases h
        | fatal text => cases h
      · rintro ⟨text, -, h | h⟩ <;> simp at h
    · -- as if it were the end of a failed one
      rw [hr]
      constructor
      · intro h
        cases f with
        | ok => cases h
        | error t => cases h; exact ⟨text, .inl rfl, htext⟩
        | fatal t => cases h; exact ⟨text, .inr rfl, htext⟩
      · rintro ⟨t, hf, ht⟩
        obtain rfl : text = t := (drop_errorWord htext).symm.trans (drop_errorWord ht)
        rcases hf with rfl | rfl <;> rfl

/-- An empty first line is lost. -/
theorem readSpp_loses_empty_line :
    ((DriverSpp.mk "spp" '#' []).readSpp .eof ((encode '#' [[], "a".toList] .ok).lines '#')).1 ≠
      decoded [[], "a".toList] .ok := by
  decide

/-- With the special symbol `O` the line `OK` ends the answer. -/
example : ((DriverSpp.mk "spp" 'O' []).readSpp .eof
    ((encode 'O' ["a".toList, "OK".toList] .ok).lines 'O')).1 = .ok "a".toList := by decide

end DriverSpp

end Device2
