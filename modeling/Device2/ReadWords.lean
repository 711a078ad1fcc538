/-
Device2/ReadWords.lean

`read_words` and `unquote_words` (`modules/read_words/read_words.cpp`): the lines of
the device file, of the front ends' input and of the messages to some drivers.

`readWords` takes the words of one line off a stream.  Quotes and escapes may carry
a line over newline characters; empty lines and comments are passed over, so that no
words are returned only at the end of the stream.  What is read past the end of the
stream by an unfinished escape is left open by the source (`junk`).

The results are those of a lexer and its printer: a line written by `join_words` is
read as the words it was written from, in front of anything else
(`readWords_joinWords`), and a text of such lines, empty lines and comments is read
line by line, by the front ends and by `read_conf` (`text_roundTrip`).  A message that a
driver splits after `unquote_words` goes through the loop twice; if its words are plain
they come out in lower case (`messageWords_plain`).
-/
import Device2.Lib.RecordStream
import Device2.Client
import Device2.DevManager
import Device2.Options

namespace Device2

open RecordStream Lines

/-! ### Escapes -/

/-- The escapes of one character, with the characters they stand for. -/
def simpleEscapes : List (Char × Char) :=
  [('a', Char.ofNat 7), ('b', Char.ofNat 8), ('f', Char.ofNat 12), ('n', nl), ('r', '\r'),
    ('t', '\t'), ('v', Char.ofNat 11), ('\\', '\\'), (Char.ofNat 39, Char.ofNat 39),
    (Char.ofNat 34, Char.ofNat 34), ('?', '?'), ('#', '#'), (' ', ' '), ('\t', '\t')]

/-- `type char` keeps 8 bits. -/
def toChar (n : Nat) : Char := Char.ofNat (n % 256)

/-- The value of an octal digit. -/
def octValue (c : Char) : Option Nat :=
  if '0' ≤ c ∧ c ≤ '7' then some (c.toNat - '0'.toNat) else none

/-- The value of a hexadecimal digit, small or capital. -/
def hexDigitValue (c : Char) : Option Nat :=
  if '0' ≤ c ∧ c ≤ '9' then some (c.toNat - '0'.toNat)
  else if 'A' ≤ c ∧ c ≤ 'F' then some (c.toNat - ('A'.toNat - 10))
  else if 'a' ≤ c ∧ c ≤ 'f' then some (c.toNat - ('a'.toNat - 10))
  else none

/-- At most `k` more digits of an octal code; another character is put back. -/
def readOct (junk : Char) : (k : Nat) → (c : Nat) → Str → Nat × Str
  | 0, c, cs => (c, cs)
  | k + 1, c, cs =>
    match octValue (cs.headD junk) with
    | some d => readOct junk k (c * 8 + d) cs.tail
    | none => (c, cs)

/-- What follows a backslash: a protected newline, a character, or a mistake. -/
inductive Escape
  | newline (rest : Str)
  | char (c : Char) (rest : Str)
  | bad (text : Str) (rest : Str)

/-- The input behind an escape. -/
def Escape.rest : Escape → Str
  | newline rest => rest
  | char _ rest => rest
  | bad _ rest => rest

/-- The `switch` on the character behind a backslash. -/
def readEscape (junk : Char) : Str → Escape
  -- at the end of the input the backslash stays in the variable
  | [] => .char '\\' []
  | c :: cs =>
    if c = nl then .newline cs
    else
      match simpleEscapes.lookup c with
      | some c => .char c cs
      | none =>
        match octValue c with
        | some d =>
          let r := readOct junk 2 d cs
          .char (toChar r.1) r.2
        | none =>
          if c = 'x' then
            match hexDigitValue (cs.headD junk), hexDigitValue (cs.tail.headD junk) with
            | some x, some y => .char (toChar (16 * x + y)) (cs.drop 2)
            | _, _ => .bad "bad hex escape sequence" (cs.drop 2)
          else .bad "bad escape sequence" cs

theorem readOct_rest_le (junk : Char) (k c : Nat) (cs : Str) :
    (readOct junk k c cs).2.length ≤ cs.length := by
  induction k generalizing c cs with
  | zero => exact Nat.le_refl _
  | succ k ih =>
    rw [readOct]
    split
    · refine Nat.le_trans (ih _ _) ?_
      rw [List.length_tail]
      exact Nat.sub_le _ _
    · exact Nat.le_refl _

theorem readEscape_rest_le (junk : Char) (cs : Str) :
    (readEscape junk cs).rest.length ≤ cs.length := by
  cases cs with
  | nil => exact Nat.le_refl _
  | cons c cs =>
    have hdrop : (cs.drop 2).length ≤ cs.length + 1 := by
      rw [List.length_drop]; omega
    rw [readEscape]
    split
    · exact Nat.le_succ _
    · split
      · exact Nat.le_succ _
      · split
        · exact Nat.le_succ_of_le (readOct_rest_le ..)
        · split
          · split
            · exact hdrop
            · exact hdrop
          · exact Nat.le_succ _

/-! ### One call -/

/-- The variables of `read_words`. -/
structure Scan where
  /-- The words so far. -/
  ret : List Str := []
  /-- The word that is being read. -/
  str : Str := []
  quote1 : Bool := false
  quote2 : Bool := false
  comment : Bool := false
  /-- Empty strings are added if they were quoted. -/
  qq : Bool := false
  first : Bool := true
  /-- The line with the first character, and the lines so far. -/
  lineNum : Nat × Nat := (0, 0)

namespace Scan

/-- Between quotes of either kind. -/
def quoted (st : Scan) : Bool := st.quote1 || st.quote2

/-- The word ends here, if there is one. -/
def endWord (st : Scan) : Scan :=
  if st.str ≠ [] ∨ st.qq then { st with ret := st.ret ++ [st.str], str := [], qq := false }
  else { st with qq := false }

/-- `str += c`. -/
def addChar (st : Scan) (c : Char) : Scan :=
  { st with
    str := st.str ++ [c]
    lineNum := if st.first then (st.lineNum.2 + 1, st.lineNum.2) else st.lineNum
    first := false }

/-- A newline character has been read. -/
def countLine (st : Scan) : Scan := { st with lineNum := (st.lineNum.1, st.lineNum.2 + 1) }

end Scan

/-- What one call gives: the words or the error, the line numbers, the rest of the
stream. -/
structure Scanned where
  words : Except Err (List Str)
  lineNum : Nat × Nat
  rest : Str

/-- One pass of the loop: it goes on behind a part of the input, or the call ends. -/
inductive ScanStep
  | next (rest : Str) (st : Scan)
  | done (r : Scanned)

/-- The body of the loop for the character `c`, whose line has been counted; `lc`
asks for small letters. -/
def scanChar (junk : Char) (lc : Bool) (c : Char) (cs : Str) (st : Scan) : ScanStep :=
  -- end of line
  if c = nl ∧ st.quoted = false then
    if st.endWord.ret ≠ [] then .done ⟨.ok st.endWord.ret, st.lineNum, cs⟩
    else .next cs { st.endWord with comment := false }
  -- comments -- until end of line
  else if st.comment = true ∨ (c = '#' ∧ st.quoted = false) then
    .next cs { st with comment := true }
  else if c = '\\' then
    match readEscape junk cs with
    | .newline rest => .next rest st.countLine.endWord
    | .char c rest => .next rest (st.addChar c)
    | .bad text rest => .done ⟨.error { str := text }, st.lineNum, rest⟩
  else if c = Char.ofNat 34 ∧ st.quote2 = false then
    .next cs { st with quote1 := !st.quote1, qq := true }
  else if c = Char.ofNat 39 ∧ st.quote1 = false then
    .next cs { st with quote2 := !st.quote2, qq := true }
  -- word separators unless quoted
  else if st.quoted = false ∧ (c = ' ' ∨ c = '\t') then .next cs st.endWord
  else .next cs (st.addChar (if lc then toLower c else c))

/-- One pass of the loop. -/
def scanStep (junk : Char) (lc : Bool) (c : Char) (cs : Str) (st : Scan) : ScanStep :=
  scanChar junk lc c cs (if c = nl then st.countLine else st)

/-- Whatever the pass does, what it leaves of the input is behind `c`. -/
theorem scanStep_cases (junk : Char) (lc : Bool) (c : Char) (cs : Str) (st : Scan) :
    (∃ rest st', scanStep junk lc c cs st = .next rest st' ∧ rest.length ≤ cs.length) ∨
    (∃ r, scanStep junk lc c cs st = .done r ∧ r.rest.length ≤ cs.length ∧ r.words ≠ .ok []) := by
  have hesc := readEscape_rest_le junk cs
  rw [scanStep]
  generalize (if c = nl then st.countLine else st) = st
  rw [scanChar]
  split
  · split
    · rename_i hret
      exact .inr ⟨_, rfl, Nat.le_refl _, fun h => hret (Except.ok.inj h)⟩
    · exact .inl ⟨_, _, rfl, Nat.le_refl _⟩
  split
  · exact .inl ⟨_, _, rfl, Nat.le_refl _⟩
  split
  · rcases e : readEscape junk cs with rest | ⟨c, rest⟩ | ⟨text, rest⟩
    · rw [e] at hesc
      exact .inl ⟨_, _, rfl, hesc⟩
    · rw [e] at hesc
      exact .inl ⟨_, _, rfl, hesc⟩
    · rw [e] at hesc
      exact .inr ⟨_, rfl, hesc, nofun⟩
  -- the other branches take one character
  repeat' split
  all_goals exact .inl ⟨_, _, rfl, Nat.le_refl _⟩

/-- The loop of `read_words`. -/
def scan (junk : Char) (lc : Bool) (s : Str) (st : Scan) : Scanned :=
  match s with
  | [] =>
    if st.quoted then ⟨.error { str := "Unclosed quote" }, st.lineNum, []⟩
    else ⟨.ok st.endWord.ret, st.lineNum, []⟩
  | c :: cs =>
    match _h : scanStep junk lc c cs st with
    | .done r => r
    | .next rest st' => scan junk lc rest st'
termination_by s.length
decreasing_by
  rcases scanStep_cases junk lc c cs st with ⟨rest', st', h, hle⟩ | ⟨r, h, -⟩
  · rw [_h] at h
    cases h
    exact Nat.lt_succ_of_le hle
  · rw [_h] at h
    cases h

section Loop
variable {junk : Char} {lc : Bool} {st st' : Scan} {c : Char} {s cs rest : Str} {r : Scanned}

theorem scan_next (h : scanStep junk lc c cs st = .next rest st') :
    scan junk lc (c :: cs) st = scan junk lc rest st' := by
  rw [scan]
  split <;> rename_i e <;> rw [h] at e <;> cases e
  rfl

theorem scan_done (h : scanStep junk lc c cs st = .done r) : scan junk lc (c :: cs) st = r := by
  rw [scan]
  split <;> rename_i e <;> rw [h] at e <;> cases e
  rfl

/-- What is left over is behind the first character. -/
theorem scan_rest_le (junk : Char) (lc : Bool) (s : Str) (st : Scan) :
    (scan junk lc s st).rest.length ≤ s.length - 1 := by
  induction hn : s.length using Nat.strongRecOn generalizing s st with
  | ind n ih =>
    cases s with
    | nil => rw [scan]; split <;> exact Nat.zero_le _
    | cons c cs =>
      rcases scanStep_cases junk lc c cs st with ⟨rest, st', h, hle⟩ | ⟨r, h, hle, -⟩
      · have hlt : rest.length < n := by rw [← hn]; exact Nat.lt_succ_of_le hle
        have := ih rest.length hlt rest st' rfl
        rw [scan_next h]
        rw [List.length_cons] at hn
        omega
      · rw [scan_done h, ← hn]
        exact hle

end Loop

/-- `read_words(ss, line_num, lc)`: `num` says whether the caller asks for the line
numbers.  If it does not they are counted all the same, and nobody sees them. -/
def readWordsLine (junk : Char) (lc num : Bool) (lineNum : Nat × Nat) (s : Str) : Scanned :=
  let r := scan junk lc s { lineNum }
  if num then
    { r with words := r.words.mapError fun e =>
        { e with str := e.str ++ " in line ".toList ++ typeToStr r.lineNum.2 } }
  else r

/-- `read_words(ss)`: the words of one line, and the rest of the stream. -/
def readWords (junk : Char) (s : Str) : Except Err (List Str) × Str :=
  let r := readWordsLine junk false false (0, 0) s
  (r.words, r.rest)

section Call
variable {junk : Char} {lc num : Bool} {l : Nat × Nat} {s : Str}

@[simp] theorem readWordsLine_rest :
    (readWordsLine junk lc num l s).rest = (scan junk lc s { lineNum := l }).rest := by
  rw [readWordsLine]; split <;> rfl

@[simp] theorem readWordsLine_lineNum :
    (readWordsLine junk lc num l s).lineNum = (scan junk lc s { lineNum := l }).lineNum := by
  rw [readWordsLine]; split <;> rfl

theorem readWordsLine_words_ok {ws : List Str} :
    (readWordsLine junk lc num l s).words = .ok ws ↔
      (scan junk lc s { lineNum := l }).words = .ok ws := by
  rw [readWordsLine]
  cases num with
  | false => rfl
  | true =>
    show (scan junk lc s { lineNum := l }).words.mapError _ = _ ↔ _
    rcases (scan junk lc s { lineNum := l }).words with e | ws' <;> simp [Except.mapError]

end Call

/-- A stream of lines; the position is the pair of line numbers. -/
def lineReader (junk : Char) (lc num : Bool) : Reader (Nat × Nat) Char ReadWords where
  read := fun l s =>
    let r := readWordsLine junk lc num l s
    (if r.words = .ok [] then none else some ⟨r.lineNum.1, r.words⟩, r.lineNum, r.rest)
  progress := by
    intro l s b h
    have hle := scan_rest_le junk lc s { lineNum := l }
    cases s with
    | nil =>
      have hnil : (readWordsLine junk lc num l []).words = .ok [] := by
        rw [readWordsLine_words_ok, scan]; rfl
      simp only [hnil, if_pos] at h
      cases h
    | cons c cs =>
      show (readWordsLine junk lc num l (c :: cs)).rest.length < _
      rw [readWordsLine_rest]
      exact Nat.lt_succ_of_le hle

/-- The device file, call by call: `read_conf` asks for the line numbers. -/
def confLines (junk : Char) (s : Str) : List ReadWords :=
  (lineReader junk false true).records (0, 0) s

/-- The requests of a front end, call by call. -/
def inputLines (junk : Char) (s : Str) : List (Except Err (List Str)) :=
  ((lineReader junk false false).records (0, 0) s).map ReadWords.words

/-- `unquote_words`: the words of all lines, with single spaces between them once
there is some text. -/
def unquoteWords (junk : Char) (s : Str) : Except Err Str :=
  (inputLines junk s).foldlM (fun ret words => words.map (·.foldl (joinAfter ' ') ret)) []

/-! ### What `join_words` writes -/

/-- A word as `join_words` writes it. -/
def wordText (w : Str) : Str :=
  let str := escapeWord w
  let quote := if ' ' ∈ str ∨ '\t' ∈ str ∨ nl ∈ str ∨ str = [] then [Char.ofNat 34] else []
  quote ++ str ++ quote

/-- Some characters make `join_words` put a word between quotes, and so does the lack
of any. -/
def NeedsQuotes (w : Str) : Prop := ' ' ∈ w ∨ '\t' ∈ w ∨ nl ∈ w ∨ w = []

theorem mem_escapeWord {w : Str} {c : Char} (hc : c ≠ '\\') : c ∈ escapeWord w ↔ c ∈ w := by
  induction w with
  | nil => rfl
  | cons x w ih =>
    show c ∈ (if x ∈ _ then ['\\', x] else [x]) ++ escapeWord w ↔ _
    rw [List.mem_append, ih, List.mem_cons (b := x)]
    apply or_congr_left
    split <;> simp [hc]

theorem escapeWord_eq_nil {w : Str} : escapeWord w = [] ↔ w = [] := by
  cases w with
  | nil => simp [escapeWord]
  | cons c w =>
    show (if c ∈ _ then ['\\', c] else [c]) ++ escapeWord w = [] ↔ _
    split <;> simp

open scoped Classical in
theorem wordText_eq (w : Str) :
    wordText w = if NeedsQuotes w then Char.ofNat 34 :: (escapeWord w ++ [Char.ofNat 34])
      else escapeWord w := by
  have hq : (' ' ∈ escapeWord w ∨ '\t' ∈ escapeWord w ∨ nl ∈ escapeWord w ∨ escapeWord w = []) ↔
      NeedsQuotes w := by
    rw [mem_escapeWord (by decide), mem_escapeWord (by decide), mem_escapeWord (by decide),
      escapeWord_eq_nil]
    rfl
  rw [wordText]
  by_cases h : NeedsQuotes w
  · rw [if_pos h]; simp [if_pos (hq.mpr h)]
  · rw [if_neg h]; simp [if_neg (mt hq.mp h)]

theorem wordText_ne_nil (w : Str) : wordText w ≠ [] := by
  rw [wordText_eq]
  split
  · exact List.cons_ne_nil _ _
  · rename_i h
    exact fun he => h (.inr (.inr (.inr (escapeWord_eq_nil.mp he))))

/-- The words are written one after the other, with single spaces. -/
theorem joinWords_cons (w : Str) (ws : List Str) :
    joinWords (w :: ws) = wordText w ++ ws.flatMap (' ' :: wordText ·) := by
  have hfold : ∀ (ws : List Str) (acc : Str), acc ≠ [] →
      ws.foldl (fun ret w => (if ret.length > 0 then ret ++ [' '] else ret) ++
        (if ' ' ∈ escapeWord w ∨ '\t' ∈ escapeWord w ∨ nl ∈ escapeWord w ∨ escapeWord w = [] then
          [Char.ofNat 34] else []) ++ escapeWord w ++
        (if ' ' ∈ escapeWord w ∨ '\t' ∈ escapeWord w ∨ nl ∈ escapeWord w ∨ escapeWord w = [] then
          [Char.ofNat 34] else [])) acc = acc ++ ws.flatMap (' ' :: wordText ·) := by
    intro ws
    induction ws with
    | nil => intro acc _; simp
    | cons v ws ih =>
      intro acc hacc
      rw [List.foldl_cons, if_pos (List.length_pos_iff.mpr hacc), ih _ (by simp [hacc])]
      simp [wordText]
  have hw := hfold ws (wordText w) (wordText_ne_nil w)
  rw [← hw]
  rfl

/-! ### Reading it again -/

/-- A character of a word comes in. -/
def Scan.feed (st : Scan) (c : Char) : Scan := (if c = nl then st.countLine else st).addChar c

/-- Of the variables only the word and the line numbers change. -/
theorem foldl_feed (w : Str) (st : Scan) :
    ∃ f l, w.foldl Scan.feed st = { st with str := st.str ++ w, first := f, lineNum := l } := by
  induction w generalizing st with
  | nil => exact ⟨st.first, st.lineNum, by rw [List.append_nil]; rfl⟩
  | cons c w ih =>
    obtain ⟨f, l, h⟩ := ih (st.feed c)
    refine ⟨f, l, ?_⟩
    rw [List.foldl_cons, h, Scan.feed]
    split <;> simp [Scan.addChar, Scan.countLine]

section Reading
variable {junk : Char} {st : Scan} {c : Char} {cs rest w : Str} {ws ret : List Str}

/-- The four characters with an escape in `join_words`. -/
theorem scanStep_escaped (hcom : st.comment = false)
    (hc : c ∈ ['\\', Char.ofNat 34, Char.ofNat 39, '#']) (cs : Str) :
    scanStep junk false '\\' (c :: cs) st = .next cs (st.feed c) := by
  have hread : readEscape junk (c :: cs) = .char c cs ∧ c ≠ nl := by
    simp only [List.mem_cons, List.not_mem_nil, or_false] at hc
    rcases hc with rfl | rfl | rfl | rfl <;> exact ⟨rfl, by decide⟩
  have hnl : ¬ '\\' = nl := by decide
  have hhash : ¬ '\\' = '#' := by decide
  rw [scanStep, if_neg hnl, scanChar, if_neg (fun h => hnl h.1), if_neg (by simp [hcom, hhash]),
    if_pos rfl, hread.1, Scan.feed, if_neg hread.2]

/-- Any other character, if it is between quotes or separates nothing. -/
theorem scanStep_plain (hcom : st.comment = false)
    (hc : c ∉ ['\\', Char.ofNat 34, Char.ofNat 39, '#'])
    (hsep : st.quote1 = true ∨ (c ≠ ' ' ∧ c ≠ '\t' ∧ c ≠ nl)) (cs : Str) :
    scanStep junk false c cs st = .next cs (st.feed c) := by
  simp only [List.mem_cons, List.not_mem_nil, or_false, not_or] at hc
  obtain ⟨h₁, h₂, h₃, h₄⟩ := hc
  rw [scanStep, scanChar, Scan.feed]
  by_cases hnl : c = nl
  · -- a newline character between quotes
    have hq₁ : st.quote1 = true := by
      rcases hsep with h | h
      · exact h
      · exact absurd hnl h.2.2
    subst hnl
    simp [Scan.countLine, Scan.quoted, hq₁, hcom, h₁, h₂, h₄]
  · rcases hsep with hq₁ | ⟨hsp, htab, -⟩
    · simp [Scan.quoted, hq₁, hcom, h₁, h₂, h₃, h₄, hnl]
    · simp [hcom, h₁, h₂, h₃, h₄, hnl, hsp, htab]

theorem scan_escapeWord (hcom : st.comment = false)
    (hsep : st.quote1 = true ∨ (' ' ∉ w ∧ '\t' ∉ w ∧ nl ∉ w)) (rest : Str) :
    scan junk false (escapeWord w ++ rest) st = scan junk false rest (w.foldl Scan.feed st) := by
  induction w generalizing st with
  | nil => rfl
  | cons c w ih =>
    have hfeed : (st.feed c).comment = st.comment ∧ (st.feed c).quote1 = st.quote1 := by
      rw [Scan.feed]; split <;> exact ⟨rfl, rfl⟩
    have htail : st.quote1 = true ∨ (' ' ∉ w ∧ '\t' ∉ w ∧ nl ∉ w) :=
      hsep.imp id fun h => ⟨fun hm => h.1 (List.mem_cons_of_mem _ hm),
        fun hm => h.2.1 (List.mem_cons_of_mem _ hm), fun hm => h.2.2 (List.mem_cons_of_mem _ hm)⟩
    have hhead : st.quote1 = true ∨ (c ≠ ' ' ∧ c ≠ '\t' ∧ c ≠ nl) :=
      hsep.imp id fun h => ⟨fun he => h.1 (he ▸ List.mem_cons_self),
        fun he => h.2.1 (he ▸ List.mem_cons_self), fun he => h.2.2 (he ▸ List.mem_cons_self)⟩
    have ih' := @ih (st.feed c) (hfeed.1.trans hcom) (hfeed.2 ▸ htail)
    rw [List.foldl_cons, ← ih']
    show scan junk false ((if c ∈ _ then ['\\', c] else [c]) ++ escapeWord w ++ rest) st = _
    split
    · rename_i hc
      exact scan_next (scanStep_escaped hcom hc _)
    · rename_i hc
      exact scan_next (scanStep_plain hcom hc hhead _)

/-- **One word.**  Between words, what `join_words` writes for a word is read as this
word; it is kept even if it is empty. -/
theorem scan_wordText (junk : Char) (w rest : Str) (ret : List Str) (f : Bool) (l : Nat × Nat) :
    ∃ qq f' l', (w ≠ [] ∨ qq = true) ∧
      scan junk false (wordText w ++ rest) { ret, first := f, lineNum := l } =
        scan junk false rest { ret, str := w, qq, first := f', lineNum := l' } := by
  rw [wordText_eq]
  split
  · -- the quotes open, and close behind the word
    obtain ⟨f', l', hfeed⟩ := foldl_feed w { ret, quote1 := true, qq := true, first := f, lineNum := l }
    refine ⟨true, f', l', .inr rfl, ?_⟩
    have hopen : scanStep junk false (Char.ofNat 34) (escapeWord w ++ [Char.ofNat 34] ++ rest)
        { ret, first := f, lineNum := l } =
          .next (escapeWord w ++ [Char.ofNat 34] ++ rest)
            { ret, quote1 := true, qq := true, first := f, lineNum := l } := rfl
    rw [List.cons_append, scan_next hopen, List.append_assoc, scan_escapeWord rfl (.inl rfl), hfeed]
    exact scan_next rfl
  · rename_i hno
    obtain ⟨f', l', hfeed⟩ := foldl_feed w { ret, first := f, lineNum := l }
    obtain ⟨hsp, htab, hnl, hne⟩ : ' ' ∉ w ∧ '\t' ∉ w ∧ nl ∉ w ∧ w ≠ [] := by
      simpa only [NeedsQuotes, not_or] using hno
    refine ⟨false, f', l', .inl hne, ?_⟩
    rw [scan_escapeWord rfl (.inr ⟨hsp, htab, hnl⟩), hfeed]
    rfl

/-- A word ends at a separator. -/
theorem endWord_word {qq f : Bool} {l : Nat × Nat} (h : w ≠ [] ∨ qq = true) :
    ({ ret, str := w, qq, first := f, lineNum := l } : Scan).endWord =
      { ret := ret ++ [w], first := f, lineNum := l } := if_pos h

/-- Words one after the other. -/
theorem scan_joinWords (junk : Char) (w : Str) (ws : List Str) (rest : Str) (ret : List Str)
    (f : Bool) (l : Nat × Nat) :
    ∃ ret' v qq f' l', ret' ++ [v] = ret ++ w :: ws ∧ (v ≠ [] ∨ qq = true) ∧
      scan junk false (wordText w ++ ws.flatMap (' ' :: wordText ·) ++ rest)
          { ret, first := f, lineNum := l } =
        scan junk false rest { ret := ret', str := v, qq, first := f', lineNum := l' } := by
  induction ws generalizing w ret f l with
  | nil =>
    obtain ⟨qq, f', l', hw, h⟩ := scan_wordText junk w rest ret f l
    exact ⟨ret, w, qq, f', l', rfl, hw, by simpa using h⟩
  | cons v ws ih =>
    obtain ⟨qq, f₁, l₁, hw, h⟩ := scan_wordText junk w
      (' ' :: (wordText v ++ ws.flatMap (' ' :: wordText ·) ++ rest)) ret f l
    obtain ⟨ret', v', qq', f', l', hret, hv', h'⟩ := ih v (ret ++ [w]) f₁ l₁
    refine ⟨ret', v', qq', f', l', by rw [hret]; simp, hv', ?_⟩
    have hspace : scanStep junk false ' ' (wordText v ++ ws.flatMap (' ' :: wordText ·) ++ rest)
        { ret, str := w, qq, first := f₁, lineNum := l₁ } =
          .next (wordText v ++ ws.flatMap (' ' :: wordText ·) ++ rest)
            { ret := ret ++ [w], first := f₁, lineNum := l₁ } := by
      rw [← endWord_word hw]; rfl
    rw [← h', ← scan_next hspace, ← h]
    simp

/-- At the end of the line the words are returned. -/
theorem scan_newline {v : Str} {qq f : Bool} {l : Nat × Nat} (h : v ≠ [] ∨ qq = true) (rest : Str) :
    scan junk false (nl :: rest) { ret, str := v, qq, first := f, lineNum := l } =
      ⟨.ok (ret ++ [v]), (l.1, l.2 + 1), rest⟩ := by
  have hend : ({ ret, str := v, qq, first := f, lineNum := (l.1, l.2 + 1) } : Scan).endWord =
      { ret := ret ++ [v], first := f, lineNum := (l.1, l.2 + 1) } := endWord_word h
  apply scan_done
  show (if _ then ScanStep.done _ else _) = _
  rw [if_pos]
  · show ScanStep.done ⟨.ok (Scan.endWord { ret, str := v, qq, first := f, lineNum := (l.1, l.2 + 1) }).ret,
      (l.1, l.2 + 1), rest⟩ = _
    rw [hend]
  · show (Scan.endWord { ret, str := v, qq, first := f, lineNum := (l.1, l.2 + 1) }).ret ≠ []
    rw [hend]
    simp

end Reading

/-! ### The lines of a text -/

/-- A line of a text: words as `join_words` writes them, or blanks and perhaps a
comment. -/
inductive TextLine
  | words (ws : List Str) (ws_ne_nil : ws ≠ [])
  | blank (indent : Str) (indent_blank : ∀ c ∈ indent, c = ' ' ∨ c = '\t') (comment : Option Str)
      (comment_line : ∀ t ∈ comment, nl ∉ t)

namespace TextLine

/-- The line as it stands in the text. -/
def text : TextLine → Str
  | words ws _ => joinWords ws ++ [nl]
  | blank indent _ none _ => indent ++ [nl]
  | blank indent _ (some t) _ => indent ++ '#' :: t ++ [nl]

/-- The words to be read. -/
def read : TextLine → Option (Except Err (List Str))
  | words ws _ => some (.ok ws)
  | blank .. => none

end TextLine

section Lines
variable {junk : Char} {lc num : Bool} {s : Str}

/-- A line of words is read as these words. -/
theorem scan_line (junk : Char) {ws : List Str} (h : ws ≠ []) (s : Str) (f : Bool) (l : Nat × Nat) :
    ∃ l', scan junk false (joinWords ws ++ nl :: s) { first := f, lineNum := l } = ⟨.ok ws, l', s⟩ := by
  obtain ⟨w, ws, rfl⟩ := List.exists_cons_of_ne_nil h
  obtain ⟨ret, v, qq, f', l', hret, hv, hscan⟩ := scan_joinWords junk w ws (nl :: s) [] f l
  refine ⟨(l'.1, l'.2 + 1), ?_⟩
  rw [joinWords_cons, hscan, scan_newline hv, hret]
  rfl

/-- **The round trip.**  What `join_words` writes is read as the words it was written
from, whatever they contain, and the rest of the stream is left alone. -/
theorem readWords_joinWords (junk : Char) {ws : List Str} (h : ws ≠ []) (s : Str) :
    readWords junk (joinWords ws ++ nl :: s) = (.ok ws, s) := by
  obtain ⟨l', hscan⟩ := scan_line junk h s true (0, 0)
  show (Scanned.words (scan ..), Scanned.rest (scan ..)) = _
  rw [hscan]

/-- Nothing of a comment is read. -/
theorem scan_comment {t : Str} (ht : nl ∉ t) (s : Str) (l : Nat × Nat) :
    scan junk lc (t ++ nl :: s) { comment := true, lineNum := l } =
      scan junk lc s { lineNum := (l.1, l.2 + 1) } := by
  induction t with
  | nil => exact scan_next rfl
  | cons c t ih =>
    obtain ⟨hc, ht⟩ := not_or.mp (mt List.mem_cons.mpr ht)
    rw [← ih ht]
    refine scan_next ?_
    rw [scanStep, if_neg (Ne.symm hc), scanChar, if_neg (fun h => hc h.1.symm), if_pos (.inl rfl)]
    rfl

theorem scan_indent {indent : Str} (h : ∀ c ∈ indent, c = ' ' ∨ c = '\t') (s : Str) (l : Nat × Nat) :
    scan junk lc (indent ++ s) { lineNum := l } = scan junk lc s { lineNum := l } := by
  induction indent with
  | nil => rfl
  | cons c indent ih =>
    obtain ⟨hc, h⟩ := List.forall_mem_cons.mp h
    rw [← ih h]
    rcases hc with rfl | rfl
    · exact scan_next rfl
    · exact scan_next rfl

/-- An empty line is passed over. -/
theorem scan_blank (b : TextLine) (hb : b.read = none) (s : Str) (l : Nat × Nat) :
    scan junk lc (b.text ++ s) { lineNum := l } = scan junk lc s { lineNum := (l.1, l.2 + 1) } := by
  rcases b with ws | ⟨indent, hindent, - | t, ht⟩
  · cases hb
  · show scan junk lc (indent ++ [nl] ++ s) _ = _
    rw [List.append_assoc, scan_indent hindent]
    exact scan_next rfl
  · show scan junk lc (indent ++ '#' :: t ++ [nl] ++ s) _ = _
    rw [List.append_assoc, List.append_assoc, scan_indent hindent]
    refine (scan_next rfl).trans ?_
    rw [List.append_eq, List.singleton_append]
    exact scan_comment (ht t rfl) s l

/-- Every line is one call of `read_words`, or none. -/
theorem lineReader_encodes (junk : Char) (num : Bool) (b : TextLine) :
    (lineReader junk false num).Encodes ReadWords.words b.text b.read := by
  rcases hb : b.read with - | words
  · intro l s
    refine ⟨(l.1, l.2 + 1), ?_⟩
    have hline : readWordsLine junk false num l (b.text ++ s) =
        readWordsLine junk false num (l.1, l.2 + 1) s := by
      rw [readWordsLine, readWordsLine, scan_blank b hb s l]
    simp only [lineReader, hline]
  · rcases b with ⟨ws, h⟩ | ⟨indent, hindent, t, ht⟩
    · cases hb
      intro l s
      obtain ⟨l', hscan⟩ := scan_line junk h s true l
      refine ⟨⟨l'.1, .ok ws⟩, l', ?_, rfl⟩
      have hwords : (readWordsLine junk false num l (joinWords ws ++ nl :: s)).words = .ok ws :=
        readWordsLine_words_ok.mpr (by rw [hscan])
      show ((if _ then none else some _), _, _) = _
      rw [TextLine.text, List.append_assoc, List.singleton_append, hwords, readWordsLine_rest,
        readWordsLine_lineNum, hscan, if_neg (fun he => h (Except.ok.inj he))]
    · cases hb

/-- **A text is read line by line.**  Lines of words, empty lines and comments in any
number and order: the reader gives the words of each line of words, in their order,
and then what is in the rest of the stream. -/
theorem lineReader_text (junk : Char) (num : Bool) (bs : List TextLine) (l : Nat × Nat) (s : Str) :
    ∃ l', ((lineReader junk false num).records l (bs.flatMap TextLine.text ++ s)).map ReadWords.words =
      bs.filterMap TextLine.read ++ ((lineReader junk false num).records l' s).map ReadWords.words :=
  Reader.records_flatMap (fun b _ => lineReader_encodes junk num b) l s

/-- At the end of the stream there are no lines left. -/
theorem lineReader_nil (junk : Char) (lc num : Bool) (l : Nat × Nat) :
    (lineReader junk lc num).records l [] = [] := by
  apply Reader.records_of_none
  have hnil : (readWordsLine junk lc num l []).words = .ok [] := by
    rw [readWordsLine_words_ok, scan]; rfl
  exact if_pos hnil

theorem inputLines_text (junk : Char) (bs : List TextLine) :
    inputLines junk (bs.flatMap TextLine.text) = bs.filterMap TextLine.read := by
  obtain ⟨l', h⟩ := lineReader_text junk false bs (0, 0) []
  rw [List.append_nil, lineReader_nil, List.map_nil, List.append_nil] at h
  exact h

theorem confLines_text (junk : Char) (bs : List TextLine) :
    (confLines junk (bs.flatMap TextLine.text)).map ReadWords.words = bs.filterMap TextLine.read := by
  obtain ⟨l', h⟩ := lineReader_text junk true bs (0, 0) []
  rw [List.append_nil, lineReader_nil, List.map_nil, List.append_nil] at h
  exact h

/-- **Round trip of a text.**  Words of any characters, written line by line with empty
lines and comments in between, are read as these words and in these lines, with and
without line numbers; and one call reads one line and leaves what follows, even if that
cannot be read. -/
theorem text_roundTrip (junk : Char) (bs : List TextLine) (s : Str) :
    inputLines junk (bs.flatMap TextLine.text) = bs.filterMap TextLine.read ∧
    (confLines junk (bs.flatMap TextLine.text)).map ReadWords.words = bs.filterMap TextLine.read ∧
    (∀ ws (h : ws ≠ []), readWords junk ((TextLine.words ws h).text ++ s) = (.ok ws, s)) ∧
    ∃ l, ((lineReader junk false true).records (0, 0) (bs.flatMap TextLine.text ++ s)).map
        ReadWords.words =
      bs.filterMap TextLine.read ++ ((lineReader junk false true).records l s).map ReadWords.words := by
  refine ⟨inputLines_text junk bs, confLines_text junk bs, fun ws h => ?_,
    lineReader_text junk true bs (0, 0) s⟩
  rw [TextLine.text, List.append_assoc]
  exact readWords_joinWords junk h s

/-- A comment, words that need quotes and escapes, and an empty line. -/
example :
    let lines := [.blank [' '] (by simp) (some "# [a".toList) (by decide),
      .words ["my dev".toList, [], "it's #1".toList] (by simp), .blank [] (by simp) none (by simp)]
    inputLines '0' (lines.flatMap TextLine.text) = [.ok ["my dev".toList, [], "it's #1".toList]] := by
  intro lines
  decide +kernel

end Lines

/-! ### Messages to drivers -/

/-- `read_words` of the message after `unquote_words`, in lower case. -/
def messageWords (junk : Char) (msg : Str) : Except Err (List Str) :=
  (unquoteWords junk msg).bind fun s => (readWordsLine junk true false (0, 0) s).words

/-- The readers with the splitting of messages as it is in the program. -/
def Readers.withReadWords (R : Readers) (junk : Char) : Readers := { R with words := messageWords junk }

/-- A word that is written as it is. -/
structure PlainWord (w : Str) : Prop where
  ne_nil : w ≠ []
  plain : ∀ c ∈ w, c ∉ [' ', '\t', nl, '#', '\\', Char.ofNat 34, Char.ofNat 39]

instance (w : Str) : Decidable (PlainWord w) :=
  decidable_of_iff
    (w ≠ [] ∧ w.all fun c => c ∉ [' ', '\t', nl, '#', '\\', Char.ofNat 34, Char.ofNat 39])
    ⟨fun h => ⟨h.1, by simpa only [List.all_eq_true, decide_eq_true_eq] using h.2⟩,
      fun h => ⟨h.ne_nil, by simpa only [List.all_eq_true, decide_eq_true_eq] using h.plain⟩⟩

/-- Words with single spaces between them. -/
def spaced (w : Str) (ws : List Str) : Str := w ++ ws.flatMap (' ' :: ·)

section Messages
variable (junk : Char) (lc : Bool) {w : Str} {ws : List Str}

/-- A plain character goes into the word, perhaps as a small letter. -/
theorem scanStep_plain_char {st : Scan} {c : Char} (hcom : st.comment = false)
    (hc : c ∉ [' ', '\t', nl, '#', '\\', Char.ofNat 34, Char.ofNat 39]) (cs : Str) :
    scanStep junk lc c cs st = .next cs (st.addChar (if lc then toLower c else c)) := by
  simp only [List.mem_cons, List.not_mem_nil, or_false, not_or] at hc
  obtain ⟨hsp, htab, hnl, hhash, hesc, hdq, hsq⟩ := hc
  rw [scanStep, if_neg hnl, scanChar, if_neg fun h => hnl h.1,
    if_neg (by simp [hcom, hhash]), if_neg hesc, if_neg fun h => hdq h.1, if_neg fun h => hsq h.1,
    if_neg (by simp [hsp, htab])]

theorem scan_plain (hw : PlainWord w) (rest : Str) (ret : List Str) (f : Bool) (l : Nat × Nat) :
    ∃ f' l', scan junk lc (w ++ rest) { ret, first := f, lineNum := l } =
      scan junk lc rest
        { ret, str := w.map fun c => if lc then toLower c else c, first := f', lineNum := l' } := by
  have hstr : ∀ (w : Str) (str : Str) (f : Bool) (l : Nat × Nat),
      (∀ c ∈ w, c ∉ [' ', '\t', nl, '#', '\\', Char.ofNat 34, Char.ofNat 39]) →
      ∃ f' l', scan junk lc (w ++ rest) { ret, str, first := f, lineNum := l } =
        scan junk lc rest
          { ret, str := str ++ w.map (fun c => if lc then toLower c else c), first := f', lineNum := l' } := by
    intro w
    induction w with
    | nil =>
      intro str f l _
      exact ⟨f, l, by rw [List.map_nil, List.append_nil]; rfl⟩
    | cons c w ih =>
      intro str f l hplain
      obtain ⟨hc, hw⟩ := List.forall_mem_cons.mp hplain
      obtain ⟨f', l', h⟩ := ih (str ++ [if lc then toLower c else c]) false
        (if f then (l.2 + 1, l.2) else l) hw
      refine ⟨f', l', (scan_next (scanStep_plain_char junk lc rfl hc _)).trans ?_⟩
      rw [List.map_cons, List.append_cons]
      exact h
  exact hstr w [] f l hw.plain

/-- Plain words at the end of the stream. -/
theorem scan_spaced (hw : PlainWord w) (hws : ∀ v ∈ ws, PlainWord v) (ret : List Str) (f : Bool)
    (l : Nat × Nat) :
    ∃ l', scan junk lc (spaced w ws) { ret, first := f, lineNum := l } =
      ⟨.ok (ret ++ (w :: ws).map (·.map fun c => if lc then toLower c else c)), l', []⟩ := by
  induction ws generalizing w ret f l with
  | nil =>
    obtain ⟨f', l', h⟩ := scan_plain junk lc hw [] ret f l
    refine ⟨l', h.trans ?_⟩
    rw [scan, if_neg (by simp [Scan.quoted]), endWord_word (.inl (by simp [hw.ne_nil]))]
    rfl
  | cons v ws ih =>
    obtain ⟨hv, hws⟩ := List.forall_mem_cons.mp hws
    obtain ⟨f₁, l₁, h⟩ := scan_plain junk lc hw (' ' :: spaced v ws) ret f l
    obtain ⟨l', h'⟩ := ih hv hws (ret ++ [w.map fun c => if lc then toLower c else c]) f₁ l₁
    have hspace : scanStep junk lc ' ' (spaced v ws)
        { ret, str := w.map fun c => if lc then toLower c else c, first := f₁, lineNum := l₁ } =
          .next (spaced v ws)
            { ret := ret ++ [w.map fun c => if lc then toLower c else c], first := f₁, lineNum := l₁ } := by
      rw [← endWord_word (.inl (by simp [hw.ne_nil]))]
      rfl
    refine ⟨l', h.trans ((scan_next hspace).trans (h'.trans ?_))⟩
    rw [List.append_assoc]
    rfl

/-- Plain words are left alone by `unquote_words`. -/
theorem unquoteWords_spaced (hw : PlainWord w) (hws : ∀ v ∈ ws, PlainWord v) :
    unquoteWords junk (spaced w ws) = .ok (spaced w ws) := by
  have hlines : inputLines junk (spaced w ws) = [.ok (w :: ws)] := by
    obtain ⟨l', h⟩ := scan_spaced junk false hw hws [] true (0, 0)
    have hread : (lineReader junk false false).read (0, 0) (spaced w ws) =
        (some ⟨l'.1, .ok (w :: ws)⟩, l', []) := by
      simp [lineReader, readWordsLine, h]
    rw [inputLines, RecordStream.Reader.records_of_some hread, lineReader_nil]
    rfl
  rw [unquoteWords, hlines]
  show Except.ok ((w :: ws).foldl (joinAfter ' ') []) = _
  rw [List.foldl_cons, joinAfter_nil, foldl_joinAfter_of_ne_nil hw.ne_nil, spaced]

/-- **A message of plain words** gives these words, in lower case. -/
theorem messageWords_plain (hw : PlainWord w) (hws : ∀ v ∈ ws, PlainWord v) :
    messageWords junk (spaced w ws) = .ok ((w :: ws).map (·.map toLower)) := by
  obtain ⟨l', h⟩ := scan_spaced junk true hw hws [] true (0, 0)
  rw [messageWords, unquoteWords_spaced junk hw hws]
  show (scan junk true (spaced w ws) {}).words = _
  rw [h]
  rfl

end Messages

end Device2
