/-
Device2/ClientReplies.lean

A server of the Simple Pipe Protocol made of `device_c`: what `Driver_spp` at the
other end reads from the output of `use_dev` and `use_srv`.

The front ends write an answer as it is and an error text in one line.  So an
answer survives if and only if it does not begin with a newline and none of its
lines begins with `#` (`Transparent`): nothing is protected.  And the replies stay
in step with the requests if and only if every error text is exactly one line:
an empty text writes nothing at all, and a text of several lines leaves its tail
in the pipe.
-/
import Device2.Client

namespace Device2

open Lines

variable {σ : Type}

/-- The driver at the other end: the special symbol of the greeting is `#`. -/
abbrev peer (prog idn : Str) : DriverSpp := ⟨prog, '#', idn⟩

/-! ### One answer -/

/-- An answer that the reader takes for what it is. -/
def Transparent (answer : Str) : Prop :=
  answer.head? ≠ some nl ∧ ∀ l ∈ answer.splitOn nl, l.head? ≠ some '#'

instance (answer : Str) : Decidable (Transparent answer) := by
  unfold Transparent; infer_instance

theorem completeLines_answer (answer t : Str) :
    completeLines nl (replyText (.ok answer) ++ t) =
      answer.splitOn nl ++ Final.ok.line '#' :: completeLines nl t := by
  have hsplit : replyText (.ok answer) ++ t = answer ++ nl :: ("#OK".toList ++ nl :: t) := by
    simp [replyText]
  rw [hsplit, completeLines_append_cons, completeLines_line (by decide)]
  rfl

theorem unprotect_of_head_ne {ch : Char} {l : Str} (h : l.head? ≠ some ch) :
    Reply.unprotect ch l = l := if_neg h

/-- Taking the protection off never lengthens a line, and shortens those that
begin with the special character. -/
theorem length_unprotect_le (ch : Char) (l : Str) : (Reply.unprotect ch l).length ≤ l.length := by
  rw [Reply.unprotect]
  split <;> simp

theorem length_unprotect_lt {ch : Char} {l : Str} (h : l.head? = some ch) :
    (Reply.unprotect ch l).length < l.length := by
  obtain ⟨t, rfl⟩ := List.head?_eq_some_iff.mp h
  simp [Reply.unprotect]

/-- **One answer on the way through the pipe.**  The reader gets the answer back,
and reads exactly its lines, if and only if it is transparent. -/
theorem readSpp_answer_iff (prog idn : Str) (stop : GetlineEnd) (answer : Str) (rest : List Str) :
    (peer prog idn).readSpp stop
        (completeLines nl (replyText (.ok answer)) ++ rest) = (.ok answer, rest) ↔
      Transparent answer := by
  have hlines := completeLines_answer answer []
  rw [List.append_nil, completeLines_nil] at hlines
  rw [hlines, List.append_assoc, List.singleton_append, DriverSpp.readSpp,
    DriverSpp.readSppLoop_ok_iff, foldl_joinAfter]
  -- both sides now speak about the lines of the answer
  constructor
  · rintro ⟨-, htext⟩
    -- a line that begins with `#` would have come back shorter
    have hhash : ∀ l ∈ answer.splitOn nl, l.head? ≠ some '#' := by
      by_contra hex
      push Not at hex
      obtain ⟨l, hl, hhead⟩ := hex
      have hlt := length_intercalate_map_lt (a := nl) (length_unprotect_le '#')
        ⟨l, hl, length_unprotect_lt hhead⟩
      rw [List.intercalate_splitOn] at hlt
      have hle := length_intercalate_dropWhile_le (a := nl)
        ((answer.splitOn nl).map (Reply.unprotect '#'))
      rw [← htext] at hle
      omega
    refine ⟨?_, hhash⟩
    rw [List.map_congr_left fun l hl => unprotect_of_head_ne (hhash l hl), List.map_id'] at htext
    rw [← splitOn_head_iff, ← intercalate_dropWhile_iff (a := nl), ← htext,
      List.intercalate_splitOn]
  · rintro ⟨hnl, hhash⟩
    refine ⟨fun l hl hhead => absurd hhead (hhash l hl), ?_⟩
    rw [List.map_congr_left fun l hl => unprotect_of_head_ne (hhash l hl), List.map_id',
      (intercalate_dropWhile_iff (a := nl) _).mpr ((splitOn_head_iff nl answer).mpr hnl),
      List.intercalate_splitOn]

/-- **A remote device is transparent for an answer if and only if it does not
begin with a newline and none of its lines begins with `#`.**  What `use_dev`
writes for one successful request is read back as the answer, and no line more or
less is read. -/
theorem useDev_answer_iff (D : Downloader σ) (dev : Str) (lock : Bool) (name : Str)
    {pars : List Str} (hpars : pars ≠ []) {s s' : σ} {answer : Str}
    (hask : D.get "ask" dev (joinWords pars) s = (.ok answer, s')) (prog idn : Str)
    (stop : GetlineEnd) (rest : List Str) :
    (peer prog idn).readSpp stop
        (completeLines nl ((D.useDev dev lock name).loop [.ok pars] s).1 ++ rest) =
      (.ok answer, rest) ↔
    answer.head? ≠ some nl ∧ ∀ l ∈ answer.splitOn nl, l.head? ≠ some '#' := by
  have hout : ((D.useDev dev lock name).loop [.ok pars] s).1 = replyText (.ok answer) := by
    simp only [FrontEnd.loop, if_neg hpars, List.append_nil]
    exact congrArg (fun o => replyText (Prod.fst o)) hask
  rw [hout]
  exact readSpp_answer_iff prog idn stop answer rest

/-- A server with prepared responses, one for each request. -/
def preparedCurl : Curl (List (Nat × Str)) where
  escape := id
  perform := fun _ s =>
    match s with
    | [] => (.error "Couldn't connect to server", [])
    | r :: rs => (.ok r, rs)

/-- The client of that server. -/
def preparedClient : Downloader (List (Nat × Str)) := ⟨preparedCurl, "http://localhost:8082"⟩

/-- The answer `b c` to the request `ask`. -/
theorem useDev_answer_iff_prepared :
    (peer "device_c" []).readSpp .eof
        (completeLines nl ((preparedClient.useDev "a" false []).loop
          [.ok ["b".toList, "c".toList]] [(200, "b c".toList)]).1 ++ ["next".toList]) =
      (.ok "b c", ["next".toList]) ↔
    ("b c" : Str).head? ≠ some nl ∧ ∀ l ∈ ("b c" : Str).splitOn nl, l.head? ≠ some '#' :=
  useDev_answer_iff preparedClient "a" false [] (by decide) (by rfl) ..

/-- The answer `#1` is read as a protocol error. -/
theorem useDev_loses_hash_line :
    ¬ ∀ (D : Downloader (List (Nat × Str))) (dev : Str) (pars : List Str)
      (s s' : List (Nat × Str)) (answer : Str), pars ≠ [] →
      D.get "ask" dev (joinWords pars) s = (.ok answer, s') →
      ∀ (prog idn : Str) (stop : GetlineEnd),
        (peer prog idn).readSpp stop
          (completeLines nl ((D.useDev dev false []).loop [.ok pars] s).1) = (.ok answer, []) := by
  intro h
  have hread := h preparedClient "a" ["id".toList] [(200, "#1".toList)] [] "#1" (by decide) rfl
    "device_c" [] .eof
  have hlines : completeLines nl ((preparedClient.useDev "a" false []).loop
      [.ok ["id".toList]] [(200, "#1".toList)]).1 = ["#1".toList, "#OK".toList] := by decide
  rw [hlines] at hread
  exact absurd hread (by decide)

/-! ### Errors -/

/-- An error text is read back up to its first newline. -/
theorem readSpp_errorLine (prog idn : Str) (stop : GetlineEnd) {e : Err} (he : e.str ≠ [])
    (t : Str) :
    ∃ l rest, (peer prog idn).readSpp stop (completeLines nl (errorLine e ++ t)) =
        (.error { str := l }, rest) ∧
      (nl ∉ e.str ∧ l = e.str ∧ rest = completeLines nl t ∨ ∃ u, e.str = l ++ nl :: u) := by
  have hfirst : ∀ l u : Str, nl ∉ l → (peer prog idn).readSpp stop
      (completeLines nl (("#Error: ".toList ++ l) ++ nl :: u)) =
        (.error { str := l }, completeLines nl u) := by
    intro l u hl
    have hline : nl ∉ "#Error: ".toList ++ l := by
      rw [List.mem_append, not_or]
      exact ⟨by decide, hl⟩
    rw [completeLines_line hline]
    exact DriverSpp.readSppLoop_final (.error l)
  rcases splitOn_cases nl e.str with ⟨hnl, -⟩ | ⟨l, u, he', hl, -⟩
  · refine ⟨e.str, _, ?_, .inl ⟨hnl, rfl, rfl⟩⟩
    rw [← hfirst e.str t hnl, errorLine, if_pos he]
    simp
  · refine ⟨l, completeLines nl (u ++ nl :: t), ?_, .inr ⟨u, he'⟩⟩
    rw [← hfirst l (u ++ nl :: t) hl, errorLine, if_pos he, he']
    simp

/-! ### All replies of a session -/

/-- `n` calls of `read_spp`, one after the other: the texts that are returned or
thrown, and the lines left over. -/
def readReplies (d : DriverSpp) : Nat → List Str → List (Except Str Str) × List Str
  | 0, lines => ([], lines)
  | n + 1, lines =>
    let r := d.readSpp .eof lines
    let t := readReplies d n r.2
    (r.1.mapError Err.str :: t.1, t.2)

/-- The outcome fits into one reply. -/
def Framed : Except Err Str → Prop
  | .ok answer => Transparent answer
  | .error e => e.str ≠ [] ∧ nl ∉ e.str

/-- The reader gets each outcome in turn, and no line is left over. -/
def RepliesMatch (d : DriverSpp) (os : List (Except Err Str)) (out : Str) : Prop :=
  readReplies d os.length (completeLines nl out) = (os.map (Except.mapError Err.str), [])

/-- One call of `read_spp` for a framed outcome. -/
theorem readSpp_framed (prog idn : Str) (stop : GetlineEnd) {o : Except Err Str} (ho : Framed o)
    (t : Str) :
    ∃ r, (peer prog idn).readSpp stop (completeLines nl (replyText o ++ t)) =
        (r, completeLines nl t) ∧ r.mapError Err.str = o.mapError Err.str := by
  rcases o with e | answer
  · obtain ⟨l, rest, hread, ⟨-, hl, hrest⟩ | ⟨u, hu⟩⟩ :=
      readSpp_errorLine prog idn stop ho.1 t
    · refine ⟨_, by rw [replyText, hread, hrest], ?_⟩
      rw [hl]; rfl
    · exact absurd (by rw [hu]; simp) ho.2
  · have hlines := completeLines_answer answer []
    rw [List.append_nil, completeLines_nil] at hlines
    have hread := (readSpp_answer_iff prog idn stop answer (completeLines nl t)).mpr ho
    refine ⟨.ok answer, ?_, rfl⟩
    rw [← hread, completeLines_answer, hlines, List.append_assoc]
    rfl

/-- A framed outcome at the head leaves the question to the rest. -/
theorem repliesMatch_cons (prog idn : Str) {o : Except Err Str} {os : List (Except Err Str)}
    (ho : Framed o) :
    RepliesMatch (peer prog idn) (o :: os) ((o :: os).flatMap replyText) ↔
      RepliesMatch (peer prog idn) os (os.flatMap replyText) := by
  obtain ⟨r, hread, hr⟩ := readSpp_framed prog idn .eof ho (os.flatMap replyText)
  simp only [RepliesMatch, List.length_cons, readReplies, List.flatMap_cons, hread, hr,
    List.map_cons, Prod.mk.injEq, List.cons.injEq, true_and]
  rw [Prod.ext_iff]

/-- No call throws a text that begins with a newline. -/
theorem readReplies_error_head (d : DriverSpp) (n : Nat) {lines : List Str}
    (hnl : ∀ l ∈ lines, nl ∉ l) {text : Str} (h : .error text ∈ (readReplies d n lines).1) :
    text.head? ≠ some nl := by
  induction n generalizing lines with
  | zero => cases h
  | succ n ih =>
    simp only [readReplies, List.mem_cons] at h
    rcases h with h | h
    · rcases hr : (d.readSpp .eof lines).1 with e | answer
      · rw [hr] at h
        obtain rfl : text = e.str := Except.error.inj h
        exact DriverSpp.readSppLoop_error_head hnl hr
      · rw [hr] at h; cases h
    · have hsuffix : (d.readSpp .eof lines).2 <:+ lines := DriverSpp.readSppLoop_suffix ..
      exact ih (fun l hl => hnl l (hsuffix.subset hl)) h

/-- An empty error text writes nothing, and what comes next is never read as an
empty error. -/
theorem readSpp_error_ne_nil (prog idn : Str) {os : List (Except Err Str)}
    (hans : ∀ answer, .ok answer ∈ os → Transparent answer)
    (hhead : ∀ e, .error e ∈ os → e.str.head? ≠ some nl) {e : Err}
    (h : ((peer prog idn).readSpp .eof (completeLines nl (os.flatMap replyText))).1 = .error e) :
    e.str ≠ [] := by
  induction os with
  | nil => cases h; simp
  | cons o os ih =>
    rw [List.flatMap_cons] at h
    rcases o with e' | answer
    · by_cases he' : e'.str = []
      · have hempty : replyText (.error e') = [] := if_neg (not_not.mpr he')
        rw [hempty, List.nil_append] at h
        exact ih (fun a ha => hans a (List.mem_cons_of_mem _ ha))
          (fun x hx => hhead x (List.mem_cons_of_mem _ hx)) h
      · obtain ⟨l, rest, hread, hl⟩ :=
          readSpp_errorLine prog idn .eof he' (os.flatMap replyText)
        rw [replyText, hread] at h
        obtain rfl : ({ str := l } : Err) = e := Except.error.inj h
        rcases hl with ⟨-, rfl, -⟩ | ⟨u, hu⟩
        · exact he'
        · rintro rfl
          exact hhead e' List.mem_cons_self (by rw [hu]; rfl)
    · have ho : Framed (.ok answer) := hans answer List.mem_cons_self
      obtain ⟨r, hread, hr⟩ := readSpp_framed prog idn .eof ho (os.flatMap replyText)
      rw [hread] at h
      obtain rfl : r = .error e := h
      cases hr

/-- **One reply for each outcome**, when the answers are transparent, if and only
if every error text is one non-empty line. -/
theorem repliesMatch_iff (prog idn : Str) {os : List (Except Err Str)}
    (hans : ∀ answer, .ok answer ∈ os → Transparent answer) :
    RepliesMatch (peer prog idn) os (os.flatMap replyText) ↔
      ∀ e, .error e ∈ os → e.str ≠ [] ∧ nl ∉ e.str := by
  induction os with
  | nil => simp [RepliesMatch, readReplies]
  | cons o os ih =>
    have hans' : ∀ answer, .ok answer ∈ os → Transparent answer :=
      fun a ha => hans a (List.mem_cons_of_mem _ ha)
    by_cases ho : Framed o
    · rw [repliesMatch_cons prog idn ho, ih hans']
      refine ⟨fun h e he => ?_, fun h e he => h e (List.mem_cons_of_mem _ he)⟩
      rcases List.mem_cons.mp he with rfl | he
      · exact ho
      · exact h e he
    · -- the first outcome is an error that does not fit into one line
      rcases o with e | answer
      · refine ⟨fun hmatch => absurd ?_ ho, fun h => absurd (h e List.mem_cons_self) ho⟩
        have hlines : ∀ l ∈ completeLines nl ((.error e :: os).flatMap replyText), nl ∉ l :=
          fun l hl => not_mem_of_mem_completeLines hl
        have hthrown : ∀ x, .error x ∈ .error e :: os → x.str.head? ≠ some nl := by
          intro x hx
          refine readReplies_error_head (peer prog idn) (Except.error e :: os).length hlines ?_
          rw [hmatch]
          exact List.mem_map_of_mem (f := Except.mapError Err.str) hx
        have hfirst : ((peer prog idn).readSpp .eof
            (completeLines nl ((.error e :: os).flatMap replyText))).1.mapError Err.str =
              .error e.str := by
          simp only [RepliesMatch, List.length_cons, readReplies, List.map_cons] at hmatch
          exact (List.cons.inj (Prod.mk.inj hmatch).1).1
        rcases hr : ((peer prog idn).readSpp .eof
          (completeLines nl ((.error e :: os).flatMap replyText))).1 with x | answer
        · rw [hr] at hfirst
          have hx : x.str = e.str := Except.error.inj hfirst
          have hne : x.str ≠ [] := readSpp_error_ne_nil prog idn hans hthrown hr
          rw [hx] at hne
          obtain ⟨l, rest, hread, ⟨hnl, -, -⟩ | ⟨u, hu⟩⟩ :=
            readSpp_errorLine prog idn .eof hne (os.flatMap replyText)
          · exact ⟨hne, hnl⟩
          · -- the text comes back without what follows its first newline
            rw [List.flatMap_cons, replyText, hread] at hr
            obtain rfl : ({ str := l } : Err) = x := Except.error.inj hr
            have hlen := congrArg List.length (hx.trans hu)
            simp at hlen
        · rw [hr] at hfirst; cases hfirst
      · exact absurd (hans answer List.mem_cons_self) ho

/-- **One reply per request.**  Let the answers of a session be transparent.  Then
after the greeting the reader gets the outcome of each request in turn, and no
line is left over, if and only if every error text is one non-empty line. -/
theorem one_reply_per_request_iff (D : Downloader σ) (act : SppAction)
    (rs : List (Except Err (List Str))) {s s' : σ} (hopen : (D.frontEnd act).opening s = (.ok (), s'))
    (hans : ∀ answer, .ok answer ∈ (D.frontEnd act).outcomes rs s' →
      answer.head? ≠ some nl ∧ ∀ l ∈ answer.splitOn nl, l.head? ≠ some '#') (prog idn : Str) :
    ∃ out, ((D.frontEnd act).run D rs s).out =
        (D.frontEnd act).header ++ "#OK\n".toList ++ out ∧
      (RepliesMatch (peer prog idn) ((D.frontEnd act).outcomes rs s') out ↔
        ∀ e, .error e ∈ (D.frontEnd act).outcomes rs s' → e.str ≠ [] ∧ nl ∉ e.str) :=
  ⟨_, (D.frontEnd act).run_out D rs hopen, repliesMatch_iff prog idn hans⟩

/-- Two requests to the server, the second of which fails. -/
theorem one_reply_per_request_iff_prepared :
    ∃ out, ((preparedClient.frontEnd .useSrv).run preparedClient
          [.ok ["list".toList], .ok ["err".toList]]
          [(200, []), (200, "a\nb\n".toList), (400, "unknown action: err".toList)]).out =
        (preparedClient.frontEnd .useSrv).header ++ "#OK\n".toList ++ out ∧
      (RepliesMatch (peer "device_c" []) ((preparedClient.frontEnd .useSrv).outcomes
          [.ok ["list".toList], .ok ["err".toList]]
          [(200, "a\nb\n".toList), (400, "unknown action: err".toList)]) out ↔
        ∀ e, .error e ∈ (preparedClient.frontEnd .useSrv).outcomes
          [.ok ["list".toList], .ok ["err".toList]]
          [(200, "a\nb\n".toList), (400, "unknown action: err".toList)] →
            e.str ≠ [] ∧ nl ∉ e.str) := by
  refine one_reply_per_request_iff preparedClient .useSrv _ rfl ?_ "device_c" []
  intro answer hanswer
  have houtcomes : (preparedClient.frontEnd .useSrv).outcomes
      [.ok ["list".toList], .ok ["err".toList]]
      [(200, "a\nb\n".toList), (400, "unknown action: err".toList)] =
        [.ok "a\nb\n", .error { str := "unknown action: err" }] := by rfl
  rw [houtcomes] at hanswer
  simp only [List.mem_cons, Except.ok.injEq, reduceCtorEq, List.not_mem_nil, or_false] at hanswer
  rw [hanswer]
  exact show Transparent "a\nb\n" by decide

/-- A request that fails with an empty error text gets no reply at all: the
reader finds no line. -/
theorem empty_error_gets_no_reply :
    ¬ ∀ (D : Downloader (List (Nat × Str))) (act : SppAction) (rs : List (Except Err (List Str)))
      (s s' : List (Nat × Str)), (D.frontEnd act).opening s = (.ok (), s') →
      (∀ answer, .ok answer ∈ (D.frontEnd act).outcomes rs s' →
        answer.head? ≠ some nl ∧ ∀ l ∈ answer.splitOn nl, l.head? ≠ some '#') →
      ∀ prog idn, ∃ out, ((D.frontEnd act).run D rs s).out =
          (D.frontEnd act).header ++ "#OK\n".toList ++ out ∧
        RepliesMatch (peer prog idn) ((D.frontEnd act).outcomes rs s') out := by
  intro h
  let F := preparedClient.frontEnd .useSrv
  let rs : List (Except Err (List Str)) := [.ok ["ask".toList, "d".toList, "x".toList]]
  have hopen : F.opening [(200, []), (400, [])] = (.ok (), [(400, [])]) := rfl
  have houtcomes : F.outcomes rs [(400, [])] = [.error { str := [] }] := rfl
  obtain ⟨out, hout, hmatch⟩ := h preparedClient .useSrv rs _ _ hopen
    (fun answer ha => by rw [houtcomes] at ha; simp at ha) "device_c" []
  have hrun := F.run_out preparedClient rs hopen
  rw [hout] at hrun
  obtain rfl : out = [] := (List.append_cancel_left hrun).trans (by rw [houtcomes]; rfl)
  rw [houtcomes] at hmatch
  cases (Prod.mk.inj hmatch).1

end Device2
