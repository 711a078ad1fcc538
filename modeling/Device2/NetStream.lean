/-
Device2/NetStream.lean

Answers that come over TCP: `Driver_net` with its default settings, asked one message
after the other (`server/drv_net.cpp`).

A network device answers with lines.  The stream of these lines reaches the driver in
pieces, one for each `recv` (`ReplyStream`), and `Driver_net::read` takes one piece for
an answer.  `AnswersInOrder` is what the clients expect, the answers of the device in
their order; `answers_in_order_iff` says for which segmentations they get them.
-/
import Device2.AskContract
import Device2.SerialRead

namespace Device2

open Segments

/-! ### A run of the driver -/

/-- What a network device sends: lines, in pieces of at most `bufsize` bytes. -/
structure ReplyStream (bufsize : Nat) where
  /-- The replies without their newlines. -/
  lines : List Str
  no_newline : ∀ l ∈ lines, nl ∉ l
  length_lt : ∀ l ∈ lines, (l ++ [nl]).length < bufsize
  arrival : Segmentation bufsize (unlines lines)

/-- A message, and the error of its sending if there is one. -/
structure NetAsk where
  msg : Str
  sendError : Option Str

/-- The message can be sent, and has a question mark in its first word. -/
def NetAsk.Reads (a : NetAsk) : Prop := a.sendError = none ∧ checkReadCond a.msg .qmark1w = true

instance (a : NetAsk) : Decidable a.Reads := by unfold NetAsk.Reads; infer_instance

namespace DriverNet

/-- The defaults of the constructor. -/
def withDefaults (errpref : Str) : DriverNet := ⟨⟨errpref, [], [nl], [nl], .qmark1w⟩⟩

/-- The calls of `ask`, one after the other.  Every reading takes what comes next. -/
def askAll (d : DriverNet) : List NetAsk → List Recv → List (PortCall Str)
  | [], _ => []
  | a :: asks, recv =>
    let c := d.ask ⟨fun _ => a.sendError, recv⟩ a.msg
    c :: d.askAll asks (recv.drop (c.io.count .read))

/-- The results of the calls that read a reply. -/
def answers (d : DriverNet) (asks : List NetAsk) (recv : List Recv) : List (Except Err Str) :=
  ((d.askAll asks recv).filter fun c => .read ∈ c.io).map (·.ret)

/-- The k-th call that reads gives the k-th reply. -/
def AnswersInOrder (d : DriverNet) (asks : List NetAsk) {bufsize : Nat} (r : ReplyStream bufsize) :
    Prop :=
  ∀ (k : Nat) (a : Except Err Str) (l : Str),
    (d.answers asks (arrive r.arrival.pieces))[k]? = some a → r.lines[k]? = some l → a = .ok l

end DriverNet

/-- The pieces are the lines, each with its newline.  Only the last line that is not
empty may come without it, if every newline from there on comes by itself. -/
def CutAtLines : List Str → List Str → Prop
  | [], _ => True
  | _ :: _, [] => False
  | l :: ls, q :: qs => (q = l ++ [nl] ∧ CutAtLines ls qs) ∨
      (q = l ∧ (∀ l' ∈ ls, l' = []) ∧ qs.take ls.length = ls.map fun _ => [nl])

/-! ### One answer, one piece -/

/-- A line is read from a piece that is this line, with its newline or without it. -/
theorem withoutSuffix_nl_iff {q l : Str} (hl : nl ∉ l) :
    withoutSuffix q [nl] = l ↔ q = l ++ [nl] ∨ q = l := by
  constructor
  · intro h
    by_cases hend : [nl] <:+ q
    · obtain ⟨p, rfl⟩ := hend
      rw [withoutSuffix_append] at h
      exact .inl (h ▸ rfl)
    · rw [withoutSuffix_of_not_suffix hend] at h
      exact .inr h
  · rintro (rfl | rfl)
    · exact withoutSuffix_append l [nl]
    · apply withoutSuffix_of_not_suffix
      intro hend
      exact hl (hend.subset List.mem_cons_self)

namespace DriverNet

variable {errpref : Str} {a : NetAsk} {recv : List Recv}

/-- A call that reads gives what `read` does. -/
theorem ask_of_reads (h : a.Reads) :
    (withDefaults errpref).ask ⟨fun _ => a.sendError, recv⟩ a.msg =
      ⟨((withDefaults errpref).read ⟨fun _ => none, recv⟩).ret, [.write (a.msg ++ [nl]), .read]⟩ := by
  have hsend := (askWith_send (withDefaults errpref).toMsgDriver (a.msg ++ [nl]) a.msg
    ((withDefaults errpref).error "write error: ") (withDefaults errpref).read (fun _ => rfl)
    (fun hidn => hidn.1 rfl) ⟨fun _ => a.sendError, recv⟩).2 h.1
  have hcond : checkReadCond a.msg (withDefaults errpref).readCond = true := h.2
  rw [if_pos hcond] at hsend
  exact hsend

/-- The other calls leave alone what has arrived. -/
theorem ask_of_not_reads (h : ¬ a.Reads) :
    ((withDefaults errpref).ask ⟨fun _ => a.sendError, recv⟩ a.msg).io = [.write (a.msg ++ [nl])] := by
  obtain ⟨hfail, htake⟩ := askWith_send (withDefaults errpref).toMsgDriver (a.msg ++ [nl]) a.msg
    ((withDefaults errpref).error "write error: ") (withDefaults errpref).read (fun _ => rfl)
    (fun hidn => hidn.1 rfl) ⟨fun _ => a.sendError, recv⟩
  rcases hs : a.sendError with - | text
  · have hcond : ¬ checkReadCond a.msg (withDefaults errpref).readCond = true := fun hc => h ⟨hs, hc⟩
    have hsend := htake hs
    rw [if_neg hcond] at hsend
    rw [← hs]
    exact congrArg PortCall.io hsend
  · rw [← hs]
    exact congrArg PortCall.io (hfail text hs)

theorem answers_cons_of_reads (asks : List NetAsk) (h : a.Reads) :
    (withDefaults errpref).answers (a :: asks) recv =
      ((withDefaults errpref).read ⟨fun _ => none, recv⟩).ret ::
        (withDefaults errpref).answers asks (recv.drop 1) := by
  have hask : (withDefaults errpref).ask ⟨fun _ => a.sendError, recv⟩ a.msg = _ := ask_of_reads h
  rw [answers, askAll, hask]
  rfl

theorem answers_cons_of_not_reads (asks : List NetAsk) (h : ¬ a.Reads) :
    (withDefaults errpref).answers (a :: asks) recv = (withDefaults errpref).answers asks recv := by
  have hio : ((withDefaults errpref).ask ⟨fun _ => a.sendError, recv⟩ a.msg).io = _ :=
    ask_of_not_reads h
  have hno : PortIo.read ∉ ((withDefaults errpref).ask ⟨fun _ => a.sendError, recv⟩ a.msg).io := by
    rw [hio]
    simp
  rw [answers, askAll, List.filter_cons_of_neg (by simpa using hno), List.count_eq_zero.mpr hno]
  rfl

/-- **The k-th answer is read from the k-th piece.** -/
theorem answers_eq (asks : List NetAsk) (recv : List Recv) :
    (withDefaults errpref).answers asks recv =
      (List.range (asks.filter fun a => a.Reads).length).map fun k =>
        ((withDefaults errpref).read ⟨fun _ => none, recv.drop k⟩).ret := by
  induction asks generalizing recv with
  | nil => rfl
  | cons a asks ih =>
    by_cases h : a.Reads
    · rw [answers_cons_of_reads asks h, ih, List.filter_cons_of_pos (by simpa using h),
        List.length_cons, List.range_succ_eq_map, List.map_cons, List.map_map]
      congr 1
      apply List.map_congr_left
      intro k _
      rw [List.drop_drop, Nat.add_comm]
      rfl
    · rw [answers_cons_of_not_reads asks h, ih, List.filter_cons_of_neg (by simpa using h)]

/-- What `read` makes of the pieces. -/
theorem read_arrive (qs : List Str) (k : Nat) (l : Str) :
    ((withDefaults errpref).read ⟨fun _ => none, (arrive qs).drop k⟩).ret = .ok l ↔
      ∃ q, qs[k]? = some q ∧ withoutSuffix q [nl] = l := by
  rw [arrive, ← List.map_drop]
  rcases hq : qs.drop k with - | ⟨q, rest⟩
  · have hnone : qs[k]? = none := by rw [← List.head?_drop, hq]; rfl
    rw [hnone]
    exact iff_of_false (fun h => by cases h) (by rintro ⟨q, h, -⟩; cases h)
  · have hsome : qs[k]? = some q := by rw [← List.head?_drop, hq]; rfl
    rw [hsome]
    show Except.ok (trimStr q [nl]).1 = .ok l ↔ _
    rw [trimStr_eq]
    simp

end DriverNet

/-! ### Where the stream may be cut -/

/-- The piece is the line, with its newline or without it. -/
def Holds (q l : Str) : Prop := q = l ++ [nl] ∨ q = l

theorem forall_getElem?_cons {l : Str} {ls : List Str} {q : Str} {qs : List Str} :
    (∀ (k : Nat) (l' : Str), (l :: ls)[k]? = some l' → ∃ q', (q :: qs)[k]? = some q' ∧ Holds q' l') ↔
      Holds q l ∧ ∀ (k : Nat) (l' : Str), ls[k]? = some l' → ∃ q', qs[k]? = some q' ∧ Holds q' l' := by
  constructor
  · intro h
    obtain ⟨q', hq', hhold⟩ := h 0 l rfl
    cases hq'
    exact ⟨hhold, fun k l' hl' => h (k + 1) l' hl'⟩
  · rintro ⟨hhold, h⟩ k l' hl'
    cases k with
    | zero => cases hl'; exact ⟨q, rfl, hhold⟩
    | succ k => exact h k l' hl'

/-- Behind a newline that comes late there are empty lines only. -/
theorem empty_of_late_newline {ls more qs : List Str} (hnl : ∀ l ∈ ls, nl ∉ l)
    (hflat : qs.flatten = nl :: unlines (ls ++ more)) (hne : ∀ q ∈ qs, q ≠ [])
    (h : ∀ (k : Nat) (l : Str), ls[k]? = some l → ∃ q, qs[k]? = some q ∧ Holds q l) :
    (∀ l ∈ ls, l = []) ∧ qs.take ls.length = ls.map fun _ => [nl] := by
  induction ls generalizing qs with
  | nil => exact ⟨List.forall_mem_nil _, rfl⟩
  | cons l ls ih =>
    obtain ⟨hl, hnl'⟩ := List.forall_mem_cons.mp hnl
    rcases qs with - | ⟨q, qs⟩
    · cases hflat
    · obtain ⟨hq, hne'⟩ := List.forall_mem_cons.mp hne
      obtain ⟨hhold, h'⟩ := forall_getElem?_cons.mp h
      -- the piece begins with the newline, so the line is empty
      obtain ⟨c, t, rfl⟩ := List.exists_cons_of_ne_nil hq
      obtain ⟨rfl, hrest⟩ := List.cons.inj hflat
      rcases hhold with hhold | rfl
      · rcases l with - | ⟨c, l⟩
        · obtain rfl : t = [] := (List.cons.inj hhold).2
          obtain ⟨hls, htake⟩ := ih hnl' hrest hne' h'
          refine ⟨List.forall_mem_cons.mpr ⟨rfl, hls⟩, ?_⟩
          rw [List.length_cons, List.take_succ_cons, htake]
          rfl
        · rw [(List.cons.inj hhold).1] at hl
          exact absurd List.mem_cons_self hl
      · exact absurd List.mem_cons_self hl

/-- The pieces hold the lines one by one exactly when they are cut at the lines. -/
theorem cutAtLines_iff {ls more qs : List Str} (hnl : ∀ l ∈ ls, nl ∉ l)
    (hflat : qs.flatten = unlines (ls ++ more)) (hne : ∀ q ∈ qs, q ≠ []) :
    (∀ (k : Nat) (l : Str), ls[k]? = some l → ∃ q, qs[k]? = some q ∧ Holds q l) ↔ CutAtLines ls qs := by
  induction ls generalizing qs with
  | nil => exact iff_of_true (fun k l hl => by cases hl) trivial
  | cons l ls ih =>
    obtain ⟨hl, hnl'⟩ := List.forall_mem_cons.mp hnl
    have hcons : qs.flatten = l ++ nl :: unlines (ls ++ more) := by
      rw [hflat]
      show (l ++ [nl]) ++ unlines (ls ++ more) = _
      rw [List.append_assoc]
      rfl
    rcases qs with - | ⟨q, qs⟩
    · exact absurd hcons.symm (by simp)
    · obtain ⟨hq, hne'⟩ := List.forall_mem_cons.mp hne
      rw [List.flatten_cons] at hcons
      have hwhole : q = l ++ [nl] → qs.flatten = unlines (ls ++ more) := by
        rintro rfl
        rw [List.append_assoc] at hcons
        exact (List.cons.inj (List.append_cancel_left hcons)).2
      rw [forall_getElem?_cons, CutAtLines]
      constructor
      · rintro ⟨hq | rfl, h⟩
        · exact .inl ⟨hq, (ih hnl' (hwhole hq) hne').mp h⟩
        · exact .inr ⟨rfl, empty_of_late_newline hnl' (List.append_cancel_left hcons) hne' h⟩
      · rintro (⟨hq, h⟩ | ⟨rfl, hempty, htake⟩)
        · exact ⟨.inl hq, (ih hnl' (hwhole hq) hne').mpr h⟩
        · refine ⟨.inr rfl, fun k l' hl' => ?_⟩
          obtain ⟨hk, -⟩ := List.getElem?_eq_some_iff.mp hl'
          obtain rfl : l' = [] := hempty l' (List.mem_of_getElem? hl')
          have hpiece : (qs.take ls.length)[k]? = some [nl] := by
            rw [htake, List.getElem?_map, hl']
            rfl
          rw [List.getElem?_take_of_lt hk] at hpiece
          exact ⟨[nl], hpiece, .inl rfl⟩

/-- **When the answers come in order.**  The driver returns the replies of the device
exactly for a stream that is cut at the lines, as far as it is read. -/
theorem DriverNet.answers_in_order_iff (errpref : Str) (asks : List NetAsk) {bufsize : Nat}
    (r : ReplyStream bufsize) :
    (withDefaults errpref).AnswersInOrder asks r ↔
      CutAtLines (r.lines.take (asks.filter fun a => a.Reads).length) r.arrival.pieces := by
  have hnl : ∀ l ∈ r.lines.take (asks.filter fun a => a.Reads).length, nl ∉ l :=
    fun l hl => r.no_newline l (List.mem_of_mem_take hl)
  have hflat : r.arrival.pieces.flatten =
      unlines (r.lines.take (asks.filter fun a => a.Reads).length ++
        r.lines.drop (asks.filter fun a => a.Reads).length) := by
    rw [List.take_append_drop]
    exact r.arrival.flatten_pieces
  rw [← cutAtLines_iff hnl hflat r.arrival.pieces_ne_nil, AnswersInOrder, answers_eq]
  constructor
  · intro h k l hl
    obtain ⟨hk, hlen⟩ := List.getElem?_eq_some_iff.mp hl
    have hk' : k < (asks.filter fun a => a.Reads).length := by
      rw [List.length_take] at hk
      omega
    rw [List.getElem?_take_of_lt hk'] at hl
    have hread := h k _ l (by rw [List.getElem?_map, List.getElem?_range hk']; rfl) hl
    obtain ⟨q, hq, hql⟩ := (read_arrive _ k l).mp hread
    exact ⟨q, hq, (withoutSuffix_nl_iff (r.no_newline l (List.mem_of_getElem? hl))).mp hql⟩
  · intro h k a l ha hl
    rw [List.getElem?_map] at ha
    obtain ⟨k', hk', rfl⟩ := Option.map_eq_some_iff.mp ha
    obtain ⟨hlt, heq⟩ := List.getElem?_eq_some_iff.mp hk'
    rw [List.getElem_range] at heq
    subst heq
    rw [List.length_range] at hlt
    obtain ⟨q, hq, hhold⟩ := h k l (by rw [List.getElem?_take_of_lt hlt]; exact hl)
    have hql := (withoutSuffix_nl_iff (r.no_newline l (List.mem_of_getElem? hl))).mpr hhold
    exact (read_arrive _ k l).mpr ⟨q, hq, hql⟩

/-- The replies of two queries, the first one cut behind its first digit. -/
def cutReplies : ReplyStream 4096 where
  lines := ["100", "0.5"]
  no_newline := by decide
  length_lt := by decide
  arrival :=
    { pieces := ["1", "00\n", "0.5\n"]
      flatten_pieces := rfl
      pieces_ne_nil := by decide
      length_le := by decide }

/-- The second query gets the rest of the first reply. -/
theorem cut_reply_read :
    (DriverNet.withDefaults "net: ").answers [⟨"volt?", none⟩, ⟨"curr?", none⟩]
        (arrive cutReplies.arrival.pieces) = [.ok "1", .ok "00"] ∧
    ¬ (DriverNet.withDefaults "net: ").AnswersInOrder [⟨"volt?", none⟩, ⟨"curr?", none⟩] cutReplies := by
  have hanswers : (DriverNet.withDefaults "net: ").answers [⟨"volt?", none⟩, ⟨"curr?", none⟩]
      (arrive cutReplies.arrival.pieces) = [.ok "1", .ok "00"] := by
    decide
  refine ⟨hanswers, fun h => ?_⟩
  have hfirst := h 0 (.ok "1") "100" (by rw [hanswers]; rfl) rfl
  cases hfirst

end Device2
