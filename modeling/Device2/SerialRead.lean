/-
Device2/SerialRead.lean

`Driver_serial::read` with the options `-ack_str` and `-nack_str`: a reply is over
when it ends with one of the two (`server/drv_serial.h`).

The driver looks for them only at the end of what it has read so far, so it could
depend on where the serial line cuts the reply.  It does not, as long as neither of
the two is the end of the other: `read_reply` is about every reply whose first mark
is its last one (`Reply`), in every segmentation.

The loop is the reader of `Device2.Lib.Segments` (`readLoopLeft_eq`); `readLoopLeft`
is the loop of the driver together with what it leaves at the port.

`Driver_serial_hm310t` reads and writes bytes through the same functions, with options
that leave only one reading and nothing to trim.  So `ModbusLine.serialRead` and
`serialWrite` are those of `Driver_serial` (`read_plain`, `write_plain`).
-/
import Device2.Drivers
import Device2.Lib.Segments
import Device2.Modbus

namespace Device2

open Segments

/-- Pieces as the readings of a port give them. -/
def arrive (qs : List Str) : List Recv := qs.map (Recv.data · (.ok false))

/-! ### `trim_str` -/

/-- A string without one `trim` at its end. -/
def withoutSuffix (str trim : Str) : Str := (str.dropSuffix? trim).getD str

variable {str trim p : Str}

theorem withoutSuffix_append (p trim : Str) : withoutSuffix (p ++ trim) trim = p := by
  have h : (p ++ trim).dropSuffix? trim = some p :=
    List.dropSuffix?_eq_some_iff.mpr ⟨trim, rfl, beq_self_eq_true trim⟩
  rw [withoutSuffix, h]
  rfl

theorem withoutSuffix_of_not_suffix (h : ¬ trim <:+ str) : withoutSuffix str trim = str := by
  have hnone : str.dropSuffix? trim = none := by
    rw [Option.eq_none_iff_forall_ne_some]
    intro r hr
    obtain ⟨s', rfl, heq⟩ := List.dropSuffix?_eq_some_iff.mp hr
    rw [beq_iff_eq] at heq
    subst heq
    exact h (List.suffix_append r s')
  rw [withoutSuffix, hnone]
  rfl

/-- What `trim_str` does. -/
theorem trimStr_eq (str trim : Str) :
    trimStr str trim = (withoutSuffix str trim, decide (trim ≠ [] ∧ trim <:+ str)) := by
  by_cases hsuf : trim <:+ str
  · obtain ⟨p, rfl⟩ := hsuf
    have hlen : (p ++ trim).length - trim.length = p.length := by simp
    rw [withoutSuffix_append, trimStr, hlen, List.drop_left, List.take_left]
    rcases trim with - | ⟨c, trim⟩
    · simp
    · simp
  · have hdrop : str.drop (str.length - trim.length) ≠ trim := by
      intro h
      apply hsuf
      rw [← h]
      exact List.drop_suffix _ _
    rw [withoutSuffix_of_not_suffix hsuf, trimStr, if_neg fun h => hdrop h.2.2]
    simp [hsuf]

namespace DriverSerial

/-! ### The marks -/

/-- The text ends with `ack` or `nack`; an empty `nack` is none. -/
def Ends (d : DriverSerial) (s : Str) : Prop := d.ack <:+ s ∨ d.nack ≠ [] ∧ d.nack <:+ s

instance (d : DriverSerial) (s : Str) : Decidable (d.Ends s) := by unfold Ends; infer_instance

/-- A reply of the device: a payload and a mark, the first one in it. -/
structure Reply (d : DriverSerial) where
  payload : Str
  mark : Str
  mark_eq : mark = d.ack ∨ d.nack ≠ [] ∧ mark = d.nack
  first_mark : ∀ s, s <+: payload ++ mark → s ≠ payload ++ mark → ¬ d.Ends s

variable {d : DriverSerial}

def Reply.text (r : d.Reply) : Str := r.payload ++ r.mark

theorem Reply.ends (r : d.Reply) : d.Ends r.text := by
  rcases r.mark_eq with h | ⟨hne, h⟩
  · exact .inl ⟨r.payload, by rw [← h]; rfl⟩
  · exact .inr ⟨hne, r.payload, by rw [← h]; rfl⟩

/-! ### The loop -/

/-- The loop of `Driver_serial::read`, with what is left at the port after it. -/
def readLoopLeft (d : DriverSerial) : List Recv → Str → Except Err (Str × Bool) × List Recv
  | [], _ => (.error (d.error "read timeout" []), [])
  | .data [] _ :: rs, _ => (.error (d.error "read timeout" []), rs)
  | .fail _ true :: rs, ret => (.ok (ret, false), rs)
  | .fail text false :: rs, _ => (.error (d.error "read error: " text), rs)
  | .data s _ :: rs, ret =>
    let ret := ret ++ s
    if d.ack.length = 0 then (.ok (ret, false), rs)
    else if (trimStr ret d.ack).2 then (.ok ((trimStr ret d.ack).1, false), rs)
    else if (trimStr ret d.nack).2 then (.ok ((trimStr ret d.nack).1, true), rs)
    else d.readLoopLeft rs ret

theorem readLoopLeft_fst (d : DriverSerial) (rs : List Recv) (ret : Str) :
    (d.readLoopLeft rs ret).1 = d.readLoop rs ret := by
  induction rs generalizing ret with
  | nil => rfl
  | cons r rs ih =>
    rcases r with ⟨- | ⟨c, s⟩, more⟩ | ⟨text, - | -⟩
    · rfl
    · simp only [readLoopLeft, readLoop]
      split_ifs
      · rfl
      · rfl
      · rfl
      · exact ih _
    · rfl
    · rfl

/-- The text without its mark, and whether the mark was `nack`. -/
def cutMark (d : DriverSerial) (s : Str) : Str × Bool :=
  if d.ack <:+ s then (withoutSuffix s d.ack, false) else (withoutSuffix s d.nack, true)

/-- One piece is added to what has been read. -/
theorem readLoopLeft_data (hack : d.ack ≠ []) {q : Str} (hq : q ≠ []) (rs : List Recv) (ret : Str) :
    d.readLoopLeft (.data q (.ok false) :: rs) ret =
      if d.Ends (ret ++ q) then (.ok (d.cutMark (ret ++ q)), rs)
      else d.readLoopLeft rs (ret ++ q) := by
  obtain ⟨c, q, rfl⟩ := List.exists_cons_of_ne_nil hq
  have hlen : d.ack.length ≠ 0 := fun h => hack (List.length_eq_zero_iff.mp h)
  simp only [readLoopLeft, if_neg hlen, trimStr_eq, decide_eq_true_eq, Ends, cutMark]
  by_cases h : d.ack <:+ ret ++ c :: q
  · simp [h, hack]
  · simp [h]

/-- **The loop is a reader that goes on to a mark.** -/
theorem readLoopLeft_eq (hack : d.ack ≠ []) {qs left : List Str} {acc s : Str}
    (hne : ∀ q ∈ qs, q ≠ []) (h : readUntil (fun s => decide (d.Ends s)) qs acc = some (s, left))
    (rest : List Recv) :
    d.readLoopLeft (arrive qs ++ rest) acc = (.ok (d.cutMark s), arrive left ++ rest) := by
  induction qs generalizing acc with
  | nil => cases h
  | cons q qs ih =>
    obtain ⟨hq, hne⟩ := List.forall_mem_cons.mp hne
    show d.readLoopLeft (.data q (.ok false) :: (arrive qs ++ rest)) acc = _
    rw [readUntil] at h
    rw [readLoopLeft_data hack hq]
    split_ifs at h with hends
    · cases h
      rw [if_pos (of_decide_eq_true hends)]
    · rw [if_neg fun h => hends (decide_eq_true h)]
      exact ih hne h

/-- What is left of a reply without its mark. -/
theorem cutMark_text (hsuf : d.nack ≠ [] → ¬ d.ack <:+ d.nack ∧ ¬ d.nack <:+ d.ack) (r : d.Reply) :
    (r.mark = d.ack → d.cutMark r.text = (r.payload, false)) ∧
    (d.nack ≠ [] → r.mark = d.nack → d.cutMark r.text = (r.payload, true)) := by
  refine ⟨fun h => ?_, fun hne h => ?_⟩
  · rw [cutMark, Reply.text, h, if_pos (List.suffix_append _ _), withoutSuffix_append]
  · have hack : ¬ d.ack <:+ r.payload ++ d.nack := by
      intro hend
      -- the two marks at one end: the shorter one is the end of the longer
      rcases List.suffix_or_suffix_of_suffix hend (List.suffix_append r.payload d.nack) with h' | h'
      · exact (hsuf hne).1 h'
      · exact (hsuf hne).2 h'
    rw [cutMark, Reply.text, h, if_neg hack, withoutSuffix_append]

/-- **Acknowledged reads do not depend on how the bytes arrive.**  A reply is read up
to its mark, and nothing behind it; with `ack` the driver returns the payload, with
`nack` it throws it, without `trim_str` in both cases. -/
theorem read_reply (d : DriverSerial) (hack : d.ack ≠ [])
    (hsuf : d.nack ≠ [] → ¬ d.ack <:+ d.nack ∧ ¬ d.nack <:+ d.ack) (r : d.Reply)
    (c : Segmentation 4096 r.text) (port : Port) (rest : List Recv)
    (hport : port.recv = arrive c.pieces ++ rest) :
    (d.readLoopLeft port.recv []).2 = rest ∧
    (r.mark = d.ack → (d.read port).ret = .ok (withoutSuffix r.payload d.trim)) ∧
    (d.nack ≠ [] → r.mark = d.nack → (d.read port).ret =
      .error { str := "nack from the device: ".toList ++ withoutSuffix r.payload d.trim }) := by
  have htext : r.text ≠ [] := by
    rcases r.mark_eq with h | ⟨hne, h⟩
    · exact fun hnil => hack (h ▸ (List.append_eq_nil_iff.mp hnil).2)
    · exact fun hnil => hne (h ▸ (List.append_eq_nil_iff.mp hnil).2)
  have hread := readUntil_segmentation c htext (decide_eq_true r.ends)
    (fun t ht hne => decide_eq_false (r.first_mark t ht hne)) []
  rw [List.append_nil] at hread
  have hloop := readLoopLeft_eq hack c.pieces_ne_nil hread rest
  rw [← hport] at hloop
  have hret : d.readLoop port.recv [] = .ok (d.cutMark r.text) := by
    rw [← readLoopLeft_fst, hloop]
  obtain ⟨hgood, hbad⟩ := cutMark_text hsuf r
  refine ⟨by rw [hloop]; rfl, fun h => ?_, fun hne h => ?_⟩
  · rw [read, hret, hgood h]
    show Except.ok (trimStr r.payload d.trim).1 = _
    rw [trimStr_eq]
  · rw [read, hret, hbad hne h]
    show Except.error (⟨"nack from the device: ".toList ++ (trimStr r.payload d.trim).1, -1⟩ : Err) = _
    rw [trimStr_eq]

/-- The driver with the marks of `server/drv_serial.h`. -/
def ackDriver : DriverSerial := ⟨⟨"serial: ", [], ['\r'], ['\r'], .always⟩, ['\x06'], ['\x15']⟩

/-- A number with its acknowledgement. -/
def ackReply : ackDriver.Reply where
  payload := "1.5\r"
  mark := ['\x06']
  mark_eq := .inl rfl
  first_mark := by
    have h : ∀ s ∈ ("1.5\r".toList ++ ['\x06']).inits,
        s ≠ "1.5\r".toList ++ ['\x06'] → ¬ ackDriver.Ends s := by decide
    exact fun s hs => h s (List.mem_inits _ _ |>.mpr hs)

/-- It is cut in the middle of the number and in front of the mark. -/
def ackPieces : Segmentation 4096 ackReply.text where
  pieces := ["1.", "5\r", ['\x06']]
  flatten_pieces := rfl
  pieces_ne_nil := by decide
  length_le := by decide

theorem read_reply_ack :
    (ackDriver.readLoopLeft (arrive ["1.", "5\r", ['\x06']] ++ [.data "next" (.ok false)]) []).2 =
      [.data "next" (.ok false)] ∧
    (ackDriver.read ⟨fun _ => none, arrive ["1.", "5\r", ['\x06']] ++ [.data "next" (.ok false)]⟩).ret =
      .ok "1.5" := by
  have hack : ackDriver.ack ≠ [] := by decide
  have hsuf : ackDriver.nack ≠ [] →
      ¬ ackDriver.ack <:+ ackDriver.nack ∧ ¬ ackDriver.nack <:+ ackDriver.ack := by decide
  obtain ⟨hleft, hgood, -⟩ := read_reply ackDriver hack hsuf ackReply ackPieces
    ⟨fun _ => none, arrive ["1.", "5\r", ['\x06']] ++ [.data "next" (.ok false)]⟩ _ rfl
  exact ⟨hleft, hgood rfl⟩

end DriverSerial

/-! ### Bytes -/

/-- The characters of a string of bytes. -/
def bytesText (bs : Modbus.Bytes) : Str := bs.map fun b => Char.ofNat b.toNat

/-- A reading of bytes, for a driver that reads characters. -/
def ByteRecv.toRecv : ByteRecv → Recv
  | data s => .data (bytesText s) (.ok false)
  | again => .fail "Resource temporarily unavailable" true
  | fail text => .fail text false

namespace DriverSerial

/-- `Driver_serial` with the options of `Driver_serial_hm310t::add_opts`. -/
def plain (errpref : Str) : DriverSerial where
  errpref := errpref
  idn := "HM310T"
  add := []
  trim := []
  readCond := .always
  ack := []
  nack := []

variable {σ : Type} (L : ModbusLine σ) (s : Hm310tState σ)

/-- One reading of the line is one of the driver. -/
theorem read_plain (sendError : Str → Option Str) (rest : List Recv) :
    ((plain L.errpref).read ⟨sendError, (L.port.read s.dev).1.toRecv :: rest⟩).ret =
      (L.serialRead s).1.map bytesText := by
  have htrim : ∀ str : Str, (trimStr str []).1 = str := fun str => rfl
  rw [ModbusLine.serialRead]
  rcases (L.port.read s.dev).1 with (- | ⟨b, bs⟩) | - | text
  · simp [read, readLoop, plain, ByteRecv.toRecv, bytesText, MsgDriver.error, Except.map, Except.bind]
  · simp [read, readLoop, plain, ByteRecv.toRecv, bytesText, Except.map, Except.bind, htrim]
  · simp [read, readLoop, plain, ByteRecv.toRecv, bytesText, Except.map, Except.bind, htrim]
  · simp [read, readLoop, plain, ByteRecv.toRecv, MsgDriver.error, Except.map, Except.bind]

/-- A frame goes to the line as it is. -/
theorem write_plain (msg : Modbus.Bytes) (recv : List Recv) :
    ((plain L.errpref).write ⟨fun _ => (L.port.write msg s.dev).1, recv⟩ (bytesText msg)) =
      ⟨(L.serialWrite msg s).1, [.write (bytesText msg)]⟩ := by
  rw [ModbusLine.serialWrite, write, PortCall.send]
  rcases (L.port.write msg s.dev).1 with - | text
  · rfl
  · simp [plain, MsgDriver.error, MsgDriver.withSuffix]

end DriverSerial

end Device2
