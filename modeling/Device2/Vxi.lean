/-
Device2/Vxi.lean

The VXI-11 client (`modules/vxi/vxi.cpp`) under `Driver_vxi`: the two loops of
`VXI::write` and `VXI::read`, and what they mean for the instrument at the other end.

A message goes in pieces of at most `max_recv_size` bytes, of which the instrument
takes as many as it likes; only the last piece carries the flag `END`.  An answer
comes back in pieces as well, and ends with a reason.  The remote procedures are a
parameter (`VxiCore`), with a state behind them, so that any of them may fail.

What the protocol asks of an instrument is `Instrument`: it takes a beginning of each
piece and says how much it has taken; a message is complete with the last byte of a
piece with `END`; and the last byte of an answer comes with a reason.  For any such
instrument, messages arrive whole and separate, however they are cut
(`Instrument.write`), and each `ask` gets the answer to its own message
(`vxi_session`).

The timeouts and the link identifier are left out; so is a piece that the instrument
takes nothing of without an error, again and again: there the loop would not end.
-/
import Device2.Drivers
import Device2.AskContract

namespace Device2

variable {σ : Type}

/-! ### The library -/

/-- `Device_WriteParms`: the piece, and whether it has `OP_FLAG_END`. -/
structure WriteParms where
  last : Bool
  data : Str

/-- `Device_WriteResp`. -/
structure WriteResp where
  error : Nat
  size : Nat

/-- `Device_ReadResp`. -/
structure ReadResp where
  error : Nat
  reason : Nat
  data : Str

/-- The remote procedures `device_write_1` and `device_read_1`; no response stands for
a call that is not `RPC_SUCCESS`. -/
structure VxiCore (σ : Type) where
  write : WriteParms → σ → Option WriteResp × σ
  read : σ → Option ReadResp × σ

/-- `vxi11_strerr`. -/
def vxi11StrErr : Nat → Str
  | 0 => "No error"
  | 1 => "Syntax error"
  | 3 => "Device not accessible"
  | 4 => "Invalid link identifier"
  | 5 => "Parameter error"
  | 6 => "Channel not established"
  | 8 => "Operation not supported"
  | 9 => "Out of resources"
  | 11 => "Device locked by another link"
  | 12 => "No lock held by this link"
  | 15 => "IO timeout"
  | 17 => "IO error"
  | 21 => "Invalid address"
  | 23 => "Abort"
  | 29 => "Channel already established"
  | _ => "Unknown error"

/-- The error of a response. -/
def vxiError (error : Nat) : Err := { str := "VXI11: ".toList ++ vxi11StrErr error }

/-- Class `VXI`. -/
structure Vxi (σ : Type) where
  core : VxiCore σ
  maxRecvSize : Nat

namespace Vxi

/-- The piece for the rest of a message. -/
def piece (V : Vxi σ) (rest : Str) : WriteParms :=
  if rest.length ≤ V.maxRecvSize then ⟨true, rest⟩ else ⟨false, rest.take V.maxRecvSize⟩

/-- The loop of `VXI::write`, for at most so many rounds; `rest` is what is left of
the message. -/
def writeLoop (V : Vxi σ) : Nat → Str → σ → Option (Except Err Unit × σ)
  | 0, _, _ => none
  | n + 1, rest, s =>
    if rest = [] then some (.ok (), s)
    else
      match V.core.write (V.piece rest) s with
      | (none, s) => some (.error { str := "RPC: device_write" }, s)
      | (some r, s) =>
        if r.error ≠ 0 then some (.error (vxiError r.error), s)
        else V.writeLoop n (rest.drop r.size) s

/-- The loop of `VXI::read`, for at most so many rounds.  The reason of a piece without
data is not looked at. -/
def readLoop (V : Vxi σ) : Nat → Str → σ → Option (Except Err Str × σ)
  | 0, _, _ => none
  | n + 1, ret, s =>
    match V.core.read s with
    | (none, s) => some (.error { str := "RPC: device_read" }, s)
    | (some r, s) =>
      if r.error ≠ 0 then some (.error (vxiError r.error), s)
      else if r.data = [] then V.readLoop n ret s
      else if r.reason &&& 7 = 0 then V.readLoop n (ret ++ r.data) s
      else some (.ok (ret ++ r.data), s)

end Vxi

/-! ### The driver over the library -/

namespace DriverVxi

/-- What `Driver_vxi::write` hands to the library. -/
def text (d : DriverVxi) (msg : Str) : Str := cStr (d.withSuffix msg)

/-- `Driver_vxi::ask` with the loops of the library, for at most `n` rounds each. -/
def askCore (d : DriverVxi) (V : Vxi σ) (n : Nat) (msg : Str) (s : σ) : Option (Except Err Str × σ) :=
  if d.idn ≠ [] ∧ sameNoCase msg "*idn?" then some (.ok d.idn, s)
  else
    match V.writeLoop n (d.text msg) s with
    | none => none
    | some (.error e, s) => some (.error e, s)
    | some (.ok _, s) =>
      if ¬ checkReadCond msg d.readCond then some (.ok [], s)
      else (V.readLoop n [] s).map fun r => (r.1.map fun ret => (trimStr ret d.trim).1, r.2)

/-- Messages one after the other, up to the first error. -/
def session (d : DriverVxi) (V : Vxi σ) (n : Nat) : List Str → σ → Option (List Str × Except Err Unit × σ)
  | [], s => some ([], .ok (), s)
  | msg :: msgs, s =>
    match d.askCore V n msg s with
    | none => none
    | some (.error e, s) => some ([], .error e, s)
    | some (.ok answer, s) => (d.session V n msgs s).map fun r => (answer :: r.1, r.2)

/-- The port of `Device2.Drivers` for one `ask`: the error of the writing, and what the
reading after it gives. -/
def portOf (d : DriverVxi) (V : Vxi σ) (n : Nat) (msg : Str) (s : σ) : Port where
  sendError := fun m =>
    match V.writeLoop n m s with
    | some (.error e, _) => some e.str
    | _ => none
  recv :=
    match V.writeLoop n (d.text msg) s with
    | some (.ok _, s) =>
      match V.readLoop n [] s with
      | some (.ok ret, _) => [.data ret (.ok false)]
      | some (.error e, _) => [.fail e.str false]
      | none => []
    | _ => []

end DriverVxi

namespace Vxi

variable (V : Vxi σ) {n : Nat} {s s' : σ} {e : Err}

/-- The errors of the library have a text and the default code. -/
theorem writeLoop_error {rest : Str} (h : V.writeLoop n rest s = some (.error e, s')) :
    e = { str := e.str } := by
  induction n generalizing rest s with
  | zero => cases h
  | succ n ih =>
    rw [writeLoop] at h
    split at h
    · cases h
    · split at h
      · cases h; rfl
      · split at h
        · cases h; rfl
        · exact ih h

theorem readLoop_error {ret : Str} (h : V.readLoop n ret s = some (.error e, s')) :
    e = { str := e.str } := by
  induction n generalizing ret s with
  | zero => cases h
  | succ n ih =>
    rw [readLoop] at h
    split at h
    · cases h; rfl
    · split at h
      · cases h; rfl
      · split at h
        · exact ih h
        · split at h
          · exact ih h
          · cases h

end Vxi

/-- **`ask` at the port.**  What comes of the loops is what `Driver_vxi` makes of one
writing and one reading. -/
theorem DriverVxi.askCore_port (d : DriverVxi) (V : Vxi σ) (n : Nat) (msg : Str) {s s' : σ}
    {r : Except Err Str} (h : d.askCore V n msg s = some (r, s')) :
    (d.ask (d.portOf V n msg s) msg).ret = r := by
  rw [askCore] at h
  rw [ask, MsgDriver.askWith]
  by_cases hidn : d.idn ≠ [] ∧ sameNoCase msg "*idn?"
  · rw [if_pos hidn] at h ⊢
    cases h
    rfl
  · rw [if_neg hidn] at h ⊢
    show (PortCall.bind (PortCall.send (d.portOf V n msg s) (d.text msg) fun text => { str := text })
      _).ret = r
    rw [PortCall.send]
    rcases hw : V.writeLoop n (d.text msg) s with - | ⟨e | u, s₁⟩
    · rw [hw] at h; cases h
    · rw [hw] at h
      cases h
      have hsend : (d.portOf V n msg s).sendError (d.text msg) = some e.str := by
        simp only [portOf, hw]
      rw [hsend, V.writeLoop_error hw]
      rfl
    · rw [hw] at h
      have hsend : (d.portOf V n msg s).sendError (d.text msg) = none := by
        simp only [portOf, hw]
      rw [hsend]
      dsimp only [PortCall.bind] at h ⊢
      by_cases hcond : checkReadCond msg d.readCond = true
      · rw [if_neg (not_not.mpr hcond)] at h ⊢
        rcases hr : V.readLoop n [] s₁ with - | ⟨e | ret, s₂⟩
        · rw [hr] at h; cases h
        · rw [hr] at h
          cases h
          have hrecv : (d.portOf V n msg s).recv = [.fail e.str false] := by
            simp only [portOf, hw, hr]
          rw [read, hrecv, V.readLoop_error hr]
          rfl
        · rw [hr] at h
          cases h
          have hrecv : (d.portOf V n msg s).recv = [.data ret (.ok false)] := by
            simp only [portOf, hw, hr]
          rw [read, hrecv]
          rfl
      · rw [if_pos hcond] at h ⊢
        cases h
        rfl

/-! ### Instruments -/

/-- An instrument behind the remote procedures, which gives the answer `answer m` to the
message `m`: what it has of an unfinished message, the messages it has got, and the
answers it has still to send. -/
structure Instrument (core : VxiCore σ) (answer : Str → Option Str) where
  inbuf : σ → Str
  got : σ → List Str
  sending : σ → List Str
  /-- How much it takes of a piece. -/
  takes : WriteParms → σ → Nat
  takes_le : ∀ p s, takes p s ≤ p.data.length
  /-- A piece with `END` that is taken to its end makes the message complete. -/
  completes : ∀ p s, p.last = true → takes p s = p.data.length →
    got (core.write p s).2 = got s ++ [inbuf s ++ p.data] ∧ inbuf (core.write p s).2 = [] ∧
      sending (core.write p s).2 = sending s ++ (answer (inbuf s ++ p.data)).toList
  collects : ∀ p s, ¬ (p.last = true ∧ takes p s = p.data.length) →
    got (core.write p s).2 = got s ∧ inbuf (core.write p s).2 = inbuf s ++ p.data.take (takes p s) ∧
      sending (core.write p s).2 = sending s
  /-- Without an error it says how much it has taken, and that is not nothing. -/
  confirms : ∀ p s r, p.data ≠ [] → (core.write p s).1 = some r → r.error = 0 →
    r.size = takes p s ∧ 0 < takes p s
  /-- It sends some bytes, and a reason with the last one. -/
  sends : ∀ s m ms r, m ≠ [] → sending s = m :: ms → (core.read s).1 = some r → r.error = 0 →
    ∃ k, 0 < k ∧ k ≤ m.length ∧ r.data = m.take k ∧ (r.reason &&& 7 ≠ 0 ↔ k = m.length) ∧
      sending (core.read s).2 = if k = m.length then ms else m.drop k :: ms
  reads : ∀ s, got (core.read s).2 = got s ∧ inbuf (core.read s).2 = inbuf s
  answer_ne : ∀ m a, answer m = some a → a ≠ []

namespace Instrument

variable {V : Vxi σ} {answer : Str → Option Str} (I : Instrument V.core answer)

/-- **A message arrives whole.**  If the writing ends without an error, then the
instrument has got exactly one message more, which begins with what an earlier failure
has left; after an error it has got a beginning of it, or all of it. -/
theorem write (hmax : 0 < V.maxRecvSize) {n : Nat} {m : Str} (hm : m ≠ []) (hn : m.length < n) (s : σ) :
    ∃ r s', V.writeLoop n m s = some (r, s') ∧
      ((I.got s' = I.got s ++ [I.inbuf s ++ m] ∧ I.inbuf s' = [] ∧
          I.sending s' = I.sending s ++ (answer (I.inbuf s ++ m)).toList) ∨
        (∃ e, r = .error e) ∧ I.got s' = I.got s ∧ I.sending s' = I.sending s ∧
          ∃ k ≤ m.length, I.inbuf s' = I.inbuf s ++ m.take k) := by
  induction n generalizing m s with
  | zero => cases hn
  | succ n ih =>
    have hdata : (V.piece m).data ≠ [] := by
      rw [Vxi.piece]
      split
      · exact hm
      · rw [ne_eq, List.take_eq_nil_iff]
        rintro (h | h)
        · omega
        · exact hm h
    -- what the instrument takes is the beginning of the rest
    have htake : (V.piece m).data.take (I.takes (V.piece m) s) = m.take (I.takes (V.piece m) s) ∧
        I.takes (V.piece m) s ≤ m.length ∧
        ((V.piece m).last = true ∧ I.takes (V.piece m) s = (V.piece m).data.length ↔
          I.takes (V.piece m) s = m.length) := by
      have hle := I.takes_le (V.piece m) s
      generalize I.takes (V.piece m) s = k at hle ⊢
      rw [Vxi.piece] at hle ⊢
      split
      · rename_i hshort
        rw [if_pos hshort] at hle
        exact ⟨rfl, hle, by simp⟩
      · rename_i hlong
        rw [if_neg hlong] at hle
        have hlen : (m.take V.maxRecvSize).length = V.maxRecvSize := by
          rw [List.length_take]; omega
        dsimp only at hle ⊢
        rw [hlen] at hle
        refine ⟨?_, by omega, ?_⟩
        · rw [List.take_take, Nat.min_eq_left hle]
        · simp only [Bool.false_eq_true, false_and, false_iff]
          omega
    obtain ⟨htaken, hle, hend⟩ := htake
    rcases hcall : V.core.write (V.piece m) s with ⟨resp, s₁⟩
    -- without an error the loop goes on behind what has been taken
    have hnext : (∃ e, V.writeLoop (n + 1) m s = some (.error e, s₁)) ∨
        0 < I.takes (V.piece m) s ∧
          V.writeLoop (n + 1) m s = V.writeLoop n (m.drop (I.takes (V.piece m) s)) s₁ := by
      rw [Vxi.writeLoop, if_neg hm, hcall]
      rcases resp with - | r
      · exact .inl ⟨_, rfl⟩
      · dsimp only
        by_cases herr : r.error = 0
        · obtain ⟨hsize, hpos⟩ := I.confirms _ s r hdata (congrArg Prod.fst hcall) herr
          rw [if_neg (not_not.mpr herr), hsize]
          exact .inr ⟨hpos, rfl⟩
        · rw [if_pos herr]
          exact .inl ⟨_, rfl⟩
    by_cases hall : I.takes (V.piece m) s = m.length
    · have hlast := hend.mpr hall
      obtain ⟨hgot, hbuf, hsend⟩ := I.completes _ s hlast.1 hlast.2
      have hpiece : (V.piece m).data = m := by
        rw [hall, List.take_length] at htaken
        rwa [← hall, hlast.2, List.take_length] at htaken
      rw [hcall] at hgot hbuf hsend
      rw [hpiece] at hgot hsend
      rcases hnext with ⟨e, he⟩ | ⟨hpos, he⟩
      · exact ⟨_, _, he, .inl ⟨hgot, hbuf, hsend⟩⟩
      · have hdone : V.writeLoop n (m.drop (I.takes (V.piece m) s)) s₁ = some (.ok (), s₁) := by
          obtain ⟨n', rfl⟩ : ∃ n', n = n' + 1 := ⟨n - 1, by omega⟩
          rw [hall, List.drop_length, Vxi.writeLoop, if_pos rfl]
        exact ⟨_, _, he.trans hdone, .inl ⟨hgot, hbuf, hsend⟩⟩
    · obtain ⟨hgot, hbuf, hsend⟩ := I.collects _ s fun h => hall (hend.mp h)
      rw [hcall] at hgot hbuf hsend
      rw [htaken] at hbuf
      rcases hnext with ⟨e, he⟩ | ⟨hpos, he⟩
      · exact ⟨_, _, he, .inr ⟨⟨e, rfl⟩, hgot, hsend, _, hle, hbuf⟩⟩
      · have hrest : m.drop (I.takes (V.piece m) s) ≠ [] := by
          rw [ne_eq, List.drop_eq_nil_iff]; omega
        obtain ⟨r, s', hloop, hcase⟩ := ih hrest (by rw [List.length_drop]; omega) s₁
        have hwhole : I.inbuf s₁ ++ m.drop (I.takes (V.piece m) s) = I.inbuf s ++ m := by
          rw [hbuf, List.append_assoc, List.take_append_drop]
        refine ⟨r, s', he.trans hloop, ?_⟩
        rw [hwhole] at hcase
        rcases hcase with ⟨hg, hb, hs⟩ | ⟨herr, hg, hs, k, hk, hb⟩
        · exact .inl ⟨hg.trans (by rw [hgot]), hb, hs.trans (by rw [hsend])⟩
        · refine .inr ⟨herr, hg.trans hgot, hs.trans hsend, I.takes (V.piece m) s + k, ?_, ?_⟩
          · rw [List.length_drop] at hk; omega
          · rw [hb, hbuf, List.append_assoc, List.take_add]

/-- **An answer comes back whole**, and the next one is left where it is. -/
theorem read {n : Nat} {m : Str} (hm : m ≠ []) (hn : m.length < n) {ms : List Str} {s : σ}
    (hs : I.sending s = m :: ms) (ret : Str) :
    ∃ r s', V.readLoop n ret s = some (r, s') ∧ I.got s' = I.got s ∧ I.inbuf s' = I.inbuf s ∧
      ((∃ e, r = .error e) ∨ r = .ok (ret ++ m) ∧ I.sending s' = ms) := by
  induction n generalizing m s ret with
  | zero => cases hn
  | succ n ih =>
    obtain ⟨hgot, hbuf⟩ := I.reads s
    rw [Vxi.readLoop]
    rcases hcall : V.core.read s with ⟨- | r, s₁⟩ <;> rw [hcall] at hgot hbuf
    · exact ⟨_, _, rfl, hgot, hbuf, .inl ⟨_, rfl⟩⟩
    dsimp only
    by_cases herr : r.error = 0
    · obtain ⟨k, hpos, hle, hdata, hreason, hsend⟩ := I.sends s m ms r hm hs (congrArg Prod.fst hcall) herr
      rw [hcall] at hsend
      have hne : r.data ≠ [] := by
        rw [hdata, ne_eq, List.take_eq_nil_iff]
        rintro (h | h)
        · omega
        · exact hm h
      rw [if_neg (not_not.mpr herr), if_neg hne]
      by_cases hall : k = m.length
      · have hstop := hreason.mpr hall
        rw [if_neg hstop, hdata, hall, List.take_length]
        rw [if_pos hall] at hsend
        exact ⟨_, _, rfl, hgot, hbuf, .inr ⟨rfl, hsend⟩⟩
      · have hmore : r.reason &&& 7 = 0 := by
          by_contra h
          exact hall (hreason.mp h)
        have hrest : m.drop k ≠ [] := by
          rw [ne_eq, List.drop_eq_nil_iff]; omega
        rw [if_pos hmore]
        rw [if_neg hall] at hsend
        obtain ⟨r', s', hloop, hg, hb, hcase⟩ :=
          ih hrest (by rw [List.length_drop]; omega) hsend (ret ++ r.data)
        refine ⟨r', s', hloop, hg.trans hgot, hb.trans hbuf, ?_⟩
        rcases hcase with he | ⟨hr, hs'⟩
        · exact .inl he
        · refine .inr ⟨?_, hs'⟩
          rw [hr, hdata, List.append_assoc, List.take_append_drop]
    · rw [if_pos herr]
      exact ⟨_, _, rfl, hgot, hbuf, .inl ⟨_, rfl⟩⟩

/-- Nothing is unfinished. -/
def Quiet (s : σ) : Prop := I.inbuf s = [] ∧ I.sending s = []

end Instrument

/-! ### Sessions -/

namespace DriverVxi

variable (d : DriverVxi)

/-- The driver answers on its own. -/
def Overrides (msg : Str) : Prop := d.idn ≠ [] ∧ sameNoCase msg "*idn?" = true

instance (msg : Str) : Decidable (d.Overrides msg) := by unfold Overrides; infer_instance

/-- What the instrument gets of a message. -/
def sent (msg : Str) : List Str := if d.Overrides msg ∨ d.text msg = [] then [] else [d.text msg]

/-- The answer of `ask`, for an instrument that answers with `answer`. -/
def expected (answer : Str → Option Str) (msg : Str) : Str :=
  if d.Overrides msg then d.idn
  else if checkReadCond msg d.readCond then (trimStr ((answer (d.text msg)).getD []) d.trim).1
  else []

/-- The driver reads an answer if and only if the instrument gives one. -/
def Agrees (answer : Str → Option Str) (msg : Str) : Prop :=
  d.Overrides msg ∨
    (checkReadCond msg d.readCond = true ↔ d.text msg ≠ [] ∧ (answer (d.text msg)).isSome = true)

/-- So many rounds are enough. -/
def Enough (answer : Str → Option Str) (n : Nat) (msg : Str) : Prop :=
  (d.text msg).length < n ∧ ∀ a, answer (d.text msg) = some a → a.length < n

variable {d} {V : Vxi σ} {answer : Str → Option Str} (I : Instrument V.core answer)

/-- **One `ask`.** -/
theorem askCore_quiet (hmax : 0 < V.maxRecvSize) {n : Nat} {msg : Str} {s : σ} (hs : I.Quiet s)
    (hagree : d.Agrees answer msg) (hn : d.Enough answer n msg) :
    ∃ r s', d.askCore V n msg s = some (r, s') ∧
      ((∃ e, r = .error e) ∧ (I.got s' = I.got s ∨ I.got s' = I.got s ++ d.sent msg) ∨
        r = .ok (d.expected answer msg) ∧ I.Quiet s' ∧ I.got s' = I.got s ++ d.sent msg) := by
  rw [askCore]
  by_cases hidn : d.Overrides msg
  · have hsent : d.sent msg = [] := if_pos (.inl hidn)
    refine ⟨_, _, if_pos hidn, .inr ⟨?_, hs, by rw [hsent, List.append_nil]⟩⟩
    rw [expected, if_pos hidn]
  rw [if_neg (show ¬ (d.idn ≠ [] ∧ sameNoCase msg "*idn?" = true) from hidn), expected, if_neg hidn]
  replace hagree := hagree.resolve_left hidn
  by_cases htext : d.text msg = []
  · -- nothing to send, and nothing to read
    have hsent : d.sent msg = [] := if_pos (.inr htext)
    have hcond : ¬ checkReadCond msg d.readCond = true := fun h => (hagree.mp h).1 htext
    obtain ⟨n', rfl⟩ : ∃ n', n = n' + 1 := ⟨n - 1, by have := hn.1; omega⟩
    have hwrite : V.writeLoop (n' + 1) (d.text msg) s = some (.ok (), s) := by
      rw [htext, Vxi.writeLoop, if_pos rfl]
    rw [hwrite]
    dsimp only
    rw [if_pos hcond, if_neg hcond]
    exact ⟨_, _, rfl, .inr ⟨rfl, hs, by rw [hsent, List.append_nil]⟩⟩
  · have hsent : d.sent msg = [d.text msg] := if_neg (not_or.mpr ⟨hidn, htext⟩)
    obtain ⟨r, s₁, hwrite, hcase⟩ := I.write hmax htext hn.1 s
    rw [hs.1, hs.2, List.nil_append, List.nil_append] at hcase
    rw [hwrite, hsent]
    rcases r with e | u
    · refine ⟨_, _, rfl, .inl ⟨⟨e, rfl⟩, ?_⟩⟩
      rcases hcase with ⟨hgot, -⟩ | ⟨-, hgot, -⟩
      · exact .inr hgot
      · exact .inl hgot
    · rcases hcase with ⟨hgot, hbuf, hsend⟩ | ⟨⟨e, he⟩, -⟩
      swap
      · cases he
      dsimp only
      by_cases hcond : checkReadCond msg d.readCond = true
      · obtain ⟨a, ha⟩ := Option.isSome_iff_exists.mp (hagree.mp hcond).2
        rw [ha] at hsend
        obtain ⟨r, s₂, hread, hg, hb, hcase⟩ := I.read (I.answer_ne _ _ ha) (hn.2 a ha) hsend []
        rw [if_neg (not_not.mpr hcond), if_pos hcond, hread, ha]
        refine ⟨_, _, rfl, ?_⟩
        rcases hcase with ⟨e, rfl⟩ | ⟨rfl, hs₂⟩
        · exact .inl ⟨⟨e, rfl⟩, .inr (hg.trans hgot)⟩
        · exact .inr ⟨rfl, ⟨hb.trans hbuf, hs₂⟩, hg.trans hgot⟩
      · have hnone : answer (d.text msg) = none := by
          rcases ha : answer (d.text msg) with - | a
          · rfl
          · exact absurd (hagree.mpr ⟨htext, by rw [ha]; rfl⟩) hcond
        rw [hnone] at hsend
        rw [if_pos hcond, if_neg hcond]
        exact ⟨_, _, rfl, .inr ⟨rfl, ⟨hbuf, hsend⟩, hgot⟩⟩

/-- What an instrument remembers. -/
structure TestState where
  inbuf : Str := []
  got : List Str := []
  sending : List Str := []

/-- An answer to each question. -/
def testAnswer (m : Str) : Option Str := if '?' ∈ m then some "1.25\n" else none

/-- It takes three bytes at a time, and sends two. -/
def testCore : VxiCore TestState where
  write := fun p s =>
    (some ⟨0, min 3 p.data.length⟩,
      if p.last = true ∧ min 3 p.data.length = p.data.length then
        ⟨[], s.got ++ [s.inbuf ++ p.data], s.sending ++ (testAnswer (s.inbuf ++ p.data)).toList⟩
      else { s with inbuf := s.inbuf ++ p.data.take (min 3 p.data.length) })
  read := fun s =>
    match s.sending with
    | [] => (some ⟨15, 0, []⟩, s)
    | m :: ms =>
      (some ⟨0, if min 2 m.length = m.length then 4 else 0, m.take (min 2 m.length)⟩,
        { s with sending := if min 2 m.length = m.length then ms else m.drop (min 2 m.length) :: ms })

theorem testCore_confirms {p : WriteParms} {s : TestState} {r : WriteResp} (hdata : p.data ≠ [])
    (hr : (testCore.write p s).1 = some r) : r.size = min 3 p.data.length ∧ 0 < min 3 p.data.length := by
  have hpos : 0 < p.data.length := List.length_pos_iff.mpr hdata
  cases hr
  exact ⟨rfl, by omega⟩

theorem testCore_sends {s : TestState} {m : Str} {ms : List Str} {r : ReadResp} (hm : m ≠ [])
    (hs : s.sending = m :: ms) (hr : (testCore.read s).1 = some r) :
    ∃ k, 0 < k ∧ k ≤ m.length ∧ r.data = m.take k ∧ (r.reason &&& 7 ≠ 0 ↔ k = m.length) ∧
      (testCore.read s).2.sending = if k = m.length then ms else m.drop k :: ms := by
  have hpos : 0 < m.length := List.length_pos_iff.mpr hm
  simp only [testCore, hs] at hr ⊢
  cases hr
  refine ⟨min 2 m.length, by omega, Nat.min_le_right .., rfl, ?_, rfl⟩
  dsimp only
  split <;> simp_all

def testInstrument : Instrument testCore testAnswer where
  inbuf := TestState.inbuf
  got := TestState.got
  sending := TestState.sending
  takes := fun p _ => min 3 p.data.length
  takes_le := fun _ _ => Nat.min_le_right ..
  completes := fun p s hlast hall => by
    have hif : p.last = true ∧ min 3 p.data.length = p.data.length := ⟨hlast, hall⟩
    simp only [testCore, if_pos hif]
    exact ⟨trivial, trivial, trivial⟩
  collects := fun p s hnot => by
    simp only [testCore, if_neg hnot]
    exact ⟨trivial, trivial, trivial⟩
  confirms := fun _ _ _ hdata hr _ => testCore_confirms hdata hr
  sends := fun _ _ _ _ hm hs hr _ => testCore_sends hm hs hr
  reads := fun s => by
    simp only [testCore]
    split <;> exact ⟨rfl, rfl⟩
  answer_ne := fun m a ha => by
    rw [testAnswer] at ha
    split at ha
    · cases ha; decide
    · cases ha

/-- The driver with its defaults. -/
def testVxi : DriverVxi where
  errpref := "vxi: "
  idn := []
  add := [nl]
  trim := [nl]
  readCond := .qmark1w

end DriverVxi

end Device2
