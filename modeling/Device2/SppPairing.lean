/-
Device2/SppPairing.lean

Requests and replies of an SPP program over a run of `Driver_spp::ask`.

The program answers every line it reads with one reply (`SppProgram`); the lines
it has written and the driver has not read yet stand in the pipe.  `ask` writes
the message and reads up to the first final line.  How many lines come in time is
not decided by the driver: it is part of the label of the step (`SppAsk`), so a
run ranges over all delays, and a read that runs out of lines ends with the
timeout of `getline`, which takes no line.

Nothing brings the two sides together again when a reply has not been read to
its end.  The pipe stays empty between two calls, and every answer belongs to its
own message, as long as the steps of the run are `InStep`: the message is asked at
all (the test for `*idn?` in `ask` is the wrong way round) and is one line, and
its reply comes in time, is protected and does not begin with an empty line.
-/
import Device2.Spp
import Device2.Lib.StepSystem

namespace Device2

open Lines StepSystem

variable {σ : Type}

/-! ### The program and the pipe -/

/-- A program that answers every line with one reply. -/
structure SppProgram (σ : Type) where
  answer : σ → Str → σ × Reply

/-- The program's state, and the lines it has written and nobody has read. -/
structure SppPipe (σ : Type) where
  state : σ
  out : List Str

/-- One call of `ask`: the message, and the number of lines `getline` delivers
before it times out. -/
structure SppAsk where
  msg : Str
  arrived : Nat

namespace SppProgram

/-- The program reads lines and writes its replies to them. -/
def feed (P : SppProgram σ) (ch : Char) : List Str → SppPipe σ → SppPipe σ
  | [], w => w
  | l :: ls, w =>
    let r := P.answer w.state l
    P.feed ch ls ⟨r.1, w.out ++ r.2.lines ch⟩

/-- The replies to lines the program reads in the state `s`. -/
def replies (P : SppProgram σ) : List Str → σ → List Reply
  | [], _ => []
  | l :: ls, s => (P.answer s l).2 :: P.replies ls (P.answer s l).1

end SppProgram

/-- What `getline` throws on a timeout. -/
def readTimeout : GetlineEnd := .throws { str := "Read timeout" }

namespace DriverSpp

/-- `Driver_spp::write`: the message and a newline; the program reads lines. -/
def write (d : DriverSpp) (P : SppProgram σ) (msg : Str) (w : SppPipe σ) : SppPipe σ :=
  P.feed d.ch (completeLines nl (msg ++ [nl])) w

/-- `Driver_spp::read`. -/
def read (d : DriverSpp) (arrived : Nat) (w : SppPipe σ) : Except Err Str × SppPipe σ :=
  let r := d.readSpp readTimeout (w.out.take arrived)
  (r.1, { w with out := r.2 ++ w.out.drop arrived })

/-- `Driver_spp::ask`.  `strcasecmp` is 0 when the strings agree, so a driver with
`idn` answers with it to every message but `*idn?`. -/
def ask (d : DriverSpp) (P : SppProgram σ) (a : SppAsk) (w : SppPipe σ) :
    Except Err Str × SppPipe σ :=
  if d.idn ≠ [] ∧ sameNoCase a.msg "*idn?" = false then (.ok d.idn, w)
  else d.read a.arrived (d.write P a.msg w)

/-- A call of `ask` as a step. -/
def askStep (d : DriverSpp) (P : SppProgram σ) (w : SppPipe σ) (a : SppAsk) :
    Option (SppPipe σ) :=
  some (d.ask P a w).2

/-- A text that `ask` returns is the text of a successful reply to the message it
was given (to one of its lines, if it has several). -/
def Paired (d : DriverSpp) (P : SppProgram σ) (w : SppPipe σ) (a : SppAsk) (_ : SppPipe σ) : Prop :=
  ∀ text, (d.ask P a w).1 = .ok text →
    ∃ r ∈ P.replies (a.msg.splitOn nl) w.state, r.final = .ok ∧ text = r.text d.ch

/-- The conditions under which a call leaves the pipe at the end of a reply and
returns that reply. -/
structure InStep (d : DriverSpp) (P : SppProgram σ) (w : SppPipe σ) (a : SppAsk)
    (_ : SppPipe σ) : Prop where
  /-- The message goes to the program. -/
  asked : d.idn = [] ∨ sameNoCase a.msg "*idn?" = true
  /-- The message is one line. -/
  oneLine : nl ∉ a.msg
  /-- Every data line of the reply is protected. -/
  protectedData : ∀ l ∈ (P.answer w.state a.msg).2.data, Reply.Protected d.ch l
  /-- A successful reply does not begin with an empty line followed by others. -/
  solid : (P.answer w.state a.msg).2.final = .ok → (P.answer w.state a.msg).2.StartsSolid d.ch
  /-- The whole reply comes before the timeout. -/
  inTime : ((P.answer w.state a.msg).2.lines d.ch).length ≤ a.arrived

/-! ### One call -/

variable {d : DriverSpp} {P : SppProgram σ} {w t : SppPipe σ} {a : SppAsk}

/-- A message of one line gets one reply. -/
theorem write_oneLine (d : DriverSpp) (P : SppProgram σ) (w : SppPipe σ) {msg : Str}
    (h : nl ∉ msg) :
    d.write P msg w = ⟨(P.answer w.state msg).1, w.out ++ (P.answer w.state msg).2.lines d.ch⟩ := by
  rw [write, completeLines_snoc, List.splitOn_eq_singleton h]
  rfl

/-- **A call in step** reads the reply to its own message and nothing else. -/
theorem InStep.ask_eq (hw : w.out = []) (h : InStep d P w a t) :
    d.ask P a w = ((P.answer w.state a.msg).2.received d.ch, ⟨(P.answer w.state a.msg).1, []⟩) := by
  have hasked : ¬ (d.idn ≠ [] ∧ sameNoCase a.msg "*idn?" = false) := by
    rintro ⟨hidn, hsame⟩
    rcases h.asked with he | he
    · exact hidn he
    · rw [he] at hsame; cases hsame
  -- the pipe was empty, so the lines in it are those of the reply
  have hread : d.readSpp readTimeout ((P.answer w.state a.msg).2.lines d.ch ++ []) = _ :=
    readSpp_reply h.protectedData []
  rw [List.append_nil] at hread
  rw [ask, if_neg hasked, write_oneLine d P w h.oneLine, hw, List.nil_append, read]
  simp only [List.take_of_length_le h.inTime, List.drop_of_length_le h.inTime, hread,
    List.append_nil]

theorem InStep.out_nil (hw : w.out = []) (h : InStep d P w a t) : (d.ask P a w).2.out = [] := by
  rw [h.ask_eq hw]

theorem InStep.paired (hw : w.out = []) (h : InStep d P w a t) : Paired d P w a t := by
  intro text htext
  rw [h.ask_eq hw] at htext
  obtain ⟨hfin, hreceived⟩ := Reply.received_ok htext
  refine ⟨(P.answer w.state a.msg).2, ?_, hfin, ?_⟩
  · rw [List.splitOn_eq_singleton h.oneLine]
    exact List.mem_cons_self
  · rw [hreceived]
    exact (h.solid hfin).text_eq

/-! ### Runs -/

/-- **Every answer belongs to its own message** in a run whose calls are all in
step, and the pipe is empty between the calls. -/
theorem asks_paired (d : DriverSpp) (P : SppProgram σ) {w : SppPipe σ} (hw : w.out = [])
    {es : List SppAsk} (h : Along (d.askStep P) (d.InStep P) w es) :
    Along (d.askStep P) (d.Paired P) w es ∧
      ∀ w', run (d.askStep P) w es = some w' → w'.out = [] := by
  have hstep : ∀ (s : SppPipe σ) (e : SppAsk) (t : SppPipe σ), s.out = [] →
      d.askStep P s e = some t → d.InStep P s e t → t.out = [] := by
    intro s e t hs he hin
    obtain rfl := Option.some.inj he
    exact hin.out_nil hs
  constructor
  · exact h.of_invariant
      (fun s e t hs he hin => ⟨hstep s e t hs he hin, hin.paired hs⟩) hw
  · intro w' hrun
    exact run_invariant_along hstep hw h hrun

/-- A program that repeats the lines it reads. -/
def echo : SppProgram Unit := ⟨fun _ l => ((), ⟨[l], .ok⟩)⟩

/-- Its driver, without `idn`. -/
def echoDriver : DriverSpp := ⟨"echo", '#', []⟩

/-- Two messages, one after the other. -/
theorem asks_paired_echo :
    Along (echoDriver.askStep echo) (echoDriver.Paired echo) ⟨(), []⟩ [⟨"a", 2⟩, ⟨"b c", 2⟩] ∧
      ∀ w', run (echoDriver.askStep echo) ⟨(), []⟩ [⟨"a", 2⟩, ⟨"b c", 2⟩] = some w' →
        w'.out = [] := by
  have hin : ∀ (w : SppPipe Unit) (msg : Str), nl ∉ msg → msg.head? ≠ some '#' →
      echoDriver.InStep echo w ⟨msg, 2⟩ (echoDriver.ask echo ⟨msg, 2⟩ w).2 := by
    intro w msg hnl hch
    refine ⟨.inl rfl, hnl, ?_, fun _ _ => rfl, le_rfl⟩
    rintro l hl hhead
    rw [List.mem_singleton.mp hl] at hhead
    exact absurd hhead hch
  refine asks_paired echoDriver echo rfl ?_
  rw [along_cons rfl, along_cons rfl]
  exact ⟨hin _ _ (by decide) (by decide), hin _ _ (by decide) (by decide), trivial⟩

/-- After a message of two lines every later answer is late by one: the answer to
`c` is `b`. -/
theorem multiline_message_shifts_answers :
    ¬ ∀ (d : DriverSpp) (P : SppProgram Unit) (w : SppPipe Unit), w.out = [] →
      ∀ es, Along (d.askStep P) (d.Paired P) w es := by
  intro h
  have hrun := h echoDriver echo ⟨(), []⟩ rfl [⟨"a\nb", 4⟩, ⟨"c", 4⟩]
  rw [along_cons rfl, along_cons rfl] at hrun
  obtain ⟨-, hsecond, -⟩ := hrun
  obtain ⟨r, hr, -, htext⟩ := hsecond "b" rfl
  obtain rfl : r = ⟨["c".toList], .ok⟩ := List.mem_singleton.mp hr
  exact absurd htext (by decide)

end DriverSpp

end Device2
