/-
Device2/AskContract.lean

What `ask` should do, for every driver with a parameter `-idn`, and when the six
copies of it do that.

`Contract` is the common meaning: the identification is answered without touching
the device, any other message is written once with its suffix, and one reply is
read if the message asks for one (`wantsReply`).  It is stated about the calls of a
`Port`, so it covers every device.

The drivers differ from it in three places, and `AskOk` says where this shows
(`contract_iff`): `Driver_spp` tests `strcasecmp` the wrong way round; the test for
a question mark in the first word takes a leading space for the end of it; and C
strings end at a NUL, which matters for the comparison with `*idn?` and for all
that `Driver_vxi` writes.
-/
import Device2.Drivers

namespace Device2

/-! ### The contract -/

/-- The message is `*idn?`, up to letter case. -/
def IsIdnQuery (msg : Str) : Prop := msg.map toLower = "*idn?".toList

instance (msg : Str) : Decidable (IsIdnQuery msg) := by unfold IsIdnQuery; infer_instance

/-- The text between any leading spaces and the next space. -/
def firstWord (msg : Str) : Str := (msg.dropWhile (· = ' ')).takeWhile (· ≠ ' ')

/-- The message asks for a reply. -/
def wantsReply (msg : Str) : ReadCond → Bool
  | .always => true
  | .never => false
  | .qmark => '?' ∈ msg
  | .qmark1w => '?' ∈ firstWord msg

/-- The port takes the text.  `Driver_spp` does not look at the errors of its
stream. -/
def Driver.Takes (port : Port) (m : Str) : Driver → Prop
  | .spp _ => True
  | _ => port.sendError m = none

/-- What a call of `ask` should give and do: `text` is the message with its suffix,
and `reply` what `read` would give. -/
def Keeps (idn : Str) (cond : ReadCond) (takes : Prop) (text msg : Str)
    (reply : Except Err Str) (c : PortCall Str) : Prop :=
  if idn ≠ [] ∧ IsIdnQuery msg then c = ⟨.ok idn, []⟩
  else
    (¬ takes → (∃ e, c.ret = .error e) ∧ c.io = [.write text]) ∧
    (takes → c = if wantsReply msg cond then ⟨reply, [.write text, .read]⟩
      else ⟨.ok [], [.write text]⟩)

/-- The contract of `ask`. -/
def Driver.Contract (D : Driver) (port : Port) (msg : Str) : Prop :=
  Keeps D.idn D.readCond (D.Takes port (msg ++ D.suffix)) (msg ++ D.suffix) msg (D.read port).ret
    (D.ask port msg)

/-- The driver passes its messages on as C strings. -/
def Driver.WritesCString : Driver → Prop
  | .vxi _ => True
  | _ => False

/-- The messages for which `ask` keeps its contract. -/
def AskOk (D : Driver) (msg : Str) : Prop :=
  match D with
  | .spp d => d.idn = [] ∨ sameNoCase msg "*idn?" ∧ ¬ IsIdnQuery msg
  | D =>
    -- a message that goes on behind a NUL is not taken for `*idn?`
    (D.idn ≠ [] → sameNoCase msg "*idn?" → IsIdnQuery msg) ∧
    (¬ (D.idn ≠ [] ∧ IsIdnQuery msg) →
      (D.readCond = .qmark1w → msg.head? = some ' ' → '?' ∉ firstWord msg) ∧
      (D.WritesCString → nul ∉ msg ++ D.suffix))

/-! ### The tests -/

theorem toLower_nul : toLower nul = nul := by decide

/-- `strcasecmp` recognizes `*idn?`, whatever the letter case. -/
theorem IsIdnQuery.sameNoCase {msg : Str} (h : IsIdnQuery msg) : sameNoCase msg "*idn?" = true := by
  have hnul : nul ∉ msg := by
    intro hmem
    have : nul ∈ msg.map toLower := List.mem_map.mpr ⟨nul, hmem, toLower_nul⟩
    rw [h] at this
    exact absurd this (by decide)
  rw [Device2.sameNoCase, cStr_eq_self_iff.mpr hnul]
  rw [IsIdnQuery] at h
  rw [h]
  decide

theorem isSome_find {msg : Str} {c : Char} : (find msg c 0).isSome = true ↔ c ∈ msg := by
  by_cases h : c ∈ msg
  · obtain ⟨a, b, rfl, ha⟩ := List.eq_append_cons_of_mem h
    have hfind : find (a ++ c :: b) c 0 = some (0 + a.length) := find_of_drop rfl ha
    rw [hfind]
    simp
  · rw [find_eq_none h]
    simp [h]

/-- The test for the first word looks at what stands in front of the first space. -/
theorem checkReadCond_qmark1w (msg : Str) :
    checkReadCond msg .qmark1w = true ↔ '?' ∈ msg.takeWhile (· ≠ ' ') := by
  by_cases hsp : ' ' ∈ msg
  · obtain ⟨w, t, rfl, hw⟩ := List.eq_append_cons_of_mem hsp
    have hword : (w ++ ' ' :: t).takeWhile (· ≠ ' ') = w := by
      rw [List.takeWhile_append_of_pos fun c hc => by simpa using ne_of_mem_of_not_mem hc hw]
      simp
    have hspace : find (w ++ ' ' :: t) ' ' 0 = some (0 + w.length) := find_of_drop rfl hw
    rw [hword, checkReadCond, hspace]
    by_cases hq : '?' ∈ w
    · -- the question mark is in front of the space
      obtain ⟨a, b, rfl, ha⟩ := List.eq_append_cons_of_mem hq
      have hdrop : (a ++ '?' :: b ++ ' ' :: t).drop 0 = a ++ '?' :: (b ++ ' ' :: t) := by simp
      rw [find_of_drop hdrop ha]
      simp
    · -- there is none, or it is behind the space
      rcases hmark : find (w ++ ' ' :: t) '?' 0 with - | p
      · simp [hq]
      · have hp : w.length ≤ p := by
          by_cases hqt : '?' ∈ t
          · obtain ⟨a, b, rfl, ha⟩ := List.eq_append_cons_of_mem hqt
            have hdrop : (w ++ ' ' :: (a ++ '?' :: b)).drop 0 = (w ++ ' ' :: a) ++ '?' :: b := by simp
            rw [find_of_drop hdrop (by simp [hq, ha])] at hmark
            simp at hmark
            omega
          · rw [find_eq_none (by simp [hq, hqt])] at hmark
            cases hmark
        simp [hq, hp]
  · have hword : msg.takeWhile (· ≠ ' ') = msg := by
      rw [List.takeWhile_eq_self_iff]
      exact fun c hc => by simpa using ne_of_mem_of_not_mem hc hsp
    have hspace : find msg ' ' 0 = none := find_eq_none hsp
    rw [hword, checkReadCond, hspace, ← isSome_find]
    rcases find msg '?' 0 with - | p <;> simp

/-- **Where the test for a reply goes wrong**: a leading space hides a question mark
in the first word. -/
theorem checkReadCond_eq_iff (msg : Str) (cond : ReadCond) :
    checkReadCond msg cond = wantsReply msg cond ↔
      (cond = .qmark1w → msg.head? = some ' ' → '?' ∉ firstWord msg) := by
  cases cond with
  | always => simp [checkReadCond, wantsReply]
  | never => simp [checkReadCond, wantsReply]
  | qmark =>
    have h : checkReadCond msg .qmark = wantsReply msg .qmark := by
      rw [Bool.eq_iff_iff, wantsReply, decide_eq_true_eq]
      exact isSome_find
    simp [h]
  | qmark1w =>
    rw [Bool.eq_iff_iff, checkReadCond_qmark1w, wantsReply, decide_eq_true_eq]
    rcases msg with - | ⟨c, msg⟩
    · simp [firstWord]
    · by_cases hc : c = ' '
      · subst hc
        simp
      · -- without a leading space the two words are one
        have : firstWord (c :: msg) = (c :: msg).takeWhile (· ≠ ' ') := by
          rw [firstWord, List.dropWhile_cons_of_neg (by simpa using hc)]
        simp [this, hc]

/-! ### The five copies that agree -/

section Common
variable (d : MsgDriver) (m msg : Str) (error : Str → Err) (read : Port → PortCall Str)

/-- What `ask` does with a message that is not for `-idn`. -/
theorem askWith_send (hread : ∀ port, (read port).io = [.read])
    (h : ¬ (d.idn ≠ [] ∧ sameNoCase msg "*idn?" = true)) (port : Port) :
    (∀ text, port.sendError m = some text →
      d.askWith (fun _ => .send port m error) (read port) msg = ⟨.error (error text), [.write m]⟩) ∧
    (port.sendError m = none → d.askWith (fun _ => .send port m error) (read port) msg =
      if checkReadCond msg d.readCond then ⟨(read port).ret, [.write m, .read]⟩
      else ⟨.ok [], [.write m]⟩) := by
  refine ⟨fun text ht => ?_, fun ht => ?_⟩
  · rw [MsgDriver.askWith, if_neg h, PortCall.send, ht]
    rfl
  · rw [MsgDriver.askWith, if_neg h, PortCall.send, ht]
    rcases hc : checkReadCond msg d.readCond with - | -
    · rfl
    · simp [PortCall.bind, hread port]

/-- A copy that hands `m` over keeps the contract on every port exactly when it takes
no other message for `*idn?`, and for the rest `m` is the message with its suffix
and the test for a reply is right. -/
theorem askWith_keeps_iff (hread : ∀ port, (read port).io = [.read]) (text : Str) :
    (∀ port, Keeps d.idn d.readCond (port.sendError text = none) text msg (read port).ret
      (d.askWith (fun _ => .send port m error) (read port) msg)) ↔
    (d.idn ≠ [] → sameNoCase msg "*idn?" → IsIdnQuery msg) ∧
    (¬ (d.idn ≠ [] ∧ IsIdnQuery msg) →
      (d.readCond = .qmark1w → msg.head? = some ' ' → '?' ∉ firstWord msg) ∧ m = text) := by
  rw [← checkReadCond_eq_iff]
  by_cases hidn : d.idn ≠ [] ∧ IsIdnQuery msg
  · -- the identification
    have hask : ∀ port, d.askWith (fun _ => .send port m error) (read port) msg = ⟨.ok d.idn, []⟩ :=
      fun port => if_pos ⟨hidn.1, hidn.2.sameNoCase⟩
    refine iff_of_true (fun port => ?_) ⟨fun _ _ => hidn.2, fun h => absurd hidn h⟩
    rw [Keeps, if_pos hidn]
    exact hask port
  · simp only [Keeps, if_neg hidn]
    by_cases hsame : d.idn ≠ [] ∧ sameNoCase msg "*idn?" = true
    · -- a message that only looks like it up to a NUL: nothing is written
      have hask : ∀ port, d.askWith (fun _ => .send port m error) (read port) msg = ⟨.ok d.idn, []⟩ :=
        fun port => if_pos hsame
      refine iff_of_false (fun h => ?_) fun h => hidn ⟨hsame.1, h.1 hsame.1 hsame.2⟩
      have := (h ⟨fun _ => none, []⟩).2 rfl
      rw [hask] at this
      split at this <;> simp at this
    · have hidn' : d.idn ≠ [] → sameNoCase msg "*idn?" = true → IsIdnQuery msg :=
        fun h₁ h₂ => absurd ⟨h₁, h₂⟩ hsame
      rw [and_iff_right hidn', forall_prop_of_true hidn]
      constructor
      · -- a port that takes everything shows the text and the reading
        intro h
        have hio := (h ⟨fun _ => none, []⟩).2 rfl
        rw [(askWith_send d m msg error read hread hsame ⟨fun _ => none, []⟩).2 rfl] at hio
        have hio := congrArg PortCall.io hio
        rcases hc : checkReadCond msg d.readCond with - | - <;>
          rcases hw : wantsReply msg d.readCond with - | - <;> simp_all
      · rintro ⟨hcond, rfl⟩ port
        obtain ⟨hfail, htake⟩ := askWith_send d m msg error read hread hsame port
        refine ⟨fun hne => ?_, fun ht => ?_⟩
        · obtain ⟨e, he⟩ := Option.ne_none_iff_exists'.mp hne
          rw [hfail e he]
          exact ⟨⟨_, rfl⟩, rfl⟩
        · rw [htake ht, hcond]

end Common

/-! ### All six -/

theorem withSuffix_eq (d : MsgDriver) (msg : Str) : d.withSuffix msg = msg ++ d.add := by
  rw [MsgDriver.withSuffix]
  split
  · rfl
  · rename_i h
    rw [List.length_eq_zero_iff.mp (Nat.eq_zero_of_not_pos h), List.append_nil]

/-- The four drivers that hand over the message with its suffix as it is. -/
theorem askWith_suffix_iff (d : MsgDriver) (error : Str → Err) (read : Port → PortCall Str)
    (hread : ∀ port, (read port).io = [.read]) (msg : Str) :
    (∀ port, Keeps d.idn d.readCond (port.sendError (msg ++ d.add) = none) (msg ++ d.add) msg
      (read port).ret (d.askWith (fun _ => .send port (d.withSuffix msg) error) (read port) msg)) ↔
    (d.idn ≠ [] → sameNoCase msg "*idn?" → IsIdnQuery msg) ∧
    (¬ (d.idn ≠ [] ∧ IsIdnQuery msg) →
      d.readCond = .qmark1w → msg.head? = some ' ' → '?' ∉ firstWord msg) := by
  rw [askWith_keeps_iff d (d.withSuffix msg) msg error read hread (msg ++ d.add)]
  simp [withSuffix_eq]

/-- With `-idn` set `Driver_spp` has it the other way round: only what `strcasecmp`
recognizes goes to the program. -/
theorem DriverSpp.keeps_iff (d : DriverSpp) (msg : Str) :
    (∀ port, (Driver.spp d).Contract port msg) ↔
      (d.idn = [] ∨ sameNoCase msg "*idn?" = true ∧ ¬ IsIdnQuery msg) := by
  have hcontract : ∀ port, (Driver.spp d).Contract port msg ↔
      d.askPort port msg = if d.idn ≠ [] ∧ IsIdnQuery msg then ⟨.ok d.idn, []⟩
        else ⟨(d.readPort port).ret, [.write (msg ++ [nl]), .read]⟩ := by
    intro port
    show Keeps d.idn .always True (msg ++ [nl]) msg (d.readPort port).ret (d.askPort port msg) ↔ _
    rw [Keeps]
    split <;> simp [wantsReply]
  by_cases hsame : d.idn ≠ [] ∧ sameNoCase msg "*idn?" = false
  · -- the identification is the answer to everything else
    have hno : ¬ (d.idn ≠ [] ∧ IsIdnQuery msg) := by
      rintro ⟨-, hquery⟩
      rw [hquery.sameNoCase] at hsame
      cases hsame.2
    refine iff_of_false (fun h => ?_) ?_
    · have := (hcontract ⟨fun _ => none, []⟩).mp (h _)
      rw [DriverSpp.askPort, if_pos hsame, if_neg hno] at this
      cases congrArg PortCall.io this
    · rintro (hidn | ⟨hcase, -⟩)
      · exact hsame.1 hidn
      · rw [hcase] at hsame
        cases hsame.2
  · have hask : ∀ port, d.askPort port msg =
        ⟨(d.readPort port).ret, [.write (msg ++ [nl]), .read]⟩ := fun port => if_neg hsame
    constructor
    · intro h
      by_cases hidn : d.idn = []
      · exact .inl hidn
      · refine .inr ⟨by simpa [hidn] using hsame, fun hquery => ?_⟩
        have := (hcontract ⟨fun _ => none, []⟩).mp (h _)
        rw [hask, if_pos ⟨hidn, hquery⟩] at this
        cases congrArg PortCall.io this
    · intro h port
      rw [hcontract, if_neg, hask]
      rintro ⟨hidn, hquery⟩
      rcases h with h | h
      · exact hidn h
      · exact h.2 hquery

/-- **When the drivers implement the contract of `ask`.** -/
theorem contract_iff (D : Driver) (msg : Str) :
    (∀ port, D.Contract port msg) ↔ AskOk D msg := by
  cases D with
  | spp d => exact d.keeps_iff msg
  | serial d | net d | usbtmc d | gpib d =>
    refine (askWith_suffix_iff d.toMsgDriver _ d.read (fun _ => rfl) msg).trans ?_
    simp [AskOk, Driver.WritesCString, Driver.idn, Driver.readCond]
  | vxi d =>
    refine (askWith_keeps_iff d.toMsgDriver (cStr (d.withSuffix msg)) msg (fun text => { str := text })
      d.read (fun _ => rfl) (msg ++ d.add)).trans ?_
    rw [withSuffix_eq, cStr_eq_self_iff]
    simp [AskOk, Driver.WritesCString, Driver.idn, Driver.readCond, Driver.suffix]

/-- A driver `spp` with `-idn` answers with it to a message of the device. -/
theorem spp_answers_idn :
    ¬ (Driver.spp ⟨"prog", '#', "gen"⟩).Contract ⟨fun _ => none, [.data "100" (.ok false)]⟩ "freq?" := by
  intro h
  have hno : ¬ ("gen".toList ≠ [] ∧ IsIdnQuery "freq?") := by decide
  rw [Driver.Contract, Keeps, Driver.idn, if_neg hno] at h
  -- the message should have been written
  cases congrArg PortCall.io (h.2 trivial)

/-- A leading space makes a query a command: no reply is read. -/
example : (Driver.ask ⟨fun _ => none, [.data "100" (.ok false)]⟩ " freq?"
    (.net ⟨⟨"net: ", [], [nl], [nl], .qmark1w⟩⟩)).io = [.write (" freq?".toList ++ [nl])] := by
  decide

end Device2
