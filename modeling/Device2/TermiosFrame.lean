/-
Device2/TermiosFrame.lean

Which flags of the port the options of `Driver_serial` change (`server/drv_serial.cpp`,
`server/drv_serial.h`).

`named` is the list of the options with the flags they stand for, as the header file
has it.  The text leaves open whether `-parity` stands for the checking and stripping
of the parity bit on input, too, so what is said here is said for both (`strips`).

Every setting keeps the flags that no option in front of it names; only the parity
check of the input is not made for an option but for a flag, the one of the parity bit
(`ParityOn` says when it is on).  So flags that no option names come out as they went
in exactly if this check changes none of them (`flags_named_iff`).
-/
import Device2.DriverLeaks
import Device2.Termios

namespace Device2

open FlagWords Termios Resources

variable {R : Readers} {opts : Opt} {errpref : Str} {strips : Bool} {t t' : TermFlags}
variable {v w : FlagWord} {i : ℕ}

/-! ### The flags of an option -/

/-- The options and the flags they stand for, in each of the words. -/
def named (strips : Bool) : FlagWord → List (Str × BitVec 32)
  | .cCflag =>
    [("speed", speedBits .cCflag), ("ispeed", speedBits .cCflag), ("ospeed", speedBits .cCflag),
      ("clocal", CLOCAL), ("cread", CREAD), ("crtscts", CRTSCTS), ("cs", CSIZE),
      ("cstopb", CSTOPB), ("hup", HUPCL), ("parenb", PARENB), ("parodd", PARODD),
      ("cmspar", CMSPAR), ("parity", PARENB ||| PARODD ||| CSTOPB ||| CSIZE)]
  | .cIflag =>
    [("speed", speedBits .cIflag), ("ispeed", speedBits .cIflag), ("ospeed", speedBits .cIflag),
      ("icrnl", ICRNL), ("inlcr", INLCR), ("igncr", IGNCR), ("iuclc", IUCLC), ("iutf8", IUTF8),
      ("brkint", BRKINT), ("ignbrk", IGNBRK), ("imaxbel", IMAXBEL), ("inpck", INPCK),
      ("ignpar", IGNPAR), ("istrip", ISTRIP), ("parmrk", PARMRK), ("ixany", IXANY),
      ("ixoff", IXOFF), ("ixon", IXON), ("sfc", IXON ||| IXOFF ||| IXANY), ("nlcnv", ICRNL),
      ("lcase", IUCLC), ("parity", if strips then INPCK ||| ISTRIP else 0)]
  | .cOflag =>
    [("bs", BSDLY), ("cr", CRDLY), ("ff", FFDLY), ("nl", NLDLY), ("tab", TABDLY), ("vt", VTDLY),
      ("ocrnl", OCRNL), ("onlcr", ONLCR), ("onlret", ONLRET), ("onocr", ONOCR), ("ofdel", OFDEL),
      ("ofill", OFILL), ("olcuc", OLCUC), ("opost", OPOST), ("nlcnv", ONLCR), ("lcase", OLCUC)]
  | .cLflag =>
    [("echo", ECHO), ("echoctl", ECHOCTL), ("echoe", ECHOE), ("echok", ECHOK),
      ("echoke", ECHOKE), ("echonl", ECHONL), ("echoprt", ECHOPRT), ("extproc", EXTPROC),
      ("flusho", FLUSHO), ("icanon", ICANON), ("iexten", IEXTEN), ("isig", ISIG),
      ("noflsh", NOFLSH), ("tostop", TOSTOP), ("xcase", XCASE),
      ("raw", ICANON ||| ECHO ||| ECHOE ||| ISIG)]

/-- An option that is given stands for the bit. -/
def Named (strips : Bool) (opts : Opt) (w : FlagWord) (i : ℕ) : Prop :=
  ∃ p ∈ named strips w, p.1 ∈ opts ∧ p.2.getLsbD i = true

theorem outside_of_not_named {oname : Str} {mask : BitVec 32} (hn : ¬ Named strips opts w i)
    (hp : (oname, mask) ∈ named strips v) (ho : oname ∈ opts) : Outside v mask w i := by
  rintro rfl
  by_contra h
  exact hn ⟨_, hp, ho, by simpa using h⟩

/-! ### What a setting keeps -/

theorem keeps_setFlag {f : FlagOpt} (h : f.oname ∈ opts → Outside f.word f.mask w i) :
    KeepsBit w i (setFlag R opts f) := by
  refine .ite (fun ho => .after fun b _ => ?_) fun _ => .pure
  cases b with
  | true => exact keeps_setBits (h ho)
  | false => exact keeps_clearBits (h ho)

theorem keeps_setFlags {fs : List FlagOpt}
    (h : ∀ f ∈ fs, f.oname ∈ opts → Outside f.word f.mask w i) :
    KeepsBit w i (setFlags R opts fs) := by
  induction fs with
  | nil => exact .pure
  | cons f fs ih =>
    obtain ⟨hf, hfs⟩ := List.forall_mem_cons.mp h
    apply KeepsBit.seq
    · exact keeps_setFlag hf
    · exact ih hfs

theorem keeps_putSpeed {call : BaudCall} {oname : Str}
    (h : oname ∈ opts → (speedBits w).getLsbD i = false) :
    KeepsBit w i (putSpeed R opts errpref call oname) := by
  refine .ite (fun ho => .after fun b _ => .ite (fun _ => ?_) fun _ => .throw) fun _ => .pure
  intro t t' ht
  cases ht
  exact call.set_eq b t w i (h ho)

theorem outside_of_or_eq {m m' : BitVec 32} (h : m ||| m' = m') (ho : Outside v m' w i) :
    Outside v m w i := by
  rw [← h, outside_or_iff] at ho
  exact ho.1

theorem keeps_setField {c : FieldOpt} (h : c.oname ∈ opts → Outside c.word c.field w i) :
    KeepsBit w i (setField R opts errpref c) := by
  refine .ite (fun ho => .after fun n _ => .ite (fun _ => ?_) fun _ => .throw) fun _ => .pure
  have hstyle : c.styles.getD (n - c.lo).toNat 0 ||| c.field = c.field := by
    rcases e : c.styles[(n - c.lo).toNat]? with - | m
    · rw [List.getD_eq_getElem?_getD, e]
      exact BitVec.zero_or
    · rw [List.getD_eq_getElem?_getD, e]
      simpa using List.all_eq_true.mp c.styles_le m (List.mem_of_getElem? e)
  exact .seq (keeps_clearBits (h ho)) (keeps_setBits (outside_of_or_eq hstyle (h ho)))

/-- The bits of the word `cCflag` that `-parity` may change. -/
theorem keeps_putParity {par : Str}
    (h : Outside .cCflag (PARENB ||| PARODD ||| CSTOPB ||| CSIZE) w i) :
    KeepsBit w i (putParity errpref par) := by
  obtain ⟨⟨⟨hparenb, hparodd⟩, hcstopb⟩, hcsize⟩ : ((Outside .cCflag PARENB w i ∧
      Outside .cCflag PARODD w i) ∧ Outside .cCflag CSTOPB w i) ∧ Outside .cCflag CSIZE w i := by
    simpa only [outside_or_iff] using h
  have hcs7 : Outside .cCflag CS7 w i := outside_of_or_eq rfl hcsize
  -- the stop bits and the size come last, whatever the parity
  have hsize : ∀ {m : BitVec 32}, Outside .cCflag m w i → KeepsBit w i (fun t =>
      .ok (setBits .cCflag m (clearBits .cCflag CSIZE (clearBits .cCflag CSTOPB t))) :
      Setting Err FlagWord 32) := by
    intro m hm
    exact .seq (keeps_clearBits hcstopb) (.seq (keeps_clearBits hcsize) (keeps_setBits hm))
  refine .ite (fun _ => ?_) fun _ => .ite (fun _ => ?_) fun _ => .ite (fun _ => ?_) fun _ =>
    .ite (fun _ => .pure) fun _ => .throw
  · exact .seq (keeps_clearBits hparenb) (hsize hcsize)
  · exact .seq (keeps_setBits hparenb) (.seq (keeps_clearBits hparodd) (hsize hcs7))
  · exact .seq (keeps_setBits hparenb) (.seq (keeps_setBits hparodd) (hsize hcs7))

theorem keeps_paritySettings (h : "parity".toList ∈ opts →
    Outside .cCflag (PARENB ||| PARODD ||| CSTOPB ||| CSIZE) w i) :
    KeepsBit w i (paritySettings opts errpref) :=
  .ite (fun ho => keeps_putParity (h ho)) fun _ => .pure

theorem keeps_setRaw (h : "raw".toList ∈ opts →
    Outside .cLflag (ICANON ||| ECHO ||| ECHOE ||| ISIG) w i) : KeepsBit w i (setRaw R opts) := by
  refine .ite (fun ho => .after fun b _ => ?_) fun _ => .pure
  have hraw := outside_or_iff.mp (h ho)
  cases b with
  | true => exact keeps_clearBits (h ho)
  | false => exact keeps_setBits hraw.1

/-- All calls of `set_opt` in front of the parity check. -/
def lineOpts : List FlagOpt :=
  modemOpts ++ stopOpts ++ parenbOpt :: paroddOpts ++ inputOpts ++ outputOpts ++ localOpts

def serialFields : List FieldOpt :=
  [csField, bsField, crField, ffField, nlField, tabField, vtField]

/-- No setting of an option that is given changes the bit. -/
structure Untouched (opts : Opt) (w : FlagWord) (i : ℕ) : Prop where
  speeds : ∀ oname ∈ serialSpeeds, oname ∈ opts → (speedBits w).getLsbD i = false
  flags : ∀ f ∈ lineOpts, f.oname ∈ opts → Outside f.word f.mask w i
  fields : ∀ c ∈ serialFields, c.oname ∈ opts → Outside c.word c.field w i
  parity : "parity".toList ∈ opts → Outside .cCflag (PARENB ||| PARODD ||| CSTOPB ||| CSIZE) w i
  raw : "raw".toList ∈ opts → Outside .cLflag (ICANON ||| ECHO ||| ECHOE ||| ISIG) w i
  combined : ∀ f ∈ combinedOpts, f.oname ∈ opts → Outside f.word f.mask w i

theorem flags_named : ∀ f ∈ lineOpts ++ combinedOpts, (f.oname, f.mask) ∈ named strips f.word := by
  cases strips <;> decide +kernel

theorem fields_named : ∀ c ∈ serialFields, (c.oname, c.field) ∈ named strips c.word := by
  cases strips <;> decide +kernel

theorem Untouched.of_not_named (hn : ¬ Named strips opts w i) : Untouched opts w i where
  speeds := by
    intro oname hmem ho
    cases w with
    | cCflag =>
      have hp : (oname, speedBits .cCflag) ∈ named strips .cCflag := by
        simp only [serialSpeeds, List.mem_cons, List.not_mem_nil, or_false] at hmem
        rcases hmem with rfl | rfl | rfl <;> simp [named]
      exact outside_of_not_named hn hp ho rfl
    | cIflag =>
      have hp : (oname, speedBits .cIflag) ∈ named strips .cIflag := by
        simp only [serialSpeeds, List.mem_cons, List.not_mem_nil, or_false] at hmem
        rcases hmem with rfl | rfl | rfl <;> simp [named]
      exact outside_of_not_named hn hp ho rfl
    | cOflag => exact BitVec.getLsbD_zero
    | cLflag => exact BitVec.getLsbD_zero
  flags f hf ho := outside_of_not_named hn (flags_named f (List.mem_append_left _ hf)) ho
  fields c hc ho := outside_of_not_named hn (fields_named c hc) ho
  parity ho := outside_of_not_named hn (by simp [named]) ho
  raw ho := outside_of_not_named hn (by simp [named]) ho
  combined f hf ho := outside_of_not_named hn (flags_named f (List.mem_append_right _ hf)) ho

theorem forall_lineOpts {P : FlagOpt → Prop} :
    (∀ f ∈ lineOpts, P f) ↔ (∀ f ∈ modemOpts, P f) ∧ (∀ f ∈ stopOpts, P f) ∧ P parenbOpt ∧
      (∀ f ∈ paroddOpts, P f) ∧ (∀ f ∈ inputOpts, P f) ∧ (∀ f ∈ outputOpts, P f) ∧
      ∀ f ∈ localOpts, P f := by
  simp only [lineOpts, List.forall_mem_append, List.forall_mem_cons, and_assoc]

theorem forall_serialFields {P : FieldOpt → Prop} :
    (∀ c ∈ serialFields, P c) ↔ P csField ∧ P bsField ∧ P crField ∧ P ffField ∧ P nlField ∧
      P tabField ∧ P vtField := by
  simp [serialFields]

theorem forall_serialSpeeds {P : Str → Prop} :
    (∀ oname ∈ serialSpeeds, P oname) ↔ P "speed" ∧ P "ispeed" ∧ P "ospeed" := by
  simp [serialSpeeds]

section Blocks
variable (h : Untouched opts w i)
include h

theorem Untouched.keeps_speedSettings {B : BaudCalls} :
    KeepsBit w i (speedSettings R opts errpref B) := by
  obtain ⟨hspeed, hispeed, hospeed⟩ := forall_serialSpeeds.mp h.speeds
  apply (keeps_putSpeed hspeed).seq
  apply (keeps_putSpeed hispeed).seq
  exact keeps_putSpeed hospeed

theorem Untouched.keeps_controlSettings : KeepsBit w i (controlSettings R opts errpref) := by
  obtain ⟨hmodem, hstop, hparenb, hparodd, -⟩ := forall_lineOpts.mp h.flags
  apply (keeps_setFlags hmodem).seq
  apply (keeps_setField (h.fields _ List.mem_cons_self)).seq
  apply (keeps_setFlags hstop).seq
  apply (keeps_setFlag hparenb).seq
  exact keeps_setFlags hparodd

theorem Untouched.keeps_outputSettings : KeepsBit w i (outputSettings R opts errpref) := by
  obtain ⟨-, -, -, -, -, houtput, -⟩ := forall_lineOpts.mp h.flags
  obtain ⟨-, hbs, hcr, hff, hnl, htab, hvt⟩ := forall_serialFields.mp h.fields
  apply (keeps_setField hbs).seq
  apply (keeps_setField hcr).seq
  apply (keeps_setField hff).seq
  apply (keeps_setField hnl).seq
  apply (keeps_setField htab).seq
  apply (keeps_setField hvt).seq
  exact keeps_setFlags houtput

theorem Untouched.keeps_lineSettings {B : BaudCalls} :
    KeepsBit w i (lineSettings R opts errpref B) := by
  obtain ⟨-, -, -, -, hinput, -, hlocal⟩ := forall_lineOpts.mp h.flags
  apply h.keeps_speedSettings.seq
  apply h.keeps_controlSettings.seq
  apply (keeps_setFlags hinput).seq
  apply h.keeps_outputSettings.seq
  apply (keeps_setFlags hlocal).seq
  exact keeps_paritySettings h.parity

theorem Untouched.keeps_combinedSettings : KeepsBit w i (combinedSettings R opts) :=
  (keeps_setRaw h.raw).seq (keeps_setFlags h.combined)

end Blocks

/-! ### The parity bit -/

/-- The parity bit of the port behind the option `-parenb`. -/
def ParenbOn (R : Readers) (opts : Opt) (port : TermFlags) : Prop :=
  match opts["parenb".toList]? with
  | some v => R.strToBool v = .ok true
  | none => port .cCflag &&& PARENB ≠ 0

/-- The parity bit of the port behind the option `-parity`. -/
def ParityOn (R : Readers) (opts : Opt) (port : TermFlags) : Prop :=
  match opts["parity".toList]? with
  | some par => par = "7E1" ∨ par = "7O1" ∨ par = "" ∧ ParenbOn R opts port
  | none => ParenbOn R opts port

theorem and_parenb_ne_zero_iff {x : BitVec 32} : x &&& PARENB ≠ 0 ↔ x.getLsbD 8 = true := by
  rw [show PARENB = BitVec.twoPow 32 8 from rfl]
  exact and_twoPow_ne_zero_iff

/-- A bit of an option is the value of the option, if it is given. -/
theorem getLsbD_setFlag {f : FlagOpt} (hbit : f.mask.getLsbD i = true)
    (h : setFlag R opts f t = .ok t') :
    (t' f.word).getLsbD i = true ↔
      match opts[f.oname]? with
      | some v => R.strToBool v = .ok true
      | none => (t f.word).getLsbD i = true := by
  rw [setFlag] at h
  rcases e : opts[f.oname]? with - | v
  · rw [if_neg (not_mem_of_getElem?_eq_none e)] at h
    cases h
    rfl
  · rw [if_pos (mem_of_getElem?_eq_some e)] at h
    obtain ⟨b, hb, h⟩ := exists_of_bind h
    rw [optGet, e] at hb
    replace hb : R.strToBool v = .ok b := hb
    cases h
    cases b with
    | true => exact iff_of_true (getLsbD_setBits_of_mem hbit) hb
    | false =>
      refine iff_of_false ?_ (by simp [hb])
      rw [if_neg Bool.false_ne_true, getLsbD_clearBits_of_mem hbit]
      exact Bool.false_ne_true

theorem parenb_setFlag (h : setFlag R opts parenbOpt t = .ok t') :
    (t' .cCflag).getLsbD 8 = true ↔ ParenbOn R opts t := by
  simp only [ParenbOn, and_parenb_ne_zero_iff]
  exact getLsbD_setFlag (f := parenbOpt) rfl h

/-- The number of stop bits and the size are behind the parity bit. -/
theorem parenb_stop_size {m : BitVec 32} (hm : m ||| CSIZE = CSIZE) (t : TermFlags) :
    ((t |> clearBits .cCflag CSTOPB |> clearBits .cCflag CSIZE |> setBits .cCflag m)
      .cCflag).getLsbD 8 = (t .cCflag).getLsbD 8 := by
  have hsize : Outside .cCflag CSIZE FlagWord.cCflag 8 := by decide
  have hstop : Outside .cCflag CSTOPB FlagWord.cCflag 8 := by decide
  rw [getLsbD_setBits_of_outside (outside_of_or_eq hm hsize), getLsbD_clearBits_of_outside hsize,
    getLsbD_clearBits_of_outside hstop]

theorem parenb_putParity {par : Str} (h : putParity errpref par t = .ok t') :
    (t' .cCflag).getLsbD 8 = true ↔
      par = "7E1" ∨ par = "7O1" ∨ par = "" ∧ (t .cCflag).getLsbD 8 = true := by
  rw [putParity] at h
  have hbit : PARENB.getLsbD 8 = true := rfl
  have hparodd : Outside .cCflag PARODD FlagWord.cCflag 8 := by decide
  split_ifs at h with h8n1 h7e1 h7o1 hnone
  · cases h
    apply iff_of_false
    · rw [parenb_stop_size rfl, getLsbD_clearBits_of_mem hbit]
      exact Bool.false_ne_true
    · rcases h8n1 with rfl | rfl <;> simp
  · cases h
    refine iff_of_true ?_ (.inl h7e1)
    rw [parenb_stop_size rfl, getLsbD_clearBits_of_outside hparodd]
    exact getLsbD_setBits_of_mem hbit
  · cases h
    refine iff_of_true ?_ (.inr (.inl h7o1))
    rw [parenb_stop_size rfl, getLsbD_setBits_of_outside hparodd]
    exact getLsbD_setBits_of_mem hbit
  · cases h
    subst hnone
    simp
  · exact absurd h throwText_ne_ok

/-- The options of `fs` do not stand for the bit, given or not. -/
theorem keeps_others {fs : List FlagOpt} (h : ∀ f ∈ fs, Outside f.word f.mask w i) :
    KeepsBit w i (setFlags R opts fs) :=
  keeps_setFlags fun f hf _ => h f hf

theorem parenbOn_congr (h : (t .cCflag).getLsbD 8 = (t' .cCflag).getLsbD 8) :
    ParenbOn R opts t ↔ ParenbOn R opts t' := by
  simp only [ParenbOn, and_parenb_ne_zero_iff, h]

theorem parenb_controlSettings (h : controlSettings R opts errpref t = .ok t') :
    (t' .cCflag).getLsbD 8 = true ↔ ParenbOn R opts t := by
  obtain ⟨t₁, hmodem, h⟩ := exists_of_bind h
  obtain ⟨t₂, hcs, h⟩ := exists_of_bind h
  obtain ⟨t₃, hstop, h⟩ := exists_of_bind h
  obtain ⟨t₄, hparenb, hparodd⟩ := exists_of_bind h
  have h₁ := keeps_others (w := .cCflag) (i := 8) (by decide) t t₁ hmodem
  have h₂ := keeps_setField (w := .cCflag) (i := 8) (fun _ => by decide) t₁ t₂ hcs
  have h₃ := keeps_others (w := .cCflag) (i := 8) (by decide) t₂ t₃ hstop
  have h₄ := keeps_others (w := .cCflag) (i := 8) (by decide) t₄ t' hparodd
  rw [h₄, parenb_setFlag hparenb]
  exact parenbOn_congr (h₃.trans (h₂.trans h₁))

theorem keeps_parenb_outputSettings : KeepsBit .cCflag 8 (outputSettings R opts errpref) := by
  refine .seq (keeps_setField fun _ => ?_) <| .seq (keeps_setField fun _ => ?_) <|
    .seq (keeps_setField fun _ => ?_) <| .seq (keeps_setField fun _ => ?_) <|
    .seq (keeps_setField fun _ => ?_) <| .seq (keeps_setField fun _ => ?_) (keeps_others ?_)
  all_goals decide

theorem parenb_paritySettings (h : paritySettings opts errpref t = .ok t') :
    (t' .cCflag).getLsbD 8 = true ↔
      match opts["parity".toList]? with
      | some par => par = "7E1" ∨ par = "7O1" ∨ par = "" ∧ (t .cCflag).getLsbD 8 = true
      | none => (t .cCflag).getLsbD 8 = true := by
  rw [paritySettings] at h
  rcases e : opts["parity".toList]? with - | par
  · rw [if_neg (not_mem_of_getElem?_eq_none e)] at h
    cases h
    rfl
  · rw [if_pos (mem_of_getElem?_eq_some e), optStr, e] at h
    exact parenb_putParity h

/-- The parity bit when it is looked at. -/
theorem parenb_lineSettings {B : BaudCalls} (h : lineSettings R opts errpref B t = .ok t') :
    (t' .cCflag).getLsbD 8 = true ↔ ParityOn R opts t := by
  obtain ⟨t₁, hspeed, h⟩ := exists_of_bind h
  obtain ⟨t₂, hcontrol, h⟩ := exists_of_bind h
  obtain ⟨t₃, hinput, h⟩ := exists_of_bind h
  obtain ⟨t₄, houtput, h⟩ := exists_of_bind h
  obtain ⟨t₅, hlocal, hparity⟩ := exists_of_bind h
  have h₁ : (t₁ .cCflag).getLsbD 8 = (t .cCflag).getLsbD 8 := by
    have hkeeps : ∀ (call : BaudCall) oname,
        KeepsBit .cCflag 8 (putSpeed R opts errpref call oname) :=
      fun call oname => keeps_putSpeed fun _ => by decide
    exact ((hkeeps _ _).seq <| (hkeeps _ _).seq (hkeeps _ _)) t t₁ hspeed
  have h₃ := keeps_others (w := .cCflag) (i := 8) (by decide) t₂ t₃ hinput
  have h₄ := keeps_parenb_outputSettings t₃ t₄ houtput
  have h₅ := keeps_others (w := .cCflag) (i := 8) (by decide) t₄ t₅ hlocal
  have hparenb : (t₅ .cCflag).getLsbD 8 = true ↔ ParenbOn R opts t := by
    rw [h₅, h₄, h₃, parenb_controlSettings hcontrol]
    exact parenbOn_congr h₁
  rw [parenb_paritySettings hparity, ParityOn]
  simp only [hparenb]

/-! ### The parity check of the input -/

/-- The flag is on before, or an option that is given stands for it. -/
def Covered (strips : Bool) (opts : Opt) (port : TermFlags) (oname : Str) (mask : BitVec 32) :
    Prop :=
  port .cIflag &&& mask ≠ 0 ∨ oname ∈ opts ∨ strips = true ∧ "parity".toList ∈ opts

/-- The parity check of the input is not switched on, or changes nothing but flags of
options that are given. -/
def CheckOk (strips : Bool) (R : Readers) (opts : Opt) (port : TermFlags) : Prop :=
  ParityOn R opts port →
    Covered strips opts port "inpck" INPCK ∧ Covered strips opts port "istrip" ISTRIP

theorem checkParity_of_off (h : ¬ (t .cCflag).getLsbD 8 = true) : checkParity t = t :=
  if_neg (mt and_parenb_ne_zero_iff.mp h)

theorem checkParity_of_on (h : (t .cCflag).getLsbD 8 = true) :
    checkParity t = setBits .cIflag (INPCK ||| ISTRIP) t :=
  if_pos (and_parenb_ne_zero_iff.mpr h)

/-- One of the two flags of the check. -/
theorem named_check_iff {oname : Str} {b : ℕ}
    (hb : (oname = "inpck" ∧ b = 4) ∨ (oname = "istrip" ∧ b = 5)) :
    Named strips opts .cIflag b ↔ oname ∈ opts ∨ strips = true ∧ "parity".toList ∈ opts := by
  constructor
  · rintro ⟨p, hp, ho, hbit⟩
    have honly : ∀ p ∈ named strips .cIflag, p.2.getLsbD b = true →
        p.1 = oname ∨ strips = true ∧ p.1 = "parity" := by
      rcases hb with ⟨rfl, rfl⟩ | ⟨rfl, rfl⟩ <;> cases strips <;> decide +kernel
    rcases honly p hp hbit with h | ⟨hs, h⟩
    · exact .inl (h ▸ ho)
    · exact .inr ⟨hs, h ▸ ho⟩
  · rintro (ho | ⟨rfl, ho⟩)
    · rcases hb with ⟨rfl, rfl⟩ | ⟨rfl, rfl⟩
      · exact ⟨("inpck".toList, INPCK), by simp [named], ho, rfl⟩
      · exact ⟨("istrip".toList, ISTRIP), by simp [named], ho, rfl⟩
    · refine ⟨("parity".toList, INPCK ||| ISTRIP), by simp [named], ho, ?_⟩
      rcases hb with ⟨-, rfl⟩ | ⟨-, rfl⟩ <;> rfl

theorem check_bits (h : ¬ Outside .cIflag (INPCK ||| ISTRIP) w i) : w = .cIflag ∧ (i = 4 ∨ i = 5) := by
  rw [Outside, not_forall] at h
  obtain ⟨rfl, h⟩ := h
  rw [Bool.not_eq_false] at h
  have honly : ∀ i < 32, (INPCK ||| ISTRIP).getLsbD i = true → i = 4 ∨ i = 5 := by decide
  exact ⟨rfl, honly i (BitVec.lt_of_getLsbD h) h⟩

theorem covered_inpck_iff {port : TermFlags} : Covered strips opts port "inpck" INPCK ↔
    (port .cIflag).getLsbD 4 = true ∨ Named strips opts .cIflag 4 := by
  rw [Covered, named_check_iff (.inl ⟨rfl, rfl⟩), show INPCK = BitVec.twoPow 32 4 from rfl,
    and_twoPow_ne_zero_iff]

theorem covered_istrip_iff {port : TermFlags} : Covered strips opts port "istrip" ISTRIP ↔
    (port .cIflag).getLsbD 5 = true ∨ Named strips opts .cIflag 5 := by
  rw [Covered, named_check_iff (.inr ⟨rfl, rfl⟩), show ISTRIP = BitVec.twoPow 32 5 from rfl,
    and_twoPow_ne_zero_iff]

theorem checkOk_iff {port : TermFlags} : CheckOk strips R opts port ↔ (ParityOn R opts port →
    ∀ b, b = 4 ∨ b = 5 → (port .cIflag).getLsbD b = true ∨ Named strips opts .cIflag b) := by
  simp only [CheckOk, covered_inpck_iff, covered_istrip_iff, forall_eq_or_imp, forall_eq]

/-! ### The constructor -/

section Constructor
variable {B : BaudCalls} {calls : SerialCalls} {port flags : TermFlags}

/-- What happens to the flags on the way to `tcsetattr`. -/
theorem exists_of_serialTermios (h : serialTermios R opts errpref B calls port = .ok flags) :
    ∃ t, lineSettings R opts errpref B port = .ok t ∧
      combinedSettings R opts (checkParity t) = .ok flags := by
  obtain ⟨_, -, h⟩ := exists_of_bind h
  obtain ⟨_, -, h⟩ := exists_of_bind h
  obtain ⟨t, hline, h⟩ := exists_of_bind h
  obtain ⟨t', hcombined, h⟩ := exists_of_bind h
  obtain ⟨_, -, h⟩ := exists_of_bind h
  obtain ⟨_, -, h⟩ := exists_of_bind h
  obtain ⟨_, -, h⟩ := exists_of_bind h
  cases h
  exact ⟨t, hline, hcombined⟩

/-- The combinations behind the parity check leave its flags alone. -/
theorem keeps_check_combinedSettings {b : ℕ} (hb : b = 4 ∨ b = 5) :
    KeepsBit .cIflag b (combinedSettings R opts) := by
  refine (keeps_setRaw fun _ => outside_of_ne (by decide)).seq (keeps_others ?_)
  rcases hb with rfl | rfl <;> decide

theorem serialTermios_keeps_iff (h : serialTermios R opts errpref B calls port = .ok flags) :
    (∀ w i, ¬ Named strips opts w i → (flags w).getLsbD i = (port w).getLsbD i) ↔
      CheckOk strips R opts port := by
  obtain ⟨t, hline, hcombined⟩ := exists_of_serialTermios h
  rw [checkOk_iff]
  constructor
  · intro hkeeps hon b hb
    have hset : (flags .cIflag).getLsbD b = true := by
      rw [keeps_check_combinedSettings hb _ _ hcombined,
        checkParity_of_on ((parenb_lineSettings hline).mpr hon)]
      exact getLsbD_setBits_of_mem (by rcases hb with rfl | rfl <;> rfl)
    by_cases hn : Named strips opts .cIflag b
    · exact .inr hn
    · exact .inl (by rw [← hkeeps _ _ hn, hset])
  · intro hok w i hn
    have hu : Untouched opts w i := .of_not_named hn
    rw [hu.keeps_combinedSettings _ _ hcombined]
    by_cases hon : (t .cCflag).getLsbD 8 = true
    · rw [checkParity_of_on hon]
      by_cases hout : Outside .cIflag (INPCK ||| ISTRIP) w i
      · rw [getLsbD_setBits_of_outside hout, hu.keeps_lineSettings _ _ hline]
      · -- a flag of the check that no option names was on before
        obtain ⟨rfl, hi⟩ := check_bits hout
        have hport := (hok ((parenb_lineSettings hline).mp hon) i hi).resolve_right hn
        rw [hport]
        exact getLsbD_setBits_of_mem (by rcases hi with rfl | rfl <;> rfl)
    · rw [checkParity_of_off hon, hu.keeps_lineSettings _ _ hline]

variable {H : Type} [DecidableEq H] {files : Supply H} {s : Finset H} {d : SerialFile H}

/-- A constructor that returns has passed flags to `tcsetattr`. -/
theorem serialTermios_ok_of_open (h : (run (openSerial files R calls opts) s).1 = .ok d) :
    ∃ flags, serialTermios R opts d.errpref B calls port = .ok flags := by
  obtain ⟨errpref, fd, -, hsetup⟩ := exists_of_open_file h
  obtain ⟨hsettings, -, rfl⟩ := serialSetup_cases hsetup
  exact (erases_serialTermios B calls port).exists_ok hsettings

/-- **Flags that no option names**: they come out as they went in, for every port and
all options that the constructor takes, exactly if the parity check of the input is not
switched on or changes no others. -/
theorem flags_named_iff (h : (run (openSerial files R calls opts) s).1 = .ok d) (B : BaudCalls)
    (port : TermFlags) (strips : Bool) :
    ∃ flags, serialTermios R opts d.errpref B calls port = .ok flags ∧
      ((∀ w i, ¬ Named strips opts w i → (flags w).getLsbD i = (port w).getLsbD i) ↔
        CheckOk strips R opts port) := by
  obtain ⟨flags, hflags⟩ := serialTermios_ok_of_open h
  exact ⟨flags, hflags, serialTermios_keeps_iff hflags⟩

end Constructor

/-- The constants `B0` to `B4000000`, in the order of the rates. -/
def baudMask (b : ℤ) : BitVec 32 :=
  let n := baudRates.idxOf b
  BitVec.ofNat 32 (if n < 16 then n else 0o10000 + (n - 15)) &&& CBAUD

theorem outside_cbaud (h : (speedBits w).getLsbD i = false) : Outside .cCflag CBAUD w i := by
  rintro rfl
  rw [speedBits, BitVec.getLsbD_or, Bool.or_eq_false_iff] at h
  exact h.1

theorem outside_ibaud0 (h : (speedBits w).getLsbD i = false) : Outside .cIflag IBAUD0 w i := by
  rintro rfl
  exact h

theorem outside_baudMask {b : ℤ} (h : Outside .cCflag CBAUD w i) :
    Outside .cCflag (baudMask b) w i := by
  intro e
  rw [baudMask, BitVec.getLsbD_and, h e, Bool.and_false]

/-- The rate in the word `cCflag`. -/
def linuxOspeed : BaudCall where
  set b t := t |> clearBits .cCflag CBAUD |> setBits .cCflag (baudMask b)
  set_eq b t w i h := by
    rw [getLsbD_setBits_of_outside (outside_baudMask (outside_cbaud h)),
      getLsbD_clearBits_of_outside (outside_cbaud h)]

/-- The rate 0 has a flag of its own. -/
def linuxIspeed : BaudCall where
  set b t :=
    if b = 0 then setBits .cIflag IBAUD0 t
    else linuxOspeed.set b (clearBits .cIflag IBAUD0 t)
  set_eq b t w i h := by
    split_ifs
    · exact getLsbD_setBits_of_outside (outside_ibaud0 h)
    · rw [linuxOspeed.set_eq b _ w i h, getLsbD_clearBits_of_outside (outside_ibaud0 h)]

def linuxSpeed : BaudCall where
  set b t := t |> linuxIspeed.set b |> linuxOspeed.set b
  set_eq b t w i h := (linuxOspeed.set_eq b _ w i h).trans (linuxIspeed.set_eq b t w i h)

/-- The calls of the system library. -/
def linuxBaud : BaudCalls := ⟨linuxSpeed, linuxIspeed, linuxOspeed⟩

/-- No call has an error. -/
def quietCalls : SerialCalls := ⟨none, none, none, none⟩

/-- A device with seven bits and even parity. -/
def evenOpts : Opt :=
  (∅ : Opt).insert "dev" "/dev/ttyS0" |>.insert "speed" "9600" |>.insert "parity" "7E1"

/-- A port with eight bits. -/
def plainPort : TermFlags := fun w => if w = .cCflag then CREAD ||| CS8 else 0

theorem flags_named_even : ∃ d : SerialFile Nat,
    (run (openSerial lowest decimalReaders quietCalls evenOpts) ∅).1 = .ok d ∧
    ∃ flags, serialTermios decimalReaders evenOpts d.errpref linuxBaud quietCalls plainPort =
      .ok flags ∧
      ((∀ w i, ¬ Named true evenOpts w i → (flags w).getLsbD i = (plainPort w).getLsbD i) ↔
        CheckOk true decimalReaders evenOpts plainPort) := by
  have hopen : (run (openSerial lowest decimalReaders quietCalls evenOpts) ∅).1.isOk := by
    decide +kernel
  rcases h : (run (openSerial lowest decimalReaders quietCalls evenOpts) ∅).1 with e | d
  · rw [h] at hopen
    cases hopen
  · exact ⟨d, rfl, flags_named_iff h linuxBaud plainPort true⟩

/-- No option of the port. -/
def devOnly : Opt := (∅ : Opt).insert "dev" "/dev/ttyS0"

/-- A port with even parity, the parity of what comes in not checked. -/
def evenPort : TermFlags := fun w => if w = .cCflag then CREAD ||| PARENB ||| CS7 else 0

/-- The constructor takes the options and changes two flags. -/
theorem parity_check_not_named :
    ((run (openSerial lowest decimalReaders quietCalls devOnly) ∅).1.map fun d => d.errpref) =
      .ok "serial: /dev/ttyS0: " ∧
    ∃ flags, serialTermios decimalReaders devOnly "serial: /dev/ttyS0: " linuxBaud quietCalls
        evenPort = .ok flags ∧
      flags .cIflag = INPCK ||| ISTRIP ∧ evenPort .cIflag = 0 ∧
      ∀ strips, ¬ ∀ w i, ¬ Named strips devOnly w i →
        (flags w).getLsbD i = (evenPort w).getLsbD i := by
  refine ⟨by decide +kernel, ?_⟩
  have hrun : ((serialTermios decimalReaders devOnly "serial: /dev/ttyS0: " linuxBaud quietCalls
      evenPort).map fun t => t .cIflag) = .ok (INPCK ||| ISTRIP) := by
    decide +kernel
  rcases h : serialTermios decimalReaders devOnly "serial: /dev/ttyS0: " linuxBaud quietCalls
      evenPort with e | flags
  · rw [h] at hrun
    cases hrun
  · rw [h] at hrun
    have hflags : flags .cIflag = INPCK ||| ISTRIP := Except.ok.inj hrun
    refine ⟨flags, rfl, hflags, by decide, fun strips hkeeps => ?_⟩
    have hnot : ¬ Named strips devOnly .cIflag 4 := by
      unfold Named
      cases strips <;> decide +kernel
    have heq := hkeeps .cIflag 4 hnot
    rw [hflags] at heq
    exact absurd heq (by decide)

end Device2
