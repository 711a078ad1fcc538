/-
Device2/Termios.lean

The flag words of `termios` in the constructor of `Driver_serial`
(`server/drv_serial.cpp`).

In `Device2.DriverOpen` the constructor is the sequence of its checks.  Here it is the
same sequence with the four flag words that it gets from `tcgetattr`, changes, and
passes to `tcsetattr` (`serialTermios`); `map_serialTermios` says that it throws the same
errors.  The constants are those of Linux.  What `cfsetspeed` and its relatives do is
left open except for the bits they may change (`BaudCall`), and the control characters
(`c_cc`) are left out, as there are no flags in them.
-/
import Device2.DriverOpen
import Device2.Lib.FlagWords

namespace Device2

open FlagWords

/-! ### Constants of `<termios.h>` -/

namespace Termios

-- c_iflag
def IGNBRK : BitVec 32 := 0o1
def BRKINT : BitVec 32 := 0o2
def IGNPAR : BitVec 32 := 0o4
def PARMRK : BitVec 32 := 0o10
def INPCK : BitVec 32 := 0o20
def ISTRIP : BitVec 32 := 0o40
def INLCR : BitVec 32 := 0o100
def IGNCR : BitVec 32 := 0o200
def ICRNL : BitVec 32 := 0o400
def IUCLC : BitVec 32 := 0o1000
def IXON : BitVec 32 := 0o2000
def IXANY : BitVec 32 := 0o4000
def IXOFF : BitVec 32 := 0o10000
def IMAXBEL : BitVec 32 := 0o20000
def IUTF8 : BitVec 32 := 0o40000
def IBAUD0 : BitVec 32 := 0o20000000000

-- c_oflag
def OPOST : BitVec 32 := 0o1
def OLCUC : BitVec 32 := 0o2
def ONLCR : BitVec 32 := 0o4
def OCRNL : BitVec 32 := 0o10
def ONOCR : BitVec 32 := 0o20
def ONLRET : BitVec 32 := 0o40
def OFILL : BitVec 32 := 0o100
def OFDEL : BitVec 32 := 0o200
def NLDLY : BitVec 32 := 0o400
def NL0 : BitVec 32 := 0o0
def NL1 : BitVec 32 := 0o400
def CRDLY : BitVec 32 := 0o3000
def CR0 : BitVec 32 := 0o0
def CR1 : BitVec 32 := 0o1000
def CR2 : BitVec 32 := 0o2000
def CR3 : BitVec 32 := 0o3000
def TABDLY : BitVec 32 := 0o14000
def TAB0 : BitVec 32 := 0o0
def TAB1 : BitVec 32 := 0o4000
def TAB2 : BitVec 32 := 0o10000
def TAB3 : BitVec 32 := 0o14000
def BSDLY : BitVec 32 := 0o20000
def BS0 : BitVec 32 := 0o0
def BS1 : BitVec 32 := 0o20000
def VTDLY : BitVec 32 := 0o40000
def VT0 : BitVec 32 := 0o0
def VT1 : BitVec 32 := 0o40000
def FFDLY : BitVec 32 := 0o100000
def FF0 : BitVec 32 := 0o0
def FF1 : BitVec 32 := 0o100000

-- c_cflag
def CBAUD : BitVec 32 := 0o10017
def CSIZE : BitVec 32 := 0o60
def CS5 : BitVec 32 := 0o0
def CS6 : BitVec 32 := 0o20
def CS7 : BitVec 32 := 0o40
def CS8 : BitVec 32 := 0o60
def CSTOPB : BitVec 32 := 0o100
def CREAD : BitVec 32 := 0o200
def PARENB : BitVec 32 := 0o400
def PARODD : BitVec 32 := 0o1000
def HUPCL : BitVec 32 := 0o2000
def CLOCAL : BitVec 32 := 0o4000
def CIBAUD : BitVec 32 := 0o2003600000
def CMSPAR : BitVec 32 := 0o10000000000
def CRTSCTS : BitVec 32 := 0o20000000000

-- c_lflag
def ISIG : BitVec 32 := 0o1
def ICANON : BitVec 32 := 0o2
def XCASE : BitVec 32 := 0o4
def ECHO : BitVec 32 := 0o10
def ECHOE : BitVec 32 := 0o20
def ECHOK : BitVec 32 := 0o40
def ECHONL : BitVec 32 := 0o100
def NOFLSH : BitVec 32 := 0o200
def TOSTOP : BitVec 32 := 0o400
def ECHOCTL : BitVec 32 := 0o1000
def ECHOPRT : BitVec 32 := 0o2000
def ECHOKE : BitVec 32 := 0o4000
def FLUSHO : BitVec 32 := 0o10000
def IEXTEN : BitVec 32 := 0o100000
def EXTPROC : BitVec 32 := 0o200000

end Termios

open Termios

/-- The flag words of `struct termios`. -/
inductive FlagWord
  | cIflag
  | cOflag
  | cCflag
  | cLflag
deriving DecidableEq, Repr

/-- The flags of `struct termios`. -/
abbrev TermFlags := Words FlagWord 32

/-! ### Single settings -/

/-- The bits of the baud rates. -/
def speedBits : FlagWord → BitVec 32
  | .cCflag => CBAUD ||| CIBAUD
  | .cIflag => IBAUD0
  | _ => 0

/-- One of `cfsetspeed`, `cfsetispeed` and `cfsetospeed`, by the rate. -/
structure BaudCall where
  set : ℤ → TermFlags → TermFlags
  /-- Only the bits of the baud rates are changed. -/
  set_eq : ∀ b t w i, (speedBits w).getLsbD i = false → (set b t w).getLsbD i = (t w).getLsbD i

structure BaudCalls where
  cfsetspeed : BaudCall
  cfsetispeed : BaudCall
  cfsetospeed : BaudCall

/-- The arguments of `set_opt`. -/
structure FlagOpt where
  oname : Str
  word : FlagWord
  mask : BitVec 32

/-- An option with a number that stands for the value of a field. -/
structure FieldOpt extends IntChoice where
  word : FlagWord
  field : BitVec 32
  styles : List (BitVec 32)
  styles_le : styles.all (· ||| field = field) := by decide

section Settings
variable (R : Readers) (opts : Opt)

/-- `set_opt`. -/
def setFlag (f : FlagOpt) (t : TermFlags) : Except Err TermFlags :=
  if f.oname ∈ opts then do
    let b ← optGet R.strToBool opts f.oname true
    .ok (if b then setBits f.word f.mask t else clearBits f.word f.mask t)
  else .ok t

def setFlags : List FlagOpt → TermFlags → Except Err TermFlags
  | [], t => .ok t
  | f :: fs, t => do
    let t ← setFlag R opts f t
    setFlags fs t

variable (errpref : Str)

def putSpeed (call : BaudCall) (oname : Str) (t : TermFlags) : Except Err TermFlags :=
  if oname ∈ opts then do
    let b ← optGet R.strToInt opts oname (-1)
    if b ∈ baudRates then .ok (call.set b t)
    else throwText (errpref ++ "unknown baud setting: ".toList ++ optStr opts "baud" [])
  else .ok t

def setField (c : FieldOpt) (t : TermFlags) : Except Err TermFlags :=
  if c.oname ∈ opts then do
    let v ← optGet R.strToInt opts c.oname c.dflt
    if c.lo ≤ v ∧ v ≤ c.hi then
      .ok (setBits c.word (c.styles.getD (v - c.lo).toNat 0) (clearBits c.word c.field t))
    else throwText (errpref ++ c.text ++ optStr opts c.oname [])
  else .ok t

/-! ### The constructor -/

def csField : FieldOpt :=
  { csChoice with word := .cCflag, field := CSIZE, styles := [CS5, CS6, CS7, CS8] }

def bsField : FieldOpt := { bsChoice with word := .cOflag, field := BSDLY, styles := [BS0, BS1] }

def crField : FieldOpt :=
  { crChoice with word := .cOflag, field := CRDLY, styles := [CR0, CR1, CR2, CR3] }

def ffField : FieldOpt := { ffChoice with word := .cOflag, field := FFDLY, styles := [FF0, FF1] }

def nlField : FieldOpt := { nlChoice with word := .cOflag, field := NLDLY, styles := [NL0, NL1] }

def tabField : FieldOpt :=
  { tabChoice with word := .cOflag, field := TABDLY, styles := [TAB0, TAB1, TAB2, TAB3] }

def vtField : FieldOpt := { vtChoice with word := .cOflag, field := VTDLY, styles := [VT0, VT1] }

/-- The flags in front of `cs` and behind it. -/
def modemOpts : List FlagOpt :=
  [⟨"clocal", .cCflag, CLOCAL⟩, ⟨"cread", .cCflag, CREAD⟩, ⟨"crtscts", .cCflag, CRTSCTS⟩]

def stopOpts : List FlagOpt := [⟨"cstopb", .cCflag, CSTOPB⟩, ⟨"hup", .cCflag, HUPCL⟩]

def parenbOpt : FlagOpt := ⟨"parenb", .cCflag, PARENB⟩

def paroddOpts : List FlagOpt := [⟨"parodd", .cCflag, PARODD⟩, ⟨"cmspar", .cCflag, CMSPAR⟩]

def inputOpts : List FlagOpt :=
  [⟨"icrnl", .cIflag, ICRNL⟩, ⟨"inlcr", .cIflag, INLCR⟩, ⟨"igncr", .cIflag, IGNCR⟩,
    ⟨"iuclc", .cIflag, IUCLC⟩, ⟨"iutf8", .cIflag, IUTF8⟩, ⟨"brkint", .cIflag, BRKINT⟩,
    ⟨"ignbrk", .cIflag, IGNBRK⟩, ⟨"imaxbel", .cIflag, IMAXBEL⟩, ⟨"inpck", .cIflag, INPCK⟩,
    ⟨"ignpar", .cIflag, IGNPAR⟩, ⟨"istrip", .cIflag, ISTRIP⟩, ⟨"parmrk", .cIflag, PARMRK⟩,
    ⟨"ixany", .cIflag, IXANY⟩, ⟨"ixoff", .cIflag, IXOFF⟩, ⟨"ixon", .cIflag, IXON⟩]

def outputOpts : List FlagOpt :=
  [⟨"ocrnl", .cOflag, OCRNL⟩, ⟨"onlcr", .cOflag, ONLCR⟩, ⟨"onlret", .cOflag, ONLRET⟩,
    ⟨"onocr", .cOflag, ONOCR⟩, ⟨"ofdel", .cOflag, OFDEL⟩, ⟨"ofill", .cOflag, OFILL⟩,
    ⟨"olcuc", .cOflag, OLCUC⟩, ⟨"opost", .cOflag, OPOST⟩]

def localOpts : List FlagOpt :=
  [⟨"echo", .cLflag, ECHO⟩, ⟨"echoctl", .cLflag, ECHOCTL⟩, ⟨"echoe", .cLflag, ECHOE⟩,
    ⟨"echok", .cLflag, ECHOK⟩, ⟨"echoke", .cLflag, ECHOKE⟩, ⟨"echonl", .cLflag, ECHONL⟩,
    ⟨"echoprt", .cLflag, ECHOPRT⟩, ⟨"extproc", .cLflag, EXTPROC⟩, ⟨"flusho", .cLflag, FLUSHO⟩,
    ⟨"icanon", .cLflag, ICANON⟩, ⟨"iexten", .cLflag, IEXTEN⟩, ⟨"isig", .cLflag, ISIG⟩,
    ⟨"noflsh", .cLflag, NOFLSH⟩, ⟨"tostop", .cLflag, TOSTOP⟩, ⟨"xcase", .cLflag, XCASE⟩]

/-- Software flow control, conversion of newlines, and of the case. -/
def combinedOpts : List FlagOpt :=
  [⟨"sfc", .cIflag, IXON ||| IXOFF ||| IXANY⟩, ⟨"nlcnv", .cIflag, ICRNL⟩,
    ⟨"nlcnv", .cOflag, ONLCR⟩, ⟨"lcase", .cIflag, IUCLC⟩, ⟨"lcase", .cOflag, OLCUC⟩]

/-- Baud rate. -/
def speedSettings (B : BaudCalls) (t : TermFlags) : Except Err TermFlags := do
  let t ← putSpeed R opts errpref B.cfsetspeed "speed" t
  let t ← putSpeed R opts errpref B.cfsetispeed "ispeed" t
  putSpeed R opts errpref B.cfsetospeed "ospeed" t

/-- Control settings. -/
def controlSettings (t : TermFlags) : Except Err TermFlags := do
  let t ← setFlags R opts modemOpts t
  let t ← setField R opts errpref csField t
  let t ← setFlags R opts stopOpts t
  let t ← setFlag R opts parenbOpt t
  setFlags R opts paroddOpts t

/-- Output settings. -/
def outputSettings (t : TermFlags) : Except Err TermFlags := do
  let t ← setField R opts errpref bsField t
  let t ← setField R opts errpref crField t
  let t ← setField R opts errpref ffField t
  let t ← setField R opts errpref nlField t
  let t ← setField R opts errpref tabField t
  let t ← setField R opts errpref vtField t
  setFlags R opts outputOpts t

/-- A value of `-parity`. -/
def putParity (par : Str) (t : TermFlags) : Except Err TermFlags :=
  if par = "8N1" ∨ par = "7S1" then
    .ok (t |> clearBits .cCflag PARENB |> clearBits .cCflag CSTOPB |> clearBits .cCflag CSIZE
      |> setBits .cCflag CS8)
  else if par = "7E1" then
    .ok (t |> setBits .cCflag PARENB |> clearBits .cCflag PARODD |> clearBits .cCflag CSTOPB
      |> clearBits .cCflag CSIZE |> setBits .cCflag CS7)
  else if par = "7O1" then
    .ok (t |> setBits .cCflag PARENB |> setBits .cCflag PARODD |> clearBits .cCflag CSTOPB
      |> clearBits .cCflag CSIZE |> setBits .cCflag CS7)
  else if par = "" then .ok t
  else throwText (errpref ++ "unknown parity setting (expected 8N1, 7E1, 7O1, or 7S1): ".toList
    ++ par)

/-- Set parity. -/
def paritySettings (t : TermFlags) : Except Err TermFlags :=
  if "parity".toList ∈ opts then putParity errpref (optStr opts "parity" "8N1") t else .ok t

/-- Enable parity checking and stripping of the parity bit: with or without options. -/
def checkParity (t : TermFlags) : TermFlags :=
  if t .cCflag &&& PARENB ≠ 0 then setBits .cIflag (INPCK ||| ISTRIP) t else t

/-- Canonical or raw input. -/
def setRaw (t : TermFlags) : Except Err TermFlags :=
  if "raw".toList ∈ opts then do
    let b ← optGet R.strToBool opts "raw" true
    .ok (if b then clearBits .cLflag (ICANON ||| ECHO ||| ECHOE ||| ISIG) t
      else setBits .cLflag (ICANON ||| ECHO ||| ECHOE) t)
  else .ok t

/-- The combinations behind the parity. -/
def combinedSettings (t : TermFlags) : Except Err TermFlags := do
  let t ← setRaw R opts t
  setFlags R opts combinedOpts t

/-- The settings up to the parity. -/
def lineSettings (B : BaudCalls) (t : TermFlags) : Except Err TermFlags := do
  let t ← speedSettings R opts errpref B t
  let t ← controlSettings R opts errpref t
  let t ← setFlags R opts inputOpts t
  let t ← outputSettings R opts errpref t
  let t ← setFlags R opts localOpts t
  paritySettings opts errpref t

/-- The constructor from the open device to `tcsetattr`: from the flags of the port to
the flags that are passed to `tcsetattr`. -/
def serialTermios (B : BaudCalls) (calls : SerialCalls) (port : TermFlags) :
    Except Err TermFlags := do
  setNdelay R opts errpref calls.fcntl
  checkCall calls.tcgetattr (errpref ++ "can't get serial port parameters: ".toList)
  let t ← lineSettings R opts errpref B port
  let t ← combinedSettings R opts (checkParity t)
  setTimeout R opts errpref
  setVmin R opts errpref
  checkCall calls.tcsetattr (errpref ++ "can't set serial port parameters: ".toList)
  .ok t

end Settings

/-! ### The same checks -/

section Erasure
variable {R : Readers} {opts : Opt} {errpref : Str} {t : TermFlags} {α β : Type}

/-- Without its value a computation is the check `y`. -/
def Erases (x : Except Err α) (y : Except Err Unit) : Prop := x.map (fun _ => ()) = y

theorem erases_check (y : Except Err Unit) : Erases y y := by
  rcases y with e | _ <;> rfl

theorem Erases.bind {x : Except Err α} {y z : Except Err Unit} {f : α → Except Err β}
    (hx : Erases x y) (hf : ∀ a, Erases (f a) z) : Erases (x >>= f) (y >>= fun _ => z) := by
  rcases x with e | a
  · subst hx
    rfl
  · subst hx
    exact hf a

/-- A value that is read and looked at only here. -/
theorem Erases.bind_same {x : Except Err α} {f : α → Except Err β} {g : α → Except Err Unit}
    (hf : ∀ a, Erases (f a) (g a)) : Erases (x >>= f) (x >>= g) := by
  rcases x with e | a
  · rfl
  · exact hf a

theorem Erases.ite {p : Prop} [Decidable p] {x x' : Except Err α} {y y' : Except Err Unit}
    (h : Erases x y) (h' : Erases x' y') :
    Erases (if p then x else x') (if p then y else y') := by
  split_ifs
  · exact h
  · exact h'

theorem Erases.exists_ok {x : Except Err α} {y : Except Err Unit} (h : Erases x y)
    (hy : y = .ok ()) : ∃ a, x = .ok a := by
  rcases x with e | a
  · subst hy
    cases h
  · exact ⟨a, rfl⟩

theorem erases_setFlag (f : FlagOpt) : Erases (setFlag R opts f t) (setOpt R opts f.oname) :=
  .ite (.bind_same fun _ => rfl) rfl

theorem erases_setFlags (fs : List FlagOpt) :
    Erases (setFlags R opts fs t) (setOpts R opts (fs.map FlagOpt.oname)) := by
  induction fs generalizing t with
  | nil => rfl
  | cons f fs ih => exact (erases_setFlag f).bind fun _ => ih

theorem erases_putSpeed (call : BaudCall) (oname : Str) :
    Erases (putSpeed R opts errpref call oname t) (setSpeed R opts errpref oname) :=
  .ite (.bind_same fun _ => .ite rfl rfl) rfl

theorem erases_setField (c : FieldOpt) :
    Erases (setField R opts errpref c t) (setChoice R opts errpref c.toIntChoice) :=
  .ite (.bind_same fun _ => .ite rfl rfl) rfl

theorem mem_parities_iff {par : Str} :
    par ∈ parities ↔ (par = "8N1" ∨ par = "7S1") ∨ par = "7E1" ∨ par = "7O1" ∨ par = "" := by
  simp only [parities, List.mem_cons, List.not_mem_nil, or_false, or_assoc]

theorem erases_putParity (par : Str) :
    Erases (putParity errpref par t) (if par ∈ parities then .ok () else throwText
      (errpref ++ "unknown parity setting (expected 8N1, 7E1, 7O1, or 7S1): ".toList ++ par)) := by
  rw [putParity]
  by_cases hpar : par ∈ parities
  · rw [if_pos hpar]
    rw [mem_parities_iff] at hpar
    split_ifs with h8n1 h7e1 h7o1 hnone
    · rfl
    · rfl
    · rfl
    · rfl
    · exact absurd hpar (by simp only [h8n1, h7e1, h7o1, hnone, or_false, not_false_eq_true])
  · rw [if_neg hpar]
    simp only [mem_parities_iff, not_or] at hpar
    obtain ⟨h8n1, h7e1, h7o1, hnone⟩ := hpar
    rw [if_neg (not_or.mpr h8n1), if_neg h7e1, if_neg h7o1, if_neg hnone]
    rfl

theorem erases_paritySettings : Erases (paritySettings opts errpref t) (setParity opts errpref) :=
  .ite (erases_putParity _) rfl

theorem erases_setRaw : Erases (setRaw R opts t) (setOpt R opts "raw") :=
  .ite (.bind_same fun _ => rfl) rfl

theorem setOpts_append (onames onames' : List Str) :
    setOpts R opts (onames ++ onames') =
      (setOpts R opts onames >>= fun _ => setOpts R opts onames') := by
  induction onames with
  | nil => rfl
  | cons oname onames ih =>
    rw [List.cons_append, setOpts, setOpts, ih]
    exact (bind_assoc _ _ _).symm

/-- An option that is looked at twice is checked once. -/
theorem setOpt_twice (oname : Str) (x : Except Err Unit) :
    (setOpt R opts oname >>= fun _ => setOpt R opts oname >>= fun _ => x) =
      (setOpt R opts oname >>= fun _ => x) := by
  rcases setOpt R opts oname with e | _ <;> rfl

theorem erases_combinedSettings :
    Erases (combinedSettings R opts t) (setOpts R opts combinedFlags) := by
  have h : setOpts R opts combinedFlags =
      (setOpt R opts "raw" >>= fun _ => setOpts R opts (combinedOpts.map FlagOpt.oname)) := by
    show (_ >>= fun _ => setOpt R opts "sfc" >>= fun _ => setOpt R opts "nlcnv" >>= fun _ =>
      setOpt R opts "lcase" >>= fun _ => _) = (_ >>= fun _ => setOpt R opts "sfc" >>= fun _ =>
      setOpt R opts "nlcnv" >>= fun _ => setOpt R opts "nlcnv" >>= fun _ =>
      setOpt R opts "lcase" >>= fun _ => setOpt R opts "lcase" >>= fun _ => _)
    simp only [setOpt_twice]
    rfl
  rw [h]
  exact erases_setRaw.bind fun _ => erases_setFlags combinedOpts

theorem inputFlags_eq : inputFlags =
    stopOpts.map FlagOpt.oname ++ parenbOpt.oname :: (paroddOpts.map FlagOpt.oname ++
      inputOpts.map FlagOpt.oname) := rfl

theorem outputFlags_eq : outputFlags =
    outputOpts.map FlagOpt.oname ++ localOpts.map FlagOpt.oname := rfl

/-- **The flags do not change what is checked**: with them the constructor throws what
it throws without. -/
theorem erases_serialTermios (B : BaudCalls) (calls : SerialCalls) (port : TermFlags) :
    Erases (serialTermios R opts errpref B calls port) (serialSettings R opts errpref calls) := by
  rw [serialSettings, inputFlags_eq, outputFlags_eq]
  simp only [serialTermios, lineSettings, speedSettings, controlSettings, outputSettings,
    setOpts_append, setOpts, bind_assoc]
  refine (erases_check _).bind fun _ => (erases_check _).bind fun _ => ?_
  refine (erases_putSpeed _ _).bind fun _ => (erases_putSpeed _ _).bind fun _ =>
    (erases_putSpeed _ _).bind fun _ => ?_
  refine (erases_setFlags _).bind fun _ => (erases_setField _).bind fun _ =>
    (erases_setFlags _).bind fun _ => (erases_setFlag _).bind fun _ =>
    (erases_setFlags _).bind fun _ => ?_
  refine (erases_setFlags _).bind fun _ => ?_
  refine (erases_setField _).bind fun _ => (erases_setField _).bind fun _ =>
    (erases_setField _).bind fun _ => (erases_setField _).bind fun _ =>
    (erases_setField _).bind fun _ => (erases_setField _).bind fun _ =>
    (erases_setFlags _).bind fun _ => ?_
  refine (erases_setFlags _).bind fun _ => erases_paritySettings.bind fun _ =>
    erases_combinedSettings.bind fun _ => ?_
  refine (erases_check _).bind fun _ => (erases_check _).bind fun _ => ?_
  rcases calls.tcsetattr with - | text <;> rfl

end Erasure

end Device2
