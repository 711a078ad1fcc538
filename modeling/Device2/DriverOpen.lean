/-
Device2/DriverOpen.lean

The constructors of `Driver_serial`, `Driver_usbtmc`, `Driver_net` and `Driver_gpib`,
as programs that open descriptors (`Device2.Lib.Resources`).

What the system and the libraries answer is given call by call (`SerialCalls`,
`UsbtmcCalls`, `NetCalls`, `GpibCalls`): the text of an error, or none.  A descriptor,
or a handle of the GPIB library, is any that is not in use.

The part of a constructor before its first open descriptor and the part behind are
computations that open nothing (`serialBefore`, `serialSetup`), so where the
descriptor is opened can be read off the constructors themselves.  Left out are the
words of `termios` and the other arguments of the calls that no check looks at.
-/
import Device2.Options
import Device2.Drivers
import Device2.Lib.Resources

namespace Device2

open Resources

variable {H : Type} [DecidableEq H]

/-! ### Checks -/

/-- `throw Err() << text`. -/
def throwText {α : Type} (text : Str) : Except Err α := .error { str := text }

/-- A call of the system that may have failed. -/
def checkCall (call : Option Str) (what : Str) : Except Err Unit :=
  match call with
  | some text => throwText (what ++ text)
  | none => .ok ()

/-- The prefix of the errors, and the mandatory parameter `-dev`. -/
def checkDev (opts : Opt) (dflt missing : Str) : Except Err Str :=
  let errpref := optStr opts "errpref" dflt
  let dev := optStr opts "dev" []
  if dev = [] then throwText (errpref ++ missing) else .ok (errpref ++ dev ++ ": ".toList)

/-! ### `Driver_serial` -/

/-- The calls of `Driver_serial::Driver_serial`. -/
structure SerialCalls where
  openFile : Option Str
  fcntl : Option Str
  tcgetattr : Option Str
  tcsetattr : Option Str

/-- An open serial device. -/
structure SerialFile (H : Type) extends DriverSerial where
  fd : H
  delay : ℚ
  flushOnErr : Bool

/-- The options of `Driver_serial`. -/
def serialKnown : List Str :=
  ["errpref", "idn", "dev", "ndelay",
    "speed", "ispeed", "ospeed",
    "clocal", "cread", "crtscts", "cs", "cstopb", "hup", "parenb", "parodd", "cmspar",
    "icrnl", "inlcr", "igncr", "iuclc", "iutf8", "brkint", "ignbrk", "imaxbel",
    "inpck", "ignpar", "istrip", "parmrk", "ixany", "ixoff", "ixon",
    "bs", "cr", "ff", "nl", "tab", "vt", "ocrnl", "onlcr", "onlret", "onocr",
    "ofdel", "ofill", "olcuc", "opost",
    "echo", "echoctl", "echoe", "echok", "echoke", "echonl", "echoprt", "extproc",
    "flusho", "icanon", "iexten", "isig", "noflsh", "tostop", "xcase",
    "parity", "raw", "sfc", "nlcnv", "lcase", "timeout", "vmin", "delay",
    "add_str", "trim_str", "ack_str", "nack_str", "read_cond", "flush_on_err"]

/-- The rates `baud_to_mask` knows. -/
def baudRates : List ℤ :=
  [0, 50, 75, 110, 134, 150, 200, 300, 600, 1200, 1800, 2400, 4800, 9600, 19200, 38400,
    57600, 115200, 230400, 460800, 500000, 576000, 921600, 1000000, 1152000, 1500000,
    2000000, 2500000, 3000000, 3500000, 4000000]

section Settings
variable (R : Readers) (opts : Opt)

/-- `set_opt`: if the option exists, its value is a truth value. -/
def setOpt (oname : Str) : Except Err Unit :=
  if oname ∈ opts then do
    let _ ← optGet R.strToBool opts oname true
  else .ok ()

def setOpts : List Str → Except Err Unit
  | [] => .ok ()
  | oname :: onames => do
    setOpt R opts oname
    setOpts onames

variable (errpref : Str)

/-- A baud rate; the error looks for the value under another name. -/
def setSpeed (oname : Str) : Except Err Unit :=
  if oname ∈ opts then do
    let b ← optGet R.strToInt opts oname (-1)
    if b ∈ baudRates then .ok ()
    else throwText (errpref ++ "unknown baud setting: ".toList ++ optStr opts "baud" [])
  else .ok ()

/-- An option with a number from a range. -/
structure IntChoice where
  oname : Str
  lo : ℤ
  hi : ℤ
  dflt : ℤ
  text : Str

def csChoice : IntChoice := ⟨"cs", 5, 8, 0, "character size should be in [5..8]: "⟩

def bsChoice : IntChoice := ⟨"bs", 0, 1, -1, "backspace delay style should be in [0..1]: "⟩

def crChoice : IntChoice := ⟨"cr", 0, 3, -1, "carriage return delay style should be in [0..3]: "⟩

def ffChoice : IntChoice := ⟨"ff", 0, 1, -1, "form feed style should be in [0..1]: "⟩

def nlChoice : IntChoice := ⟨"nl", 0, 1, -1, "newline delay style should be in [0..1]: "⟩

def tabChoice : IntChoice := ⟨"tab", 0, 3, -1, "tab delay style should be in [0..3]: "⟩

def vtChoice : IntChoice := ⟨"vt", 0, 1, -1, "vertical tab delay style should be in [0..1]: "⟩

def setChoice (c : IntChoice) : Except Err Unit :=
  if c.oname ∈ opts then do
    let v ← optGet R.strToInt opts c.oname c.dflt
    if c.lo ≤ v ∧ v ≤ c.hi then .ok () else throwText (errpref ++ c.text ++ optStr opts c.oname [])
  else .ok ()

def parities : List Str := ["8N1", "7S1", "7E1", "7O1", ""]

def setParity : Except Err Unit :=
  if "parity".toList ∈ opts then
    let par := optStr opts "parity" "8N1"
    if par ∈ parities then .ok ()
    else throwText (errpref ++ "unknown parity setting (expected 8N1, 7E1, 7O1, or 7S1): ".toList
      ++ par)
  else .ok ()

def setTimeout : Except Err Unit :=
  if "timeout".toList ∈ opts then do
    let timeout ← optGet R.strToDouble opts "timeout" 5
    if timeout < 0 ∨ 51 / 2 < timeout then throwText (errpref ++ "timeout 0..25.5 s expected".toList)
  else .ok ()

def setVmin : Except Err Unit :=
  if "vmin".toList ∈ opts then do
    let v ← optGet R.strToInt opts "vmin" 0
    if v < 0 ∨ 255 < v then throwText (errpref ++ "vmin should be in [0..255]".toList)
  else .ok ()

/-- Non-blocking mode. -/
def setNdelay (fcntl : Option Str) : Except Err Unit :=
  if "ndelay".toList ∈ opts then do
    let _ ← optGet R.strToBool opts "ndelay" true
    checkCall fcntl (errpref ++ "can't do fcntl: ".toList)
  else .ok ()

/-- Flags in the order of the constructor: control, control and input, output and
local, and the combinations at the end. -/
def controlFlags : List Str := ["clocal", "cread", "crtscts"]

def inputFlags : List Str :=
  ["cstopb", "hup", "parenb", "parodd", "cmspar",
    "icrnl", "inlcr", "igncr", "iuclc", "iutf8", "brkint", "ignbrk", "imaxbel",
    "inpck", "ignpar", "istrip", "parmrk", "ixany", "ixoff", "ixon"]

def outputFlags : List Str :=
  ["ocrnl", "onlcr", "onlret", "onocr", "ofdel", "ofill", "olcuc", "opost",
    "echo", "echoctl", "echoe", "echok", "echoke", "echonl", "echoprt", "extproc",
    "flusho", "icanon", "iexten", "isig", "noflsh", "tostop", "xcase"]

def combinedFlags : List Str := ["raw", "sfc", "nlcnv", "lcase"]

/-- The constructor from the open device to `tcsetattr`. -/
def serialSettings (calls : SerialCalls) : Except Err Unit := do
  setNdelay R opts errpref calls.fcntl
  checkCall calls.tcgetattr (errpref ++ "can't get serial port parameters: ".toList)
  setSpeed R opts errpref "speed"
  setSpeed R opts errpref "ispeed"
  setSpeed R opts errpref "ospeed"
  setOpts R opts controlFlags
  setChoice R opts errpref csChoice
  setOpts R opts inputFlags
  setChoice R opts errpref bsChoice
  setChoice R opts errpref crChoice
  setChoice R opts errpref ffChoice
  setChoice R opts errpref nlChoice
  setChoice R opts errpref tabChoice
  setChoice R opts errpref vtChoice
  setOpts R opts outputFlags
  setParity opts errpref
  setOpts R opts combinedFlags
  setTimeout R opts errpref
  setVmin R opts errpref
  checkCall calls.tcsetattr (errpref ++ "can't set serial port parameters: ".toList)

/-- The constructor behind the open device. -/
def serialSetup (calls : SerialCalls) (fd : H) : Except Err (SerialFile H) := do
  serialSettings R opts errpref calls
  let delay ← optGet R.strToDouble opts "delay" (1 / 10)
  let readCond ← strToReadCond (optStr opts "read_cond" "always")
  let flushOnErr ← optGet R.strToBool opts "flush_on_err" true
  return {
    errpref, idn := optStr opts "idn" [], add := optStr opts "add_str" [],
    trim := optStr opts "trim_str" [], readCond, ack := optStr opts "ack_str" [],
    nack := optStr opts "nack_str" [], fd, delay, flushOnErr }

end Settings

def serialBefore (opts : Opt) : Except Err Str := do
  checkUnknown opts serialKnown
  checkDev opts "serial: " "Parameter -dev is empty or missing"

/-- `Driver_serial::Driver_serial`. -/
def openSerial (files : Supply H) (R : Readers) (calls : SerialCalls) (opts : Opt) :
    Prog H Err (SerialFile H) := do
  let errpref ← check (serialBefore opts)
  let fd ← acquire files
    (calls.openFile.map fun text => { str := errpref ++ "can't open device: ".toList ++ text })
  check (serialSetup R opts errpref calls fd)

/-! ### `Driver_usbtmc` -/

/-- The calls of `Driver_usbtmc::Driver_usbtmc`. -/
structure UsbtmcCalls where
  openFile : Option Str
  clear : Option Str
  setTimeout : Option Str
  /-- The feature is there. -/
  autoAbort : Bool

/-- An open usbtmc device. -/
structure UsbtmcFile (H : Type) extends DriverUsbtmc where
  fd : H
  delay : ℚ
  autoAbort : Bool

def usbtmcKnown : List Str :=
  ["dev", "timeout", "errpref", "idn", "read_cond", "add_str", "trim_str", "delay"]

def usbtmcBefore (opts : Opt) : Except Err Str := do
  checkUnknown opts usbtmcKnown
  checkDev opts "usbtmc: " "parameter -dev is empty or missing"

/-- The constructor behind the open device. -/
def usbtmcSetup (R : Readers) (opts : Opt) (errpref : Str) (calls : UsbtmcCalls) (fd : H) :
    Except Err (UsbtmcFile H) := do
  checkCall calls.clear (errpref ++ "can't clear device state: ".toList)
  let _ ← optGet R.strToDouble opts "timeout" 5
  checkCall calls.setTimeout (errpref ++ "can't set timeout: ".toList)
  let delay ← optGet R.strToDouble opts "delay" (1 / 100)
  let readCond ← strToReadCond (optStr opts "read_cond" "qmark1w")
  return {
    errpref, idn := optStr opts "idn" [], add := optStr opts "add_str" [nl],
    trim := optStr opts "trim_str" [nl], readCond, fd, delay, autoAbort := calls.autoAbort }

/-- `Driver_usbtmc::Driver_usbtmc`. -/
def openUsbtmc (files : Supply H) (R : Readers) (calls : UsbtmcCalls) (opts : Opt) :
    Prog H Err (UsbtmcFile H) := do
  let errpref ← check (usbtmcBefore opts)
  let fd ← acquire files
    (calls.openFile.map fun text => { str := errpref ++ "can't open device: ".toList ++ text })
  check (usbtmcSetup R opts errpref calls fd)

/-! ### `Driver_net` -/

/-- An address, with the outcomes of `socket` and `connect` for it. -/
structure Address where
  socket : Option Str
  connect : Option Str

/-- The calls of `Driver_net::Driver_net`; `garbage` is the text for the number `e`
that has not been set when there is no address. -/
structure NetCalls where
  getaddrinfo : Except Str (List Address)
  garbage : Str

/-- An open connection. -/
structure NetSocket (H : Type) extends DriverNet where
  sockfd : H
  bufsize : Nat
  timeout : ℚ
  delay : ℚ

def netKnown : List Str :=
  ["addr", "port", "timeout", "bufsize", "delay", "open_delay", "errpref", "idn", "read_cond",
    "add_str", "trim_str"]

/-- Conversion of an `int` to `size_t`. -/
def toSize (n : ℤ) : Nat := (n % 2 ^ 64).toNat

/-- The prefix of the errors, with the mandatory parameter `-addr`. -/
def checkAddr (opts : Opt) : Except Err Str :=
  let errpref := optStr opts "errpref" "Driver_net: "
  let addr := optStr opts "addr" []
  if addr = [] then throwText (errpref ++ "Parameter -addr is empty or missing".toList)
  else .ok (errpref ++ addr ++ ":".toList ++ optStr opts "port" "5025" ++ ": ".toList)

def netBefore (R : Readers) (calls : NetCalls) (opts : Opt) : Except Err (Str × List Address) := do
  checkUnknown opts netKnown
  let errpref ← checkAddr opts
  let servinfo ← calls.getaddrinfo.mapError fun text =>
    { str := errpref ++ "getaddrinfo: ".toList ++ text : Err }
  -- a positive delay is slept
  let _ ← optGet R.strToDouble opts "open_delay" 0
  return (errpref, servinfo)

/-- Connect to the first address we can; `e` is the error of the address before.  A
socket that can not be connected is forgotten. -/
def connectFirst (files : Supply H) (errpref : Str) : List Address → Str → Prog H Err H
  | [], e => throw { str := errpref ++ "can't connect: ".toList ++ e }
  | p :: servinfo, _ =>
    match p.socket with
    | some e => connectFirst files errpref servinfo e
    | none => do
      let sockfd ← acquire files none
      match p.connect with
      | some e => connectFirst files errpref servinfo e
      | none => return sockfd

/-- The constructor behind the loop. -/
def netSetup (R : Readers) (opts : Opt) (errpref : Str) (sockfd : H) :
    Except Err (NetSocket H) := do
  let bufsize ← optGet R.strToInt opts "bufsize" 4096
  let timeout ← optGet R.strToDouble opts "timeout" 5
  let delay ← optGet R.strToDouble opts "delay" 0
  let readCond ← strToReadCond (optStr opts "read_cond" "qmark1w")
  return {
    errpref, idn := optStr opts "idn" [], add := optStr opts "add_str" [nl],
    trim := optStr opts "trim_str" [nl], readCond, sockfd, bufsize := toSize bufsize, timeout,
    delay }

/-- `Driver_net::Driver_net`. -/
def openNet (files : Supply H) (R : Readers) (calls : NetCalls) (opts : Opt) :
    Prog H Err (NetSocket H) := do
  let (errpref, servinfo) ← check (netBefore R calls opts)
  let sockfd ← connectFirst files errpref servinfo calls.garbage
  check (netSetup R opts errpref sockfd)

/-! ### `Driver_gpib` -/

/-- The calls of `Driver_gpib::Driver_gpib`: the text of the error in `iberr`, if
`ibsta` has the bit `ERR`. -/
structure GpibCalls where
  ibdev : Option Str
  ibclr : Option Str
  ibtmo : Option Str
  ibeot : Option Str
  ibeos : Option Str
  ibsad : Option Str

/-- An open GPIB device. -/
structure GpibHandle (H : Type) extends DriverGpib where
  dh : H
  bufsize : Nat
  delay : ℚ

def gpibKnown : List Str :=
  ["addr", "board", "timeout", "open_timeout", "eot", "eos", "eos_mode", "secondary", "bufsize",
    "errpref", "idn", "read_cond", "add_str", "trim_str", "delay"]

/-- The timeouts of the library. -/
def gpibTimeouts : List Str :=
  ["none", "10us", "30us", "100us", "300us", "1ms", "3ms", "10ms", "30ms", "100ms", "300ms",
    "1s", "3s", "10s", "30s", "100s", "300s", "1000s"]

/-- `Driver_gpib::get_timeout`. -/
def getTimeout (errpref s : Str) : Except Err Unit :=
  if s ∈ gpibTimeouts then .ok () else throwText (errpref ++ "bad gpib timeout: ".toList ++ s)

/-- `type_to_str` of an integer. -/
def intToStr (n : ℤ) : Str := if n < 0 then '-' :: typeToStr n.natAbs else typeToStr n.natAbs

def gpibBefore (R : Readers) (opts : Opt) : Except Err Str := do
  checkUnknown opts gpibKnown
  let errpref := optStr opts "errpref" "gpib: "
  let addr ← optGet R.strToInt opts "addr" (-1)
  if addr < 0 then throwText (errpref ++ "Parameter -addr is empty or missing".toList)
  let board ← optGet R.strToInt opts "board" 0
  let errpref := errpref ++ "dev:".toList ++ intToStr board ++ ".".toList ++ intToStr addr
    ++ ": ".toList
  getTimeout errpref (optStr opts "open_timeout" "10s")
  getTimeout errpref (optStr opts "timeout" "3s")
  let _ ← optGet R.strToBool opts "eot" false
  let _ ← optGet R.strToInt opts "eos" (-1)
  let _ ← optGet R.strToBool opts "secondary" false
  return errpref

section Behind
variable (R : Readers) (opts : Opt) (errpref : Str) (calls : GpibCalls)

/-- Set EOT. -/
def setEot : Except Err Unit :=
  if "eot".toList ∈ opts then do
    let _ ← optGet R.strToBool opts "eot" false
    checkCall calls.ibeot (errpref ++ "setting EOT: ".toList)
  else .ok ()

/-- Set EOS. -/
def setEos : Except Err Unit :=
  if "eos".toList ∈ opts then do
    let _ ← optGet R.strToInt opts "eos" 0
    let mode := optStr opts "eos_mode" []
    if mode.all (· ∈ ['B', 'X', 'R']) then checkCall calls.ibeos (errpref ++ "setting EOS: ".toList)
    else throwText (errpref
      ++ "unknown -eos_mode value (only B X R characters are allowed): ".toList ++ mode)
  else .ok ()

/-- Set secondary GPIB address. -/
def setSecondary : Except Err Unit :=
  if "secondary".toList ∈ opts then do
    let _ ← optGet R.strToInt opts "secondary" 0
    checkCall calls.ibsad (errpref ++ "setting secondary addess: ".toList)
  else .ok ()

/-- The body of the `try` block. -/
def gpibSetup (dh : H) : Except Err (GpibHandle H) := do
  checkCall calls.ibclr (errpref ++ "device clear: ".toList)
  checkCall calls.ibtmo (errpref ++ "setting timeout: ".toList)
  setEot R opts errpref calls
  setEos R opts errpref calls
  setSecondary R opts errpref calls
  let bufsize ← optGet R.strToInt opts "bufsize" 4096
  let delay ← optGet R.strToDouble opts "delay" 0
  let readCond ← strToReadCond (optStr opts "read_cond" "qmark1w")
  return {
    errpref, idn := optStr opts "idn" [], add := optStr opts "add_str" [nl],
    trim := optStr opts "trim_str" [nl], readCond, dh, bufsize := toSize bufsize, delay }

end Behind

/-- `Driver_gpib::Driver_gpib`: what is thrown behind `ibdev` is caught, and the
handle closed. -/
def openGpib (devs : Supply H) (R : Readers) (calls : GpibCalls) (opts : Opt) :
    Prog H Err (GpibHandle H) := do
  let errpref ← check (gpibBefore R opts)
  guarded devs
    (calls.ibdev.map fun text => { str := errpref ++ "opening the device: ".toList ++ text })
    (gpibSetup R opts errpref calls)

end Device2
