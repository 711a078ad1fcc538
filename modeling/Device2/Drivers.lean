/-
Device2/Drivers.lean

The drivers that pass messages on as they are: `Driver_spp`, `Driver_serial`,
`Driver_net`, `Driver_usbtmc`, `Driver_gpib` and `Driver_vxi` (`server/drv_*.cpp`),
with the helpers of `server/drv_utils.cpp`.

The device is a `Port`: which messages can not be sent, and what comes when the
driver reads.  A call leaves a result and what it has done to the port (`PortCall`):
the texts handed to the writing function of the system, and the readings of a
reply, one for each call of `read`.

Five of the drivers share their members and most of their code (`MsgDriver`).  The
delays, the sizes of the buffers and the clearing of a device after an error are
not there: nothing that is read or written depends on them.
-/
import Device2.SppPairing

namespace Device2

/-! ### `drv_utils` -/

/-- `trim_str`: the string without `trim` at its end, and whether it was there. -/
def trimStr (str trim : Str) : Str × Bool :=
  if 0 < trim.length ∧ trim.length ≤ str.length ∧ str.drop (str.length - trim.length) = trim then
    (str.take (str.length - trim.length), true)
  else (str, false)

/-- `read_cond_t`: when do we need to read an answer. -/
inductive ReadCond
  | always
  | never
  /-- If there is a question mark in the message. -/
  | qmark
  /-- If there is a question mark in the first word. -/
  | qmark1w
  deriving DecidableEq

/-- `str_to_read_cond`. -/
def strToReadCond (str : Str) : Except Err ReadCond :=
  if str = "always".toList then .ok .always
  else if str = "never".toList then .ok .never
  else if str = "qmark".toList then .ok .qmark
  else if str = "qmark1w".toList then .ok .qmark1w
  else .error { str := "unknown -read_cond value: ".toList ++ str }

/-- `check_read_cond`. -/
def checkReadCond (msg : Str) : ReadCond → Bool
  | .always => true
  | .never => false
  | .qmark => (find msg '?' 0).isSome
  | .qmark1w =>
    -- `npos` is above every position, and not below itself
    match find msg '?' 0, find msg ' ' 0 with
    | none, _ => false
    | some _, none => true
    | some p, some q => p < q

/-! ### Calls -/

/-- The result of one reading function of the system: some bytes, or an error.  With
the bytes comes what a status byte that is asked for then says: that more is there or
not, or an error. -/
inductive Recv
  | data (s : Str) (more : Except Str Bool)
  | fail (text : Str) (again : Bool)
  deriving DecidableEq

/-- The device during one call: the error of a message that can not be sent, and
what the readings give one after the other. -/
structure Port where
  sendError : Str → Option Str
  recv : List Recv

/-- Something done to the port. -/
inductive PortIo
  | write (m : Str)
  | read
  deriving DecidableEq

/-- What a call gives, and what it has done to the port. -/
structure PortCall (α : Type) where
  ret : Except Err α
  io : List PortIo

namespace PortCall

variable {α β : Type}

def bind (c : PortCall α) (f : α → PortCall β) : PortCall β :=
  match c.ret with
  | .error e => ⟨.error e, c.io⟩
  | .ok a => ⟨(f a).ret, c.io ++ (f a).io⟩

/-- Hand `m` over to the port. -/
def send (port : Port) (m : Str) (error : Str → Err) : PortCall Unit :=
  match port.sendError m with
  | some text => ⟨.error (error text), [.write m]⟩
  | none => ⟨.ok (), [.write m]⟩

end PortCall

/-! ### The drivers -/

/-- The members the drivers have in common. -/
structure MsgDriver where
  /-- Prefix for error messages. -/
  errpref : Str
  idn : Str
  add : Str
  trim : Str
  readCond : ReadCond

/-- An error with the prefix of the driver. -/
def MsgDriver.error (d : MsgDriver) (what text : Str) : Err := { str := d.errpref ++ what ++ text }

/-- The message with the suffix. -/
def MsgDriver.withSuffix (d : MsgDriver) (msg : Str) : Str :=
  if 0 < d.add.length then msg ++ d.add else msg

/-- `ask`, for the driver's own `write` and `read`. -/
def MsgDriver.askWith (d : MsgDriver) (write : Str → PortCall Unit) (read : PortCall Str) (msg : Str) :
    PortCall Str :=
  if d.idn ≠ [] ∧ sameNoCase msg "*idn?" then ⟨.ok d.idn, []⟩
  else (write msg).bind fun _ => if ¬ checkReadCond msg d.readCond then ⟨.ok [], []⟩ else read

/-- Class `Driver_serial`. -/
structure DriverSerial extends MsgDriver where
  ack : Str
  nack : Str

namespace DriverSerial

/-- The loop of `Driver_serial::read`: the text, and whether it ended with `nack`. -/
def readLoop (d : DriverSerial) : List Recv → Str → Except Err (Str × Bool)
  | [], _ | .data [] _ :: _, _ => .error (d.error "read timeout" [])
  -- non-blocking read, no data
  | .fail _ true :: _, ret => .ok (ret, false)
  | .fail text false :: _, _ => .error (d.error "read error: " text)
  | .data s _ :: rs, ret =>
    let ret := ret ++ s
    if d.ack.length = 0 then .ok (ret, false)
    else if (trimStr ret d.ack).2 then .ok ((trimStr ret d.ack).1, false)
    else if (trimStr ret d.nack).2 then .ok ((trimStr ret d.nack).1, true)
    else d.readLoop rs ret

/-- `Driver_serial::read`. -/
def read (d : DriverSerial) (port : Port) : PortCall Str :=
  ⟨(d.readLoop port.recv []).bind fun r =>
    if r.2 then .error { str := "nack from the device: ".toList ++ (trimStr r.1 d.trim).1 }
    else .ok (trimStr r.1 d.trim).1, [.read]⟩

/-- `Driver_serial::write`. -/
def write (d : DriverSerial) (port : Port) (msg : Str) : PortCall Unit :=
  .send port (d.withSuffix msg) (d.error "write error: ")

/-- `Driver_serial::ask`. -/
def ask (d : DriverSerial) (port : Port) (msg : Str) : PortCall Str :=
  d.askWith (d.write port) (d.read port) msg

end DriverSerial

/-- Class `Driver_net`. -/
structure DriverNet extends MsgDriver

namespace DriverNet

/-- `Driver_net::read`. -/
def read (d : DriverNet) (port : Port) : PortCall Str :=
  ⟨match port.recv with
    | [] => .error (d.error "read timeout" [])
    | .fail text _ :: _ => .error (d.error "read error: " text)
    | .data s _ :: _ => .ok (trimStr s d.trim).1, [.read]⟩

/-- `Driver_net::write`. -/
def write (d : DriverNet) (port : Port) (msg : Str) : PortCall Unit :=
  .send port (d.withSuffix msg) (d.error "write error: ")

/-- `Driver_net::ask`. -/
def ask (d : DriverNet) (port : Port) (msg : Str) : PortCall Str :=
  d.askWith (d.write port) (d.read port) msg

end DriverNet

/-- Class `Driver_usbtmc`. -/
structure DriverUsbtmc extends MsgDriver

namespace DriverUsbtmc

/-- The loop of `Driver_usbtmc::read`, which asks for the status byte and goes on while
its bit 4 is set. -/
def readLoop (d : DriverUsbtmc) : List Recv → Str → Except Err Str
  | [], _ => .error (d.error "read error: " "Connection timed out")
  | .fail text _ :: _, _ => .error (d.error "read error: " text)
  | .data _ (.error text) :: _, _ => .error (d.error "can't get status byte: " text)
  | .data s (.ok more) :: rs, ret => if more then d.readLoop rs (ret ++ s) else .ok (ret ++ s)

/-- `Driver_usbtmc::read`. -/
def read (d : DriverUsbtmc) (port : Port) : PortCall Str :=
  ⟨(d.readLoop port.recv []).map fun ret => (trimStr ret d.trim).1, [.read]⟩

/-- `Driver_usbtmc::write`, whose error says `read error`. -/
def write (d : DriverUsbtmc) (port : Port) (msg : Str) : PortCall Unit :=
  .send port (d.withSuffix msg) (d.error "read error: ")

/-- `Driver_usbtmc::ask`. -/
def ask (d : DriverUsbtmc) (port : Port) (msg : Str) : PortCall Str :=
  d.askWith (d.write port) (d.read port) msg

end DriverUsbtmc

/-- Class `Driver_gpib`. -/
structure DriverGpib extends MsgDriver

namespace DriverGpib

/-- `Driver_gpib::read`. -/
def read (d : DriverGpib) (port : Port) : PortCall Str :=
  ⟨match port.recv with
    | [] => .error (d.error "read error: " "I/O operation aborted (timeout)")
    | .fail text _ :: _ => .error (d.error "read error: " text)
    | .data s _ :: _ => .ok (trimStr s d.trim).1, [.read]⟩

/-- `Driver_gpib::write`. -/
def write (d : DriverGpib) (port : Port) (msg : Str) : PortCall Unit :=
  .send port (d.withSuffix msg) (d.error "write error: ")

/-- `Driver_gpib::ask`. -/
def ask (d : DriverGpib) (port : Port) (msg : Str) : PortCall Str :=
  d.askWith (d.write port) (d.read port) msg

end DriverGpib

/-- Class `Driver_vxi`. -/
structure DriverVxi extends MsgDriver

namespace DriverVxi

/-- `Driver_vxi::read`: an error of the library comes without a prefix. -/
def read (d : DriverVxi) (port : Port) : PortCall Str :=
  ⟨match port.recv with
    | [] => .error { str := "RPC: device_read" }
    | .fail text _ :: _ => .error { str := text }
    | .data s _ :: _ => .ok (trimStr s d.trim).1, [.read]⟩

/-- `Driver_vxi::write`: the library takes a C string. -/
def write (d : DriverVxi) (port : Port) (msg : Str) : PortCall Unit :=
  .send port (cStr (d.withSuffix msg)) fun text => { str := text }

/-- `Driver_vxi::ask`. -/
def ask (d : DriverVxi) (port : Port) (msg : Str) : PortCall Str :=
  d.askWith (d.write port) (d.read port) msg

end DriverVxi

namespace DriverSpp

/-- What comes from the program line by line, and what comes after it. -/
def recvLines : List Recv → List Str × GetlineEnd
  | [] => ([], .eof)
  | .fail text _ :: _ => ([], .throws { str := text })
  | .data l _ :: rs => (l :: (recvLines rs).1, (recvLines rs).2)

/-- `Driver_spp::read`, at a port. -/
def readPort (d : DriverSpp) (port : Port) : PortCall Str :=
  ⟨(d.readSpp (recvLines port.recv).2 (recvLines port.recv).1).1, [.read]⟩

/-- `Driver_spp::write`, at a port: the stream's errors are not looked at. -/
def writePort (_ : DriverSpp) (msg : Str) : PortCall Unit := ⟨.ok (), [.write (msg ++ [nl])]⟩

/-- `Driver_spp::ask`, at a port. -/
def askPort (d : DriverSpp) (port : Port) (msg : Str) : PortCall Str :=
  if d.idn ≠ [] ∧ sameNoCase msg "*idn?" = false then ⟨.ok d.idn, []⟩
  else (d.writePort msg).bind fun _ => d.readPort port

/-- The lines that arrive from a pipe before the timeout. -/
def pipePort (lines : List Str) : Port where
  sendError := fun _ => none
  recv := lines.map (Recv.data · (.ok false)) ++ [.fail "Read timeout" false]

theorem recvLines_pipePort (lines : List Str) :
    recvLines (pipePort lines).recv = (lines, readTimeout) := by
  show recvLines (lines.map (Recv.data · (.ok false)) ++ [.fail "Read timeout" false]) = _
  induction lines with
  | nil => rfl
  | cons l lines ih => rw [List.map_cons, List.cons_append, recvLines, ih]

/-- At a pipe with a program behind it `ask` is the `ask` of `Device2.SppPairing`. -/
theorem askPort_pipe {σ : Type} (d : DriverSpp) (P : SppProgram σ) (a : SppAsk) (w : SppPipe σ) :
    (d.askPort (pipePort ((d.write P a.msg w).out.take a.arrived)) a.msg).ret = (d.ask P a w).1 := by
  by_cases h : d.idn ≠ [] ∧ sameNoCase a.msg "*idn?" = false
  · rw [askPort, if_pos h, ask, if_pos h]
  · rw [askPort, if_neg h, ask, if_neg h]
    simp only [PortCall.bind, writePort, readPort, recvLines_pipePort, read]

end DriverSpp

/-! ### All of them -/

/-- A driver with the parameter `-idn`. -/
inductive Driver
  | spp (d : DriverSpp)
  | serial (d : DriverSerial)
  | net (d : DriverNet)
  | usbtmc (d : DriverUsbtmc)
  | gpib (d : DriverGpib)
  | vxi (d : DriverVxi)

namespace Driver

def ask (port : Port) (msg : Str) : Driver → PortCall Str
  | spp d => d.askPort port msg
  | serial d => d.ask port msg
  | net d => d.ask port msg
  | usbtmc d => d.ask port msg
  | gpib d => d.ask port msg
  | vxi d => d.ask port msg

def read (port : Port) : Driver → PortCall Str
  | spp d => d.readPort port
  | serial d => d.read port
  | net d => d.read port
  | usbtmc d => d.read port
  | gpib d => d.read port
  | vxi d => d.read port

def idn : Driver → Str
  | spp d => d.idn
  | serial d => d.idn
  | net d => d.idn
  | usbtmc d => d.idn
  | gpib d => d.idn
  | vxi d => d.idn

/-- What is put behind a message. -/
def suffix : Driver → Str
  | spp _ => [nl]
  | serial d => d.add
  | net d => d.add
  | usbtmc d => d.add
  | gpib d => d.add
  | vxi d => d.add

def readCond : Driver → ReadCond
  | spp _ => .always
  | serial d => d.readCond
  | net d => d.readCond
  | usbtmc d => d.readCond
  | gpib d => d.readCond
  | vxi d => d.readCond

end Driver

end Device2
