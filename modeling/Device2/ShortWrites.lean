/-
Device2/ShortWrites.lean

The writing functions of `Driver_serial`, `Driver_net` and `Driver_usbtmc` against a
system that may take only a part of what it is offered (`server/drv_serial.cpp`,
`server/drv_net.cpp`, `server/drv_usbtmc.cpp`).

Each of the three makes one call of `write` or `send`, throws if this call fails, and
does not look at the number of bytes it has taken.  In `Device2.Drivers` a `Port` takes
all or nothing; here the system answers with a number (`SysWrite`), and `SysState`
keeps what it has taken.  Where it takes all or nothing both are the same
(`write_port`).

`sends_all_iff` says when a call that returns has sent its message, `run_accepted` what
arrives over many calls.
-/
import Device2.AskContract

namespace Device2

/-! ### The system -/

/-- The outcome of a `write` or `send` that is offered the text `m`: an error, or the
number of bytes taken. -/
inductive SysWrite (m : Str)
  | fail (text : Str)
  | accept (n : Nat) (le : n ≤ m.length) (pos : m ≠ [] → 0 < n)

/-- The call takes all it is offered, or fails. -/
def SysWrite.Whole {m : Str} : SysWrite m → Prop
  | fail _ => True
  | accept n _ _ => n = m.length

/-- The error, if there is one. -/
def SysWrite.error {m : Str} : SysWrite m → Option Str
  | fail text => some text
  | accept _ _ _ => none

/-- The outcomes of the calls, by their numbers. -/
abbrev SysWrites := Nat → (m : Str) → SysWrite m

/-- How many calls there have been, and the bytes taken by them. -/
structure SysState where
  calls : Nat := 0
  accepted : Str := []

/-- One call. -/
def sysWrite (sys : SysWrites) (m : Str) (s : SysState) : Except Str Nat × SysState :=
  match sys s.calls m with
  | .fail text => (.error text, { s with calls := s.calls + 1 })
  | .accept n _ _ => (.ok n, { calls := s.calls + 1, accepted := s.accepted ++ m.take n })

/-! ### The drivers -/

/-- `write` of the three drivers, with the error of each. -/
def MsgDriver.writeWith (d : MsgDriver) (what : Str) (sys : SysWrites) (msg : Str) (s : SysState) :
    Except Err Unit × SysState :=
  match sysWrite sys (d.withSuffix msg) s with
  | (.error text, s) => (.error (d.error what text), s)
  -- the number of bytes is not looked at
  | (.ok _, s) => (.ok (), s)

/-- `Driver_serial::write`. -/
def DriverSerial.writeSys (d : DriverSerial) := d.writeWith "write error: "

/-- `Driver_net::write`. -/
def DriverNet.writeSys (d : DriverNet) := d.writeWith "write error: "

/-- `Driver_usbtmc::write`. -/
def DriverUsbtmc.writeSys (d : DriverUsbtmc) := d.writeWith "read error: "

/-- The drivers that call the system themselves. -/
inductive SysDriver
  | serial (d : DriverSerial)
  | net (d : DriverNet)
  | usbtmc (d : DriverUsbtmc)

namespace SysDriver

def write : SysDriver → SysWrites → Str → SysState → Except Err Unit × SysState
  | serial d => d.writeSys
  | net d => d.writeSys
  | usbtmc d => d.writeSys

/-- The call of `Device2.Drivers`. -/
def writePort (port : Port) (msg : Str) : SysDriver → PortCall Unit
  | serial d => d.write port msg
  | net d => d.write port msg
  | usbtmc d => d.write port msg

/-- What is put behind a message. -/
def add : SysDriver → Str
  | serial d => d.add
  | net d => d.add
  | usbtmc d => d.add

variable (D : SysDriver) (sys : SysWrites) (msg : Str) (s : SysState)

/-! ### One call -/

/-- What a call can do: fail with nothing sent, or return with the beginning of the
message sent that the system has taken. -/
theorem write_cases :
    (∃ e text, sys s.calls (msg ++ D.add) = .fail text ∧
      D.write sys msg s = (.error e, { s with calls := s.calls + 1 })) ∨
    (∃ n le pos, sys s.calls (msg ++ D.add) = .accept n le pos ∧
      D.write sys msg s =
        (.ok (), ⟨s.calls + 1, s.accepted ++ (msg ++ D.add).take n⟩)) := by
  have hwith : ∀ (d : MsgDriver) (what : Str),
      (∃ e text, sys s.calls (msg ++ d.add) = .fail text ∧
        d.writeWith what sys msg s = (.error e, { s with calls := s.calls + 1 })) ∨
      (∃ n le pos, sys s.calls (msg ++ d.add) = .accept n le pos ∧
        d.writeWith what sys msg s =
          (.ok (), ⟨s.calls + 1, s.accepted ++ (msg ++ d.add).take n⟩)) := by
    intro d what
    rw [MsgDriver.writeWith, withSuffix_eq, sysWrite]
    rcases sys s.calls (msg ++ d.add) with text | ⟨n, le, pos⟩
    · exact .inl ⟨_, text, rfl, rfl⟩
    · exact .inr ⟨n, le, pos, rfl, rfl⟩
  cases D with
  | serial d => exact hwith d.toMsgDriver _
  | net d => exact hwith d.toMsgDriver _
  | usbtmc d => exact hwith d.toMsgDriver _

/-- The port of `Device2.Drivers` where the same calls fail. -/
def portOf (sys : SysWrites) (s : SysState) : Port where
  sendError := fun m => (sys s.calls m).error
  recv := []

/-- A text of which a number of bytes has been taken is complete with its length. -/
theorem take_eq_self_iff_of_le {m : Str} {n : Nat} (h : n ≤ m.length) : m.take n = m ↔ n = m.length := by
  rw [List.take_eq_self_iff]
  omega

/-- **The call at a port.**  A call of the system that fails or takes the whole message
is that of `Device2.Drivers`: the result is the same, and what the port is handed is
what has been taken if there is no error. -/
theorem write_port (hwhole : (sys s.calls (msg ++ D.add)).Whole) :
    (D.writePort (portOf sys s) msg).io = [.write (msg ++ D.add)] ∧
    (D.writePort (portOf sys s) msg).ret = (D.write sys msg s).1 ∧
    ((D.write sys msg s).1 = .ok () →
      (D.write sys msg s).2.accepted = s.accepted ++ (msg ++ D.add)) := by
  have hwith : ∀ (d : MsgDriver) (what : Str),
      (PortCall.send (portOf sys s) (d.withSuffix msg) (d.error what)).io = [.write (msg ++ d.add)] ∧
      (PortCall.send (portOf sys s) (d.withSuffix msg) (d.error what)).ret =
        (d.writeWith what sys msg s).1 := by
    intro d what
    have hport : (portOf sys s).sendError (msg ++ d.add) = (sys s.calls (msg ++ d.add)).error := rfl
    rw [MsgDriver.writeWith, withSuffix_eq, sysWrite, PortCall.send, hport]
    rcases sys s.calls (msg ++ d.add) with text | ⟨n, le, pos⟩
    · exact ⟨rfl, rfl⟩
    · exact ⟨rfl, rfl⟩
  have hboth : (D.writePort (portOf sys s) msg).io = [.write (msg ++ D.add)] ∧
      (D.writePort (portOf sys s) msg).ret = (D.write sys msg s).1 := by
    cases D with
    | serial d => exact hwith d.toMsgDriver _
    | net d => exact hwith d.toMsgDriver _
    | usbtmc d => exact hwith d.toMsgDriver _
  refine ⟨hboth.1, hboth.2, fun hok => ?_⟩
  rcases D.write_cases sys msg s with ⟨e, text, -, hwrite⟩ | ⟨n, le, pos, hsys, hwrite⟩
  · rw [hwrite] at hok
    cases hok
  · rw [hsys] at hwhole
    have hn : (msg ++ D.add).take n = msg ++ D.add := (take_eq_self_iff_of_le le).mpr hwhole
    rw [hwrite]
    show s.accepted ++ (msg ++ D.add).take n = _
    rw [hn]

/-- **When a message is sent completely or an error is reported**: the one call of the
system fails or takes it as a whole. -/
theorem sends_all_iff :
    ((D.write sys msg s).1 = .ok () → (D.write sys msg s).2.accepted = s.accepted ++ (msg ++ D.add)) ↔
      (sys s.calls (msg ++ D.add)).Whole := by
  rcases D.write_cases sys msg s with ⟨e, text, hsys, hwrite⟩ | ⟨n, le, pos, hsys, hwrite⟩
  · rw [hwrite, hsys]
    exact iff_of_true (fun h => by cases h) trivial
  · rw [hwrite, hsys]
    show (_ → s.accepted ++ (msg ++ D.add).take n = _) ↔ n = _
    rw [List.append_cancel_left_eq, take_eq_self_iff_of_le le]
    exact ⟨fun h => h rfl, fun h _ => h⟩

/-! ### Many calls -/

/-- The messages one after the other: the results, and the system afterwards. -/
def run (D : SysDriver) (sys : SysWrites) : List Str → SysState → List (Except Err Unit) × SysState
  | [], s => ([], s)
  | msg :: msgs, s =>
    let r := D.write sys msg s
    let rs := run D sys msgs r.2
    (r.1 :: rs.1, rs.2)

/-- The messages that have not been refused. -/
def delivered (D : SysDriver) : List Str → List (Except Err Unit) → Str
  | msg :: msgs, .ok () :: rs => (msg ++ D.add) ++ D.delivered msgs rs
  | _ :: msgs, .error _ :: rs => D.delivered msgs rs
  | _, _ => []

/-- **What arrives over a run**: if every call fails or takes its text as a whole, the
messages that were not refused, in their order. -/
theorem run_accepted (hwhole : ∀ k m, (sys k m).Whole) (msgs : List Str) (s : SysState) :
    (D.run sys msgs s).2.accepted = s.accepted ++ D.delivered msgs (D.run sys msgs s).1 := by
  induction msgs generalizing s with
  | nil => exact (List.append_nil _).symm
  | cons msg msgs ih =>
    obtain ⟨-, -, hall⟩ := D.write_port sys msg s (hwhole _ _)
    rw [run, ih]
    rcases D.write_cases sys msg s with ⟨e, text, hsys, hwrite⟩ | ⟨n, le, pos, hsys, hwrite⟩
    · rw [hwrite]
      rfl
    · rw [hall (by rw [hwrite]), hwrite, List.append_assoc]
      rfl

end SysDriver

/-- A serial port that takes four bytes at a time. -/
def fourBytes : SysWrites := fun _ m =>
  .accept (min 4 m.length) (Nat.min_le_right _ _) fun h => by
    have := List.length_pos_iff.mpr h
    omega

/-- A command without its end, and the next one behind it. -/
theorem short_write_returns :
    ((SysDriver.serial ⟨⟨"serial: ", [], [nl], [nl], .qmark1w⟩, [], []⟩).write fourBytes "volt 1" {}).1 =
      .ok () ∧
    ((SysDriver.serial ⟨⟨"serial: ", [], [nl], [nl], .qmark1w⟩, [], []⟩).write fourBytes "volt 1" {}).2.accepted ≠
      "volt 1".toList ++ [nl] := by
  constructor
  · rfl
  · decide

end Device2
