/-
Device2/Lib/ModbusRtu.lean

Modbus RTU: the frames, and a slave with 16-bit registers.

A frame is a body followed by its checksum, low byte first (`frame`); the checksum
is a parameter.  Inside a body the words have their high byte first (`hi`, `lo`,
`word`).  `respond` is what a slave does with the bytes it gets: nothing unless they
are a frame for it, and otherwise one of the two functions on single registers.
-/
import Mathlib.Data.UInt
import Mathlib.Logic.Function.Basic
import Mathlib.Tactic.Common

namespace Modbus

abbrev Bytes := List UInt8

/-! ### Words -/

def hi (w : UInt16) : UInt8 := (w >>> 8).toUInt8

def lo (w : UInt16) : UInt8 := (w &&& 0xFF).toUInt8

def word (h l : UInt8) : UInt16 := (h.toUInt16 <<< 8) + l.toUInt16

theorem toNat_hi (w : UInt16) : (hi w).toNat = w.toNat / 256 := by
  have := w.toNat_lt
  simp only [hi, UInt16.toNat_toUInt8, UInt16.toNat_shiftRight]
  simp [Nat.shiftRight_eq_div_pow]
  omega

theorem toNat_lo (w : UInt16) : (lo w).toNat = w.toNat % 256 := by
  have h : w.toNat &&& 255 = w.toNat % 256 := Nat.and_two_pow_sub_one_eq_mod w.toNat 8
  simp only [lo, UInt16.toNat_toUInt8, UInt16.toNat_and]
  simp [h]

theorem toNat_word (h l : UInt8) : (word h l).toNat = h.toNat * 256 + l.toNat := by
  have := h.toNat_lt
  have := l.toNat_lt
  simp only [word, UInt16.toNat_add, UInt16.toNat_shiftLeft, UInt8.toNat_toUInt16]
  simp [Nat.shiftLeft_eq]
  omega

@[simp] theorem word_hi_lo (w : UInt16) : word (hi w) (lo w) = w := by
  apply UInt16.toNat_inj.mp
  rw [toNat_word, toNat_hi, toNat_lo]
  omega

@[simp] theorem hi_word (h l : UInt8) : hi (word h l) = h := by
  have := l.toNat_lt
  apply UInt8.toNat_inj.mp
  rw [toNat_hi, toNat_word]
  omega

@[simp] theorem lo_word (h l : UInt8) : lo (word h l) = l := by
  have := l.toNat_lt
  apply UInt8.toNat_inj.mp
  rw [toNat_lo, toNat_word]
  omega

/-! ### Frames -/

section Frames
variable (crc : Bytes → UInt16)

/-- A body with its checksum. -/
def frame (body : Bytes) : Bytes := body ++ [lo (crc body), hi (crc body)]

/-- The body of a frame, if the checksum is right. -/
def unframe (bs : Bytes) : Option Bytes :=
  if bs = frame crc (bs.take (bs.length - 2)) then some (bs.take (bs.length - 2)) else none

@[simp] theorem unframe_frame (body : Bytes) : unframe crc (frame crc body) = some body := by
  have htake : (frame crc body).take ((frame crc body).length - 2) = body := by
    simp [frame]
  rw [unframe, htake, if_pos rfl]

/-! ### Requests and replies -/

/-- Function 3, read one register. -/
def readRequest (slave : UInt8) (addr : UInt16) : Bytes :=
  frame crc [slave, 3, hi addr, lo addr, 0, 1]

def readReply (slave : UInt8) (value : UInt16) : Bytes :=
  frame crc [slave, 3, 2, hi value, lo value]

/-- Function 6, write one register; the reply is the same frame. -/
def writeRequest (slave : UInt8) (addr value : UInt16) : Bytes :=
  frame crc [slave, 6, hi addr, lo addr, hi value, lo value]

/-- A slave with the number `slave` and the registers `regs`: its reply to some
bytes, and the registers afterwards. -/
def respond (slave : UInt8) (regs : UInt16 → UInt16) (bs : Bytes) :
    Option Bytes × (UInt16 → UInt16) :=
  match unframe crc bs with
  | some [a, 3, h, l, 0, 1] =>
    if a = slave then (some (readReply crc slave (regs (word h l))), regs) else (none, regs)
  | some [a, 6, h, l, vh, vl] =>
    if a = slave then (some bs, Function.update regs (word h l) (word vh vl)) else (none, regs)
  | _ => (none, regs)

variable {crc}

/-- A reading gives the register. -/
@[simp] theorem respond_readRequest (slave : UInt8) (regs : UInt16 → UInt16) (addr : UInt16) :
    respond crc slave regs (readRequest crc slave addr) =
      (some (readReply crc slave (regs addr)), regs) := by
  simp [respond, readRequest]

/-- A writing stores the value and is echoed. -/
@[simp] theorem respond_writeRequest (slave : UInt8) (regs : UInt16 → UInt16)
    (addr value : UInt16) :
    respond crc slave regs (writeRequest crc slave addr value) =
      (some (writeRequest crc slave addr value), Function.update regs addr value) := by
  simp [respond, writeRequest]

end Frames

end Modbus
