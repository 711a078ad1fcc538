/-
Device2/ModbusCrc.lean

`Driver_serial_hm310t::modbus_crc` as a shift register.

Its loop over the bits of a byte is the register of `Device2.Lib.ShiftRegister` with
the polynomial `0xA001`; a byte is added as a whole and then moved out, which is the
same as feeding its bits in the order of their transmission, the lowest one first
(`toBitVec_modbusCrc`).  What makes the checksum good is then what the library says
about any such register: the two bytes of the sum, low byte first, clear it, and a
burst of up to 16 wrong bits does not.
-/
import Device2.Modbus
import Device2.Lib.ShiftRegister

namespace Device2

open Modbus ShiftRegister

/-! ### Bits on the line -/

/-- The bits of a message in the order of their transmission. -/
def lineBits (bs : Bytes) : List Bool := bs.flatMap fun b => bits b.toBitVec

theorem length_lineBits (bs : Bytes) : (lineBits bs).length = 8 * bs.length := by
  simp [lineBits, List.length_flatMap, Nat.mul_comm]

/-- Different messages are different on the line. -/
theorem lineBits_injective : Function.Injective lineBits := by
  intro bs
  induction bs with
  | nil =>
    intro cs h
    have hlen := congrArg List.length h
    rw [length_lineBits, length_lineBits] at hlen
    cases cs with
    | nil => rfl
    | cons c cs => simp only [List.length_nil, List.length_cons] at hlen; omega
  | cons b bs ih =>
    intro cs h
    cases cs with
    | nil =>
      have hlen := congrArg List.length h
      rw [length_lineBits, length_lineBits] at hlen
      simp only [List.length_nil, List.length_cons] at hlen
      omega
    | cons c cs =>
      have hcut : bits b.toBitVec ++ lineBits bs = bits c.toBitVec ++ lineBits cs := h
      obtain ⟨hbyte, hrest⟩ := List.append_inj hcut (by simp)
      rw [UInt8.toBitVec_inj.mp (bits_injective hbyte), ih hrest]

theorem toBitVec_lo (c : UInt16) : (lo c).toBitVec = c.toBitVec.setWidth 8 := by
  apply BitVec.eq_of_toNat_eq
  rw [BitVec.toNat_setWidth]
  exact toNat_lo c

theorem toBitVec_hi (c : UInt16) : (hi c).toBitVec = (c.toBitVec >>> 8).setWidth 8 := by
  apply BitVec.eq_of_toNat_eq
  have hlt := c.toNat_lt
  have hshift : (c.toBitVec >>> 8).toNat = c.toNat / 256 := by
    rw [BitVec.toNat_ushiftRight, Nat.shiftRight_eq_div_pow]
    rfl
  rw [BitVec.toNat_setWidth, hshift, Nat.mod_eq_of_lt (by omega)]
  exact toNat_hi c

/-- A word with its low byte first. -/
theorem lineBits_lo_hi (c : UInt16) : lineBits [lo c, hi c] = bits c.toBitVec := by
  have hcut : bits c.toBitVec =
      bits (c.toBitVec.setWidth 8) ++ bits ((c.toBitVec >>> 8).setWidth 8) :=
    bits_add (n := 8) (m := 8) c.toBitVec
  rw [hcut, ← toBitVec_lo, ← toBitVec_hi]
  simp [lineBits]

/-! ### The register -/

/-- The table of `modbus_crc`. -/
def modbusPoly : Poly 16 := ⟨0xA001#16, by decide⟩

theorem and_one_eq_zero_iff (crc : UInt16) : crc &&& 1 = 0 ↔ crc.toBitVec.getLsbD 0 = false := by
  have hbits : (crc &&& 1).toBitVec = (BitVec.ofBool (crc.toBitVec.getLsbD 0)).setWidth 16 :=
    BitVec.and_one_eq_setWidth_ofBool_getLsbD
  rw [← UInt16.toBitVec_inj, hbits]
  cases crc.toBitVec.getLsbD 0 <;> decide

theorem toBitVec_modbusCrcBit (crc : UInt16) :
    (modbusCrcBit crc).toBitVec = shift modbusPoly crc.toBitVec := by
  show (crc.toBitVec >>> 1) ^^^ (if crc &&& 1 = 0 then (0 : UInt16) else 0xA001).toBitVec =
    (crc.toBitVec >>> 1) ^^^ (if crc.toBitVec.getLsbD 0 then 0xA001#16 else 0#16)
  congr 1
  by_cases h : crc &&& 1 = 0
  · rw [if_pos h, (and_one_eq_zero_iff crc).mp h]
    rfl
  · have hbit : crc.toBitVec.getLsbD 0 = true := by
      rwa [and_one_eq_zero_iff, Bool.not_eq_false] at h
    rw [if_neg h, hbit]
    rfl

theorem toBitVec_iterate (n : Nat) (crc : UInt16) :
    (modbusCrcBit^[n] crc).toBitVec = (shift modbusPoly)^[n] crc.toBitVec := by
  have hsemi : Function.Semiconj UInt16.toBitVec modbusCrcBit (shift modbusPoly) :=
    toBitVec_modbusCrcBit
  exact hsemi.iterate_right n crc

/-- A byte added as a whole and moved out. -/
theorem toBitVec_byte (crc : UInt16) (b : UInt8) :
    (modbusCrcBit^[8] (crc ^^^ b.toUInt16)).toBitVec = feed modbusPoly crc.toBitVec (bits b.toBitVec) := by
  rw [toBitVec_iterate, feed_eq_iterate modbusPoly (by simp), length_bits, ofBits_bits]
  rfl

/-- **The loop of `modbus_crc` is the shift register.** -/
theorem toBitVec_modbusCrc (bs : Bytes) :
    (modbusCrc bs).toBitVec = feed modbusPoly 0xFFFF#16 (lineBits bs) := by
  have hloop : ∀ crc : UInt16,
      (bs.foldl (fun crc b => modbusCrcBit^[8] (crc ^^^ b.toUInt16)) crc).toBitVec =
        feed modbusPoly crc.toBitVec (lineBits bs) := by
    induction bs with
    | nil => exact fun _ => rfl
    | cons b bs ih =>
      intro crc
      show _ = feed modbusPoly crc.toBitVec (bits b.toBitVec ++ lineBits bs)
      rw [List.foldl_cons, ih, toBitVec_byte, feed_append]
  exact hloop 0xFFFF

/-! ### The checksum -/

/-- The two bytes of the sum clear the register. -/
theorem modbusCrc_frame (body : Bytes) : modbusCrc (frame modbusCrc body) = 0 := by
  apply UInt16.toBitVec_inj.mp
  have hline : lineBits (frame modbusCrc body) = lineBits body ++ bits (modbusCrc body).toBitVec := by
    rw [← lineBits_lo_hi]
    exact List.flatMap_append
  rw [toBitVec_modbusCrc, hline, feed_append, ← toBitVec_modbusCrc, feed_self]
  rfl

/-- **`modbus_crc` checks frames.**  It is 0 for every frame, and it is not 0 for any
other message of the same length that differs from the frame only in 16 consecutive
bits on the line. -/
theorem modbusCrc_checks_frames (body : Bytes) :
    modbusCrc (frame modbusCrc body) = 0 ∧
    ∀ (bs : Bytes) (k : Nat), bs.length = (frame modbusCrc body).length →
      bs ≠ frame modbusCrc body →
      (∀ i, i < k ∨ k + 16 ≤ i → (lineBits bs)[i]? = (lineBits (frame modbusCrc body))[i]?) →
      modbusCrc bs ≠ 0 := by
  refine ⟨modbusCrc_frame body, ?_⟩
  intro bs k hlen hne hwindow hzero
  have hbits : (lineBits bs).length = (lineBits (frame modbusCrc body)).length := by
    rw [length_lineBits, length_lineBits, hlen]
  have hne' : lineBits bs ≠ lineBits (frame modbusCrc body) := lineBits_injective.ne hne
  apply feed_ne_of_window modbusPoly hbits hne' k hwindow 0xFFFF#16
  rw [← toBitVec_modbusCrc, ← toBitVec_modbusCrc, hzero, modbusCrc_frame]

/-- A request as it is sent. -/
example : modbusCrc (readRequest modbusCrc 1 0x0030) = 0 := modbusCrc_frame _

end Device2
