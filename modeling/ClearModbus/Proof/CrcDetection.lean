import ClearModbus.Lib.Crc
import ClearModbus.Proof.FrameCodec

/-!
# What the CRC of an RTU frame detects

The table-driven loop is the shift register of the polynomial `0xA001`. Run over a whole frame, CRC
bytes included, it ends at zero exactly when the CRC is right, so a damaged frame slips through only
when the damage leaves the remainder alone. Damage within two adjacent bytes does not, and neither
does an odd number of flipped bits.
-/

namespace ClearModbus

open BitString (differingBits)

abbrev crc16Polynomial : Nat := 0xA001

theorem crc16Polynomial_lt : crc16Polynomial < 2 ^ 16 := by decide

theorem testBit_crc16Polynomial : crc16Polynomial.testBit 15 = true := by decide

theorem parity_crc16Polynomial : Crc.parity 16 crc16Polynomial = 1 := by decide

theorem crc16Shift_eq (value : Nat) : crc16Shift value = Crc.shift crc16Polynomial value := by
  have hlow : value &&& 0x0001 = value % 2 := Nat.and_one_is_mod value
  have hbit : value.testBit 0 = decide (value % 2 = 1) := Nat.testBit_zero value
  rw [crc16Shift, Crc.shift, hlow, hbit]
  rcases Nat.mod_two_eq_zero_or_one value with hmod | hmod
  · rw [hmod]
    rfl
  · rw [hmod]
    rfl

theorem and_mask_of_lt {value : Nat} (h : value < 65536) : value &&& 0xFFFF = value := by
  have hmask : value &&& 0xFFFF = value % 2 ^ 16 := Nat.and_two_pow_sub_one_eq_mod value 16
  rw [hmask]
  exact Nat.mod_eq_of_lt h

theorem crc16TableEntry_eq {value : Nat} (h : value < 65536) :
    crc16TableEntry value = (Crc.shift crc16Polynomial)^[8] value := by
  have hshift : crc16Shift = Crc.shift crc16Polynomial := funext crc16Shift_eq
  have hloop : (List.range 8).foldl (fun value _ => crc16Shift value) value =
      (Crc.shift crc16Polynomial)^[8] value := by
    rw [hshift]
    rfl
  rw [crc16TableEntry, hloop]
  exact and_mask_of_lt (Crc.iterate_shift_lt crc16Polynomial_lt 8 h)

theorem crc16Step_eq (crc : Nat) (byte : UInt8) :
    crc16Step crc byte = Crc.step crc16Polynomial crc byte := by
  have hmask : (crc ^^^ byte.toNat) &&& 0xFF = (crc ^^^ byte.toNat) % 2 ^ 8 :=
    Nat.and_two_pow_sub_one_eq_mod _ 8
  have hindex : (crc ^^^ byte.toNat) % 2 ^ 8 < 256 := Nat.mod_lt _ (by decide)
  rw [Crc.step_eq_table, crc16Step, hmask, ← crc16TableEntry_eq (by omega)]
  generalize (crc ^^^ byte.toNat) % 2 ^ 8 = index at hindex
  rw [crc16ModbusTable, List.getD_eq_getElem?_getD, List.getElem?_map,
    List.getElem?_range hindex]
  rfl

theorem foldl_crc16Step (crc : Nat) (data : Bytes) :
    data.foldl crc16Step crc = data.foldl (Crc.step crc16Polynomial) crc := by
  congr 1
  funext crc byte
  exact crc16Step_eq crc byte

theorem foldl_crc16Step_lt (data : Bytes) {crc : Nat} (h : crc < 65536) :
    data.foldl crc16Step crc < 65536 := by
  induction data generalizing crc with
  | nil => exact h
  | cons byte rest ih =>
      apply ih
      rw [crc16Step_eq]
      have hbyte : byte.toNat < 2 ^ 16 := lt_trans byte.toNat_lt (by decide)
      exact Crc.iterate_shift_lt crc16Polynomial_lt 8 (Nat.xor_lt_two_pow h hbyte)

/-- The final mask of `crc16_modbus` changes nothing. -/
theorem crc16Modbus_eq (data : Bytes) : crc16Modbus data = data.foldl crc16Step 0xFFFF :=
  and_mask_of_lt (foldl_crc16Step_lt data (by decide))

theorem fromLittleEndian_eq (data : Bytes) : fromLittleEndian data = BitString.toNat data := by
  induction data with
  | nil => rfl
  | cons byte rest ih => rw [fromLittleEndian, ih, BitString.toNat]

/-- The remainder of a message with two bytes behind it vanishes for the bytes of its CRC only. -/
theorem foldl_crc16Step_append_eq_zero_iff {message crc : Bytes} (hcrc : crc.length = 2) :
    (message ++ crc).foldl crc16Step 0xFFFF = 0 ↔ fromLittleEndian crc = crc16Modbus message := by
  have hvalue : BitString.toNat crc < 2 ^ 16 := by
    have hlt := BitString.toNat_lt crc
    rwa [hcrc] at hlt
  have hmessage : crc16Modbus message < 2 ^ 16 := crc16Modbus_lt message
  rw [List.foldl_append, ← crc16Modbus_eq, foldl_crc16Step, Crc.foldl_step, fromLittleEndian_eq]
  constructor
  · intro h
    have hzero := Crc.iterate_shift_eq_zero testBit_crc16Polynomial crc16Polynomial_lt _
      (Nat.xor_lt_two_pow hmessage hvalue) h
    exact (Nat.xor_eq_zero_iff.mp hzero).symm
  · intro h
    rw [h, Nat.xor_self]
    generalize 8 * crc.length = count
    induction count with
    | zero => rfl
    | succ count ih => rw [Function.iterate_succ_apply, Crc.shift_zero, ih]

/-- The CRC of the Modbus specification, bit by bit: a byte is added at the low end of the register,
and eight times a bit is shifted out, which reduces the register by the polynomial when it is
one. -/
def crc16Reference (data : Bytes) : Nat :=
  data.foldl (fun crc byte => (Crc.shift crc16Polynomial)^[8] (crc ^^^ byte.toNat)) 0xFFFF

/-- **The table-driven CRC is the Modbus CRC**, and a message followed by its own CRC leaves
nothing. -/
theorem crc16Modbus_eq_reference (data : Bytes) :
    crc16Modbus data = crc16Reference data ∧
      crc16Modbus (data ++ crcBytes (crc16Modbus data)) = 0 := by
  constructor
  · rw [crc16Modbus_eq, foldl_crc16Step]
    rfl
  · rw [crc16Modbus_eq, foldl_crc16Step_append_eq_zero_iff (length_crcBytes _)]
    exact fromLittleEndian_crcBytes (crc16Modbus_lt data)

namespace ModbusRTUFrame

theorem minRtuFrameSize_le_length_wire {frame : ModbusRTUFrame} (hpdu : frame.pdu ≠ []) :
    minRtuFrameSize ≤ frame.wire.length := by
  have hmin : minRtuFrameSize = 4 := rfl
  have hlength := List.length_pos_of_ne_nil hpdu
  rw [wire, message, List.length_append, List.length_cons, length_crcBytes]
  omega

theorem foldl_crc16Step_wire (frame : ModbusRTUFrame) :
    frame.wire.foldl crc16Step 0xFFFF = 0 := by
  rw [wire, foldl_crc16Step_append_eq_zero_iff (length_crcBytes _)]
  exact fromLittleEndian_crcBytes (crc16Modbus_lt _)

/-- A byte string long enough for a frame is refused for its CRC when its remainder is not zero. -/
theorem decode_eq_crcError {data : Bytes} (hlength : minRtuFrameSize ≤ data.length)
    (h : data.foldl crc16Step 0xFFFF ≠ 0) :
    decode data = .error (.modbusCRCError "RTU frame CRC does not match payload") := by
  obtain ⟨message, crc, rfl, hmessage, hcrc⟩ := exists_message_crc hlength
  rw [decode_append hmessage hcrc, if_pos]
  intro hequal
  exact h ((foldl_crc16Step_append_eq_zero_iff hcrc).mpr hequal)

/-- The differing bits lie inside two adjacent bytes. -/
def InAdjacentBytes (left right : Bytes) : Prop :=
  ∃ index, ∀ position ∈ differingBits left right,
    position / 8 = index ∨ position / 8 = index + 1

theorem foldl_crc16Step_ne {left right : Bytes} (hlength : left.length = right.length)
    (hne : left ≠ right)
    (herror : InAdjacentBytes left right ∨ Odd (differingBits left right).card) (crc : Nat) :
    left.foldl crc16Step crc ≠ right.foldl crc16Step crc := by
  rw [foldl_crc16Step, foldl_crc16Step]
  rcases herror with ⟨index, hinside⟩ | hodd
  · have hburst : ∀ position ∈ differingBits left right,
        8 * index ≤ position ∧ position < 8 * index + (15 + 1) := by
      intro position hposition
      have hbyte := hinside position hposition
      omega
    exact Crc.foldl_step_ne_of_burst testBit_crc16Polynomial crc16Polynomial_lt hlength hne
      hburst crc
  · exact Crc.foldl_step_ne_of_odd parity_crc16Polynomial crc16Polynomial_lt hlength hodd crc

/-- **Error detection.** A frame damaged within two adjacent bytes, or in an odd number of bits, is
refused for its CRC. -/
theorem decode_damaged {frame : ModbusRTUFrame} (hpdu : frame.pdu ≠ []) {wire data : Bytes}
    (hwire : frame.encode = .ok wire) (hlength : wire.length = data.length) (hne : wire ≠ data)
    (herror : InAdjacentBytes wire data ∨ Odd (differingBits wire data).card) :
    ∃ message, decode data = .error (.modbusCRCError message) := by
  obtain ⟨hunit, rfl⟩ := encode_eq_ok_iff.mp hwire
  have hmin : minRtuFrameSize ≤ data.length := by
    rw [← hlength]
    exact minRtuFrameSize_le_length_wire hpdu
  have hremainder := foldl_crc16Step_ne hlength hne herror 0xFFFF
  rw [foldl_crc16Step_wire] at hremainder
  exact ⟨_, decode_eq_crcError hmin (Ne.symm hremainder)⟩

/-- One bit flipped on each side of the border between the message and its CRC. -/
theorem decode_damaged_border :
    ∃ message, decode [0x01, 0x06, 0x40, 0xE2] = .error (.modbusCRCError message) := by
  have hwire : encode ⟨1, [0x07]⟩ = .ok [0x01, 0x07, 0x41, 0xE2] := by decide
  have hinside : InAdjacentBytes [0x01, 0x07, 0x41, 0xE2] [0x01, 0x06, 0x40, 0xE2] :=
    ⟨1, by decide⟩
  exact decode_damaged (List.cons_ne_nil _ _) hwire rfl (by decide) (Or.inl hinside)

end ModbusRTUFrame

end ClearModbus
