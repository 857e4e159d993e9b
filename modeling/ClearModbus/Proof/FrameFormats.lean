import ClearModbus.Lib.Codec
import ClearModbus.Proof.FrameCodec

/-!
# The two frame formats are exact

Both frame decoders accept the layouts of the frames that fit and nothing else, and refuse the rest
with a frame error.
-/

namespace ClearModbus

def PyError.IsFrameError : PyError → Prop
  | .modbusFrameError _ => True
  | .modbusCRCError _ => True
  | _ => False

open PyError (IsFrameError)

theorem MBAPHeader.raisesOnly_decode (data : Bytes) :
    (MBAPHeader.decode data).RaisesOnly IsFrameError := by
  by_cases hlength : data.length = 7
  · obtain ⟨header, hfits, rfl⟩ := exists_wire_of_length_eq_seven hlength
    rw [decode_wire hfits]
    exact trivial
  · rw [decode, if_pos hlength]
    exact trivial

namespace ModbusTCPFrame

/-- The frames the MBAP header has room for. -/
structure IsValid (frame : ModbusTCPFrame) : Prop where
  transactionId : IsRegisterValue frame.transactionId
  unitId : IsByte frame.unitId
  pdu : frame.pdu.length ≤ 65534
  protocolId : frame.protocolId = modbusTcpProtocolId

theorem isValid_iff {frame : ModbusTCPFrame} :
    frame.IsValid ↔ frame.header.Fits ∧ frame.protocolId = modbusTcpProtocolId := by
  constructor
  · intro h
    obtain ⟨transactionId, unitId, pdu, protocolId⟩ := frame
    obtain rfl : protocolId = modbusTcpProtocolId := h.protocolId
    exact ⟨fits_header h.transactionId h.unitId h.pdu, rfl⟩
  · rintro ⟨hfits, hprotocol⟩
    have hlength : (1 : Int) + frame.pdu.length ≤ 65535 := hfits.length.2
    exact ⟨hfits.transactionId, hfits.unitId, by omega, hprotocol⟩

theorem exact : Codec.Exact encode decode IsValid := by
  apply Codec.exact_of_layout
  · intro frame hvalid
    exact encode_eq (isValid_iff.mp hvalid).1
  · intro data frame
    rw [decode_eq_ok_iff, isValid_iff, and_assoc]

theorem raisesOnly_decode (data : Bytes) : (decode data).RaisesOnly IsFrameError := by
  apply Except.RaisesOnly.bind (MBAPHeader.raisesOnly_decode _)
  intro header
  dsimp only
  split_ifs
  · exact trivial
  · exact trivial
  · exact trivial

end ModbusTCPFrame

namespace ModbusRTUFrame

/-- The frames an RTU line carries: the length of the PDU has no bound of its own. -/
structure IsValid (frame : ModbusRTUFrame) : Prop where
  unitId : IsByte frame.unitId
  pdu : frame.pdu ≠ []

theorem exact : Codec.Exact encode decode IsValid := by
  apply Codec.exact_of_layout
  · intro frame hvalid
    exact encode_eq hvalid.unitId
  · intro data frame
    rw [decode_eq_ok_iff]
    constructor
    · rintro ⟨hunit, hpdu, hdata⟩
      exact ⟨⟨hunit, hpdu⟩, hdata⟩
    · rintro ⟨hvalid, hdata⟩
      exact ⟨hvalid.unitId, hvalid.pdu, hdata⟩

/-- Four bytes or more have a first byte, so reading the unit id never raises. -/
theorem raisesOnly_decode (data : Bytes) : (decode data).RaisesOnly IsFrameError := by
  by_cases hshort : data.length < minRtuFrameSize
  · rw [decode, if_pos hshort]
    exact trivial
  · obtain ⟨message, crc, rfl, hmessage, hcrc⟩ := exists_message_crc (Nat.le_of_not_lt hshort)
    rw [decode_append hmessage hcrc]
    split
    · exact trivial
    · have hhead : getItem message ((0 : Nat) : Int) = .ok message[0] := getItem_natCast (by omega)
      change (getItem message ((0 : Nat) : Int) >>= _).RaisesOnly IsFrameError
      rw [hhead, Except.ok_bind]
      split
      · exact trivial
      · exact trivial

end ModbusRTUFrame

/-- **Both frame formats are exact**, and a byte string that is no frame raises nothing but a frame
error. -/
theorem frameFormats_exact :
    (Codec.Exact ModbusTCPFrame.encode ModbusTCPFrame.decode ModbusTCPFrame.IsValid ∧
      Codec.Exact ModbusRTUFrame.encode ModbusRTUFrame.decode ModbusRTUFrame.IsValid) ∧
    ∀ data, (ModbusTCPFrame.decode data).RaisesOnly IsFrameError ∧
      (ModbusRTUFrame.decode data).RaisesOnly IsFrameError :=
  ⟨⟨ModbusTCPFrame.exact, ModbusRTUFrame.exact⟩,
    fun data => ⟨ModbusTCPFrame.raisesOnly_decode data, ModbusRTUFrame.raisesOnly_decode data⟩⟩

end ClearModbus
