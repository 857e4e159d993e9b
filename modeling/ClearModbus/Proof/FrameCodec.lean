import ClearModbus.Proof.ResponseCodec
import ClearModbus.Protocol.Mbap
import ClearModbus.Protocol.Rtu

/-!
# The frame codecs

A frame is decoded from its own bytes and from no others: seven bytes are always some MBAP header,
the length field says where the PDU ends, and the CRC is a function of the bytes before it.
-/

namespace ClearModbus

abbrev IsByte (value : Int) : Prop := 0 ≤ value ∧ value < 256

theorem isByte_toNat (value : UInt8) : IsByte (value.toNat : Int) := by
  have hlt := value.toNat_lt
  exact ⟨by omega, by omega⟩

namespace MBAPHeader

structure Fits (header : MBAPHeader) : Prop where
  transactionId : IsRegisterValue header.transactionId
  protocolId : IsRegisterValue header.protocolId
  length : IsRegisterValue header.length
  unitId : IsByte header.unitId

def wire (header : MBAPHeader) : Bytes :=
  word header.transactionId ++ word header.protocolId ++ word header.length ++ [byte header.unitId]

@[simp]
theorem length_wire (header : MBAPHeader) : header.wire.length = 7 := rfl

theorem encode_eq {header : MBAPHeader} (h : header.Fits) : header.encode = .ok header.wire := by
  rw [encode, pack_eq_ok]
  · rfl
  · simp only [List.forall_mem_cons]
    exact ⟨fits_u16 h.transactionId, fits_u16 h.protocolId, fits_u16 h.length, h.unitId,
      fun _ h => absurd h List.not_mem_nil⟩

theorem fits_of_encode {header : MBAPHeader} {data : Bytes} (h : header.encode = .ok data) :
    header.Fits := by
  have hfields := forall_fits_of_pack h
  simp only [List.forall_mem_cons] at hfields
  obtain ⟨htransaction, hprotocol, hlength, hunit, -⟩ := hfields
  exact ⟨isRegisterValue_of_fits htransaction, isRegisterValue_of_fits hprotocol,
    isRegisterValue_of_fits hlength, hunit⟩

theorem decode_wire {header : MBAPHeader} (h : header.Fits) : decode header.wire = .ok header := by
  have hunpack : unpackHHHB header.wire = .ok (header.transactionId, header.protocolId,
      header.length, header.unitId) := by
    change Except.ok (_, _, _, _) = _
    rw [decode_word h.transactionId, decode_word h.protocolId, decode_word h.length,
      toNat_byte h.unitId]
  rw [decode, if_neg (by simp), hunpack]
  rfl

theorem eq_of_wire_eq {header other : MBAPHeader} (h : header.Fits) (hother : other.Fits)
    (hwire : header.wire = other.wire) : header = other := by
  have hdecode := decode_wire h
  rw [hwire, decode_wire hother] at hdecode
  exact (Except.ok.inj hdecode).symm

theorem exists_wire_of_length_eq_seven {data : Bytes} (h : data.length = 7) :
    ∃ header : MBAPHeader, header.Fits ∧ data = header.wire := by
  match data, h with
  | [a, b, c, d, e, f, g], _ =>
      refine ⟨⟨Words.decode a b, Words.decode c d, Words.decode e f, g.toNat⟩,
        ⟨isRegisterValue_decode a b, isRegisterValue_decode c d, isRegisterValue_decode e f,
          isByte_toNat g⟩, ?_⟩
      simp only [wire, word_decode, byte_toNat, List.cons_append, List.nil_append]

theorem decode_eq_ok_iff {data : Bytes} {header : MBAPHeader} :
    decode data = .ok header ↔ header.Fits ∧ data = header.wire := by
  constructor
  · intro h
    by_cases hlength : data.length = 7
    · obtain ⟨other, hfits, rfl⟩ := exists_wire_of_length_eq_seven hlength
      rw [decode_wire hfits] at h
      cases h
      exact ⟨hfits, rfl⟩
    · rw [decode, if_pos hlength] at h
      cases h
  · rintro ⟨hfits, rfl⟩
    exact decode_wire hfits

end MBAPHeader

namespace ModbusTCPFrame

def header (frame : ModbusTCPFrame) : MBAPHeader :=
  ⟨frame.transactionId, frame.protocolId, 1 + frame.pdu.length, frame.unitId⟩

def wire (frame : ModbusTCPFrame) : Bytes := frame.header.wire ++ frame.pdu

/-- A frame with protocol id 0 fits when its ids do and the length field has room for its PDU. -/
theorem fits_header {transactionId unitId : Int} {pdu : Bytes}
    (htransaction : IsRegisterValue transactionId) (hunit : IsByte unitId)
    (hpdu : pdu.length ≤ 65534) :
    (header { transactionId, unitId, pdu }).Fits := by
  refine ⟨htransaction, ⟨Int.le_refl 0, Int.natCast_nonneg _⟩, ⟨?_, ?_⟩, hunit⟩
  · change 0 ≤ (1 : Int) + pdu.length
    omega
  · change (1 : Int) + pdu.length ≤ 65535
    omega

theorem take_wire (frame : ModbusTCPFrame) : frame.wire.take 7 = frame.header.wire := rfl

theorem drop_wire (frame : ModbusTCPFrame) : frame.wire.drop 7 = frame.pdu := rfl

theorem eq_of_wire_eq {frame other : ModbusTCPFrame} (h : frame.header.Fits)
    (hother : other.header.Fits) (hwire : frame.wire = other.wire) : frame = other := by
  have happend : frame.header.wire ++ frame.pdu = other.header.wire ++ other.pdu := hwire
  obtain ⟨hheaderWire, hpdu⟩ := List.append_inj happend rfl
  have hheader := MBAPHeader.eq_of_wire_eq h hother hheaderWire
  obtain ⟨htransaction, hprotocol, -, hunit⟩ := (MBAPHeader.mk.injEq ..).mp hheader
  exact (ModbusTCPFrame.mk.injEq ..).mpr ⟨htransaction, hunit, hpdu, hprotocol⟩

theorem encode_eq {frame : ModbusTCPFrame} (h : frame.header.Fits) :
    frame.encode = .ok frame.wire := by
  change (frame.header.encode >>= fun head => Except.ok (head ++ frame.pdu)) = _
  rw [MBAPHeader.encode_eq h]
  rfl

theorem fits_of_encode {frame : ModbusTCPFrame} {data : Bytes} (h : frame.encode = .ok data) :
    frame.header.Fits := by
  obtain ⟨head, hhead, -⟩ := Except.bind_eq_ok_iff.mp h
  exact MBAPHeader.fits_of_encode hhead

theorem decode_eq_ok_iff {data : Bytes} {frame : ModbusTCPFrame} :
    decode data = .ok frame ↔
      frame.header.Fits ∧ frame.protocolId = modbusTcpProtocolId ∧ data = frame.wire := by
  constructor
  · intro h
    obtain ⟨header, hheader, h⟩ := Except.bind_eq_ok_iff.mp h
    obtain ⟨hfits, htake⟩ := MBAPHeader.decode_eq_ok_iff.mp hheader
    dsimp only at h
    split at h
    · cases h
    · rename_i hprotocol
      split at h
      · cases h
      · rename_i hlength
        cases h
        have hheader : header = ModbusTCPFrame.header
            ⟨header.transactionId, header.unitId, data.drop 7, header.protocolId⟩ := by
          rw [ModbusTCPFrame.header, ← not_not.mp hlength]
        refine ⟨hheader ▸ hfits, not_not.mp hprotocol, ?_⟩
        rw [wire, ← hheader, ← htake, List.take_append_drop]
  · rintro ⟨hfits, hprotocol, rfl⟩
    rw [decode, take_wire, MBAPHeader.decode_wire hfits, Except.ok_bind]
    dsimp only
    have hheader : frame.header.protocolId = modbusTcpProtocolId := hprotocol
    have hlength : frame.header.length = 1 + (frame.pdu.length : Int) := rfl
    rw [drop_wire, if_neg (not_not.mpr hheader), if_neg (not_not.mpr hlength)]
    rfl

end ModbusTCPFrame

theorem crc16Modbus_lt (data : Bytes) : crc16Modbus data < 65536 :=
  lt_of_le_of_lt Nat.and_le_right (by decide)

@[simp]
theorem length_crcBytes (crc : Nat) : (crcBytes crc).length = 2 := rfl

theorem fromLittleEndian_crcBytes {crc : Nat} (h : crc < 65536) :
    fromLittleEndian (crcBytes crc) = crc := by
  simp only [crcBytes, fromLittleEndian, UInt8.toNat_ofNat']
  omega

theorem crcBytes_fromLittleEndian {data : Bytes} (h : data.length = 2) :
    crcBytes (fromLittleEndian data) = data := by
  match data, h with
  | [low, high], _ =>
      have hlow := low.toNat_lt
      have hhigh := high.toNat_lt
      have hdiv : (low.toNat + 256 * (high.toNat + 256 * 0)) / 256 = high.toNat := by omega
      have hmod : UInt8.ofNat (low.toNat + 256 * (high.toNat + 256 * 0)) = low := by
        apply UInt8.toNat_inj.mp
        simp only [UInt8.toNat_ofNat']
        omega
      simp only [crcBytes, fromLittleEndian]
      rw [hdiv, hmod, UInt8.ofNat_toNat]

theorem slice_zero_neg_two (front last : Bytes) (h : last.length = 2) :
    slice (front ++ last) 0 (-2) = front := by
  have hstop : clampIndex (front ++ last).length (-2) = front.length := by
    rw [clampIndex, if_pos (by decide), List.length_append]
    omega
  rw [slice, hstop, List.take_left]
  rfl

theorem slice_neg_two_length (front last : Bytes) (h : last.length = 2) :
    slice (front ++ last) (-2) ((front ++ last).length : Int) = last := by
  have hstart : clampIndex (front ++ last).length (-2) = front.length := by
    rw [clampIndex, if_pos (by decide), List.length_append]
    omega
  rw [slice, hstart, clampIndex_natCast (Nat.le_refl _), List.take_length, List.drop_left]

theorem slice_two_neg_two {front last : Bytes} (body : Bytes) (hfront : front.length = 2)
    (hlast : last.length = 2) : slice (front ++ body ++ last) 2 (-2) = body := by
  have hstart : clampIndex (front ++ body ++ last).length 2 = front.length := by
    rw [hfront]
    apply clampIndex_natCast
    simp only [List.length_append]
    omega
  have hstop : clampIndex (front ++ body ++ last).length (-2) = (front ++ body).length := by
    rw [clampIndex, if_pos (by decide)]
    simp only [List.length_append]
    omega
  rw [slice, hstart, hstop, List.take_left, List.drop_left]

namespace ModbusRTUFrame

def message (frame : ModbusRTUFrame) : Bytes := byte frame.unitId :: frame.pdu

def wire (frame : ModbusRTUFrame) : Bytes :=
  frame.message ++ crcBytes (crc16Modbus frame.message)

theorem encode_eq {frame : ModbusRTUFrame} (h : IsByte frame.unitId) :
    frame.encode = .ok frame.wire := by
  rw [encode, bytesOf_eq_ok]
  · rfl
  · simp only [List.forall_mem_cons]
    exact ⟨h, fun _ h => absurd h List.not_mem_nil⟩

theorem encode_eq_ok_iff {frame : ModbusRTUFrame} {data : Bytes} :
    frame.encode = .ok data ↔ IsByte frame.unitId ∧ data = frame.wire := by
  constructor
  · intro h
    by_cases hunit : IsByte frame.unitId
    · rw [encode_eq hunit] at h
      cases h
      exact ⟨hunit, rfl⟩
    · rw [encode, bytesOf, check_neg _ hunit] at h
      cases h
  · rintro ⟨hunit, rfl⟩
    exact encode_eq hunit

theorem decode_append {message crc : Bytes} (hmessage : 2 ≤ message.length)
    (hcrc : crc.length = 2) :
    decode (message ++ crc) =
      if fromLittleEndian crc ≠ crc16Modbus message then
        .error (.modbusCRCError "RTU frame CRC does not match payload")
      else getItem message 0 >>= fun unitId =>
        if (message.drop 1).length = 0 then .error (.modbusFrameError "RTU frame PDU is empty")
        else .ok ⟨unitId.toNat, message.drop 1⟩ := by
  have hlength : ¬(message ++ crc).length < minRtuFrameSize := by
    have hmin : minRtuFrameSize = 4 := rfl
    rw [List.length_append]
    omega
  rw [decode, if_neg hlength]
  dsimp only
  rw [slice_zero_neg_two message crc hcrc, slice_neg_two_length message crc hcrc]
  rfl

/-- A byte string long enough for a frame is a message with a CRC behind it. -/
theorem exists_message_crc {data : Bytes} (h : minRtuFrameSize ≤ data.length) :
    ∃ message crc, data = message ++ crc ∧ 2 ≤ message.length ∧ crc.length = 2 := by
  have hmin : minRtuFrameSize = 4 := rfl
  refine ⟨data.take (data.length - 2), data.drop (data.length - 2),
    (List.take_append_drop _ _).symm, ?_, ?_⟩
  · rw [List.length_take]
    omega
  · rw [List.length_drop]
    omega

theorem decode_eq_ok_iff {data : Bytes} {frame : ModbusRTUFrame} :
    decode data = .ok frame ↔ IsByte frame.unitId ∧ frame.pdu ≠ [] ∧ data = frame.wire := by
  constructor
  · intro h
    by_cases hshort : data.length < minRtuFrameSize
    · rw [decode, if_pos hshort] at h
      cases h
    · obtain ⟨body, crc, rfl, hmessage, hcrc⟩ := exists_message_crc (Nat.le_of_not_lt hshort)
      rw [decode_append hmessage hcrc] at h
      split at h
      · cases h
      · rename_i hsame
        match body, hmessage with
        | unitId :: head :: rest, _ =>
            cases h
            refine ⟨isByte_toNat unitId, List.cons_ne_nil _ _, ?_⟩
            have hmessage : message ⟨unitId.toNat, head :: rest⟩ = unitId :: head :: rest := by
              rw [message, byte_toNat]
            change _ = wire ⟨unitId.toNat, head :: rest⟩
            rw [wire, hmessage, ← not_not.mp hsame, crcBytes_fromLittleEndian hcrc]
  · rintro ⟨hunit, hpdu, rfl⟩
    obtain ⟨unitId, pdu⟩ := frame
    match pdu, hpdu with
    | head :: rest, _ =>
        have hmessage : 2 ≤ (message ⟨unitId, head :: rest⟩).length := by
          simp only [message, List.length_cons]
          omega
        rw [wire, decode_append hmessage (length_crcBytes _),
          fromLittleEndian_crcBytes (crc16Modbus_lt _), if_neg (not_not.mpr rfl)]
        change Except.ok (ModbusRTUFrame.mk ((byte unitId).toNat : Int) (head :: rest)) = _
        rw [toNat_byte hunit]

end ModbusRTUFrame

end ClearModbus
