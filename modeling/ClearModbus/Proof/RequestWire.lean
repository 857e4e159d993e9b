import ClearModbus.Protocol.Decode
import ClearModbus.Proof.Bits

/-!
# What a request looks like on the wire

`BuiltinRequest.wire` is the layout of each request class as a byte string, and `encode` produces it
without raising: every field is in range because the constructor checked it, and the byte counts are
below 256 because the value lists are bounded.
-/

namespace ClearModbus

def word (value : Int) : Bytes := Words.encode value.toNat

def words (values : List Int) : Bytes := Words.encodeAll (values.map Int.toNat)

@[simp]
theorem length_word (value : Int) : (word value).length = 2 := rfl

@[simp]
theorem length_words (values : List Int) : (words values).length = 2 * values.length := by
  simp [words]

theorem lt_of_isRegisterValue {value : Int} (h : IsRegisterValue value) : value < 65536 := by
  have hmax : maxRegisterValue = 65535 := rfl
  have := h.2
  omega

theorem decode_word {value : Int} (h : IsRegisterValue value) :
    (Words.decode (UInt8.ofNat (value.toNat / 256)) (UInt8.ofNat value.toNat) : Int) = value := by
  have hvalue : value.toNat < 65536 := by
    have := lt_of_isRegisterValue h
    omega
  rw [Words.decode_encode hvalue, Int.toNat_of_nonneg h.1]

@[simp]
theorem word_decode (high low : UInt8) : word (Words.decode high low : Int) = [high, low] := by
  rw [word, Int.toNat_natCast, Words.encode_decode]

theorem isRegisterValue_decode (high low : UInt8) :
    IsRegisterValue (Words.decode high low : Int) := by
  have hlt := Words.decode_lt high low
  have hmax : maxRegisterValue = 65535 := rfl
  constructor <;> omega

theorem decodeAll_words {values : List Int} (h : ∀ value ∈ values, IsRegisterValue value) :
    (Words.decodeAll (words values)).map Int.ofNat = values := by
  have hnat : ∀ value ∈ values.map Int.toNat, value < 65536 := by
    intro value hmem
    obtain ⟨register, hregister, rfl⟩ := List.mem_map.mp hmem
    have := lt_of_isRegisterValue (h register hregister)
    omega
  rw [words, Words.decodeAll_encodeAll hnat, List.map_map]
  conv_rhs => rw [← List.map_id values]
  exact List.map_congr_left fun value hmem => Int.toNat_of_nonneg (h value hmem).1

theorem words_decodeAll {data : Bytes} (h : data.length % 2 = 0) :
    words ((Words.decodeAll data).map Int.ofNat) = data := by
  rw [words, List.map_map]
  have hid : (Int.toNat ∘ Int.ofNat) = id := funext fun value => Int.toNat_natCast value
  rw [hid, List.map_id, Words.encodeAll_decodeAll h]

theorem isRegisterValue_of_mem_decodeAll {data : Bytes} {value : Int}
    (h : value ∈ (Words.decodeAll data).map Int.ofNat) : IsRegisterValue value := by
  obtain ⟨register, hregister, rfl⟩ := List.mem_map.mp h
  have hlt := Words.lt_of_mem_decodeAll hregister
  change 0 ≤ (register : Int) ∧ (register : Int) ≤ 65535
  omega

theorem flatMap_u16 (values : List Int) :
    (values.map Field.u16).flatMap Field.bytes = words values := by
  induction values with
  | nil => rfl
  | cons value values ih =>
      rw [List.map_cons, List.flatMap_cons, ih]
      rfl

theorem fits_u16 {value : Int} (h : IsRegisterValue value) : (Field.u16 value).Fits :=
  ⟨h.1, lt_of_isRegisterValue h⟩

theorem isRegisterValue_of_fits {value : Int} (h : (Field.u16 value).Fits) :
    IsRegisterValue value := by
  have hmax : maxRegisterValue = 65535 := rfl
  exact ⟨h.1, hmax ▸ Int.le_of_lt_add_one h.2⟩

theorem fits_map_u16 {values : List Int} (h : ∀ value ∈ values, IsRegisterValue value) :
    ∀ field ∈ values.map Field.u16, field.Fits := by
  intro field hmem
  obtain ⟨value, hvalue, rfl⟩ := List.mem_map.mp hmem
  exact fits_u16 (h value hvalue)

theorem fits_count {count maxCount : Int} (hmax : maxCount < 65536) (h : IsCount maxCount count) :
    (Field.u16 count).Fits := by
  obtain ⟨hlow, hhigh⟩ := h
  constructor <;> omega

theorem fits_byteCount {count maxCount : Int} (hmax : maxCount < 128) (h : IsCount maxCount count) :
    (Field.u8 (count * 2)).Fits := by
  obtain ⟨hlow, hhigh⟩ := h
  constructor <;> omega

theorem fits_coilValue (value : Bool) :
    (Field.u16 (if value then coilOn else coilOff)).Fits := by
  cases value <;> decide

def BuiltinRequest.wire : BuiltinRequest → Bytes
  | .readCoils request => 0x01 :: word request.address ++ word request.count
  | .readDiscreteInputs request => 0x02 :: word request.address ++ word request.count
  | .readHoldingRegisters request => 0x03 :: word request.address ++ word request.count
  | .readInputRegisters request => 0x04 :: word request.address ++ word request.count
  | .writeSingleCoil request =>
      0x05 :: word request.address ++ word (if request.value then coilOn else coilOff)
  | .writeSingleRegister request => 0x06 :: word request.address ++ word request.value
  | .writeMultipleCoils request =>
      0x0F :: word request.address ++ word request.values.length ++
        UInt8.ofNat ((request.values.length + 7) / 8) :: BitString.pack request.values
  | .writeMultipleRegisters request =>
      0x10 :: word request.address ++ word request.values.length ++
        UInt8.ofNat (2 * request.values.length) :: words request.values
  | .maskWriteRegister request =>
      0x16 :: word request.address ++ word request.andMask ++ word request.orMask
  | .readWriteMultipleRegisters request =>
      0x17 :: word request.readAddress ++ word request.readCount ++ word request.writeAddress ++
        word request.values.length ++ UInt8.ofNat (2 * request.values.length) ::
          words request.values
  | .readDeviceIdentification request =>
      [0x2B, 0x0E, UInt8.ofNat request.readCode.toNat, UInt8.ofNat request.objectId.toNat]

theorem ReadRequest.encode_eq {functionCode maxCount : Int}
    (request : ReadRequest functionCode maxCount) (hcode : 0 ≤ functionCode ∧ functionCode < 256)
    (hmax : maxCount < 65536) :
    request.encode =
      .ok (UInt8.ofNat functionCode.toNat :: word request.address ++ word request.count) := by
  obtain ⟨address, count, haddress, hcount⟩ := request
  rw [ReadRequest.encode, pack_eq_ok]
  · rfl
  · simp only [List.forall_mem_cons]
    exact ⟨hcode, fits_u16 haddress, fits_count hmax hcount, fun _ h => absurd h List.not_mem_nil⟩

theorem WriteSingleRegisterRequest.encode_eq (request : WriteSingleRegisterRequest) :
    request.encode = .ok (0x06 :: word request.address ++ word request.value) := by
  obtain ⟨address, value, haddress, hvalue⟩ := request
  rw [WriteSingleRegisterRequest.encode, pack_eq_ok]
  · rfl
  · simp only [List.forall_mem_cons]
    exact ⟨by decide, fits_u16 haddress, fits_u16 hvalue, fun _ h => absurd h List.not_mem_nil⟩

theorem WriteSingleCoilRequest.encode_eq (request : WriteSingleCoilRequest) :
    request.encode =
      .ok (0x05 :: word request.address ++ word (if request.value then coilOn else coilOff)) := by
  obtain ⟨address, value, haddress⟩ := request
  rw [WriteSingleCoilRequest.encode, pack_eq_ok]
  · rfl
  · simp only [List.forall_mem_cons]
    exact ⟨by decide, fits_u16 haddress, fits_coilValue value,
      fun _ h => absurd h List.not_mem_nil⟩

theorem WriteMultipleRegistersRequest.encode_eq (request : WriteMultipleRegistersRequest) :
    request.encode =
      .ok (0x10 :: word request.address ++ word request.values.length ++
        UInt8.ofNat (2 * request.values.length) :: words request.values) := by
  obtain ⟨address, values, haddress, hcount, hvalues⟩ := request
  have hlength : ((values.length : Int) * 2).toNat = 2 * values.length := by omega
  rw [WriteMultipleRegistersRequest.encode, pack_eq_ok]
  · rw [List.flatMap_append, flatMap_u16]
    simp [Field.bytes, word, hlength]
  · simp only [List.cons_append, List.nil_append, List.forall_mem_cons]
    exact ⟨by decide, fits_u16 haddress, fits_count (by decide) hcount,
      fits_byteCount (by decide) hcount, fits_map_u16 hvalues⟩

theorem WriteMultipleCoilsRequest.encode_eq (request : WriteMultipleCoilsRequest) :
    request.encode =
      .ok (0x0F :: word request.address ++ word request.values.length ++
        UInt8.ofNat ((request.values.length + 7) / 8) :: BitString.pack request.values) := by
  obtain ⟨address, values, haddress, hcount⟩ := request
  rw [WriteMultipleCoilsRequest.encode, packBits_eq, Except.ok_bind, pack_eq_ok, Except.ok_bind]
  · simp [Field.bytes, word]
    rfl
  · simp only [List.forall_mem_cons, BitString.length_pack]
    have hmax : maxWriteBits = 1968 := rfl
    have hlast := hcount.2
    exact ⟨by decide, fits_u16 haddress, fits_count (by decide) hcount,
      ⟨by omega, by omega⟩, fun _ h => absurd h List.not_mem_nil⟩

theorem MaskWriteRegisterRequest.encode_eq (request : MaskWriteRegisterRequest) :
    request.encode =
      .ok (0x16 :: word request.address ++ word request.andMask ++ word request.orMask) := by
  obtain ⟨address, andMask, orMask, haddress, hand, hor⟩ := request
  rw [MaskWriteRegisterRequest.encode, pack_eq_ok]
  · rfl
  · simp only [List.forall_mem_cons]
    exact ⟨by decide, fits_u16 haddress, fits_u16 hand, fits_u16 hor,
      fun _ h => absurd h List.not_mem_nil⟩

theorem ReadWriteMultipleRegistersRequest.encode_eq (request : ReadWriteMultipleRegistersRequest) :
    request.encode =
      .ok (0x17 :: word request.readAddress ++ word request.readCount ++
        word request.writeAddress ++ word request.values.length ++
          UInt8.ofNat (2 * request.values.length) :: words request.values) := by
  obtain ⟨readAddress, readCount, writeAddress, values, hread, hreadCount, hwrite, hcount,
    hvalues⟩ := request
  have hlength : ((values.length : Int) * 2).toNat = 2 * values.length := by omega
  rw [ReadWriteMultipleRegistersRequest.encode, pack_eq_ok]
  · rw [List.flatMap_append, flatMap_u16]
    simp [Field.bytes, word, hlength]
  · simp only [List.cons_append, List.nil_append, List.forall_mem_cons]
    exact ⟨by decide, fits_u16 hread, fits_count (by decide) hreadCount, fits_u16 hwrite,
      fits_count (by decide) hcount, fits_byteCount (by decide) hcount, fits_map_u16 hvalues⟩

theorem ReadDeviceIdentificationRequest.encode_eq (request : ReadDeviceIdentificationRequest) :
    request.encode =
      .ok [0x2B, 0x0E, UInt8.ofNat request.readCode.toNat,
        UInt8.ofNat request.objectId.toNat] := by
  obtain ⟨readCode, objectId, meiType, rfl, hcode, hid⟩ := request
  rw [ReadDeviceIdentificationRequest.encode, bytesOf_eq_ok]
  · rfl
  · simp only [List.forall_mem_cons]
    refine ⟨by decide, by decide, by omega, by omega, fun _ h => absurd h List.not_mem_nil⟩

theorem BuiltinRequest.encode_eq (request : BuiltinRequest) :
    request.encode = .ok request.wire := by
  cases request with
  | readCoils request => exact request.encode_eq (by decide) (by decide)
  | readDiscreteInputs request => exact request.encode_eq (by decide) (by decide)
  | readHoldingRegisters request => exact request.encode_eq (by decide) (by decide)
  | readInputRegisters request => exact request.encode_eq (by decide) (by decide)
  | writeSingleCoil request => exact request.encode_eq
  | writeSingleRegister request => exact request.encode_eq
  | writeMultipleCoils request => exact request.encode_eq
  | writeMultipleRegisters request => exact request.encode_eq
  | maskWriteRegister request => exact request.encode_eq
  | readWriteMultipleRegisters request => exact request.encode_eq
  | readDeviceIdentification request => exact request.encode_eq

/-- The limits of the constructors keep a request within the 253 bytes a frame has for a PDU. -/
theorem BuiltinRequest.length_wire (request : BuiltinRequest) :
    2 ≤ request.wire.length ∧ request.wire.length ≤ 253 := by
  have hbits : maxWriteBits = 1968 := rfl
  have hregisters : maxWriteRegisters = 123 := rfl
  have hboth : maxReadWriteRegistersWrite = 121 := rfl
  cases request with
  | writeMultipleCoils request =>
      have hlast := request.count_valid.2
      simp only [wire, List.length_cons, List.length_append, length_word, BitString.length_pack]
      omega
  | writeMultipleRegisters request =>
      have hlast := request.count_valid.2
      simp only [wire, List.length_cons, List.length_append, length_word, length_words]
      omega
  | readWriteMultipleRegisters request =>
      have hlast := request.count_valid.2
      simp only [wire, List.length_cons, List.length_append, length_word, length_words]
      omega
  | _ => exact ⟨Nat.le_of_ble_eq_true rfl, Nat.le_of_ble_eq_true rfl⟩

end ClearModbus
