import ClearModbus.Proof.RequestCodec

/-!
# The response codec

`Answers request response` holds of the responses that belong to a request: the class of its
function with fields in wire range, or an exception response with its function code. These are the
responses the server produces, and for them encoding never raises and decoding in the context of the
request undoes encoding.
-/

namespace ClearModbus

inductive Answers : BuiltinRequest → ResponsePDU → Prop where
  | readCoils (request : ReadCoilsRequest) (values : List Bool)
      (hcount : (values.length : Int) = request.count) :
      Answers (.readCoils request) (.readBits ⟨0x01, values⟩)
  | readDiscreteInputs (request : ReadDiscreteInputsRequest) (values : List Bool)
      (hcount : (values.length : Int) = request.count) :
      Answers (.readDiscreteInputs request) (.readBits ⟨0x02, values⟩)
  | readHoldingRegisters (request : ReadHoldingRegistersRequest) (values : List Int)
      (hcount : (values.length : Int) = request.count)
      (hvalues : ∀ value ∈ values, IsRegisterValue value) :
      Answers (.readHoldingRegisters request) (.readRegisters ⟨0x03, values⟩)
  | readInputRegisters (request : ReadInputRegistersRequest) (values : List Int)
      (hcount : (values.length : Int) = request.count)
      (hvalues : ∀ value ∈ values, IsRegisterValue value) :
      Answers (.readInputRegisters request) (.readRegisters ⟨0x04, values⟩)
  | writeSingleCoil (request : WriteSingleCoilRequest) (address : Int) (value : Bool)
      (haddress : IsRegisterValue address) :
      Answers (.writeSingleCoil request) (.writeSingleCoil ⟨0x05, address, value⟩)
  | writeSingleRegister (request : WriteSingleRegisterRequest) (address value : Int)
      (haddress : IsRegisterValue address) (hvalue : IsRegisterValue value) :
      Answers (.writeSingleRegister request) (.writeSingleRegister ⟨0x06, address, value⟩)
  | writeMultipleCoils (request : WriteMultipleCoilsRequest) (address count : Int)
      (haddress : IsRegisterValue address) (hcount : IsRegisterValue count) :
      Answers (.writeMultipleCoils request) (.writeMultipleCoils ⟨0x0F, address, count⟩)
  | writeMultipleRegisters (request : WriteMultipleRegistersRequest) (address count : Int)
      (haddress : IsRegisterValue address) (hcount : IsRegisterValue count) :
      Answers (.writeMultipleRegisters request) (.writeMultipleRegisters ⟨0x10, address, count⟩)
  | maskWriteRegister (request : MaskWriteRegisterRequest) (address andMask orMask : Int)
      (haddress : IsRegisterValue address) (hand : IsRegisterValue andMask)
      (hor : IsRegisterValue orMask) :
      Answers (.maskWriteRegister request) (.maskWriteRegister ⟨0x16, address, andMask, orMask⟩)
  | readWriteMultipleRegisters (request : ReadWriteMultipleRegistersRequest) (values : List Int)
      (hcount : (values.length : Int) = request.readCount)
      (hvalues : ∀ value ∈ values, IsRegisterValue value) :
      Answers (.readWriteMultipleRegisters request) (.readRegisters ⟨0x17, values⟩)
  | readDeviceIdentification (request : ReadDeviceIdentificationRequest)
      (response : ReadDeviceIdentificationResponse) (hcode : response.readCode = request.readCode) :
      Answers (.readDeviceIdentification request) (.readDeviceIdentification response)
  | exception (request : BuiltinRequest) (code : Int) (hcode : 0 ≤ code ∧ code < 256) :
      Answers request (.exception ⟨request.functionCode, code⟩)

def DeviceIdentificationObject.wire (item : DeviceIdentificationObject) : Bytes :=
  UInt8.ofNat item.objectId.toNat :: UInt8.ofNat item.value.length :: item.value

def objectsWire (items : List DeviceIdentificationObject) : Bytes :=
  items.flatMap DeviceIdentificationObject.wire

def byte (value : Int) : UInt8 := UInt8.ofNat value.toNat

def ResponsePDU.wire : ResponsePDU → Bytes
  | .readBits response =>
      byte response.functionCode :: UInt8.ofNat ((response.values.length + 7) / 8) ::
        BitString.pack response.values
  | .readRegisters response =>
      byte response.functionCode :: UInt8.ofNat (2 * response.values.length) ::
        words response.values
  | .writeSingleRegister response =>
      byte response.functionCode :: word response.address ++ word response.value
  | .writeSingleCoil response =>
      byte response.functionCode :: word response.address ++
        word (if response.value then coilOn else coilOff)
  | .writeMultipleRegisters response =>
      byte response.functionCode :: word response.address ++ word response.count
  | .writeMultipleCoils response =>
      byte response.functionCode :: word response.address ++ word response.count
  | .maskWriteRegister response =>
      byte response.functionCode :: word response.address ++ word response.andMask ++
        word response.orMask
  | .readDeviceIdentification response =>
      [0x2B, 0x0E, byte response.readCode, byte response.conformityLevel,
        if response.moreFollows then 0xFF else 0x00, byte response.nextObjectId,
        UInt8.ofNat response.objects.length] ++ objectsWire response.objects
  | .exception response =>
      [byte (Int.lor response.functionCode 0x80), byte response.exceptionCode]
  | .custom _ => []

theorem toNat_byte {value : Int} (h : 0 ≤ value ∧ value < 256) :
    ((byte value).toNat : Int) = value := by
  rw [byte, toNat_ofNat_of_lt (by omega)]
  omega

theorem byte_toNat (value : UInt8) : byte (value.toNat : Int) = value := by
  rw [byte, Int.toNat_natCast, UInt8.ofNat_toNat]

@[simp]
theorem objectsWire_nil : objectsWire [] = [] := rfl

@[simp]
theorem objectsWire_cons (item : DeviceIdentificationObject)
    (items : List DeviceIdentificationObject) :
    objectsWire (item :: items) = item.wire ++ objectsWire items := rfl

theorem DeviceIdentificationObject.length_wire (item : DeviceIdentificationObject) :
    item.wire.length = 2 + item.value.length := by
  simp only [wire, List.length_cons]
  omega

theorem ReadBitsResponse.encode_eq {functionCode : Int} {values : List Bool}
    (hcode : 0 ≤ functionCode ∧ functionCode < 256) (hcount : values.length ≤ 2000) :
    ReadBitsResponse.encode ⟨functionCode, values⟩ =
      .ok (ResponsePDU.wire (.readBits ⟨functionCode, values⟩)) := by
  have hbyteCount : (0 : Int) ≤ (BitString.pack values).length ∧
      ((BitString.pack values).length : Int) < 256 := by
    rw [BitString.length_pack]
    omega
  rw [ReadBitsResponse.encode, packBits_eq, Except.ok_bind, bytesOf_eq_ok]
  · simp [ResponsePDU.wire, byte]
    rfl
  · simp only [List.forall_mem_cons]
    exact ⟨hcode, hbyteCount, fun _ h => absurd h List.not_mem_nil⟩

theorem ReadRegistersResponse.encode_eq {functionCode : Int} {values : List Int}
    (hcode : 0 ≤ functionCode ∧ functionCode < 256) (hcount : values.length ≤ 125)
    (hvalues : ∀ value ∈ values, IsRegisterValue value) :
    ReadRegistersResponse.encode ⟨functionCode, values⟩ =
      .ok (ResponsePDU.wire (.readRegisters ⟨functionCode, values⟩)) := by
  have hlength : ((values.length : Int) * 2).toNat = 2 * values.length := by omega
  rw [ReadRegistersResponse.encode, pack_eq_ok]
  · rw [List.flatMap_append, flatMap_u16]
    simp [ResponsePDU.wire, Field.bytes, byte, hlength]
  · simp only [List.cons_append, List.nil_append, List.forall_mem_cons]
    exact ⟨hcode, ⟨by omega, by omega⟩, fits_map_u16 hvalues⟩

theorem encodeObjects_eq (items : List DeviceIdentificationObject) :
    encodeObjects items = .ok (objectsWire items) := by
  induction items with
  | nil => rfl
  | cons item items ih =>
      obtain ⟨objectId, value, hid, hvalue⟩ := item
      have hmax : maxDeviceIdentificationObjectLength = 244 := rfl
      rw [encodeObjects, bytesOf_eq_ok, Except.ok_bind, ih]
      · simp [DeviceIdentificationObject.wire]
      · simp only [List.forall_mem_cons]
        exact ⟨⟨hid.1, by have := hid.2; omega⟩, ⟨by omega, by omega⟩,
          fun _ h => absurd h List.not_mem_nil⟩

theorem BuiltinRequest.functionCode_mem (request : BuiltinRequest) :
    request.functionCode ∈
      ([0x01, 0x02, 0x03, 0x04, 0x05, 0x06, 0x0F, 0x10, 0x16, 0x17, 0x2B] : List Int) := by
  cases request <;> simp [functionCode]

theorem RequestPDU.functionCode_builtin (request : BuiltinRequest) :
    (RequestPDU.builtin request).functionCode = request.functionCode := rfl

theorem exceptionCode_facts (request : BuiltinRequest) :
    (0 ≤ Int.lor request.functionCode 0x80 ∧ Int.lor request.functionCode 0x80 < 256) ∧
      Int.land (Int.lor request.functionCode 0x80) 0x80 ≠ 0 ∧
      Int.land (Int.lor request.functionCode 0x80) 0x7F = request.functionCode := by
  have hall : ∀ code ∈
      ([0x01, 0x02, 0x03, 0x04, 0x05, 0x06, 0x0F, 0x10, 0x16, 0x17, 0x2B] : List Int),
      (0 ≤ Int.lor code 0x80 ∧ Int.lor code 0x80 < 256) ∧
        Int.land (Int.lor code 0x80) 0x80 ≠ 0 ∧ Int.land (Int.lor code 0x80) 0x7F = code := by
    decide
  exact hall _ request.functionCode_mem

theorem isByte_of_isConformityLevel {level : Int} (h : IsConformityLevel level) :
    0 ≤ level ∧ level < 256 := by
  unfold IsConformityLevel at h
  omega

theorem ReadDeviceIdentificationResponse.encode_eq (response : ReadDeviceIdentificationResponse) :
    response.encode = .ok (ResponsePDU.wire (.readDeviceIdentification response)) := by
  obtain ⟨readCode, level, objects, moreFollows, nextObjectId, meiType, rfl, hcode, hlevel, hnext,
    hobjects⟩ := response
  have hlevelByte := isByte_of_isConformityLevel hlevel
  have hmore : (0 : Int) ≤ (if moreFollows then 0xFF else 0x00) ∧
      (if moreFollows then 0xFF else 0x00 : Int) < 256 := by
    cases moreFollows <;> decide
  rw [ReadDeviceIdentificationResponse.encode, bytesOf_eq_ok, Except.ok_bind, encodeObjects_eq]
  · cases moreFollows <;> simp [ResponsePDU.wire, byte] <;> rfl
  · simp only [List.forall_mem_cons]
    exact ⟨by decide, by decide, by omega, hlevelByte, hmore, ⟨hnext.1, by have := hnext.2; omega⟩,
      ⟨by omega, by omega⟩, fun _ h => absurd h List.not_mem_nil⟩

theorem Answers.encode_eq {request : BuiltinRequest} {response : ResponsePDU}
    (h : Answers request response) : response.encode = .ok response.wire := by
  cases h with
  | readCoils request values hcount =>
      have hmax : maxReadBits = 2000 := rfl
      have hlast := request.count_valid.2
      exact ReadBitsResponse.encode_eq (by decide) (by omega)
  | readDiscreteInputs request values hcount =>
      have hmax : maxReadBits = 2000 := rfl
      have hlast := request.count_valid.2
      exact ReadBitsResponse.encode_eq (by decide) (by omega)
  | readHoldingRegisters request values hcount hvalues =>
      have hmax : maxReadRegisters = 125 := rfl
      have hlast := request.count_valid.2
      exact ReadRegistersResponse.encode_eq (by decide) (by omega) hvalues
  | readInputRegisters request values hcount hvalues =>
      have hmax : maxReadRegisters = 125 := rfl
      have hlast := request.count_valid.2
      exact ReadRegistersResponse.encode_eq (by decide) (by omega) hvalues
  | readWriteMultipleRegisters request values hcount hvalues =>
      have hmax : maxReadRegisters = 125 := rfl
      have hlast := request.readCount_valid.2
      exact ReadRegistersResponse.encode_eq (by decide) (by omega) hvalues
  | writeSingleCoil request address value haddress =>
      apply pack_eq_ok
      simp only [List.forall_mem_cons]
      exact ⟨by decide, fits_u16 haddress, fits_coilValue value,
        fun _ h => absurd h List.not_mem_nil⟩
  | writeSingleRegister request address value haddress hvalue =>
      apply pack_eq_ok
      simp only [List.forall_mem_cons]
      exact ⟨by decide, fits_u16 haddress, fits_u16 hvalue, fun _ h => absurd h List.not_mem_nil⟩
  | writeMultipleCoils request address count haddress hcount =>
      apply pack_eq_ok
      simp only [List.forall_mem_cons]
      exact ⟨by decide, fits_u16 haddress, fits_u16 hcount, fun _ h => absurd h List.not_mem_nil⟩
  | writeMultipleRegisters request address count haddress hcount =>
      apply pack_eq_ok
      simp only [List.forall_mem_cons]
      exact ⟨by decide, fits_u16 haddress, fits_u16 hcount, fun _ h => absurd h List.not_mem_nil⟩
  | maskWriteRegister request address andMask orMask haddress hand hor =>
      apply pack_eq_ok
      simp only [List.forall_mem_cons]
      exact ⟨by decide, fits_u16 haddress, fits_u16 hand, fits_u16 hor,
        fun _ h => absurd h List.not_mem_nil⟩
  | readDeviceIdentification request response hcode => exact response.encode_eq
  | exception request code hcode =>
      apply bytesOf_eq_ok
      simp only [List.forall_mem_cons]
      exact ⟨(exceptionCode_facts request).1, hcode, fun _ h => absurd h List.not_mem_nil⟩

theorem Answers.wire_ne_nil {request : BuiltinRequest} {response : ResponsePDU}
    (h : Answers request response) : response.wire ≠ [] := by
  cases h <;> exact List.cons_ne_nil _ _

theorem ReadBitsResponse.decode_wire {functionCode count : Int} {values : List Bool}
    (hcount : (values.length : Int) = count) (hmax : count ≤ 2000) :
    ReadBitsResponse.decode functionCode
        (UInt8.ofNat ((values.length + 7) / 8) :: BitString.pack values) count =
      .ok ⟨functionCode, values⟩ := by
  subst hcount
  rw [ReadBitsResponse.decode, toNat_ofNat_of_lt (by omega),
    if_neg (by rw [BitString.length_pack]; exact not_not.mpr rfl), if_neg (by omega),
    unpackBits_pack]
  rfl

theorem ReadRegistersResponse.decode_wire {functionCode count : Int} {values : List Int}
    (hcount : (values.length : Int) = count) (hmax : count ≤ 125)
    (hvalues : ∀ value ∈ values, IsRegisterValue value) :
    ReadRegistersResponse.decode functionCode
        (UInt8.ofNat (2 * values.length) :: words values) = .ok ⟨functionCode, values⟩ := by
  rw [ReadRegistersResponse.decode, toNat_ofNat_of_lt (by omega),
    if_neg (by rw [length_words]; exact not_not.mpr rfl), if_neg (by omega),
    unpackWords_eq_ok_iff.mpr ⟨by omega, rfl, hvalues⟩]
  rfl

theorem WriteMultipleResponse.decode_words {functionCode address count : Int}
    (haddress : IsRegisterValue address) (hcount : IsRegisterValue count) :
    WriteMultipleResponse.decode functionCode (word address ++ word count) =
      .ok ⟨functionCode, address, count⟩ := by
  rw [WriteMultipleResponse.decode, if_neg (by simp), unpackHH_words haddress hcount]
  rfl

theorem WriteSingleRegisterResponse.decode_words {address value : Int}
    (haddress : IsRegisterValue address) (hvalue : IsRegisterValue value) :
    WriteSingleRegisterResponse.decode (word address ++ word value) =
      .ok ⟨0x06, address, value⟩ := by
  rw [WriteSingleRegisterResponse.decode, if_neg (by simp), unpackHH_words haddress hvalue]
  rfl

theorem WriteSingleCoilResponse.decode_words {address : Int} (value : Bool)
    (haddress : IsRegisterValue address) :
    WriteSingleCoilResponse.decode (word address ++ word (if value then coilOn else coilOff)) =
      .ok ⟨0x05, address, value⟩ := by
  rw [WriteSingleCoilResponse.decode, if_neg (by simp),
    unpackHH_words haddress (isRegisterValue_coilValue value)]
  cases value <;> rfl

theorem MaskWriteRegisterResponse.decode_words {address andMask orMask : Int}
    (haddress : IsRegisterValue address) (hand : IsRegisterValue andMask)
    (hor : IsRegisterValue orMask) :
    MaskWriteRegisterResponse.decode (word address ++ word andMask ++ word orMask) =
      .ok ⟨0x16, address, andMask, orMask⟩ := by
  rw [MaskWriteRegisterResponse.decode, if_neg (by simp), unpackHHH_words haddress hand hor]
  rfl

theorem DeviceIdentificationObject.postInit_self (item : DeviceIdentificationObject) :
    DeviceIdentificationObject.postInit item.objectId item.value = .ok item := by
  rw [postInit, validateDeviceIdentificationObjectId, validateDeviceIdentificationObjectValue,
    check_pos _ item.objectId_valid, check_pos _ item.value_valid]
  rfl

theorem decodeObjects_chunk (front rest : Bytes) (objectId length : UInt8) {value : Bytes}
    (hvalue : value.length = length.toNat) (count : Nat) :
    decodeObjects (front ++ (objectId :: length :: value ++ rest)) (count + 1) front.length =
      (DeviceIdentificationObject.postInit objectId.toNat value >>= fun item =>
        (fun result => (item :: result.1, result.2)) <$>
          decodeObjects (front ++ (objectId :: length :: value ++ rest)) count
            (front ++ objectId :: length :: value).length) := by
  have hstop : (front ++ objectId :: length :: value).length =
      front.length + 2 + length.toNat := by
    rw [List.length_append, List.length_cons, List.length_cons, hvalue]
    omega
  generalize hpayload : front ++ (objectId :: length :: value ++ rest) = payload
  have hobject : getItem payload (front.length : Int) = .ok objectId := by
    rw [← hpayload]
    exact getItem_append_cons front _ _
  have hlength : getItem payload ((front.length + 1 : Nat) : Int) = .ok length := by
    have hget := getItem_append_cons (front ++ [objectId]) length (value ++ rest)
    rw [← hpayload]
    simpa using hget
  have hslice : slice payload ((front.length + 2 : Nat) : Int)
      ((front.length + 2 + length.toNat : Nat) : Int) = value := by
    have hget := slice_append (front ++ [objectId, length]) value rest
    have hlast : (front ++ [objectId, length] ++ value).length =
        front.length + 2 + length.toNat := by
      simp only [List.length_append, List.length_cons, List.length_nil, hvalue]
    rw [hlast] at hget
    rw [← hpayload]
    simpa using hget
  have hsize : payload.length = front.length + 2 + length.toNat + rest.length := by
    rw [← hpayload]
    simp only [List.length_append, List.length_cons, hvalue]
    omega
  rw [hstop, decodeObjects, if_neg (by omega), hobject, Except.ok_bind, hlength, Except.ok_bind]
  dsimp only
  rw [if_neg (by omega), hslice]
  rfl

/-- The loop reads back the objects behind `front`. -/
theorem decodeObjects_append (front rest : Bytes) (items : List DeviceIdentificationObject) :
    decodeObjects (front ++ (objectsWire items ++ rest)) items.length front.length =
      .ok (items, (front ++ objectsWire items).length) := by
  induction items generalizing front with
  | nil =>
      rw [objectsWire_nil, List.append_nil]
      rfl
  | cons item items ih =>
      have hmax : maxDeviceIdentificationObjectLength = 244 := rfl
      have hvalue := item.value_valid
      have hlength : item.value.length = (UInt8.ofNat item.value.length).toNat :=
        (toNat_ofNat_of_lt (by omega)).symm
      have hid : ((UInt8.ofNat item.objectId.toNat).toNat : Int) = item.objectId :=
        toNat_byte ⟨item.objectId_valid.1, by have := item.objectId_valid.2; omega⟩
      have hturn := decodeObjects_chunk front (objectsWire items ++ rest)
        (UInt8.ofNat item.objectId.toNat) (UInt8.ofNat item.value.length) hlength items.length
      have htail := ih (front ++ item.wire)
      rw [List.append_assoc, List.append_assoc] at htail
      rw [hid, item.postInit_self, Except.ok_bind] at hturn
      rw [objectsWire_cons, List.append_assoc, List.length_cons]
      exact hturn.trans (congrArg _ htail)

theorem ReadDeviceIdentificationResponse.postInit_self
    (response : ReadDeviceIdentificationResponse) :
    ReadDeviceIdentificationResponse.postInit response.readCode response.conformityLevel
        response.objects response.moreFollows response.nextObjectId response.meiType =
      .ok response := by
  rw [postInit, validateMeiType, validateReadCode, validateDeviceIdentificationObjectId,
    check_pos _ response.meiType_valid, check_pos _ response.readCode_valid,
    check_pos _ response.conformityLevel_valid, check_pos _ response.nextObjectId_valid,
    check_pos _ response.objects_valid]
  rfl

theorem ReadDeviceIdentificationResponse.decode_wire (response : ReadDeviceIdentificationResponse) :
    ReadDeviceIdentificationResponse.decode
        (ResponsePDU.wire (.readDeviceIdentification response)).tail = .ok response := by
  have hcode := response.readCode_valid
  have hlevel := isByte_of_isConformityLevel response.conformityLevel_valid
  have hnext := response.nextObjectId_valid
  have hobjects := response.objects_valid
  have hinit := response.postInit_self
  have hmei := response.meiType_valid
  have hloop := decodeObjects_append [0x0E, byte response.readCode, byte response.conformityLevel,
    if response.moreFollows then 0xFF else 0x00, byte response.nextObjectId,
    UInt8.ofNat response.objects.length] [] response.objects
  rw [List.append_nil] at hloop
  have hflag : ¬((if response.moreFollows then (0xFF : UInt8) else 0x00) ≠ 0x00 ∧
      (if response.moreFollows then (0xFF : UInt8) else 0x00) ≠ 0xFF) := by
    cases response.moreFollows <;> decide
  have hflagValue : decide ((if response.moreFollows then (0xFF : UInt8) else 0x00) = 0xFF) =
      response.moreFollows := by
    cases response.moreFollows <;> decide
  have hcount : (UInt8.ofNat response.objects.length).toNat = response.objects.length :=
    toNat_ofNat_of_lt (by omega)
  simp only [ResponsePDU.wire, List.cons_append, List.nil_append, List.tail_cons]
  simp only [List.cons_append, List.nil_append, List.length_cons, List.length_nil] at hloop
  rw [decode, if_neg (by decide), if_neg hflag, hcount, hloop, Except.ok_bind]
  dsimp only
  rw [if_neg (by simp), hflagValue, toNat_byte (by omega), toNat_byte hlevel,
    toNat_byte ⟨hnext.1, by have := hnext.2; omega⟩]
  rw [hmei] at hinit
  exact hinit

/-- The function code of the request selects the decoder. -/
theorem decodeResponsePdu_cons {registry : CustomFunctionCodeRegistry} {head : UInt8}
    {payload : Bytes} {request : BuiltinRequest} (h : (head.toNat : Int) = request.functionCode) :
    decodeResponsePdu registry (head :: payload) (.builtin request) =
      decodeNormalResponse registry request.functionCode payload (.builtin request) := by
  have hall : ∀ code ∈
      ([0x01, 0x02, 0x03, 0x04, 0x05, 0x06, 0x0F, 0x10, 0x16, 0x17, 0x2B] : List Int),
      ¬Int.land code 0x80 ≠ 0 := by decide
  simp only [decodeResponsePdu]
  rw [h, if_neg (hall _ request.functionCode_mem), RequestPDU.functionCode_builtin,
    if_neg (not_not.mpr rfl)]

/-- In the context of its request, a response is decoded from its layout, whatever custom decoders
are registered. -/
theorem Answers.decode_wire {request : BuiltinRequest} {response : ResponsePDU}
    (h : Answers request response) (registry : CustomFunctionCodeRegistry) :
    decodeResponsePdu registry response.wire (.builtin request) = .ok response := by
  cases h with
  | readCoils request values hcount =>
      exact (decodeResponsePdu_cons rfl).trans <| congrArg (ResponsePDU.readBits <$> ·)
        (ReadBitsResponse.decode_wire hcount request.count_valid.2)
  | readDiscreteInputs request values hcount =>
      exact (decodeResponsePdu_cons rfl).trans <| congrArg (ResponsePDU.readBits <$> ·)
        (ReadBitsResponse.decode_wire hcount request.count_valid.2)
  | readHoldingRegisters request values hcount hvalues =>
      exact (decodeResponsePdu_cons rfl).trans <| congrArg (ResponsePDU.readRegisters <$> ·)
        (ReadRegistersResponse.decode_wire hcount request.count_valid.2 hvalues)
  | readInputRegisters request values hcount hvalues =>
      exact (decodeResponsePdu_cons rfl).trans <| congrArg (ResponsePDU.readRegisters <$> ·)
        (ReadRegistersResponse.decode_wire hcount request.count_valid.2 hvalues)
  | readWriteMultipleRegisters request values hcount hvalues =>
      apply (decodeResponsePdu_cons rfl).trans
      change decodeReadWriteMultipleRegistersResponse 0x17
        (UInt8.ofNat (2 * values.length) :: words values)
        (.builtin (.readWriteMultipleRegisters request)) = _
      rw [decodeReadWriteMultipleRegistersResponse,
        ReadRegistersResponse.decode_wire hcount request.readCount_valid.2 hvalues, Except.ok_bind]
      dsimp only
      rw [if_neg (not_not.mpr hcount)]
      rfl
  | writeSingleCoil request address value haddress =>
      exact (decodeResponsePdu_cons rfl).trans <| congrArg (ResponsePDU.writeSingleCoil <$> ·)
        (WriteSingleCoilResponse.decode_words value haddress)
  | writeSingleRegister request address value haddress hvalue =>
      exact (decodeResponsePdu_cons rfl).trans <| congrArg (ResponsePDU.writeSingleRegister <$> ·)
        (WriteSingleRegisterResponse.decode_words haddress hvalue)
  | writeMultipleCoils request address count haddress hcount =>
      exact (decodeResponsePdu_cons rfl).trans <| congrArg (ResponsePDU.writeMultipleCoils <$> ·)
        (WriteMultipleResponse.decode_words haddress hcount)
  | writeMultipleRegisters request address count haddress hcount =>
      exact (decodeResponsePdu_cons rfl).trans <|
        congrArg (ResponsePDU.writeMultipleRegisters <$> ·)
        (WriteMultipleResponse.decode_words haddress hcount)
  | maskWriteRegister request address andMask orMask haddress hand hor =>
      exact (decodeResponsePdu_cons rfl).trans <| congrArg (ResponsePDU.maskWriteRegister <$> ·)
        (MaskWriteRegisterResponse.decode_words haddress hand hor)
  | readDeviceIdentification request response hcode =>
      apply (decodeResponsePdu_cons rfl).trans
      change decodeEncapsulatedResponse registry 0x2B
        (ResponsePDU.wire (.readDeviceIdentification response)).tail
        (.builtin (.readDeviceIdentification request)) = _
      rw [decodeEncapsulatedResponse, response.decode_wire, Except.ok_bind,
        if_neg (not_not.mpr hcode)]
      rfl
  | exception request code hcode =>
      obtain ⟨hbyte, hbit, hlow⟩ := exceptionCode_facts request
      simp only [ResponsePDU.wire, decodeResponsePdu]
      rw [toNat_byte hbyte, if_pos hbit, hlow, RequestPDU.functionCode_builtin,
        if_neg (not_not.mpr rfl), ExceptionResponse.decode, hlow, toNat_byte hcode]
      rfl

end ClearModbus
