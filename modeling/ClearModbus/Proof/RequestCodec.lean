import ClearModbus.Proof.Constructors

/-!
# The request codec

`BuiltinRequest.DecodesFrom` is the language `decode_request_pdu` accepts for each request. Every
branch of the decoder accepts exactly its part of it: from right to left this is the round trip,
from left to right it says how far the accepted data is determined by the request.
-/

namespace ClearModbus

/-- The data a request is decoded from: its layout, except that the coil bytes may be more than the
count needs and that bits past the count are ignored. -/
def BuiltinRequest.DecodesFrom : BuiltinRequest → Bytes → Prop
  | .writeMultipleCoils request, data =>
      ∃ bitBytes : Bytes, bitBytes.length < 256 ∧
        (request.values.length + 7) / 8 ≤ bitBytes.length ∧
        request.values = (BitString.unpack bitBytes).take request.values.length ∧
        data = 0x0F :: word request.address ++ word request.values.length ++
          UInt8.ofNat bitBytes.length :: bitBytes
  | request, data => data = request.wire

theorem isRegisterValue_count {maxCount count : Int} (hmax : maxCount ≤ 65535)
    (h : IsCount maxCount count) : IsRegisterValue count := by
  obtain ⟨hlow, hhigh⟩ := h
  exact ⟨by omega, by change count ≤ 65535; omega⟩

theorem toNat_ofNat_of_lt {count : Nat} (h : count < 256) : (UInt8.ofNat count).toNat = count := by
  rw [UInt8.toNat_ofNat']
  exact Nat.mod_eq_of_lt h

theorem readBranch_eq_ok_iff {functionCode maxCount : Int} {payload : Bytes}
    {request : BuiltinRequest} {error : PyError}
    (wrap : ReadRequest functionCode maxCount → BuiltinRequest) (hmax : maxCount ≤ 65535) :
    (if payload.length ≠ 4 then .error error
      else do
        let (address, count) ← unpackHH payload
        wrap <$> ReadRequest.postInit functionCode maxCount address count) = .ok request ↔
      ∃ inner : ReadRequest functionCode maxCount, wrap inner = request ∧
        payload = word inner.address ++ word inner.count := by
  constructor
  · intro h
    split at h
    · cases h
    · rename_i hlength
      obtain ⟨address, count, haddress, hcount, rfl⟩ :=
        exists_words_of_length_eq_four (not_not.mp hlength)
      rw [unpackHH_words haddress hcount, Except.ok_bind] at h
      obtain ⟨inner, hinner, hwrap⟩ := Except.map_eq_ok_iff.mp h
      obtain ⟨rfl, rfl⟩ := ReadRequest.postInit_eq_ok_iff.mp hinner
      exact ⟨inner, hwrap, rfl⟩
  · rintro ⟨inner, rfl, rfl⟩
    have hcount := isRegisterValue_count hmax inner.count_valid
    rw [if_neg (by simp), unpackHH_words inner.address_valid hcount, Except.ok_bind]
    dsimp only
    rw [ReadRequest.postInit_eq_ok_iff.mpr ⟨rfl, rfl⟩]
    rfl

theorem isRegisterValue_coilValue (value : Bool) :
    IsRegisterValue (if value then coilOn else coilOff) := by
  cases value <;> decide

theorem decodeWriteSingleCoilRequest_eq_ok_iff {payload : Bytes}
    {request : WriteSingleCoilRequest} :
    decodeWriteSingleCoilRequest payload = .ok request ↔
      payload = word request.address ++ word (if request.value then coilOn else coilOff) := by
  unfold decodeWriteSingleCoilRequest
  constructor
  · intro h
    split at h
    · cases h
    · rename_i hlength
      obtain ⟨address, encodedValue, haddress, hvalue, rfl⟩ :=
        exists_words_of_length_eq_four (not_not.mp hlength)
      rw [unpackHH_words haddress hvalue, Except.ok_bind] at h
      dsimp only at h
      split at h
      · obtain ⟨rfl, hon⟩ := WriteSingleCoilRequest.postInit_eq_ok_iff.mp h
        rw [← PyObject.bool.inj hon, ‹encodedValue = coilOn›]
        rfl
      · split at h
        · obtain ⟨rfl, hoff⟩ := WriteSingleCoilRequest.postInit_eq_ok_iff.mp h
          rw [← PyObject.bool.inj hoff, ‹encodedValue = coilOff›]
          rfl
        · cases h
  · rintro rfl
    rw [if_neg (by simp), unpackHH_words request.address_valid (isRegisterValue_coilValue _),
      Except.ok_bind]
    dsimp only
    cases hvalue : request.value with
    | true => exact WriteSingleCoilRequest.postInit_eq_ok_iff.mpr ⟨rfl, by rw [hvalue]⟩
    | false => exact WriteSingleCoilRequest.postInit_eq_ok_iff.mpr ⟨rfl, by rw [hvalue]⟩

theorem decodeWriteSingleRegisterRequest_eq_ok_iff {payload : Bytes}
    {request : WriteSingleRegisterRequest} :
    decodeWriteSingleRegisterRequest payload = .ok request ↔
      payload = word request.address ++ word request.value := by
  unfold decodeWriteSingleRegisterRequest
  constructor
  · intro h
    split at h
    · cases h
    · rename_i hlength
      obtain ⟨address, value, haddress, hvalue, rfl⟩ :=
        exists_words_of_length_eq_four (not_not.mp hlength)
      rw [unpackHH_words haddress hvalue, Except.ok_bind] at h
      obtain ⟨rfl, rfl⟩ := WriteSingleRegisterRequest.postInit_eq_ok_iff.mp h
      rfl
  · rintro rfl
    rw [if_neg (by simp), unpackHH_words request.address_valid request.value_valid, Except.ok_bind]
    exact WriteSingleRegisterRequest.postInit_eq_ok_iff.mpr ⟨rfl, rfl⟩

theorem decodeMaskWriteRegisterRequest_eq_ok_iff {payload : Bytes}
    {request : MaskWriteRegisterRequest} :
    decodeMaskWriteRegisterRequest payload = .ok request ↔
      payload = word request.address ++ word request.andMask ++ word request.orMask := by
  unfold decodeMaskWriteRegisterRequest
  constructor
  · intro h
    split at h
    · cases h
    · rename_i hlength
      obtain ⟨address, andMask, orMask, haddress, hand, hor, rfl⟩ :=
        exists_words_of_length_eq_six (not_not.mp hlength)
      rw [unpackHHH_words haddress hand hor, Except.ok_bind] at h
      obtain ⟨rfl, rfl, rfl⟩ := MaskWriteRegisterRequest.postInit_eq_ok_iff.mp h
      rfl
  · rintro rfl
    rw [if_neg (by simp), unpackHHH_words request.address_valid request.andMask_valid
      request.orMask_valid, Except.ok_bind]
    exact MaskWriteRegisterRequest.postInit_eq_ok_iff.mpr ⟨rfl, rfl, rfl⟩

theorem exists_head_of_five_le_length {payload : Bytes} (h : 5 ≤ payload.length) :
    ∃ first second byteCount rest, IsRegisterValue first ∧ IsRegisterValue second ∧
      payload = word first ++ word second ++ byteCount :: rest := by
  obtain ⟨first, second, rest, hfirst, hsecond, rfl⟩ :=
    exists_words_of_four_le_length (Nat.le_of_lt h)
  match rest, h with
  | [], h => simp at h
  | byteCount :: rest, _ => exact ⟨first, second, byteCount, rest, hfirst, hsecond, rfl⟩

theorem exists_head_of_nine_le_length {payload : Bytes} (h : 9 ≤ payload.length) :
    ∃ first second third fourth byteCount rest, IsRegisterValue first ∧ IsRegisterValue second ∧
      IsRegisterValue third ∧ IsRegisterValue fourth ∧
      payload = word first ++ word second ++ word third ++ word fourth ++ byteCount :: rest := by
  obtain ⟨first, second, rest, hfirst, hsecond, rfl⟩ :=
    exists_words_of_four_le_length (Nat.le_trans (by decide : 4 ≤ 9) h)
  have hrest : 5 ≤ rest.length := by
    simp only [List.length_append, length_word] at h
    omega
  obtain ⟨third, fourth, byteCount, rest, hthird, hfourth, rfl⟩ :=
    exists_head_of_five_le_length hrest
  refine ⟨first, second, third, fourth, byteCount, rest, hfirst, hsecond, hthird, hfourth, ?_⟩
  simp only [List.append_assoc]

theorem decodeWriteMultipleCoilsRequest_layout {address count : Int} (byteCount : UInt8)
    (bitBytes : Bytes) (haddress : IsRegisterValue address) (hcount : IsRegisterValue count) :
    decodeWriteMultipleCoilsRequest (word address ++ word count ++ byteCount :: bitBytes) =
      if (byteCount.toNat : Int) ≠ bitBytes.length then
        .error (.valueError "coil byte count does not match payload length")
      else if (byteCount.toNat : Int) < (count + 7) / 8 then
        .error (.valueError "coil byte count is too short for requested count")
      else
        unpackBits bitBytes count >>= fun values =>
          WriteMultipleCoilsRequest.postInit address (values.map .bool) := by
  have hlength : ¬(word address ++ word count ++ byteCount :: bitBytes).length < 5 := by
    simp only [List.length_append, length_word, List.length_cons]
    omega
  rw [decodeWriteMultipleCoilsRequest, if_neg hlength, unpackFromHH_words haddress hcount]
  rfl

theorem decodeWriteMultipleCoilsRequest_eq_ok_iff {payload : Bytes}
    {request : WriteMultipleCoilsRequest} :
    decodeWriteMultipleCoilsRequest payload = .ok request ↔
      ∃ bitBytes : Bytes, bitBytes.length < 256 ∧
        (request.values.length + 7) / 8 ≤ bitBytes.length ∧
        request.values = (BitString.unpack bitBytes).take request.values.length ∧
        payload = word request.address ++ word request.values.length ++
          UInt8.ofNat bitBytes.length :: bitBytes := by
  constructor
  · intro h
    by_cases hshort : payload.length < 5
    · rw [decodeWriteMultipleCoilsRequest, if_pos hshort] at h
      cases h
    · obtain ⟨address, count, byteCount, bitBytes, haddress, hcount, rfl⟩ :=
        exists_head_of_five_le_length (Nat.le_of_not_lt hshort)
      rw [decodeWriteMultipleCoilsRequest_layout byteCount bitBytes haddress hcount] at h
      split at h
      · cases h
      · rename_i hbyteCount
        split at h
        · cases h
        · rename_i henough
          -- The count is a natural number whose bits the bytes hold.
          obtain ⟨bits, rfl⟩ := Int.eq_ofNat_of_zero_le hcount.1
          have hbytes : byteCount.toNat = bitBytes.length := by omega
          have hbits : bits ≤ 8 * bitBytes.length := by omega
          have henoughBits : (bits + 7) / 8 ≤ bitBytes.length := by omega
          rw [unpackBits_eq henoughBits, Except.ok_bind] at h
          obtain ⟨rfl, hvalues⟩ := WriteMultipleCoilsRequest.postInit_eq_ok_iff.mp h
          have hvalues := (List.map_injective_iff.mpr fun _ _ => PyObject.bool.inj) hvalues
          have hlength : request.values.length = bits := by
            rw [← hvalues, List.length_take, BitString.length_unpack]
            omega
          refine ⟨bitBytes, ?_, ?_, ?_, ?_⟩
          · rw [← hbytes]
            exact byteCount.toNat_lt
          · omega
          · rw [hlength, hvalues]
          · rw [hlength, ← hbytes, UInt8.ofNat_toNat]
  · rintro ⟨bitBytes, hlt, henough, hvalues, rfl⟩
    have hcount := isRegisterValue_count (by decide) request.count_valid
    rw [decodeWriteMultipleCoilsRequest_layout _ _ request.address_valid hcount,
      toNat_ofNat_of_lt hlt, if_neg (by simp), if_neg (by omega), unpackBits_eq henough,
      Except.ok_bind, ← hvalues]
    exact WriteMultipleCoilsRequest.postInit_eq_ok_iff.mpr ⟨rfl, rfl⟩

theorem decodeRegisterValues_eq_ok_iff {count : Int} {byteCount : UInt8} {registerBytes : Bytes}
    {values : List Int} :
    decodeRegisterValues count byteCount registerBytes = .ok values ↔
      values.length < 128 ∧ (values.length : Int) = count ∧
        byteCount = UInt8.ofNat (2 * values.length) ∧ registerBytes = words values ∧
          ∀ value ∈ values, IsRegisterValue value := by
  unfold decodeRegisterValues
  constructor
  · intro h
    split at h
    · cases h
    · rename_i hbyteCount
      split at h
      · cases h
      · rename_i heven
        split at h
        · cases h
        · rename_i hcount
          obtain ⟨hlength, rfl, hvalues⟩ := unpackWords_eq_ok_iff.mp h
          rw [length_words] at hbyteCount
          have hbyte : byteCount.toNat = 2 * values.length := by omega
          have hlt := byteCount.toNat_lt
          refine ⟨by omega, by omega, ?_, rfl, hvalues⟩
          rw [← hbyte, UInt8.ofNat_toNat]
  · rintro ⟨hlt, rfl, rfl, rfl, hvalues⟩
    rw [toNat_ofNat_of_lt (by omega), if_neg (by simp), if_neg (by omega), if_neg (by omega)]
    exact unpackWords_eq_ok_iff.mpr ⟨by omega, rfl, hvalues⟩

theorem decodeWriteMultipleRegistersRequest_layout {address count : Int} (byteCount : UInt8)
    (registerBytes : Bytes) (haddress : IsRegisterValue address) (hcount : IsRegisterValue count) :
    decodeWriteMultipleRegistersRequest (word address ++ word count ++ byteCount :: registerBytes) =
      decodeRegisterValues count byteCount registerBytes >>=
        WriteMultipleRegistersRequest.postInit address := by
  have hlength : ¬(word address ++ word count ++ byteCount :: registerBytes).length < 5 := by
    simp only [List.length_append, length_word, List.length_cons]
    omega
  rw [decodeWriteMultipleRegistersRequest, if_neg hlength, unpackFromHH_words haddress hcount]
  rfl

theorem decodeWriteMultipleRegistersRequest_eq_ok_iff {payload : Bytes}
    {request : WriteMultipleRegistersRequest} :
    decodeWriteMultipleRegistersRequest payload = .ok request ↔
      payload = word request.address ++ word request.values.length ++
        UInt8.ofNat (2 * request.values.length) :: words request.values := by
  constructor
  · intro h
    by_cases hshort : payload.length < 5
    · rw [decodeWriteMultipleRegistersRequest, if_pos hshort] at h
      cases h
    · obtain ⟨address, count, byteCount, registerBytes, haddress, hcount, rfl⟩ :=
        exists_head_of_five_le_length (Nat.le_of_not_lt hshort)
      rw [decodeWriteMultipleRegistersRequest_layout _ _ haddress hcount,
        Except.bind_eq_ok_iff] at h
      obtain ⟨values, hdecode, h⟩ := h
      obtain ⟨_, rfl, rfl, rfl, _⟩ := decodeRegisterValues_eq_ok_iff.mp hdecode
      obtain ⟨rfl, rfl⟩ := WriteMultipleRegistersRequest.postInit_eq_ok_iff.mp h
      rfl
  · rintro rfl
    have hmax : maxWriteRegisters = 123 := rfl
    have hlast := request.count_valid.2
    have hcount := isRegisterValue_count (by decide) request.count_valid
    rw [decodeWriteMultipleRegistersRequest_layout _ _ request.address_valid hcount,
      decodeRegisterValues_eq_ok_iff.mpr ⟨by omega, rfl, rfl, rfl, request.values_valid⟩,
      Except.ok_bind]
    exact WriteMultipleRegistersRequest.postInit_eq_ok_iff.mpr ⟨rfl, rfl⟩

theorem decodeReadWriteMultipleRegistersRequest_layout
    {readAddress readCount writeAddress writeCount : Int} (byteCount : UInt8)
    (registerBytes : Bytes) (hread : IsRegisterValue readAddress)
    (hreadCount : IsRegisterValue readCount) (hwrite : IsRegisterValue writeAddress)
    (hwriteCount : IsRegisterValue writeCount) :
    decodeReadWriteMultipleRegistersRequest (word readAddress ++ word readCount ++
        word writeAddress ++ word writeCount ++ byteCount :: registerBytes) =
      decodeRegisterValues writeCount byteCount registerBytes >>=
        ReadWriteMultipleRegistersRequest.postInit readAddress readCount writeAddress := by
  have hlength : ¬(word readAddress ++ word readCount ++ word writeAddress ++ word writeCount ++
      byteCount :: registerBytes).length < 9 := by
    simp only [List.length_append, length_word, List.length_cons]
    omega
  rw [decodeReadWriteMultipleRegistersRequest, if_neg hlength,
    unpackFromHHHH_words hread hreadCount hwrite hwriteCount]
  rfl

theorem decodeReadWriteMultipleRegistersRequest_eq_ok_iff {payload : Bytes}
    {request : ReadWriteMultipleRegistersRequest} :
    decodeReadWriteMultipleRegistersRequest payload = .ok request ↔
      payload = word request.readAddress ++ word request.readCount ++ word request.writeAddress ++
        word request.values.length ++ UInt8.ofNat (2 * request.values.length) ::
          words request.values := by
  constructor
  · intro h
    by_cases hshort : payload.length < 9
    · rw [decodeReadWriteMultipleRegistersRequest, if_pos hshort] at h
      cases h
    · obtain ⟨readAddress, readCount, writeAddress, writeCount, byteCount, registerBytes, hread,
          hreadCount, hwrite, hwriteCount, rfl⟩ :=
        exists_head_of_nine_le_length (Nat.le_of_not_lt hshort)
      rw [decodeReadWriteMultipleRegistersRequest_layout _ _ hread hreadCount hwrite hwriteCount,
        Except.bind_eq_ok_iff] at h
      obtain ⟨values, hdecode, h⟩ := h
      obtain ⟨_, rfl, rfl, rfl, _⟩ := decodeRegisterValues_eq_ok_iff.mp hdecode
      obtain ⟨rfl, rfl, rfl, rfl⟩ := ReadWriteMultipleRegistersRequest.postInit_eq_ok_iff.mp h
      rfl
  · rintro rfl
    have hmax : maxReadWriteRegistersWrite = 121 := rfl
    have hlast := request.count_valid.2
    have hreadCount := isRegisterValue_count (by decide) request.readCount_valid
    have hcount := isRegisterValue_count (by decide) request.count_valid
    rw [decodeReadWriteMultipleRegistersRequest_layout _ _ request.readAddress_valid hreadCount
        request.writeAddress_valid hcount,
      decodeRegisterValues_eq_ok_iff.mpr ⟨by omega, rfl, rfl, rfl, request.values_valid⟩,
      Except.ok_bind]
    exact ReadWriteMultipleRegistersRequest.postInit_eq_ok_iff.mpr ⟨rfl, rfl, rfl, rfl⟩

theorem decodeEncapsulatedRequest_wire (registry : CustomFunctionCodeRegistry)
    (request : ReadDeviceIdentificationRequest) :
    decodeEncapsulatedRequest registry 0x2B
        [0x0E, UInt8.ofNat request.readCode.toNat, UInt8.ofNat request.objectId.toNat] =
      .ok (.builtin (.readDeviceIdentification request)) := by
  have hcode : ((UInt8.ofNat request.readCode.toNat).toNat : Int) = request.readCode := by
    have := request.readCode_valid
    rw [toNat_ofNat_of_lt (by omega)]
    omega
  have hid : ((UInt8.ofNat request.objectId.toNat).toNat : Int) = request.objectId := by
    have := request.objectId_valid
    rw [toNat_ofNat_of_lt (by omega)]
    omega
  have hinit : ReadDeviceIdentificationRequest.postInit request.readCode request.objectId 0x0E =
      .ok request :=
    ReadDeviceIdentificationRequest.postInit_eq_ok_iff.mpr ⟨rfl, rfl, request.meiType_valid.symm⟩
  change (ReadDeviceIdentificationRequest.postInit _ _ 0x0E >>= fun request =>
    Except.ok (RequestPDU.builtin (.readDeviceIdentification request))) = _
  rw [hcode, hid, hinit]
  rfl

theorem eq_of_decodeEncapsulatedRequest {payload : Bytes} {request : RequestPDU}
    (h : decodeEncapsulatedRequest .empty 0x2B payload = .ok request) :
    ∃ inner : ReadDeviceIdentificationRequest,
      request = .builtin (.readDeviceIdentification inner) ∧
        payload = [0x0E, UInt8.ofNat inner.readCode.toNat, UInt8.ofNat inner.objectId.toNat] := by
  unfold decodeEncapsulatedRequest at h
  split at h
  · rename_i meiType readCode objectId
    split at h
    · rename_i hmei
      obtain ⟨inner, hinner, h⟩ := Except.bind_eq_ok_iff.mp h
      obtain ⟨hcode, hid, _⟩ := ReadDeviceIdentificationRequest.postInit_eq_ok_iff.mp hinner
      have hmeiByte : meiType = 0x0E := UInt8.toNat_inj.mp (by
        have hmeiType : readDeviceIdentificationMeiType = 14 := rfl
        change meiType.toNat = 14
        omega)
      refine ⟨inner, (Except.ok.inj h).symm, ?_⟩
      rw [← hcode, ← hid, hmeiByte]
      simp
    · cases h
  · split at h
    · cases h
    · cases h
  · cases h

theorem decodesFrom_wire (request : BuiltinRequest) : request.DecodesFrom request.wire := by
  cases request with
  | writeMultipleCoils request =>
      have hmax : maxWriteBits = 1968 := rfl
      have hlast := request.count_valid.2
      refine ⟨BitString.pack request.values, ?_, ?_, (BitString.take_unpack_pack _).symm, ?_⟩
      · rw [BitString.length_pack]
        omega
      · rw [BitString.length_pack]
      · rw [BitString.length_pack]
        rfl
  | _ => rfl

/-- The decoder accepts the data of a request, whatever custom decoders are registered. -/
theorem decodeRequestPdu_of_decodesFrom (registry : CustomFunctionCodeRegistry)
    {request : BuiltinRequest} {data : Bytes} (h : request.DecodesFrom data) :
    decodeRequestPdu registry data = .ok (.builtin request) := by
  cases request with
  | readCoils request =>
      cases h
      exact congrArg (RequestPDU.builtin <$> ·)
        ((readBranch_eq_ok_iff _ (by decide)).mpr ⟨request, rfl, rfl⟩)
  | readDiscreteInputs request =>
      cases h
      exact congrArg (RequestPDU.builtin <$> ·)
        ((readBranch_eq_ok_iff _ (by decide)).mpr ⟨request, rfl, rfl⟩)
  | readHoldingRegisters request =>
      cases h
      exact congrArg (RequestPDU.builtin <$> ·)
        ((readBranch_eq_ok_iff _ (by decide)).mpr ⟨request, rfl, rfl⟩)
  | readInputRegisters request =>
      cases h
      exact congrArg (RequestPDU.builtin <$> ·)
        ((readBranch_eq_ok_iff _ (by decide)).mpr ⟨request, rfl, rfl⟩)
  | writeSingleCoil request =>
      cases h
      exact congrArg ((RequestPDU.builtin ∘ .writeSingleCoil) <$> ·)
        (decodeWriteSingleCoilRequest_eq_ok_iff.mpr rfl)
  | writeSingleRegister request =>
      cases h
      exact congrArg ((RequestPDU.builtin ∘ .writeSingleRegister) <$> ·)
        (decodeWriteSingleRegisterRequest_eq_ok_iff.mpr rfl)
  | writeMultipleCoils request =>
      obtain ⟨bitBytes, hlt, henough, hvalues, rfl⟩ := h
      exact congrArg ((RequestPDU.builtin ∘ .writeMultipleCoils) <$> ·)
        (decodeWriteMultipleCoilsRequest_eq_ok_iff.mpr ⟨bitBytes, hlt, henough, hvalues, rfl⟩)
  | writeMultipleRegisters request =>
      cases h
      exact congrArg ((RequestPDU.builtin ∘ .writeMultipleRegisters) <$> ·)
        (decodeWriteMultipleRegistersRequest_eq_ok_iff.mpr rfl)
  | maskWriteRegister request =>
      cases h
      exact congrArg ((RequestPDU.builtin ∘ .maskWriteRegister) <$> ·)
        (decodeMaskWriteRegisterRequest_eq_ok_iff.mpr rfl)
  | readWriteMultipleRegisters request =>
      cases h
      exact congrArg ((RequestPDU.builtin ∘ .readWriteMultipleRegisters) <$> ·)
        (decodeReadWriteMultipleRegistersRequest_eq_ok_iff.mpr rfl)
  | readDeviceIdentification request =>
      cases h
      exact decodeEncapsulatedRequest_wire registry request

theorem byte_eq_of_toNat_eq {head : UInt8} (byte : UInt8) (h : (head.toNat : Int) = byte.toNat) :
    head = byte := UInt8.toNat_inj.mp (by omega)

theorem exists_of_decodeReadRequest {head : UInt8} {payload : Bytes} {request : BuiltinRequest}
    (hcode : (head.toNat : Int) = FunctionCode.readCoils.code ∨
      (head.toNat : Int) = FunctionCode.readDiscreteInputs.code ∨
      (head.toNat : Int) = FunctionCode.readHoldingRegisters.code ∨
      (head.toNat : Int) = FunctionCode.readInputRegisters.code)
    (h : decodeReadRequest head.toNat payload = .ok request) :
    request.DecodesFrom (head :: payload) := by
  rcases hcode with hcode | hcode | hcode | hcode
  · obtain rfl := byte_eq_of_toNat_eq 0x01 hcode
    obtain ⟨inner, rfl, rfl⟩ := (readBranch_eq_ok_iff .readCoils (by decide)).mp h
    rfl
  · obtain rfl := byte_eq_of_toNat_eq 0x02 hcode
    obtain ⟨inner, rfl, rfl⟩ :=
      (readBranch_eq_ok_iff .readDiscreteInputs (by decide)).mp h
    rfl
  · obtain rfl := byte_eq_of_toNat_eq 0x03 hcode
    obtain ⟨inner, rfl, rfl⟩ :=
      (readBranch_eq_ok_iff .readHoldingRegisters (by decide)).mp h
    rfl
  · obtain rfl := byte_eq_of_toNat_eq 0x04 hcode
    obtain ⟨inner, rfl, rfl⟩ :=
      (readBranch_eq_ok_iff .readInputRegisters (by decide)).mp h
    rfl

/-- With no custom decoders, only the data of a request is accepted. -/
theorem exists_decodesFrom {data : Bytes} {request : RequestPDU}
    (h : decodeRequestPdu .empty data = .ok request) :
    ∃ inner : BuiltinRequest, request = .builtin inner ∧ inner.DecodesFrom data := by
  match data, h with
  | head :: payload, h =>
      unfold decodeRequestPdu at h
      dsimp only at h
      split at h
      · obtain ⟨inner, hinner, rfl⟩ := Except.map_eq_ok_iff.mp h
        exact ⟨inner, rfl, exists_of_decodeReadRequest ‹_› hinner⟩
      split at h
      · obtain rfl := byte_eq_of_toNat_eq 0x05 ‹_›
        obtain ⟨inner, hinner, rfl⟩ := Except.map_eq_ok_iff.mp h
        obtain rfl := decodeWriteSingleCoilRequest_eq_ok_iff.mp hinner
        exact ⟨.writeSingleCoil inner, rfl, rfl⟩
      split at h
      · obtain rfl := byte_eq_of_toNat_eq 0x06 ‹_›
        obtain ⟨inner, hinner, rfl⟩ := Except.map_eq_ok_iff.mp h
        obtain rfl := decodeWriteSingleRegisterRequest_eq_ok_iff.mp hinner
        exact ⟨.writeSingleRegister inner, rfl, rfl⟩
      split at h
      · obtain rfl := byte_eq_of_toNat_eq 0x0F ‹_›
        obtain ⟨inner, hinner, rfl⟩ := Except.map_eq_ok_iff.mp h
        obtain ⟨bitBytes, hlt, henough, hvalues, rfl⟩ :=
          decodeWriteMultipleCoilsRequest_eq_ok_iff.mp hinner
        exact ⟨.writeMultipleCoils inner, rfl, bitBytes, hlt, henough, hvalues, rfl⟩
      split at h
      · obtain rfl := byte_eq_of_toNat_eq 0x10 ‹_›
        obtain ⟨inner, hinner, rfl⟩ := Except.map_eq_ok_iff.mp h
        obtain rfl := decodeWriteMultipleRegistersRequest_eq_ok_iff.mp hinner
        exact ⟨.writeMultipleRegisters inner, rfl, rfl⟩
      split at h
      · obtain rfl := byte_eq_of_toNat_eq 0x16 ‹_›
        obtain ⟨inner, hinner, rfl⟩ := Except.map_eq_ok_iff.mp h
        obtain rfl := decodeMaskWriteRegisterRequest_eq_ok_iff.mp hinner
        exact ⟨.maskWriteRegister inner, rfl, rfl⟩
      split at h
      · obtain rfl := byte_eq_of_toNat_eq 0x17 ‹_›
        obtain ⟨inner, hinner, rfl⟩ := Except.map_eq_ok_iff.mp h
        obtain rfl := decodeReadWriteMultipleRegistersRequest_eq_ok_iff.mp hinner
        exact ⟨.readWriteMultipleRegisters inner, rfl, rfl⟩
      split at h
      · obtain rfl := byte_eq_of_toNat_eq 0x2B ‹_›
        obtain ⟨inner, rfl, rfl⟩ := eq_of_decodeEncapsulatedRequest h
        exact ⟨.readDeviceIdentification inner, rfl, rfl⟩
      · cases h

/-- Decoding a request undoes encoding it. -/
theorem decodeRequestPdu_encode (registry : CustomFunctionCodeRegistry) (request : BuiltinRequest) :
    ∃ data, request.encode = .ok data ∧
      decodeRequestPdu registry data = .ok (.builtin request) :=
  ⟨request.wire, request.encode_eq,
    decodeRequestPdu_of_decodesFrom registry (decodesFrom_wire request)⟩

end ClearModbus
