import ClearModbus.Proof.ResponseCodec

/-!
# What response decoding accepts

In the context of a built-in request a decoded response is an exception response or has the function
code of the request, and custom decoders are not reached. A bit read has as many values as were
requested; a register read has as many as its own byte count announces.
-/

namespace ClearModbus

theorem ReadBitsResponse.eq_of_decode {functionCode count : Int} {payload : Bytes}
    {response : ReadBitsResponse} (hcount : 0 ≤ count)
    (h : decode functionCode payload count = .ok response) :
    response.functionCode = functionCode ∧ (response.values.length : Int) = count := by
  obtain ⟨bits, rfl⟩ := Int.eq_ofNat_of_zero_le hcount
  match payload, h with
  | byteCount :: bitBytes, h =>
      rw [decode] at h
      split at h
      · cases h
      · split at h
        · cases h
        · have henough : (bits + 7) / 8 ≤ bitBytes.length := by omega
          rw [unpackBits_eq henough, Except.ok_bind] at h
          cases h
          refine ⟨rfl, ?_⟩
          have hlength := BitString.length_unpack bitBytes
          simp only [List.length_take]
          omega

theorem ReadRegistersResponse.decode_eq_ok_iff {functionCode : Int} {payload : Bytes}
    {response : ReadRegistersResponse} :
    decode functionCode payload = .ok response ↔
      response.functionCode = functionCode ∧ response.values.length < 128 ∧
        (∀ value ∈ response.values, IsRegisterValue value) ∧
        payload = UInt8.ofNat (2 * response.values.length) :: words response.values := by
  constructor
  · intro h
    match payload, h with
    | byteCount :: registerBytes, h =>
        rw [decode] at h
        split at h
        · cases h
        · rename_i hbyteCount
          split at h
          · cases h
          · obtain ⟨values, hvalues, h⟩ := Except.bind_eq_ok_iff.mp h
            cases h
            obtain ⟨hlength, rfl, hrange⟩ := unpackWords_eq_ok_iff.mp hvalues
            rw [length_words] at hbyteCount
            have hbyte : byteCount.toNat = 2 * values.length := by omega
            have hlt := byteCount.toNat_lt
            refine ⟨rfl, by change values.length < 128; omega, hrange, ?_⟩
            rw [← hbyte, UInt8.ofNat_toNat]
  · rintro ⟨hcode, hlt, hvalues, rfl⟩
    obtain ⟨_, values⟩ := response
    cases hcode
    rw [decode, toNat_ofNat_of_lt (by omega), length_words, if_neg (by simp), if_neg (by omega),
      unpackWords_eq_ok_iff.mpr ⟨by omega, rfl, hvalues⟩]
    rfl

theorem WriteSingleCoilResponse.functionCode_of_decode {payload : Bytes}
    {response : WriteSingleCoilResponse} (h : decode payload = .ok response) :
    response.functionCode = 0x05 := by
  unfold decode at h
  split at h
  · cases h
  · obtain ⟨⟨address, encodedValue⟩, -, h⟩ := Except.bind_eq_ok_iff.mp h
    dsimp only at h
    split_ifs at h <;> cases h <;> rfl

theorem WriteSingleRegisterResponse.functionCode_of_decode {payload : Bytes}
    {response : WriteSingleRegisterResponse} (h : decode payload = .ok response) :
    response.functionCode = 0x06 := by
  unfold decode at h
  split at h
  · cases h
  · obtain ⟨⟨address, value⟩, -, h⟩ := Except.bind_eq_ok_iff.mp h
    cases h
    rfl

theorem WriteMultipleResponse.functionCode_of_decode {functionCode : Int} {payload : Bytes}
    {response : WriteMultipleResponse} (h : decode functionCode payload = .ok response) :
    response.functionCode = functionCode := by
  unfold decode at h
  split at h
  · cases h
  · obtain ⟨⟨address, count⟩, -, h⟩ := Except.bind_eq_ok_iff.mp h
    cases h
    rfl

theorem MaskWriteRegisterResponse.functionCode_of_decode {payload : Bytes}
    {response : MaskWriteRegisterResponse} (h : decode payload = .ok response) :
    response.functionCode = 0x16 := by
  unfold decode at h
  split at h
  · cases h
  · obtain ⟨⟨address, andMask, orMask⟩, -, h⟩ := Except.bind_eq_ok_iff.mp h
    cases h
    rfl

/-- A decoded response is an exception, or comes from the decoder of the requested function. -/
theorem exists_cons_of_decodeResponsePdu {registry : CustomFunctionCodeRegistry} {data : Bytes}
    {request : BuiltinRequest} {response : ResponsePDU}
    (h : decodeResponsePdu registry data (.builtin request) = .ok response) :
    (∃ exception, response = .exception exception) ∨
      ∃ head payload, data = head :: payload ∧ (head.toNat : Int) = request.functionCode ∧
        decodeNormalResponse registry request.functionCode payload (.builtin request) =
          .ok response := by
  match data, h with
  | head :: payload, h =>
      unfold decodeResponsePdu at h
      dsimp only at h
      split at h
      · split at h
        · cases h
        · obtain ⟨exception, -, rfl⟩ := Except.map_eq_ok_iff.mp h
          exact .inl ⟨exception, rfl⟩
      · split at h
        · cases h
        · rename_i hcode
          have hcode : (head.toNat : Int) = request.functionCode := not_not.mp hcode
          rw [hcode] at h
          exact .inr ⟨head, payload, rfl, hcode, h⟩

/-- The two register reads that take the byte count of the response as it is. -/
inductive ReadsRegisters : BuiltinRequest → Int → Prop where
  | holding (request : ReadHoldingRegistersRequest) :
      ReadsRegisters (.readHoldingRegisters request) request.count
  | input (request : ReadInputRegistersRequest) :
      ReadsRegisters (.readInputRegisters request) request.count

theorem ReadsRegisters.decodeNormalResponse_eq {request : BuiltinRequest} {count : Int}
    (h : ReadsRegisters request count) (registry : CustomFunctionCodeRegistry) (payload : Bytes) :
    decodeNormalResponse registry request.functionCode payload (.builtin request) =
      .readRegisters <$> ReadRegistersResponse.decode request.functionCode payload := by
  cases h <;> rfl

end ClearModbus
