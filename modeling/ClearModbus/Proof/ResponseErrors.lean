import ClearModbus.Proof.DecodeErrors

/-!
# What response decoding can raise

The response to a built-in request is either decoded or rejected with `ValueError`. Every unpack
stands behind a check of the payload length, and the count of a bit read is the request's, which its
constructor bounds from below; the loop over identification objects tests the remaining length
before it reads a header or a value.
-/

namespace ClearModbus

open PyError (IsValueError)

theorem ReadBitsResponse.raisesOnly_decode (functionCode : Int) (payload : Bytes) {count : Int}
    (hcount : 0 ≤ count) :
    (ReadBitsResponse.decode functionCode payload count).RaisesOnly IsValueError := by
  cases payload with
  | nil => exact trivial
  | cons byteCount bitBytes =>
      rw [decode]
      by_cases hlength : (byteCount.toNat : Int) ≠ bitBytes.length
      · rw [if_pos hlength]
        exact trivial
      · by_cases hshort : (byteCount.toNat : Int) < (count + 7) / 8
        · rw [if_neg hlength, if_pos hshort]
          exact trivial
        · rw [if_neg hlength, if_neg hshort]
          obtain ⟨bits, rfl⟩ := Int.eq_ofNat_of_zero_le hcount
          have henough : (bits + 7) / 8 ≤ bitBytes.length := by omega
          rw [unpackBits_eq henough, Except.ok_bind]
          exact trivial

theorem ReadRegistersResponse.raisesOnly_decode (functionCode : Int) (payload : Bytes) :
    (ReadRegistersResponse.decode functionCode payload).RaisesOnly IsValueError := by
  cases payload with
  | nil => exact trivial
  | cons byteCount registerBytes =>
      rw [decode]
      by_cases hlength : (byteCount.toNat : Int) ≠ registerBytes.length
      · rw [if_pos hlength]
        exact trivial
      · by_cases hodd : (byteCount.toNat : Int) % 2 ≠ 0
        · rw [if_neg hlength, if_pos hodd]
          exact trivial
        · rw [if_neg hlength, if_neg hodd, unpackWords, if_pos (by omega), Except.ok_bind]
          exact trivial

theorem WriteSingleRegisterResponse.raisesOnly_decode (payload : Bytes) :
    (WriteSingleRegisterResponse.decode payload).RaisesOnly IsValueError := by
  unfold decode
  split
  · exact trivial
  · rename_i hlength
    apply Except.RaisesOnly.bind (raisesOnly_unpackHH (not_not.mp hlength))
    rintro ⟨address, value⟩
    exact trivial

theorem WriteSingleCoilResponse.raisesOnly_decode (payload : Bytes) :
    (WriteSingleCoilResponse.decode payload).RaisesOnly IsValueError := by
  unfold decode
  split
  · exact trivial
  · rename_i hlength
    apply Except.RaisesOnly.bind (raisesOnly_unpackHH (not_not.mp hlength))
    rintro ⟨address, encodedValue⟩
    dsimp only
    split_ifs
    · exact trivial
    · exact trivial
    · exact trivial

theorem WriteMultipleResponse.raisesOnly_decode (functionCode : Int) (payload : Bytes) :
    (WriteMultipleResponse.decode functionCode payload).RaisesOnly IsValueError := by
  unfold decode
  split
  · exact trivial
  · rename_i hlength
    apply Except.RaisesOnly.bind (raisesOnly_unpackHH (not_not.mp hlength))
    rintro ⟨address, count⟩
    exact trivial

theorem MaskWriteRegisterResponse.raisesOnly_decode (payload : Bytes) :
    (MaskWriteRegisterResponse.decode payload).RaisesOnly IsValueError := by
  unfold decode
  split
  · exact trivial
  · rename_i hlength
    apply Except.RaisesOnly.bind (raisesOnly_unpackHHH (not_not.mp hlength))
    rintro ⟨address, andMask, orMask⟩
    exact trivial

theorem ExceptionResponse.raisesOnly_decode (functionCode : Int) (payload : Bytes) :
    (ExceptionResponse.decode functionCode payload).RaisesOnly IsValueError := by
  unfold decode
  split
  · exact trivial
  · exact trivial

theorem DeviceIdentificationObject.raisesOnly_postInit {q : PyError → Prop}
    (hid : q (.valueError "object_id is not between 0 and 0xFF."))
    (hvalue : q (.valueError "object value is longer than 244 bytes.")) (objectId : Int)
    (value : Bytes) : (DeviceIdentificationObject.postInit objectId value).RaisesOnly q := by
  rw [postInit]
  apply Except.RaisesOnly.bind (raisesOnly_check_of hid)
  intro hid
  apply Except.RaisesOnly.bind (raisesOnly_check_of hvalue)
  intro hvalue
  exact trivial

/-- The loop reads a header after two bytes are known to be left, whatever the length bytes say. -/
theorem raisesOnly_decodeObjects (payload : Bytes) (count offset : Nat) :
    (decodeObjects payload count offset).RaisesOnly IsValueError := by
  induction count generalizing offset with
  | zero => exact trivial
  | succ count ih =>
      rw [decodeObjects]
      by_cases hheader : (payload.length : Int) - offset < 2
      · rw [if_pos hheader]
        exact trivial
      · have hid : offset < payload.length := by omega
        have hlength : offset + 1 < payload.length := by omega
        rw [if_neg hheader, getItem_natCast hid, Except.ok_bind, getItem_natCast hlength,
          Except.ok_bind]
        dsimp only
        split
        · exact trivial
        · apply Except.RaisesOnly.bind
            (DeviceIdentificationObject.raisesOnly_postInit trivial trivial _ _)
          intro item
          apply Except.RaisesOnly.bind (ih _)
          intro rest
          exact trivial

namespace ReadDeviceIdentificationResponse

/-- The constructor raises the errors of its five checks. -/
theorem raisesOnly_postInit {q : PyError → Prop}
    (hmei : q (.valueError "MEI type must be 0x0E for Read Device Identification."))
    (hcode : q (.valueError "read_code must be between 0x01 and 0x04."))
    (hlevel : q (.valueError "invalid conformity level."))
    (hnext : q (.valueError "object_id is not between 0 and 0xFF."))
    (hobjects : q (.valueError "too many device identification objects."))
    (readCode conformityLevel : Int) (objects : List DeviceIdentificationObject)
    (moreFollows : Bool) (nextObjectId meiType : Int) :
    (postInit readCode conformityLevel objects moreFollows nextObjectId meiType).RaisesOnly q := by
  rw [postInit]
  apply Except.RaisesOnly.bind (raisesOnly_check_of hmei)
  intro hmei
  apply Except.RaisesOnly.bind (raisesOnly_check_of hcode)
  intro hcode
  apply Except.RaisesOnly.bind (raisesOnly_check_of hlevel)
  intro hlevel
  apply Except.RaisesOnly.bind (raisesOnly_check_of hnext)
  intro hnext
  apply Except.RaisesOnly.bind (raisesOnly_check_of hobjects)
  intro hobjects
  exact trivial

theorem raisesOnly_decode (payload : Bytes) : (decode payload).RaisesOnly IsValueError := by
  unfold decode
  split
  · split_ifs
    · exact trivial
    · exact trivial
    · apply Except.RaisesOnly.bind (raisesOnly_decodeObjects _ _ _)
      rintro ⟨objects, last⟩
      dsimp only
      split_ifs
      · exact trivial
      · exact raisesOnly_postInit trivial trivial trivial trivial trivial _ _ _ _ _ _
  · exact trivial

end ReadDeviceIdentificationResponse

variable (functionCode : Int) (payload : Bytes) (request : BuiltinRequest)

theorem raisesOnly_decodeReadBitsResponse :
    (decodeReadBitsResponse functionCode payload (.builtin request)).RaisesOnly IsValueError := by
  cases request with
  | readCoils request =>
      have hcount := request.count_valid.1
      exact (ReadBitsResponse.raisesOnly_decode functionCode payload (by omega)).map _
  | readDiscreteInputs request =>
      have hcount := request.count_valid.1
      exact (ReadBitsResponse.raisesOnly_decode functionCode payload (by omega)).map _
  | _ => exact trivial

theorem raisesOnly_decodeReadWriteMultipleRegistersResponse :
    (decodeReadWriteMultipleRegistersResponse functionCode payload
      (.builtin request)).RaisesOnly IsValueError := by
  cases request with
  | readWriteMultipleRegisters request =>
      apply Except.RaisesOnly.bind (ReadRegistersResponse.raisesOnly_decode functionCode payload)
      intro response
      split
      · exact trivial
      · exact trivial
  | _ => exact trivial

theorem raisesOnly_decodeEncapsulatedResponse :
    (decodeEncapsulatedResponse .empty functionCode payload
      (.builtin request)).RaisesOnly IsValueError := by
  cases request with
  | readDeviceIdentification request =>
      apply Except.RaisesOnly.bind (ReadDeviceIdentificationResponse.raisesOnly_decode payload)
      intro response
      split
      · exact trivial
      · exact trivial
  | _ => exact trivial

theorem raisesOnly_decodeNormalResponse :
    (decodeNormalResponse .empty functionCode payload (.builtin request)).RaisesOnly
      IsValueError := by
  rw [decodeNormalResponse]
  split_ifs
  · exact raisesOnly_decodeReadBitsResponse functionCode payload request
  · exact (ReadRegistersResponse.raisesOnly_decode functionCode payload).map _
  · exact raisesOnly_decodeReadWriteMultipleRegistersResponse functionCode payload request
  · exact raisesOnly_decodeEncapsulatedResponse functionCode payload request
  · exact (WriteSingleCoilResponse.raisesOnly_decode payload).map _
  · exact (WriteSingleRegisterResponse.raisesOnly_decode payload).map _
  · exact (WriteMultipleResponse.raisesOnly_decode _ payload).map _
  · exact (WriteMultipleResponse.raisesOnly_decode _ payload).map _
  · exact (MaskWriteRegisterResponse.raisesOnly_decode payload).map _
  · exact trivial

theorem raisesOnly_decodeResponsePdu (data : Bytes) :
    (decodeResponsePdu .empty data (.builtin request)).RaisesOnly IsValueError := by
  cases data with
  | nil => exact trivial
  | cons head payload =>
      rw [decodeResponsePdu]
      split_ifs
      · exact trivial
      · exact (ExceptionResponse.raisesOnly_decode _ payload).map _
      · exact trivial
      · exact raisesOnly_decodeNormalResponse _ payload request

/-- **Decoders fail only in the declared ways**, on any bytes: a request with `ValueError`, or with
`ModbusPDUError` exactly when its function code is not supported; a response with `ValueError`. -/
theorem decoders_raise_declared_errors (data : Bytes) (request : BuiltinRequest) :
    ((∃ decoded, decodeRequestPdu .empty data = .ok decoded) ∨
      (∃ message, decodeRequestPdu .empty data = .error (.valueError message)) ∨
      ∃ message, decodeRequestPdu .empty data = .error (.modbusPDUError message)) ∧
    ((∃ message, decodeRequestPdu .empty data = .error (.modbusPDUError message)) ↔
      ∃ head payload, data = head :: payload ∧
        ((∀ standard : FunctionCode, (head.toNat : Int) ≠ standard.code) ∨
          ((head.toNat : Int) = FunctionCode.encapsulatedInterfaceTransport.code ∧
            payload.head? ≠ some 0x0E))) ∧
    ((∃ decoded, decodeResponsePdu .empty data (.builtin request) = .ok decoded) ∨
      ∃ message, decodeResponsePdu .empty data (.builtin request) =
        .error (.valueError message)) := by
  refine ⟨?_, decodeRequestPdu_modbusPDUError_iff data, ?_⟩
  · have herrors := raisesOnly_decodeRequestPdu data
    cases hdecode : decodeRequestPdu .empty data with
    | ok decoded => exact .inl ⟨decoded, rfl⟩
    | error raised =>
        rw [hdecode] at herrors
        cases raised with
        | valueError message => exact .inr (.inl ⟨message, rfl⟩)
        | modbusPDUError message => exact .inr (.inr ⟨message, rfl⟩)
        | _ => exact herrors.elim
  · rw [exists_valueError_iff (raisesOnly_decodeResponsePdu request data)]
    exact em _

end ClearModbus
