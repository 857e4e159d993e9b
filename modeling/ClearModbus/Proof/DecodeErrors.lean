import ClearModbus.Proof.RequestCodec
import ClearModbus.Proof.CustomDecoders

/-!
# What request decoding can raise

With no custom decoders, every payload of a supported function code is either decoded or rejected
with `ValueError`, and every other one with `ModbusPDUError`: the lengths are checked before
anything is unpacked, so `struct.error` and `IndexError` never come out of `decode_request_pdu`.
-/

namespace ClearModbus

open PyError (IsValueError)

theorem raisesOnly_check {p : Prop} [Decidable p] (message : String) :
    (check p (.valueError message)).RaisesOnly IsValueError :=
  raisesOnly_check_of trivial

theorem raisesOnly_validateRegisterValues (values : List Int) :
    (validateRegisterValues values).RaisesOnly IsValueError := by
  induction values with
  | nil => exact trivial
  | cons value values ih =>
      rw [validateRegisterValues]
      apply Except.RaisesOnly.bind (raisesOnly_check _)
      intro hvalue
      apply Except.RaisesOnly.bind ih
      intro hvalues
      exact trivial

theorem ReadRequest.raisesOnly_postInit (functionCode maxCount address count : Int) :
    (ReadRequest.postInit functionCode maxCount address count).RaisesOnly IsValueError := by
  rw [postInit]
  apply Except.RaisesOnly.bind (raisesOnly_check _)
  intro haddress
  apply Except.RaisesOnly.bind (raisesOnly_check _)
  intro hcount
  exact trivial

theorem WriteSingleCoilRequest.raisesOnly_postInit (address : Int) (value : Bool) :
    (WriteSingleCoilRequest.postInit address (.bool value)).RaisesOnly IsValueError := by
  rw [postInit]
  apply Except.RaisesOnly.bind (raisesOnly_check _)
  intro haddress
  exact trivial

theorem WriteSingleRegisterRequest.raisesOnly_postInit (address value : Int) :
    (WriteSingleRegisterRequest.postInit address value).RaisesOnly IsValueError := by
  rw [postInit]
  apply Except.RaisesOnly.bind (raisesOnly_check _)
  intro haddress
  apply Except.RaisesOnly.bind (raisesOnly_check _)
  intro hvalue
  exact trivial

theorem WriteMultipleCoilsRequest.raisesOnly_postInit (address : Int) (values : List Bool) :
    (WriteMultipleCoilsRequest.postInit address (values.map .bool)).RaisesOnly IsValueError := by
  obtain ⟨hlength, hbools⟩ := requireBools_map_bool values
  rw [postInit, hbools]
  apply Except.RaisesOnly.bind (raisesOnly_check _)
  intro haddress
  apply Except.RaisesOnly.bind (raisesOnly_check _)
  intro hcount
  exact trivial

theorem WriteMultipleRegistersRequest.raisesOnly_postInit (address : Int) (values : List Int) :
    (WriteMultipleRegistersRequest.postInit address values).RaisesOnly IsValueError := by
  rw [postInit]
  apply Except.RaisesOnly.bind (raisesOnly_check _)
  intro haddress
  apply Except.RaisesOnly.bind (raisesOnly_check _)
  intro hcount
  apply Except.RaisesOnly.bind (raisesOnly_validateRegisterValues values)
  intro hvalues
  exact trivial

theorem MaskWriteRegisterRequest.raisesOnly_postInit (address andMask orMask : Int) :
    (MaskWriteRegisterRequest.postInit address andMask orMask).RaisesOnly IsValueError := by
  rw [postInit]
  apply Except.RaisesOnly.bind (raisesOnly_check _)
  intro haddress
  apply Except.RaisesOnly.bind (raisesOnly_check _)
  intro hand
  apply Except.RaisesOnly.bind (raisesOnly_check _)
  intro hor
  exact trivial

theorem ReadWriteMultipleRegistersRequest.raisesOnly_postInit
    (readAddress readCount writeAddress : Int) (values : List Int) :
    (ReadWriteMultipleRegistersRequest.postInit readAddress readCount writeAddress
      values).RaisesOnly IsValueError := by
  rw [postInit]
  apply Except.RaisesOnly.bind (raisesOnly_check _)
  intro hreadAddress
  apply Except.RaisesOnly.bind (raisesOnly_check _)
  intro hreadCount
  apply Except.RaisesOnly.bind (raisesOnly_check _)
  intro hwriteAddress
  apply Except.RaisesOnly.bind (raisesOnly_check _)
  intro hcount
  apply Except.RaisesOnly.bind (raisesOnly_validateRegisterValues values)
  intro hvalues
  exact trivial

theorem ReadDeviceIdentificationRequest.raisesOnly_postInit (readCode objectId meiType : Int) :
    (ReadDeviceIdentificationRequest.postInit readCode objectId meiType).RaisesOnly
      IsValueError := by
  rw [postInit]
  apply Except.RaisesOnly.bind (raisesOnly_check _)
  intro hmei
  apply Except.RaisesOnly.bind (raisesOnly_check _)
  intro hcode
  apply Except.RaisesOnly.bind (raisesOnly_check _)
  intro hid
  exact trivial

theorem raisesOnly_unpackHH {payload : Bytes} (h : payload.length = 4) :
    (unpackHH payload).RaisesOnly IsValueError := by
  obtain ⟨first, second, hfirst, hsecond, rfl⟩ := exists_words_of_length_eq_four h
  rw [unpackHH_words hfirst hsecond]
  exact trivial

theorem raisesOnly_unpackHHH {payload : Bytes} (h : payload.length = 6) :
    (unpackHHH payload).RaisesOnly IsValueError := by
  obtain ⟨first, second, third, hfirst, hsecond, hthird, rfl⟩ := exists_words_of_length_eq_six h
  rw [unpackHHH_words hfirst hsecond hthird]
  exact trivial

theorem raisesOnly_decodeReadRequest (functionCode : Int) (payload : Bytes) :
    (decodeReadRequest functionCode payload).RaisesOnly IsValueError := by
  unfold decodeReadRequest
  split
  · exact trivial
  · rename_i hlength
    apply Except.RaisesOnly.bind (raisesOnly_unpackHH (not_not.mp hlength))
    rintro ⟨address, count⟩
    dsimp only
    split_ifs
    · exact (ReadRequest.raisesOnly_postInit _ _ address count).map _
    · exact (ReadRequest.raisesOnly_postInit _ _ address count).map _
    · exact (ReadRequest.raisesOnly_postInit _ _ address count).map _
    · exact (ReadRequest.raisesOnly_postInit _ _ address count).map _

theorem raisesOnly_decodeWriteSingleCoilRequest (payload : Bytes) :
    (decodeWriteSingleCoilRequest payload).RaisesOnly IsValueError := by
  unfold decodeWriteSingleCoilRequest
  split
  · exact trivial
  · rename_i hlength
    apply Except.RaisesOnly.bind (raisesOnly_unpackHH (not_not.mp hlength))
    rintro ⟨address, encodedValue⟩
    dsimp only
    split_ifs
    · exact WriteSingleCoilRequest.raisesOnly_postInit address true
    · exact WriteSingleCoilRequest.raisesOnly_postInit address false
    · exact trivial

theorem raisesOnly_decodeWriteSingleRegisterRequest (payload : Bytes) :
    (decodeWriteSingleRegisterRequest payload).RaisesOnly IsValueError := by
  unfold decodeWriteSingleRegisterRequest
  split
  · exact trivial
  · rename_i hlength
    apply Except.RaisesOnly.bind (raisesOnly_unpackHH (not_not.mp hlength))
    rintro ⟨address, value⟩
    exact WriteSingleRegisterRequest.raisesOnly_postInit address value

theorem raisesOnly_decodeMaskWriteRegisterRequest (payload : Bytes) :
    (decodeMaskWriteRegisterRequest payload).RaisesOnly IsValueError := by
  unfold decodeMaskWriteRegisterRequest
  split
  · exact trivial
  · rename_i hlength
    apply Except.RaisesOnly.bind (raisesOnly_unpackHHH (not_not.mp hlength))
    rintro ⟨address, andMask, orMask⟩
    exact MaskWriteRegisterRequest.raisesOnly_postInit address andMask orMask

/-- Once the byte count agrees with the payload, the bits of the count are there to be unpacked. -/
theorem raisesOnly_decodeWriteMultipleCoilsRequest (payload : Bytes) :
    (decodeWriteMultipleCoilsRequest payload).RaisesOnly IsValueError := by
  by_cases hshort : payload.length < 5
  · rw [decodeWriteMultipleCoilsRequest, if_pos hshort]
    exact trivial
  · obtain ⟨address, count, byteCount, bitBytes, haddress, hcount, rfl⟩ :=
      exists_head_of_five_le_length (Nat.le_of_not_lt hshort)
    rw [decodeWriteMultipleCoilsRequest_layout byteCount bitBytes haddress hcount]
    split
    · exact trivial
    · split
      · exact trivial
      · obtain ⟨bits, rfl⟩ := Int.eq_ofNat_of_zero_le hcount.1
        have henough : (bits + 7) / 8 ≤ bitBytes.length := by omega
        rw [unpackBits_eq henough, Except.ok_bind]
        exact WriteMultipleCoilsRequest.raisesOnly_postInit address _

theorem raisesOnly_decodeRegisterValues (count : Int) (byteCount : UInt8) (registerBytes : Bytes) :
    (decodeRegisterValues count byteCount registerBytes).RaisesOnly IsValueError := by
  unfold decodeRegisterValues
  split
  · exact trivial
  · split
    · exact trivial
    · split
      · exact trivial
      · rw [unpackWords, if_pos (by omega)]
        exact trivial

theorem raisesOnly_decodeWriteMultipleRegistersRequest (payload : Bytes) :
    (decodeWriteMultipleRegistersRequest payload).RaisesOnly IsValueError := by
  by_cases hshort : payload.length < 5
  · rw [decodeWriteMultipleRegistersRequest, if_pos hshort]
    exact trivial
  · obtain ⟨address, count, byteCount, registerBytes, haddress, hcount, rfl⟩ :=
      exists_head_of_five_le_length (Nat.le_of_not_lt hshort)
    rw [decodeWriteMultipleRegistersRequest_layout byteCount registerBytes haddress hcount]
    apply Except.RaisesOnly.bind (raisesOnly_decodeRegisterValues count byteCount registerBytes)
    intro values
    exact WriteMultipleRegistersRequest.raisesOnly_postInit address values

theorem raisesOnly_decodeReadWriteMultipleRegistersRequest (payload : Bytes) :
    (decodeReadWriteMultipleRegistersRequest payload).RaisesOnly IsValueError := by
  by_cases hshort : payload.length < 9
  · rw [decodeReadWriteMultipleRegistersRequest, if_pos hshort]
    exact trivial
  · obtain ⟨readAddress, readCount, writeAddress, writeCount, byteCount, registerBytes, hread,
        hreadCount, hwrite, hwriteCount, rfl⟩ :=
      exists_head_of_nine_le_length (Nat.le_of_not_lt hshort)
    rw [decodeReadWriteMultipleRegistersRequest_layout byteCount registerBytes hread hreadCount
      hwrite hwriteCount]
    apply Except.RaisesOnly.bind
      (raisesOnly_decodeRegisterValues writeCount byteCount registerBytes)
    intro values
    exact ReadWriteMultipleRegistersRequest.raisesOnly_postInit readAddress readCount writeAddress
      values

/-- With the MEI type of device identification the registry is not consulted. -/
theorem raisesOnly_decodeEncapsulatedRequest (registry : CustomFunctionCodeRegistry)
    (functionCode : Int) {payload : Bytes} (hmei : payload.head? = some 0x0E) :
    (decodeEncapsulatedRequest registry functionCode payload).RaisesOnly IsValueError := by
  obtain ⟨rest, rfl⟩ := List.head?_eq_some_iff.mp hmei
  have hvalue : (((0x0E : UInt8).toNat : Nat) : Int) = readDeviceIdentificationMeiType := rfl
  unfold decodeEncapsulatedRequest
  split
  · rename_i hpayload
    cases hpayload
    rw [if_pos hvalue]
    apply Except.RaisesOnly.bind (ReadDeviceIdentificationRequest.raisesOnly_postInit _ _ _)
    intro request
    exact trivial
  · rename_i hpayload
    cases hpayload
    rw [if_pos hvalue]
    exact trivial
  · rename_i hpayload
    cases hpayload

theorem raisesOnly_decodeRequestPdu_of_supported {head : UInt8} {payload : Bytes}
    (h : ¬IsUnsupportedRequest head payload) :
    (decodeRequestPdu .empty (head :: payload)).RaisesOnly IsValueError := by
  rw [decodeRequestPdu]
  split_ifs with hreads hcoil hregister hcoils hregisters hmask hreadWrite hencapsulated
  · exact (raisesOnly_decodeReadRequest _ payload).map _
  · exact (raisesOnly_decodeWriteSingleCoilRequest payload).map _
  · exact (raisesOnly_decodeWriteSingleRegisterRequest payload).map _
  · exact (raisesOnly_decodeWriteMultipleCoilsRequest payload).map _
  · exact (raisesOnly_decodeWriteMultipleRegistersRequest payload).map _
  · exact (raisesOnly_decodeMaskWriteRegisterRequest payload).map _
  · exact (raisesOnly_decodeReadWriteMultipleRegistersRequest payload).map _
  · apply raisesOnly_decodeEncapsulatedRequest
    by_contra hmei
    exact h (.inr ⟨hencapsulated, hmei⟩)
  · exfalso
    apply h
    left
    intro standard hcode
    cases standard with
    | readCoils => exact hreads (.inl hcode)
    | readDiscreteInputs => exact hreads (.inr (.inl hcode))
    | readHoldingRegisters => exact hreads (.inr (.inr (.inl hcode)))
    | readInputRegisters => exact hreads (.inr (.inr (.inr hcode)))
    | writeSingleCoil => exact hcoil hcode
    | writeSingleRegister => exact hregister hcode
    | writeMultipleCoils => exact hcoils hcode
    | writeMultipleRegisters => exact hregisters hcode
    | maskWriteRegister => exact hmask hcode
    | readWriteMultipleRegisters => exact hreadWrite hcode
    | encapsulatedInterfaceTransport => exact hencapsulated hcode

theorem decodeRequestPdu_of_unsupported {head : UInt8} {payload : Bytes}
    (h : IsUnsupportedRequest head payload) :
    decodeRequestPdu .empty (head :: payload) =
      .error (.modbusPDUError ("Unsupported function code: " ++ toString (head.toNat : Int))) := by
  rw [decodeRequestPdu_custom h]
  exact decodeCustomRequest_of_lookup_none payload rfl

/-- The two errors the connection loop turns into an exception response. -/
def PyError.IsReported : PyError → Prop
  | .valueError _ => True
  | .modbusPDUError _ => True
  | _ => False

theorem PyError.IsValueError.isReported {error : PyError} (h : error.IsValueError) :
    error.IsReported := by
  obtain ⟨message, rfl⟩ := isValueError_iff.mp h
  exact trivial

/-- Every error of decoding is one the connection loop reports. -/
theorem raisesOnly_decodeRequestPdu (data : Bytes) :
    (decodeRequestPdu .empty data).RaisesOnly PyError.IsReported := by
  cases data with
  | nil => exact trivial
  | cons head payload =>
      by_cases hunsupported : IsUnsupportedRequest head payload
      · rw [decodeRequestPdu_of_unsupported hunsupported]
        exact trivial
      · exact (raisesOnly_decodeRequestPdu_of_supported hunsupported).mono
          fun raised hvalue => hvalue.isReported

/-- `ModbusPDUError` is the error of the payloads that no branch of the dispatcher handles. -/
theorem decodeRequestPdu_modbusPDUError_iff (data : Bytes) :
    (∃ message, decodeRequestPdu .empty data = .error (.modbusPDUError message)) ↔
      ∃ head payload, data = head :: payload ∧ IsUnsupportedRequest head payload := by
  constructor
  · rintro ⟨message, herror⟩
    cases data with
    | nil => cases herror
    | cons head payload =>
        refine ⟨head, payload, rfl, ?_⟩
        by_contra hsupported
        have hvalue := raisesOnly_decodeRequestPdu_of_supported hsupported
        rw [herror] at hvalue
        exact hvalue
  · rintro ⟨head, payload, rfl, hunsupported⟩
    exact ⟨_, decodeRequestPdu_of_unsupported hunsupported⟩

end ClearModbus
