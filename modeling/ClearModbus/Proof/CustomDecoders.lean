import ClearModbus.Proof.ResponseCodec

/-!
# Custom decoders do not disturb the standard protocol

A registration puts a decoder under a code of seven bits and changes nothing else. The dispatchers
consult the registry for the one function code they have not handled themselves, so two registries
decode alike wherever that code is standard, has its exception bit set, or maps to the same decoder.
-/

namespace ClearModbus

namespace CustomFunctionCodeRegistry

variable {registry : CustomFunctionCodeRegistry}

/-- A registration raises and changes nothing, or it puts a decoder under a free code of seven
bits. -/
theorem runOn_perform (registration : Registration) (registry : CustomFunctionCodeRegistry) :
    (Exec.runOn registration.perform registry).2 = registry ∨
      (∃ functionCode decoder, functionCode ≤ 0x7F ∧
        (Exec.runOn registration.perform registry).2 = { registry with
          requestDecoders := registry.requestDecoders ++ [(functionCode, decoder)] }) ∨
      ∃ functionCode decoder, (Exec.runOn registration.perform registry).2 = { registry with
        responseDecoders := registry.responseDecoders ++ [(functionCode, decoder)] } := by
  cases registration with
  | requestDecoder functionCode decoder =>
      rw [Registration.perform, registerRequestDecoder]
      split
      · exact .inl rfl
      · rename_i hcode
        rw [Exec.runOn_bind, Exec.runOn_get]
        dsimp only
        split
        · exact .inl rfl
        · exact .inr (.inl ⟨functionCode, decoder, (not_not.mp hcode).2, rfl⟩)
  | responseDecoder functionCode decoder =>
      rw [Registration.perform, registerResponseDecoder]
      split
      · exact .inl rfl
      · rw [Exec.runOn_bind, Exec.runOn_get]
        dsimp only
        split
        · exact .inl rfl
        · exact .inr (.inr ⟨functionCode, decoder, rfl⟩)

def LeavesExceptionCodes (registry : CustomFunctionCodeRegistry) : Prop :=
  ∀ code : Int, 0x7F < code → registry.requestDecoders.lookup code = none

theorem leavesExceptionCodes_perform (registration : Registration)
    (h : registry.LeavesExceptionCodes) :
    LeavesExceptionCodes (Exec.runOn registration.perform registry).2 := by
  rcases runOn_perform registration registry with hsame | ⟨functionCode, decoder, hcode, hnext⟩ |
    ⟨functionCode, decoder, hnext⟩
  · rw [hsame]
    exact h
  · intro code hexception
    have hne : (code == functionCode) = false := beq_false_of_ne (by omega)
    rw [hnext, List.lookup_append, h code hexception, List.lookup_cons, hne]
    rfl
  · rw [hnext]
    exact h

theorem leavesExceptionCodes_afterRegistrations (registrations : List Registration) :
    (afterRegistrations registrations).LeavesExceptionCodes := by
  have hrun : ∀ (registrations : List Registration) (registry : CustomFunctionCodeRegistry),
      registry.LeavesExceptionCodes → LeavesExceptionCodes (registrations.foldl
        (fun registry registration => (Exec.runOn registration.perform registry).2) registry) := by
    intro registrations
    induction registrations with
    | nil => exact fun registry h => h
    | cons registration registrations ih =>
        intro registry h
        exact ih _ (leavesExceptionCodes_perform registration h)
  exact hrun registrations empty fun code hcode => rfl

end CustomFunctionCodeRegistry

open CustomFunctionCodeRegistry

variable {left right registry : CustomFunctionCodeRegistry}

theorem decodeCustomRequest_congr {functionCode : Int} (payload : Bytes)
    (h : left.requestDecoders.lookup functionCode = right.requestDecoders.lookup functionCode) :
    decodeCustomRequest left functionCode payload =
      decodeCustomRequest right functionCode payload := by
  rw [decodeCustomRequest, decodeRequest, h]
  rfl

/-- The registry is consulted for the function code of the PDU only. -/
theorem decodeRequestPdu_congr {head : UInt8} (payload : Bytes)
    (h : left.requestDecoders.lookup (head.toNat : Int) =
      right.requestDecoders.lookup (head.toNat : Int)) :
    decodeRequestPdu left (head :: payload) = decodeRequestPdu right (head :: payload) := by
  have hcustom := decodeCustomRequest_congr payload h
  have hencapsulated : decodeEncapsulatedRequest left head.toNat payload =
      decodeEncapsulatedRequest right head.toNat payload := by
    unfold decodeEncapsulatedRequest
    rw [hcustom]
  simp only [decodeRequestPdu, hcustom, hencapsulated]

/-- A request the dispatcher decodes, or refuses, without the registry: a standard code other than
`0x2B`, a code with the exception bit, or `0x2B` with the MEI type of device identification. -/
def IsStandardRequest (head : UInt8) (payload : Bytes) : Prop :=
  (∃ standard : FunctionCode, standard ≠ .encapsulatedInterfaceTransport ∧
    (head.toNat : Int) = standard.code) ∨
  isExceptionFunctionCode head.toNat ∨
  ((head.toNat : Int) = FunctionCode.encapsulatedInterfaceTransport.code ∧
    payload.head? = some 0x0E)

def IsUnsupportedRequest (head : UInt8) (payload : Bytes) : Prop :=
  (∀ standard : FunctionCode, (head.toNat : Int) ≠ standard.code) ∨
  ((head.toNat : Int) = FunctionCode.encapsulatedInterfaceTransport.code ∧
    payload.head? ≠ some 0x0E)

theorem isUnsupportedRequest_of_not_isStandardRequest {head : UInt8} {payload : Bytes}
    (h : ¬IsStandardRequest head payload) : IsUnsupportedRequest head payload := by
  by_cases hencapsulated : (head.toNat : Int) = FunctionCode.encapsulatedInterfaceTransport.code
  · right
    exact ⟨hencapsulated, fun hmei => h (.inr (.inr ⟨hencapsulated, hmei⟩))⟩
  · left
    intro standard hcode
    by_cases hstandard : standard = .encapsulatedInterfaceTransport
    · exact hencapsulated (hstandard ▸ hcode)
    · exact h (.inl ⟨standard, hstandard, hcode⟩)

theorem lookup_eq_none_of_isException {code : UInt8} (hregistry : registry.LeavesExceptionCodes)
    (h : isExceptionFunctionCode code.toNat) :
    registry.requestDecoders.lookup (code.toNat : Int) = none := by
  apply hregistry
  have hbit : Int.land code.toNat 0x80 ≠ 0 := of_decide_eq_true h
  by_contra hlow
  apply hbit
  have hclear : code.toNat.testBit 7 = false := Nat.testBit_eq_false_of_lt (by omega)
  have hand : code.toNat &&& 2 ^ 7 = 0 := by
    rw [Nat.and_two_pow, hclear]
    rfl
  exact congrArg Int.ofNat hand

theorem decodeRequestPdu_standard {head : UInt8} {payload : Bytes}
    (hleft : left.LeavesExceptionCodes) (hright : right.LeavesExceptionCodes)
    (h : IsStandardRequest head payload) :
    decodeRequestPdu left (head :: payload) = decodeRequestPdu right (head :: payload) := by
  rcases h with ⟨standard, hne, hcode⟩ | hexception | ⟨hcode, hmei⟩
  · simp only [decodeRequestPdu, hcode]
    cases standard with
    | encapsulatedInterfaceTransport => exact absurd rfl hne
    | _ => rfl
  · apply decodeRequestPdu_congr
    rw [lookup_eq_none_of_isException hleft hexception,
      lookup_eq_none_of_isException hright hexception]
  · simp only [decodeRequestPdu, hcode]
    match payload, hmei with
    | [_], hmei => cases hmei; rfl
    | [_, _], hmei => cases hmei; rfl
    | [_, _, _], hmei => cases hmei; rfl
    | _ :: _ :: _ :: _ :: _, hmei => cases hmei; rfl

theorem decodeCustomRequest_of_lookup {functionCode : Int} {decoder : RequestDecoder}
    (payload : Bytes) (h : registry.requestDecoders.lookup functionCode = some decoder) :
    decodeCustomRequest registry functionCode payload = decoder payload := by
  rw [decodeCustomRequest, decodeRequest, h]
  dsimp only
  cases decoder payload with
  | ok request => rfl
  | error raised => rfl

theorem decodeCustomRequest_of_lookup_none {functionCode : Int} (payload : Bytes)
    (h : registry.requestDecoders.lookup functionCode = none) :
    decodeCustomRequest registry functionCode payload =
      .error (.modbusPDUError ("Unsupported function code: " ++ toString functionCode)) := by
  rw [decodeCustomRequest, decodeRequest, h]
  rfl

theorem decodeEncapsulatedRequest_custom {functionCode : Int} {payload : Bytes}
    (h : payload.head? ≠ some 0x0E) :
    decodeEncapsulatedRequest registry functionCode payload =
      decodeCustomRequest registry functionCode payload := by
  have hmei : ∀ (meiType : UInt8) (rest : Bytes), payload = meiType :: rest →
      ¬(meiType.toNat : Int) = readDeviceIdentificationMeiType := by
    intro meiType rest hpayload hvalue
    apply h
    have hbyte : meiType = 0x0E := by
      have hvalue : (meiType.toNat : Int) = 0x0E := hvalue
      apply UInt8.toNat_inj.mp
      change meiType.toNat = 14
      omega
    rw [hpayload, hbyte]
    rfl
  unfold decodeEncapsulatedRequest
  split
  · rw [if_neg (hmei _ _ rfl)]
  · rw [if_neg (hmei _ _ rfl)]
  · rfl

/-- Every other request reaches the custom decoders. -/
theorem decodeRequestPdu_custom {head : UInt8} {payload : Bytes}
    (h : IsUnsupportedRequest head payload) :
    decodeRequestPdu registry (head :: payload) =
      decodeCustomRequest registry head.toNat payload := by
  rcases h with hcode | ⟨hencapsulated, hmei⟩
  · have hreads : ¬((head.toNat : Int) = FunctionCode.readCoils.code ∨
        (head.toNat : Int) = FunctionCode.readDiscreteInputs.code ∨
        (head.toNat : Int) = FunctionCode.readHoldingRegisters.code ∨
        (head.toNat : Int) = FunctionCode.readInputRegisters.code) := by
      simp only [not_or]
      exact ⟨hcode _, hcode _, hcode _, hcode _⟩
    simp only [decodeRequestPdu]
    rw [if_neg hreads, if_neg (hcode .writeSingleCoil), if_neg (hcode .writeSingleRegister),
      if_neg (hcode .writeMultipleCoils), if_neg (hcode .writeMultipleRegisters),
      if_neg (hcode .maskWriteRegister), if_neg (hcode .readWriteMultipleRegisters),
      if_neg (hcode .encapsulatedInterfaceTransport)]
  · simp only [decodeRequestPdu, hencapsulated]
    exact decodeEncapsulatedRequest_custom hmei

/-- For a built-in request the response dispatcher never consults the registry. -/
theorem decodeNormalResponse_builtin (left right : CustomFunctionCodeRegistry) (payload : Bytes)
    (request : BuiltinRequest) :
    decodeNormalResponse left request.functionCode payload (.builtin request) =
      decodeNormalResponse right request.functionCode payload (.builtin request) := by
  cases request <;> rfl

theorem decodeResponsePdu_builtin (left right : CustomFunctionCodeRegistry) (data : Bytes)
    (request : BuiltinRequest) :
    decodeResponsePdu left data (.builtin request) =
      decodeResponsePdu right data (.builtin request) := by
  cases data with
  | nil => rfl
  | cons head payload =>
      simp only [decodeResponsePdu]
      by_cases hcode : (head.toNat : Int) ≠ (RequestPDU.builtin request).functionCode
      · rw [if_pos hcode, if_pos hcode]
      · rw [not_not.mp hcode, RequestPDU.functionCode_builtin,
          decodeNormalResponse_builtin left right]

/-- **Custom decoders cannot disturb the standard protocol**: however two registries came about,
they decode standard requests and the responses to built-in requests alike, and what they make of
any other request is up to the decoder of its function code. -/
theorem customDecoders_undisturbing (left right : List Registration) :
    (∀ head payload, IsStandardRequest head payload →
      decodeRequestPdu (afterRegistrations left) (head :: payload) =
        decodeRequestPdu (afterRegistrations right) (head :: payload)) ∧
    (∀ data (request : BuiltinRequest),
      decodeResponsePdu (afterRegistrations left) data (.builtin request) =
        decodeResponsePdu (afterRegistrations right) data (.builtin request)) ∧
    ∀ (head : UInt8) payload, ¬IsStandardRequest head payload →
      ((afterRegistrations left).requestDecoders.lookup (head.toNat : Int) =
          (afterRegistrations right).requestDecoders.lookup (head.toNat : Int) →
        decodeRequestPdu (afterRegistrations left) (head :: payload) =
          decodeRequestPdu (afterRegistrations right) (head :: payload)) ∧
      (∀ decoder,
        (afterRegistrations left).requestDecoders.lookup (head.toNat : Int) = some decoder →
        decodeRequestPdu (afterRegistrations left) (head :: payload) = decoder payload) ∧
      ((afterRegistrations left).requestDecoders.lookup (head.toNat : Int) = none →
        ∃ message, decodeRequestPdu (afterRegistrations left) (head :: payload) =
          .error (.modbusPDUError message)) := by
  refine ⟨?_, ?_, ?_⟩
  · intro head payload hstandard
    exact decodeRequestPdu_standard (leavesExceptionCodes_afterRegistrations left)
      (leavesExceptionCodes_afterRegistrations right) hstandard
  · intro data request
    exact decodeResponsePdu_builtin _ _ data request
  · intro head payload hcustom
    have hunsupported := isUnsupportedRequest_of_not_isStandardRequest hcustom
    refine ⟨decodeRequestPdu_congr payload, ?_, ?_⟩
    · intro decoder hlookup
      rw [decodeRequestPdu_custom hunsupported, decodeCustomRequest_of_lookup payload hlookup]
    · intro hlookup
      rw [decodeRequestPdu_custom hunsupported, decodeCustomRequest_of_lookup_none payload hlookup]
      exact ⟨_, rfl⟩

/-- A decoder registered for `0x03` does not get to see a read of holding registers. -/
theorem customDecoders_undisturbing_readHoldingRegisters :
    decodeRequestPdu (afterRegistrations [.requestDecoder 0x03 fun _ => .error .indexError])
        [0x03, 0, 0, 0, 1] =
      decodeRequestPdu (afterRegistrations []) [0x03, 0, 0, 0, 1] :=
  (customDecoders_undisturbing _ _).1 _ _ (.inl ⟨.readHoldingRegisters, by decide, rfl⟩)

end ClearModbus
