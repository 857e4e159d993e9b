import ClearModbus.Proof.Classification
import ClearModbus.Proof.DecodeErrors
import ClearModbus.Proof.FrameCodec

/-!
# The reply to one request PDU

While the register areas hold 16-bit values, what the server answers belongs to its request, so it
is encoded without raising. Any PDU is therefore answered with exactly one PDU that fits a frame and
starts with the function code it was asked with.
-/

namespace ClearModbus

structure MemoryDataStore.InRange (store : MemoryDataStore) : Prop where
  holdingRegisters : store.holdingRegisters.Holds IsRegisterValue
  inputRegisters : store.inputRegisters.Holds IsRegisterValue

theorem length_objectsWire_le (items : List DeviceIdentificationObject) :
    (objectsWire items).length ≤ 246 * items.length := by
  induction items with
  | nil => exact Nat.le_refl 0
  | cons item items ih =>
      have hmax : maxDeviceIdentificationObjectLength = 244 := rfl
      have hvalue := item.value_valid
      rw [objectsWire_cons, List.length_append, DeviceIdentificationObject.length_wire,
        List.length_cons]
      omega

/-- The counts of a request bound its response, unless it carries identification objects. -/
theorem Answers.length_wire_le_or {request : BuiltinRequest} {response : ResponsePDU}
    (h : Answers request response) :
    response.wire.length ≤ 253 ∨
      ∃ identification, response = .readDeviceIdentification identification := by
  have hbits : maxReadBits = 2000 := rfl
  have hregisters : maxReadRegisters = 125 := rfl
  cases h with
  | readCoils request values hcount =>
      left
      have hlast := request.count_valid.2
      simp only [ResponsePDU.wire, List.length_cons, BitString.length_pack]
      omega
  | readDiscreteInputs request values hcount =>
      left
      have hlast := request.count_valid.2
      simp only [ResponsePDU.wire, List.length_cons, BitString.length_pack]
      omega
  | readHoldingRegisters request values hcount hvalues =>
      left
      have hlast := request.count_valid.2
      simp only [ResponsePDU.wire, List.length_cons, length_words]
      omega
  | readInputRegisters request values hcount hvalues =>
      left
      have hlast := request.count_valid.2
      simp only [ResponsePDU.wire, List.length_cons, length_words]
      omega
  | readWriteMultipleRegisters request values hcount hvalues =>
      left
      have hlast := request.readCount_valid.2
      simp only [ResponsePDU.wire, List.length_cons, length_words]
      omega
  | readDeviceIdentification request response hcode => exact .inr ⟨response, rfl⟩
  | _ => exact .inl (Nat.le_of_ble_eq_true rfl)

theorem ReadDeviceIdentificationResponse.length_wire (response : ReadDeviceIdentificationResponse) :
    (ResponsePDU.readDeviceIdentification response).wire.length =
      7 + (objectsWire response.objects).length := by
  rw [ResponsePDU.wire, List.length_append]
  rfl

theorem Answers.length_wire_le {request : BuiltinRequest} {response : ResponsePDU}
    (h : Answers request response) : response.wire.length ≤ 65534 := by
  rcases h.length_wire_le_or with hlength | ⟨identification, rfl⟩
  · omega
  · have hobjects := identification.objects_valid
    have hwire := length_objectsWire_le identification.objects
    rw [identification.length_wire]
    omega

def sevenBits (head : UInt8) : UInt8 := head &&& 0x7F

theorem sevenBits_byte_functionCode (request : BuiltinRequest) :
    sevenBits (byte request.functionCode) = byte request.functionCode := by
  have hall : ∀ code ∈
      ([0x01, 0x02, 0x03, 0x04, 0x05, 0x06, 0x0F, 0x10, 0x16, 0x17, 0x2B] : List Int),
      sevenBits (byte code) = byte code := by decide
  exact hall _ request.functionCode_mem

theorem exists_head_of_eq_cons {request : BuiltinRequest} {data rest : Bytes}
    (h : data = byte request.functionCode :: rest) :
    ∃ head rest, data = head :: rest ∧ sevenBits head = byte request.functionCode :=
  ⟨_, rest, h, sevenBits_byte_functionCode request⟩

/-- The first byte of a response has the function code of its request in the low seven bits. -/
theorem Answers.exists_wire_eq_cons {request : BuiltinRequest} {response : ResponsePDU}
    (h : Answers request response) :
    ∃ head rest, response.wire = head :: rest ∧ sevenBits head = byte request.functionCode := by
  cases h with
  | exception request code hcode =>
      have hall : ∀ code ∈
          ([0x01, 0x02, 0x03, 0x04, 0x05, 0x06, 0x0F, 0x10, 0x16, 0x17, 0x2B] : List Int),
          sevenBits (byte (Int.lor code 0x80)) = byte code := by decide
      exact ⟨_, _, rfl, hall _ request.functionCode_mem⟩
  | _ => exact exists_head_of_eq_cons rfl

theorem BuiltinRequest.DecodesFrom.exists_eq_cons {request : BuiltinRequest} {data : Bytes}
    (h : request.DecodesFrom data) : ∃ rest, data = byte request.functionCode :: rest := by
  cases request with
  | writeMultipleCoils request =>
      obtain ⟨bitBytes, -, -, -, rfl⟩ := h
      exact ⟨_, rfl⟩
  | _ =>
      cases h
      exact ⟨_, rfl⟩

/-- A PDU that replies to `pdu`: it fits a frame, and its first byte agrees with the first byte of
`pdu` in the low seven bits, which are zero for an empty one. -/
structure RepliesTo (pdu reply : Bytes) : Prop where
  length_le : reply.length ≤ 65534
  head : ∃ head rest, reply = head :: rest ∧ sevenBits head = sevenBits (pdu.headD 0)

theorem Answers.repliesTo {request : BuiltinRequest} {response : ResponsePDU} {data : Bytes}
    (h : Answers request response) (hdata : request.DecodesFrom data) :
    RepliesTo data response.wire := by
  obtain ⟨head, rest, hwire, hhead⟩ := h.exists_wire_eq_cons
  obtain ⟨payload, rfl⟩ := hdata.exists_eq_cons
  refine ⟨h.length_wire_le, head, rest, hwire, ?_⟩
  rw [hhead, List.headD_cons, sevenBits_byte_functionCode]

theorem lor_exceptionBit (head : UInt8) :
    IsByte (Int.lor head.toNat 0x80) ∧
      sevenBits (byte (Int.lor head.toNat 0x80)) = sevenBits head := by
  have hlt : head.toNat ||| 0x80 < 2 ^ 8 := Nat.or_lt_two_pow head.toNat_lt (by decide)
  have hnat : Int.lor head.toNat 0x80 = ((head.toNat ||| 0x80 : Nat) : Int) := rfl
  rw [hnat]
  refine ⟨⟨Int.natCast_nonneg _, by omega⟩, ?_⟩
  apply UInt8.toNat_inj.mp
  rw [byte, Int.toNat_natCast, sevenBits, sevenBits, UInt8.toNat_and, UInt8.toNat_and,
    toNat_ofNat_of_lt hlt, Nat.and_or_distrib_right]
  have hbit : (0x80 : Nat) &&& (0x7F : UInt8).toNat = 0 := by decide
  rw [hbit, Nat.or_zero]

namespace ModbusTcpServer

variable {server : ModbusTcpServer} {store after : MemoryDataStore} {request : BuiltinRequest}
  {response : ResponsePDU}

theorem encodeExceptionResponse_eq (data : Bytes) (exceptionCode : ExceptionCode) :
    ∃ reply, encodeExceptionResponse data exceptionCode = .ok reply ∧ RepliesTo data reply := by
  have hcode : IsByte exceptionCode.code := by
    cases exceptionCode <;> decide
  -- An empty PDU has the function code 0.
  have hhead : encodeExceptionResponse data exceptionCode =
      ExceptionResponse.encode ⟨(data.headD 0).toNat, exceptionCode.code⟩ := by
    cases data <;> rfl
  obtain ⟨hbyte, hseven⟩ := lor_exceptionBit (data.headD 0)
  rw [hhead, ExceptionResponse.encode, bytesOf_eq_ok]
  · exact ⟨_, rfl, Nat.le_of_ble_eq_true rfl, _, _, rfl, hseven⟩
  · simp only [List.forall_mem_cons]
    exact ⟨hbyte, hcode, fun _ h => absurd h List.not_mem_nil⟩

theorem Handles.answers (hrange : store.InRange)
    (h : Handles server store request response after) : Answers request response := by
  cases h with
  | rejected request h => exact .exception request _ (by decide)
  | readCoils request values h => exact .readCoils request values h.length
  | readDiscreteInputs request values h => exact .readDiscreteInputs request values h.length
  | readHoldingRegisters request values h =>
      exact .readHoldingRegisters request values h.length (h.forall_mem hrange.holdingRegisters)
  | readInputRegisters request values h =>
      exact .readInputRegisters request values h.length (h.forall_mem hrange.inputRegisters)
  | writeSingleCoil request area h =>
      exact .writeSingleCoil request request.address request.value request.address_valid
  | writeSingleRegister request area h =>
      exact .writeSingleRegister request request.address request.value request.address_valid
        request.value_valid
  | writeMultipleCoils request area h =>
      exact .writeMultipleCoils request request.address request.values.length
        request.address_valid (isRegisterValue_count (by decide) request.count_valid)
  | writeMultipleRegisters request area h =>
      exact .writeMultipleRegisters request request.address request.values.length
        request.address_valid (isRegisterValue_count (by decide) request.count_valid)
  | maskWriteRegister request value area hread hwrite =>
      exact .maskWriteRegister request request.address request.andMask request.orMask
        request.address_valid request.andMask_valid request.orMask_valid
  | readWriteMultipleRegisters request area values hwrite hread =>
      have harea := hwrite.holds hrange.holdingRegisters request.values_valid
      exact .readWriteMultipleRegisters request values hread.length (hread.forall_mem harea)
  | readDeviceIdentification request response hcode hconfigured h =>
      exact .readDeviceIdentification request response hcode

theorem Handles.inRange (hrange : store.InRange)
    (h : Handles server store request response after) : after.InRange := by
  obtain ⟨hholding, hinput⟩ := hrange
  cases h with
  | writeSingleRegister request area h =>
      have hvalue : ∀ value ∈ [request.value], IsRegisterValue value := by
        simpa using request.value_valid
      exact ⟨h.holds hholding hvalue, hinput⟩
  | writeMultipleRegisters request area h =>
      exact ⟨h.holds hholding request.values_valid, hinput⟩
  | maskWriteRegister request value area hread hwrite =>
      have hvalue : ∀ masked ∈ [maskedValue value request.andMask request.orMask],
          IsRegisterValue masked := by
        simpa using isRegisterValue_maskedValue value request.andMask_valid request.orMask_valid
      exact ⟨hwrite.holds hholding hvalue, hinput⟩
  | readWriteMultipleRegisters request area values hwrite hread =>
      exact ⟨hwrite.holds hholding request.values_valid, hinput⟩
  | _ => exact ⟨hholding, hinput⟩

/-- The reply to the PDU of a request is the encoded response. -/
theorem runOn_replyPdu_of_handles {registry : CustomFunctionCodeRegistry} {pdu : Bytes}
    (hrange : store.InRange)
    (hdecode : decodeRequestPdu registry pdu = .ok (.builtin request))
    (hrun : Exec.runOn (server.handleRequest (.builtin request)) store = (.ok response, after))
    (h : Handles server store request response after) :
    Exec.runOn (server.replyPdu registry pdu) store = (.ok response.wire, after) := by
  rw [replyPdu, Exec.runOn_tryCatch, hdecode, Exec.runOn_liftM_bind]
  dsimp only
  rw [Exec.runOn_bind_ok hrun, (h.answers hrange).encode_eq]
  rfl

theorem runOn_replyPdu_of_error {registry : CustomFunctionCodeRegistry} {pdu : Bytes}
    {error : PyError} (hdecode : decodeRequestPdu registry pdu = .error error)
    (herror : error.IsReported) (store : MemoryDataStore) :
    ∃ reply, Exec.runOn (server.replyPdu registry pdu) store = (.ok reply, store) ∧
      RepliesTo pdu reply := by
  rw [replyPdu, Exec.runOn_tryCatch, hdecode, Exec.runOn_liftM_bind]
  cases error with
  | valueError message =>
      obtain ⟨reply, hreply, hreplies⟩ := encodeExceptionResponse_eq pdu .illegalDataValue
      exact ⟨reply, by dsimp only; rw [hreply]; rfl, hreplies⟩
  | modbusPDUError message =>
      obtain ⟨reply, hreply, hreplies⟩ := encodeExceptionResponse_eq pdu .illegalFunction
      exact ⟨reply, by dsimp only; rw [hreply]; rfl, hreplies⟩
  | _ => exact herror.elim

/-- Whatever a PDU holds, it is answered with one PDU, and the datastore stays in range. -/
theorem exists_reply (server : ModbusTcpServer) (hstore : store.WellFormed)
    (hrange : store.InRange) (pdu : Bytes) :
    ∃ reply after, Exec.runOn (server.replyPdu .empty pdu) store = (.ok reply, after) ∧
      RepliesTo pdu reply ∧ Relation.ReflTransGen ServerStep store after ∧ after.InRange := by
  have herrors := raisesOnly_decodeRequestPdu pdu
  cases hdecode : decodeRequestPdu .empty pdu with
  | error error =>
      rw [hdecode] at herrors
      obtain ⟨reply, hreply, hreplies⟩ := runOn_replyPdu_of_error hdecode herrors store
      exact ⟨reply, store, hreply, hreplies, .refl, hrange⟩
  | ok request =>
      obtain ⟨request, rfl, hdata⟩ := exists_decodesFrom hdecode
      obtain ⟨response, after, hrun, hhandles⟩ := answered server hstore request
      have hstep := ServerStep.request server (.builtin request) store
      rw [hrun] at hstep
      exact ⟨response.wire, after, runOn_replyPdu_of_handles hrange hdecode hrun hhandles,
        (hhandles.answers hrange).repliesTo hdata, .single hstep, hhandles.inRange hrange⟩

end ModbusTcpServer

end ClearModbus
