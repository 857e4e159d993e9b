import ClearModbus.Proof.ServerReply

/-!
# Every PDU fits a frame

A Modbus frame has room for 253 bytes of PDU. The limits of the constructors keep every request
within them, and the responses follow their requests: a read returns as many values as were asked
for, a write echoes fixed fields, and a device-identification response is fitted into what the 253
bytes leave. The datastore need not be one the constructor built: a call that returns has found a
covering block.
-/

namespace ClearModbus

/-- Encoding succeeds, with a function code and at least one byte behind it, within 253 bytes. -/
def FitsFrame (encoded : Except PyError Bytes) : Prop :=
  ∃ data, encoded = .ok data ∧ 2 ≤ data.length ∧ data.length ≤ 253

theorem BuiltinRequest.fitsFrame (request : BuiltinRequest) : FitsFrame request.encode :=
  ⟨request.wire, request.encode_eq, request.length_wire⟩

namespace ModbusTcpServer

open MemoryDataStore DataArea

variable {server : ModbusTcpServer} {store after : MemoryDataStore} {response : ResponsePDU}

theorem reads_of_runOn {α : Type} {area : DataArea α} {address count : Int} {values : List α}
    {program : Exec PyError MemoryDataStore (List α)}
    (hprogram : Exec.runOn program store = (area.getValues address count, store))
    (h : Exec.runOn program store = (.ok values, after)) :
    area.Reads address count values ∧ store = after := by
  rw [hprogram, Prod.mk.injEq] at h
  exact ⟨reads_of_getValues h.1, h.2⟩

/-- A request that reads one range and returns. -/
theorem exists_reads_of_dispatch {α : Type} {area : DataArea α} {address count : Int}
    {program : Exec PyError MemoryDataStore (List α)} {respond : List α → ResponsePDU}
    (hprogram : Exec.runOn program store = (area.getValues address count, store))
    (h : Exec.runOn (program >>= fun values => pure (respond values)) store =
      (.ok response, after)) :
    ∃ values, area.Reads address count values ∧ respond values = response ∧ store = after := by
  obtain ⟨values, middle, hget, h⟩ := Exec.runOn_bind_eq_ok_iff.mp h
  obtain ⟨hreads, rfl⟩ := reads_of_runOn hprogram hget
  cases h
  exact ⟨values, hreads, rfl, rfl⟩

theorem writes_of_runOn_setCoils {address : Int} {values : List Bool}
    (h : Exec.runOn (setCoils address (values.map .bool)) store = (.ok (), after)) :
    ∃ area, store.coils.Writes address values area ∧ { store with coils := area } = after := by
  rw [runOn_setCoils, Exec.replaced_eq_ok_iff, Except.map_eq_ok_iff] at h
  obtain ⟨area, hset, hafter⟩ := h
  obtain ⟨validated, hvalidated, hwrites⟩ := exists_writes_of_setValues hset
  rw [mapM_validateBit] at hvalidated
  cases hvalidated
  exact ⟨area, hwrites, hafter⟩

theorem writes_of_runOn_setHoldingRegisters {address : Int} {values : List Int}
    (hvalues : ∀ value ∈ values, IsRegisterValue value)
    (h : Exec.runOn (setHoldingRegisters address (values.map .int)) store = (.ok (), after)) :
    ∃ area, store.holdingRegisters.Writes address values area ∧
      { store with holdingRegisters := area } = after := by
  rw [runOn_setHoldingRegisters, Exec.replaced_eq_ok_iff, Except.map_eq_ok_iff] at h
  obtain ⟨area, hset, hafter⟩ := h
  obtain ⟨validated, hvalidated, hwrites⟩ := exists_writes_of_setValues hset
  rw [mapM_validateRegister hvalues] at hvalidated
  cases hvalidated
  exact ⟨area, hwrites, hafter⟩

/-- A dispatch that returns had one of the outcomes, on any datastore. -/
theorem handles_of_dispatch {request : BuiltinRequest}
    (h : Exec.runOn (server.dispatch (.builtin request)) store = (.ok response, after)) :
    Handles server store request response after := by
  cases request with
  | readCoils request =>
      obtain ⟨values, hreads, rfl, rfl⟩ := exists_reads_of_dispatch (runOn_getCoils _ _ store) h
      exact .readCoils request values hreads
  | readDiscreteInputs request =>
      obtain ⟨values, hreads, rfl, rfl⟩ :=
        exists_reads_of_dispatch (runOn_getDiscreteInputs _ _ store) h
      exact .readDiscreteInputs request values hreads
  | readHoldingRegisters request =>
      obtain ⟨values, hreads, rfl, rfl⟩ :=
        exists_reads_of_dispatch (runOn_getHoldingRegisters _ _ store) h
      exact .readHoldingRegisters request values hreads
  | readInputRegisters request =>
      obtain ⟨values, hreads, rfl, rfl⟩ :=
        exists_reads_of_dispatch (runOn_getInputRegisters _ _ store) h
      exact .readInputRegisters request values hreads
  | writeSingleCoil request =>
      obtain ⟨done, middle, hset, h⟩ := Exec.runOn_bind_eq_ok_iff.mp h
      have hset : Exec.runOn (setCoils request.address ([request.value].map .bool)) store =
        (.ok (), middle) := hset
      obtain ⟨area, hwrites, rfl⟩ := writes_of_runOn_setCoils hset
      cases h
      exact .writeSingleCoil request area hwrites
  | writeSingleRegister request =>
      obtain ⟨done, middle, hset, h⟩ := Exec.runOn_bind_eq_ok_iff.mp h
      have hset : Exec.runOn (setHoldingRegisters request.address ([request.value].map .int))
        store = (.ok (), middle) := hset
      have hvalue : ∀ value ∈ [request.value], IsRegisterValue value := by
        simpa using request.value_valid
      obtain ⟨area, hwrites, rfl⟩ := writes_of_runOn_setHoldingRegisters hvalue hset
      cases h
      exact .writeSingleRegister request area hwrites
  | writeMultipleCoils request =>
      obtain ⟨done, middle, hset, h⟩ := Exec.runOn_bind_eq_ok_iff.mp h
      obtain ⟨area, hwrites, rfl⟩ := writes_of_runOn_setCoils hset
      cases h
      exact .writeMultipleCoils request area hwrites
  | writeMultipleRegisters request =>
      obtain ⟨done, middle, hset, h⟩ := Exec.runOn_bind_eq_ok_iff.mp h
      obtain ⟨area, hwrites, rfl⟩ := writes_of_runOn_setHoldingRegisters request.values_valid hset
      cases h
      exact .writeMultipleRegisters request area hwrites
  | maskWriteRegister request =>
      obtain ⟨values, middle, hget, h⟩ := Exec.runOn_bind_eq_ok_iff.mp h
      obtain ⟨hreads, rfl⟩ := reads_of_runOn (runOn_getHoldingRegisters _ _ store) hget
      obtain ⟨value, hvalue, h⟩ := Exec.runOn_liftM_bind_eq_ok_iff.mp h
      obtain ⟨done, middle, hset, h⟩ := Exec.runOn_bind_eq_ok_iff.mp h
      obtain ⟨cell, rfl⟩ : ∃ cell, values = [cell] :=
        List.length_eq_one_iff.mp (by have := hreads.length; omega)
      cases hvalue
      have hset : Exec.runOn (setHoldingRegisters request.address
          ([maskedValue value request.andMask request.orMask].map .int)) store =
        (.ok (), middle) := hset
      have hmasked : ∀ masked ∈ [maskedValue value request.andMask request.orMask],
          IsRegisterValue masked := by
        simpa using isRegisterValue_maskedValue value request.andMask_valid request.orMask_valid
      obtain ⟨area, hwrites, rfl⟩ := writes_of_runOn_setHoldingRegisters hmasked hset
      cases h
      exact .maskWriteRegister request value area hreads hwrites
  | readWriteMultipleRegisters request =>
      obtain ⟨before, middle, hget, h⟩ := Exec.runOn_bind_eq_ok_iff.mp h
      obtain ⟨-, rfl⟩ := reads_of_runOn (runOn_getHoldingRegisters _ _ store) hget
      obtain ⟨done, middle, hset, h⟩ := Exec.runOn_bind_eq_ok_iff.mp h
      obtain ⟨area, hwrites, rfl⟩ := writes_of_runOn_setHoldingRegisters request.values_valid hset
      obtain ⟨values, middle, hagain, h⟩ := Exec.runOn_bind_eq_ok_iff.mp h
      obtain ⟨hreads, rfl⟩ := reads_of_runOn (runOn_getHoldingRegisters _ _ _) hagain
      cases h
      exact .readWriteMultipleRegisters request area values hwrites hreads
  | readDeviceIdentification request =>
      -- The answer does not depend on the datastore.
      obtain ⟨answer, final, hrun, hhandles⟩ :=
        handles_readDeviceIdentification server store request
      rw [runOn_handleRequest_of_ok h, Prod.mk.injEq] at hrun
      obtain ⟨hanswer, rfl⟩ := hrun
      cases hanswer
      exact hhandles

/-- What `handle_request` returns is the dispatched response or an exception response. -/
theorem runOn_handleRequest_eq_ok {request : BuiltinRequest}
    (h : Exec.runOn (server.handleRequest (.builtin request)) store = (.ok response, after)) :
    Handles server store request response after ∨
      ∃ code, IsByte code ∧ response = .exception ⟨request.functionCode, code⟩ := by
  rw [handleRequest, handleRequestOver, Exec.runOn_tryCatch] at h
  rcases hdispatch : Exec.runOn (server.dispatch (.builtin request)) store with ⟨outcome, middle⟩
  rw [hdispatch] at h
  cases outcome with
  | ok value =>
      cases h
      exact .inl (handles_of_dispatch hdispatch)
  | error raised =>
      right
      cases raised with
      | invalidAddressError address count =>
          cases h
          exact ⟨ExceptionCode.illegalDataAddress.code, by decide, rfl⟩
      | readOnlyDataBlockError address =>
          cases h
          exact ⟨ExceptionCode.illegalDataAddress.code, by decide, rfl⟩
      | invalidValueError value =>
          cases h
          exact ⟨ExceptionCode.illegalDataValue.code, by decide, rfl⟩
      | _ => cases h

theorem two_le_length_wire {request : BuiltinRequest} (h : Answers request response) :
    2 ≤ response.wire.length := by
  cases h <;> exact Nat.le_add_left 2 _

/-- The objects of a response fill at most what its header leaves of the 253 bytes. -/
theorem length_objectsWire_le_of_read {request : ReadDeviceIdentificationRequest}
    {identification : ReadDeviceIdentificationResponse}
    (hconfigured : ¬(request.readCode = 4 ∧ request.objectId ∉ server.deviceIdentification.keys))
    (h : readDeviceIdentification request server.deviceIdentification =
      .ok (.readDeviceIdentification identification)) :
    (objectsWire identification.objects).length ≤ 246 := by
  obtain ⟨items, -, -, hselect⟩ := server.deviceIdentification.exists_sortedObjects
  obtain ⟨fitted, hread, -, hobjects, -⟩ := exists_readDeviceIdentification request
    server.deviceIdentification hconfigured (hselect request.readCode request.objectId)
  rw [hread] at h
  cases h
  have hbudget := length_objectsWire_fitObjects (by decide : (0 : Int) ≤ 253 - 7)
    (items.filter fun item => isSelected request.readCode request.objectId item.objectId)
  rw [hobjects, fitDeviceIdentificationObjects]
  omega

theorem Handles.length_wire_le {request : BuiltinRequest} (hrange : store.InRange)
    (h : Handles server store request response after) : response.wire.length ≤ 253 := by
  rcases (h.answers hrange).length_wire_le_or with hlength | ⟨identification, rfl⟩
  · exact hlength
  · cases h with
    | readDeviceIdentification request _ hcode hconfigured hread =>
        have hobjects := length_objectsWire_le_of_read hconfigured hread
        rw [identification.length_wire]
        omega

theorem fitsFrame_of_handleRequest {request : BuiltinRequest} (hrange : store.InRange)
    (h : Exec.runOn (server.handleRequest (.builtin request)) store = (.ok response, after)) :
    FitsFrame response.encode := by
  rcases runOn_handleRequest_eq_ok h with hhandles | ⟨code, hcode, rfl⟩
  · have hanswers := hhandles.answers hrange
    exact ⟨response.wire, hanswers.encode_eq, two_le_length_wire hanswers,
      hhandles.length_wire_le hrange⟩
  · exact ⟨_, (Answers.exception request code hcode).encode_eq, Nat.le_refl 2,
      Nat.le_of_ble_eq_true rfl⟩

/-- **Every PDU the library sends fits a frame**: the requests its constructors accept, and what
`handle_request` returns for them while the register areas hold 16-bit values. -/
theorem pdus_fit_frame (server : ModbusTcpServer) (store : MemoryDataStore)
    (hstore : store.InRange) (request : BuiltinRequest) :
    FitsFrame request.encode ∧
      ∀ response after,
        Exec.runOn (server.handleRequest (.builtin request)) store = (.ok response, after) →
          FitsFrame response.encode :=
  ⟨request.fitsFrame, fun _ _ h => fitsFrame_of_handleRequest hstore h⟩

/-- A read of the one register of a datastore. -/
theorem pdus_fit_frame_read :
    ∃ (store : MemoryDataStore) (request : ReadHoldingRegistersRequest),
      MemoryDataStore.init [⟨0, [5], false⟩] [] [] [] = .ok store ∧
      FitsFrame request.encode ∧
      Exec.runOn ((⟨.empty⟩ : ModbusTcpServer).handleRequest
        (.builtin (.readHoldingRegisters request))) store =
          (.ok (.readRegisters ⟨0x03, [5]⟩), store) ∧
      FitsFrame (ResponsePDU.readRegisters ⟨0x03, [5]⟩).encode := by
  let store : MemoryDataStore :=
    { holdingRegisters := DataArea.ofBlocks [⟨0, [5], false⟩]
      inputRegisters := DataArea.ofBlocks []
      coils := DataArea.ofBlocks [], discreteInputs := DataArea.ofBlocks [] }
  let request : ReadHoldingRegistersRequest := ⟨0, 1, by decide, by decide⟩
  have hrange : store.InRange := by
    constructor <;> decide
  have hinit : MemoryDataStore.init [⟨0, [5], false⟩] [] [] [] = .ok store := rfl
  have hget : store.holdingRegisters.getValues 0 1 = .ok [5] :=
    getValues_of_reads (wellFormed_init hinit).holdingRegisters
      ⟨⟨0, [5], false⟩, List.mem_cons_self, rfl, rfl⟩
  have hread : Exec.runOn (getHoldingRegisters 0 1) store = (.ok [5], store) := by
    rw [runOn_getHoldingRegisters, hget]
  have hrun : Exec.runOn ((⟨.empty⟩ : ModbusTcpServer).handleRequest
      (.builtin (.readHoldingRegisters request))) store =
        (.ok (.readRegisters ⟨0x03, [5]⟩), store) := by
    apply runOn_handleRequest_of_ok
    exact Exec.runOn_bind_ok hread
  have hfits := pdus_fit_frame ⟨.empty⟩ store hrange (.readHoldingRegisters request)
  exact ⟨store, request, hinit, hfits.1, hrun, hfits.2 _ _ hrun⟩

end ModbusTcpServer

end ClearModbus
