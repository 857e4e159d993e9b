import ClearModbus.Program
import ClearModbus.Proof.Linearizability

/-!
# Programs see the abstract server

Every high-level operation is built alike: its constructor, `execute`, the check for an exception
response, and comparisons that the server's own answers pass. Between two calls nothing is on its
way, so one call after the other gives what the abstract server gives.
-/

namespace ClearModbus

variable {σ : Type} {execute : Execute σ} {unitId : Option Int} {state final : σ}
  {server : ModbusTcpServer} {store after : MemoryDataStore} {device : Device}

/-- An operation that executes the request its arguments make. The rest of it passes what a server
answers, unless that is an exception response. -/
inductive IsOperation (execute : Execute σ) (unitId : Option Int) :
    Except PyError BuiltinRequest → Exec PyError σ ResponsePDU → Prop where
  | intro {ρ α : Type} (construct : Except PyError ρ) (wrap : ρ → BuiltinRequest)
      (next : ρ → ResponsePDU → Exec PyError σ α) (wrapResponse : α → ResponsePDU)
      (haccepts : ∀ inner server store response after, construct = .ok inner →
        ModbusTcpServer.Handles server store (wrap inner) response after →
        (∃ exception, response = .exception exception) ∨ ∃ value, wrapResponse value = response ∧
          ∀ state, Exec.runOn (next inner response) state = (.ok value, state)) :
      IsOperation execute unitId (wrap <$> construct)
        ((liftM construct >>= fun pdu =>
          ModbusClientOperations.request execute (wrap pdu) unitId >>= next pdu) >>= fun returned =>
            pure (wrapResponse returned))

theorem runOn_request {builtin : BuiltinRequest} {response : ResponsePDU}
    (hexecute : Exec.runOn (execute (.builtin builtin) unitId) state = (.ok response, final)) :
    Exec.runOn (ModbusClientOperations.request execute builtin unitId) state =
      (ModbusTcpServer.returned response, final) := by
  rw [ModbusClientOperations.request, Exec.runOn_bind_ok hexecute, Exec.runOn_liftM_bind,
    ModbusTcpServer.returned]
  cases raiseForExceptionResponse response <;> rfl

theorem eq_of_returned {response found : ResponsePDU}
    (h : ModbusTcpServer.returned response = .ok found) : response = found := by
  cases response with
  | exception exception => cases h
  | _ =>
      cases h
      rfl

namespace IsOperation

variable {builtin : BuiltinRequest} {construct : Except PyError BuiltinRequest}
  {operation : Exec PyError σ ResponsePDU} {error : PyError}

/-- Arguments that make no request are raised, and nothing is done. -/
theorem runOn_of_rejected (h : IsOperation execute unitId construct operation)
    (hconstruct : construct = .error error) (state : σ) :
    Exec.runOn operation state = (.error error, state) := by
  cases h with
  | intro construct wrap next wrapResponse haccepts =>
      cases construct with
      | ok inner => cases hconstruct
      | error raised =>
          cases hconstruct
          rfl

/-- What the client raises is raised. -/
theorem runOn_of_raised (h : IsOperation execute unitId construct operation)
    (hconstruct : construct = .ok builtin)
    (hexecute : Exec.runOn (execute (.builtin builtin) unitId) state = (.error error, final)) :
    Exec.runOn operation state = (.error error, final) := by
  cases h with
  | intro construct wrap next wrapResponse haccepts =>
      obtain ⟨inner, rfl, rfl⟩ := Except.map_eq_ok_iff.mp hconstruct
      apply Exec.runOn_bind_error
      rw [Exec.runOn_liftM_bind]
      exact Exec.runOn_bind_error (Exec.runOn_bind_error hexecute)

/-- What the server answers is returned, and an exception response is raised. -/
theorem runOn_of_handles (h : IsOperation execute unitId construct operation)
    (hconstruct : construct = .ok builtin) {response : ResponsePDU}
    (hhandles : ModbusTcpServer.Handles server store builtin response after)
    (hexecute : Exec.runOn (execute (.builtin builtin) unitId) state = (.ok response, final)) :
    Exec.runOn operation state = (ModbusTcpServer.returned response, final) := by
  cases h with
  | intro construct wrap next wrapResponse haccepts =>
      obtain ⟨inner, rfl, rfl⟩ := Except.map_eq_ok_iff.mp hconstruct
      have hrequest := runOn_request hexecute
      cases hreturned : ModbusTcpServer.returned response with
      | error raised =>
          rw [hreturned] at hrequest
          apply Exec.runOn_bind_error
          rw [Exec.runOn_liftM_bind]
          exact Exec.runOn_bind_error hrequest
      | ok found =>
          rw [hreturned] at hrequest
          obtain rfl := eq_of_returned hreturned
          rcases haccepts inner server store response after rfl hhandles with
            ⟨exception, rfl⟩ | ⟨value, rfl, hnext⟩
          · cases hreturned
          · have hinner : Exec.runOn (liftM (Except.ok inner : Except PyError _) >>= fun pdu =>
                ModbusClientOperations.request execute (wrap pdu) unitId >>= next pdu) state =
                (.ok value, final) := by
              rw [Exec.runOn_liftM_bind]
              dsimp only
              rw [Exec.runOn_bind_ok hrequest, hnext]
            rw [Exec.runOn_bind_ok hinner, Exec.runOn_pure]

end IsOperation

namespace HelperCall

theorem isOperation_readCoils (address count : Int) (execute : Execute σ)
    (unitId : Option Int) :
    IsOperation execute unitId (readCoils address count).request
      ((readCoils address count).run execute unitId) := by
  refine .intro _ .readCoils _ .readBits
    fun inner server store response after _ hhandles => ?_
  cases hhandles with
  | rejected => exact .inl ⟨_, rfl⟩
  | readCoils request values h => exact .inr ⟨_, rfl, fun _ => rfl⟩

theorem isOperation_readDiscreteInputs (address count : Int) (execute : Execute σ)
    (unitId : Option Int) :
    IsOperation execute unitId (readDiscreteInputs address count).request
      ((readDiscreteInputs address count).run execute unitId) := by
  refine .intro _ .readDiscreteInputs _ .readBits
    fun inner server store response after _ hhandles => ?_
  cases hhandles with
  | rejected => exact .inl ⟨_, rfl⟩
  | readDiscreteInputs request values h => exact .inr ⟨_, rfl, fun _ => rfl⟩

theorem isOperation_readHoldingRegisters (address count : Int) (execute : Execute σ)
    (unitId : Option Int) :
    IsOperation execute unitId (readHoldingRegisters address count).request
      ((readHoldingRegisters address count).run execute unitId) := by
  refine .intro _ .readHoldingRegisters _ .readRegisters
    fun inner server store response after _ hhandles => ?_
  cases hhandles with
  | rejected => exact .inl ⟨_, rfl⟩
  | readHoldingRegisters request values h => exact .inr ⟨_, rfl, fun _ => rfl⟩

theorem isOperation_readInputRegisters (address count : Int) (execute : Execute σ)
    (unitId : Option Int) :
    IsOperation execute unitId (readInputRegisters address count).request
      ((readInputRegisters address count).run execute unitId) := by
  refine .intro _ .readInputRegisters _ .readRegisters
    fun inner server store response after _ hhandles => ?_
  cases hhandles with
  | rejected => exact .inl ⟨_, rfl⟩
  | readInputRegisters request values h => exact .inr ⟨_, rfl, fun _ => rfl⟩

theorem isOperation_readWriteMultipleRegisters (readAddress readCount writeAddress : Int)
    (values : List Int) (execute : Execute σ) (unitId : Option Int) :
    IsOperation execute unitId
      (readWriteMultipleRegisters readAddress readCount writeAddress values).request
      ((readWriteMultipleRegisters readAddress readCount writeAddress values).run execute
        unitId) := by
  refine .intro _ .readWriteMultipleRegisters _ .readRegisters
    fun inner server store response after _ hhandles => ?_
  cases hhandles with
  | rejected => exact .inl ⟨_, rfl⟩
  | readWriteMultipleRegisters request area values hwrite hread =>
      exact .inr ⟨_, rfl, fun _ => rfl⟩

theorem isOperation_writeSingleCoil (address : Int) (value : PyObject) (execute : Execute σ)
    (unitId : Option Int) :
    IsOperation execute unitId (writeSingleCoil address value).request
      ((writeSingleCoil address value).run execute unitId) := by
  refine .intro _ .writeSingleCoil _ .writeSingleCoil
    fun inner server store response after hinner hhandles => ?_
  obtain ⟨rfl, -⟩ := WriteSingleCoilRequest.postInit_eq_ok_iff.mp hinner
  cases hhandles with
  | rejected => exact .inl ⟨_, rfl⟩
  | writeSingleCoil request area h =>
      exact .inr ⟨_, rfl, fun _ => runOn_requireEchoes_eq_ok_iff.mpr ⟨rfl, rfl, rfl, rfl⟩⟩

theorem isOperation_writeSingleRegister (address value : Int) (execute : Execute σ)
    (unitId : Option Int) :
    IsOperation execute unitId (writeSingleRegister address value).request
      ((writeSingleRegister address value).run execute unitId) := by
  refine .intro _ .writeSingleRegister _ .writeSingleRegister
    fun inner server store response after hinner hhandles => ?_
  obtain ⟨rfl, rfl⟩ := WriteSingleRegisterRequest.postInit_eq_ok_iff.mp hinner
  cases hhandles with
  | rejected => exact .inl ⟨_, rfl⟩
  | writeSingleRegister request area h =>
      exact .inr ⟨_, rfl, fun _ => runOn_requireEchoes_eq_ok_iff.mpr ⟨rfl, rfl, rfl, rfl⟩⟩

theorem isOperation_writeMultipleCoils (address : Int) (values : List PyObject)
    (execute : Execute σ) (unitId : Option Int) :
    IsOperation execute unitId (writeMultipleCoils address values).request
      ((writeMultipleCoils address values).run execute unitId) := by
  refine .intro _ .writeMultipleCoils _ .writeMultipleCoils
    fun inner server store response after hinner hhandles => ?_
  obtain ⟨rfl, rfl⟩ := WriteMultipleCoilsRequest.postInit_eq_ok_iff.mp hinner
  cases hhandles with
  | rejected => exact .inl ⟨_, rfl⟩
  | writeMultipleCoils request area h =>
      exact .inr ⟨_, rfl, fun _ => runOn_requireEchoes_eq_ok_iff.mpr
        ⟨rfl, congrArg Nat.cast (List.length_map _).symm, rfl, rfl⟩⟩

theorem isOperation_writeMultipleRegisters (address : Int) (values : List Int) (execute : Execute σ)
    (unitId : Option Int) :
    IsOperation execute unitId (writeMultipleRegisters address values).request
      ((writeMultipleRegisters address values).run execute unitId) := by
  refine .intro _ .writeMultipleRegisters _ .writeMultipleRegisters
    fun inner server store response after hinner hhandles => ?_
  obtain ⟨rfl, rfl⟩ := WriteMultipleRegistersRequest.postInit_eq_ok_iff.mp hinner
  cases hhandles with
  | rejected => exact .inl ⟨_, rfl⟩
  | writeMultipleRegisters request area h =>
      exact .inr ⟨_, rfl, fun _ => runOn_requireEchoes_eq_ok_iff.mpr ⟨rfl, rfl, rfl, rfl⟩⟩

theorem isOperation_maskWriteRegister (address andMask orMask : Int) (execute : Execute σ)
    (unitId : Option Int) :
    IsOperation execute unitId (maskWriteRegister address andMask orMask).request
      ((maskWriteRegister address andMask orMask).run execute unitId) := by
  refine .intro _ .maskWriteRegister _ .maskWriteRegister
    fun inner server store response after hinner hhandles => ?_
  obtain ⟨rfl, rfl, rfl⟩ := MaskWriteRegisterRequest.postInit_eq_ok_iff.mp hinner
  cases hhandles with
  | rejected => exact .inl ⟨_, rfl⟩
  | maskWriteRegister request value area hread hwrite =>
      exact .inr ⟨_, rfl, fun _ => runOn_requireEcho_eq_ok_iff.mpr
        ⟨rfl, runOn_requireEchoes_eq_ok_iff.mpr ⟨rfl, rfl, rfl, rfl⟩⟩⟩

theorem isOperation (call : HelperCall) (execute : Execute σ) (unitId : Option Int) :
    IsOperation execute unitId call.request (call.run execute unitId) := by
  cases call with
  | readCoils => exact isOperation_readCoils ..
  | readDiscreteInputs => exact isOperation_readDiscreteInputs ..
  | readHoldingRegisters => exact isOperation_readHoldingRegisters ..
  | readInputRegisters => exact isOperation_readInputRegisters ..
  | readWriteMultipleRegisters => exact isOperation_readWriteMultipleRegisters ..
  | writeSingleCoil => exact isOperation_writeSingleCoil ..
  | writeSingleRegister => exact isOperation_writeSingleRegister ..
  | writeMultipleCoils => exact isOperation_writeMultipleCoils ..
  | writeMultipleRegisters => exact isOperation_writeMultipleRegisters ..
  | maskWriteRegister => exact isOperation_maskWriteRegister ..

end HelperCall

theorem ClientCall.isOperation (call : ClientCall) (execute : Execute σ) (unitId : Option Int) :
    IsOperation execute unitId call.request (call.run execute unitId) := by
  cases call with
  | data call => exact call.isOperation execute unitId
  | readDeviceIdentification readCode objectId =>
      refine .intro _ .readDeviceIdentification _ .readDeviceIdentification ?_
      intro inner server store response after _ hhandles
      cases hhandles with
      | rejected => exact .inl ⟨_, rfl⟩
      | readDeviceIdentification request response hcode hconfigured h =>
          exact .inr ⟨_, rfl, fun _ => rfl⟩

theorem ModbusTcpServer.respond_of_data (server : ModbusTcpServer) (device : Device)
    {request : BuiltinRequest} (hdata : request.IsData) :
    server.respond device request =
      (.ok (device.request ⟨request, hdata⟩).1, (device.request ⟨request, hdata⟩).2) := by
  cases request with
  | readDeviceIdentification request => exact hdata.elim
  | _ => rfl

/-- The server answers a request as the abstract server does. -/
theorem ModbusTcpServer.Handles.respond_eq {request : BuiltinRequest} {response : ResponsePDU}
    (hrel : store.Represents device) (h : Handles server store request response after) :
    (server.respond device request).1 = .ok response ∧
      after.Represents (server.respond device request).2 := by
  by_cases hdata : request.IsData
  · obtain ⟨hresponse, hafter⟩ : (device.request ⟨request, hdata⟩).1 = response ∧
        after.Represents (device.request ⟨request, hdata⟩).2 := Handles.request_eq hrel h
    rw [respond_of_data server device hdata, hresponse]
    exact ⟨rfl, hafter⟩
  · cases h with
    | rejected request hrejected =>
        cases request with
        | readDeviceIdentification request =>
            refine ⟨?_, hrel⟩
            have hmissing : request.readCode = 4 ∧
                request.objectId ∉ server.deviceIdentification.keys := hrejected
            change ClearModbus.readDeviceIdentification request server.deviceIdentification = _
            rw [ClearModbus.readDeviceIdentification, if_pos hmissing]
            rfl
        | _ => exact absurd trivial hdata
    | readDeviceIdentification request response hcode hconfigured hread => exact ⟨hread, hrel⟩
    | _ => exact absurd trivial hdata

theorem pack_eq_error {fields : List Field} (h : ∃ field ∈ fields, ¬field.Fits) :
    pack fields = .error .structError := by
  induction fields with
  | nil =>
      obtain ⟨field, hmem, -⟩ := h
      exact absurd hmem List.not_mem_nil
  | cons field fields ih =>
      rw [pack]
      by_cases hfits : field.Fits
      · obtain ⟨other, hmem, hother⟩ := h
        rcases List.mem_cons.mp hmem with rfl | hmem
        · exact absurd hfits hother
        · rw [check_pos _ hfits, ih ⟨other, hmem, hother⟩]
          rfl
      · rw [check_neg _ hfits]
        rfl

/-- A unit id that is no byte is raised before anything is sent. -/
theorem encodeRequest_eq_error (request : BuiltinRequest) (transactionId : Int) {unitId : Int}
    (hunit : ¬IsByte unitId) :
    ModbusTCPCodec.encodeRequest (.builtin request) transactionId unitId = .error .structError := by
  change (request.encode >>= fun pdu => ModbusTCPFrame.encode { transactionId, unitId, pdu }) = _
  rw [request.encode_eq, Except.ok_bind, ModbusTCPFrame.encode, MBAPHeader.encode, pack_eq_error]
  · rfl
  · exact ⟨.u8 unitId, by simp, hunit⟩

structure Mirrors (unitId : Int) (state : ModbusTcpClient × Connection) (device : Device) :
    Prop where
  unitId_eq : state.1.unitId = unitId
  transactionId : 1 ≤ state.1.transactionId ∧ state.1.transactionId ≤ 0xFFFF
  toServer : state.2.toServer = []
  toClient : state.2.toClient = []
  represents : state.2.store.Represents device
  inRange : state.2.store.InRange

namespace Statement

variable {registry serverRegistry : CustomFunctionCodeRegistry} {defaultUnitId : Int}
  {application : ModbusTcpClient × Connection}

theorem execute_remote (hmirrors : Mirrors defaultUnitId application device)
    (server : ModbusTcpServer) (call : ClientCall) (given : Option Int) :
    ((Statement.remote call given).execute registry serverRegistry server application).1 =
        (server.observe defaultUnitId device (.remote call given)).1 ∧
      Mirrors defaultUnitId
        ((Statement.remote call given).execute registry serverRegistry server application).2
        (server.observe defaultUnitId device (.remote call given)).2 := by
  obtain ⟨client, toServer, toClient, store, schedule⟩ := application
  obtain ⟨rfl, htransaction, rfl, rfl, hrel, hrange⟩ := hmirrors
  have hoperation := call.isOperation (ModbusTcpClient.execute registry
    (Connection.transport serverRegistry server)) given
  rw [Statement.execute, ModbusTcpServer.observe]
  cases hrequest : call.request with
  | error error =>
      rw [hoperation.runOn_of_rejected hrequest]
      exact ⟨rfl, rfl, htransaction, rfl, rfl, hrel, hrange⟩
  | ok request =>
      have hnext := ModbusTcpClient.nextTransactionId_range htransaction
      have hid : IsRegisterValue client.transactionId :=
        ⟨Int.le_trans (by decide) htransaction.1, htransaction.2⟩
      dsimp only
      by_cases hunit : IsByte (given.getD client.unitId)
      · obtain ⟨response, after, hrun, hhandles⟩ := server.answered hrel.wellFormed request
        obtain ⟨hresponse, hafter⟩ := hhandles.respond_eq hrel
        have hreply : Exec.runOn (server.replyPdu serverRegistry request.wire) store =
            (.ok response.wire, after) :=
          ModbusTcpServer.runOn_replyPdu_of_handles hrange
            (decodeRequestPdu_of_decodesFrom serverRegistry (decodesFrom_wire request)) hrun
              hhandles
        have hexchange := ModbusTcpClient.runOn_exchange_eq_ok_iff.mpr
          (ModbusTcpClient.exchanges_reply registry hid hunit (hhandles.answers hrange) hreply
            schedule)
        rw [if_pos hunit, hoperation.runOn_of_handles hrequest hhandles
          (by rw [ModbusTcpClient.runOn_execute, hexchange])]
        dsimp only
        rw [hresponse]
        exact ⟨rfl, rfl, hnext, rfl, rfl, hafter, hhandles.inRange hrange⟩
      · rw [if_neg hunit, hoperation.runOn_of_raised hrequest (by
          rw [ModbusTcpClient.runOn_execute, ModbusTcpClient.exchange,
            encodeRequest_eq_error request _ hunit]
          rfl)]
        exact ⟨rfl, rfl, hnext, rfl, rfl, hrel, hrange⟩

theorem execute_mirrors (hmirrors : Mirrors defaultUnitId application device)
    (server : ModbusTcpServer) (statement : Statement) :
    (statement.execute registry serverRegistry server application).1 =
        (server.observe defaultUnitId device statement).1 ∧
      Mirrors defaultUnitId (statement.execute registry serverRegistry server application).2
        (server.observe defaultUnitId device statement).2 := by
  cases statement with
  | remote call given => exact execute_remote hmirrors server call given
  | direct operation =>
      obtain ⟨houtput, hrel⟩ := server.perform_represents hmirrors.represents operation
      have hrange : (server.perform application.2.store operation).2.InRange :=
        Network.inRange_perform hmirrors.represents.wellFormed hmirrors.inRange operation
      rw [Statement.execute, ModbusTcpServer.observe]
      dsimp only
      rw [houtput]
      exact ⟨rfl, hmirrors.unitId_eq, hmirrors.transactionId, hmirrors.toServer, hmirrors.toClient,
        hrel, hrange⟩

end Statement

namespace ModbusTcpServer

/-- **A program sees the abstract server.** Whatever an application does on both ends, with whatever
arguments and however the turns of the server are scheduled, each statement gives what the abstract
server gives; afterwards nothing is on its way, and the datastore holds what the device holds. -/
theorem program_refines_device {holdingRegisters inputRegisters : List RegisterBlock}
    {coils discreteInputs : List BitBlock}
    (hinit : MemoryDataStore.init holdingRegisters inputRegisters coils discreteInputs = .ok store)
    (hrange : store.InRange) (server : ModbusTcpServer)
    (registry serverRegistry : CustomFunctionCodeRegistry) (client : ModbusTcpClient)
    (htransaction : 1 ≤ client.transactionId ∧ client.transactionId ≤ 0xFFFF) (schedule : List Nat)
    (program : List Statement) :
    (Machine.run (Statement.execute registry serverRegistry server)
        (client, ⟨[], [], store, schedule⟩) program).1 =
      (Machine.run (server.observe client.unitId)
        (.ofBlocks holdingRegisters inputRegisters coils discreteInputs) program).1 ∧
    Mirrors client.unitId
      (Machine.run (Statement.execute registry serverRegistry server)
        (client, ⟨[], [], store, schedule⟩) program).2
      (Machine.run (server.observe client.unitId)
        (.ofBlocks holdingRegisters inputRegisters coils discreteInputs) program).2 := by
  have hstart : Mirrors client.unitId (client, ⟨[], [], store, schedule⟩)
      (.ofBlocks holdingRegisters inputRegisters coils discreteInputs) :=
    ⟨rfl, htransaction, rfl, rfl, MemoryDataStore.represents_init hinit, hrange⟩
  have hstep : ∀ state device statement, Mirrors client.unitId state device →
      (statement.execute registry serverRegistry server state).1 =
          (server.observe client.unitId device statement).1 ∧
        Mirrors client.unitId (statement.execute registry serverRegistry server state).2
          (server.observe client.unitId device statement).2 :=
    fun state device statement hmirrors => Statement.execute_mirrors hmirrors server statement
  exact Machine.run_simulation hstep hstart program

/-- A write across a mask, a read of the masked register, a count that makes no request, an address
that the device rejects, a unit id that is no byte, and a setter in between. -/
theorem program_refines_device_mixed :
    ∃ store, MemoryDataStore.init [⟨0, [1, 2, 0x12], false⟩] [⟨0, [3], false⟩] [] [] = .ok store ∧
      (Machine.run (Statement.execute .empty .empty ⟨.empty⟩)
        (⟨9, 65535⟩, ⟨[], [], store, [0, 3, 1]⟩)
        [.remote (.data (.writeMultipleRegisters 0 [7, 8])) none,
          .remote (.data (.maskWriteRegister 2 0xF2 0x25)) (some 4),
          .direct (.setInputRegisters 0 [.int 6]),
          .remote (.data (.readWriteMultipleRegisters 0 3 1 [5])) none,
          .remote (.data (.readInputRegisters 0 1)) none,
          .remote (.data (.readCoils 0 1)) none,
          .remote (.data (.readHoldingRegisters 0 3)) (some 256)]).1 =
        [.remote (.ok (.writeMultipleRegisters ⟨0x10, 0, 2⟩)),
          .remote (.ok (.maskWriteRegister ⟨0x16, 2, 0xF2, 0x25⟩)),
          .direct (.done (.ok ())),
          .remote (.ok (.readRegisters ⟨0x17, [7, 5, 0x17]⟩)),
          .remote (.ok (.readRegisters ⟨0x04, [6]⟩)),
          .remote (.error (.modbusExceptionResponseError 0x01 0x02)),
          .remote (.error .structError)] := by
  have hinit : MemoryDataStore.init [⟨0, [1, 2, 0x12], false⟩] [⟨0, [3], false⟩] [] [] = .ok _ :=
    rfl
  have hrange : MemoryDataStore.InRange
      { holdingRegisters := DataArea.ofBlocks [⟨0, [1, 2, 0x12], false⟩]
        inputRegisters := DataArea.ofBlocks [⟨0, [3], false⟩], coils := DataArea.ofBlocks []
        discreteInputs := DataArea.ofBlocks [] } := by
    constructor <;> decide
  exact ⟨_, hinit,
    (program_refines_device hinit hrange ⟨.empty⟩ .empty .empty ⟨9, 65535⟩ (by decide)
    [0, 3, 1] _).1.trans rfl⟩

end ModbusTcpServer

end ClearModbus
