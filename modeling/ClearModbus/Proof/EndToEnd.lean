import ClearModbus.Connection
import ClearModbus.Proof.ClientExchange
import ClearModbus.Proof.ServerLoop

/-!
# Client and server end to end

A request frame on an otherwise empty connection is taken by the first turn of the server loop,
however the turns are scheduled, and later turns find nothing to do. The client therefore receives
exactly the frame of the response, and the composed codecs give back what the server computed.
-/

namespace ClearModbus

theorem BuiltinRequest.length_wire_le (request : BuiltinRequest) : request.wire.length ≤ 65534 :=
  request.length_wire.2.trans (by decide)

def BuiltinRequest.frame (request : BuiltinRequest) {transactionId unitId : Int}
    (htransaction : IsRegisterValue transactionId) (hunit : IsByte unitId) : RequestFrame where
  transactionId := transactionId
  unitId := unitId
  pdu := request.wire
  fits := ModbusTCPFrame.fits_header htransaction hunit request.length_wire_le
  protocolId_valid := rfl

theorem encodeRequest_eq (request : BuiltinRequest) {transactionId unitId : Int}
    (htransaction : IsRegisterValue transactionId) (hunit : IsByte unitId) :
    ModbusTCPCodec.encodeRequest (.builtin request) transactionId unitId =
      .ok (request.frame htransaction hunit).wire := by
  change (request.encode >>= fun pdu => ModbusTCPFrame.encode { transactionId, unitId, pdu }) = _
  rw [request.encode_eq, Except.ok_bind]
  exact ModbusTCPFrame.encode_eq (request.frame htransaction hunit).fits

namespace Connection

variable {registry : CustomFunctionCodeRegistry} {server : ModbusTcpServer}
  {store after : MemoryDataStore}

theorem iterate_serverTurn_nil (turns : Nat) (toClient : Bytes) (schedule : List Nat) :
    (serverTurn registry server)^[turns] ⟨[], toClient, store, schedule⟩ =
      ⟨[], toClient, store, schedule⟩ := by
  apply Function.iterate_fixed
  rfl

theorem scheduled_nil (toClient : Bytes) (schedule : List Nat) :
    scheduled registry server ⟨[], toClient, store, schedule⟩ =
      ⟨[], toClient, store, schedule.tail⟩ := by
  rw [scheduled, iterate_serverTurn_nil]

/-- The first turn answers the request, and the later ones wait. -/
theorem iterate_serverTurn_request (request : RequestFrame) {reply : Bytes}
    (hreply : Exec.runOn (server.replyPdu registry request.pdu) store = (.ok reply, after))
    (hlength : reply.length ≤ 65534) (turns : Nat) (schedule : List Nat) :
    (serverTurn registry server)^[turns + 1] ⟨request.wire, [], store, schedule⟩ =
      ⟨[], (request.reply reply).wire, after, schedule⟩ := by
  have hserve := ModbusTcpServer.serveOne_frame request [] hreply hlength
  rw [List.append_nil] at hserve
  have hturn : serverTurn registry server ⟨request.wire, [], store, schedule⟩ =
      ⟨[], (request.reply reply).wire, after, schedule⟩ := by
    rw [serverTurn]
    dsimp only
    rw [hserve]
    rfl
  rw [Function.iterate_succ_apply, hturn, iterate_serverTurn_nil]

theorem runOn_send (data : Bytes) (connection : Connection) :
    Exec.runOn (send registry server data) connection =
      (.ok (), { scheduled registry server connection with
        toServer := (scheduled registry server connection).toServer ++ data }) := rfl

theorem runOn_receive {front rest toServer : Bytes} {schedule : List Nat} {connection : Connection}
    {size : Int} (hsize : (front.length : Int) = size) (hpos : 0 < size)
    (h : awaited registry server size connection = ⟨toServer, front ++ rest, store, schedule⟩) :
    Exec.runOn (receive registry server size) connection =
      (.ok front, ⟨toServer, rest, store, schedule⟩) := by
  have hlength : size ≤ (front ++ rest).length := by
    rw [List.length_append]
    omega
  rw [receive, Exec.runOn_bind, Exec.runOn_modify]
  dsimp only
  rw [Exec.runOn_bind, Exec.runOn_get]
  dsimp only
  rw [h, if_neg (Int.not_le.mpr hpos), if_pos hlength, Exec.runOn_bind, Exec.runOn_set]
  dsimp only
  rw [← hsize, Int.toNat_natCast, List.take_left, List.drop_left]
  rfl

theorem awaited_request (request : RequestFrame) {reply : Bytes}
    (hreply : Exec.runOn (server.replyPdu registry request.pdu) store = (.ok reply, after))
    (hlength : reply.length ≤ 65534) (schedule : List Nat) :
    awaited registry server 7 ⟨request.wire, [], store, schedule⟩ =
      ⟨[], (request.reply reply).wire, after, schedule.tail⟩ := by
  have hscheduled : scheduled registry server ⟨request.wire, [], store, schedule⟩ =
      ⟨request.wire, [], store, schedule.tail⟩ ∨
        scheduled registry server ⟨request.wire, [], store, schedule⟩ =
          ⟨[], (request.reply reply).wire, after, schedule.tail⟩ := by
    rw [scheduled]
    dsimp only
    cases schedule.headD 0 with
    | zero => exact .inl rfl
    | succ turns =>
        rw [iterate_serverTurn_request request hreply hlength]
        exact .inr rfl
  rcases hscheduled with hscheduled | hscheduled
  · have hbytes : request.wire.length = request.pdu.length + 6 + 1 := by
      rw [ModbusTCPFrame.wire, List.length_append, MBAPHeader.length_wire]
      omega
    rw [awaited, hscheduled]
    dsimp only
    rw [if_pos (by decide), hbytes, iterate_serverTurn_request request hreply hlength]
  · have hbytes : ¬(((request.reply reply).wire.length : Nat) : Int) < 7 := by
      rw [ModbusTCPFrame.wire, List.length_append, MBAPHeader.length_wire]
      omega
    rw [awaited, hscheduled]
    dsimp only
    rw [if_neg hbytes]

theorem awaited_nil {toClient : Bytes} {size : Int} (h : size ≤ toClient.length)
    (schedule : List Nat) :
    awaited registry server size ⟨[], toClient, store, schedule⟩ =
      ⟨[], toClient, store, schedule.tail⟩ := by
  rw [awaited, scheduled_nil]
  dsimp only
  rw [if_neg (Int.not_lt.mpr h)]

end Connection

namespace ModbusTcpClient

open Connection

/-- The reply to the request frame is exchanged for it, and nothing is left on its way. -/
theorem exchanges_reply {server : ModbusTcpServer} {serverRegistry : CustomFunctionCodeRegistry}
    (registry : CustomFunctionCodeRegistry) {request : BuiltinRequest} {response : ResponsePDU}
    {store after : MemoryDataStore} {transactionId unitId : Int}
    (htransaction : IsRegisterValue transactionId)
    (hunit : IsByte unitId) (hanswers : Answers request response)
    (hreply : Exec.runOn (server.replyPdu serverRegistry request.wire) store =
      (.ok response.wire, after)) (schedule : List Nat) :
    Exchanges registry (transport serverRegistry server) (.builtin request) transactionId unitId
      response ⟨[], [], store, schedule⟩ ⟨[], [], after, schedule.tail.tail.tail⟩ := by
  have hlength := hanswers.length_wire_le
  have hpos : 0 < (response.wire.length : Int) :=
    Int.natCast_pos.mpr (List.length_pos_iff.mpr hanswers.wire_ne_nil)
  refine ⟨(request.frame htransaction hunit).wire,
    ⟨(request.frame htransaction hunit).wire, [], store, schedule.tail⟩,
    ⟨[], response.wire, after, schedule.tail.tail⟩,
    (request.frame htransaction hunit).reply response.wire,
    encodeRequest_eq request htransaction hunit, ?_, ?_, ?_, RequestFrame.fits_reply _ hlength, rfl,
    rfl, rfl, hanswers.decode_wire registry⟩
  · rw [transport, runOn_send, scheduled_nil]
    rfl
  · refine runOn_receive ?_ (by decide)
      (awaited_request (request.frame htransaction hunit) hreply hlength schedule.tail)
    rw [MBAPHeader.length_wire]
    rfl
  · apply runOn_receive rfl hpos
    rw [List.append_nil]
    exact awaited_nil (Int.le_refl _) schedule.tail.tail

/-- Executing a request returns what `handle_request` computes for it, leaves the datastore as
`handle_request` does, and consumes both directions of the stream. -/
theorem execute_eq_handleRequest {holdingRegisters inputRegisters : List RegisterBlock}
    {coils discreteInputs : List BitBlock} {initial store : MemoryDataStore}
    (hinit : MemoryDataStore.init holdingRegisters inputRegisters coils discreteInputs =
      .ok initial)
    (hreach : Relation.ReflTransGen ServerStep initial store) (hrange : store.InRange)
    (server : ModbusTcpServer) (request : BuiltinRequest) (client : ModbusTcpClient)
    (unitId : Option Int) (hunit : IsByte (unitId.getD client.unitId))
    (htransaction : 1 ≤ client.transactionId ∧ client.transactionId ≤ 0xFFFF)
    (registry serverRegistry : CustomFunctionCodeRegistry) (schedule : List Nat) :
    ∃ response after,
      Exec.runOn (server.handleRequest (.builtin request)) store = (.ok response, after) ∧
      Exec.runOn (execute registry (transport serverRegistry server) (.builtin request) unitId)
          (client, ⟨[], [], store, schedule⟩) =
        (.ok response, (client.nextTransactionId.2, ⟨[], [], after, schedule.tail.tail.tail⟩)) := by
  have hstore := ModbusTcpServer.wellFormed_steps (MemoryDataStore.wellFormed_init hinit) hreach
  obtain ⟨response, after, hrun, hhandles⟩ := server.answered hstore request
  have hanswers := hhandles.answers hrange
  have hid : IsRegisterValue client.transactionId := ⟨by omega, htransaction.2⟩
  have hreply : Exec.runOn (server.replyPdu serverRegistry request.wire) store =
      (.ok response.wire, after) :=
    ModbusTcpServer.runOn_replyPdu_of_handles hrange
      (decodeRequestPdu_of_decodesFrom serverRegistry (decodesFrom_wire request)) hrun hhandles
  have hexchange := runOn_exchange_eq_ok_iff.mpr
    (exchanges_reply registry hid hunit hanswers hreply schedule)
  refine ⟨response, after, hrun, ?_⟩
  rw [runOn_execute, hexchange]

theorem execute_eq_handleRequest_read :
    ∃ store response after, MemoryDataStore.init [⟨0, [5], false⟩] [] [] [] = .ok store ∧
      Exec.runOn (ModbusTcpServer.handleRequest ⟨.empty⟩
        (.builtin (.readHoldingRegisters ⟨0, 1, by decide, by decide⟩))) store =
          (.ok response, after) ∧
      Exec.runOn (execute .empty (transport .empty ⟨.empty⟩)
          (.builtin (.readHoldingRegisters ⟨0, 1, by decide, by decide⟩)) none)
          (⟨9, 65535⟩, ⟨[], [], store, [2, 0, 1]⟩) =
        (.ok response, (⟨9, 1⟩, ⟨[], [], after, []⟩)) := by
  have hinit : MemoryDataStore.init [⟨0, [5], false⟩] [] [] [] = .ok _ := rfl
  have hrange : MemoryDataStore.InRange
      { holdingRegisters := DataArea.ofBlocks [⟨0, [5], false⟩]
        inputRegisters := DataArea.ofBlocks []
        coils := DataArea.ofBlocks [], discreteInputs := DataArea.ofBlocks [] } := by
    constructor <;> decide
  obtain ⟨response, after, hrun, hexecute⟩ := execute_eq_handleRequest hinit .refl hrange ⟨.empty⟩
    (.readHoldingRegisters ⟨0, 1, by decide, by decide⟩) ⟨9, 65535⟩ none (by decide) (by decide)
    .empty .empty [2, 0, 1]
  exact ⟨_, response, after, hinit, hrun, hexecute⟩

end ModbusTcpClient

end ClearModbus
