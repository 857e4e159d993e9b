import ClearModbus.Proof.FrameCodec
import ClearModbus.Client

/-!
# What the TCP client does on the stream

`execute` returns a response exactly when its transport sends the request frame and delivers one
frame with the ids of the request, whose PDU is decoded to the response.
-/

namespace ClearModbus

theorem TCPTransport.runOn_receive_eq_ok_iff {size : Int} {stream final : TCPStream}
    {data : Bytes} :
    Exec.runOn (receive size) stream = (.ok data, final) ↔
      stream.connected = true ∧ 0 < size ∧ (data.length : Int) = size ∧
        ∃ rest, stream.incoming = data ++ rest ∧ final = { stream with incoming := rest } := by
  rw [receive, Exec.runOn_bind, Exec.runOn_get]
  dsimp only
  constructor
  · intro h
    split at h
    · cases h
    · split at h
      · cases h
      · split at h
        · rename_i hconnected hpos hsize
          rw [Exec.runOn_bind, Exec.runOn_set] at h
          cases h
          refine ⟨by simpa using hconnected, Int.not_le.mp hpos, ?_, _,
            (List.take_append_drop _ _).symm, rfl⟩
          rw [List.length_take]
          omega
        · split at h <;> cases h
  · rintro ⟨hconnected, hpos, hlength, rest, hincoming, rfl⟩
    have hsize : size ≤ stream.incoming.length := by
      rw [hincoming, List.length_append]
      omega
    rw [hconnected, if_neg (by decide), if_neg (Int.not_le.mpr hpos), if_pos hsize, Exec.runOn_bind,
      Exec.runOn_set]
    dsimp only
    rw [Exec.runOn_pure, hincoming, ← hlength, Int.toNat_natCast, List.take_left, List.drop_left]

theorem TCPTransport.runOn_send {stream : TCPStream} (h : stream.connected = true) (data : Bytes) :
    Exec.runOn (send data) stream =
      (.ok (), { stream with written := stream.written ++ data }) := by
  rw [send, Exec.runOn_bind, Exec.runOn_get]
  dsimp only
  rw [h]
  rfl

theorem TCPTransport.eq_of_runOn_send {stream final : TCPStream} {data : Bytes}
    (h : Exec.runOn (send data) stream = (.ok (), final)) :
    stream.connected = true ∧ final = { stream with written := stream.written ++ data } := by
  by_cases hconnected : stream.connected = true
  · rw [runOn_send hconnected] at h
    exact ⟨hconnected, (Prod.mk.inj h).2.symm⟩
  · rw [send, Exec.runOn_bind, Exec.runOn_get] at h
    dsimp only at h
    rw [Bool.not_eq_true _ |>.mp hconnected] at h
    cases h

theorem ModbusTCPCodec.decodeResponse_eq_ok_iff {registry : CustomFunctionCodeRegistry}
    {data : Bytes} {request : RequestPDU} {transactionId unitId : Int} {response : ResponsePDU} :
    decodeResponse registry data request transactionId unitId = .ok response ↔
      ∃ frame : ModbusTCPFrame, ModbusTCPFrame.decode data = .ok frame ∧
        frame.transactionId = transactionId ∧ frame.unitId = unitId ∧
        decodeResponsePdu registry frame.pdu request = .ok response := by
  rw [decodeResponse, Except.bind_eq_ok_iff]
  apply exists_congr
  intro frame
  rw [Except.ite_throw_eq_ok_iff, Except.ite_throw_eq_ok_iff, not_not, not_not]

namespace ModbusTcpClient

variable {σ : Type} {registry : CustomFunctionCodeRegistry} {transport : Transport σ}
  {request : RequestPDU} {response : ResponsePDU}

/-- A request frame is sent and one frame with its ids is received, whose PDU is the response. -/
def Exchanges (registry : CustomFunctionCodeRegistry) (transport : Transport σ)
    (request : RequestPDU) (transactionId unitId : Int) (response : ResponsePDU)
    (state final : σ) : Prop :=
  ∃ payload sent received, ∃ frame : ModbusTCPFrame,
    ModbusTCPCodec.encodeRequest request transactionId unitId = .ok payload ∧
    Exec.runOn (transport.send payload) state = (.ok (), sent) ∧
    Exec.runOn (transport.receive 7) sent = (.ok frame.header.wire, received) ∧
    Exec.runOn (transport.receive frame.pdu.length) received = (.ok frame.pdu, final) ∧
    frame.header.Fits ∧ frame.transactionId = transactionId ∧ frame.unitId = unitId ∧
    frame.protocolId = modbusTcpProtocolId ∧
    decodeResponsePdu registry frame.pdu request = .ok response

theorem runOn_execute (registry : CustomFunctionCodeRegistry) (transport : Transport σ)
    (request : RequestPDU) (unitId : Option Int) (client : ModbusTcpClient) (state : σ) :
    Exec.runOn (execute registry transport request unitId) (client, state) =
      ((Exec.runOn (exchange registry transport request client.transactionId
        (unitId.getD client.unitId)) state).1, (client.nextTransactionId.2,
          (Exec.runOn (exchange registry transport request client.transactionId
            (unitId.getD client.unitId)) state).2)) := rfl

theorem exchanges_of_runOn {transactionId unitId : Int} {state final : σ}
    (h : Exec.runOn (exchange registry transport request transactionId unitId) state =
      (.ok response, final)) :
    Exchanges registry transport request transactionId unitId response state final := by
  obtain ⟨payload, hpayload, h⟩ := Exec.runOn_liftM_bind_eq_ok_iff.mp h
  obtain ⟨_, sent, hsent, h⟩ := Exec.runOn_bind_eq_ok_iff.mp h
  obtain ⟨data, received, hreceived, h⟩ := Exec.runOn_bind_eq_ok_iff.mp h
  obtain ⟨header, hheader, h⟩ := Exec.runOn_liftM_bind_eq_ok_iff.mp h
  obtain ⟨pdu, last, hpdu, h⟩ := Exec.runOn_bind_eq_ok_iff.mp h
  obtain ⟨head, hhead, h⟩ := Exec.runOn_liftM_bind_eq_ok_iff.mp h
  obtain ⟨hresponse, rfl⟩ := Exec.runOn_liftM_eq_ok_iff.mp h
  obtain ⟨hfits, rfl⟩ := MBAPHeader.decode_eq_ok_iff.mp hheader
  rw [MBAPHeader.encode_eq hfits] at hhead
  cases hhead
  obtain ⟨frame, hframe, htransaction, hunit, hdecode⟩ :=
    ModbusTCPCodec.decodeResponse_eq_ok_iff.mp hresponse
  obtain ⟨hframeFits, hprotocol, hwire⟩ := ModbusTCPFrame.decode_eq_ok_iff.mp hframe
  -- The header that was received is the header of the frame.
  have happend : header.wire ++ pdu = frame.header.wire ++ frame.pdu := hwire
  obtain ⟨hheaderWire, rfl⟩ := List.append_inj happend rfl
  obtain rfl : header = frame.header := MBAPHeader.eq_of_wire_eq hfits hframeFits hheaderWire
  have hlength : frame.header.length - 1 = frame.pdu.length := by
    change (1 : Int) + frame.pdu.length - 1 = _
    omega
  rw [hlength] at hpdu
  exact ⟨payload, sent, received, frame, hpayload, hsent, hreceived, hpdu, hframeFits, htransaction,
    hunit, hprotocol, hdecode⟩

/-- The exchanges are exactly the runs that return. -/
theorem runOn_exchange_eq_ok_iff {transactionId unitId : Int} {state final : σ} :
    Exec.runOn (exchange registry transport request transactionId unitId) state =
        (.ok response, final) ↔
      Exchanges registry transport request transactionId unitId response state final := by
  refine ⟨exchanges_of_runOn, ?_⟩
  rintro ⟨payload, sent, received, frame, hpayload, hsent, hreceived, hpdu, hfits, htransaction,
    hunit, hprotocol, hdecode⟩
  have hlength : frame.header.length - 1 = frame.pdu.length := by
    change (1 : Int) + frame.pdu.length - 1 = _
    omega
  rw [exchange, hpayload, Exec.runOn_liftM_bind]
  dsimp only
  rw [Exec.runOn_bind_ok hsent, Exec.runOn_bind_ok hreceived, MBAPHeader.decode_wire hfits,
    Exec.runOn_liftM_bind]
  dsimp only
  rw [hlength, Exec.runOn_bind_ok hpdu, MBAPHeader.encode_eq hfits, Exec.runOn_liftM_bind]
  dsimp only
  have hframe : ModbusTCPFrame.decode (frame.header.wire ++ frame.pdu) = .ok frame :=
    ModbusTCPFrame.decode_eq_ok_iff.mpr ⟨hfits, hprotocol, rfl⟩
  rw [ModbusTCPCodec.decodeResponse_eq_ok_iff.mpr ⟨frame, hframe, htransaction, hunit, hdecode⟩]
  rfl

end ModbusTcpClient

end ClearModbus
