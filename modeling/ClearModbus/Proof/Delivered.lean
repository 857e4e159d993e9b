import ClearModbus.Proof.EndToEnd
import ClearModbus.Proof.ResponseGrammar
import ClearModbus.Proof.RtuLength

/-!
# What the remote side delivered

Whatever bytes arrive, a client that returns a response has read a frame with the ids of its request
off the front of them, and the response is what the PDU of that frame is decoded to.
-/

namespace ClearModbus

variable {registry : CustomFunctionCodeRegistry} {request : BuiltinRequest} {response : ResponsePDU}
  {unitId : Option Int} {pdu : Bytes}

namespace ModbusTcpClient

/-- What has arrived starts with a frame for the next request of the client that carries the PDU. -/
def Delivered (client : ModbusTcpClient) (unitId : Option Int) (stream : TCPStream) (pdu : Bytes) :
    Prop :=
  stream.connected = true ∧ IsRegisterValue client.transactionId ∧
    IsByte (unitId.getD client.unitId) ∧ ∃ rest, stream.incoming = ModbusTCPFrame.wire
      { transactionId := client.transactionId, unitId := unitId.getD client.unitId, pdu } ++ rest

theorem delivered_of_execute {client : ModbusTcpClient} {stream : TCPStream}
    {final : ModbusTcpClient × TCPStream}
    (h : Exec.runOn (execute registry tcpTransport (.builtin request) unitId) (client, stream) =
      (.ok response, final)) :
    ∃ pdu, client.Delivered unitId stream pdu ∧
      decodeResponsePdu registry pdu (.builtin request) = .ok response := by
  rw [runOn_execute] at h
  obtain ⟨hresponse, -⟩ := Prod.mk.inj h
  obtain ⟨payload, sent, received, frame, -, hsent, hheader, hpdu, hfits, htransaction, hunit,
    hprotocol, hdecode⟩ := exchanges_of_runOn (Prod.ext hresponse rfl)
  obtain ⟨hconnected, rfl⟩ := TCPTransport.eq_of_runOn_send hsent
  obtain ⟨-, -, -, afterHeader, hfirst, rfl⟩ := TCPTransport.runOn_receive_eq_ok_iff.mp hheader
  obtain ⟨-, -, -, rest, hsecond, -⟩ := TCPTransport.runOn_receive_eq_ok_iff.mp hpdu
  obtain ⟨_, _, pdu, _⟩ := frame
  subst htransaction hunit hprotocol
  refine ⟨pdu, ⟨hconnected, hfits.transactionId, hfits.unitId, rest, ?_⟩, hdecode⟩
  have hincoming : stream.incoming = _ ++ afterHeader := hfirst
  have hafter : afterHeader = pdu ++ rest := hsecond
  rw [hincoming, hafter, ModbusTCPFrame.wire, List.append_assoc]

theorem execute_of_delivered {client : ModbusTcpClient} {stream : TCPStream}
    (h : client.Delivered unitId stream pdu) (hne : pdu ≠ []) (hlength : pdu.length ≤ 65534)
    (hdecode : decodeResponsePdu registry pdu (.builtin request) = .ok response) :
    ∃ final, Exec.runOn (execute registry tcpTransport (.builtin request) unitId) (client, stream) =
      (.ok response, final) := by
  obtain ⟨hconnected, htransaction, hunit, rest, hincoming⟩ := h
  rw [ModbusTCPFrame.wire, List.append_assoc] at hincoming
  have hfits := ModbusTCPFrame.fits_header htransaction hunit hlength
  have hpos : 0 < (pdu.length : Int) := Int.natCast_pos.mpr (List.length_pos_iff.mpr hne)
  let frame : ModbusTCPFrame :=
    { transactionId := client.transactionId, unitId := unitId.getD client.unitId, pdu }
  let sent : TCPStream := { stream with
    written := stream.written ++ (request.frame htransaction hunit).wire }
  have hheader : Exec.runOn (tcpTransport.receive 7) sent =
      (.ok frame.header.wire, { sent with incoming := pdu ++ rest }) :=
    TCPTransport.runOn_receive_eq_ok_iff.mpr
      ⟨hconnected, by decide, by rw [MBAPHeader.length_wire]; rfl, _, hincoming, rfl⟩
  have hpdu : Exec.runOn (tcpTransport.receive pdu.length) { sent with incoming := pdu ++ rest } =
      (.ok pdu, { sent with incoming := rest }) :=
    TCPTransport.runOn_receive_eq_ok_iff.mpr ⟨hconnected, hpos, rfl, rest, rfl, rfl⟩
  have hexchange := runOn_exchange_eq_ok_iff.mpr ⟨_, sent, _, frame, encodeRequest_eq request
    htransaction hunit, TCPTransport.runOn_send hconnected _, hheader, hpdu, hfits, rfl, rfl, rfl,
    hdecode⟩
  exact ⟨_, by rw [runOn_execute, hexchange]⟩

end ModbusTcpClient

/-- A receive that returns has taken as many bytes off the port as it was asked for. -/
theorem SerialTransport.taken_of_runOn_receive {size : Int} {port final : SerialPort} {data : Bytes}
    (h : Exec.runOn (receive size) port = (.ok data, final)) :
    port.connected = true ∧ 0 < size ∧ (data.length : Int) = size ∧
      port.incoming = data ++ final.incoming := by
  rw [receive, Exec.runOn_bind, Exec.runOn_modify] at h
  dsimp only at h
  rw [Exec.runOn_bind, Exec.runOn_get] at h
  dsimp only at h
  split at h
  · cases h
  · rename_i hconnected
    split at h
    · cases h
    · rename_i hpos
      rw [Exec.runOn_bind, Exec.runOn_set] at h
      dsimp only at h
      split at h
      · cases h
      · rename_i hlength
        cases h
        exact ⟨by simpa using hconnected, Int.not_le.mp hpos, not_not.mp hlength,
          (List.take_append_drop _ _).symm⟩

theorem SerialTransport.incoming_of_runOn_receive {size : Int} {port final : SerialPort}
    {data : Bytes} (h : Exec.runOn (receive size) port = (.ok data, final)) :
    port.connected = true ∧ port.incoming = data ++ final.incoming := by
  obtain ⟨hconnected, -, -, hincoming⟩ := taken_of_runOn_receive h
  exact ⟨hconnected, hincoming⟩

theorem SerialTransport.incoming_of_runOn_send {port final : SerialPort} {data : Bytes}
    (h : Exec.runOn (send data) port = (.ok (), final)) :
    port.connected = true ∧ final.incoming = port.incoming := by
  rw [send, Exec.runOn_bind, Exec.runOn_get] at h
  dsimp only at h
  split at h
  · cases h
  · rename_i hconnected
    cases h
    exact ⟨by simpa using hconnected, rfl⟩

namespace ModbusRtuClient

theorem incoming_of_receiveObjects {count : Nat} {port final : SerialPort} {data : Bytes}
    (h : Exec.runOn (receiveObjects serialTransport count) port = (.ok data, final)) :
    port.incoming = data ++ final.incoming := by
  induction count generalizing port data with
  | zero =>
      cases h
      rfl
  | succ count ih =>
      rw [receiveObjects] at h
      obtain ⟨objectHeader, afterHeader, hheader, h⟩ := Exec.runOn_bind_eq_ok_iff.mp h
      obtain ⟨valueLength, -, h⟩ := Exec.runOn_liftM_bind_eq_ok_iff.mp h
      obtain ⟨value, afterValue, hvalue, h⟩ := Exec.runOn_bind_eq_ok_iff.mp h
      obtain ⟨rest, last, hrest, h⟩ := Exec.runOn_bind_eq_ok_iff.mp h
      cases h
      have htaken : afterHeader.incoming = value ++ afterValue.incoming := by
        split at hvalue
        · exact (SerialTransport.incoming_of_runOn_receive hvalue).2
        · cases hvalue
          rfl
      rw [(SerialTransport.incoming_of_runOn_receive hheader).2, htaken, ih hrest,
        List.append_assoc, List.append_assoc]

/-- Whatever sizes are inferred, the client decodes exactly the bytes it took off the port. -/
theorem incoming_of_receiveResponse {request : RequestPDU} {port final : SerialPort} {data : Bytes}
    (h : Exec.runOn (receiveResponse serialTransport request) port = (.ok data, final)) :
    port.connected = true ∧ port.incoming = data ++ final.incoming := by
  rw [receiveResponse] at h
  obtain ⟨prefixData, afterPrefix, hprefix, h⟩ := Exec.runOn_bind_eq_ok_iff.mp h
  obtain ⟨responseSize, -, h⟩ := Exec.runOn_liftM_bind_eq_ok_iff.mp h
  obtain ⟨hconnected, htaken⟩ := SerialTransport.incoming_of_runOn_receive hprefix
  refine ⟨hconnected, ?_⟩
  rw [htaken]
  split at h
  · obtain ⟨body, last, hbody, h⟩ := Exec.runOn_bind_eq_ok_iff.mp h
    cases h
    rw [receiveReadDeviceIdentificationResponse] at hbody
    obtain ⟨header, afterHeader, hheader, hbody⟩ := Exec.runOn_bind_eq_ok_iff.mp hbody
    obtain ⟨objectCount, -, hbody⟩ := Exec.runOn_liftM_bind_eq_ok_iff.mp hbody
    obtain ⟨objects, afterObjects, hobjects, hbody⟩ := Exec.runOn_bind_eq_ok_iff.mp hbody
    obtain ⟨crc, afterCrc, hcrc, hbody⟩ := Exec.runOn_bind_eq_ok_iff.mp hbody
    cases hbody
    rw [(SerialTransport.incoming_of_runOn_receive hheader).2, incoming_of_receiveObjects hobjects,
      (SerialTransport.incoming_of_runOn_receive hcrc).2]
    simp only [List.append_assoc]
  · obtain ⟨byteCountData, afterByteCount, hbyteCount, h⟩ := Exec.runOn_bind_eq_ok_iff.mp h
    obtain ⟨byteCount, -, h⟩ := Exec.runOn_liftM_bind_eq_ok_iff.mp h
    obtain ⟨responseSize, -, h⟩ := Exec.runOn_liftM_bind_eq_ok_iff.mp h
    obtain ⟨rest, last, hrest, h⟩ := Exec.runOn_bind_eq_ok_iff.mp h
    cases h
    rw [(SerialTransport.incoming_of_runOn_receive hbyteCount).2,
      (SerialTransport.incoming_of_runOn_receive hrest).2]
    simp only [List.append_assoc]
  · obtain ⟨rest, last, hrest, h⟩ := Exec.runOn_bind_eq_ok_iff.mp h
    cases h
    rw [(SerialTransport.incoming_of_runOn_receive hrest).2, List.append_assoc]

/-- What has arrived starts with a frame from the unit of the request that carries the PDU. -/
def Delivered (client : ModbusRtuClient) (unitId : Option Int) (port : SerialPort) (pdu : Bytes) :
    Prop :=
  port.connected = true ∧ IsByte (unitId.getD client.unitId) ∧
    ∃ rest, port.incoming = ModbusRTUFrame.wire ⟨unitId.getD client.unitId, pdu⟩ ++ rest

theorem delivered_of_execute {client : ModbusRtuClient} {port final : SerialPort}
    (h : Exec.runOn (execute registry client serialTransport (.builtin request) unitId) port =
      (.ok response, final)) :
    ∃ pdu, client.Delivered unitId port pdu ∧
      decodeResponsePdu registry pdu (.builtin request) = .ok response := by
  rw [execute] at h
  obtain ⟨payload, -, h⟩ := Exec.runOn_liftM_bind_eq_ok_iff.mp h
  obtain ⟨_, sent, hsent, h⟩ := Exec.runOn_bind_eq_ok_iff.mp h
  obtain ⟨data, received, hreceived, h⟩ := Exec.runOn_bind_eq_ok_iff.mp h
  obtain ⟨hresponse, -⟩ := Exec.runOn_liftM_eq_ok_iff.mp h
  obtain ⟨frame, hframe, hunit, hdecode⟩ := ModbusRTUCodec.decodeResponse_eq_ok_iff.mp hresponse
  obtain ⟨hbyte, -, rfl⟩ := ModbusRTUFrame.decode_eq_ok_iff.mp hframe
  obtain ⟨hconnected, hsame⟩ := SerialTransport.incoming_of_runOn_send hsent
  obtain ⟨-, htaken⟩ := incoming_of_receiveResponse hreceived
  obtain ⟨_, pdu⟩ := frame
  subst hunit
  exact ⟨pdu, ⟨hconnected, hbyte, received.incoming, by rw [← hsame, htaken]⟩, hdecode⟩

/-- The byte count of a register read is taken from the response. -/
theorem execute_of_delivered {client : ModbusRtuClient} {port : SerialPort} {count : Int}
    {head byteCount : UInt8} {data : Bytes} (hreads : ReadsRegisters request count)
    (hhead : (head.toNat : Int) = request.functionCode) (hlength : data.length = byteCount.toNat)
    (h : client.Delivered unitId port (head :: byteCount :: data))
    (hdecode : decodeResponsePdu registry (head :: byteCount :: data) (.builtin request) =
      .ok response) :
    ∃ final, Exec.runOn (execute registry client serialTransport (.builtin request) unitId) port =
      (.ok response, final) := by
  obtain ⟨hconnected, hunit, rest, hincoming⟩ := h
  have hsize : rtuResponseSizeFromPrefix [byte (unitId.getD client.unitId), head]
      (.builtin request) = .ok none := by
    rw [rtuResponseSizeFromPrefix_normal _ hhead]
    cases hreads <;> rfl
  have hrequest : ∀ inner, RequestPDU.builtin request ≠
      .builtin (.readDeviceIdentification inner) := by
    cases hreads <;> exact fun _ => nofun
  have hframe : ModbusRTUFrame.decode (ModbusRTUFrame.wire ⟨unitId.getD client.unitId,
      head :: byteCount :: data⟩) = .ok ⟨unitId.getD client.unitId, head :: byteCount :: data⟩ :=
    ModbusRTUFrame.decode_eq_ok_iff.mpr ⟨hunit, List.cons_ne_nil _ _, rfl⟩
  obtain ⟨final, _, hrun, -⟩ := runOn_execute_of_consumes hunit
    (consumes_receiveResponse_of_byteCount hsize hrequest hlength (length_crcBytes _))
    (ModbusRTUCodec.decodeResponse_eq_ok_iff.mpr ⟨_, hframe, rfl, hdecode⟩) hconnected hincoming
  exact ⟨final, hrun⟩

end ModbusRtuClient

end ClearModbus
