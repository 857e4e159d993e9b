import ClearModbus.Proof.FrameCodec
import ClearModbus.RtuClient

/-!
# RTU length inference

`Consumes program value front` says that a program takes exactly the bytes `front` off the port,
asks for positive sizes only, and returns `value`. It composes along binds, so the size rules are
followed piece by piece through each kind of response.
-/

namespace ClearModbus

variable {α β : Type}

def Consumes (program : Exec PyError SerialPort α) (value : α) (front : Bytes) : Prop :=
  ∀ (port : SerialPort) (rest : Bytes), port.connected = true → port.incoming = front ++ rest →
    ∃ sizes : List Int, (∀ size ∈ sizes, 0 < size) ∧
      Exec.runOn program port =
        (.ok value, { port with incoming := rest, requested := port.requested ++ sizes })

namespace Consumes

theorem pure (value : α) : Consumes (Pure.pure value) value [] := by
  intro port rest _ hincoming
  refine ⟨[], fun _ h => absurd h List.not_mem_nil, ?_⟩
  rw [Exec.runOn_pure, List.append_nil, ← List.nil_append rest, ← hincoming]

theorem bind {program : Exec PyError SerialPort α} {next : α → Exec PyError SerialPort β}
    {value : α} {result : β} {front back : Bytes} (h : Consumes program value front)
    (hnext : Consumes (next value) result back) :
    Consumes (program >>= next) result (front ++ back) := by
  intro port rest hconnected hincoming
  rw [List.append_assoc] at hincoming
  obtain ⟨sizes, hsizes, hrun⟩ := h port (back ++ rest) hconnected hincoming
  obtain ⟨more, hmore, hrest⟩ := hnext
    { port with incoming := back ++ rest, requested := port.requested ++ sizes } rest hconnected rfl
  refine ⟨sizes ++ more, List.forall_mem_append.mpr ⟨hsizes, hmore⟩, ?_⟩
  rw [Exec.runOn_bind_ok hrun, hrest, List.append_assoc]

theorem liftM_bind {result : Except PyError α} {next : α → Exec PyError SerialPort β} {value : α}
    {final : β} {front : Bytes} (hresult : result = .ok value)
    (hnext : Consumes (next value) final front) : Consumes (liftM result >>= next) final front := by
  intro port rest hconnected hincoming
  rw [hresult, Exec.runOn_liftM_bind]
  exact hnext port rest hconnected hincoming

theorem receive {front : Bytes} {size : Int} (hsize : (front.length : Int) = size)
    (hpos : 0 < size) : Consumes (serialTransport.receive size) front front := by
  intro port rest hconnected hincoming
  refine ⟨[size], by simpa using hpos, ?_⟩
  have htake : port.incoming.take size.toNat = front := by
    rw [hincoming, ← hsize, Int.toNat_natCast, List.take_left]
  have hdrop : port.incoming.drop size.toNat = rest := by
    rw [hincoming, ← hsize, Int.toNat_natCast, List.drop_left]
  change Exec.runOn (SerialTransport.receive size) port = _
  rw [SerialTransport.receive, Exec.runOn_bind, Exec.runOn_modify]
  dsimp only
  rw [Exec.runOn_bind, Exec.runOn_get]
  dsimp only
  rw [hconnected, if_neg (by decide), if_neg (Int.not_le.mpr hpos)]
  rw [htake, hdrop, Exec.runOn_bind, Exec.runOn_set]
  dsimp only
  rw [if_neg (not_not.mpr hsize), Exec.runOn_pure]

end Consumes

theorem ModbusRTUCodec.decodeResponse_eq_ok_iff {registry : CustomFunctionCodeRegistry}
    {data : Bytes} {request : RequestPDU} {unitId : Int} {response : ResponsePDU} :
    decodeResponse registry data request unitId = .ok response ↔
      ∃ frame : ModbusRTUFrame, ModbusRTUFrame.decode data = .ok frame ∧ frame.unitId = unitId ∧
        decodeResponsePdu registry frame.pdu request = .ok response := by
  rw [decodeResponse, Except.bind_eq_ok_iff]
  apply exists_congr
  intro frame
  rw [Except.ite_throw_eq_ok_iff, not_not]

namespace ModbusRtuClient

theorem consumes_receiveObjects (items : List DeviceIdentificationObject) :
    Consumes (receiveObjects serialTransport items.length) (objectsWire items)
      (objectsWire items) := by
  induction items with
  | nil => exact .pure []
  | cons item items ih =>
      have hmax : maxDeviceIdentificationObjectLength = 244 := rfl
      have hvalue := item.value_valid
      have hlength : (UInt8.ofNat item.value.length).toNat = item.value.length :=
        toNat_ofNat_of_lt (by omega)
      have hreceived : Consumes
          (if UInt8.ofNat item.value.length ≠ 0 then
            serialTransport.receive (UInt8.ofNat item.value.length).toNat else Pure.pure [])
          item.value item.value := by
        split
        · rename_i hzero
          refine .receive (by rw [hlength]) ?_
          have hpos : (UInt8.ofNat item.value.length).toNat ≠ 0 := by
            intro heq
            exact hzero (UInt8.toNat_inj.mp heq)
          omega
        · rename_i hzero
          have hempty : item.value = [] := by
            rw [← List.length_eq_zero_iff, ← hlength, not_not.mp hzero]
            rfl
          rw [hempty]
          exact .pure []
      have hwire : objectsWire (item :: items) =
          [UInt8.ofNat item.objectId.toNat, UInt8.ofNat item.value.length] ++
            (item.value ++ (objectsWire items ++ [])) := by
        rw [objectsWire_cons, DeviceIdentificationObject.wire, List.append_nil]
        rfl
      have hresult : objectsWire (item :: items) =
          [UInt8.ofNat item.objectId.toNat, UInt8.ofNat item.value.length] ++ item.value ++
            objectsWire items := rfl
      rw [List.length_cons, receiveObjects]
      conv => arg 3; rw [hwire]
      refine .bind (.receive rfl (by decide)) (.liftM_bind rfl ?_)
      refine .bind hreceived (.bind ih ?_)
      rw [hresult]
      exact .pure _

variable {request : BuiltinRequest} {unitId head : UInt8} {body : Bytes}

theorem rtuResponseSizeFromPrefix_normal (unitId : UInt8)
    (h : (head.toNat : Int) = request.functionCode) :
    rtuResponseSizeFromPrefix [unitId, head] (.builtin request) =
      .ok (fixedRtuResponseSize (.builtin request)) := by
  have hall : ∀ code ∈
      ([0x01, 0x02, 0x03, 0x04, 0x05, 0x06, 0x0F, 0x10, 0x16, 0x17, 0x2B] : List Int),
      isExceptionFunctionCode code = false := by decide
  change (if isExceptionFunctionCode head.toNat then _ else _) = _
  rw [h, hall _ request.functionCode_mem]
  rfl

theorem rtuResponseSizeFromPrefix_exception (unitId : UInt8) (request : BuiltinRequest) :
    rtuResponseSizeFromPrefix [unitId, byte (Int.lor request.functionCode 0x80)]
      (.builtin request) = .ok (some rtuExceptionResponseSize) := by
  obtain ⟨hbyte, hbit, -⟩ := exceptionCode_facts request
  change (if isExceptionFunctionCode (byte _).toNat then _ else _) = _
  rw [toNat_byte hbyte, isExceptionFunctionCode, decide_eq_true hbit]
  rfl

theorem consumes_receiveResponse_of_size {request : RequestPDU} {size : Int}
    (hsize : rtuResponseSizeFromPrefix [unitId, head] request = .ok (some size))
    (hlength : (body.length : Int) = size - 2) (hpos : 2 < size) :
    Consumes (receiveResponse serialTransport request) (unitId :: head :: body)
      (unitId :: head :: body) := by
  have hwire : unitId :: head :: body = [unitId, head] ++ (body ++ []) := by
    rw [List.append_nil]
    rfl
  rw [receiveResponse]
  conv => arg 3; rw [hwire]
  refine .bind (.receive rfl (by decide)) (.liftM_bind hsize ?_)
  exact .bind (.receive hlength (by change 0 < size - 2; omega)) (.pure _)

theorem consumes_receiveResponse_of_byteCount {request : RequestPDU} {byteCount : UInt8}
    {crc : Bytes} (hsize : rtuResponseSizeFromPrefix [unitId, head] request = .ok none)
    (hrequest : ∀ inner, request ≠ .builtin (.readDeviceIdentification inner))
    (hlength : body.length = byteCount.toNat) (hcrc : crc.length = 2) :
    Consumes (receiveResponse serialTransport request)
      (unitId :: head :: byteCount :: (body ++ crc))
      (unitId :: head :: byteCount :: (body ++ crc)) := by
  have hwire : unitId :: head :: byteCount :: (body ++ crc) =
      [unitId, head] ++ ([byteCount] ++ ((body ++ crc) ++ [])) := by
    rw [List.append_nil]
    rfl
  have hresponseSize : rtuByteCountResponseSize byteCount.toNat =
      .ok (rtuResponsePrefixSize + 1 + byteCount.toNat + 2) :=
    if_neg (Int.not_lt.mpr (Int.natCast_nonneg _))
  have hrest : ((body ++ crc).length : Int) = rtuResponsePrefixSize + 1 + byteCount.toNat + 2 -
      rtuResponsePrefixSize - 1 := by
    rw [List.length_append, hlength, hcrc]
    omega
  rw [receiveResponse]
  conv => arg 3; rw [hwire]
  refine .bind (.receive rfl (by decide)) (.liftM_bind hsize ?_)
  split
  · rename_i inner _
    exact absurd rfl (hrequest inner)
  · refine .bind (.receive rfl (by decide)) (.liftM_bind rfl (.liftM_bind hresponseSize ?_))
    refine .bind (.receive hrest ?_) (.pure _)
    rw [← hrest, List.length_append, hcrc]
    omega
  · rename_i heq
    cases heq

/-- A device-identification response is read object by object. -/
theorem consumes_receiveResponse_of_objects {inner : ReadDeviceIdentificationRequest}
    {header crc : Bytes} {items : List DeviceIdentificationObject}
    (hsize : rtuResponseSizeFromPrefix [unitId, head]
      (.builtin (.readDeviceIdentification inner)) = .ok none)
    (hheader : header.length = 6) (hcount : getItem header 5 = .ok (UInt8.ofNat items.length))
    (hitems : items.length < 256) (hcrc : crc.length = 2) :
    Consumes (receiveResponse serialTransport (.builtin (.readDeviceIdentification inner)))
      (unitId :: head :: (header ++ objectsWire items ++ crc))
      (unitId :: head :: (header ++ objectsWire items ++ crc)) := by
  have hwire : unitId :: head :: (header ++ objectsWire items ++ crc) =
      [unitId, head] ++ ((header ++ (objectsWire items ++ (crc ++ []))) ++ []) := by
    simp only [List.append_nil, List.append_assoc]
    rfl
  have hobjects := consumes_receiveObjects items
  have hitemCount := toNat_ofNat_of_lt hitems
  rw [receiveResponse]
  conv => arg 3; rw [hwire]
  refine .bind (.receive rfl (by decide)) (.liftM_bind hsize (.bind ?_ (.pure _)))
  rw [receiveReadDeviceIdentificationResponse]
  refine .bind (.receive (by rw [hheader]; rfl) (by decide)) (.liftM_bind hcount ?_)
  rw [hitemCount]
  exact .bind hobjects (.bind (.receive (by rw [hcrc]; rfl) (by decide)) (.pure _))

theorem length_pack_eq_byteCount {values : List Bool} {count : Int}
    (hcount : (values.length : Int) = count) (hmax : count ≤ 2000) :
    (BitString.pack values).length = (UInt8.ofNat ((values.length + 7) / 8)).toNat := by
  rw [BitString.length_pack, toNat_ofNat_of_lt (by omega)]

theorem length_words_eq_byteCount {values : List Int} {count : Int}
    (hcount : (values.length : Int) = count) (hmax : count ≤ 125) :
    (words values).length = (UInt8.ofNat (2 * values.length)).toNat := by
  rw [length_words, toNat_ofNat_of_lt (by omega)]

/-- The size of every response that belongs to the request is inferred exactly. -/
theorem consumes_receiveResponse {response : ResponsePDU} (h : Answers request response)
    (unitId : Int) :
    Consumes (receiveResponse serialTransport (.builtin request))
      (ModbusRTUFrame.wire ⟨unitId, response.wire⟩)
      (ModbusRTUFrame.wire ⟨unitId, response.wire⟩) := by
  cases h with
  | readCoils request values hcount =>
      exact consumes_receiveResponse_of_byteCount (rtuResponseSizeFromPrefix_normal _ rfl)
        (fun _ => nofun) (length_pack_eq_byteCount hcount request.count_valid.2) (length_crcBytes _)
  | readDiscreteInputs request values hcount =>
      exact consumes_receiveResponse_of_byteCount (rtuResponseSizeFromPrefix_normal _ rfl)
        (fun _ => nofun) (length_pack_eq_byteCount hcount request.count_valid.2) (length_crcBytes _)
  | readHoldingRegisters request values hcount hvalues =>
      exact consumes_receiveResponse_of_byteCount (rtuResponseSizeFromPrefix_normal _ rfl)
        (fun _ => nofun) (length_words_eq_byteCount hcount request.count_valid.2)
        (length_crcBytes _)
  | readInputRegisters request values hcount hvalues =>
      exact consumes_receiveResponse_of_byteCount (rtuResponseSizeFromPrefix_normal _ rfl)
        (fun _ => nofun) (length_words_eq_byteCount hcount request.count_valid.2)
        (length_crcBytes _)
  | readWriteMultipleRegisters request values hcount hvalues =>
      exact consumes_receiveResponse_of_byteCount (rtuResponseSizeFromPrefix_normal _ rfl)
        (fun _ => nofun) (length_words_eq_byteCount hcount request.readCount_valid.2)
        (length_crcBytes _)
  | writeSingleCoil request address value haddress =>
      exact consumes_receiveResponse_of_size (rtuResponseSizeFromPrefix_normal _ rfl) rfl
        (by decide)
  | writeSingleRegister request address value haddress hvalue =>
      exact consumes_receiveResponse_of_size (rtuResponseSizeFromPrefix_normal _ rfl) rfl
        (by decide)
  | writeMultipleCoils request address count haddress hcount =>
      exact consumes_receiveResponse_of_size (rtuResponseSizeFromPrefix_normal _ rfl) rfl
        (by decide)
  | writeMultipleRegisters request address count haddress hcount =>
      exact consumes_receiveResponse_of_size (rtuResponseSizeFromPrefix_normal _ rfl) rfl
        (by decide)
  | maskWriteRegister request address andMask orMask haddress hand hor =>
      exact consumes_receiveResponse_of_size (rtuResponseSizeFromPrefix_normal _ rfl) rfl
        (by decide)
  | readDeviceIdentification request response hcode =>
      exact consumes_receiveResponse_of_objects (rtuResponseSizeFromPrefix_normal _ rfl) rfl rfl
        (Nat.lt_succ_of_le response.objects_valid) (length_crcBytes _)
  | exception request code hcode =>
      exact consumes_receiveResponse_of_size (rtuResponseSizeFromPrefix_exception _ request) rfl
        (by decide)

theorem encodeRequest_eq (request : BuiltinRequest) {unitId : Int} (hunit : IsByte unitId) :
    ModbusRTUCodec.encodeRequest (.builtin request) unitId =
      .ok (ModbusRTUFrame.wire ⟨unitId, request.wire⟩) := by
  change (request.encode >>= fun pdu => ModbusRTUFrame.encode ⟨unitId, pdu⟩) = _
  rw [request.encode_eq, Except.ok_bind]
  exact ModbusRTUFrame.encode_eq hunit

theorem runOn_send {port : SerialPort} (h : port.connected = true) (data : Bytes) :
    Exec.runOn (serialTransport.send data) port =
      (.ok (), { port with written := port.written ++ data }) := by
  change Exec.runOn (SerialTransport.send data) port = _
  rw [SerialTransport.send, Exec.runOn_bind, Exec.runOn_get]
  dsimp only
  rw [h]
  rfl

/-- The client sends its request, takes the response off the port and decodes it. -/
theorem runOn_execute_of_consumes {registry : CustomFunctionCodeRegistry} {client : ModbusRtuClient}
    {unitId : Option Int} {response : ResponsePDU} {frame : Bytes}
    (hunit : IsByte (unitId.getD client.unitId))
    (hconsumes : Consumes (receiveResponse serialTransport (.builtin request)) frame frame)
    (hdecode : ModbusRTUCodec.decodeResponse registry frame (.builtin request)
      (unitId.getD client.unitId) = .ok response)
    {port : SerialPort} {rest : Bytes} (hconnected : port.connected = true)
    (hincoming : port.incoming = frame ++ rest) :
    ∃ final sizes, Exec.runOn (execute registry client serialTransport (.builtin request) unitId)
        port = (.ok response, final) ∧
      final.incoming = rest ∧ final.requested = port.requested ++ sizes ∧
      ∀ size ∈ sizes, 0 < size := by
  let sent : SerialPort := { port with
    written := port.written ++ ModbusRTUFrame.wire ⟨unitId.getD client.unitId, request.wire⟩ }
  obtain ⟨sizes, hsizes, hreceive⟩ := hconsumes sent rest hconnected hincoming
  have hrun : Exec.runOn (execute registry client serialTransport (.builtin request) unitId) port =
      (.ok response, { sent with
        incoming := rest, requested := sent.requested ++ sizes }) := by
    rw [execute, encodeRequest_eq request hunit, Exec.runOn_liftM_bind]
    dsimp only
    rw [Exec.runOn_bind_ok (runOn_send hconnected _), Exec.runOn_bind_ok hreceive, hdecode]
    rfl
  exact ⟨_, sizes, hrun, rfl, rfl, hsizes⟩

/-- `execute` takes exactly the frame of the response off the port, asks for positive sizes only,
and returns the response. -/
theorem execute_consumes_frame (registry : CustomFunctionCodeRegistry) (client : ModbusRtuClient)
    (unitId : Option Int) (hunit : IsByte (unitId.getD client.unitId)) {response : ResponsePDU}
    (h : Answers request response) :
    ∃ pdu frame, response.encode = .ok pdu ∧
      ModbusRTUFrame.encode ⟨unitId.getD client.unitId, pdu⟩ = .ok frame ∧
      ∀ (port : SerialPort) (rest : Bytes), port.connected = true → port.incoming = frame ++ rest →
        ∃ final sizes,
          Exec.runOn (execute registry client serialTransport (.builtin request) unitId)
            port = (.ok response, final) ∧
          final.incoming = rest ∧ final.requested = port.requested ++ sizes ∧
          ∀ size ∈ sizes, 0 < size := by
  have hframe : ModbusRTUFrame.decode (ModbusRTUFrame.wire ⟨unitId.getD client.unitId,
      response.wire⟩) = .ok ⟨unitId.getD client.unitId, response.wire⟩ :=
    ModbusRTUFrame.decode_eq_ok_iff.mpr ⟨hunit, h.wire_ne_nil, rfl⟩
  have hdecode := ModbusRTUCodec.decodeResponse_eq_ok_iff.mpr
    ⟨_, hframe, rfl, h.decode_wire registry⟩
  refine ⟨response.wire, _, h.encode_eq, ModbusRTUFrame.encode_eq hunit, ?_⟩
  intro port rest hconnected hincoming
  exact runOn_execute_of_consumes hunit (consumes_receiveResponse h (unitId.getD client.unitId))
    hdecode hconnected hincoming

theorem execute_consumes_frame_coils :
    ∃ pdu frame final, ResponsePDU.encode (.readBits ⟨0x01, [true, false, true]⟩) = .ok pdu ∧
      ModbusRTUFrame.encode ⟨7, pdu⟩ = .ok frame ∧
      Exec.runOn (execute .empty ⟨7⟩ serialTransport
        (.builtin (.readCoils ⟨4, 3, by decide, by decide⟩)) none) ⟨true, frame ++ [0xAA], [], [],
          false⟩ = (.ok (.readBits ⟨0x01, [true, false, true]⟩), final) ∧
      final.incoming = [0xAA] := by
  obtain ⟨pdu, frame, hpdu, hframe, hexecute⟩ := execute_consumes_frame .empty ⟨7⟩ none (by decide)
    (.readCoils ⟨4, 3, by decide, by decide⟩ [true, false, true] rfl)
  obtain ⟨final, _, hrun, hincoming, -⟩ := hexecute ⟨true, frame ++ [0xAA], [], [], false⟩ [0xAA]
    rfl rfl
  exact ⟨pdu, frame, final, hpdu, hframe, hrun, hincoming⟩

end ModbusRtuClient

end ClearModbus
