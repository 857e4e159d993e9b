import ClearModbus.Lib.Triple
import ClearModbus.Proof.CustomDecoders
import ClearModbus.Proof.Programs
import ClearModbus.Proof.IdentificationStream
import ClearModbus.RtuClient

/-!
# What the clients raise and ask for

Whatever bytes the remote side sends, an operation of a client returns, or raises an exception of
the package or `ValueError`, or what the transport lets out of its own; the one other exception, of
`struct`, is raised for a unit id that is no byte, before anything is sent. What the remote side
sends decides how many bytes an operation asks its transport for, within a bound.
-/

namespace ClearModbus

variable {σ : Type}

namespace PyError

def IsTransportError : PyError → Prop
  | .modbusConnectionError => True
  | .modbusTimeoutError => True
  | .modbusTransportError => True
  | _ => False

/-- `ModbusError` with its subclasses as far as the clients raise them, `ValueError`, and what the
transport lets out. -/
inductive IsDeclared (passes : PyError → Prop) : PyError → Prop where
  | transport {error : PyError} (h : error.IsTransportError) : IsDeclared passes error
  | passed {error : PyError} (h : passes error) : IsDeclared passes error
  | frame {error : PyError} (h : error.IsFrameError) : IsDeclared passes error
  | mismatch (message : String) : IsDeclared passes (.modbusResponseMismatchError message)
  | exceptionResponse (functionCode exceptionCode : Int) :
      IsDeclared passes (.modbusExceptionResponseError functionCode exceptionCode)
  | valueError {error : PyError} (h : error.IsValueError) : IsDeclared passes error

end PyError

open PyError (IsDeclared IsTransportError IsFrameError IsValueError)
open Exec (Triple)

variable {passes : PyError → Prop}

/-- What `Transport` promises: all bytes asked for or an error of the transport, and `ValueError`
for a size that is not positive. The other errors are those that the transport lets out. -/
structure Transport.Contract (transport : Transport σ) (passes : PyError → Prop) : Prop where
  send : ∀ data, Triple (fun _ => True) (transport.send data) (fun _ _ => True)
    fun error _ => error.IsTransportError ∨ passes error
  receive : ∀ size, 0 < size → Triple (fun _ => True) (transport.receive size)
    (fun data _ => (data.length : Int) = size) fun error _ => error.IsTransportError ∨ passes error
  receive_nonpos : ∀ size, size ≤ 0 → Triple (fun _ => True) (transport.receive size)
    (fun _ _ => False) fun error _ =>
      (error.IsTransportError ∨ passes error) ∨ error.IsValueError

theorem PyError.isDeclared_of_contract {error : PyError}
    (h : error.IsTransportError ∨ passes error) : error.IsDeclared passes :=
  h.elim .transport .passed

theorem tcpTransport_contract (passes : PyError → Prop) : tcpTransport.Contract passes where
  send := by
    intro data
    refine .get_bind fun stream _ => ?_
    split
    · exact .throw fun _ _ => .inl trivial
    · exact .set fun _ _ => trivial
  receive := by
    intro size hsize
    refine .get_bind fun stream _ => ?_
    rw [if_neg (Int.not_le.mpr hsize)]
    split
    · exact .throw fun _ _ => .inl trivial
    · split
      · rename_i hlength
        refine .set_bind fun _ _ => .pure fun _ _ => ?_
        rw [List.length_take]
        omega
      · split
        · exact .set_bind fun _ _ => .throw fun _ _ => .inl trivial
        · exact .throw fun _ _ => .inl trivial
  receive_nonpos := by
    intro size hsize
    refine .get_bind fun stream _ => ?_
    rw [if_pos hsize]
    split
    · exact .throw fun _ _ => .inl (.inl trivial)
    · exact .throw fun _ _ => .inr trivial

theorem isTransportError_shortReadError (port : SerialPort) :
    port.shortReadError.IsTransportError := by
  rw [SerialPort.shortReadError]
  split <;> exact trivial

theorem serialTransport_contract (passes : PyError → Prop) : serialTransport.Contract passes where
  send := by
    intro data
    refine .get_bind fun port _ => ?_
    split
    · exact .throw fun _ _ => .inl trivial
    · exact .set fun _ _ => trivial
  receive := by
    intro size hsize
    refine .modify_bind fun _ _ => .get_bind fun port _ => ?_
    rw [if_neg (Int.not_le.mpr hsize)]
    split
    · exact .throw fun _ _ => .inl trivial
    · refine .set_bind fun _ _ => ?_
      split
      · exact .throw fun _ _ => .inl (isTransportError_shortReadError port)
      · rename_i hlength
        exact .pure fun _ _ => not_not.mp hlength
  receive_nonpos := by
    intro size hsize
    refine .modify_bind fun _ _ => .get_bind fun port _ => ?_
    rw [if_pos hsize]
    split
    · exact .throw fun _ _ => .inl (.inl trivial)
    · exact .throw fun _ _ => .inr trivial

structure TransportLog where
  asked : List Int
  received : List Bytes
  deriving DecidableEq, Repr

namespace TransportLog

def ask (log : TransportLog) (size : Int) : TransportLog :=
  { log with asked := log.asked ++ [size] }

def receive (log : TransportLog) (data : Bytes) : TransportLog :=
  { log with received := log.received ++ [data] }

end TransportLog

def Transport.logged (transport : Transport σ) : Transport (σ × TransportLog) where
  send data := Exec.onFst (transport.send data)
  receive size := do
    modify fun state => (state.1, state.2.ask size)
    let data ← Exec.onFst (transport.receive size)
    modify fun state => (state.1, state.2.receive data)
    return data

namespace Transport.Contract

variable {transport : Transport σ}

theorem send_logged (h : transport.Contract passes) (log : TransportLog) (data : Bytes) :
    Triple (fun state => state.2 = log) (transport.logged.send data) (fun _ state => state.2 = log)
      fun error state => error.IsDeclared passes ∧ state.2 = log :=
  .onFst fun _ => .of_pre fun _ hlog => (h.send data).conseq (fun _ _ => trivial)
    (fun _ _ _ => hlog) fun _ _ herror => ⟨PyError.isDeclared_of_contract herror, hlog⟩

theorem receive_logged (h : transport.Contract passes) (log : TransportLog) {size : Int}
    (hsize : 0 < size) :
    Triple (fun state => state.2 = log) (transport.logged.receive size)
      (fun data state => (data.length : Int) = size ∧ state.2 = (log.ask size).receive data)
      fun error state => error.IsDeclared passes ∧ state.2 = log.ask size := by
  refine .modify_bind fun before hbefore => ?_
  have hreceive : Triple (· = (before.1, before.2.ask size))
      (Exec.onFst (transport.receive size) : Exec PyError (σ × TransportLog) Bytes)
      (fun data state => (data.length : Int) = size ∧ state.2 = log.ask size)
      fun error state => error.IsDeclared passes ∧ state.2 = log.ask size := by
    refine .onFst fun asked => .of_pre fun state hstate => ?_
    obtain rfl : asked = log.ask size := (Prod.mk.inj hstate).2.trans (by rw [hbefore])
    exact (h.receive size hsize).conseq (fun _ _ => trivial) (fun _ _ hdata => ⟨hdata, rfl⟩)
      fun _ _ herror => ⟨PyError.isDeclared_of_contract herror, rfl⟩
  refine .bind hreceive fun data => .modify_bind fun asked hasked => .pure ?_
  rintro _ rfl
  exact ⟨hasked.1, congrArg (TransportLog.receive · data) hasked.2⟩

theorem receive_logged_nonpos (h : transport.Contract passes) (log : TransportLog) {size : Int}
    (hsize : size ≤ 0) :
    Triple (fun state => state.2 = log) (transport.logged.receive size) (fun _ _ => False)
      fun error state => error.IsDeclared passes ∧ state.2 = log.ask size := by
  refine .modify_bind fun before hbefore => ?_
  have hreceive : Triple (· = (before.1, before.2.ask size))
      (Exec.onFst (transport.receive size) : Exec PyError (σ × TransportLog) Bytes)
      (fun _ _ => False)
      fun error state => error.IsDeclared passes ∧ state.2 = log.ask size := by
    refine .onFst fun asked => .of_pre fun state hstate => ?_
    obtain rfl : asked = log.ask size := (Prod.mk.inj hstate).2.trans (by rw [hbefore])
    exact (h.receive_nonpos size hsize).conseq (fun _ _ => trivial) (fun _ _ hdata => hdata)
      fun _ _ herror => ⟨herror.elim PyError.isDeclared_of_contract .valueError, rfl⟩
  exact .bind hreceive fun data => fun _ hfalse => hfalse.elim

end Transport.Contract

section Codecs

variable (registry : CustomFunctionCodeRegistry) (request : BuiltinRequest) (data : Bytes)

theorem raisesOnly_decodeResponsePdu_builtin :
    (decodeResponsePdu registry data (.builtin request)).RaisesOnly (IsDeclared passes) := by
  rw [decodeResponsePdu_builtin registry .empty data request]
  exact (raisesOnly_decodeResponsePdu request data).mono fun _ => .valueError

theorem ModbusTCPCodec.raisesOnly_decodeResponse (transactionId unitId : Int) :
    (decodeResponse registry data (.builtin request) transactionId unitId).RaisesOnly
      (IsDeclared passes) := by
  apply Except.RaisesOnly.bind ((ModbusTCPFrame.raisesOnly_decode data).mono fun _ => .frame)
  intro frame
  split_ifs
  · exact .mismatch _
  · exact .mismatch _
  · exact raisesOnly_decodeResponsePdu_builtin registry request frame.pdu

theorem ModbusRTUCodec.raisesOnly_decodeResponse (unitId : Int) :
    (decodeResponse registry data (.builtin request) unitId).RaisesOnly (IsDeclared passes) := by
  apply Except.RaisesOnly.bind ((ModbusRTUFrame.raisesOnly_decode data).mono fun _ => .frame)
  intro frame
  split_ifs
  · exact .mismatch _
  · exact raisesOnly_decodeResponsePdu_builtin registry request frame.pdu

theorem ModbusRTUCodec.raisesOnly_encodeRequest (unitId : Int) :
    (encodeRequest (.builtin request) unitId).RaisesOnly IsValueError := by
  change (request.encode >>= fun pdu => ModbusRTUFrame.encode ⟨unitId, pdu⟩).RaisesOnly _
  rw [request.encode_eq, Except.ok_bind, ModbusRTUFrame.encode]
  refine Except.RaisesOnly.bind ?_ fun head => trivial
  rw [bytesOf]
  exact Except.RaisesOnly.bind (raisesOnly_check_of trivial) fun _ => trivial

theorem ModbusTCPCodec.isByte_of_encodeRequest_ne {transactionId unitId : Int} {error : PyError}
    (htransaction : IsRegisterValue transactionId)
    (h : encodeRequest (.builtin request) transactionId unitId = .error error) :
    ¬IsByte unitId ∧ error = .structError := by
  by_cases hunit : IsByte unitId
  · change (request.encode >>= fun pdu =>
      ModbusTCPFrame.encode { transactionId, unitId, pdu }) = _ at h
    have hlength := request.length_wire
    rw [request.encode_eq, Except.ok_bind, ModbusTCPFrame.encode_eq] at h
    · cases h
    · exact ModbusTCPFrame.fits_header htransaction hunit (by omega)
  · rw [encodeRequest_eq_error request transactionId hunit] at h
    cases h
    exact ⟨hunit, rfl⟩

end Codecs

/-- What a call of the TCP client asks for: a header of seven bytes and then, when one has come that
decodes, as many bytes as its length field says. -/
inductive AsksForFrame (log after : TransportLog) : Prop where
  | nothing (h : after = log)
  | header (h : after.asked = log.asked ++ [7])
  | frame (headerData : Bytes) (header : MBAPHeader) (received : List Bytes)
      (hdecode : MBAPHeader.decode headerData = .ok header) (hmax : header.length - 1 ≤ 65534)
      (hreceived : after.received = log.received ++ headerData :: received)
      (hasked : after.asked = log.asked ++ [7, header.length - 1])

namespace ModbusTcpClient

variable {transport : Transport σ}

def Raises (passes : PyError → Prop) (unitId : Int) (before : σ × TransportLog) (error : PyError)
    (after : σ × TransportLog) : Prop :=
  (error.IsDeclared passes ∧ AsksForFrame before.2 after.2) ∨
    (error = .structError ∧ ¬IsByte unitId ∧ after = before)

theorem triple_exchange (hcontract : transport.Contract passes)
    (registry : CustomFunctionCodeRegistry) (request : BuiltinRequest) {transactionId : Int}
    (htransaction : IsRegisterValue transactionId) (unitId : Int) (before : σ × TransportLog) :
    Triple (· = before)
      (exchange registry transport.logged (.builtin request) transactionId unitId)
      (fun _ after => AsksForFrame before.2 after.2) (Raises passes unitId before) := by
  refine .liftM_bind (fun payload _ => ?_) fun error herror state hstate => ?_
  · refine .bind ((hcontract.send_logged before.2 payload).conseq
      (fun state hstate => hstate ▸ rfl) (fun _ _ hlog => hlog)
      fun error state herror => .inl ⟨herror.1, .nothing herror.2⟩) fun _ => ?_
    refine .bind ((hcontract.receive_logged before.2 (by decide : (0 : Int) < 7)).conseq
      (fun _ hlog => hlog) (fun _ _ hdata => hdata)
      fun error state herror => .inl ⟨herror.1, .header (congrArg (·.asked) herror.2)⟩)
      fun headerData => ?_
    refine .liftM_bind (fun header hheader => ?_) fun error herror state hstate => ?_
    · obtain ⟨hfits, -⟩ := MBAPHeader.decode_eq_ok_iff.mp hheader
      have hmax : header.length - 1 ≤ 65534 := by
        have hlength : header.length ≤ 65535 := hfits.length.2
        omega
      have hasked : ∀ after, after = ((before.2.ask 7).receive headerData).ask (header.length - 1) →
          AsksForFrame before.2 after := by
        rintro after rfl
        exact .frame headerData header [] hheader hmax rfl (List.append_assoc ..)
      have hreceived : ∀ pdu after,
          after = (((before.2.ask 7).receive headerData).ask (header.length - 1)).receive pdu →
          AsksForFrame before.2 after := by
        rintro pdu after rfl
        exact .frame headerData header [pdu] hheader hmax (List.append_assoc ..)
          (List.append_assoc ..)
      rcases Int.lt_or_le 0 (header.length - 1) with hpos | hnonpos
      · refine .bind ((hcontract.receive_logged ((before.2.ask 7).receive headerData) hpos).conseq
          (fun _ hlog => hlog.2) (fun pdu _ hdata => hreceived pdu _ hdata.2)
          fun error state herror => .inl ⟨herror.1, hasked _ herror.2⟩) fun pdu => ?_
        rw [MBAPHeader.encode_eq hfits]
        refine .liftM_bind (fun head _ => ?_) nofun
        refine .liftM (fun _ _ _ h => h) fun error herror state h => .inl ⟨?_, h⟩
        exact Except.raisesOnly_iff.mp
          (ModbusTCPCodec.raisesOnly_decodeResponse registry request _ transactionId unitId) _
            herror
      · exact .bind ((hcontract.receive_logged_nonpos ((before.2.ask 7).receive headerData)
          hnonpos).conseq (fun _ hlog => hlog.2) (fun _ _ h => h)
          fun error state herror => .inl ⟨herror.1, hasked _ herror.2⟩)
          fun pdu => fun _ hfalse => hfalse.elim
    · refine .inl ⟨.frame ?_, .header (congrArg (·.asked) hstate.2)⟩
      exact Except.raisesOnly_iff.mp (MBAPHeader.raisesOnly_decode headerData) _ herror
  · obtain ⟨hunit, rfl⟩ :=
      ModbusTCPCodec.isByte_of_encodeRequest_ne request htransaction herror
    exact .inr ⟨rfl, hunit, hstate⟩

end ModbusTcpClient

def AsksWithin (limit : Int) (log after : List Int) : Prop :=
  ∃ asked, after = log ++ asked ∧ (∀ size ∈ asked, 0 < size) ∧ asked.sum ≤ limit

theorem AsksWithin.mono {limit limit' : Int} {log after : List Int} (h : AsksWithin limit log after)
    (hle : limit ≤ limit') : AsksWithin limit' log after := by
  obtain ⟨asked, hafter, hpos, hsum⟩ := h
  exact ⟨asked, hafter, hpos, hsum.trans hle⟩

theorem AsksWithin.receive {limit size : Int} {log after : List Int}
    (h : AsksWithin limit log after)
    (hsize : 0 < size) : AsksWithin (limit + size) log (after ++ [size]) := by
  obtain ⟨asked, rfl, hpos, hsum⟩ := h
  refine ⟨asked ++ [size], List.append_assoc .., ?_, ?_⟩
  · intro other hmem
    rcases List.mem_append.mp hmem with hold | hnew
    · exact hpos other hold
    · rwa [List.mem_singleton.mp hnew]
  · rw [List.sum_append, List.sum_singleton]
    omega

namespace ModbusRtuClient

variable {registry : CustomFunctionCodeRegistry} {transport : Transport σ} {log : List Int}

/-- The largest response: 255 objects of 255 bytes after a prefix and a header, and a CRC. -/
abbrev maxResponseSize : Int := 2 + 6 + 255 * (2 + 255) + 2

def Raises (passes : PyError → Prop) (log : List Int) (error : PyError)
    (after : σ × TransportLog) : Prop :=
  error.IsDeclared passes ∧ AsksWithin maxResponseSize log after.2.asked

/-- Each receive takes its size from what is left. -/
theorem triple_receive (hcontract : transport.Contract passes) (asked : Int) {size : Int}
    (hsize : 0 < size) (hmax : asked + size ≤ maxResponseSize) :
    Triple (fun state => AsksWithin asked log state.2.asked) (transport.logged.receive size)
      (fun data state => (data.length : Int) = size ∧ AsksWithin (asked + size) log state.2.asked)
      (Raises passes log) :=
  .of_pre fun before hasked => (hcontract.receive_logged before.2 hsize).conseq
    (fun _ hstate => hstate ▸ rfl)
    (fun _ _ hdata => ⟨hdata.1, hdata.2 ▸ hasked.receive hsize⟩)
    fun _ _ herror => ⟨herror.1, herror.2 ▸ (hasked.receive hsize).mono hmax⟩

theorem triple_receiveObjects (hcontract : transport.Contract passes) (count : Nat) (asked : Int)
    (hmax : asked + count * 257 ≤ maxResponseSize) :
    Triple (fun state => AsksWithin asked log state.2.asked) (receiveObjects transport.logged count)
      (fun _ state => AsksWithin (asked + count * 257) log state.2.asked) (Raises passes log) := by
  induction count generalizing asked with
  | zero => exact .pure fun state hasked => hasked.mono (by omega)
  | succ count ih =>
      push_cast at hmax
      refine .bind (triple_receive hcontract asked (by decide : (0 : Int) < 2) (by omega))
        fun objectHeader => .of_pre fun state hheader => ?_
      obtain ⟨hlength, hasked⟩ := hheader
      obtain ⟨objectId, length, rfl⟩ := List.length_eq_two.mp (Int.ofNat_inj.mp hlength)
      have hbyte : length.toNat < 256 := length.toNat_lt
      refine .liftM_bind (fun valueLength hvalueLength => ?_) nofun
      cases hvalueLength
      have hvalue : Triple (· = state)
          (if length ≠ 0 then transport.logged.receive length.toNat else pure [])
          (fun _ state => AsksWithin (asked + 2 + 255) log state.2.asked) (Raises passes log) := by
        split
        · rename_i hne
          have hpos : 0 < length.toNat := by
            rw [Nat.pos_iff_ne_zero]
            exact fun hzero => hne (UInt8.toNat_inj.mp hzero)
          exact (triple_receive hcontract (asked + 2) (by omega) (by omega)).conseq
            (fun _ hstate => hstate ▸ hasked) (fun _ _ hdata => hdata.2.mono (by omega))
            fun _ _ h => h
        · exact .pure fun _ hstate => hstate ▸ hasked.mono (by omega)
      refine .bind hvalue fun value => .bind (ih _ (by omega)) fun rest => .pure fun _ hasked => ?_
      exact hasked.mono (by push_cast; omega)

theorem triple_receiveReadDeviceIdentificationResponse (hcontract : transport.Contract passes) :
    Triple (fun state => AsksWithin 2 log state.2.asked)
      (receiveReadDeviceIdentificationResponse transport.logged)
      (fun _ state => AsksWithin maxResponseSize log state.2.asked) (Raises passes log) := by
  refine .bind (triple_receive hcontract 2 (by decide : (0 : Int) < 6) (by decide))
    fun header => .of_pre fun state hheader => ?_
  obtain ⟨hlength, hasked⟩ := hheader
  have hlong : 5 < header.length := by omega
  have hcount : getItem header 5 = .ok header[5] := getItem_natCast hlong
  have hbyte : header[5].toNat < 256 := header[5].toNat_lt
  rw [hcount]
  refine .liftM_bind (fun objectCount hobjectCount => ?_) nofun
  cases hobjectCount
  refine .bind ((triple_receiveObjects hcontract header[5].toNat (2 + 6)
    (by simp only [maxResponseSize]; omega)).conseq (fun _ hstate => hstate ▸ hasked)
    (fun _ _ h => h) fun _ _ h => h) fun objects => ?_
  refine .bind (triple_receive hcontract _ (by decide : (0 : Int) < 2)
    (by simp only [maxResponseSize]; omega)) fun crc => .pure fun _ hdata => ?_
  exact hdata.2.mono (by simp only [maxResponseSize]; omega)

/-- A size that the prefix determines is that of an exception response or of a fixed layout. -/
theorem size_of_inferred {prefixData : Bytes} {request : RequestPDU} {size : Option Int}
    (h : rtuResponseSizeFromPrefix prefixData request = .ok size) :
    ∀ known ∈ size, 5 ≤ known ∧ known ≤ 10 := by
  rw [rtuResponseSizeFromPrefix] at h
  split at h
  · cases h
  · obtain ⟨functionCode, -, h⟩ := Except.bind_eq_ok_iff.mp h
    split at h
    · cases h
      rintro known ⟨⟩
      exact ⟨by decide, by decide⟩
    · cases h
      intro known hknown
      unfold fixedRtuResponseSize at hknown
      split at hknown <;> cases hknown <;> exact ⟨by decide, by decide⟩

theorem rtuResponseSizeFromPrefix_ne_error {prefixData : Bytes} {request : RequestPDU}
    {error : PyError} (hlength : (prefixData.length : Int) = rtuResponsePrefixSize) :
    rtuResponseSizeFromPrefix prefixData request ≠ .error error := by
  obtain ⟨unitId, head, rfl⟩ := List.length_eq_two.mp (Int.ofNat_inj.mp hlength)
  rw [rtuResponseSizeFromPrefix, if_neg (not_not.mpr hlength)]
  change (if _ then pure _ else pure _) ≠ Except.error error
  split <;> nofun

theorem triple_receiveResponse (hcontract : transport.Contract passes) (request : RequestPDU) :
    Triple (fun state => state.2.asked = log) (receiveResponse transport.logged request)
      (fun _ state => AsksWithin maxResponseSize log state.2.asked) (Raises passes log) := by
  have hnone : ∀ state : σ × TransportLog, state.2.asked = log → AsksWithin 0 log state.2.asked :=
    fun state hlog => ⟨[], by rw [hlog, List.append_nil], nofun, le_rfl⟩
  refine .bind ((triple_receive hcontract 0 (by decide : (0 : Int) < rtuResponsePrefixSize)
    (by decide)).conseq hnone (fun _ _ h => h) fun _ _ h => h)
    fun prefixData => .of_pre fun state hprefix => ?_
  obtain ⟨hlength, hasked⟩ := hprefix
  refine .liftM_bind (fun responseSize hsize => ?_)
    fun error herror => absurd herror (rtuResponseSizeFromPrefix_ne_error hlength)
  have hknown := size_of_inferred hsize
  split
  · refine .bind ((triple_receiveReadDeviceIdentificationResponse hcontract).conseq
      (fun _ hstate => hstate ▸ hasked) (fun _ _ h => h) fun _ _ h => h) fun body =>
        .pure fun _ h => h
  · refine .bind ((triple_receive hcontract 2 (by decide : (0 : Int) < 1)
      (by decide)).conseq (fun _ hstate => hstate ▸ hasked) (fun _ _ h => h) fun _ _ h => h)
      fun byteCountData => .of_pre fun state hdata => ?_
    obtain ⟨hone, hasked⟩ := hdata
    obtain ⟨byteCount, rfl⟩ := List.length_eq_one_iff.mp (Int.ofNat_inj.mp hone)
    have hbyte : byteCount.toNat < 256 := byteCount.toNat_lt
    refine .liftM_bind (fun found hfound => ?_) nofun
    cases hfound
    rw [rtuByteCountResponseSize, if_neg (by omega)]
    refine .liftM_bind (fun size hsize => ?_) nofun
    cases hsize
    refine .bind ((triple_receive hcontract (2 + 1) (by omega)
      (by simp only [maxResponseSize]; omega)).conseq (fun _ hstate => hstate ▸ hasked)
      (fun _ _ h => h) fun _ _ h => h) fun rest => .pure fun _ hdata => ?_
    exact hdata.2.mono (by simp only [maxResponseSize]; omega)
  · rename_i size
    obtain ⟨hlow, hhigh⟩ := hknown size rfl
    have hprefixSize : rtuResponsePrefixSize = 2 := rfl
    refine .bind ((triple_receive hcontract 2 (by omega)
      (by simp only [maxResponseSize]; omega)).conseq (fun _ hstate => hstate ▸ hasked)
      (fun _ _ h => h) fun _ _ h => h) fun rest => .pure fun _ hdata => ?_
    exact hdata.2.mono (by simp only [maxResponseSize]; omega)

theorem triple_execute (hcontract : transport.Contract passes) (client : ModbusRtuClient)
    (request : BuiltinRequest) (unitId : Option Int) (log : TransportLog) :
    Triple (fun state => state.2 = log)
      (execute registry client transport.logged (.builtin request) unitId)
      (fun _ state => AsksWithin maxResponseSize log.asked state.2.asked)
      (Raises passes log.asked) := by
  have hnone : ∀ state : σ × TransportLog, state.2 = log →
      AsksWithin maxResponseSize log.asked state.2.asked :=
    fun state hlog => ⟨[], by rw [hlog, List.append_nil], nofun, by decide⟩
  refine .liftM_bind (fun payload _ => ?_) fun error herror state hlog =>
    ⟨.valueError ?_, hnone state hlog⟩
  · refine .bind ((hcontract.send_logged log payload).conseq (fun _ hlog => hlog)
      (fun _ _ hlog => congrArg (·.asked) hlog)
      fun error state herror => ⟨herror.1, hnone state herror.2⟩) fun _ => ?_
    refine .bind (triple_receiveResponse hcontract (.builtin request)) fun data => ?_
    refine .liftM (fun _ _ _ h => h) fun error herror state h => ⟨?_, h⟩
    exact Except.raisesOnly_iff.mp
      (ModbusRTUCodec.raisesOnly_decodeResponse registry request data _) _ herror
  · exact Except.raisesOnly_iff.mp (ModbusRTUCodec.raisesOnly_encodeRequest request _) _ herror

end ModbusRtuClient

theorem raisesOnly_requireBools (values : List PyObject) :
    (requireBools values).RaisesOnly IsValueError := by
  induction values with
  | nil => exact trivial
  | cons value values ih =>
      refine Except.RaisesOnly.bind ?_ fun bit => Except.RaisesOnly.bind ih fun bits => trivial
      cases value <;> exact trivial

theorem ClientCall.raisesOnly_request (call : ClientCall) :
    call.request.RaisesOnly IsValueError := by
  cases call with
  | readDeviceIdentification readCode objectId =>
      exact (ReadDeviceIdentificationRequest.raisesOnly_postInit _ _ _).map _
  | data call =>
      cases call with
      | readCoils address count => exact (ReadRequest.raisesOnly_postInit _ _ _ _).map _
      | readDiscreteInputs address count => exact (ReadRequest.raisesOnly_postInit _ _ _ _).map _
      | readHoldingRegisters address count => exact (ReadRequest.raisesOnly_postInit _ _ _ _).map _
      | readInputRegisters address count => exact (ReadRequest.raisesOnly_postInit _ _ _ _).map _
      | readWriteMultipleRegisters readAddress readCount writeAddress values =>
          exact (ReadWriteMultipleRegistersRequest.raisesOnly_postInit _ _ _ _).map _
      | writeSingleCoil address value =>
          cases value with
          | bool value => exact (WriteSingleCoilRequest.raisesOnly_postInit address value).map _
          | int value =>
              refine (Except.RaisesOnly.bind (raisesOnly_check _) fun haddress => ?_).map _
              exact trivial
          | other text =>
              refine (Except.RaisesOnly.bind (raisesOnly_check _) fun haddress => ?_).map _
              exact trivial
      | writeSingleRegister address value =>
          exact (WriteSingleRegisterRequest.raisesOnly_postInit _ _).map _
      | writeMultipleCoils address values =>
          refine (Except.RaisesOnly.bind (raisesOnly_check _) fun haddress => ?_).map _
          refine Except.RaisesOnly.bind (raisesOnly_check _) fun hcount => ?_
          exact Except.RaisesOnly.bind (raisesOnly_requireBools values) fun bits => trivial
      | writeMultipleRegisters address values =>
          exact (WriteMultipleRegistersRequest.raisesOnly_postInit _ _).map _
      | maskWriteRegister address andMask orMask =>
          exact (MaskWriteRegisterRequest.raisesOnly_postInit _ _ _).map _

section Operations

variable {execute : Execute σ} {unitId : Option Int} {pre after : σ → Prop}
  {raises : PyError → σ → Prop}

theorem triple_request {builtin : BuiltinRequest}
    (hexecute : Triple pre (execute (.builtin builtin) unitId) (fun _ => after) raises)
    (hdeclared : ∀ error state, error.IsDeclared passes → after state → raises error state) :
    Triple pre (ModbusClientOperations.request execute builtin unitId) (fun _ => after) raises := by
  refine .bind hexecute fun response => ?_
  refine .liftM_bind (fun _ _ => .pure fun _ h => h) fun error herror state h => ?_
  cases response with
  | exception response =>
      cases herror
      exact hdeclared _ state (.exceptionResponse _ _) h
  | _ => cases herror

theorem triple_mismatch {α : Type} {message : String}
    (hdeclared : ∀ error state, error.IsDeclared passes → after state → raises error state) :
    Triple after (throw (.modbusResponseMismatchError message) : Exec PyError σ α) (fun _ => after)
      raises :=
  .throw fun state h => hdeclared _ state (.mismatch message) h

theorem triple_expectReadBits (response : ResponsePDU)
    (hdeclared : ∀ error state, error.IsDeclared passes → after state → raises error state) :
    Triple after (liftM (expectReadBits response) : Exec PyError σ ReadBitsResponse)
    (fun _ => after) raises := by
  cases response with
  | readBits response => exact .pure fun _ h => h
  | _ => exact triple_mismatch hdeclared

theorem triple_expectReadRegisters (response : ResponsePDU)
    (hdeclared : ∀ error state, error.IsDeclared passes → after state → raises error state) :
    Triple after (liftM (expectReadRegisters response) : Exec PyError σ ReadRegistersResponse)
      (fun _ => after) raises := by
  cases response with
  | readRegisters response => exact .pure fun _ h => h
  | _ => exact triple_mismatch hdeclared

theorem triple_requireEcho {α β : Type} [DecidableEq α] {echoed expected : α} {message : String}
    {next : Unit → Exec PyError σ β}
    (hdeclared : ∀ error state, error.IsDeclared passes → after state → raises error state)
    (hnext : Triple after (next ()) (fun _ => after) raises) :
    Triple after (liftM (requireEcho echoed expected message) >>= next)
    (fun _ => after) raises := by
  refine .liftM_bind (fun _ _ => hnext) fun error herror state h => ?_
  rw [requireEcho] at herror
  split at herror
  · cases herror
    exact hdeclared _ state (.mismatch message) h
  · cases herror

/-- An operation does with the state what its `execute` does. -/
theorem triple_operation {ρ α : Type} {construct : Except PyError ρ} {wrap : ρ → BuiltinRequest}
    {next : ρ → ResponsePDU → Exec PyError σ α} {wrapResponse : α → ResponsePDU}
    (hconstruct : (wrap <$> construct).RaisesOnly IsValueError)
    (hrejected : ∀ error state, error.IsValueError → pre state → raises error state)
    (hexecute : ∀ builtin, Triple pre (execute (.builtin builtin) unitId) (fun _ => after) raises)
    (hdeclared : ∀ error state, error.IsDeclared passes → after state → raises error state)
    (hnext : ∀ inner response, Triple after (next inner response) (fun _ => after) raises) :
    Triple pre
      ((liftM construct >>= fun pdu =>
        ModbusClientOperations.request execute (wrap pdu) unitId >>= next pdu) >>= fun returned =>
          pure (wrapResponse returned)) (fun _ => after) raises := by
  refine .bind (.liftM_bind (fun pdu _ => ?_) fun error herror state hstate => ?_) fun returned =>
    .pure fun _ h => h
  · exact .bind (triple_request (hexecute (wrap pdu)) hdeclared) (hnext pdu)
  · rw [herror] at hconstruct
    exact hrejected error state hconstruct hstate

theorem HelperCall.triple_run (call : HelperCall)
    (hrejected : ∀ error state, error.IsValueError → pre state → raises error state)
    (hexecute : ∀ builtin, Triple pre (execute (.builtin builtin) unitId) (fun _ => after) raises)
    (hdeclared : ∀ error state, error.IsDeclared passes → after state → raises error state) :
    Triple pre (call.run execute unitId) (fun _ => after) raises := by
  have hrequest := (ClientCall.data call).raisesOnly_request
  cases call with
  | readCoils address count =>
      refine triple_operation hrequest hrejected hexecute hdeclared fun inner response => ?_
      exact triple_expectReadBits response hdeclared
  | readDiscreteInputs address count =>
      refine triple_operation hrequest hrejected hexecute hdeclared fun inner response => ?_
      exact triple_expectReadBits response hdeclared
  | readHoldingRegisters address count =>
      refine triple_operation hrequest hrejected hexecute hdeclared fun inner response => ?_
      exact triple_expectReadRegisters response hdeclared
  | readInputRegisters address count =>
      refine triple_operation hrequest hrejected hexecute hdeclared fun inner response => ?_
      exact triple_expectReadRegisters response hdeclared
  | readWriteMultipleRegisters readAddress readCount writeAddress values =>
      refine triple_operation hrequest hrejected hexecute hdeclared fun inner response => ?_
      exact triple_expectReadRegisters response hdeclared
  | writeSingleCoil address value =>
      refine triple_operation hrequest hrejected hexecute hdeclared fun inner response => ?_
      cases response with
      | writeSingleCoil response =>
          exact triple_requireEcho hdeclared (triple_requireEcho hdeclared (.pure fun _ h => h))
      | _ => exact triple_mismatch hdeclared
  | writeSingleRegister address value =>
      refine triple_operation hrequest hrejected hexecute hdeclared fun inner response => ?_
      cases response with
      | writeSingleRegister response =>
          exact triple_requireEcho hdeclared (triple_requireEcho hdeclared (.pure fun _ h => h))
      | _ => exact triple_mismatch hdeclared
  | writeMultipleCoils address values =>
      refine triple_operation hrequest hrejected hexecute hdeclared fun inner response => ?_
      cases response with
      | writeMultipleCoils response =>
          exact triple_requireEcho hdeclared (triple_requireEcho hdeclared (.pure fun _ h => h))
      | _ => exact triple_mismatch hdeclared
  | writeMultipleRegisters address values =>
      refine triple_operation hrequest hrejected hexecute hdeclared fun inner response => ?_
      cases response with
      | writeMultipleRegisters response =>
          exact triple_requireEcho hdeclared (triple_requireEcho hdeclared (.pure fun _ h => h))
      | _ => exact triple_mismatch hdeclared
  | maskWriteRegister address andMask orMask =>
      refine triple_operation hrequest hrejected hexecute hdeclared fun inner response => ?_
      cases response with
      | maskWriteRegister response =>
          exact triple_requireEcho hdeclared (triple_requireEcho hdeclared
            (triple_requireEcho hdeclared (.pure fun _ h => h)))
      | _ => exact triple_mismatch hdeclared

theorem ClientCall.triple_run (call : ClientCall)
    (hrejected : ∀ error state, error.IsValueError → pre state → raises error state)
    (hexecute : ∀ builtin, Triple pre (execute (.builtin builtin) unitId) (fun _ => after) raises)
    (hdeclared : ∀ error state, error.IsDeclared passes → after state → raises error state) :
    Triple pre (call.run execute unitId) (fun _ => after) raises := by
  have hrequest := call.raisesOnly_request
  cases call with
  | data call => exact call.triple_run hrejected hexecute hdeclared
  | readDeviceIdentification readCode objectId =>
      refine triple_operation hrequest hrejected hexecute hdeclared fun inner response => ?_
      cases response with
      | readDeviceIdentification response => exact .pure fun _ h => h
      | _ => exact triple_mismatch hdeclared

end Operations

namespace ModbusTcpClient

def Counts (client : ModbusTcpClient) : Prop :=
  1 ≤ client.transactionId ∧ client.transactionId ≤ 0xFFFF

variable {transport : Transport σ} {client : ModbusTcpClient}

theorem triple_execute (hcontract : transport.Contract passes)
    (registry : CustomFunctionCodeRegistry) (request : BuiltinRequest) (unitId : Option Int)
    (hcounts : client.Counts) (before : σ × TransportLog) :
    Triple (· = (client, before)) (execute registry transport.logged (.builtin request) unitId)
      (fun _ after => after.1.Counts ∧ AsksForFrame before.2 after.2.2)
      fun error after => after.1.Counts ∧
        Raises passes (unitId.getD client.unitId) before error after.2 := by
  rintro _ rfl
  have hregister : IsRegisterValue client.transactionId := ⟨by have := hcounts.1; omega, hcounts.2⟩
  have hnext : client.nextTransactionId.2.Counts := nextTransactionId_range hcounts
  have hmeets := triple_exchange hcontract registry request hregister
    (unitId.getD client.unitId) before before rfl
  rw [runOn_execute]
  revert hmeets
  rcases Exec.runOn (exchange registry transport.logged (.builtin request) client.transactionId
    (unitId.getD client.unitId)) before with ⟨error | response, after⟩
  · exact fun hraises => ⟨hnext, hraises⟩
  · exact fun hasks => ⟨hnext, hasks⟩

end ModbusTcpClient

end ClearModbus
