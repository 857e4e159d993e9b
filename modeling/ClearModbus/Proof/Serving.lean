import ClearModbus.Network
import ClearModbus.Proof.EndToEnd
import ClearModbus.Proof.Framing
import ClearModbus.Proof.Handler
import ClearModbus.Proof.Refinement
import ClearModbus.Proof.WireRange

/-!
# A handler serves a stream of requests

A request is answered as the abstract server answers it, and leaves the datastore as the abstract
server leaves the device. A handler on a connection that carries nothing but request frames takes
them one by one and never leaves its loop before the end of the stream.
-/

namespace ClearModbus

variable {registry : CustomFunctionCodeRegistry} {server : ModbusTcpServer}
  {store after : MemoryDataStore} {device : Device} {request : BuiltinRequest}
  {response : ResponsePDU}

namespace ModbusTcpServer

structure Serves (server : ModbusTcpServer) (store : MemoryDataStore) (device : Device)
    (request : BuiltinRequest) (response : ResponsePDU) (after : MemoryDataStore) : Prop where
  run : Exec.runOn (server.handleRequest (.builtin request)) store = (.ok response, after)
  answers : Answers request response
  output : (server.serve device (.request request)).1 = .response (.ok response)
  represents : after.Represents (server.serve device (.request request)).2
  inRange : after.InRange

theorem exists_readDeviceIdentification_ok (server : ModbusTcpServer)
    (request : ReadDeviceIdentificationRequest) :
    ∃ response, readDeviceIdentification request server.deviceIdentification = .ok response := by
  by_cases hrejected : request.readCode = 4 ∧ request.objectId ∉ server.deviceIdentification.keys
  · exact ⟨_, by rw [readDeviceIdentification, if_pos hrejected]⟩
  · obtain ⟨items, -, -, hselect⟩ := server.deviceIdentification.exists_sortedObjects
    obtain ⟨response, hread, -⟩ := exists_readDeviceIdentification request
      server.deviceIdentification hrejected (hselect request.readCode request.objectId)
    exact ⟨_, hread⟩

theorem serve_of_data (server : ModbusTcpServer) (device : Device) (hdata : request.IsData) :
    server.serve device (.request request) = device.perform (.request ⟨request, hdata⟩) := by
  cases request with
  | readDeviceIdentification request => exact hdata.elim
  | _ => rfl

theorem exists_serves (server : ModbusTcpServer) (hrel : store.Represents device)
    (hrange : store.InRange) (request : BuiltinRequest) :
    ∃ response after, server.Serves store device request response after := by
  obtain ⟨response, after, hrun, hhandles⟩ := server.answered hrel.wellFormed request
  by_cases hdata : request.IsData
  · obtain ⟨hresponse, hafter⟩ : (device.request ⟨request, hdata⟩).1 = response ∧
        after.Represents (device.request ⟨request, hdata⟩).2 := Handles.request_eq hrel hhandles
    have hserve := serve_of_data server device hdata
    refine ⟨response, after, hrun, hhandles.answers hrange, ?_, ?_, hhandles.inRange hrange⟩
    · rw [hserve, ← hresponse]
      rfl
    · rw [hserve]
      exact hafter
  · cases request with
    | readDeviceIdentification request =>
        obtain ⟨found, hfound⟩ := server.exists_readDeviceIdentification_ok request
        have hdispatch : Exec.runOn (server.handleRequest
            (.builtin (.readDeviceIdentification request))) store = (.ok found, store) := by
          apply runOn_handleRequest_of_ok
          change Exec.runOn (liftM (readDeviceIdentification request server.deviceIdentification))
            store = _
          rw [hfound]
          rfl
        cases hrun.symm.trans hdispatch
        refine ⟨response, store, hrun, hhandles.answers hrange, ?_, hrel, hrange⟩
        change Output.response (readDeviceIdentification request server.deviceIdentification) = _
        rw [hfound]
    | _ => exact absurd trivial hdata

theorem builtin?_eq_some_iff {pdu : Bytes} :
    Network.builtin? registry pdu = some request ↔
      decodeRequestPdu registry pdu = .ok (.builtin request) := by
  rw [Network.builtin?]
  split
  · rename_i found hdecode
    rw [hdecode, Except.ok.injEq, RequestPDU.builtin.injEq, Option.some.injEq]
  · rename_i hnone
    constructor
    · intro h
      cases h
    · exact fun h => absurd h (hnone request)

theorem builtin?_wire (registry : CustomFunctionCodeRegistry) (request : BuiltinRequest) :
    Network.builtin? registry request.wire = some request :=
  builtin?_eq_some_iff.mpr
    (decodeRequestPdu_of_decodesFrom registry (decodesFrom_wire request))

theorem Serves.reply {pdu : Bytes} (h : server.Serves store device request response after)
    (hdecode : Network.builtin? registry pdu = some request) :
    Exec.runOn (server.replyPdu registry pdu) store = (.ok response.wire, after) := by
  rw [replyPdu, Exec.runOn_tryCatch, builtin?_eq_some_iff.mp hdecode, Exec.runOn_liftM_bind]
  dsimp only
  rw [Exec.runOn_bind_ok h.run, h.answers.encode_eq]
  rfl

/-- A PDU that is no request of the package's own leaves the datastore as it is. -/
theorem replyPdu_of_not_builtin {pdu : Bytes} (h : Network.builtin? registry pdu = none) :
    (Exec.runOn (server.replyPdu registry pdu) store).2 = store := by
  rw [replyPdu, Exec.runOn_tryCatch]
  cases hdecode : decodeRequestPdu registry pdu with
  | error error =>
      rw [Exec.runOn_liftM_bind]
      cases error <;> rfl
  | ok found =>
      cases found with
      | builtin request =>
          rw [builtin?_eq_some_iff.mpr hdecode] at h
          cases h
      | custom request =>
          have hrun : Exec.runOn (server.handleRequest (.custom request)) store =
              (.ok (.exception ⟨request.functionCode, ExceptionCode.illegalFunction.code⟩),
                store) :=
            rfl
          rw [Exec.runOn_liftM_bind]
          dsimp only
          rw [Exec.runOn_bind_ok hrun, Exec.runOn_liftM]
          cases ResponsePDU.encode
              (.exception ⟨request.functionCode, ExceptionCode.illegalFunction.code⟩) with
          | ok data => rfl
          | error error => cases error <;> rfl

end ModbusTcpServer

namespace ClientHandler

open ModbusTcpServer

variable {handler next : ClientHandler} {toServer : Bytes} {frames : List RequestFrame}
  {reply : Option Reply}

theorem snd_answer (header : MBAPHeader) (pdu : Bytes) :
    (answer registry server header pdu store).2 =
      (Exec.runOn (server.replyPdu registry pdu) store).2 := by
  rw [answer]
  split
  · rename_i hreply
    rw [hreply]
  · rename_i hreply
    rw [hreply]
    dsimp only
    split <;> rfl

/-- Where answering raises, nothing has changed. -/
theorem after_of_answer_error (hrel : store.Represents device) (hrange : store.InRange)
    {header : MBAPHeader} (hfits : header.Fits) (hprotocol : header.protocolId = 0) {pdu : Bytes}
    {loopExit : LoopExit}
    (h : answer registry server header pdu store = (.error loopExit, after)) : after = store := by
  cases hbuiltin : Network.builtin? registry pdu with
  | none =>
      calc
        after = (answer registry server header pdu store).2 := by rw [h]
        _ = (Exec.runOn (server.replyPdu registry pdu) store).2 := snd_answer header pdu
        _ = store := replyPdu_of_not_builtin hbuiltin
  | some request =>
      obtain ⟨response, final, hserves⟩ := server.exists_serves hrel hrange request
      have hencode : ∃ data, ModbusTCPFrame.encode ⟨header.transactionId, header.unitId,
          response.wire, header.protocolId⟩ = .ok data := by
        rw [hprotocol]
        exact ⟨_, ModbusTCPFrame.encode_eq (ModbusTCPFrame.fits_header hfits.transactionId
          hfits.unitId hserves.answers.length_wire_le)⟩
      obtain ⟨data, hencode⟩ := hencode
      rw [answer, hserves.reply hbuiltin] at h
      dsimp only at h
      rw [hencode] at h
      cases h

/-- A turn changes the datastore as the reply it writes does, and not at all where it writes
none. -/
theorem after_of_resume (hrel : store.Represents device) (hrange : store.InRange)
    (hsound : handler.Sound)
    (h : handler.resume registry server store = some (reply, next, after)) :
    (reply = none → after = store) ∧ ∀ written, reply = some written →
      (Exec.runOn (server.replyPdu registry written.1) store).2 = after := by
  cases resumed_of_resume h with
  | raised hprogress hbody hanswer =>
      obtain ⟨hfits, hprotocol, -⟩ := decodeHeader_eq_ok (hsound _ hprogress)
      refine ⟨fun _ => after_of_answer_error hrel hrange hfits hprotocol hanswer, ?_⟩
      intro written hwritten
      cases hwritten
  | @replied header _ _ hprogress hbody hanswer =>
      constructor
      · intro hnone
        cases hnone
      · intro written hwritten
        cases hwritten
        rw [← snd_answer header, hanswer]
  | _ =>
      refine ⟨fun _ => rfl, ?_⟩
      intro written hwritten
      cases hwritten

def requestWires (frames : List RequestFrame) : Bytes := frames.flatMap (·.wire)

/-- Nothing but the frames is before the handler, in its reader or on the way to it. -/
structure Expects (handler : ClientHandler) (toServer : Bytes) (frames : List RequestFrame) :
    Prop where
  atEof : handler.atEof = false
  bytes : match handler.progress with
    | .awaitingBody header => ∃ frame rest, frames = frame :: rest ∧ header = frame.header ∧
        handler.incoming ++ toServer = frame.pdu ++ requestWires rest
    | .exited _ => False
    | _ => handler.incoming ++ toServer = requestWires frames

theorem expects_accepted : accepted.Expects [] [] := ⟨rfl, rfl⟩

theorem Expects.not_exited (h : handler.Expects toServer frames) {loopExit : LoopExit} :
    handler.progress ≠ .exited loopExit := by
  intro hexited
  have hbytes := h.bytes
  rw [hexited] at hbytes
  exact hbytes

theorem Expects.deliver (h : handler.Expects toServer frames) (count : Nat) :
    Expects { handler with incoming := handler.incoming ++ toServer.take count }
      (toServer.drop count) frames := by
  have hbytes := h.bytes
  refine ⟨h.atEof, ?_⟩
  dsimp only
  rw [List.append_assoc, List.take_append_drop]
  exact hbytes

theorem Expects.send (h : handler.Expects toServer frames) (frame : RequestFrame) :
    handler.Expects (toServer ++ frame.wire) (frames ++ [frame]) := by
  have hbytes := h.bytes
  have hwires : ∀ others : List RequestFrame,
      requestWires (others ++ [frame]) = requestWires others ++ frame.wire := fun others => by
    rw [requestWires, requestWires, List.flatMap_append, List.flatMap_singleton]
  refine ⟨h.atEof, ?_⟩
  cases hprogress : handler.progress with
  | awaitingBody header =>
      rw [hprogress] at hbytes
      obtain ⟨first, rest, rfl, hheader, hbytes⟩ := hbytes
      refine ⟨first, rest ++ [frame], rfl, hheader, ?_⟩
      rw [← List.append_assoc, hbytes, hwires, List.append_assoc]
  | exited loopExit => exact absurd hprogress h.not_exited
  | awaitingHeader =>
      rw [hprogress] at hbytes
      change handler.incoming ++ (toServer ++ frame.wire) = requestWires (frames ++ [frame])
      rw [← List.append_assoc, hbytes, hwires]
  | draining =>
      rw [hprogress] at hbytes
      change handler.incoming ++ (toServer ++ frame.wire) = requestWires (frames ++ [frame])
      rw [← List.append_assoc, hbytes, hwires]

theorem requestWires_cons (frame : RequestFrame) (frames : List RequestFrame) :
    requestWires (frame :: frames) = frame.header.wire ++ (frame.pdu ++ requestWires frames) := by
  rw [requestWires, List.flatMap_cons, ModbusTCPFrame.wire, List.append_assoc]
  rfl

theorem answer_frame (frame : RequestFrame) {pdu : Bytes}
    (hreply : Exec.runOn (server.replyPdu registry frame.pdu) store = (.ok pdu, after))
    (hlength : pdu.length ≤ 65534) :
    answer registry server frame.header frame.pdu store = (.ok (frame.reply pdu), after) := by
  have hframe : ModbusTCPFrame.mk frame.header.transactionId frame.header.unitId pdu
      frame.header.protocolId = frame.reply pdu :=
    congrArg (ModbusTCPFrame.mk frame.transactionId frame.unitId pdu) frame.protocolId_valid
  rw [answer, hreply]
  dsimp only
  rw [hframe, ModbusTCPFrame.encode_eq (frame.fits_reply hlength)]

theorem size_of_frame (frame : RequestFrame) :
    (frame.header.length - 1).toNat = frame.pdu.length := by
  change ((1 : Int) + frame.pdu.length - 1).toNat = _
  omega

theorem Expects.header (h : handler.Expects toServer frames)
    (hprogress : handler.progress = .awaitingHeader) (hseven : 7 ≤ handler.incoming.length) :
    ∃ frame rest, frames = frame :: rest ∧
      decodeHeader (handler.incoming.take 7) = .ok frame.header ∧
      handler.incoming.drop 7 ++ toServer = frame.pdu ++ requestWires rest := by
  have hbytes := h.bytes
  rw [hprogress] at hbytes
  cases frames with
  | nil =>
      have hnothing := (List.append_eq_nil_iff.mp hbytes).1
      rw [hnothing] at hseven
      exact absurd hseven (by decide)
  | cons frame rest =>
      dsimp only at hbytes
      rw [requestWires_cons] at hbytes
      obtain ⟨behind, hincoming, hrest⟩ := Session.exists_of_append_eq hbytes
        (by rw [MBAPHeader.length_wire]; exact hseven)
      have hone : 1 ≤ frame.header.length := by
        change 1 ≤ (1 : Int) + frame.pdu.length
        omega
      refine ⟨frame, rest, rfl, ?_, ?_⟩
      · rw [hincoming]
        exact decodeHeader_wire frame.fits frame.protocolId_valid hone
      · rw [hincoming, hrest]
        rfl

theorem Expects.body (h : handler.Expects toServer frames) {header : MBAPHeader}
    (hprogress : handler.progress = .awaitingBody header)
    (hbody : (header.length - 1).toNat ≤ handler.incoming.length) :
    ∃ frame rest, frames = frame :: rest ∧ header = frame.header ∧
      handler.incoming.take (header.length - 1).toNat = frame.pdu ∧
      handler.incoming.drop (header.length - 1).toNat ++ toServer = requestWires rest := by
  have hbytes := h.bytes
  rw [hprogress] at hbytes
  obtain ⟨frame, rest, rfl, rfl, hbytes⟩ := hbytes
  rw [size_of_frame] at hbody ⊢
  obtain ⟨behind, hincoming, hrest⟩ := Session.exists_of_append_eq hbytes hbody
  refine ⟨frame, rest, rfl, rfl, ?_, ?_⟩
  · rw [hincoming, List.take_left]
  · rw [hincoming, hrest, List.drop_left]

/-- A turn of the handler answers the next frame, or only goes on reading. -/
theorem Expects.resume (h : handler.Expects toServer frames)
    (hanswered : ∀ frame rest, frames = frame :: rest → ∃ pdu after,
      Exec.runOn (server.replyPdu registry frame.pdu) store = (.ok pdu, after) ∧ pdu.length ≤ 65534)
    (hresume : handler.resume registry server store = some (reply, next, after)) :
    (reply = none ∧ after = store ∧ next.Expects toServer frames) ∨
    ∃ frame rest pdu, frames = frame :: rest ∧ reply = some (frame.pdu, frame.reply pdu) ∧
      Exec.runOn (server.replyPdu registry frame.pdu) store = (.ok pdu, after) ∧
      next.Expects toServer rest := by
  cases resumed_of_resume hresume with
  | noHeader hprogress hshort hatEof => exact absurd (h.atEof.symm.trans hatEof) Bool.noConfusion
  | badHeader hprogress hseven hdecode hexit =>
      obtain ⟨frame, rest, -, hheader, -⟩ := h.header hprogress hseven
      cases hdecode.symm.trans hheader
  | header hprogress hseven hdecode =>
      obtain ⟨frame, rest, rfl, hheader, hbytes⟩ := h.header hprogress hseven
      cases hdecode.symm.trans hheader
      exact .inl ⟨rfl, rfl, h.atEof, frame, rest, rfl, rfl, hbytes⟩
  | noBody hprogress hshort hatEof => exact absurd (h.atEof.symm.trans hatEof) Bool.noConfusion
  | raised hprogress hbody hanswer =>
      obtain ⟨frame, rest, rfl, rfl, hpdu, hbytes⟩ := h.body hprogress hbody
      obtain ⟨pdu, final, hreply, hlength⟩ := hanswered frame rest rfl
      rw [hpdu, answer_frame frame hreply hlength] at hanswer
      cases hanswer
  | replied hprogress hbody hanswer =>
      obtain ⟨frame, rest, rfl, rfl, hpdu, hbytes⟩ := h.body hprogress hbody
      obtain ⟨pdu, final, hreply, hlength⟩ := hanswered frame rest rfl
      rw [hpdu, answer_frame frame hreply hlength] at hanswer
      cases hanswer
      exact .inr ⟨frame, rest, pdu, rfl, by rw [hpdu], hreply, h.atEof, hbytes⟩
  | drained hprogress =>
      have hbytes := h.bytes
      rw [hprogress] at hbytes
      exact .inl ⟨rfl, rfl, h.atEof, hbytes⟩

def stage (handler : ClientHandler) : Nat :=
  match handler.progress with
  | .draining => 2
  | .awaitingHeader => 1
  | _ => 0

/-- A handler that has all of a request does not wait. -/
theorem Expects.exists_resume {frame : RequestFrame} {rest : List RequestFrame}
    (h : handler.Expects [] (frame :: rest)) (registry : CustomFunctionCodeRegistry)
    (server : ModbusTcpServer) (store : MemoryDataStore) :
    ∃ reply next after, handler.resume registry server store = some (reply, next, after) := by
  have hread : ∀ size, size ≤ handler.incoming.length → handler.readExactly size =
      some (ModbusTcpServer.readExactly handler.incoming size) := fun size hsize =>
    if_neg fun hwaits => absurd hwaits.1 (Nat.not_lt.mpr hsize)
  have hbytes := h.bytes
  cases hprogress : handler.progress with
  | awaitingHeader =>
      rw [hprogress] at hbytes
      have hseven : 7 ≤ handler.incoming.length := by
        dsimp only at hbytes
        rw [List.append_nil] at hbytes
        rw [hbytes, requestWires_cons, List.length_append, MBAPHeader.length_wire]
        exact Nat.le_add_right _ _
      rw [ClientHandler.resume, hprogress]
      dsimp only
      rw [hread 7 hseven]
      exact ⟨_, _, _, rfl⟩
  | awaitingBody header =>
      rw [hprogress] at hbytes
      obtain ⟨first, others, -, rfl, hbytes⟩ := hbytes
      have hbody : (first.header.length - 1).toNat ≤ handler.incoming.length := by
        rw [List.append_nil] at hbytes
        rw [hbytes, size_of_frame, List.length_append]
        exact Nat.le_add_right _ _
      rw [ClientHandler.resume, hprogress]
      dsimp only
      rw [hread _ hbody]
      exact ⟨_, _, _, rfl⟩
  | draining =>
      rw [ClientHandler.resume, hprogress]
      exact ⟨_, _, _, rfl⟩
  | exited loopExit => exact absurd hprogress h.not_exited

/-- A turn that takes no request is one of those before it. -/
theorem Expects.stage_lt (h : handler.Expects toServer frames)
    (hresume : handler.resume registry server store = some (none, next, after))
    (hnext : ∀ loopExit, next.progress ≠ .exited loopExit) : stage next < stage handler := by
  generalize hreply : (none : Option Reply) = reply at hresume
  cases resumed_of_resume hresume with
  | noHeader hprogress hshort hatEof => exact absurd (h.atEof.symm.trans hatEof) Bool.noConfusion
  | badHeader hprogress hseven hdecode hexit => exact absurd rfl (hnext _)
  | header hprogress hseven hdecode =>
      rw [stage, stage, hprogress]
      exact Nat.zero_lt_one
  | noBody hprogress hshort hatEof => exact absurd (h.atEof.symm.trans hatEof) Bool.noConfusion
  | raised hprogress hbody hanswer => exact absurd rfl (hnext _)
  | replied hprogress hbody hanswer => cases hreply
  | drained hprogress =>
      rw [stage, stage, hprogress]
      exact Nat.one_lt_two

end ClientHandler

end ClearModbus
