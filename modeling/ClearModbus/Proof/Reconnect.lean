import ClearModbus.Proof.Lockstep
import ClearModbus.Reconnect

/-!
# Connecting again restores a client

A receive that times out can leave a connection in the middle of a frame, or with an answer that
nobody waits for. A client that connects again after every call that raised never meets what is
left: whenever it may make a call, nothing is on its way, so every response that is returned is the
one to its own request, whatever timed out and however late the answers came.
-/

namespace ClearModbus

variable {registry : CustomFunctionCodeRegistry}

def Call.Returned (call : Call) : Prop := ∃ response, call.progress = .returned response

instance : DecidablePred Call.Returned := fun call =>
  match h : call.progress with
  | .returned response => .isTrue ⟨response, h⟩
  | .awaitingHeader => .isFalse fun ⟨_, hreturned⟩ => Progress.noConfusion (h.symm.trans hreturned)
  | .awaitingBody _ => .isFalse fun ⟨_, hreturned⟩ => Progress.noConfusion (h.symm.trans hreturned)
  | .raised _ => .isFalse fun ⟨_, hreturned⟩ => Progress.noConfusion (h.symm.trans hreturned)

theorem Call.Returned.over {call : Call} (h : call.Returned) : call.Over := by
  obtain ⟨response, hprogress⟩ := h
  rw [Call.Over, hprogress]
  trivial

namespace ModbusTcpClient

variable {stream after : TCPStream} {header : MBAPHeader}

theorem receiveHeader_eq_ok
    (h : Exec.runOn (receiveHeader tcpTransport) stream = (.ok header, after)) :
    ∃ rest, stream.connected = true ∧ header.Fits ∧ stream.incoming = header.wire ++ rest ∧
      after = { stream with incoming := rest } := by
  obtain ⟨data, middle, hreceive, h⟩ := Exec.runOn_bind_eq_ok_iff.mp h
  obtain ⟨hdecode, rfl⟩ := Exec.runOn_liftM_eq_ok_iff.mp h
  obtain ⟨hfits, rfl⟩ := MBAPHeader.decode_eq_ok_iff.mp hdecode
  obtain ⟨hconnected, -, -, rest, hincoming, rfl⟩ :=
    TCPTransport.runOn_receive_eq_ok_iff.mp hreceive
  exact ⟨rest, hconnected, hfits, hincoming, rfl⟩

theorem receiveResponse_eq_ok {request : RequestPDU} {transactionId unitId : Int}
    {response : ResponsePDU} (hfits : header.Fits)
    (h : Exec.runOn (receiveResponse registry tcpTransport request transactionId unitId header)
      stream = (.ok response, after)) :
    ∃ pdu rest, (pdu.length : Int) = header.length - 1 ∧ stream.incoming = pdu ++ rest ∧
      after = { stream with incoming := rest } ∧
      ModbusTCPCodec.decodeResponse registry (header.wire ++ pdu) request transactionId unitId =
        .ok response := by
  obtain ⟨pdu, middle, hreceive, h⟩ := Exec.runOn_bind_eq_ok_iff.mp h
  obtain ⟨head, hhead, h⟩ := Exec.runOn_liftM_bind_eq_ok_iff.mp h
  obtain ⟨hdecode, rfl⟩ := Exec.runOn_liftM_eq_ok_iff.mp h
  rw [MBAPHeader.encode_eq hfits] at hhead
  cases hhead
  obtain ⟨-, -, hlength, rest, hincoming, rfl⟩ := TCPTransport.runOn_receive_eq_ok_iff.mp hreceive
  exact ⟨pdu, rest, hlength, hincoming, rfl, hdecode⟩

end ModbusTcpClient

namespace Session

variable {session next : Session} {earlier : List Call} {call : Call} {index : Nat}

structure LastIs (session : Session) (earlier : List Call) (call : Call) : Prop where
  calls : session.calls = earlier ++ [call]
  returned : ∀ call ∈ earlier, call.Returned

inductive Stage (session : Session) : Prop where
  | idle (hreturned : ∀ call ∈ session.calls, call.Returned) (hpending : session.pending = [])
      (hunanswered : session.unanswered = [])
  | waiting (earlier : List Call) (call : Call) (hlast : session.LastIs earlier call)
      (hprogress : call.progress = .awaitingHeader) (hpending : session.pending = [])
      (hunanswered : session.unanswered = [earlier.length] ∨ session.unanswered = [])
  | answered (earlier : List Call) (call : Call) (frame : ModbusTCPFrame)
      (hlast : session.LastIs earlier call) (hprogress : call.progress = .awaitingHeader)
      (hframe : (some earlier.length, frame) ∈ session.frames) (hfits : frame.header.Fits)
      (hpending : session.pending = frame.wire) (hunanswered : session.unanswered = [])
  | inBody (earlier : List Call) (call : Call) (frame : ModbusTCPFrame)
      (hlast : session.LastIs earlier call) (hprogress : call.progress = .awaitingBody frame.header)
      (hframe : (some earlier.length, frame) ∈ session.frames) (hfits : frame.header.Fits)
      (hpending : session.pending = frame.pdu) (hunanswered : session.unanswered = [])
  | raised (hover : ∀ call ∈ session.calls, call.Over)
      (hraised : ∃ call ∈ session.calls, ¬call.Returned)

theorem not_returned_of_not_over (h : ¬call.Over) : ¬call.Returned :=
  fun hreturned => h hreturned.over

/-- Where every call has returned, nothing is on its way. -/
theorem Stage.idle_of_returned (h : session.Stage)
    (hreturned : ∀ call ∈ session.calls, call.Returned) :
    session.pending = [] ∧ session.unanswered = [] := by
  have hopen : ∀ earlier call, session.LastIs earlier call → ¬call.Over → False :=
    fun earlier call hlast hopen => not_returned_of_not_over hopen
      (hreturned call (by rw [hlast.calls]; exact List.mem_append_right _ List.mem_cons_self))
  cases h with
  | idle hreturned hpending hunanswered => exact ⟨hpending, hunanswered⟩
  | waiting earlier call hlast hprogress hpending hunanswered =>
      exact (hopen earlier call hlast (Call.not_over_of_awaitingHeader hprogress)).elim
  | answered earlier call frame hlast hprogress hframe hfits hpending hunanswered =>
      exact (hopen earlier call hlast (Call.not_over_of_awaitingHeader hprogress)).elim
  | inBody earlier call frame hlast hprogress hframe hfits hpending hunanswered =>
      exact (hopen earlier call hlast (Call.not_over_of_awaitingBody hprogress)).elim
  | raised hover hraised =>
      obtain ⟨call, hmem, hnot⟩ := hraised
      exact absurd (hreturned call hmem) hnot

theorem LastIs.eq_of_not_over (h : session.LastIs earlier call) {found : Call}
    (hfound : session.calls[index]? = some found) (hopen : ¬found.Over) :
    index = earlier.length ∧ found = call := by
  rw [h.calls] at hfound
  rcases Transition.getElem?_append_singleton hfound with hbefore | hlast
  · exact absurd (h.returned found (List.mem_of_getElem? hbefore)).over hopen
  · exact hlast

theorem Stage.lastIs_of_not_over (h : session.Stage) (hcall : session.calls[index]? = some call)
    (hopen : ¬call.Over) : ∃ earlier, session.LastIs earlier call ∧ index = earlier.length := by
  have hmem := List.mem_of_getElem? hcall
  have hfound : ∀ earlier last, session.LastIs earlier last →
      ∃ earlier, session.LastIs earlier call ∧ index = earlier.length := by
    intro earlier last hlast
    obtain ⟨rfl, rfl⟩ := hlast.eq_of_not_over hcall hopen
    exact ⟨earlier, hlast, rfl⟩
  cases h with
  | idle hreturned hpending hunanswered => exact absurd (hreturned call hmem).over hopen
  | waiting earlier last hlast hprogress hpending hunanswered => exact hfound earlier last hlast
  | answered earlier last frame hlast hprogress hframe hfits hpending hunanswered =>
      exact hfound earlier last hlast
  | inBody earlier last frame hlast hprogress hframe hfits hpending hunanswered =>
      exact hfound earlier last hlast
  | raised hover hraised => exact absurd (hover call hmem) hopen

theorem LastIs.setProgress (h : session.LastIs earlier call) (stream : TCPStream)
    (progress : Progress) :
    (Session.setProgress { session with stream } earlier.length progress).LastIs earlier
      { call with progress } := by
  refine ⟨?_, h.returned⟩
  rw [Session.setProgress]
  dsimp only
  rw [h.calls, List.modify_eq_take_drop, List.take_left, List.drop_left]
  rfl

theorem LastIs.mem (h : session.LastIs earlier call) : call ∈ session.calls := by
  rw [h.calls]
  exact List.mem_append_right _ List.mem_cons_self

theorem Stage.of_raised (h : session.LastIs earlier call) {error : PyError}
    (hprogress : call.progress = .raised error) : session.Stage := by
  refine .raised ?_ ⟨call, h.mem, ?_⟩
  · rw [h.calls]
    refine List.forall_mem_append.mpr ⟨fun other hother => (h.returned other hother).over,
      List.forall_mem_singleton.mpr ?_⟩
    rw [Call.Over, hprogress]
    trivial
  · rintro ⟨response, hreturned⟩
    exact Progress.noConfusion (hprogress.symm.trans hreturned)

/-- Calls come one after the other and only behind ones that returned, and the server answers
requests and sends nothing else. -/
def Disciplined (session : Session) : SessionAction → Prop
  | .call _ _ => ∀ call ∈ session.calls, call.Returned
  | .intrude _ => False
  | _ => True

instance (session : Session) : DecidablePred session.Disciplined
  | .call _ _ => inferInstanceAs (Decidable (∀ call ∈ session.calls, call.Returned))
  | .intrude _ => .isFalse id
  | .receive _ => .isTrue trivial
  | .timeout _ => .isTrue trivial
  | .answer _ => .isTrue trivial
  | .ignore => .isTrue trivial
  | .arrive _ => .isTrue trivial

theorem stage_call (hstage : session.Stage) (request : RequestPDU) (unitId : Option Int)
    (hreturned : ∀ call ∈ session.calls, call.Returned) : (session.call request unitId).Stage := by
  obtain ⟨hpending, hunanswered⟩ := hstage.idle_of_returned hreturned
  obtain ⟨added, written, unanswered, hcall, -, hprogress, hadded⟩ := session.call_eq request unitId
  have hlast : (session.call request unitId).LastIs session.calls added := by
    rw [hcall]
    exact ⟨rfl, hreturned⟩
  rcases hprogress with hprogress | ⟨error, hprogress⟩
  · refine .waiting session.calls added hlast hprogress ?_ ?_
    · rw [hcall]
      exact hpending
    · rw [hcall]
      rw [hunanswered, List.nil_append] at hadded
      exact hadded.symm
  · exact .of_raised hlast hprogress

theorem stage_receive_header (hlast : session.LastIs earlier call) {frames : Bytes}
    (hpending : session.pending = frames)
    (hframes : frames = [] ∨ ∃ frame : ModbusTCPFrame, frames = frame.wire ∧ frame.header.Fits ∧
      (some earlier.length, frame) ∈ session.frames)
    (hunanswered : session.unanswered = [] ∨ frames = [])
    (stream : TCPStream) (outcome : Except PyError MBAPHeader)
    (hrun : Exec.runOn (ModbusTcpClient.receiveHeader tcpTransport) session.stream =
      (outcome, stream)) :
    (Session.setProgress { session with stream } earlier.length (.ofHeader outcome)).Stage := by
  have hnext := hlast.setProgress stream (.ofHeader outcome)
  cases outcome with
  | error error => exact .of_raised hnext rfl
  | ok header =>
      obtain ⟨rest, -, hfits, hincoming, rfl⟩ := ModbusTcpClient.receiveHeader_eq_ok hrun
      rw [pending, hincoming, List.append_assoc] at hpending
      rcases hframes with rfl | ⟨frame, rfl, hframeFits, hframe⟩
      · cases hpending
      · obtain ⟨hheader, hbody⟩ := List.append_inj hpending rfl
        obtain rfl := MBAPHeader.eq_of_wire_eq hfits hframeFits hheader
        have hnone : session.unanswered = [] := hunanswered.resolve_right fun hnil =>
          absurd (congrArg List.length hnil) (length_wire_pos frame).ne'
        exact .inBody earlier _ frame hnext rfl hframe hframeFits hbody hnone

theorem stage_receive_body (registry : CustomFunctionCodeRegistry) {frame : ModbusTCPFrame}
    (hlast : session.LastIs earlier call) (hfits : frame.header.Fits)
    (hpending : session.pending = frame.pdu) (hunanswered : session.unanswered = [])
    (stream : TCPStream) (outcome : Except PyError ResponsePDU)
    (hrun : Exec.runOn (ModbusTcpClient.receiveResponse registry tcpTransport call.request
      call.transactionId call.unitId frame.header) session.stream = (outcome, stream)) :
    (Session.setProgress { session with stream } earlier.length (.ofResponse outcome)).Stage ∧
      ∀ response, outcome = .ok response →
        decodeResponsePdu registry frame.pdu call.request = .ok response := by
  have hnext := hlast.setProgress stream (.ofResponse outcome)
  cases outcome with
  | error error => exact ⟨.of_raised hnext rfl, fun _ h => nomatch h⟩
  | ok response =>
      obtain ⟨pdu, rest, hlength, hincoming, rfl, hdecode⟩ :=
        ModbusTcpClient.receiveResponse_eq_ok hfits hrun
      have hsize : pdu.length = frame.pdu.length := by
        have hheader : frame.header.length = 1 + frame.pdu.length := rfl
        omega
      rw [pending, hincoming, List.append_assoc] at hpending
      obtain ⟨rfl, hnothing⟩ := List.append_inj (hpending.trans (List.append_nil _).symm) hsize
      obtain ⟨decoded, hdecoded, -, -, hresponse⟩ :=
        ModbusTCPCodec.decodeResponse_eq_ok_iff.mp hdecode
      obtain ⟨hdecodedFits, -, hwire⟩ := ModbusTCPFrame.decode_eq_ok_iff.mp hdecoded
      obtain rfl := ModbusTCPFrame.eq_of_wire_eq hfits hdecodedFits hwire
      constructor
      · refine .idle ?_ hnothing hunanswered
        rw [hnext.calls]
        exact List.forall_mem_append.mpr ⟨hlast.returned, List.forall_mem_singleton.mpr ⟨_, rfl⟩⟩
      · intro found hfound
        cases hfound
        exact hresponse

theorem progress_ofHeader_ne_returned (outcome : Except PyError MBAPHeader)
    (response : ResponsePDU) :
    Progress.ofHeader outcome ≠ .returned response := by
  cases outcome with
  | ok header => exact Progress.noConfusion
  | error error => exact Progress.noConfusion

theorem eq_ok_of_ofResponse_eq_returned {outcome : Except PyError ResponsePDU}
    {response : ResponsePDU} (h : Progress.ofResponse outcome = .returned response) :
    outcome = .ok response := by
  cases outcome with
  | ok found =>
      cases h
      rfl
  | error error => cases h

theorem stage_receive (hstage : session.Stage) (hattributed : session.Attributed registry)
    (hcall : session.calls[index]? = some call)
    (h : session.receive registry index call = some next) :
    next.Attributed registry ∧ next.Stage := by
  have hopen := (setProgress_of_receive h).1
  have hmem := List.mem_of_getElem? hcall
  cases hstage with
  | idle hreturned hpending hunanswered => exact absurd (hreturned call hmem).over hopen
  | raised hover hraised => exact absurd (hover call hmem) hopen
  | waiting earlier last hlast hprogress hpending hunanswered =>
      obtain ⟨rfl, rfl⟩ := hlast.eq_of_not_over hcall hopen
      rcases receive_eq h with ⟨-, -, rfl⟩ | ⟨header, hbody, -⟩
      · refine ⟨attributed_setProgress hattributed hcall _ fun response hresponse => ?_,
          stage_receive_header hlast hpending (.inl rfl) (.inr rfl) _ _ rfl⟩
        exact absurd hresponse (progress_ofHeader_ne_returned _ response)
      · exact Progress.noConfusion (hprogress.symm.trans hbody)
  | answered earlier last frame hlast hprogress hframe hfits hpending hunanswered =>
      obtain ⟨rfl, rfl⟩ := hlast.eq_of_not_over hcall hopen
      rcases receive_eq h with ⟨-, -, rfl⟩ | ⟨header, hbody, -⟩
      · refine ⟨attributed_setProgress hattributed hcall _ fun response hresponse => ?_,
          stage_receive_header hlast hpending (.inr ⟨frame, rfl, hfits, hframe⟩) (.inl hunanswered)
            _ _ rfl⟩
        exact absurd hresponse (progress_ofHeader_ne_returned _ response)
      · exact Progress.noConfusion (hprogress.symm.trans hbody)
  | inBody earlier last frame hlast hprogress hframe hfits hpending hunanswered =>
      obtain ⟨rfl, rfl⟩ := hlast.eq_of_not_over hcall hopen
      rcases receive_eq h with ⟨hheader, -⟩ | ⟨header, hbody, -, rfl⟩
      · exact Progress.noConfusion (hprogress.symm.trans hheader)
      · obtain rfl : header = frame.header := Progress.awaitingBody.inj (hbody.symm.trans hprogress)
        obtain ⟨hnext, hdecode⟩ :=
          stage_receive_body registry hlast hfits hpending hunanswered _ _ rfl
        refine ⟨attributed_setProgress hattributed hcall _ fun response hresponse => ?_, hnext⟩
        refine ⟨frame, hframe, hdecode response ?_⟩
        exact eq_ok_of_ofResponse_eq_returned hresponse

theorem stage_timeout (hstage : session.Stage) (hattributed : session.Attributed registry)
    (hcall : session.calls[index]? = some call) (h : session.timeout index call = some next) :
    next.Attributed registry ∧ next.Stage := by
  have hopen := (setProgress_of_timeout h).1
  obtain ⟨-, rfl⟩ := timeout_eq h
  obtain ⟨earlier, hlast, rfl⟩ := hstage.lastIs_of_not_over hcall hopen
  refine ⟨attributed_setProgress hattributed hcall session.stream fun response hresponse => ?_,
    .of_raised (hlast.setProgress session.stream _) rfl⟩
  exact Progress.noConfusion hresponse

/-- What the other side does changes nothing but which frames are on their way. -/
theorem stage_answer (hstage : session.Stage) {unanswered : List Nat} {frame : ModbusTCPFrame}
    (hunanswered : session.unanswered = index :: unanswered) (hfits : frame.header.Fits) :
    Stage { session with unanswered
                         inTransit := session.inTransit ++ frame.wire
                         frames := session.frames ++ [(some index, frame)] } := by
  have hasked : session.unanswered ≠ [] := by
    rw [hunanswered]
    exact List.cons_ne_nil _ _
  cases hstage with
  | idle hreturned hpending hnone => exact absurd hnone hasked
  | waiting earlier call hlast hprogress hpending hnumber =>
      have hheads : index :: unanswered = [earlier.length] :=
        hunanswered.symm.trans (hnumber.resolve_right hasked)
      cases hheads
      refine .answered earlier call frame ⟨hlast.calls, hlast.returned⟩ hprogress
        (List.mem_append_right _ List.mem_cons_self) hfits ?_ rfl
      change session.stream.incoming ++ (session.inTransit ++ frame.wire) = frame.wire
      rw [← List.append_assoc, ← pending, hpending, List.nil_append]
  | answered earlier call sent hlast hprogress hframe hfits hpending hnone =>
      exact absurd hnone hasked
  | inBody earlier call sent hlast hprogress hframe hfits hpending hnone =>
      exact absurd hnone hasked
  | raised hover hraised => exact .raised hover hraised

theorem stage_ignore (hstage : session.Stage) {unanswered : List Nat}
    (hunanswered : session.unanswered = index :: unanswered) :
      Stage { session with unanswered } := by
  have hasked : session.unanswered ≠ [] := by
    rw [hunanswered]
    exact List.cons_ne_nil _ _
  cases hstage with
  | idle hreturned hpending hnone => exact absurd hnone hasked
  | waiting earlier call hlast hprogress hpending hnumber =>
      have hheads : index :: unanswered = [earlier.length] :=
        hunanswered.symm.trans (hnumber.resolve_right hasked)
      cases hheads
      exact .waiting earlier call ⟨hlast.calls, hlast.returned⟩ hprogress hpending (.inr rfl)
  | answered earlier call sent hlast hprogress hframe hfits hpending hnone =>
      exact absurd hnone hasked
  | inBody earlier call sent hlast hprogress hframe hfits hpending hnone =>
      exact absurd hnone hasked
  | raised hover hraised => exact .raised hover hraised

/-- Only what is pending counts, however much of it has arrived and whether more can come. -/
theorem Stage.congr (h : session.Stage) (hcalls : next.calls = session.calls)
    (hframes : next.frames = session.frames) (hpending : next.pending = session.pending)
    (hunanswered : next.unanswered = session.unanswered) : next.Stage := by
  have hsame : ∀ {earlier call}, session.LastIs earlier call → next.LastIs earlier call :=
    fun hlast => ⟨hcalls.trans hlast.calls, hlast.returned⟩
  cases h with
  | idle hreturned hnothing hnone =>
      exact .idle (hcalls ▸ hreturned) (hpending.trans hnothing) (hunanswered.trans hnone)
  | waiting earlier call hlast hprogress hnothing hnumber =>
      exact .waiting earlier call (hsame hlast) hprogress (hpending.trans hnothing)
        (hnumber.imp hunanswered.trans hunanswered.trans)
  | answered earlier call frame hlast hprogress hframe hfits hbytes hnone =>
      exact .answered earlier call frame (hsame hlast) hprogress (hframes ▸ hframe) hfits
        (hpending.trans hbytes) (hunanswered.trans hnone)
  | inBody earlier call frame hlast hprogress hframe hfits hbytes hnone =>
      exact .inBody earlier call frame (hsame hlast) hprogress (hframes ▸ hframe) hfits
        (hpending.trans hbytes) (hunanswered.trans hnone)
  | raised hover hraised => exact .raised (hcalls ▸ hover) (hcalls ▸ hraised)

theorem stage_step {action : SessionAction} (hstage : session.Stage)
    (hattributed : session.Attributed registry) (hdisciplined : session.Disciplined action)
    (h : session.step registry action = some next) : next.Attributed registry ∧ next.Stage := by
  cases stepped_of_step h with
  | call request unitId =>
      exact ⟨attributed_of_quiet hattributed (quiet_call request unitId),
        stage_call hstage request unitId hdisciplined⟩
  | receive hcall hreceive => exact stage_receive hstage hattributed hcall hreceive
  | timeout hcall htimeout => exact stage_timeout hstage hattributed hcall htimeout
  | answer hunanswered hcall hecho hfits =>
      exact ⟨attributed_of_quiet hattributed (quiet_of_transmitted hfits),
        stage_answer hstage hunanswered hfits⟩
  | ignore hunanswered => exact ⟨hattributed, stage_ignore hstage hunanswered⟩
  | intrude hfits => exact hdisciplined.elim
  | arrive count =>
      refine ⟨hattributed, hstage.congr rfl rfl ?_ rfl⟩
      rw [pending, pending, List.append_assoc, List.take_append_drop]

theorem client_of_step {action : SessionAction} (h : session.step registry action = some next) :
    next.client = session.client ∨ next.client = session.client.nextTransactionId.2 := by
  cases stepped_of_step h with
  | call request unitId =>
      obtain ⟨added, written, unanswered, hcall, -⟩ := session.call_eq request unitId
      exact .inr (congrArg client hcall)
  | receive hcall hreceive =>
      obtain ⟨-, stream, progress, rfl⟩ := setProgress_of_receive hreceive
      exact .inl rfl
  | timeout hcall htimeout =>
      obtain ⟨-, stream, progress, rfl⟩ := setProgress_of_timeout htimeout
      exact .inl rfl
  | answer hunanswered hcall hecho hfits => exact .inl rfl
  | ignore hunanswered => exact .inl rfl
  | intrude hfits => exact .inl rfl
  | arrive count => exact .inl rfl

variable {request : BuiltinRequest} {given : Option Int} {pdu : Bytes} {response : ResponsePDU}

def exchange (number : Nat) (request : BuiltinRequest) (given : Option Int) (pdu : Bytes) :
    List SessionAction :=
  [.call (.builtin request) given, .answer pdu, .arrive (7 + pdu.length), .receive number,
    .receive number]

theorem step_of_receive (hcall : session.calls[index]? = some call)
    (h : session.receive registry index call = some next) :
    session.step registry (.receive index) = some next := by
  rw [step, hcall, Option.bind_some, h]

variable {frame : ModbusTCPFrame}

/-- A call that has read the header of its answer returns it when the rest has arrived. -/
theorem run_receive_body (hpending : session.pending = frame.pdu)
    (hconnected : session.stream.connected = true) (hopen : session.stream.atEof = false)
    (hcall : session.calls[index]? = some call)
    (hprogress : call.progress = .awaitingBody frame.header) (htransit : session.inTransit = [])
    (hfits : frame.header.Fits) (hpdu : frame.pdu ≠ [])
    (hdecode : ModbusTCPCodec.decodeResponse registry frame.wire call.request call.transactionId
      call.unitId = .ok response) :
    ∃ final, Transition.run (step registry) Disciplined session [.receive index] = some final ∧
      final.calls[index]? = some { call with progress := .returned response } := by
  have hsize : frame.pdu.length ≤ session.stream.incoming.length := by
    rw [← hpending, pending, htransit, List.append_nil]
  obtain ⟨-, hreceive⟩ := receive_body index hconnected hopen hprogress hfits hpending
    hpdu hdecode hsize
  have hfinal := getElem?_setProgress_self hcall { session.stream with incoming := [] }
    (.returned response)
  refine ⟨_, ?_, hfinal⟩
  rw [Transition.run_cons trivial (step_of_receive hcall hreceive)]
  rfl

/-- A call whose answer is on its way, alone, returns it. -/
theorem run_receives (hconnected : session.stream.connected = true)
    (hopen : session.stream.atEof = false) (hcall : session.calls[index]? = some call)
    (hprogress : call.progress = .awaitingHeader) (hpending : session.pending = frame.wire)
    (htransit : session.inTransit = frame.wire) (hfits : frame.header.Fits) (hpdu : frame.pdu ≠ [])
    (hdecode : ModbusTCPCodec.decodeResponse registry frame.wire call.request call.transactionId
      call.unitId = .ok response) :
    ∃ final, Transition.run (step registry) Disciplined session
        [.arrive (7 + frame.pdu.length), .receive index, .receive index] = some final ∧
      final.calls[index]? = some { call with progress := .returned response } := by
  have hlength : session.inTransit.length = 7 + frame.pdu.length := by
    rw [htransit, ModbusTCPFrame.wire, List.length_append, MBAPHeader.length_wire]
  have hbytes : session.arrived.pending = frame.wire := session.pending_arrived.trans hpending
  have harrived : session.arrived.stream.connected = true := hconnected
  have hseven : 7 ≤ session.arrived.stream.incoming.length := by
    have hincoming : session.arrived.stream.incoming = frame.wire := hpending
    rw [hincoming, ← htransit, hlength]
    exact Nat.le_add_right _ _
  obtain ⟨incoming, hrest, hreceive⟩ := receive_header registry index harrived hopen hprogress
    hfits hbytes hseven
  have hthere : session.arrived.calls[index]? = some call := hcall
  have hheaded := getElem?_setProgress_self hthere { session.arrived.stream with incoming }
    (.awaitingBody frame.header)
  have hbody : (setProgress { session.arrived with
      stream := { session.arrived.stream with incoming } } index
        (.awaitingBody frame.header)).pending = frame.pdu := hrest
  obtain ⟨final, hrun, hfinal⟩ := run_receive_body hbody hconnected hopen hheaded rfl rfl hfits hpdu
    hdecode
  refine ⟨final, ?_, hfinal⟩
  rw [← hlength, Transition.run_cons trivial session.step_arrive_all,
    Transition.run_cons trivial (step_of_receive hthere hreceive), hrun]

/-- With nothing on its way, a call that is answered returns its answer. -/
theorem run_exchange (session : Session) (hconnected : session.stream.connected = true)
    (hopen : session.stream.atEof = false) (hreturned : ∀ call ∈ session.calls, call.Returned)
    (hpending : session.pending = []) (hunanswered : session.unanswered = [])
    (hid : IsRegisterValue session.client.transactionId)
    (hunit : IsByte (given.getD session.client.unitId)) (hlength : pdu.length ≤ 65534)
    (hdecode : decodeResponsePdu registry pdu (.builtin request) = .ok response) :
    ∃ final call, Transition.run (step registry) Disciplined session
        (exchange session.calls.length request given pdu) = some final ∧
      final.calls[session.calls.length]? = some call ∧ call.request = .builtin request ∧
      call.progress = .returned response := by
  rcases call_builtin hconnected request given with
    ⟨frame, htransaction, hunitId, -, hcall⟩ | ⟨error, hencode, -⟩
  · have hne : pdu ≠ [] := by
      rintro rfl
      cases hdecode
    have hfits := frame.fits_reply hlength
    obtain ⟨hincoming, htransit⟩ := List.append_eq_nil_iff.mp hpending
    have hframe : ModbusTCPFrame.decode (frame.reply pdu).wire = .ok (frame.reply pdu) :=
      ModbusTCPFrame.decode_eq_ok_iff.mpr ⟨hfits, rfl, rfl⟩
    have hresponse : ModbusTCPCodec.decodeResponse registry (frame.reply pdu).wire
        (.builtin request) frame.transactionId frame.unitId = .ok response :=
      ModbusTCPCodec.decodeResponse_eq_ok_iff.mpr ⟨_, hframe, rfl, rfl, hdecode⟩
    obtain ⟨asked, hasked⟩ : ∃ asked : Session, asked = session.call (.builtin request) given :=
      ⟨_, rfl⟩
    rw [← hasked] at hcall
    have hnumber : asked.calls[session.calls.length]? =
        some ⟨.builtin request, frame.transactionId, frame.unitId, .awaitingHeader⟩ := by
      rw [hcall]
      exact List.getElem?_concat_length
    have hqueue : asked.unanswered = [session.calls.length] := by
      rw [hcall, hunanswered]
      rfl
    obtain ⟨answered, hanswered⟩ : ∃ answered : Session, answered =
        { asked with unanswered := []
                     inTransit := asked.inTransit ++ (frame.reply pdu).wire
                     frames := asked.frames ++ [(some session.calls.length, frame.reply pdu)] } :=
      ⟨_, rfl⟩
    have hanswer : asked.step registry (.answer pdu) = some answered := by
      rw [Network.step_answer hqueue hnumber rfl rfl, transmit, ModbusTCPFrame.encode_eq hfits,
        hanswered]
    have hsame : answered.stream.connected = true ∧ answered.stream.atEof = false ∧
        answered.calls = asked.calls ∧ answered.stream.incoming = [] ∧
        answered.inTransit = (frame.reply pdu).wire := by
      rw [hanswered, hcall]
      dsimp only
      rw [htransit, hincoming]
      exact ⟨hconnected, hopen, rfl, rfl, rfl⟩
    obtain ⟨hstillConnected, hstillOpen, hcalls, hnothing, hwire⟩ := hsame
    have hbytes : answered.pending = (frame.reply pdu).wire := by
      rw [pending, hnothing, hwire, List.nil_append]
    obtain ⟨final, hrun, hfinal⟩ := run_receives hstillConnected hstillOpen
      (hcalls ▸ hnumber) rfl hbytes hwire hfits hne hresponse
    refine ⟨final, _, ?_, hfinal, rfl, rfl⟩
    rw [exchange, Transition.run_cons hreturned (congrArg some hasked.symm),
      Transition.run_cons trivial hanswer]
    exact hrun
  · have hfits := ModbusTCPFrame.fits_header hid hunit request.length_wire_le
    cases hencode.symm.trans (ModbusTCPFrame.encode_eq hfits)

end Session

namespace ReconnectingClient

variable {state next : ReconnectingClient}

/-- The connection is given up and opened only between calls. -/
def Disciplined (state : ReconnectingClient) : ConnectionAction → Prop
  | .session action => state.session.Disciplined action
  | .lost => True
  | _ => ∀ call ∈ state.session.calls, call.Over

instance (state : ReconnectingClient) : DecidablePred state.Disciplined
  | .session action => inferInstanceAs (Decidable (state.session.Disciplined action))
  | .lost => .isTrue trivial
  | .connect => inferInstanceAs (Decidable (∀ call ∈ state.session.calls, call.Over))
  | .connectFails => inferInstanceAs (Decidable (∀ call ∈ state.session.calls, call.Over))
  | .close => inferInstanceAs (Decidable (∀ call ∈ state.session.calls, call.Over))

structure Invariant (registry : CustomFunctionCodeRegistry) (state : ReconnectingClient) :
    Prop where
  stage : state.session.Stage
  attributed : state.session.Attributed registry
  earlier : ∀ session ∈ state.earlier, session.Attributed registry
  transactionId : 1 ≤ state.session.client.transactionId ∧
    state.session.client.transactionId ≤ 0xFFFF

theorem stage_unused (client : ModbusTcpClient) (connected : Bool) :
    (unused client connected).Stage :=
  .idle (fun _ hmem => absurd hmem List.not_mem_nil) rfl rfl

theorem attributed_unused (client : ModbusTcpClient) (connected : Bool) :
    (unused client connected).Attributed registry := by
  intro index call response hcall
  cases hcall

theorem invariant_fresh (unitId : Int) : (fresh unitId).Invariant registry :=
  ⟨stage_unused _ false, attributed_unused _ false, fun _ hmem => absurd hmem List.not_mem_nil,
    Int.le_refl 1, (by decide : (1 : Int) ≤ 0xFFFF)⟩

theorem Invariant.reopen (h : state.Invariant registry) (connected : Bool) :
    (state.reopen connected).Invariant registry :=
  ⟨stage_unused _ connected, attributed_unused _ connected,
    List.forall_mem_append.mpr ⟨h.earlier, List.forall_mem_singleton.mpr h.attributed⟩,
      h.transactionId⟩

theorem invariant_step {action : ConnectionAction} (h : state.Invariant registry)
    (hdisciplined : state.Disciplined action) (hstep : state.step registry action = some next) :
    next.Invariant registry := by
  cases action with
  | session action =>
      obtain ⟨after, hafter, rfl⟩ := Option.map_eq_some_iff.mp hstep
      obtain ⟨hattributed, hstage⟩ :=
        Session.stage_step h.stage h.attributed hdisciplined hafter
      refine ⟨hstage, hattributed, h.earlier, ?_⟩
      dsimp only
      rcases Session.client_of_step hafter with hclient | hclient
      · rw [hclient]
        exact h.transactionId
      · rw [hclient]
        exact ModbusTcpClient.nextTransactionId_range h.transactionId
  | connect =>
      cases hstep
      exact h.reopen true
  | connectFails =>
      cases hstep
      exact h.reopen false
  | close =>
      cases hstep
      split
      · exact h.reopen false
      · exact h
  | lost =>
      cases hstep
      exact ⟨h.stage.congr rfl rfl rfl rfl, h.attributed, h.earlier, h.transactionId⟩

theorem invariant_of_reaches {unitId : Int}
    (h : Transition.Reaches (step registry) Disciplined (fresh unitId) state) :
    state.Invariant registry :=
  h.invariant (invariant_fresh unitId) fun _ _ _ hinvariant hguard hstep =>
    invariant_step hinvariant hguard hstep

theorem run_map_session (actions : List SessionAction) {session final : Session}
    {earlier : List Session}
    (h : Transition.run (Session.step registry) Session.Disciplined session actions = some final) :
    Transition.run (step registry) Disciplined ⟨session, earlier⟩ (actions.map .session) =
      some ⟨final, earlier⟩ := by
  induction actions generalizing session with
  | nil =>
      cases h
      rfl
  | cons action actions ih =>
      rw [Transition.run] at h
      split at h
      · rename_i hguard
        obtain ⟨next, hstep, hrest⟩ := Option.bind_eq_some_iff.mp h
        have hnext : step registry ⟨session, earlier⟩ (.session action) = some ⟨next, earlier⟩ := by
          rw [step, hstep]
          rfl
        have hmeets : Disciplined ⟨session, earlier⟩ (.session action) := hguard
        rw [List.map_cons, Transition.run_cons hmeets hnext]
        exact ih hrest
      · cases h

/-- **Connecting again restores the client** in every run in which a call that raised is followed by
a new connection: every response returned, on this connection and on the earlier ones, was decoded
from the answer to its own request, nothing is on its way when all calls have returned, and the
first call on the next connection returns its answer. -/
theorem restored_by_connecting (registry : CustomFunctionCodeRegistry) (unitId : Int)
    (state : ReconnectingClient)
    (h : Transition.Reaches (step registry) Disciplined (fresh unitId) state) :
    (∀ session ∈ state.earlier ++ [state.session], session.Attributed registry) ∧
      ((∀ call ∈ state.session.calls, call.Returned) →
        state.session.pending = [] ∧ state.session.unanswered = []) ∧
      ((∀ call ∈ state.session.calls, call.Over) →
        ∀ (request : BuiltinRequest) (given : Option Int) (pdu : Bytes) (response : ResponsePDU),
          IsByte (given.getD state.session.client.unitId) → pdu.length ≤ 65534 →
          decodeResponsePdu registry pdu (.builtin request) = .ok response →
          ∃ final call, Transition.run (step registry) Disciplined state
              (.connect :: (Session.exchange 0 request given pdu).map .session) = some final ∧
            final.session.calls[0]? = some call ∧ call.request = .builtin request ∧
            call.progress = .returned response) := by
  have hinvariant := invariant_of_reaches h
  refine ⟨List.forall_mem_append.mpr ⟨hinvariant.earlier,
    List.forall_mem_singleton.mpr hinvariant.attributed⟩, hinvariant.stage.idle_of_returned, ?_⟩
  intro hover request given pdu response hunit hlength hdecode
  have hid : IsRegisterValue state.session.client.transactionId :=
    ⟨Int.le_trans (by decide) hinvariant.transactionId.1, hinvariant.transactionId.2⟩
  obtain ⟨final, call, hrun, hcall, hrequest, hprogress⟩ :=
    (unused state.session.client true).run_exchange rfl rfl
      (fun _ hmem => absurd hmem List.not_mem_nil) rfl rfl hid hunit hlength hdecode
  refine ⟨⟨final, state.earlier ++ [state.session]⟩, call, ?_, hcall, hrequest, hprogress⟩
  rw [Transition.run_cons hover rfl]
  exact run_map_session _ hrun

/-- The server answers the first read after its receive timed out behind the header, and the second
call comes on a new connection. -/
theorem restored_by_connecting_timeout_in_body :
    ∃ state : ReconnectingClient,
      (state.earlier ++ [state.session]).map (fun session => session.calls.map Call.progress) =
        [[], [.raised .modbusTimeoutError], [.returned (.readRegisters ⟨0x03, [5, 6, 7, 8]⟩)]] ∧
      (∀ session ∈ state.earlier ++ [state.session], session.Attributed .empty) ∧
      state.session.pending = [] := by
  have hrun : ∃ state ∈ Transition.run (step .empty) Disciplined (fresh 1)
      [.connect, .session (.call Session.readFourRegisters none),
        .session (.answer [0x03, 8, 0, 1, 0, 2, 0, 3, 0, 4]), .session (.arrive 7),
        .session (.receive 0), .session (.timeout 0), .session (.arrive 10), .lost, .connect,
        .session (.call Session.readFourRegisters none),
        .session (.answer [0x03, 8, 0, 5, 0, 6, 0, 7, 0, 8]), .session (.arrive 17),
        .session (.receive 0), .session (.receive 0)],
      (state.earlier ++ [state.session]).map (fun session => session.calls.map Call.progress) =
        [[], [.raised .modbusTimeoutError], [.returned (.readRegisters ⟨0x03, [5, 6, 7, 8]⟩)]] ∧
      ∀ call ∈ state.session.calls, call.Returned := by decide +kernel
  obtain ⟨state, hstate, hcalls, hreturned⟩ := hrun
  obtain ⟨hattributed, hidle, -⟩ :=
    restored_by_connecting .empty 1 state (Transition.reaches_of_run .refl hstate)
  exact ⟨state, hcalls, hattributed, (hidle hreturned).1⟩

end ReconnectingClient

end ClearModbus
