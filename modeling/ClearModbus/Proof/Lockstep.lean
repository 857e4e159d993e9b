import ClearModbus.Proof.Links

/-!
# A client in lockstep with its handler

While no receive times out, a client has at most one call open, and either its request or its answer
is under way, and nothing else. A call that has sent its request therefore goes on to return its
answer.
-/

namespace ClearModbus

namespace Session

variable {registry : CustomFunctionCodeRegistry} {session next : Session} {number : Nat}
  {call : Call} {frame : ModbusTCPFrame}

inductive Aligned (session : Session) : Prop where
  | idle (hover : ∀ call ∈ session.calls, call.Over) (hunanswered : session.unanswered = [])
      (hpending : session.pending = [])
  | asked {number : Nat} {call : Call} (hcall : session.calls[number]? = some call)
      (hprogress : call.progress = .awaitingHeader) (hunanswered : session.unanswered = [number])
      (hpending : session.pending = [])
  | answered {number : Nat} {call : Call} {frame : ModbusTCPFrame}
      (hcall : session.calls[number]? = some call) (hprogress : call.progress = .awaitingHeader)
      (hunanswered : session.unanswered = []) (hframe : [(some number, frame)] <:+ session.frames)
      (hpending : session.pending = frame.wire)
  | headed {number : Nat} {call : Call} {frame : ModbusTCPFrame}
      (hcall : session.calls[number]? = some call)
      (hprogress : call.progress = .awaitingBody frame.header)
      (hunanswered : session.unanswered = []) (hframe : [(some number, frame)] <:+ session.frames)
      (hpending : session.pending = frame.pdu)

/-- Nothing but a unit id that is no byte has made a call raise. -/
structure Lockstep (session : Session) : Prop where
  aligned : session.Aligned
  raised : ∀ call ∈ session.calls, ∀ error, call.progress = .raised error → ¬IsByte call.unitId

def Fulfils (registry : CustomFunctionCodeRegistry) (session : Session) (number : Nat)
    (frame : ModbusTCPFrame) : Prop :=
  ∀ call, session.calls[number]? = some call → frame.pdu ≠ [] ∧ ∃ response,
    ModbusTCPCodec.decodeResponse registry frame.wire call.request call.transactionId call.unitId =
      .ok response

theorem lockstep_fresh (unitId : Int) : (fresh unitId).Lockstep :=
  ⟨.idle (fun _ hmem => absurd hmem List.not_mem_nil) rfl rfl,
    fun _ hmem => absurd hmem List.not_mem_nil⟩

theorem Lockstep.idle_of_over (h : session.Lockstep) (hover : ∀ call ∈ session.calls, call.Over) :
    session.unanswered = [] ∧ session.pending = [] := by
  cases h.aligned with
  | idle _ hunanswered hpending => exact ⟨hunanswered, hpending⟩
  | asked hcall hprogress hunanswered hpending =>
      exact absurd (hover _ (List.mem_of_getElem? hcall))
        (Call.not_over_of_awaitingHeader hprogress)
  | answered hcall hprogress hunanswered hframe hpending =>
      exact absurd (hover _ (List.mem_of_getElem? hcall))
        (Call.not_over_of_awaitingHeader hprogress)
  | headed hcall hprogress hunanswered hframe hpending =>
      exact absurd (hover _ (List.mem_of_getElem? hcall)) (Call.not_over_of_awaitingBody hprogress)

theorem lockstep_call (h : session.Lockstep) (hfacts : session.InTimeFacts registry)
    (request : BuiltinRequest) (unitId : Option Int)
    (hsequential : session.Sequential (.call (.builtin request) unitId)) :
    (session.call (.builtin request) unitId).Lockstep := by
  obtain ⟨hunanswered, hpending⟩ := h.idle_of_over hsequential
  rcases call_builtin hfacts.framed.connected request unitId with
    ⟨frame, hid, hunit, hpdu, hcall⟩ | ⟨error, hencode, hcall⟩
  · rw [hcall]
    refine ⟨.asked List.getElem?_concat_length rfl ?_ hpending, ?_⟩
    · dsimp only
      rw [hunanswered, List.nil_append]
    · intro call hmem error hprogress
      rcases List.mem_append.mp hmem with hmem | hmem
      · exact h.raised call hmem error hprogress
      · rw [List.mem_singleton.mp hmem] at hprogress
        cases hprogress
  · rw [hcall]
    refine ⟨.idle ?_ hunanswered hpending, ?_⟩
    · intro call hmem
      rcases List.mem_append.mp hmem with hmem | hmem
      · exact hsequential call hmem
      · rw [List.mem_singleton.mp hmem]
        exact trivial
    · intro call hmem error hprogress
      rcases List.mem_append.mp hmem with hmem | hmem
      · exact h.raised call hmem error hprogress
      · rw [List.mem_singleton.mp hmem]
        intro hunit
        have hid : IsRegisterValue session.client.transactionId := by
          obtain ⟨hlow, hhigh⟩ := nthTransactionId_range session.calls.length
          rw [hfacts.numbered.counter]
          exact ⟨by omega, hhigh⟩
        have hfits := ModbusTCPFrame.fits_header hid hunit request.length_wire_le
        cases hencode.symm.trans (ModbusTCPFrame.encode_eq hfits)

def arrived (session : Session) : Session :=
  { session with
    stream := { session.stream with incoming := session.stream.incoming ++ session.inTransit }
    inTransit := [] }

theorem step_arrive_all (session : Session) :
    session.step registry (.arrive session.inTransit.length) = some session.arrived := by
  rw [Session.step, List.take_length, List.drop_length]
  rfl

theorem pending_arrived (session : Session) : session.arrived.pending = session.pending :=
  List.append_nil _

/-- A header that has arrived is read. -/
theorem receive_header (registry : CustomFunctionCodeRegistry) (number : Nat)
    (hconnected : session.stream.connected = true) (hopen : session.stream.atEof = false)
    (hprogress : call.progress = .awaitingHeader)
    (hfits : frame.header.Fits) (hpending : session.pending = frame.wire)
    (hseven : 7 ≤ session.stream.incoming.length) :
    ∃ incoming, incoming ++ session.inTransit = frame.pdu ∧
      session.receive registry number call = some (setProgress
        { session with stream := { session.stream with incoming } } number
        (.awaitingBody frame.header)) := by
  obtain ⟨incoming, hincoming, hrest⟩ := exists_of_append_eq hpending
    (by rw [MBAPHeader.length_wire]; exact hseven)
  have hwaits : session.stream.waits 7 = false :=
    (TCPStream.waits_eq_false_iff hconnected hopen).mpr (by omega)
  refine ⟨incoming, hrest.symm, ?_⟩
  rw [receive, hprogress]
  dsimp only
  rw [hwaits, ModbusTcpClient.runOn_receiveHeader hconnected hfits hincoming]
  rfl

/-- The rest of a frame that its call accepts is read, and the call returns. -/
theorem receive_body (number : Nat) (hconnected : session.stream.connected = true)
    (hopen : session.stream.atEof = false) (hprogress : call.progress = .awaitingBody frame.header)
    (hfits : frame.header.Fits) (hpending : session.pending = frame.pdu) (hpdu : frame.pdu ≠ [])
    {response : ResponsePDU}
    (hdecode : ModbusTCPCodec.decodeResponse registry frame.wire call.request
      call.transactionId call.unitId = .ok response)
    (hlength : frame.pdu.length ≤ session.stream.incoming.length) :
    session.inTransit = [] ∧ session.receive registry number call = some (setProgress
      { session with stream := { session.stream with incoming := [] } } number
      (.returned response)) := by
  rw [← List.append_nil frame.pdu] at hpending
  obtain ⟨incoming, hincoming, hrest⟩ := exists_of_append_eq hpending hlength
  obtain ⟨rfl, htransit⟩ := List.append_eq_nil_iff.mp hrest.symm
  have hsize : frame.header.length - 1 = frame.pdu.length := by
    change (1 : Int) + frame.pdu.length - 1 = _
    omega
  have hwaits : session.stream.waits (frame.header.length - 1) = false :=
    (TCPStream.waits_eq_false_iff hconnected hopen).mpr (by omega)
  have hreceive : Exec.runOn (tcpTransport.receive frame.pdu.length) session.stream =
      (.ok frame.pdu, { session.stream with incoming := [] }) :=
    TCPTransport.runOn_receive_eq_ok_iff.mpr ⟨hconnected,
      Int.natCast_pos.mpr (List.length_pos_iff.mpr hpdu), rfl, [], hincoming, rfl⟩
  have hrun : Exec.runOn (ModbusTcpClient.receiveResponse registry tcpTransport call.request
      call.transactionId call.unitId frame.header) session.stream =
        (.ok response, { session.stream with incoming := [] }) := by
    rw [ModbusTcpClient.receiveResponse, hsize, Exec.runOn_bind_ok hreceive,
      MBAPHeader.encode_eq hfits, Exec.runOn_liftM_bind]
    dsimp only
    rw [← ModbusTCPFrame.wire, hdecode]
    rfl
  refine ⟨htransit, ?_⟩
  rw [receive, hprogress]
  dsimp only
  rw [hwaits, hrun]
  rfl

/-- A call whose progress is changed. -/
theorem forall_raised_setProgress (h : session.Lockstep) (stream : TCPStream) {progress : Progress}
    (hprogress : ∀ error, progress ≠ .raised error) :
    ∀ call ∈ (setProgress { session with stream } number progress).calls, ∀ error,
      call.progress = .raised error → ¬IsByte call.unitId := by
  intro call hmem error hraised
  obtain ⟨other, hother⟩ := List.mem_iff_getElem?.mp hmem
  rw [getElem?_setProgress] at hother
  split at hother
  · obtain ⟨before, -, rfl⟩ := Option.map_eq_some_iff.mp hother
    exact absurd hraised (hprogress error)
  · exact h.raised call (List.mem_of_getElem? hother) error hraised

/-- The open call is the one that the lockstep is about. -/
theorem eq_of_open (hlast : session.LastOpen) {other : Nat} {reader : Call}
    (hcall : session.calls[number]? = some call) (hopen : ¬ call.Over)
    (hreader : session.calls[other]? = some reader) (hopenReader : ¬ reader.Over) :
    other = number ∧ reader = call := by
  have hnumber := index_of_not_over hlast hcall hopen
  have hother := index_of_not_over hlast hreader hopenReader
  obtain rfl : other = number := by omega
  exact ⟨rfl, Option.some.inj (hreader.symm.trans hcall)⟩

theorem over_setProgress (hlast : session.LastOpen) (hcall : session.calls[number]? = some call)
    (hopen : ¬ call.Over) (stream : TCPStream) (response : ResponsePDU) :
    ∀ reader ∈ (setProgress { session with stream } number (.returned response)).calls,
      reader.Over := by
  intro reader hmem
  obtain ⟨other, hother⟩ := List.mem_iff_getElem?.mp hmem
  rw [getElem?_setProgress] at hother
  split at hother
  · obtain ⟨before, -, rfl⟩ := Option.map_eq_some_iff.mp hother
    exact trivial
  · rename_i hne
    by_contra hover
    exact hne (eq_of_open hlast hcall hopen hother hover).1.symm

theorem lockstep_receive (h : session.Lockstep) (hfacts : session.InTimeFacts registry)
    (hfulfils : ∀ number frame, (some number, frame) ∈ session.frames →
      session.Fulfils registry number frame)
    {index : Nat} (hstep : session.step registry (.receive index) = some next) : next.Lockstep := by
  obtain ⟨reader, hreader, hreceive⟩ := Option.bind_eq_some_iff.mp hstep
  have hopenReader := (setProgress_of_receive hreceive).1
  cases h.aligned with
  | idle hover hunanswered hpending =>
      exact absurd (hover reader (List.mem_of_getElem? hreader)) hopenReader
  | asked hcall hprogress hunanswered hpending =>
      obtain ⟨rfl, rfl⟩ := eq_of_open hfacts.lastOpen hcall
        (Call.not_over_of_awaitingHeader hprogress) hreader hopenReader
      rcases receive_eq hreceive with ⟨-, hwaits, -⟩ | ⟨header, hbody, -, -⟩
      · have hsize := (TCPStream.waits_eq_false_iff hfacts.framed.connected
          hfacts.framed.notAtEof).mp hwaits
        rw [(List.append_eq_nil_iff.mp hpending).1] at hsize
        exact absurd hsize (by decide)
      · cases hprogress.symm.trans hbody
  | @answered number call frame hcall hprogress hunanswered hframe hpending =>
      obtain ⟨rfl, rfl⟩ := eq_of_open hfacts.lastOpen hcall
        (Call.not_over_of_awaitingHeader hprogress) hreader hopenReader
      have hfits := hfacts.framed.fits _ (hframe.subset List.mem_cons_self)
      rcases receive_eq hreceive with ⟨-, hwaits, -⟩ | ⟨header, hbody, -, -⟩
      · have hsize := (TCPStream.waits_eq_false_iff hfacts.framed.connected
          hfacts.framed.notAtEof).mp hwaits
        obtain ⟨incoming, hrest, hnext⟩ := receive_header registry _ hfacts.framed.connected
          hfacts.framed.notAtEof hprogress hfits hpending (by omega)
        cases hreceive.symm.trans hnext
        exact ⟨.headed (getElem?_setProgress_self hcall _ _) rfl hunanswered hframe hrest,
          forall_raised_setProgress h _ fun _ => Progress.noConfusion⟩
      · cases hprogress.symm.trans hbody
  | @headed number call frame hcall hprogress hunanswered hframe hpending =>
      have hopen := Call.not_over_of_awaitingBody hprogress
      obtain ⟨rfl, rfl⟩ := eq_of_open hfacts.lastOpen hcall hopen hreader hopenReader
      have hmem := hframe.subset List.mem_cons_self
      rcases receive_eq hreceive with ⟨hheader, -, -⟩ | ⟨header, hbody, hwaits, -⟩
      · cases hprogress.symm.trans hheader
      · cases hprogress.symm.trans hbody
        have hsize := (TCPStream.waits_eq_false_iff hfacts.framed.connected
          hfacts.framed.notAtEof).mp hwaits
        have hlength : frame.header.length - 1 = frame.pdu.length := by
          change (1 : Int) + frame.pdu.length - 1 = _
          omega
        obtain ⟨hpdu, response, hdecode⟩ := hfulfils _ frame hmem _ hcall
        obtain ⟨htransit, hnext⟩ := receive_body _ hfacts.framed.connected hfacts.framed.notAtEof
          hprogress (hfacts.framed.fits _ hmem) hpending hpdu hdecode (by omega)
        cases hreceive.symm.trans hnext
        exact ⟨.idle (over_setProgress hfacts.lastOpen hcall hopen _ response) hunanswered htransit,
          forall_raised_setProgress h _ fun _ => Progress.noConfusion⟩

theorem lockstep_arrive (h : session.Lockstep) {count : Nat}
    (hstep : session.step registry (.arrive count) = some next) : next.Lockstep := by
  cases hstep
  have hpending : ∀ bytes, session.pending = bytes →
      (session.stream.incoming ++ session.inTransit.take count) ++ session.inTransit.drop count =
        bytes := by
    rintro bytes rfl
    rw [List.append_assoc, List.take_append_drop, pending]
  refine ⟨?_, h.raised⟩
  cases h.aligned with
  | idle hover hunanswered hnothing => exact .idle hover hunanswered (hpending _ hnothing)
  | asked hcall hprogress hunanswered hnothing =>
      exact .asked hcall hprogress hunanswered (hpending _ hnothing)
  | answered hcall hprogress hunanswered hframe hbytes =>
      exact .answered hcall hprogress hunanswered hframe (hpending _ hbytes)
  | headed hcall hprogress hunanswered hframe hbytes =>
      exact .headed hcall hprogress hunanswered hframe (hpending _ hbytes)

theorem answer_eq {pdu : Bytes} (hunanswered : session.unanswered = [number])
    (h : session.step registry (.answer pdu) = some next) :
    ∃ frame, next = { session with
      unanswered := []
      inTransit := session.inTransit ++ frame.wire
      frames := session.frames ++ [(some number, frame)] } := by
  cases stepped_of_step h with
  | answer hhead hcall hecho hfits =>
      rw [hunanswered] at hhead
      cases hhead
      exact ⟨_, rfl⟩

theorem lockstep_answer (h : session.Lockstep) {pdu : Bytes}
    (hstep : session.step registry (.answer pdu) = some next) : next.Lockstep := by
  have hsome : session.unanswered ≠ [] := by
    cases stepped_of_step hstep with
    | answer hhead hcall hecho hfits =>
        rw [hhead]
        exact List.cons_ne_nil _ _
  cases h.aligned with
  | asked hcall hprogress hunanswered hpending =>
      obtain ⟨frame, rfl⟩ := answer_eq hunanswered hstep
      obtain ⟨hincoming, htransit⟩ := List.append_eq_nil_iff.mp hpending
      refine ⟨.answered hcall hprogress rfl (List.suffix_append _ _) ?_, h.raised⟩
      rw [pending, hincoming, htransit]
      rfl
  | idle hover hunanswered hpending => exact absurd hunanswered hsome
  | answered hcall hprogress hunanswered hframe hpending => exact absurd hunanswered hsome
  | headed hcall hprogress hunanswered hframe hpending => exact absurd hunanswered hsome

end Session

end ClearModbus
