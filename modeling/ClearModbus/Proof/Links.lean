import ClearModbus.Proof.Serving
import ClearModbus.Proof.StaleResponses

/-!
# A client of the network and its connection

What is known of a client at every moment: it has come to its state by a run of its own, its
requests are before its handler in the order of its calls, and every frame it was sent holds the
answer that its call was given where it took effect.
-/

namespace ClearModbus

open Linearizable

variable {registry serverRegistry : CustomFunctionCodeRegistry} {server : ModbusTcpServer}
  {device : Device}

namespace Session

variable {session next : Session} {index number : Nat} {call : Call}

def Keeps (session next : Session) : Prop :=
  ∀ (number : Nat) (call : Call), session.calls[number]? = some call →
    ∃ progress, next.calls[number]? = some { call with progress }

theorem keeps_of_calls_eq (h : next.calls = session.calls) : session.Keeps next := by
  intro number call hcall
  exact ⟨call.progress, by rw [h, hcall]⟩

theorem keeps_setProgress (stream : TCPStream) (index : Nat) (progress : Progress) :
    session.Keeps (Session.setProgress { session with stream } index progress) := by
  intro number call hcall
  rw [getElem?_setProgress]
  split
  · exact ⟨progress, by rw [hcall]; rfl⟩
  · exact ⟨call.progress, by rw [hcall]⟩

theorem Keeps.length_le (h : session.Keeps next) : session.calls.length ≤ next.calls.length := by
  by_contra hlt
  rw [Nat.not_le] at hlt
  obtain ⟨progress, hnext⟩ := h next.calls.length _ (List.getElem?_eq_getElem hlt)
  exact absurd (List.getElem?_eq_some_iff.mp hnext).1 (Nat.lt_irrefl _)

structure InTimeFacts (registry : CustomFunctionCodeRegistry) (session : Session) : Prop where
  numbered : session.Numbered
  lastOpen : session.LastOpen
  framed : session.Framed Owned
  attributed : session.Attributed registry

theorem inTimeFacts {unitId : Int}
    (h : Transition.Reaches (step registry) InTime (fresh unitId) session) :
    session.InTimeFacts registry := by
  have hstart : (fresh unitId).InTimeFacts registry := by
    refine ⟨numbered_fresh unitId, ?_, framed_fresh unitId, ?_⟩
    · exact fun _ _ hcall => nomatch hcall
    · exact fun _ _ _ hcall => nomatch hcall
  refine h.invariant (p := fun session => session.InTimeFacts registry) hstart ?_
  intro session action next hfacts hguard hstep
  have hreads := reads_of_inTime hfacts.numbered hfacts.lastOpen hguard
  exact ⟨numbered_step hfacts.numbered hguard.onlyAnswers hstep,
    lastOpen_step hfacts.lastOpen hguard.sequential hstep, framed_step hfacts.framed hreads hstep,
    attributed_step hfacts.framed hfacts.attributed hreads hstep⟩

/-- A request of the package is sent as a frame of its own, or its call raises. -/
theorem call_builtin (hconnected : session.stream.connected = true) (request : BuiltinRequest)
    (unitId : Option Int) :
    (∃ frame : RequestFrame, frame.transactionId = session.client.transactionId ∧
      frame.unitId = unitId.getD session.client.unitId ∧ frame.pdu = request.wire ∧
      session.call (.builtin request) unitId =
        { session with
          client := session.client.nextTransactionId.2
          stream := { session.stream with written := session.stream.written ++ frame.wire }
          calls := session.calls ++
            [⟨.builtin request, frame.transactionId, frame.unitId, .awaitingHeader⟩]
          unanswered := session.unanswered ++ [session.calls.length] }) ∨
    ∃ error, ModbusTCPFrame.encode ⟨session.client.transactionId,
        unitId.getD session.client.unitId, request.wire, modbusTcpProtocolId⟩ = .error error ∧
      session.call (.builtin request) unitId =
      { session with
        client := session.client.nextTransactionId.2
        calls := session.calls ++ [⟨.builtin request, session.client.transactionId,
          unitId.getD session.client.unitId, .raised error⟩] } := by
  obtain ⟨sent, hsent⟩ : ∃ sent : ModbusTCPFrame, sent =
      { transactionId := session.client.transactionId,
        unitId := unitId.getD session.client.unitId, pdu := request.wire } := ⟨_, rfl⟩
  have hencoded : ModbusTCPCodec.encodeRequest (.builtin request) session.client.transactionId
      (unitId.getD session.client.unitId) = sent.encode := by
    change (request.encode >>= fun pdu => ModbusTCPFrame.encode _) = _
    rw [request.encode_eq, Except.ok_bind, hsent]
  rw [Session.call]
  dsimp only [ModbusTcpClient.nextTransactionId]
  rw [ModbusTcpClient.sendRequest, Exec.runOn_liftM_bind, hencoded]
  cases hencode : sent.encode with
  | error error => exact .inr ⟨error, by rw [← hencode, hsent], rfl⟩
  | ok payload =>
      have hfits := ModbusTCPFrame.fits_of_encode hencode
      rw [ModbusTCPFrame.encode_eq hfits] at hencode
      cases hencode
      subst hsent
      refine .inl ⟨⟨_, hfits, rfl⟩, rfl, rfl, rfl, ?_⟩
      dsimp only [tcpTransport]
      rw [TCPTransport.runOn_send hconnected]

def IsOwn : SessionAction → Prop
  | .receive _ => True
  | .timeout _ => True
  | .arrive _ => True
  | _ => False

theorem own_step {action : SessionAction} (hown : IsOwn action)
    (h : session.step registry action = some next) :
    session.Keeps next ∧ next.unanswered = session.unanswered ∧ next.frames = session.frames := by
  cases stepped_of_step h with
  | receive hcall h =>
      obtain ⟨-, stream, progress, rfl⟩ := setProgress_of_receive h
      exact ⟨keeps_setProgress stream _ progress, rfl, rfl⟩
  | timeout hcall h =>
      obtain ⟨-, stream, progress, rfl⟩ := setProgress_of_timeout h
      exact ⟨keeps_setProgress stream _ progress, rfl, rfl⟩
  | arrive count => exact ⟨keeps_of_calls_eq rfl, rfl, rfl⟩
  | call request unitId => exact hown.elim
  | answer hunanswered hcall hecho hfits => exact hown.elim
  | ignore hunanswered => exact hown.elim
  | intrude hfits => exact hown.elim

end Session

namespace Network

variable {session next : Session} {index number : Nat} {link : Link}
  {history added : List NetworkEvent} {order later : List (CallKey × Input)}

/-- The request of a call is before its handler, and has not taken effect. -/
structure Awaits (history : List NetworkEvent) (order : List (CallKey × Input)) (index : Nat)
    (session : Session) (number : Nat) (frame : RequestFrame) : Prop where
  request : ∃ call request, session.calls[number]? = some call ∧ call.request = .builtin request ∧
    call.transactionId = frame.transactionId ∧ call.unitId = frame.unitId ∧
    frame.pdu = request.wire ∧ .invoke (.call index number) (.request request) ∈ history
  untaken : .call index number ∉ order.map Prod.fst

/-- A frame holds the answer that its call was given where it took effect. -/
def Holds (server : ModbusTcpServer) (device : Device) (order : List (CallKey × Input))
    (index : Nat) (session : Session) (number : Nat) (frame : ModbusTCPFrame) : Prop :=
  ∃ call request response, session.calls[number]? = some call ∧ call.request = .builtin request ∧
    call.transactionId = frame.transactionId ∧ call.unitId = frame.unitId ∧
    frame.protocolId = modbusTcpProtocolId ∧ frame.pdu = response.wire ∧ Answers request response ∧
    Committed server.serve device order (.call index number) (.request request)
      (.response (.ok response))

structure ClientLink (registry : CustomFunctionCodeRegistry) (server : ModbusTcpServer)
    (device : Device) (history : List NetworkEvent) (order : List (CallKey × Input)) (index : Nat)
    (link : Link) (session : Session) : Prop where
  reaches : ∃ unitId, Transition.Reaches (Session.step registry) Session.InTime (.fresh unitId)
    session
  notClosing : link.closing = false
  requests : ∃ frames, List.Forall₂ (Awaits history order index session) session.unanswered frames ∧
    link.handler.Expects link.toServer frames
  once : session.unanswered.Nodup
  answers : ∀ number frame, (some number, frame) ∈ session.frames →
    Holds server device order index session number frame
  made : ∀ number input, .invoke (.call index number) input ∈ history →
    number < session.calls.length

def IsForeign (index : Nat) : CallKey → Prop
  | .call other _ => other ≠ index
  | .outside _ => True

theorem Awaits.mono {frame : RequestFrame} (h : Awaits history order index session number frame)
    (hkeeps : session.Keeps next) (huntaken : .call index number ∉ later.map Prod.fst) :
    Awaits (history ++ added) (order ++ later) index next number frame := by
  obtain ⟨call, request, hcall, hrequest, hid, hunit, hpdu, hinvoked⟩ := h.request
  obtain ⟨progress, hnext⟩ := hkeeps number call hcall
  refine ⟨⟨_, request, hnext, hrequest, hid, hunit, hpdu, List.mem_append_left _ hinvoked⟩, ?_⟩
  rw [List.map_append, List.mem_append]
  exact not_or.mpr ⟨h.untaken, huntaken⟩

theorem Awaits.keep {frame : RequestFrame} (h : Awaits history order index session number frame)
    (hkeeps : session.Keeps next) (added : List NetworkEvent) :
    Awaits (history ++ added) order index next number frame := by
  have hnext : Awaits (history ++ added) (order ++ []) index next number frame :=
    h.mono hkeeps List.not_mem_nil
  rwa [List.append_nil] at hnext

theorem Holds.mono {frame : ModbusTCPFrame}
    (h : Holds server device order index session number frame)
    (hkeeps : session.Keeps next) (later : List (CallKey × Input)) :
    Holds server device (order ++ later) index next number frame := by
  obtain ⟨call, request, response, hcall, hrequest, hid, hunit, hprotocol, hpdu, hanswers,
    hcommitted⟩ := h
  obtain ⟨progress, hnext⟩ := hkeeps number call hcall
  exact ⟨_, request, response, hnext, hrequest, hid, hunit, hprotocol, hpdu, hanswers,
    hcommitted.append later⟩

theorem Holds.keep {frame : ModbusTCPFrame}
    (h : Holds server device order index session number frame)
    (hkeeps : session.Keeps next) : Holds server device order index next number frame := by
  have hnext := h.mono hkeeps []
  rwa [List.append_nil] at hnext

theorem not_mem_of_foreign (h : ∀ entry ∈ later, IsForeign index entry.1) (number : Nat) :
    .call index number ∉ later.map Prod.fst := by
  intro hmem
  obtain ⟨entry, hentry, hkey⟩ := List.mem_map.mp hmem
  have hforeign := h entry hentry
  rw [hkey] at hforeign
  exact hforeign rfl

/-- What others do leaves a connection as it is. -/
theorem ClientLink.foreign (h : ClientLink registry server device history order index link session)
    (hadded : ∀ key input, .invoke key input ∈ added → IsForeign index key)
    (hlater : ∀ entry ∈ later, IsForeign index entry.1) :
    ClientLink registry server device (history ++ added) (order ++ later) index link session := by
  have hkeeps : session.Keeps session := Session.keeps_of_calls_eq rfl
  obtain ⟨frames, hframes, hexpects⟩ := h.requests
  refine ⟨h.reaches, h.notClosing, ⟨frames, ?_, hexpects⟩, h.once, ?_, ?_⟩
  · exact hframes.imp fun number frame hawaits =>
      hawaits.mono hkeeps (not_mem_of_foreign hlater number)
  · exact fun number frame hmem => (h.answers number frame hmem).mono hkeeps later
  · intro number input hmem
    rcases List.mem_append.mp hmem with hmem | hmem
    · exact h.made number input hmem
    · exact absurd rfl (hadded _ _ hmem)

theorem clientLink_connect (unitId : Int)
    (hnew : ∀ number input, .invoke (.call index number) input ∉ history) :
    ClientLink registry server device history order index ⟨some (.fresh unitId), [], false,
      .accepted⟩ (.fresh unitId) :=
  ⟨⟨unitId, .refl⟩, rfl, ⟨[], .nil, ClientHandler.expects_accepted⟩, List.nodup_nil,
    fun _ _ hmem => absurd hmem List.not_mem_nil,
    fun number input hmem => absurd hmem (hnew number input)⟩

/-- What the client does alone. -/
theorem ClientLink.own (h : ClientLink registry server device history order index link session)
    {action : SessionAction} (hown : Session.IsOwn action) (hguard : session.InTime action)
    (hstep : session.step registry action = some next)
    (hadded : ∀ key input, .invoke key input ∉ added) :
    ClientLink registry server device (history ++ added) order index
      { link with client := some next } next := by
  obtain ⟨unitId, hreach⟩ := h.reaches
  obtain ⟨hkeeps, hunanswered, hsent⟩ := Session.own_step hown hstep
  obtain ⟨frames, hframes, hexpects⟩ := h.requests
  refine ⟨⟨unitId, hreach.tail action hguard hstep⟩, h.notClosing, ⟨frames, ?_, hexpects⟩, ?_, ?_,
    ?_⟩
  · rw [hunanswered]
    exact hframes.imp fun number frame hawaits => hawaits.keep hkeeps added
  · rw [hunanswered]
    exact h.once
  · rw [hsent]
    exact fun number frame hmem => (h.answers number frame hmem).keep hkeeps
  · intro number input hmem
    rcases List.mem_append.mp hmem with hmem | hmem
    · exact (h.made number input hmem).trans_le hkeeps.length_le
    · exact absurd hmem (hadded _ _)

/-- The client starts a call. -/
theorem ClientLink.call (h : ClientLink registry server device history order index link session)
    (hinvoked : ∀ key ∈ order.map Prod.fst, ∃ input, .invoke key input ∈ history)
    (request : BuiltinRequest) (unitId : Option Int)
    (hguard : session.InTime (.call (.builtin request) unitId)) :
    ClientLink registry server device
      (history ++ [.invoke (.call index session.calls.length) (.request request)]) order index
      { link with
        client := some (session.call (.builtin request) unitId)
        toServer := link.toServer ++ (session.call (.builtin request) unitId).stream.written.drop
          session.stream.written.length }
      (session.call (.builtin request) unitId) := by
  obtain ⟨start, hreach⟩ := h.reaches
  have hfacts := Session.inTimeFacts hreach
  have hstep : session.step registry (.call (.builtin request) unitId) =
      some (session.call (.builtin request) unitId) := rfl
  have hnext := hreach.tail _ hguard hstep
  obtain ⟨frames, hframes, hexpects⟩ := h.requests
  have hmade : ∀ number input, Event.invoke (.call index number) input ∈ history ++
      [.invoke (.call index session.calls.length) (.request request)] →
        number < session.calls.length + 1 := by
    intro number input hmem
    rcases List.mem_append.mp hmem with hmem | hmem
    · exact Nat.lt_succ_of_lt (h.made number input hmem)
    · cases List.mem_singleton.mp hmem
      exact Nat.lt_succ_self _
  have hkeeps : ∀ added : Call, ∀ after : Session, after.calls = session.calls ++ [added] →
      session.Keeps after := by
    intro added after hcalls number call hcall
    refine ⟨call.progress, ?_⟩
    rw [hcalls, List.getElem?_append_left (List.getElem?_eq_some_iff.mp hcall).1, hcall]
  rcases Session.call_builtin hfacts.framed.connected request unitId with
    ⟨frame, hid, hunit, hpdu, hcall⟩ | ⟨error, -, hcall⟩
  · rw [hcall] at hnext ⊢
    refine ⟨⟨start, hnext⟩, h.notClosing, ⟨frames ++ [frame], ?_, ?_⟩, ?_, ?_, ?_⟩
    · refine List.rel_append (hframes.imp fun number other hawaits =>
        hawaits.keep (hkeeps _ _ rfl) _) (.cons ⟨?_, ?_⟩ .nil)
      · exact ⟨_, request, List.getElem?_concat_length, rfl, rfl, rfl, hpdu,
          List.mem_append_right _ (List.mem_singleton_self _)⟩
      · intro htaken
        obtain ⟨input, hmem⟩ := hinvoked _ htaken
        exact absurd (h.made _ input hmem) (Nat.lt_irrefl _)
    · dsimp only
      rw [List.drop_left]
      exact hexpects.send frame
    · refine List.nodup_append.mpr ⟨h.once, List.nodup_singleton _, ?_⟩
      intro number hnumber other hother heq
      have hlt := hfacts.numbered.unanswered number hnumber
      rw [heq, List.mem_singleton.mp hother] at hlt
      exact Nat.lt_irrefl _ hlt
    · exact fun number other hmem => (h.answers number other hmem).keep (hkeeps _ _ rfl)
    · intro number input hmem
      rw [List.length_append]
      exact hmade number input hmem
  · rw [hcall] at hnext ⊢
    refine ⟨⟨start, hnext⟩, h.notClosing, ⟨frames, ?_, ?_⟩, h.once, ?_, ?_⟩
    · exact hframes.imp fun number other hawaits => hawaits.keep (hkeeps _ _ rfl) _
    · dsimp only
      rw [List.drop_length, List.append_nil]
      exact hexpects
    · exact fun number other hmem => (h.answers number other hmem).keep (hkeeps _ _ rfl)
    · intro number input hmem
      rw [List.length_append]
      exact hmade number input hmem

/-- Every request before the handler is answered without raising. -/
theorem exists_reply_of_awaits {store : MemoryDataStore} {current : Device}
    (hrel : store.Represents current) (hrange : store.InRange) {frame : RequestFrame}
    (h : Awaits history order index session number frame) :
    ∃ pdu after, Exec.runOn (server.replyPdu serverRegistry frame.pdu) store = (.ok pdu, after) ∧
      pdu.length ≤ 65534 := by
  obtain ⟨call, request, -, -, -, -, hpdu, -⟩ := h.request
  obtain ⟨response, after, hserves⟩ := server.exists_serves hrel hrange request
  refine ⟨response.wire, after, ?_, hserves.answers.length_wire_le⟩
  rw [hpdu]
  exact hserves.reply (ModbusTcpServer.builtin?_wire serverRegistry request)

/-- The frame that answers the oldest request is sent as the session has it. -/
theorem step_answer {frame : RequestFrame} {call : Call} {unanswered : List Nat} {pdu : Bytes}
    (hunanswered : session.unanswered = number :: unanswered)
    (hcall : session.calls[number]? = some call) (hid : call.transactionId = frame.transactionId)
    (hunit : call.unitId = frame.unitId) :
    session.step registry (.answer pdu) =
      Session.transmit { session with unanswered } (some number) (frame.reply pdu) := by
  rw [Session.step, hunanswered]
  dsimp only
  rw [hcall, Option.bind_some, hid, hunit]
  rfl

structure Takes (registry : CustomFunctionCodeRegistry) (server : ModbusTcpServer) (device : Device)
    (history : List NetworkEvent) (order : List (CallKey × Input)) (index : Nat) (link : Link)
    (session : Session) (store : MemoryDataStore) (current : Device) (reply : ClientHandler.Reply)
    (handler : ClientHandler) (after : MemoryDataStore) (number : Nat) (request : BuiltinRequest)
    (response : ResponsePDU) (next : Session) : Prop where
  oldest : ∃ unanswered, session.unanswered = number :: unanswered
  pdu : reply.1 = request.wire
  serves : server.Serves store current request response after
  invoked : .invoke (.call index number) (.request request) ∈ history
  untaken : .call index number ∉ order.map Prod.fst
  transmits : Session.transmit { session with unanswered := session.unanswered.tail }
    session.unanswered.head? reply.2 = some next
  steps : session.step registry (.answer response.wire) = some next
  link : ClientLink registry server device history
    (order ++ [(.call index number, .request request)]) index
    { link with client := some next, handler } next

/-- The handler of a client goes on: it takes the oldest request and answers it, or takes
nothing. -/
theorem ClientLink.resume {store after : MemoryDataStore} {current : Device}
    {reply : Option ClientHandler.Reply} {handler : ClientHandler}
    (h : ClientLink registry server device history order index link session)
    (hrel : store.Represents current) (hrange : store.InRange)
    (hcurrent : current = (Machine.run server.serve device (order.map Prod.snd)).2)
    (hresume : link.handler.resume serverRegistry server store = some (reply, handler, after)) :
    (reply = none ∧ after = store ∧
      ClientLink registry server device history order index { link with handler } session) ∨
    ∃ written number request response next, reply = some written ∧
      Takes registry server device history order index link session store current written handler
        after number request response next := by
  obtain ⟨start, hreach⟩ := h.reaches
  obtain ⟨frames, hframes, hexpects⟩ := h.requests
  have hanswered : ∀ frame rest, frames = frame :: rest → ∃ pdu after,
      Exec.runOn (server.replyPdu serverRegistry frame.pdu) store = (.ok pdu, after) ∧
        pdu.length ≤ 65534 := by
    rintro frame rest rfl
    obtain ⟨number, -, hawaits, -⟩ := List.forall₂_cons_right_iff.mp hframes
    exact exists_reply_of_awaits hrel hrange hawaits
  rcases hexpects.resume hanswered hresume with
    ⟨rfl, rfl, hnext⟩ | ⟨frame, rest, pdu, rfl, rfl, hreply, hnext⟩
  · exact .inl ⟨rfl, rfl, h.reaches, h.notClosing, ⟨frames, hframes, hnext⟩, h.once, h.answers,
      h.made⟩
  · obtain ⟨number, unanswered, hawaits, hrest, hunanswered⟩ :=
      List.forall₂_cons_right_iff.mp hframes
    obtain ⟨call, request, hcall, hrequest, hid, hunit, hpdu, hinvoked⟩ := hawaits.request
    obtain ⟨response, final, hserves⟩ := server.exists_serves hrel hrange request
    have hbuiltin := ModbusTcpServer.builtin?_wire serverRegistry request
    rw [hpdu] at hreply
    cases (hserves.reply hbuiltin).symm.trans hreply
    have hencode := ModbusTCPFrame.encode_eq (frame.fits_reply hserves.answers.length_wire_le)
    have htransmit : ∃ next, Session.transmit { session with unanswered } (some number)
        (frame.reply response.wire) = some next := by
      rw [Session.transmit, hencode]
      exact ⟨_, rfl⟩
    obtain ⟨next, htransmit⟩ := htransmit
    obtain ⟨-, hnextEq⟩ := Session.transmit_eq htransmit
    have hstep : session.step registry (.answer response.wire) = some next :=
      (step_answer hunanswered hcall hid hunit).trans htransmit
    have hguard : session.InTime (.answer response.wire) := ⟨trivial, trivial, trivial, trivial⟩
    have hkeeps : session.Keeps next := Session.keeps_of_calls_eq (by rw [hnextEq])
    have honce := h.once
    rw [hunanswered, List.nodup_cons] at honce
    have hcommitted : Committed server.serve device
        (order ++ [(.call index number, .request request)]) (.call index number) (.request request)
        (.response (.ok response)) := by
      rw [← hserves.output]
      exact committed_append_singleton _ _ hcurrent
    refine .inr ⟨_, number, request, response, next, rfl, ⟨⟨unanswered, hunanswered⟩, hpdu, hserves,
      hinvoked, hawaits.untaken, ?_, hstep, ?_⟩⟩
    · rw [hunanswered]
      exact htransmit
    · refine ⟨⟨start, hreach.tail _ hguard hstep⟩, h.notClosing, ⟨rest, ?_, hnext⟩, ?_, ?_, ?_⟩
      · rw [hnextEq]
        have hothers : ∀ other ∈ unanswered, other ≠ number := fun other hother heq =>
          honce.1 (heq ▸ hother)
        refine ((List.forall₂_and_left unanswered rest).mpr ⟨hothers, hrest⟩).imp ?_
        intro other found hfound
        have huntaken : .call index other ∉
            [(CallKey.call index number, Input.request request)].map Prod.fst := by
          intro hmem
          cases List.mem_singleton.mp hmem
          exact hfound.1 rfl
        have hlater : Awaits (history ++ []) (order ++ [(.call index number, .request request)])
            index next other found := hfound.2.mono hkeeps huntaken
        rwa [List.append_nil, hnextEq] at hlater
      · rw [hnextEq]
        exact honce.2
      · intro other found hmem
        rw [hnextEq] at hmem
        rcases List.mem_append.mp hmem with hmem | hmem
        · exact (h.answers other found hmem).mono hkeeps _
        · cases List.mem_singleton.mp hmem
          refine ⟨call, request, response, ?_, hrequest, hid, hunit, rfl, rfl, hserves.answers,
            hcommitted⟩
          rw [hnextEq]
          exact hcall
      · intro other input hmem
        exact (h.made other input hmem).trans_le hkeeps.length_le

end Network

end ClearModbus
