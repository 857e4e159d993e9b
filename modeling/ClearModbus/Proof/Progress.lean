import ClearModbus.Proof.Linearizability
import ClearModbus.Proof.Lockstep

/-!
# No call fails, and no call hangs

In a run without timeouts every call that has sent its request returns its answer: it never raises,
whatever the other connections carry, and from every state of the run it gets to its end when its
own connection is given its turns.
-/

namespace ClearModbus

namespace Network

variable {registry serverRegistry : CustomFunctionCodeRegistry} {server : ModbusTcpServer}
  {device : Device} {network next : Network} {index : Nat} {link : Link} {session : Session}
  {action : NetworkAction}

inductive Moved (registry : CustomFunctionCodeRegistry) (network : Network) (action : NetworkAction)
    (index : Nat) (next : Session) : Prop where
  | kept {link : Link} (hfound : network.client? index = some (link, next))
  | connected {unitId : Int} (hnext : next = .fresh unitId)
  | called {link : Link} {session : Session} {request : BuiltinRequest} {unitId : Option Int}
      (hfound : network.client? index = some (link, session))
      (haction : action = .call index request unitId)
      (hnext : next = session.call (.builtin request) unitId)
  | received {link : Link} {session : Session} {number : Nat}
      (hfound : network.client? index = some (link, session))
      (hstep : session.step registry (.receive number) = some next)
  | timedOut {number : Nat} (haction : action = .timeout index number)
  | arrived {link : Link} {session : Session} {count : Nat}
      (hfound : network.client? index = some (link, session))
      (hstep : session.step registry (.arrive count) = some next)
  | answered {link : Link} {session : Session} {pdu : Bytes}
      (hfound : network.client? index = some (link, session))
      (hstep : session.step registry (.answer pdu) = some next)

theorem client?_of_set {changed : Link} {other : Nat}
    (hlinks : next.links = network.links.set index changed)
    (hfound : next.client? other = some (link, session)) :
    network.client? other = some (link, session) ∨
      other = index ∧ changed.client = some session := by
  obtain ⟨hlink, hclient⟩ := client?_eq_some_iff.mp hfound
  rw [hlinks] at hlink
  by_cases heq : index = other
  · subst heq
    have hlength := (List.getElem?_eq_some_iff.mp hlink).1
    rw [List.length_set] at hlength
    rw [List.getElem?_set_self hlength] at hlink
    cases hlink
    exact .inr ⟨rfl, hclient⟩
  · rw [List.getElem?_set_ne heq] at hlink
    exact .inl (client?_eq_some_iff.mpr ⟨hlink, hclient⟩)

theorem moved_of_set {before changed : Link} {other : Nat}
    (hbefore : network.links[index]? = some before)
    (hfound : next.client? other = some (link, session))
    (hlinks : next.links = network.links.set index changed)
    (hclient : changed.client = before.client) :
    Moved registry network action other session := by
  rcases client?_of_set hlinks hfound with hkept | ⟨rfl, hchanged⟩
  · exact .kept hkept
  · exact .kept (client?_eq_some_iff.mpr ⟨hbefore, hclient.symm.trans hchanged⟩)

theorem links_replyToStranger (before after : Network) (reply : ClientHandler.Reply) :
    (replyToStranger serverRegistry server before after reply).links = after.links := by
  rw [replyToStranger]
  split <;> rfl

theorem moved_of_newLink {added : Link} (hlinks : next.links = network.links ++ [added])
    (hadded : ∀ client, added.client = some client → ∃ unitId, client = .fresh unitId)
    (hfound : next.client? index = some (link, session)) :
    Moved registry network action index session := by
  obtain ⟨hlink, hclient⟩ := client?_eq_some_iff.mp hfound
  rw [hlinks] at hlink
  rcases Transition.getElem?_append_singleton hlink with hbefore | ⟨-, rfl⟩
  · exact .kept (client?_eq_some_iff.mpr ⟨hbefore, hclient⟩)
  · obtain ⟨unitId, hfresh⟩ := hadded session hclient
    exact .connected hfresh

theorem moved_of_resume (h : network.Invariant registry server device) {other : Nat} {before : Link}
    (hbefore : network.links[index]? = some before)
    (hstep : network.resume serverRegistry server index before = some next)
    (hfound : next.client? other = some (link, session)) :
    Moved registry network action other session := by
  obtain ⟨⟨reply, handler, after⟩, hresume, hstep⟩ := Option.bind_eq_some_iff.mp hstep
  obtain ⟨client, toServer, closing, handlerBefore⟩ := before
  dsimp only at hstep hresume
  cases reply with
  | none =>
      cases hstep
      exact moved_of_set hbefore hfound rfl rfl
  | some written =>
      cases client with
      | none =>
          cases hstep
          exact moved_of_set hbefore hfound (links_replyToStranger _ _ _) rfl
      | some caller =>
          have hcaller := client?_eq_some_iff.mpr ⟨hbefore, rfl⟩
          obtain ⟨current, hruns, hrel⟩ := h.state
          rcases (h.clients index _ caller hcaller).resume hrel h.inRange hruns.state_eq
            hresume with ⟨hnone, -, -⟩ | ⟨_, number, request, response, answered, hwritten, htakes⟩
          · cases hnone
          · cases hwritten
            obtain ⟨final, hfinal, rfl⟩ := Option.map_eq_some_iff.mp hstep
            cases htakes.transmits.symm.trans hfinal
            rcases client?_of_set (List.set_set _) hfound with hkept | ⟨rfl, hanswered⟩
            · exact .kept hkept
            · cases hanswered
              exact .answered hcaller htakes.steps

/-- An action moves every client by at most one step of its session. -/
theorem moved_of_step (h : network.Invariant registry server device)
    (hstep : network.step registry serverRegistry server action = some next)
    (hfound : next.client? index = some (link, session)) :
    Moved registry network action index session := by
  cases action with
  | connect unitId =>
      cases hstep
      exact moved_of_newLink rfl (fun _ hclient => ⟨unitId, (Option.some.inj hclient).symm⟩) hfound
  | connectStranger =>
      cases hstep
      refine moved_of_newLink rfl (fun client hclient => ?_) hfound
      cases hclient
  | call changed request unitId =>
      obtain ⟨⟨before, caller⟩, hcaller, rfl⟩ := Option.map_eq_some_iff.mp hstep
      rcases client?_of_set rfl hfound with hkept | ⟨rfl, hcalled⟩
      · exact .kept hkept
      · cases hcalled
        exact .called hcaller rfl rfl
  | receive changed number =>
      obtain ⟨⟨before, caller⟩, hcaller, hstep⟩ := Option.bind_eq_some_iff.mp hstep
      obtain ⟨after, hafter, rfl⟩ := Option.map_eq_some_iff.mp hstep
      rcases client?_of_set rfl hfound with hkept | ⟨rfl, hreceived⟩
      · exact .kept hkept
      · cases hreceived
        exact .received hcaller hafter
  | timeout changed number =>
      obtain ⟨⟨before, caller⟩, hcaller, hstep⟩ := Option.bind_eq_some_iff.mp hstep
      obtain ⟨after, hafter, rfl⟩ := Option.map_eq_some_iff.mp hstep
      rcases client?_of_set rfl hfound with hkept | ⟨rfl, -⟩
      · exact .kept hkept
      · exact .timedOut rfl
  | arrive changed count =>
      obtain ⟨⟨before, caller⟩, hcaller, hstep⟩ := Option.bind_eq_some_iff.mp hstep
      obtain ⟨after, hafter, rfl⟩ := Option.map_eq_some_iff.mp hstep
      rcases client?_of_set rfl hfound with hkept | ⟨rfl, harrived⟩
      · exact .kept hkept
      · cases harrived
        exact .arrived hcaller hafter
  | closed changed =>
      obtain ⟨⟨before, caller⟩, hcaller, hstep⟩ := Option.bind_eq_some_iff.mp hstep
      obtain ⟨frames, -, hexpects⟩ := (h.clients changed before caller hcaller).requests
      dsimp only at hstep
      split at hstep
      · rename_i loopExit hexited
        exact absurd hexited hexpects.not_exited
      · cases hstep
  | write changed data =>
      obtain ⟨before, hbefore, hstep⟩ := Option.bind_eq_some_iff.mp hstep
      split at hstep
      · cases hstep
      · cases hstep
        exact moved_of_set hbefore hfound rfl rfl
  | hangUp changed =>
      obtain ⟨before, hbefore, hstep⟩ := Option.bind_eq_some_iff.mp hstep
      split at hstep
      · cases hstep
      · cases hstep
        exact moved_of_set hbefore hfound rfl rfl
  | deliver changed count =>
      obtain ⟨before, hbefore, rfl⟩ := Option.map_eq_some_iff.mp hstep
      exact moved_of_set hbefore hfound rfl rfl
  | eof changed =>
      obtain ⟨before, hbefore, hstep⟩ := Option.bind_eq_some_iff.mp hstep
      split at hstep
      · cases hstep
        exact moved_of_set hbefore hfound rfl rfl
      · cases hstep
  | resume changed =>
      obtain ⟨before, hbefore, hstep⟩ := Option.bind_eq_some_iff.mp hstep
      exact moved_of_resume h hbefore hstep hfound
  | direct operation =>
      cases hstep
      exact .kept hfound

def IsPatient : NetworkAction → Prop
  | .timeout _ _ => False
  | _ => True

instance : DecidablePred IsPatient
  | .timeout _ _ => .isFalse id
  | .connect _ => .isTrue trivial
  | .connectStranger => .isTrue trivial
  | .call _ _ _ => .isTrue trivial
  | .receive _ _ => .isTrue trivial
  | .arrive _ _ => .isTrue trivial
  | .closed _ => .isTrue trivial
  | .write _ _ => .isTrue trivial
  | .hangUp _ => .isTrue trivial
  | .deliver _ _ => .isTrue trivial
  | .eof _ => .isTrue trivial
  | .resume _ => .isTrue trivial
  | .direct _ => .isTrue trivial

/-- The clients make one call after the other and wait for their answers. -/
def Patiently (network : Network) (action : NetworkAction) : Prop :=
  network.InTime action ∧ IsPatient action

instance (network : Network) (action : NetworkAction) : Decidable (network.Patiently action) :=
  inferInstanceAs (Decidable (_ ∧ _))

structure Steady (registry : CustomFunctionCodeRegistry) (server : ModbusTcpServer)
    (device : Device) (network : Network) : Prop where
  invariant : network.Invariant registry server device
  lockstep : ∀ index link session, network.client? index = some (link, session) → session.Lockstep

theorem ClientLink.fulfils {history : List NetworkEvent} {order : List (CallKey × Input)}
    (h : ClientLink registry server device history order index link session) {number : Nat}
    {frame : ModbusTCPFrame} (hmem : (some number, frame) ∈ session.frames) :
    session.Fulfils registry number frame := by
  intro call hcall
  obtain ⟨found, request, response, hfound, hrequest, hid, hunit, hprotocol, hpdu, hanswers, -⟩ :=
    h.answers number frame hmem
  cases hcall.symm.trans hfound
  obtain ⟨start, hreach⟩ := h.reaches
  have hfits := (Session.inTimeFacts hreach).framed.fits _ hmem
  refine ⟨by rw [hpdu]; exact hanswers.wire_ne_nil, response, ?_⟩
  refine ModbusTCPCodec.decodeResponse_eq_ok_iff.mpr ⟨frame,
    ModbusTCPFrame.decode_eq_ok_iff.mpr ⟨hfits, hprotocol, rfl⟩, hid.symm, hunit.symm, ?_⟩
  rw [hpdu, hrequest]
  exact hanswers.decode_wire registry

theorem steady_step (h : network.Steady registry server device) (hguard : network.Patiently action)
    (hstep : network.step registry serverRegistry server action = some next) :
    next.Steady registry server device := by
  refine ⟨invariant_step h.invariant hguard.1 hstep, ?_⟩
  intro index link session hfound
  have hfacts : ∀ link session, network.client? index = some (link, session) →
      session.InTimeFacts registry := by
    intro link session hfound
    obtain ⟨start, hreach⟩ := (h.invariant.clients index link session hfound).reaches
    exact Session.inTimeFacts hreach
  cases moved_of_step h.invariant hstep hfound with
  | kept hbefore => exact h.lockstep index _ session hbefore
  | connected hnext =>
      rw [hnext]
      exact Session.lockstep_fresh _
  | called hbefore haction hnext =>
      subst haction
      rw [hnext]
      exact Session.lockstep_call (h.lockstep index _ _ hbefore) (hfacts _ _ hbefore) _ _
        (hguard.1 _ rfl _ hbefore).sequential
  | received hbefore hreceive =>
      exact Session.lockstep_receive (h.lockstep index _ _ hbefore) (hfacts _ _ hbefore)
        (fun _ _ hmem => (h.invariant.clients index _ _ hbefore).fulfils hmem) hreceive
  | timedOut haction =>
      subst haction
      exact hguard.2.elim
  | arrived hbefore harrive => exact Session.lockstep_arrive (h.lockstep index _ _ hbefore) harrive
  | answered hbefore hanswer => exact Session.lockstep_answer (h.lockstep index _ _ hbefore) hanswer

def Serves (index : Nat) : NetworkAction → Prop
  | .deliver link _ => link = index
  | .resume link => link = index
  | .arrive link _ => link = index
  | .receive link _ => link = index
  | _ => False

/-- The call can return without a turn of anything but its own connection. -/
def Returns (registry serverRegistry : CustomFunctionCodeRegistry) (server : ModbusTcpServer)
    (network : Network) (index number : Nat) : Prop :=
  ∃ final, Transition.Reaches (step registry serverRegistry server)
    (fun _ action => Serves index action)
    network final ∧ ∃ link session call response, final.client? index = some (link, session) ∧
      session.calls[number]? = some call ∧ call.progress = .returned response

theorem Returns.step {number : Nat}
    (hstep : network.step registry serverRegistry server action = some next)
    (hserves : Serves index action)
    (h : Returns registry serverRegistry server next index number) :
    Returns registry serverRegistry server network index number := by
  obtain ⟨final, hreach, hreturned⟩ := h
  have hfirst : Transition.Reaches (Network.step registry serverRegistry server)
      (fun _ action => Serves index action) network next := .tail action .refl hserves hstep
  exact ⟨final, hfirst.trans hreach, hreturned⟩

theorem client?_setLink (hfound : network.client? index = some (link, session)) {changed : Link}
    {after : Session} (hclient : changed.client = some after) :
    (network.setLink index changed).client? index = some (changed, after) := by
  have hindex := (List.getElem?_eq_some_iff.mp (client?_eq_some_iff.mp hfound).1).1
  refine client?_eq_some_iff.mpr ⟨?_, hclient⟩
  rw [setLink, List.getElem?_set_self hindex]

theorem arrive_all (registry serverRegistry : CustomFunctionCodeRegistry) (server : ModbusTcpServer)
    (hfound : network.client? index = some (link, session)) :
    network.step registry serverRegistry server (.arrive index session.inTransit.length) =
      some (network.setLink index { link with client := some session.arrived }) := by
  rw [step, hfound, Option.bind_some]
  dsimp only
  rw [session.step_arrive_all]
  rfl

theorem receive_step (serverRegistry : CustomFunctionCodeRegistry) (server : ModbusTcpServer)
    (hfound : network.client? index = some (link, session)) {number : Nat} {call : Call}
    (hcall : session.calls[number]? = some call) {after : Session}
    (hreceive : session.receive registry number call = some after) :
    network.step registry serverRegistry server (.receive index number) =
      some { network.setLink index { link with client := some after } with
        history := network.history ++ returned index number after } := by
  rw [step, hfound, Option.bind_some]
  dsimp only
  rw [Session.step, hcall, Option.bind_some, hreceive]
  rfl

theorem patiently_arrive (network : Network) (index count : Nat) :
    network.Patiently (.arrive index count) := by
  refine ⟨fun entry hentry found _ => ?_, trivial⟩
  cases hentry
  exact ⟨trivial, trivial, trivial, trivial⟩

theorem patiently_of_server (network : Network) (hsession : onSession action = none)
    (hpatient : IsPatient action) : network.Patiently action := by
  refine ⟨fun entry hentry => ?_, hpatient⟩
  rw [hsession] at hentry
  cases hentry

variable {number : Nat} {call : Call} {frame : ModbusTCPFrame}

theorem inTimeFacts_of_steady (h : network.Steady registry server device)
    (hfound : network.client? index = some (link, session)) : session.InTimeFacts registry := by
  obtain ⟨start, hreach⟩ := (h.invariant.clients index link session hfound).reaches
  exact Session.inTimeFacts hreach

/-- A call that has read its header has only the rest of its frame to wait for. -/
theorem returns_of_headed (h : network.Steady registry server device)
    (hfound : network.client? index = some (link, session))
    (hcall : session.calls[number]? = some call)
    (hprogress : call.progress = .awaitingBody frame.header)
    (hframe : (some number, frame) ∈ session.frames) (hpending : session.pending = frame.pdu) :
    Returns registry serverRegistry server network index number := by
  have harrive := arrive_all registry serverRegistry server hfound
  have hsteady := steady_step h (patiently_arrive network index _) harrive
  have hthere : (network.setLink index { link with client := some session.arrived }).client? index =
      some ({ link with client := some session.arrived }, session.arrived) :=
    client?_setLink hfound rfl
  have hfacts := inTimeFacts_of_steady hsteady hthere
  have hlength : frame.pdu.length ≤ session.arrived.stream.incoming.length := by
    rw [← hpending]
    exact Nat.le_refl _
  obtain ⟨hpdu, response, hdecode⟩ :=
    (hsteady.invariant.clients index _ _ hthere).fulfils hframe _ hcall
  obtain ⟨-, hreceive⟩ := Session.receive_body number hfacts.framed.connected
    hfacts.framed.notAtEof hprogress (hfacts.framed.fits _ hframe)
      (session.pending_arrived.trans hpending) hpdu hdecode
    hlength
  refine .step harrive rfl (.step (receive_step serverRegistry server hthere hcall hreceive) rfl ?_)
  have hlookup := Session.getElem?_setProgress_self (hcall : session.arrived.calls[number]? = _)
    { session.arrived.stream with incoming := [] } (.returned response)
  exact ⟨_, .refl, _, _, _, response, client?_setLink hthere rfl, hlookup, rfl⟩

/-- A call whose answer is under way reads its header and then the rest. -/
theorem returns_of_answered (h : network.Steady registry server device)
    (hfound : network.client? index = some (link, session))
    (hcall : session.calls[number]? = some call) (hprogress : call.progress = .awaitingHeader)
    (hframe : [(some number, frame)] <:+ session.frames) (hpending : session.pending = frame.wire) :
    Returns registry serverRegistry server network index number := by
  have harrive := arrive_all registry serverRegistry server hfound
  have hsteady := steady_step h (patiently_arrive network index _) harrive
  have hthere : (network.setLink index { link with client := some session.arrived }).client? index =
      some ({ link with client := some session.arrived }, session.arrived) :=
    client?_setLink hfound rfl
  have hfacts := inTimeFacts_of_steady hsteady hthere
  have hmem := hframe.subset List.mem_cons_self
  have hpendingThere := session.pending_arrived.trans hpending
  have hseven : 7 ≤ session.arrived.stream.incoming.length := by
    have hlength : session.arrived.stream.incoming = frame.wire := hpending
    rw [hlength, ModbusTCPFrame.wire, List.length_append, MBAPHeader.length_wire]
    exact Nat.le_add_right _ _
  obtain ⟨incoming, hrest, hreceive⟩ := Session.receive_header registry number
    hfacts.framed.connected hfacts.framed.notAtEof hprogress (hfacts.framed.fits _ hmem)
      hpendingThere hseven
  have hstep := receive_step serverRegistry server hthere hcall hreceive
  have hunread : session.arrived.unread = [(some number, frame)] := by
    refine Session.unread_eq hframe (hpendingThere.trans ?_)
    rw [Session.wires_cons, Session.wires, List.flatMap_nil, List.append_nil]
  have hguard : Patiently (network.setLink index { link with client := some session.arrived })
      (.receive index number) := by
    refine ⟨fun entry hentry found hclient => ?_, trivial⟩
    cases hentry
    cases hthere.symm.trans hclient
    refine ⟨trivial, trivial, trivial, fun reader hreader _ entry hhead answered hanswered => ?_⟩
    rw [hunread] at hhead
    cases hhead
    cases hanswered
    omega
  have hnext := steady_step hsteady hguard hstep
  refine .step harrive rfl (.step hstep rfl ?_)
  have hlookup := Session.getElem?_setProgress_self (hcall : session.arrived.calls[number]? = _)
    { session.arrived.stream with incoming } (.awaitingBody frame.header)
  exact returns_of_headed hnext (client?_setLink hthere rfl) hlookup rfl hmem hrest

/-- A call whose whole request is before its handler is answered, and returns. -/
theorem returns_of_delivered {handler : ClientHandler} {closing : Bool}
    (h : network.Steady registry server device)
    (hfound : network.client? index = some (⟨some session, [], closing, handler⟩, session))
    (hcall : session.calls[number]? = some call) (hprogress : call.progress = .awaitingHeader)
    (hunanswered : session.unanswered = [number]) (hpending : session.pending = []) :
    Returns registry serverRegistry server network index number := by
  induction hstage : handler.stage using Nat.strong_induction_on generalizing network handler with
  | _ stage ih =>
      have hlink := h.invariant.clients index _ session hfound
      obtain ⟨frames, hframes, hexpects⟩ := hlink.requests
      rw [hunanswered] at hframes
      obtain ⟨frame, rest, hawaits, hrest, rfl⟩ := List.forall₂_cons_left_iff.mp hframes
      obtain ⟨reply, next, after, hresume⟩ :=
        hexpects.exists_resume serverRegistry server network.store
      obtain ⟨current, hruns, hrel⟩ := h.invariant.state
      have hstep : network.step registry serverRegistry server (.resume index) =
          network.resume serverRegistry server index ⟨some session, [], closing, handler⟩ := by
        rw [step, (client?_eq_some_iff.mp hfound).1]
        rfl
      rw [Network.resume, hresume, Option.bind_some] at hstep
      have hguard := patiently_of_server network (rfl : onSession (.resume index) = none) trivial
      have hchanged : (network.setLink index ⟨some session, [], closing, next⟩).client? index =
          some (⟨some session, [], closing, next⟩, session) := client?_setLink hfound rfl
      rcases hlink.resume hrel h.invariant.inRange hruns.state_eq hresume with
        ⟨rfl, rfl, hnext⟩ | ⟨written, taken, request, response, answered, rfl, htakes⟩
      · obtain ⟨others, -, hothers⟩ := hnext.requests
        have hlt : next.stage < stage := by
          rw [← hstage]
          exact hexpects.stage_lt hresume fun _ => hothers.not_exited
        exact .step hstep rfl (ih _ hlt (steady_step h hguard hstep) hchanged rfl)
      · dsimp only at hstep
        rw [replyToClient, htakes.transmits] at hstep
        refine .step hstep rfl ?_
        obtain ⟨frame, rfl⟩ := Session.answer_eq hunanswered htakes.steps
        obtain ⟨hincoming, htransit⟩ := List.append_eq_nil_iff.mp hpending
        refine returns_of_answered (steady_step h hguard hstep) (client?_setLink hchanged rfl) hcall
          hprogress (List.suffix_append _ _) ?_
        rw [Session.pending, hincoming, htransit]
        rfl

/-- A call whose request is under way is delivered, answered, and returns. -/
theorem returns_of_asked (h : network.Steady registry server device)
    (hfound : network.client? index = some (link, session))
    (hcall : session.calls[number]? = some call)
    (hprogress : call.progress = .awaitingHeader) (hunanswered : session.unanswered = [number])
    (hpending : session.pending = []) :
    Returns registry serverRegistry server network index number := by
  obtain ⟨client, toServer, closing, handler⟩ := link
  obtain ⟨hlookup, hclient⟩ := client?_eq_some_iff.mp hfound
  cases hclient
  have hstep : network.step registry serverRegistry server (.deliver index toServer.length) =
      some (network.setLink index ⟨some session, [], closing,
        { handler with incoming := handler.incoming ++ toServer }⟩) := by
    rw [step, hlookup, Option.map_some, List.drop_length, List.take_length]
  have hguard := patiently_of_server network
    (rfl : onSession (.deliver index toServer.length) = none) trivial
  exact .step hstep rfl (returns_of_delivered (steady_step h hguard hstep)
    (client?_setLink hfound rfl) hcall hprogress hunanswered hpending)

section Runs

variable {holdingRegisters inputRegisters : List RegisterBlock}
  {coils discreteInputs : List BitBlock} {store : MemoryDataStore}

theorem steady_of_reaches
    (hinit : MemoryDataStore.init holdingRegisters inputRegisters coils discreteInputs = .ok store)
    (hrange : store.InRange)
    (h : Transition.Reaches (step registry serverRegistry server) Patiently (start store) network) :
    network.Steady registry server
      (.ofBlocks holdingRegisters inputRegisters coils discreteInputs) := by
  have hstart : (start store).Steady registry server
      (.ofBlocks holdingRegisters inputRegisters coils discreteInputs) := by
    refine ⟨invariant_of_reaches hinit hrange (.refl : Transition.Reaches
      (step registry serverRegistry server) InTime (start store) _), ?_⟩
    intro index link session hfound
    cases (client?_eq_some_iff.mp hfound).1
  refine h.invariant (p := fun network => network.Steady registry server
    (.ofBlocks holdingRegisters inputRegisters coils discreteInputs)) hstart ?_
  exact fun _ _ _ hsteady hguard hstep => steady_step hsteady hguard hstep

/-- **No call fails and no call hangs.** While no receive times out, nothing but a unit id that is
no byte makes a call of a client raise, and from every state that is reached, every open call comes
to return its answer by turns of its own connection alone. -/
theorem calls_return
    (hinit : MemoryDataStore.init holdingRegisters inputRegisters coils discreteInputs = .ok store)
    (hrange : store.InRange) (server : ModbusTcpServer)
    (registry serverRegistry : CustomFunctionCodeRegistry) (network : Network)
    (h : Transition.Reaches (step registry serverRegistry server) Patiently (start store) network)
    (index : Nat) (link : Link) (session : Session)
    (hfound : network.client? index = some (link, session)) :
    (∀ call ∈ session.calls, ∀ error, call.progress = .raised error → ¬IsByte call.unitId) ∧
    ∀ (number : Nat) (call : Call), session.calls[number]? = some call → ¬call.Over →
      Returns registry serverRegistry server network index number := by
  have hsteady := steady_of_reaches hinit hrange h
  have hlockstep := hsteady.lockstep index link session hfound
  have hlast := (inTimeFacts_of_steady hsteady hfound).lastOpen
  refine ⟨hlockstep.raised, fun number call hcall hopen => ?_⟩
  cases hlockstep.aligned with
  | idle hover hunanswered hpending => exact absurd (hover call (List.mem_of_getElem? hcall)) hopen
  | asked hasked hprogress hunanswered hpending =>
      obtain ⟨rfl, rfl⟩ := Session.eq_of_open hlast hasked
        (Call.not_over_of_awaitingHeader hprogress) hcall hopen
      exact returns_of_asked hsteady hfound hcall hprogress hunanswered hpending
  | answered hanswered hprogress hunanswered hframe hpending =>
      obtain ⟨rfl, rfl⟩ := Session.eq_of_open hlast hanswered
        (Call.not_over_of_awaitingHeader hprogress) hcall hopen
      exact returns_of_answered hsteady hfound hcall hprogress hframe hpending
  | headed hheaded hprogress hunanswered hframe hpending =>
      obtain ⟨rfl, rfl⟩ := Session.eq_of_open hlast hheaded
        (Call.not_over_of_awaitingBody hprogress) hcall hopen
      exact returns_of_headed hsteady hfound hcall hprogress (hframe.subset List.mem_cons_self)
        hpending

/-- Both calls of `overlappingCalls` are open, and nothing has been delivered of the second one. -/
theorem calls_return_overlapping :
    ∃ network : Network, ∃ found ∈ network.client? 1,
      found.2.calls.map Call.progress = [.awaitingHeader] ∧
      Returns .empty .empty ⟨.empty⟩ network 1 0 := by
  have hinit : MemoryDataStore.init [⟨0, [5], false⟩] [] [] [] = .ok _ := rfl
  have hrange : MemoryDataStore.InRange
      { holdingRegisters := DataArea.ofBlocks [⟨0, [5], false⟩]
        inputRegisters := DataArea.ofBlocks []
        coils := DataArea.ofBlocks [], discreteInputs := DataArea.ofBlocks [] } := by
    constructor <;> decide
  have hrun : ∃ network ∈ Transition.run (step .empty .empty ⟨.empty⟩) Patiently
      (start { holdingRegisters := DataArea.ofBlocks [⟨0, [5], false⟩]
               inputRegisters := DataArea.ofBlocks [], coils := DataArea.ofBlocks []
               discreteInputs := DataArea.ofBlocks [] })
      ((overlappingCalls (.writeSingleRegister ⟨0, 7, by decide, by decide⟩)
        (.readHoldingRegisters ⟨0, 1, by decide, by decide⟩)).take 7),
      ∃ found ∈ network.client? 1, found.2.calls.map Call.progress = [.awaitingHeader] ∧
        ∃ call ∈ found.2.calls[0]?, ¬call.Over := by
    decide +kernel
  obtain ⟨network, hnetwork, ⟨link, session⟩, hfound, hcalls, call, hcall, hopen⟩ := hrun
  exact ⟨network, (link, session), hfound, hcalls, (calls_return hinit hrange ⟨.empty⟩ .empty .empty
    network (Transition.reaches_of_run .refl hnetwork) 1 link session hfound).2 0 call hcall hopen⟩

end Runs

end Network

end ClearModbus
