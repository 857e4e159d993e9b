import ClearModbus.Proof.Links

/-!
# The network is linearizable

Every call takes effect when a handler of the server takes its request, between its invocation and
its response, and is given the answer of the abstract server there. What the clients, the strangers
and the direct callers see is therefore what the abstract server answers when the calls come one at
a time.
-/

namespace ClearModbus

open Linearizable

namespace Network

variable {registry serverRegistry : CustomFunctionCodeRegistry} {server : ModbusTcpServer}
  {device : Device} {network next : Network} {index : Nat} {link : Link} {session : Session}
  {added : List NetworkEvent} {later : List (CallKey × Input)} {store : MemoryDataStore}

/-- The clients behave as the calls of `Session.InTime` do: each makes one call after the other,
none of them times out in the middle of a frame, and no answer comes a whole cycle of ids late. -/
def InTime (network : Network) (action : NetworkAction) : Prop :=
  ∀ entry ∈ onSession action, ∀ found ∈ network.client? entry.1, found.2.InTime entry.2

instance (network : Network) (action : NetworkAction) : Decidable (network.InTime action) :=
  inferInstanceAs (Decidable (∀ entry ∈ onSession action, ∀ found ∈ network.client? entry.1,
    found.2.InTime entry.2))

structure Invariant (registry : CustomFunctionCodeRegistry) (server : ModbusTcpServer)
    (device : Device) (network : Network) : Prop where
  clients : ∀ index link session, network.client? index = some (link, session) →
    ClientLink registry server device network.history network.order index link session
  connected : ∀ index number input, .invoke (.call index number) input ∈ network.history →
    index < network.links.length
  numbered : ∀ number input, .invoke (.outside number) input ∈ network.history →
    number < network.history.length
  state : ∃ current, Runs server.serve device network.history network.order current ∧
    network.store.Represents current
  inRange : network.store.InRange
  sound : ∀ (index : Nat) (link : Link), network.links[index]? = some link → link.handler.Sound

theorem client?_eq_some_iff : network.client? index = some (link, session) ↔
    network.links[index]? = some link ∧ link.client = some session := by
  rw [client?, Option.bind_eq_some_iff]
  constructor
  · rintro ⟨found, hfound, hmap⟩
    obtain ⟨client, hclient, heq⟩ := Option.map_eq_some_iff.mp hmap
    cases heq
    exact ⟨hfound, hclient⟩
  · rintro ⟨hlink, hclient⟩
    exact ⟨link, hlink, by rw [hclient]; rfl⟩

theorem Invariant.invoked (h : network.Invariant registry server device) :
    ∀ key ∈ network.order.map Prod.fst, ∃ input, .invoke key input ∈ network.history := by
  obtain ⟨current, hruns, -⟩ := h.state
  intro key hkey
  obtain ⟨entry, hentry, rfl⟩ := List.mem_map.mp hkey
  exact ⟨entry.2, hruns.linearization.invoked entry hentry⟩

/-- The turn of one connection, with what its callers see of it and what takes effect in it. -/
theorem Invariant.update (h : network.Invariant registry server device)
    (hindex : index < network.links.length)
    (hlinks : next.links = network.links.set index link)
    (hhistory : next.history = network.history ++ added)
    (horder : next.order = network.order ++ later)
    (hclient : ∀ session, link.client = some session →
      ClientLink registry server device next.history next.order index link session)
    (hadded : ∀ key input, .invoke key input ∈ added → ∃ number, key = .call index number)
    (hlater : ∀ entry ∈ later, ∃ number, entry.1 = .call index number)
    (hstate : ∃ current, Runs server.serve device next.history next.order current ∧
      next.store.Represents current)
    (hrange : next.store.InRange) (hsound : link.handler.Sound) :
    next.Invariant registry server device := by
  have hforeign : ∀ other, other ≠ index → ∀ key, (∃ number, key = .call index number) →
      IsForeign other key := by
    rintro other hother key ⟨number, rfl⟩
    exact hother.symm
  refine ⟨?_, ?_, ?_, hstate, hrange, ?_⟩
  · intro other found client hfound
    obtain ⟨hfound, hclientFound⟩ := client?_eq_some_iff.mp hfound
    rw [hlinks] at hfound
    by_cases heq : index = other
    · subst heq
      rw [List.getElem?_set_self hindex] at hfound
      cases hfound
      exact hclient client hclientFound
    · rw [List.getElem?_set_ne heq] at hfound
      rw [hhistory, horder]
      refine (h.clients other found client (client?_eq_some_iff.mpr ⟨hfound, hclientFound⟩)).foreign
        ?_ ?_
      · exact fun key input hmem => hforeign other (Ne.symm heq) key (hadded key input hmem)
      · exact fun entry hmem => hforeign other (Ne.symm heq) entry.1 (hlater entry hmem)
  · intro other number input hmem
    rw [hlinks, List.length_set]
    rw [hhistory] at hmem
    rcases List.mem_append.mp hmem with hmem | hmem
    · exact h.connected other number input hmem
    · obtain ⟨found, hfound⟩ := hadded _ _ hmem
      cases hfound
      exact hindex
  · intro number input hmem
    rw [hhistory] at hmem ⊢
    rw [List.length_append]
    rcases List.mem_append.mp hmem with hmem | hmem
    · exact Nat.lt_add_right _ (h.numbered number input hmem)
    · obtain ⟨found, hfound⟩ := hadded _ _ hmem
      cases hfound
  · intro other found hfound
    rw [hlinks] at hfound
    by_cases heq : index = other
    · subst heq
      rw [List.getElem?_set_self hindex] at hfound
      cases hfound
      exact hsound
    · rw [List.getElem?_set_ne heq] at hfound
      exact h.sound other found hfound

/-- A turn of one connection that nobody sees and in which nothing takes effect. -/
theorem Invariant.setLink (h : network.Invariant registry server device)
    (hindex : index < network.links.length)
    (hclient : ∀ session, link.client = some session →
      ClientLink registry server device network.history network.order index link session)
    (hsound : link.handler.Sound) :
    (network.setLink index link).Invariant registry server device := by
  refine h.update hindex rfl (List.append_nil _).symm
    (List.append_nil _).symm hclient ?_ ?_ h.state h.inRange hsound
  · exact fun _ _ hmem => absurd hmem List.not_mem_nil
  · exact fun _ hmem => absurd hmem List.not_mem_nil

/-- A call that is made, takes effect and is answered in one turn. -/
theorem Invariant.atOnce (h : network.Invariant registry server device) {input : Input}
    {output : Output}
    (hserve : ∀ current, network.store.Represents current →
      output = (server.serve current input).1 ∧ store.Represents (server.serve current input).2)
    (hrange : store.InRange) :
    (Network.atOnce { network with store } input output).Invariant registry server device := by
  obtain ⟨current, hruns, hrel⟩ := h.state
  obtain ⟨houtput, hafter⟩ := hserve current hrel
  have hfresh : ∀ other, .invoke (.outside network.history.length) other ∉ network.history :=
    fun other hmem => Nat.lt_irrefl _ (h.numbered _ other hmem)
  have huntaken : .outside network.history.length ∉ network.order.map Prod.fst := by
    intro hmem
    obtain ⟨other, hother⟩ := h.invoked _ hmem
    exact hfresh other hother
  have hinvoked := hruns.invoke (.outside network.history.length) input hfresh
  have hcommitted := hinvoked.commit (List.mem_append_right _ (List.mem_singleton_self _)) huntaken
  have hresponded := hcommitted.respond
    (committed_append_singleton (.outside network.history.length) input hruns.state_eq)
  rw [List.append_assoc, ← houtput] at hresponded
  have hmade : ∀ key other, .invoke key other ∈
      [Event.invoke (CallKey.outside network.history.length) input,
        .respond (CallKey.outside network.history.length) output] →
          key = .outside network.history.length := by
    intro key other hmem
    rcases List.mem_cons.mp hmem with heq | hmem
    · cases heq
      rfl
    · cases List.mem_singleton.mp hmem
  refine ⟨?_, ?_, ?_, ⟨_, hresponded, hafter⟩, hrange, h.sound⟩
  · intro index link session hfound
    refine (h.clients index link session hfound).foreign ?_ ?_
    · intro key other hmem
      rw [hmade key other hmem]
      trivial
    · intro entry hmem
      rw [List.mem_singleton.mp hmem]
      trivial
  · intro index number other hmem
    rcases List.mem_append.mp hmem with hmem | hmem
    · exact h.connected index number other hmem
    · cases hmade _ _ hmem
  · intro number other hmem
    change number < (network.history ++ [_, _]).length
    rw [List.length_append]
    rcases List.mem_append.mp hmem with hmem | hmem
    · exact Nat.lt_add_right _ (h.numbered number other hmem)
    · cases hmade _ _ hmem
      exact Nat.lt_add_of_pos_right (Nat.zero_lt_succ _)

theorem Invariant.newLink (h : network.Invariant registry server device)
    (hclient : ∀ session, link.client = some session →
      ClientLink registry server device network.history network.order network.links.length link
        session)
    (hsound : link.handler.Sound) :
    Invariant registry server device { network with links := network.links ++ [link] } := by
  refine ⟨?_, ?_, h.numbered, h.state, h.inRange, ?_⟩
  · intro index found client hfound
    obtain ⟨hfound, hclientFound⟩ := client?_eq_some_iff.mp hfound
    rcases Transition.getElem?_append_singleton hfound with hbefore | ⟨rfl, rfl⟩
    · exact h.clients index found client (client?_eq_some_iff.mpr ⟨hbefore, hclientFound⟩)
    · exact hclient client hclientFound
  · intro index number input hmem
    exact Nat.lt_of_lt_of_le (h.connected index number input hmem) (by simp)
  · intro index found hfound
    rcases Transition.getElem?_append_singleton hfound with hbefore | ⟨-, rfl⟩
    · exact h.sound index found hbefore
    · exact hsound

/-- A client that returns an answer returns the one its call was given where it took effect. -/
theorem Invariant.runs_returned {number : Nat} {history : List NetworkEvent}
    {order : List (CallKey × Input)} {current : Device}
    (hruns : Runs server.serve device history order current)
    (h : ClientLink registry server device history order index link session) :
    Runs server.serve device (history ++ returned index number session) order current := by
  rw [returned]
  split
  · rename_i response hreturned
    obtain ⟨call, hcall, hprogress⟩ := Option.map_eq_some_iff.mp hreturned
    obtain ⟨start, hreach⟩ := h.reaches
    obtain ⟨frame, hmem, hdecode⟩ := (Session.inTimeFacts hreach).attributed number call response
      hcall hprogress
    obtain ⟨found, request, answer, hfound, hrequest, -, -, -, hpdu, hanswers, hcommitted⟩ :=
      h.answers number frame hmem
    cases hcall.symm.trans hfound
    rw [hpdu, hrequest, hanswers.decode_wire registry] at hdecode
    cases hdecode
    exact hruns.respond hcommitted
  · rw [List.append_nil]
    exact hruns

theorem forall_not_invoke_returned (index number : Nat) (session : Session) (key : CallKey)
    (input : Input) : .invoke key input ∉ returned index number session := by
  rw [returned]
  split
  · intro hmem
    cases List.mem_singleton.mp hmem
  · exact List.not_mem_nil

theorem inRange_perform {server : ModbusTcpServer} (hstore : store.WellFormed)
    (hrange : store.InRange)
    (operation : Operation) : (server.perform store operation).2.InRange := by
  cases operation with
  | request request =>
      exact MemoryDataStore.inRange_step hstore hrange (.request server (.builtin request.1) store)
  | setHoldingRegisters address values =>
      exact MemoryDataStore.inRange_step hstore hrange (.setHoldingRegisters store address values)
  | setCoils address values =>
      exact MemoryDataStore.inRange_step hstore hrange (.setCoils store address values)
  | setInputRegisters address values =>
      exact MemoryDataStore.inRange_step hstore hrange (.setInputRegisters store address values)
  | setDiscreteInputs address values =>
      exact MemoryDataStore.inRange_step hstore hrange (.setDiscreteInputs store address values)
  | _ => exact hrange

theorem Invariant.own (h : network.Invariant registry server device)
    (hfound : network.client? index = some (link, session)) {action : SessionAction}
    (hown : Session.IsOwn action) (hguard : session.InTime action) {after : Session}
    (hstep : session.step registry action = some after) :
    Network.Invariant registry server device
      (network.setLink index { link with client := some after }) := by
  obtain ⟨hlookup, -⟩ := client?_eq_some_iff.mp hfound
  refine h.setLink (List.getElem?_eq_some_iff.mp hlookup).1 ?_ (h.sound index link hlookup)
  intro client hclient
  cases hclient
  have hlink : ClientLink registry server device (network.history ++ []) network.order index
      { link with client := some after } after :=
    (h.clients index link session hfound).own hown hguard hstep fun _ _ => List.not_mem_nil
  rwa [List.append_nil] at hlink

theorem Invariant.call (h : network.Invariant registry server device)
    (hfound : network.client? index = some (link, session)) (request : BuiltinRequest)
    (unitId : Option Int) (hguard : session.InTime (.call (.builtin request) unitId))
    (hstep : network.step registry serverRegistry server (.call index request unitId) = some next) :
    next.Invariant registry server device := by
  have hlink := h.clients index link session hfound
  obtain ⟨hlookup, -⟩ := client?_eq_some_iff.mp hfound
  obtain ⟨current, hruns, hrel⟩ := h.state
  rw [step, hfound] at hstep
  cases hstep
  have hfresh : ∀ input, .invoke (.call index session.calls.length) input ∉ network.history :=
    fun input hmem => Nat.lt_irrefl _ (hlink.made _ input hmem)
  refine h.update (List.getElem?_eq_some_iff.mp hlookup).1 rfl rfl (List.append_nil _).symm ?_ ?_ ?_
    ⟨current, hruns.invoke _ _ hfresh, hrel⟩ h.inRange (h.sound index link hlookup)
  · intro client hclient
    cases hclient
    exact hlink.call h.invoked request unitId hguard
  · intro key input hmem
    cases List.mem_singleton.mp hmem
    exact ⟨_, rfl⟩
  · exact fun _ hmem => absurd hmem List.not_mem_nil

theorem Invariant.receive (h : network.Invariant registry server device)
    (hfound : network.client? index = some (link, session)) {number : Nat}
    (hguard : session.InTime (.receive number)) {after : Session}
    (hstep : session.step registry (.receive number) = some after) :
    Invariant registry server device
      { network.setLink index { link with client := some after } with
        history := network.history ++ returned index number after } := by
  obtain ⟨hlookup, -⟩ := client?_eq_some_iff.mp hfound
  have hreceives : Session.IsOwn (.receive number) := trivial
  have hown : ∀ added : List NetworkEvent, (∀ key input, .invoke key input ∉ added) →
      ClientLink registry server device (network.history ++ added) network.order index
        { link with client := some after } after := fun added hadded =>
    (h.clients index link session hfound).own hreceives hguard hstep hadded
  obtain ⟨current, hruns, hrel⟩ := h.state
  have hquiet := hown [] fun _ _ => List.not_mem_nil
  rw [List.append_nil] at hquiet
  refine h.update (List.getElem?_eq_some_iff.mp hlookup).1 rfl rfl (List.append_nil _).symm ?_ ?_ ?_
    ⟨current, runs_returned hruns hquiet, hrel⟩ h.inRange (h.sound index link hlookup)
  · intro client hclient
    cases hclient
    exact hown _ (forall_not_invoke_returned index number after)
  · exact fun key input hmem =>
      absurd hmem (forall_not_invoke_returned index number after key input)
  · exact fun _ hmem => absurd hmem List.not_mem_nil

/-- A stranger's PDU is a call of its own when it is a request of the package, and nothing
otherwise. -/
theorem Invariant.replyToStranger (h : next.Invariant registry server device)
    (hstore : next.store = network.store) {reply : ClientHandler.Reply} {after : MemoryDataStore}
    (hafter : (Exec.runOn (server.replyPdu serverRegistry reply.1) network.store).2 = after) :
    (Network.replyToStranger serverRegistry server network { next with store := after }
      reply).Invariant registry server device := by
  rw [Network.replyToStranger]
  split
  · rename_i hnone
    rw [← hafter, ModbusTcpServer.replyPdu_of_not_builtin hnone, ← hstore]
    exact h
  · rename_i request hbuiltin
    obtain ⟨current, -, hrel⟩ := h.state
    have hrange := h.inRange
    rw [hstore] at hrel hrange
    have hserved : ∀ current, network.store.Represents current →
        Output.response (Exec.runOn (server.handleRequest (.builtin request)) network.store).1 =
            (server.serve current (.request request)).1 ∧
          after.Represents (server.serve current (.request request)).2 ∧ after.InRange := by
      intro current hrel
      obtain ⟨response, final, hserves⟩ := server.exists_serves hrel hrange request
      rw [hserves.reply hbuiltin] at hafter
      rw [hserves.run, hserves.output, ← hafter]
      exact ⟨rfl, hserves.represents, hserves.inRange⟩
    refine h.atOnce (fun current hcurrent => ?_) (hserved current hrel).2.2
    rw [hstore] at hcurrent
    exact ⟨(hserved current hcurrent).1, (hserved current hcurrent).2.1⟩

/-- A handler of a client goes on. -/
theorem Invariant.resumeClient (h : network.Invariant registry server device)
    (hfound : network.client? index = some (link, session)) {reply : Option ClientHandler.Reply}
    {handler : ClientHandler} {after : MemoryDataStore}
    (hresume : link.handler.resume serverRegistry server network.store =
      some (reply, handler, after)) :
    (reply = none ∧ Invariant registry server device
      { network.setLink index { link with handler } with store := after }) ∨
    ∃ written, reply = some written ∧ ∀ final,
      replyToClient serverRegistry
        { network.setLink index { link with handler } with store := after }
        index { link with handler } session written = some final →
          final.Invariant registry server device := by
  obtain ⟨hlookup, -⟩ := client?_eq_some_iff.mp hfound
  have hindex := (List.getElem?_eq_some_iff.mp hlookup).1
  have hsound := ClientHandler.sound_resume hresume
  obtain ⟨current, hruns, hrel⟩ := h.state
  rcases (h.clients index link session hfound).resume hrel h.inRange hruns.state_eq hresume with
    ⟨rfl, rfl, hlink⟩ | ⟨written, number, request, response, next, rfl, htakes⟩
  · refine .inl ⟨rfl, h.setLink hindex (fun client hclient => ?_) hsound⟩
    cases hclient.symm.trans (client?_eq_some_iff.mp hfound).2
    exact hlink
  · refine .inr ⟨written, rfl, fun final hfinal => ?_⟩
    obtain ⟨unanswered, holdest⟩ := htakes.oldest
    rw [replyToClient, htakes.transmits, htakes.pdu, ModbusTcpServer.builtin?_wire,
      holdest] at hfinal
    cases hfinal
    have hcommitted := hruns.commit htakes.invoked htakes.untaken
    refine h.update hindex (List.set_set _) (List.append_nil _).symm rfl ?_ ?_ ?_
      ⟨_, hcommitted, htakes.serves.represents⟩ htakes.serves.inRange hsound
    · intro client hclient
      cases hclient
      exact htakes.link
    · exact fun _ _ hmem => absurd hmem List.not_mem_nil
    · intro entry hmem
      rw [List.mem_singleton.mp hmem]
      exact ⟨number, rfl⟩

theorem Invariant.resume (h : network.Invariant registry server device)
    (hlink : network.links[index]? = some link)
    (hstep : network.resume serverRegistry server index link = some next) :
    next.Invariant registry server device := by
  obtain ⟨⟨reply, handler, after⟩, hresume, hstep⟩ := Option.bind_eq_some_iff.mp hstep
  obtain ⟨client, toServer, closing, before⟩ := link
  dsimp only at hstep hresume
  cases client with
  | none =>
      obtain ⟨current, -, hrel⟩ := h.state
      obtain ⟨hquiet, hreply⟩ := ClientHandler.after_of_resume hrel h.inRange
        (h.sound index _ hlink) hresume
      have hchanged : (network.setLink index ⟨none, toServer, closing, handler⟩).Invariant registry
          server device :=
        h.setLink (List.getElem?_eq_some_iff.mp hlink).1 (fun _ hfound => nomatch hfound)
          (ClientHandler.sound_resume hresume)
      cases reply with
      | none =>
          cases hstep
          rw [hquiet rfl]
          exact hchanged
      | some written =>
          cases hstep
          exact hchanged.replyToStranger rfl (hreply written rfl)
  | some session =>
      rcases h.resumeClient (client?_eq_some_iff.mpr ⟨hlink, rfl⟩) hresume with
        ⟨rfl, hnext⟩ | ⟨written, rfl, hnext⟩
      · cases hstep
        exact hnext
      · exact hnext next hstep

theorem invariant_step {action : NetworkAction} (h : network.Invariant registry server device)
    (hguard : network.InTime action)
    (hstep : network.step registry serverRegistry server action = some next) :
    next.Invariant registry server device := by
  cases action with
  | connect unitId =>
      cases hstep
      refine h.newLink ?_ ClientHandler.sound_accepted
      intro client hclient
      cases hclient
      exact clientLink_connect unitId fun number input hmem =>
        Nat.lt_irrefl _ (h.connected _ number input hmem)
  | connectStranger =>
      cases hstep
      exact h.newLink (fun _ hclient => nomatch hclient) ClientHandler.sound_accepted
  | call index request unitId =>
      have hstep' := hstep
      rw [step] at hstep
      obtain ⟨⟨link, session⟩, hfound, -⟩ := Option.map_eq_some_iff.mp hstep
      exact h.call hfound request unitId (hguard _ rfl _ hfound) hstep'
  | receive index number =>
      obtain ⟨⟨link, session⟩, hfound, hstep⟩ := Option.bind_eq_some_iff.mp hstep
      obtain ⟨after, hafter, rfl⟩ := Option.map_eq_some_iff.mp hstep
      exact h.receive hfound (hguard _ rfl _ hfound) hafter
  | timeout index number =>
      obtain ⟨⟨link, session⟩, hfound, hstep⟩ := Option.bind_eq_some_iff.mp hstep
      obtain ⟨after, hafter, rfl⟩ := Option.map_eq_some_iff.mp hstep
      have howns : Session.IsOwn (.timeout number) := trivial
      exact h.own hfound howns (hguard _ rfl _ hfound) hafter
  | arrive index count =>
      obtain ⟨⟨link, session⟩, hfound, hstep⟩ := Option.bind_eq_some_iff.mp hstep
      obtain ⟨after, hafter, rfl⟩ := Option.map_eq_some_iff.mp hstep
      have howns : Session.IsOwn (.arrive count) := trivial
      exact h.own hfound howns (hguard _ rfl _ hfound) hafter
  | closed index =>
      obtain ⟨⟨link, session⟩, hfound, hstep⟩ := Option.bind_eq_some_iff.mp hstep
      obtain ⟨frames, -, hexpects⟩ := (h.clients index link session hfound).requests
      dsimp only at hstep
      split at hstep
      · rename_i loopExit hexited
        exact absurd hexited hexpects.not_exited
      · cases hstep
  | write index data =>
      obtain ⟨link, hlink, hstep⟩ := Option.bind_eq_some_iff.mp hstep
      split at hstep
      · cases hstep
      · rename_i hstranger
        cases hstep
        refine h.setLink (List.getElem?_eq_some_iff.mp hlink).1 (fun client hclient => ?_)
          (h.sound index link hlink)
        exact absurd (.inl (Option.isSome_of_eq_some hclient)) hstranger
  | hangUp index =>
      obtain ⟨link, hlink, hstep⟩ := Option.bind_eq_some_iff.mp hstep
      split at hstep
      · cases hstep
      · rename_i hstranger
        cases hstep
        refine h.setLink (List.getElem?_eq_some_iff.mp hlink).1 (fun client hclient => ?_)
          (h.sound index link hlink)
        exact absurd (Option.isSome_of_eq_some hclient) hstranger
  | deliver index count =>
      obtain ⟨link, hlink, rfl⟩ := Option.map_eq_some_iff.mp hstep
      refine h.setLink (List.getElem?_eq_some_iff.mp hlink).1 (fun client hclient => ?_)
        (h.sound index link hlink)
      have hclientLink := h.clients index link client (client?_eq_some_iff.mpr ⟨hlink, hclient⟩)
      obtain ⟨frames, hframes, hexpects⟩ := hclientLink.requests
      exact { hclientLink with requests := ⟨frames, hframes, hexpects.deliver count⟩ }
  | eof index =>
      obtain ⟨link, hlink, hstep⟩ := Option.bind_eq_some_iff.mp hstep
      split at hstep
      · rename_i hclosing
        cases hstep
        refine h.setLink (List.getElem?_eq_some_iff.mp hlink).1 (fun client hclient => ?_)
          (h.sound index link hlink)
        have hclientLink := h.clients index link client (client?_eq_some_iff.mpr ⟨hlink, hclient⟩)
        exact absurd (hclosing.1.symm.trans hclientLink.notClosing) Bool.noConfusion
      · cases hstep
  | resume index =>
      obtain ⟨link, hlink, hstep⟩ := Option.bind_eq_some_iff.mp hstep
      exact h.resume hlink hstep
  | direct operation =>
      cases hstep
      refine h.atOnce (fun current hrel => ?_) ?_
      · exact server.perform_represents hrel operation
      · obtain ⟨current, -, hrel⟩ := h.state
        exact inRange_perform hrel.wellFormed h.inRange operation

section Runs

variable {holdingRegisters inputRegisters : List RegisterBlock}
  {coils discreteInputs : List BitBlock}

theorem invariant_of_reaches
    (hinit : MemoryDataStore.init holdingRegisters inputRegisters coils discreteInputs = .ok store)
    (hrange : store.InRange)
    (h : Transition.Reaches (step registry serverRegistry server) InTime (start store) network) :
    network.Invariant registry server
      (.ofBlocks holdingRegisters inputRegisters coils discreteInputs) := by
  have hstart : (start store).Invariant registry server
      (.ofBlocks holdingRegisters inputRegisters coils discreteInputs) := by
    refine ⟨?_, ?_, ?_, ⟨_, .nil, MemoryDataStore.represents_init hinit⟩, hrange, ?_⟩
    · intro index link session hfound
      cases (client?_eq_some_iff.mp hfound).1
    · exact fun _ _ _ hmem => absurd hmem List.not_mem_nil
    · exact fun _ _ hmem => absurd hmem List.not_mem_nil
    · intro index link hlink
      cases hlink
  refine h.invariant (p := fun network => network.Invariant registry server
    (.ofBlocks holdingRegisters inputRegisters coils discreteInputs)) hstart ?_
  exact fun _ _ _ hinv hguard hstep => invariant_step hinv hguard hstep

/-- **The network is linearizable.** In every run, however the clients, the strangers, the direct
callers and the network take turns, the calls took effect in an order in which the abstract server
gives every answer that was returned, which keeps the order of calls that did not overlap, and which
leaves the device with what the datastore holds. -/
theorem linearizable
    (hinit : MemoryDataStore.init holdingRegisters inputRegisters coils discreteInputs = .ok store)
    (hrange : store.InRange) (server : ModbusTcpServer)
    (registry serverRegistry : CustomFunctionCodeRegistry) (network : Network)
    (h : Transition.Reaches (step registry serverRegistry server) InTime (start store) network) :
    Linearization server.serve (.ofBlocks holdingRegisters inputRegisters coils discreteInputs)
      network.history network.order ∧
    network.store.Represents (Machine.run server.serve
      (.ofBlocks holdingRegisters inputRegisters coils discreteInputs)
      (network.order.map Prod.snd)).2 := by
  obtain ⟨current, hruns, hrel⟩ := (invariant_of_reaches hinit hrange h).state
  rw [← hruns.state_eq]
  exact ⟨hruns.linearization, hrel⟩

/-- **Nobody disturbs a client.** Whatever the others do, a client comes to its state by a run of
calls one after the other: its handler never leaves the loop, every frame it is sent holds an answer
that belongs to the request of the call it is for, and every call that returns decodes the answer to
its own request. -/
theorem client_undisturbed
    (hinit : MemoryDataStore.init holdingRegisters inputRegisters coils discreteInputs = .ok store)
    (hrange : store.InRange) (server : ModbusTcpServer)
    (registry serverRegistry : CustomFunctionCodeRegistry) (network : Network)
    (h : Transition.Reaches (step registry serverRegistry server) InTime (start store) network)
    (index : Nat) (link : Link) (session : Session)
    (hfound : network.client? index = some (link, session)) :
    (∃ unitId, Transition.Reaches (Session.step registry) Session.InTime (.fresh unitId) session) ∧
    (∀ loopExit, link.handler.progress ≠ .exited loopExit) ∧
    (∀ number frame, (some number, frame) ∈ session.frames → ∃ call request response,
      session.calls[number]? = some call ∧ call.request = .builtin request ∧
        frame.pdu = response.wire ∧ Answers request response) ∧
    session.Attributed registry := by
  have hlink := (invariant_of_reaches hinit hrange h).clients index link session hfound
  obtain ⟨unitId, hreach⟩ := hlink.reaches
  obtain ⟨frames, -, hexpects⟩ := hlink.requests
  refine ⟨⟨unitId, hreach⟩, fun _ => hexpects.not_exited, ?_,
    (Session.inTimeFacts hreach).attributed⟩
  intro number frame hmem
  obtain ⟨call, request, response, hcall, hrequest, -, -, -, hpdu, hanswers, -⟩ :=
    hlink.answers number frame hmem
  exact ⟨call, request, response, hcall, hrequest, hpdu, hanswers⟩

/-- Two clients make a call each, while a stranger writes the register at address 0; the frames
arrive in pieces, and the second call is answered last. -/
def overlappingCalls (first second : BuiltinRequest) : List NetworkAction :=
  [.connect 1, .connect 1, .connectStranger, .call 0 first none, .call 1 second none,
    .write 2 [0, 9, 0, 0, 0, 6, 1, 6, 0, 0, 0, 8], .deliver 0 5, .deliver 1 12, .resume 1,
    .deliver 0 7, .resume 0, .deliver 2 12, .resume 2, .resume 0, .resume 2, .resume 1,
    .direct (.getHoldingRegisters 0 1), .arrive 0 12, .receive 0 0, .receive 0 0, .arrive 1 20,
    .receive 1 0, .receive 1 0]

theorem linearizable_overlapping :
    ∃ network : Network, network.history.length = 8 ∧
      network.order.map Prod.fst = [.call 0 0, .outside 2, .call 1 0, .outside 4] ∧
      Linearization (ModbusTcpServer.serve ⟨.empty⟩) (.ofBlocks [⟨0, [5], false⟩] [] [] [])
        network.history network.order := by
  have hinit : MemoryDataStore.init [⟨0, [5], false⟩] [] [] [] = .ok _ := rfl
  have hrange : MemoryDataStore.InRange
      { holdingRegisters := DataArea.ofBlocks [⟨0, [5], false⟩]
        inputRegisters := DataArea.ofBlocks []
        coils := DataArea.ofBlocks [], discreteInputs := DataArea.ofBlocks [] } := by
    constructor <;> decide
  have hrun : ∃ network ∈ Transition.run (step .empty .empty ⟨.empty⟩) InTime
      (start { holdingRegisters := DataArea.ofBlocks [⟨0, [5], false⟩]
               inputRegisters := DataArea.ofBlocks [], coils := DataArea.ofBlocks []
               discreteInputs := DataArea.ofBlocks [] })
      (overlappingCalls (.writeSingleRegister ⟨0, 7, by decide, by decide⟩)
        (.readHoldingRegisters ⟨0, 1, by decide, by decide⟩)),
      network.history.length = 8 ∧
        network.order.map Prod.fst = [.call 0 0, .outside 2, .call 1 0, .outside 4] := by
    decide +kernel
  obtain ⟨network, hnetwork, hhistory, horder⟩ := hrun
  exact ⟨network, hhistory, horder, (linearizable hinit hrange ⟨.empty⟩ .empty .empty network
    (Transition.reaches_of_run .refl hnetwork)).1⟩

theorem client_undisturbed_overlapping :
    ∃ link : Link, ∃ session : Session, session.calls.map Call.progress =
        [.returned (.readRegisters ⟨0x03, [8]⟩)] ∧ session.Attributed .empty ∧
      ∀ loopExit, link.handler.progress ≠ .exited loopExit := by
  have hinit : MemoryDataStore.init [⟨0, [5], false⟩] [] [] [] = .ok _ := rfl
  have hrange : MemoryDataStore.InRange
      { holdingRegisters := DataArea.ofBlocks [⟨0, [5], false⟩]
        inputRegisters := DataArea.ofBlocks []
        coils := DataArea.ofBlocks [], discreteInputs := DataArea.ofBlocks [] } := by
    constructor <;> decide
  have hrun : ∃ network ∈ Transition.run (step .empty .empty ⟨.empty⟩) InTime
      (start { holdingRegisters := DataArea.ofBlocks [⟨0, [5], false⟩]
               inputRegisters := DataArea.ofBlocks [], coils := DataArea.ofBlocks []
               discreteInputs := DataArea.ofBlocks [] })
      (overlappingCalls (.writeSingleRegister ⟨0, 7, by decide, by decide⟩)
        (.readHoldingRegisters ⟨0, 1, by decide, by decide⟩)),
      ∃ found ∈ network.client? 1, found.2.calls.map Call.progress =
        [.returned (.readRegisters ⟨0x03, [8]⟩)] := by
    decide +kernel
  obtain ⟨network, hnetwork, ⟨link, session⟩, hfound, hcalls⟩ := hrun
  obtain ⟨-, hopen, -, hattributed⟩ := client_undisturbed hinit hrange ⟨.empty⟩ .empty .empty
    network (Transition.reaches_of_run .refl hnetwork) 1 link session hfound
  exact ⟨link, session, hcalls, hattributed, hopen⟩

end Runs

end Network

end ClearModbus
