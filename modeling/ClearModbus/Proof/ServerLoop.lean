import ClearModbus.Proof.ServerReply

/-!
# The connection loop

One turn of the loop takes one frame off the stream and writes one frame; a tail that is no whole
frame ends the loop by a `break`. By induction over the frames, a connection is answered frame by
frame.
-/

namespace ClearModbus

structure RequestFrame extends ModbusTCPFrame where
  fits : toModbusTCPFrame.header.Fits
  protocolId_valid : protocolId = modbusTcpProtocolId

def RequestFrame.reply (request : RequestFrame) (pdu : Bytes) : ModbusTCPFrame :=
  { transactionId := request.transactionId, unitId := request.unitId, pdu }

theorem RequestFrame.fits_reply (request : RequestFrame) {pdu : Bytes} (h : pdu.length ≤ 65534) :
    (request.reply pdu).header.Fits :=
  ModbusTCPFrame.fits_header request.fits.transactionId request.fits.unitId h

/-- A stream the loop cannot read a frame from: it is shorter than one frame, or its header has
another protocol id or no room for the unit id. -/
def IsTail (tail : Bytes) : Prop :=
  tail.length < 7 ∨ ∃ header, MBAPHeader.decode (tail.take 7) = .ok header ∧
    (header.protocolId ≠ 0 ∨ header.length = 0 ∨
      ((tail.drop 7).length : Int) < header.length - 1)

/-- A written frame that replies to a request frame: the ids of the request, protocol id 0, the
length of its PDU, and the function code of the request in the low seven bits of the first byte. -/
structure RepliesToFrame (request : RequestFrame) (written : Bytes) : Prop where
  header : MBAPHeader.decode (written.take 7) =
    .ok ⟨request.transactionId, 0, 1 + (written.drop 7).length, request.unitId⟩
  pdu : ∃ head rest, written.drop 7 = head :: rest ∧
    sevenBits head = sevenBits (request.pdu.headD 0)

namespace ModbusTcpServer

variable {registry : CustomFunctionCodeRegistry} {server : ModbusTcpServer}
  {store after : MemoryDataStore} {others : Nat → MemoryDataStore → MemoryDataStore}

theorem readExactly_append (front rest : Bytes) :
    readExactly (front ++ rest) front.length = .ok (front, rest) := by
  rw [readExactly, if_neg (by simp), List.take_left, List.drop_left]

theorem readExactly_of_short {stream : Bytes} {size : Nat} (h : stream.length < size) :
    readExactly stream size = .error .incompleteReadError := if_pos h

theorem readExactly_of_le {stream : Bytes} {size : Nat} (h : size ≤ stream.length) :
    readExactly stream size = .ok (stream.take size, stream.drop size) :=
  if_neg (Nat.not_lt.mpr h)

theorem decodeHeader_wire {header : MBAPHeader} (hfits : header.Fits)
    (hprotocol : header.protocolId = 0) (hlength : 1 ≤ header.length) :
    decodeHeader header.wire = .ok header := by
  rw [decodeHeader, MBAPHeader.decode_wire hfits, Except.ok_bind,
    if_neg (not_not.mpr hprotocol), if_neg (Int.not_lt.mpr hlength)]
  rfl

theorem decodeHeader_of_bad {data : Bytes} {header : MBAPHeader}
    (hdecode : MBAPHeader.decode data = .ok header)
    (hbad : header.protocolId ≠ 0 ∨ header.length = 0) :
    ∃ message, decodeHeader data = .error (.valueError message) := by
  rw [decodeHeader, hdecode, Except.ok_bind]
  by_cases hprotocol : header.protocolId = 0
  · have hlength : header.length < 1 := by
      have hzero := hbad.resolve_left (not_not.mpr hprotocol)
      omega
    exact ⟨_, by rw [if_neg (not_not.mpr hprotocol), if_pos hlength]; rfl⟩
  · exact ⟨_, if_pos hprotocol⟩

/-- A frame in front of the stream is taken off it, and the reply to its PDU is written. -/
theorem serveOne_frame (request : RequestFrame) (rest : Bytes) {reply : Bytes}
    (hreply : Exec.runOn (server.replyPdu registry request.pdu) store = (.ok reply, after))
    (hlength : reply.length ≤ 65534) :
    serveOne registry server (request.wire ++ rest) store =
      .inr ((request.reply reply).wire, rest, after) := by
  have hfits := request.fits
  have hsize : (request.header.length - 1).toNat = request.pdu.length := by
    change ((1 : Int) + request.pdu.length - 1).toNat = _
    omega
  have hone : 1 ≤ request.header.length := by
    change 1 ≤ (1 : Int) + request.pdu.length
    omega
  have hheader : readExactly (request.wire ++ rest) 7 =
      .ok (request.header.wire, request.pdu ++ rest) := by
    rw [ModbusTCPFrame.wire, List.append_assoc]
    exact readExactly_append request.header.wire (request.pdu ++ rest)
  rw [serveOne, hheader]
  dsimp only
  rw [decodeHeader_wire hfits request.protocolId_valid hone]
  dsimp only
  rw [hsize, readExactly_append]
  dsimp only
  rw [hreply]
  dsimp only
  have hframe : ModbusTCPFrame.mk request.header.transactionId request.header.unitId reply
      request.header.protocolId = request.reply reply :=
    congrArg (ModbusTCPFrame.mk request.transactionId request.unitId reply) request.protocolId_valid
  rw [hframe, ModbusTCPFrame.encode_eq (request.fits_reply hlength)]

/-- A tail ends the loop by a `break` and leaves the datastore as it is. -/
theorem serveOne_tail {tail : Bytes} (htail : IsTail tail) (store : MemoryDataStore) :
    ∃ loopExit unread, serveOne registry server tail store = .inl (loopExit, unread, store) ∧
      loopExit.IsBreak := by
  rcases htail with hshort | ⟨header, hdecode, hbad⟩
  · exact ⟨.noHeader, [], by rw [serveOne, readExactly_of_short hshort], trivial⟩
  · have hseven : 7 ≤ tail.length := by
      by_contra hshort
      obtain ⟨-, htake⟩ := MBAPHeader.decode_eq_ok_iff.mp hdecode
      have hlength := congrArg List.length htake
      rw [List.length_take, MBAPHeader.length_wire] at hlength
      omega
    by_cases hheader : header.protocolId ≠ 0 ∨ header.length = 0
    · obtain ⟨message, herror⟩ := decodeHeader_of_bad hdecode hheader
      refine ⟨.badHeader, tail.drop 7, ?_, trivial⟩
      rw [serveOne, readExactly_of_le hseven]
      dsimp only
      rw [herror]
    · obtain ⟨hprotocol, hlength⟩ := not_or.mp hheader
      obtain ⟨hfits, htake⟩ := MBAPHeader.decode_eq_ok_iff.mp hdecode
      have hnonneg := hfits.length.1
      have hbody : (tail.drop 7).length < (header.length - 1).toNat := by
        rcases hbad with hbad | hbad | hbad
        · exact absurd hbad hprotocol
        · exact absurd hbad hlength
        · omega
      refine ⟨.noBody, [], ?_, trivial⟩
      rw [serveOne, readExactly_of_le hseven]
      dsimp only
      rw [htake, decodeHeader_wire hfits (not_not.mp hprotocol) (by omega)]
      dsimp only
      rw [readExactly_of_short hbody]

theorem handleClient_of_exit {stream unread : Bytes} {loopExit : LoopExit} {turn : Nat}
    (h : serveOne registry server stream (others turn store) = .inl (loopExit, unread, after)) :
    handleClient registry server others turn stream store = ⟨[], loopExit, unread, after⟩ := by
  rw [handleClient]
  split
  · rename_i hserve
    rw [h] at hserve
    cases hserve
    rfl
  · rename_i hserve
    rw [h] at hserve
    cases hserve

theorem handleClient_of_frame {stream rest frame : Bytes} {turn : Nat}
    (h : serveOne registry server stream (others turn store) = .inr (frame, rest, after)) :
    handleClient registry server others turn stream store =
      { handleClient registry server others (turn + 1) rest after with
        written :=
          frame :: (handleClient registry server others (turn + 1) rest after).written } := by
  rw [handleClient]
  split
  · rename_i hserve
    rw [h] at hserve
    cases hserve
  · rename_i hserve
    rw [h] at hserve
    cases hserve
    rfl

theorem repliesToFrame_wire {request : RequestFrame} {reply : Bytes}
    (h : RepliesTo request.pdu reply) :
    RepliesToFrame request (request.reply reply).wire := by
  refine ⟨?_, h.head⟩
  rw [ModbusTCPFrame.take_wire, MBAPHeader.decode_wire (request.fits_reply h.length_le)]
  rfl

/-- The loop answers the frames one by one, whatever others do to the datastore in between. -/
theorem handleClient_frames {initial : MemoryDataStore} (hinitial : initial.WellFormed)
    (hothers : ∀ turn current, Relation.ReflTransGen ServerStep initial current → current.InRange →
      Relation.ReflTransGen ServerStep current (others turn current) ∧
        (others turn current).InRange)
    (frames : List RequestFrame) {tail : Bytes} (htail : IsTail tail) (turn : Nat)
    (hreach : Relation.ReflTransGen ServerStep initial store) (hrange : store.InRange) :
    List.Forall₂ RepliesToFrame frames (handleClient .empty server others turn
      (frames.flatMap (·.wire) ++ tail) store).written ∧
      (handleClient .empty server others turn
        (frames.flatMap (·.wire) ++ tail) store).loopExit.IsBreak := by
  induction frames generalizing turn store with
  | nil =>
      have hserved : ∃ loopExit unread, serveOne .empty server tail (others turn store) =
          .inl (loopExit, unread, others turn store) ∧ loopExit.IsBreak :=
        serveOne_tail htail (others turn store)
      obtain ⟨loopExit, unread, hserve, hbreak⟩ := hserved
      rw [List.flatMap_nil, List.nil_append, handleClient_of_exit hserve]
      exact ⟨.nil, hbreak⟩
  | cons request frames ih =>
      obtain ⟨hsteps, hothersRange⟩ := hothers turn store hreach hrange
      have hcurrent := hreach.trans hsteps
      obtain ⟨reply, after, hreply, hreplies, hafter, hafterRange⟩ :=
        exists_reply server (wellFormed_steps hinitial hcurrent) hothersRange request.pdu
      have hserve := serveOne_frame request (frames.flatMap (·.wire) ++ tail) hreply
        hreplies.length_le
      obtain ⟨hwritten, hbreak⟩ := ih (turn + 1) (hcurrent.trans hafter) hafterRange
      rw [List.flatMap_cons, List.append_assoc, handleClient_of_frame hserve]
      exact ⟨.cons (repliesToFrame_wire hreplies) hwritten, hbreak⟩

/-- Any stream of whole frames and a tail is answered with one reply to each frame, in order, and
the loop ends by a `break`. -/
theorem handleClient_replies {holdingRegisters inputRegisters : List RegisterBlock}
    {coils discreteInputs : List BitBlock} {initial : MemoryDataStore}
    (hinit : MemoryDataStore.init holdingRegisters inputRegisters coils discreteInputs =
      .ok initial)
    (hreach : Relation.ReflTransGen ServerStep initial store) (hrange : store.InRange)
    (server : ModbusTcpServer)
    (hothers : ∀ turn current, Relation.ReflTransGen ServerStep initial current → current.InRange →
      Relation.ReflTransGen ServerStep current (others turn current) ∧
        (others turn current).InRange)
    (frames : List RequestFrame) {tail : Bytes} (htail : IsTail tail) :
    ∃ run, handleClient .empty server others 0 (frames.flatMap (·.wire) ++ tail) store = run ∧
      List.Forall₂ RepliesToFrame frames run.written ∧ run.loopExit.IsBreak :=
  ⟨_, rfl, handleClient_frames (MemoryDataStore.wellFormed_init hinit) hothers frames htail 0 hreach
    hrange⟩

/-- Two reads of a register, before the second of which somebody else writes it. -/
theorem handleClient_replies_two_reads :
    let others : Nat → MemoryDataStore → MemoryDataStore := fun turn current =>
      if turn = 1 then
        (Exec.runOn ((⟨.empty⟩ : ModbusTcpServer).handleRequest
          (.builtin (.writeSingleRegister ⟨0, 6, by decide, by decide⟩))) current).2
      else current
    ∃ store run, MemoryDataStore.init [⟨0, [5], false⟩] [] [] [] = .ok store ∧
      handleClient .empty ⟨.empty⟩ others 0
        ([0, 1, 0, 0, 0, 6, 9, 3, 0, 0, 0, 1] ++ [0, 2, 0, 0, 0, 6, 9, 3, 0, 0, 0, 1] ++
          [0, 3, 0, 0, 0, 0, 9]) store = run ∧
      run.written.length = 2 ∧ run.loopExit.IsBreak := by
  intro others
  let store : MemoryDataStore :=
    { holdingRegisters := DataArea.ofBlocks [⟨0, [5], false⟩]
      inputRegisters := DataArea.ofBlocks []
      coils := DataArea.ofBlocks [], discreteInputs := DataArea.ofBlocks [] }
  have hinit : MemoryDataStore.init [⟨0, [5], false⟩] [] [] [] = .ok store := rfl
  have hrange : store.InRange := by
    constructor <;> decide
  have hothers : ∀ turn current, Relation.ReflTransGen ServerStep store current → current.InRange →
      Relation.ReflTransGen ServerStep current (others turn current) ∧
        (others turn current).InRange := by
    intro turn current hreach hcurrent
    by_cases hturn : turn = 1
    · obtain ⟨response, after, hrun, hhandles⟩ := answered ⟨.empty⟩
        (wellFormed_steps (MemoryDataStore.wellFormed_init hinit) hreach)
        (.writeSingleRegister ⟨0, 6, by decide, by decide⟩)
      have hafter : others turn current = after := (if_pos hturn).trans (congrArg Prod.snd hrun)
      have hstep := ServerStep.request ⟨.empty⟩
        (.builtin (.writeSingleRegister ⟨0, 6, by decide, by decide⟩)) current
      rw [hrun] at hstep
      rw [hafter]
      exact ⟨.single hstep, hhandles.inRange hcurrent⟩
    · have hsame : others turn current = current := if_neg hturn
      rw [hsame]
      exact ⟨.refl, hcurrent⟩
  have htail : IsTail [0, 3, 0, 0, 0, 0, 9] := .inr ⟨⟨3, 0, 0, 9⟩, rfl, .inr (.inl rfl)⟩
  have hframe : ∀ transactionId, IsRegisterValue transactionId → ∃ request : RequestFrame,
      request.toModbusTCPFrame = ⟨transactionId, 9, [3, 0, 0, 0, 1], 0⟩ := fun transactionId h =>
    ⟨⟨_, ModbusTCPFrame.fits_header h (by decide) (by decide), rfl⟩, rfl⟩
  obtain ⟨first, hfirst⟩ := hframe 1 (by decide)
  obtain ⟨second, hsecond⟩ := hframe 2 (by decide)
  obtain ⟨run, hrun, hwritten, hbreak⟩ :=
    handleClient_replies hinit .refl hrange ⟨.empty⟩ hothers [first, second] htail
  rw [List.flatMap_cons, List.flatMap_singleton, hfirst, hsecond] at hrun
  exact ⟨_, run, hinit, hrun, hwritten.length_eq.symm, hbreak⟩

end ModbusTcpServer

end ClearModbus
