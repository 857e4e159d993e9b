import ClearModbus.Lib.Transition
import ClearModbus.Proof.Handler

/-!
# A handler and the segments of its stream

TCP cuts a stream into segments as it likes, and a handler is suspended and resumed as they arrive.
What it writes, where it stops and what it leaves unread are those of the loop on the whole stream,
with the datastore that each of its turns found.
-/

namespace ClearModbus

open ModbusTcpServer

variable {registry : CustomFunctionCodeRegistry} {server : ModbusTcpServer}
  {store after : MemoryDataStore}

namespace ModbusTcpServer

theorem serveOne_of_short {stream : Bytes} (h : stream.length < 7) :
    serveOne registry server stream store = .inl (.noHeader, [], store) := by
  rw [serveOne, readExactly_of_short h]

theorem serveOne_of_badHeader {stream : Bytes} {error : PyError} {loopExit : LoopExit}
    (hseven : 7 ≤ stream.length) (hdecode : decodeHeader (stream.take 7) = .error error)
    (hexit : ClientHandler.ofHeader (.error error) = .exited loopExit) :
    serveOne registry server stream store = .inl (loopExit, stream.drop 7, store) := by
  rw [serveOne, readExactly_of_le hseven]
  dsimp only
  rw [hdecode]
  cases error <;> cases hexit <;> rfl

theorem readExactly_header {header : MBAPHeader} (stream : Bytes) :
    readExactly (header.wire ++ stream) 7 = .ok (header.wire, stream) :=
  readExactly_append header.wire stream

theorem serveOne_of_noBody {header : MBAPHeader} {stream : Bytes}
    (hheader : decodeHeader header.wire = .ok header)
    (hshort : stream.length < (header.length - 1).toNat) :
    serveOne registry server (header.wire ++ stream) store = .inl (.noBody, [], store) := by
  rw [serveOne, readExactly_header]
  dsimp only
  rw [hheader]
  dsimp only
  rw [readExactly_of_short hshort]

def answerTurn (rest : Bytes) (after : MemoryDataStore) : Except LoopExit ModbusTCPFrame →
    LoopExit × Bytes × MemoryDataStore ⊕ Bytes × Bytes × MemoryDataStore
  | .error loopExit => .inl (loopExit, rest, after)
  | .ok frame => .inr (frame.wire, rest, after)

/-- Once a header is accepted and its PDU is there, the turn is that of `answer`. -/
theorem serveOne_of_answer {header : MBAPHeader} {incoming : Bytes} (rest : Bytes)
    {outcome : Except LoopExit ModbusTCPFrame} (hheader : decodeHeader header.wire = .ok header)
    (hbody : (header.length - 1).toNat ≤ incoming.length)
    (hanswer : ClientHandler.answer registry server header
      (incoming.take (header.length - 1).toNat) store = (outcome, after)) :
    serveOne registry server (header.wire ++ incoming ++ rest) store =
      answerTurn (incoming.drop (header.length - 1).toNat ++ rest) after outcome := by
  have hread : readExactly (incoming ++ rest) (header.length - 1).toNat =
      .ok (incoming.take (header.length - 1).toNat,
        incoming.drop (header.length - 1).toNat ++ rest) := by
    rw [readExactly_of_le (by rw [List.length_append]; omega),
      List.take_append_of_le_length hbody, List.drop_append_of_le_length hbody]
  rw [List.append_assoc, serveOne, readExactly_header]
  dsimp only
  rw [hheader]
  dsimp only
  rw [hread]
  dsimp only
  rw [ClientHandler.answer] at hanswer
  cases hreply : Exec.runOn
      (server.replyPdu registry (incoming.take (header.length - 1).toNat)) store with
  | mk reply final =>
      rw [hreply] at hanswer
      cases reply with
      | error error =>
          cases hanswer
          rfl
      | ok reply =>
          obtain ⟨frame, hframe⟩ : ∃ frame : ModbusTCPFrame, frame =
              ⟨header.transactionId, header.unitId, reply, header.protocolId⟩ := ⟨_, rfl⟩
          dsimp only at hanswer ⊢
          rw [← hframe] at hanswer ⊢
          cases hencode : frame.encode with
          | error error =>
              rw [hencode] at hanswer
              cases hanswer
              rfl
          | ok data =>
              rw [hencode] at hanswer
              cases hanswer
              rw [ModbusTCPFrame.encode_eq (ModbusTCPFrame.fits_of_encode hencode)] at hencode
              rw [← Except.ok.inj hencode]
              rfl

end ModbusTcpServer

namespace HandlerRun

variable {start : MemoryDataStore} {run next : HandlerRun}
  {others : Nat → MemoryDataStore → MemoryDataStore}

def unserved (run : HandlerRun) : Bytes :=
  match run.handler.progress with
  | .awaitingBody header => header.wire ++ run.handler.incoming
  | _ => run.handler.incoming

def written (run : HandlerRun) : List Bytes := run.replies.map fun reply => reply.2.wire

/-- `others` hands every finished turn the datastore it found. -/
def Finds (run : HandlerRun) (others : Nat → MemoryDataStore → MemoryDataStore) : Prop :=
  ∀ turn current, run.found[turn]? = some current → ∀ before, others turn before = current

def CanFollow (run : HandlerRun) (rest : Bytes) : Prop := run.handler.atEof = true → rest = []

/-- The loop on a whole stream comes, after the finished turns, to where the handler is. -/
structure Follows (registry : CustomFunctionCodeRegistry) (server : ModbusTcpServer)
    (start : MemoryDataStore) (run : HandlerRun) : Prop where
  sound : run.handler.Sound
  suspended : (∀ loopExit, run.handler.progress ≠ .exited loopExit) →
    ∀ others rest, run.Finds others → run.CanFollow rest →
      handleClient registry server others 0 (run.received ++ rest) start =
        { handleClient registry server others run.found.length (run.unserved ++ rest) run.left with
          written := run.written ++ (handleClient registry server others run.found.length
            (run.unserved ++ rest) run.left).written }
  exited : ∀ loopExit, run.handler.progress = .exited loopExit →
    ∀ others rest, run.Finds others → run.CanFollow rest →
      handleClient registry server others 0 (run.received ++ rest) start =
        ⟨run.written, loopExit, run.handler.incoming ++ rest, run.left⟩

theorem follows_start (registry : CustomFunctionCodeRegistry) (server : ModbusTcpServer)
    (store : MemoryDataStore) : (HandlerRun.start store).Follows registry server store := by
  refine ⟨?_, ?_, ?_⟩
  · exact fun _ hprogress => HandlerProgress.noConfusion hprogress
  · exact fun _ _ _ _ _ => rfl
  · exact fun _ hprogress => HandlerProgress.noConfusion hprogress

/-- A turn that is added is handed the datastore of the run. -/
theorem Finds.of_append {found : List MemoryDataStore} {current : MemoryDataStore}
    (hfound : next.found = found ++ [current]) (h : next.Finds others) :
    (∀ turn earlier, found[turn]? = some earlier → ∀ before, others turn before = earlier) ∧
      ∀ before, others found.length before = current := by
  refine ⟨fun turn earlier hturn => ?_, fun before => ?_⟩
  · apply h turn earlier
    rw [hfound, List.getElem?_append_left (List.getElem?_eq_some_iff.mp hturn).1, hturn]
  · apply h found.length current
    rw [hfound, List.getElem?_concat_length]

theorem Follows.exit (hfollows : run.Follows registry server start)
    (hopen : ∀ loopExit, run.handler.progress ≠ .exited loopExit) {loopExit : LoopExit}
    {incoming : Bytes}
    (hserve : ∀ rest, run.CanFollow rest →
      serveOne registry server (run.unserved ++ rest) run.store =
        .inl (loopExit, incoming ++ rest, after)) :
    (run.finish none { run.handler with incoming, progress := .exited loopExit } after).Follows
      registry server start := by
  refine ⟨?_, ?_, ?_⟩
  · exact fun _ hprogress => HandlerProgress.noConfusion hprogress
  · exact fun hsuspended => absurd rfl (hsuspended loopExit)
  · intro found hprogress others rest hfinds hrest
    cases hprogress
    obtain ⟨hbefore, hcurrent⟩ := Finds.of_append rfl hfinds
    have hloop := hfollows.suspended hopen others rest hbefore hrest
    have hturn := hserve rest hrest
    rw [← hcurrent run.left] at hturn
    rw [handleClient_of_exit hturn, List.append_nil] at hloop
    exact hloop

theorem Follows.reply (hfollows : run.Follows registry server start)
    (hopen : ∀ loopExit, run.handler.progress ≠ .exited loopExit) {reply : ClientHandler.Reply}
    {incoming : Bytes}
    (hserve : ∀ rest, serveOne registry server (run.unserved ++ rest) run.store =
      .inr (reply.2.wire, incoming ++ rest, after)) :
    (run.finish (some reply) { run.handler with incoming, progress := .draining } after).Follows
      registry server start := by
  refine ⟨?_, ?_, ?_⟩
  · exact fun _ hprogress => HandlerProgress.noConfusion hprogress
  · intro _ others rest hfinds hrest
    obtain ⟨hbefore, hcurrent⟩ := Finds.of_append rfl hfinds
    have hloop := hfollows.suspended hopen others rest hbefore hrest
    have hturn := hserve rest
    rw [← hcurrent run.left] at hturn
    rw [handleClient_of_frame hturn] at hloop
    have hwritten : (run.finish (some reply) { run.handler with incoming, progress := .draining }
        after).written = run.written ++ [reply.2.wire] := List.map_append
    have hlength : (run.finish (some reply) { run.handler with incoming, progress := .draining }
        after).found.length = run.found.length + 1 := List.length_append
    rw [hwritten, hlength, List.append_assoc]
    exact hloop
  · exact fun _ hprogress => HandlerProgress.noConfusion hprogress

theorem Follows.suspend (hfollows : run.Follows registry server start)
    (hopen : ∀ loopExit, run.handler.progress ≠ .exited loopExit) {handler : ClientHandler}
    (hatEof : handler.atEof = run.handler.atEof)
    (hnext : ∀ loopExit, handler.progress ≠ .exited loopExit)
    (hsound : handler.Sound)
    (hunserved : ({ run with handler } : HandlerRun).unserved = run.unserved) :
    ({ run with handler } : HandlerRun).Follows registry server start := by
  refine ⟨hsound, ?_, fun loopExit hprogress => absurd hprogress (hnext loopExit)⟩
  intro _ others rest hfinds hrest
  rw [hunserved]
  exact hfollows.suspended hopen others rest hfinds fun heof => hrest (hatEof.trans heof)

theorem follows_resume (hfollows : run.Follows registry server start)
    {reply : Option ClientHandler.Reply} {handler : ClientHandler}
    (h : run.handler.resume registry server run.store = some (reply, handler, after)) :
    (run.finish reply handler after).Follows registry server start := by
  have hheaderUnserved : run.handler.progress = .awaitingHeader →
      run.unserved = run.handler.incoming := fun hprogress => by rw [unserved, hprogress]
  have hbodyUnserved : ∀ header, run.handler.progress = .awaitingBody header →
      run.unserved = header.wire ++ run.handler.incoming := fun header hprogress => by
    rw [unserved, hprogress]
  have hopen : ∀ progress, run.handler.progress = progress →
      (∀ loopExit, progress ≠ .exited loopExit) →
        ∀ loopExit, run.handler.progress ≠ .exited loopExit := by
    rintro progress rfl hprogress
    exact hprogress
  cases ClientHandler.resumed_of_resume h with
  | noHeader hprogress hshort hatEof =>
      refine hfollows.exit (hopen _ hprogress fun _ => HandlerProgress.noConfusion) ?_
      intro rest hrest
      rw [hrest hatEof, hheaderUnserved hprogress, List.append_nil, serveOne_of_short hshort]
      rfl
  | @badHeader error loopExit hprogress hseven hdecode hexit =>
      refine hfollows.exit (hopen _ hprogress fun _ => HandlerProgress.noConfusion) ?_
      intro rest hrest
      have hlength : 7 ≤ (run.handler.incoming ++ rest).length := by
        rw [List.length_append]
        omega
      have htake : decodeHeader ((run.handler.incoming ++ rest).take 7) = .error error := by
        rw [List.take_append_of_le_length hseven]
        exact hdecode
      rw [hheaderUnserved hprogress, serveOne_of_badHeader hlength htake hexit,
        List.drop_append_of_le_length hseven]
  | @header header hprogress hseven hdecode =>
      obtain ⟨-, -, hwire⟩ := decodeHeader_eq_ok hdecode
      refine hfollows.suspend (hopen _ hprogress fun _ => HandlerProgress.noConfusion) rfl
        (fun _ => HandlerProgress.noConfusion) ?_ ?_
      · intro found hfound
        cases hfound
        rw [hwire, hdecode]
      · rw [hheaderUnserved hprogress, unserved]
        dsimp only
        rw [hwire, List.take_append_drop]
  | noBody hprogress hshort hatEof =>
      refine hfollows.exit (hopen _ hprogress fun _ => HandlerProgress.noConfusion) ?_
      intro rest hrest
      rw [hrest hatEof, hbodyUnserved _ hprogress, List.append_nil,
        serveOne_of_noBody (hfollows.sound _ hprogress) hshort]
      rfl
  | @raised header loopExit _ hprogress hbody hanswer =>
      refine hfollows.exit (hopen _ hprogress fun _ => HandlerProgress.noConfusion) ?_
      intro rest _
      rw [hbodyUnserved _ hprogress]
      exact serveOne_of_answer rest (hfollows.sound _ hprogress) hbody hanswer
  | @replied header frame _ hprogress hbody hanswer =>
      refine hfollows.reply (hopen _ hprogress fun _ => HandlerProgress.noConfusion) ?_
      intro rest
      rw [hbodyUnserved _ hprogress]
      exact serveOne_of_answer rest (hfollows.sound _ hprogress) hbody hanswer
  | drained hprogress =>
      refine hfollows.suspend (hopen _ hprogress fun _ => HandlerProgress.noConfusion) rfl
        (fun _ => HandlerProgress.noConfusion) ?_ ?_
      · exact fun _ hfound => HandlerProgress.noConfusion hfound
      · rw [unserved, unserved, hprogress]

theorem follows_step {action : HandlerAction} (hfollows : run.Follows registry server start)
    (h : run.step registry server action = some next) : next.Follows registry server start := by
  cases action with
  | arrive data =>
      rw [step] at h
      split at h
      · cases h
      · rename_i hopenStream
        cases h
        refine ⟨hfollows.sound, ?_, ?_⟩
        · intro hopen others rest hfinds _
          have hloop := hfollows.suspended hopen others (data ++ rest) hfinds
            fun heof => absurd heof hopenStream
          have hunserved : ({ run with
              handler := { run.handler with incoming := run.handler.incoming ++ data }
              received := run.received ++ data } : HandlerRun).unserved ++ rest =
                run.unserved ++ (data ++ rest) := by
            rw [unserved, unserved]
            dsimp only
            split <;> simp only [List.append_assoc]
          rw [hunserved, List.append_assoc]
          exact hloop
        · intro loopExit hprogress others rest hfinds _
          rw [List.append_assoc, List.append_assoc]
          exact hfollows.exited loopExit hprogress others (data ++ rest) hfinds
            fun heof => absurd heof hopenStream
  | eof =>
      cases h
      refine ⟨hfollows.sound, ?_, ?_⟩
      · exact fun hopen others rest hfinds hrest =>
          hfollows.suspended hopen others rest hfinds fun _ => hrest rfl
      · exact fun loopExit hprogress others rest hfinds hrest =>
          hfollows.exited loopExit hprogress others rest hfinds fun _ => hrest rfl
  | resume =>
      obtain ⟨⟨reply, handler, after⟩, hresume, rfl⟩ := Option.map_eq_some_iff.mp h
      exact follows_resume hfollows hresume
  | others store =>
      cases h
      exact ⟨hfollows.sound, hfollows.suspended, hfollows.exited⟩

theorem follows_of_reaches (h : Transition.Reaches (step registry server) (fun _ _ => True)
    (HandlerRun.start store) run) : run.Follows registry server store :=
  h.invariant (p := fun run => run.Follows registry server store)
    (follows_start registry server store) fun _ _ _ hfollows _ hstep => follows_step hfollows hstep

def fuel (handler : ClientHandler) : Nat :=
  2 * handler.incoming.length + match handler.progress with
    | .awaitingHeader => 1
    | .awaitingBody _ => 3
    | .draining => 2
    | .exited _ => 0

theorem fuel_lt {handler next : ClientHandler} {reply : Option ClientHandler.Reply}
    (h : handler.resume registry server store = some (reply, next, after)) :
    fuel next < fuel handler := by
  cases ClientHandler.resumed_of_resume h with
  | noHeader hprogress hshort hatEof =>
      rw [fuel, fuel, hprogress, List.length_nil]
      dsimp only
      omega
  | badHeader hprogress hseven hdecode hexit =>
      rw [fuel, fuel, hprogress, List.length_drop]
      dsimp only
      omega
  | header hprogress hseven hdecode =>
      rw [fuel, fuel, hprogress, List.length_drop]
      dsimp only
      omega
  | noBody hprogress hshort hatEof =>
      rw [fuel, fuel, hprogress, List.length_nil]
      dsimp only
      omega
  | raised hprogress hbody hanswer =>
      rw [fuel, fuel, hprogress, List.length_drop]
      dsimp only
      omega
  | replied hprogress hbody hanswer =>
      rw [fuel, fuel, hprogress, List.length_drop]
      dsimp only
      omega
  | drained hprogress =>
      rw [fuel, fuel, hprogress]
      dsimp only
      omega

theorem atEof_of_resume {handler next : ClientHandler} {reply : Option ClientHandler.Reply}
    (h : handler.resume registry server store = some (reply, next, after)) :
    next.atEof = handler.atEof := by
  cases ClientHandler.resumed_of_resume h <;> rfl

theorem handler_finish (run : HandlerRun) (reply : Option ClientHandler.Reply)
    (handler : ClientHandler) (store : MemoryDataStore) :
    (run.finish reply handler store).handler = handler := by
  rw [finish.eq_def]
  split <;> rfl

/-- At the end of its stream a handler does not wait. -/
theorem exists_resume (registry : CustomFunctionCodeRegistry) (server : ModbusTcpServer)
    {handler : ClientHandler} (hatEof : handler.atEof = true)
    (hopen : ∀ loopExit, handler.progress ≠ .exited loopExit) (store : MemoryDataStore) :
    ∃ reply next after, handler.resume registry server store = some (reply, next, after) := by
  have hread : ∀ size, handler.readExactly size =
      some (ModbusTcpServer.readExactly handler.incoming size) := fun size =>
    if_neg fun hwaits => hwaits.2 hatEof
  cases hprogress : handler.progress with
  | awaitingHeader =>
      rw [ClientHandler.resume, hprogress]
      dsimp only
      rw [hread]
      exact ⟨_, _, _, rfl⟩
  | awaitingBody header =>
      rw [ClientHandler.resume, hprogress]
      dsimp only
      rw [hread]
      exact ⟨_, _, _, rfl⟩
  | draining =>
      rw [ClientHandler.resume, hprogress]
      exact ⟨_, _, _, rfl⟩
  | exited loopExit => exact absurd hprogress (hopen loopExit)

/-- Turns of the handler alone, from the end of its stream to the end of its loop. -/
theorem exists_exited (hatEof : run.handler.atEof = true) :
    ∃ final loopExit, Transition.Reaches (step registry server) (fun _ action => action = .resume)
      run final ∧ final.handler.progress = .exited loopExit := by
  induction hfuel : fuel run.handler using Nat.strong_induction_on generalizing run with
  | _ size ih =>
      by_cases hexited : ∃ loopExit, run.handler.progress = .exited loopExit
      · obtain ⟨loopExit, hexited⟩ := hexited
        exact ⟨run, loopExit, .refl, hexited⟩
      · obtain ⟨reply, handler, after, hresume⟩ := exists_resume registry server hatEof
          (not_exists.mp hexited) run.store
        have hstep : run.step registry server .resume = some (run.finish reply handler after) := by
          rw [step, hresume]
          rfl
        have hhandler := handler_finish run reply handler after
        have hlt : fuel (run.finish reply handler after).handler < size := by
          rw [hhandler, ← hfuel]
          exact fuel_lt hresume
        have hatEofNext : (run.finish reply handler after).handler.atEof = true := by
          rw [hhandler, atEof_of_resume hresume, hatEof]
        obtain ⟨final, loopExit, hreach, hexited⟩ := ih _ hlt hatEofNext rfl
        have hfirst : Transition.Reaches (step registry server) (fun _ action => action = .resume)
            run (run.finish reply handler after) := .tail .resume .refl rfl hstep
        exact ⟨final, loopExit, hfirst.trans hreach, hexited⟩

/-- **Segments do not matter.** What a handler has written is what the loop writes first on any
stream that goes on from the bytes it has received; where it stops, it has written, left unread and
stored what the loop on its whole stream does; and at the end of its stream it does stop. -/
theorem handleClient_of_handler (registry : CustomFunctionCodeRegistry) (server : ModbusTcpServer)
    (store : MemoryDataStore) (run : HandlerRun)
    (h : Transition.Reaches (step registry server) (fun _ _ => True) (HandlerRun.start store) run) :
    (∀ others rest, run.Finds others → run.CanFollow rest →
      run.written <+:
        (handleClient registry server others 0 (run.received ++ rest) store).written) ∧
    (∀ loopExit, run.handler.progress = .exited loopExit → ∀ others, run.Finds others →
      handleClient registry server others 0 run.received store =
        ⟨run.written, loopExit, run.handler.incoming, run.left⟩) ∧
    (run.handler.atEof = true → ∃ final loopExit,
      Transition.Reaches (step registry server) (fun _ action => action = .resume) run final ∧
        final.handler.progress = .exited loopExit) := by
  have hfollows := follows_of_reaches h
  refine ⟨?_, ?_, exists_exited⟩
  · intro others rest hfinds hrest
    by_cases hexited : ∃ loopExit, run.handler.progress = .exited loopExit
    · obtain ⟨loopExit, hexited⟩ := hexited
      rw [hfollows.exited loopExit hexited others rest hfinds hrest]
    · rw [hfollows.suspended (not_exists.mp hexited) others rest hfinds hrest]
      exact List.prefix_append _ _
  · intro loopExit hexited others hfinds
    have hloop := hfollows.exited loopExit hexited others [] hfinds fun _ => rfl
    rw [List.append_nil, List.append_nil] at hloop
    exact hloop

def oneRegister (value : Int) : MemoryDataStore where
  holdingRegisters := .ofBlocks [⟨0, [value], false⟩]
  inputRegisters := .ofBlocks []
  coils := .ofBlocks []
  discreteInputs := .ofBlocks []

/-- A read of the register in three segments; someone else writes it before the last one comes. -/
theorem handleClient_of_handler_three_segments :
    handleClient .empty ⟨.empty⟩ (fun _ _ => oneRegister 6) 0 [0, 1, 0, 0, 0, 6, 9, 3, 0, 0, 0, 1]
      (oneRegister 5) = ⟨[[0, 1, 0, 0, 0, 5, 9, 3, 2, 0, 6]], .noHeader, [], oneRegister 6⟩ := by
  have hrun : ∃ run ∈ Transition.run (step .empty ⟨.empty⟩) (fun _ _ => True)
      (HandlerRun.start (oneRegister 5))
      [.arrive [0, 1, 0], .arrive [0, 0, 6, 9, 3], .resume, .others (oneRegister 6),
        .arrive [0, 0, 0, 1], .resume, .resume, .eof, .resume],
      run.handler.progress = .exited .noHeader ∧
        run.received = [0, 1, 0, 0, 0, 6, 9, 3, 0, 0, 0, 1] ∧
        run.written = [[0, 1, 0, 0, 0, 5, 9, 3, 2, 0, 6]] ∧
        run.found = [oneRegister 6, oneRegister 6] ∧ run.handler.incoming = [] ∧
        run.left = oneRegister 6 := by
    decide +kernel
  obtain ⟨run, hrun, hexited, hreceived, hwritten, hfound, hincoming, hleft⟩ := hrun
  have hreach := Transition.reaches_of_run .refl hrun
  have hfinds : run.Finds fun _ _ => oneRegister 6 := by
    intro turn current hturn before
    have hmem := List.mem_of_getElem? hturn
    rw [hfound] at hmem
    exact (List.eq_of_mem_replicate (n := 2) hmem).symm
  have hloop := (handleClient_of_handler .empty ⟨.empty⟩ (oneRegister 5) run hreach).2.1 _ hexited _
    hfinds
  rwa [hreceived, hwritten, hincoming, hleft] at hloop

end HandlerRun

end ClearModbus
