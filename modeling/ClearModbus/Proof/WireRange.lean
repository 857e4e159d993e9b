import ClearModbus.Proof.ServerReply

/-!
# Do stored registers fit the wire?

Every write to a register is checked for 16 bits, by the datastore, by the simulator and by the
requests, so a store that is in range stays in range, and its register reads can be encoded. The
constructors check the addresses of the blocks they are given and not the values, so this is as good
as the values a store starts with.
-/

namespace ClearModbus

/-- One step of a datastore in use: a request to some server, a setter of the datastore or of the
simulator, or a register block whose list is also the list of another one taking its values over. -/
inductive StoreStep : MemoryDataStore → MemoryDataStore → Prop where
  | request (server : ModbusTcpServer) (request : RequestPDU) (store : MemoryDataStore) :
      StoreStep store (Exec.runOn (server.handleRequest request) store).2
  | setHoldingRegisters (store : MemoryDataStore) (address : Int) (values : List PyObject) :
      StoreStep store (Exec.runOn (MemoryDataStore.setHoldingRegisters address values) store).2
  | setCoils (store : MemoryDataStore) (address : Int) (values : List PyObject) :
      StoreStep store (Exec.runOn (MemoryDataStore.setCoils address values) store).2
  | setInputRegisters (store : MemoryDataStore) (address : Int) (values : List PyObject) :
      StoreStep store (Exec.runOn (ModbusSimulator.setInputRegisters address values) store).2
  | setDiscreteInputs (store : MemoryDataStore) (address : Int) (values : List PyObject) :
      StoreStep store (Exec.runOn (ModbusSimulator.setDiscreteInputs address values) store).2
  | sharedHoldingRegisters {store : MemoryDataStore} {position : Nat} {block source : RegisterBlock}
      (hblock : store.holdingRegisters.blocks[position]? = some block)
      (hsource : source ∈ store.holdingRegisters.blocks ++ store.inputRegisters.blocks)
      (hlength : source.values.length = block.values.length) :
      StoreStep store { store with holdingRegisters := { store.holdingRegisters with
        blocks := store.holdingRegisters.blocks.set position
          { block with values := source.values } } }
  | sharedInputRegisters {store : MemoryDataStore} {position : Nat} {block source : RegisterBlock}
      (hblock : store.inputRegisters.blocks[position]? = some block)
      (hsource : source ∈ store.holdingRegisters.blocks ++ store.inputRegisters.blocks)
      (hlength : source.values.length = block.values.length) :
      StoreStep store { store with inputRegisters := { store.inputRegisters with
        blocks := store.inputRegisters.blocks.set position
          { block with values := source.values } } }

theorem StoreStep.serverStep {store after : MemoryDataStore} (h : StoreStep store after) :
    ServerStep store after := by
  cases h with
  | request server request => exact .request server request store
  | setHoldingRegisters _ address values => exact .write (.setHoldingRegisters store address values)
  | setCoils _ address values => exact .write (.setCoils store address values)
  | setInputRegisters _ address values => exact .write (.setInputRegisters store address values)
  | setDiscreteInputs _ address values => exact .write (.setDiscreteInputs store address values)
  | sharedHoldingRegisters hblock hsource hlength =>
      exact .write (.holdingRegisterBlock (.shared _ hblock hlength))
  | sharedInputRegisters hblock hsource hlength =>
      exact .write (.inputRegisterBlock (.shared _ hblock hlength))

theorem isRegisterValue_of_validateRegister {object : PyObject} {value : Int}
    (h : validateRegister object = .ok value) : IsRegisterValue value := by
  cases object with
  | int other =>
      rw [validateRegister] at h
      split at h
      · rename_i hrange
        cases h
        exact hrange
      · cases h
  | bool _ => cases h
  | other _ => cases h

theorem isRegisterValue_of_mapM {objects : List PyObject} {values : List Int}
    (h : objects.mapM validateRegister = .ok values) : ∀ value ∈ values, IsRegisterValue value := by
  induction objects generalizing values with
  | nil =>
      cases h
      exact fun value hmem => absurd hmem List.not_mem_nil
  | cons object objects ih =>
      rw [List.mapM_cons] at h
      obtain ⟨value, hvalue, h⟩ := Except.bind_eq_ok_iff.mp h
      obtain ⟨rest, hrest, h⟩ := Except.bind_eq_ok_iff.mp h
      cases h
      rw [List.forall_mem_cons]
      exact ⟨isRegisterValue_of_validateRegister hvalue, ih hrest⟩

namespace DataArea

theorem holds_setValues {area after : DataArea Int} (harea : area.Holds IsRegisterValue)
    {address : Int} {values : List PyObject}
    (h : area.setValues validateRegister address values = .ok after) :
    after.Holds IsRegisterValue := by
  obtain ⟨validated, hvalidated, hwrites⟩ := exists_writes_of_setValues h
  exact hwrites.holds harea (isRegisterValue_of_mapM hvalidated)

theorem holds_set_values {p : Int → Prop} {area : DataArea Int} (harea : area.Holds p)
    (position : Nat) (block : RegisterBlock) {values : List Int}
    (hvalues : ∀ value ∈ values, p value) :
    Holds p { area with blocks := area.blocks.set position { block with values := values } } := by
  intro other hother
  rcases List.mem_or_eq_of_mem_set hother with hmem | rfl
  · exact harea other hmem
  · exact hvalues

end DataArea

namespace MemoryDataStore

variable {store after : MemoryDataStore}

theorem InRange.of_mem_blocks (hstore : store.InRange) {source : RegisterBlock}
    (hsource : source ∈ store.holdingRegisters.blocks ++ store.inputRegisters.blocks) :
    ∀ value ∈ source.values, IsRegisterValue value := by
  rcases List.mem_append.mp hsource with hmem | hmem
  · exact hstore.holdingRegisters source hmem
  · exact hstore.inputRegisters source hmem

theorem inRange_step (hwell : store.WellFormed) (hstore : store.InRange)
    (h : StoreStep store after) : after.InRange := by
  cases h with
  | request server request =>
      cases request with
      | builtin request =>
          obtain ⟨response, after, hrun, hhandles⟩ := server.answered hwell request
          rw [hrun]
          exact hhandles.inRange hstore
      | custom request => exact hstore
  | setHoldingRegisters _ address values =>
      rw [runOn_setHoldingRegisters]
      refine Exec.replaced_invariant hstore fun next hnext => ?_
      obtain ⟨area, hset, rfl⟩ := Except.map_eq_ok_iff.mp hnext
      exact { hstore with
        holdingRegisters := DataArea.holds_setValues hstore.holdingRegisters hset }
  | setCoils _ address values =>
      rw [runOn_setCoils]
      refine Exec.replaced_invariant hstore fun next hnext => ?_
      obtain ⟨area, hset, rfl⟩ := Except.map_eq_ok_iff.mp hnext
      exact { hstore with }
  | setInputRegisters _ address values =>
      rw [runOn_setInputRegisters]
      refine Exec.replaced_invariant hstore fun next hnext => ?_
      obtain ⟨area, hset, rfl⟩ := Except.map_eq_ok_iff.mp hnext
      exact { hstore with
        inputRegisters := DataArea.holds_setValues hstore.inputRegisters hset }
  | setDiscreteInputs _ address values =>
      rw [runOn_setDiscreteInputs]
      refine Exec.replaced_invariant hstore fun next hnext => ?_
      obtain ⟨area, hset, rfl⟩ := Except.map_eq_ok_iff.mp hnext
      exact { hstore with }
  | sharedHoldingRegisters hblock hsource hlength =>
      exact { hstore with
        holdingRegisters := DataArea.holds_set_values hstore.holdingRegisters _ _
          (hstore.of_mem_blocks hsource) }
  | sharedInputRegisters hblock hsource hlength =>
      exact { hstore with
        inputRegisters := DataArea.holds_set_values hstore.inputRegisters _ _
          (hstore.of_mem_blocks hsource) }

theorem inRange_steps (hwell : store.WellFormed) (hstore : store.InRange)
    (h : Relation.ReflTransGen StoreStep store after) : after.WellFormed ∧ after.InRange := by
  induction h with
  | refl => exact ⟨hwell, hstore⟩
  | tail _ hstep ih =>
      exact ⟨ModbusTcpServer.wellFormed_step ih.1 hstep.serverStep, inRange_step ih.1 ih.2 hstep⟩

end MemoryDataStore

def BuiltinRequest.ReadsRegisters : BuiltinRequest → Prop
  | .readHoldingRegisters _ => True
  | .readInputRegisters _ => True
  | .readWriteMultipleRegisters _ => True
  | _ => False

namespace MemoryDataStore

variable {store after : MemoryDataStore}

structure FitsWire (store : MemoryDataStore) : Prop where
  inRange : store.InRange
  encodes : ∀ (server : ModbusTcpServer) (request : BuiltinRequest), request.ReadsRegisters →
    ∃ response after, Exec.runOn (server.handleRequest (.builtin request)) store =
        (.ok response, after) ∧
      ((∃ exception, response = .exception exception) ∨
        ∃ read data, response = .readRegisters read ∧ read.encode = .ok data)

theorem InRange.fitsWire (hwell : store.WellFormed) (hstore : store.InRange) : store.FitsWire := by
  refine ⟨hstore, fun server request hreads => ?_⟩
  obtain ⟨response, after, hrun, hhandles⟩ := server.answered hwell request
  refine ⟨response, after, hrun, ?_⟩
  have hencode := (hhandles.answers hstore).encode_eq
  cases hhandles with
  | rejected request h => exact .inl ⟨_, rfl⟩
  | readHoldingRegisters request values h => exact .inr ⟨_, _, rfl, hencode⟩
  | readInputRegisters request values h => exact .inr ⟨_, _, rfl, hencode⟩
  | readWriteMultipleRegisters request area values hwrite hread => exact .inr ⟨_, _, rfl, hencode⟩
  | _ => exact hreads.elim

theorem holds_ofBlocks_iff {p : Int → Prop} (blocks : List RegisterBlock) :
    (DataArea.ofBlocks blocks).Holds p ↔ ∀ block ∈ blocks, ∀ value ∈ block.values, p value := by
  have hperm : (DataArea.sortBlocks blocks).Perm blocks := List.perm_insertionSort _ blocks
  constructor
  · intro h block hmem
    exact h block (hperm.mem_iff.mpr hmem)
  · intro h block hmem
    exact h block (hperm.mem_iff.mp hmem)

/-- The areas of a new store hold the blocks they were built from. -/
theorem inRange_init_iff {holdingRegisters inputRegisters : List RegisterBlock}
    {coils discreteInputs : List BitBlock}
    (h : init holdingRegisters inputRegisters coils discreteInputs = .ok store) :
    store.InRange ↔ ∀ block ∈ holdingRegisters ++ inputRegisters, ∀ value ∈ block.values,
      IsRegisterValue value := by
  simp only [init, Except.bind_eq_ok_iff] at h
  obtain ⟨_, -, _, -, _, -, _, -, h⟩ := h
  cases h
  rw [List.forall_mem_append, ← holds_ofBlocks_iff, ← holds_ofBlocks_iff]
  constructor
  · intro hstore
    exact ⟨hstore.holdingRegisters, hstore.inputRegisters⟩
  · intro hblocks
    exact ⟨hblocks.1, hblocks.2⟩

/-- In every state reached from a new store the registers fit the wire exactly when the values it
was built with do. -/
theorem fitsWire_iff {holdingRegisters inputRegisters : List RegisterBlock}
    {coils discreteInputs : List BitBlock}
    (h : init holdingRegisters inputRegisters coils discreteInputs = .ok store) :
    (∀ after, Relation.ReflTransGen StoreStep store after → after.FitsWire) ↔
      ∀ block ∈ holdingRegisters ++ inputRegisters, ∀ value ∈ block.values,
        IsRegisterValue value := by
  rw [← inRange_init_iff h]
  constructor
  · intro hall
    exact (hall store .refl).inRange
  · intro hstore after hrun
    obtain ⟨hwell, hrange⟩ := inRange_steps (wellFormed_init h) hstore hrun
    exact hrange.fitsWire hwell

/-- **Registers fit the wire** in every state reached from a store, built from blocks or from a
profile, exactly when every register value it was built with is one of 16 bits. -/
theorem registers_fit_wire_iff (holdingRegisters inputRegisters : List RegisterBlock)
    (coils discreteInputs : List BitBlock) (profile : SimulatorProfile) (store : MemoryDataStore) :
    (init holdingRegisters inputRegisters coils discreteInputs = .ok store →
      ((∀ after, Relation.ReflTransGen StoreStep store after → after.FitsWire) ↔
        ∀ block ∈ holdingRegisters ++ inputRegisters, ∀ value ∈ block.values,
          IsRegisterValue value)) ∧
    (profile.toDatastore = .ok store →
      ((∀ after, Relation.ReflTransGen StoreStep store after → after.FitsWire) ↔
        ∀ range ∈ profile.holdingRegisters ++ profile.inputRegisters, ∀ value ∈ range.values,
          IsRegisterValue value)) := by
  constructor
  · exact fitsWire_iff
  · intro h
    rw [fitsWire_iff h, ← List.map_append, List.forall_mem_map]
    rfl

theorem registers_fit_wire_iff_two_values :
    ∃ store, SimulatorProfile.toDatastore ⟨[⟨0, [7, 65535], false⟩], [], [], []⟩ = .ok store ∧
      ∀ after, Relation.ReflTransGen StoreStep store after → after.FitsWire := by
  obtain ⟨store, hstore⟩ : ∃ store, SimulatorProfile.toDatastore
      ⟨[⟨0, [7, 65535], false⟩], [], [], []⟩ = .ok store := ⟨_, rfl⟩
  exact ⟨store, hstore,
    ((registers_fit_wire_iff [] [] [] [] _ store).2 hstore).mpr (by decide)⟩

/-- The constructors accept `70000`, and the read of it raises out of the connection loop. -/
theorem not_fitsWire_seventy_thousand :
    ∃ store, init [⟨0, [70000], false⟩] [] [] [] = .ok store ∧
      ¬(∀ after, Relation.ReflTransGen StoreStep store after → after.FitsWire) ∧
      (Exec.runOn (ModbusTcpServer.replyPdu .empty ⟨.empty⟩ [0x03, 0, 0, 0, 1]) store).1 =
        .error .structError := by
  have hinit : init [⟨0, [70000], false⟩] [] [] [] = .ok _ := rfl
  refine ⟨_, hinit, ?_, ?_⟩
  · intro hall
    have hrange := (hall _ .refl).inRange.holdingRegisters
    revert hrange
    decide
  · obtain ⟨response, after, hrun, hhandles⟩ := ModbusTcpServer.answered ⟨.empty⟩
      (wellFormed_init hinit) (.readHoldingRegisters ⟨0, 1, by decide, by decide⟩)
    have hresponse : response = .readRegisters ⟨0x03, [70000]⟩ := by
      cases hhandles with
      | rejected request h =>
          exact absurd (h ⟨0, [70000], false⟩ (List.mem_singleton.mpr rfl)) (by decide)
      | readHoldingRegisters request values h =>
          obtain ⟨block, hmem, -, rfl⟩ := h
          obtain rfl := List.mem_singleton.mp hmem
          rfl
    have hdecode : decodeRequestPdu .empty [0x03, 0, 0, 0, 1] =
        .ok (.builtin (.readHoldingRegisters ⟨0, 1, by decide, by decide⟩)) := rfl
    rw [ModbusTcpServer.replyPdu, Exec.runOn_tryCatch, hdecode, Exec.runOn_liftM_bind]
    dsimp only
    rw [Exec.runOn_bind_ok hrun, hresponse]
    rfl

end MemoryDataStore

end ClearModbus
