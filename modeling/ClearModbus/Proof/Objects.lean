import ClearModbus.Application
import ClearModbus.Proof.Datastores
import ClearModbus.Proof.Dispatch

/-!
# Every simulator has its lists for itself

The lists of the blocks of all simulators are distinct, and no other list is one of them. So what is
done to one simulator, and whatever becomes of the lists that profiles were built from and of those
that reads returned, no other simulator sees it: each of them answers as a datastore of values does.
-/

namespace ClearModbus

variable {α : Type} {heap after : Heap α}

namespace AreaObject

variable {area : AreaObject}

@[simp]
theorem load_blocks (heap : Heap α) (area : AreaObject) :
    (area.load heap).blocks = area.blocks.map (BlockObject.load heap) := rfl

@[simp]
theorem load_indexedBlocks (heap : Heap α) (area : AreaObject) :
    (area.load heap).indexedBlocks = area.indexedBlocks := rfl

@[simp]
theorem load_starts (heap : Heap α) (area : AreaObject) :
    (area.load heap).starts = area.starts := rfl

theorem findBlock_eq (heap : Heap α) (area : AreaObject) (address count : Int) :
    area.findBlock heap address count =
      (area.load heap).findBlock address count >>= fun position =>
        getItem area.blocks position := by
  rw [findBlock, DataArea.findBlock, load_starts, load_indexedBlocks, load_blocks]
  by_cases hindex : (Bisect.right area.starts address : Int) - 1 ≥ 0
  · rw [if_pos hindex, if_pos hindex]
    cases getItem area.indexedBlocks (Bisect.right area.starts address - 1) with
    | error error => rfl
    | ok position =>
        rw [Except.ok_bind, Except.ok_bind, getItem_map]
        cases hblock : getItem area.blocks (position : Int) with
        | error error => rfl
        | ok block =>
            by_cases hcontains : (block.load heap).contains address count = true
            · change (if _ then _ else _) = (if _ then _ else _) >>= _
              rw [if_pos hcontains, if_pos hcontains]
              exact hblock.symm
            · change (if _ then _ else _) = (if _ then _ else _) >>= _
              rw [if_neg hcontains, if_neg hcontains]
              rfl
  · rw [if_neg hindex, if_neg hindex]
    rfl

/-- A read returns a new list with what the area of values has there. -/
theorem getValues_eq (heap : Heap α) (area : AreaObject) (address count : Int) :
    area.getValues heap address count =
      heap.alloc <$> (area.load heap).getValues address count := by
  rw [getValues, findBlock_eq, DataArea.getValues]
  cases (area.load heap).findBlock address count with
  | error error => rfl
  | ok position =>
      rw [Except.ok_bind, Except.ok_bind, load_blocks, getItem_map]
      cases getItem area.blocks (position : Int) with
      | error error => rfl
      | ok block => rfl

structure Owns (heap : Heap α) (area : AreaObject) : Prop where
  nodup : area.refs.Nodup
  valid : ∀ ref ∈ area.refs, heap.Valid ref

theorem load_congr (h : ∀ ref ∈ area.refs, after.load ref = heap.load ref) :
    area.load after = area.load heap := by
  have hblocks : area.blocks.map (BlockObject.load after) =
      area.blocks.map (BlockObject.load heap) := by
    refine List.map_congr_left fun block hblock => ?_
    rw [BlockObject.load, h _ (List.mem_map_of_mem hblock), BlockObject.load]
  rw [load, load, hblocks]

/-- A write changes the list of one block of the area, to what the area of values holds then. -/
theorem setValues_cases (validate : PyObject → Except PyError α) (howns : area.Owns heap)
    (address : Int) (values : List PyObject) :
    (∃ error, area.setValues validate heap address values = .error error ∧
      (area.load heap).setValues validate address values = .error error) ∨
    ∃ after, area.setValues validate heap address values = .ok after ∧
      (area.load heap).setValues validate address values = .ok (area.load after) ∧
      Heap.Keeps (· ∉ area.refs) heap after := by
  rw [setValues, findBlock_eq, DataArea.setValues]
  cases (area.load heap).findBlock address values.length with
  | error error => exact .inl ⟨error, rfl, rfl⟩
  | ok position =>
      rw [Except.ok_bind, Except.ok_bind, load_blocks, getItem_map]
      cases hblock : getItem area.blocks (position : Int) with
      | error error => exact .inl ⟨error, rfl, rfl⟩
      | ok block =>
          rw [Except.ok_bind, BlockObject.write]
          cases hwritten : (block.load heap).write validate address values with
          | error error =>
              refine .inl ⟨error, rfl, ?_⟩
              change ((block.load heap).write validate address values >>= _) = _
              rw [hwritten]
              rfl
          | ok written =>
              have hlookup := getItem_natCast_eq_ok_iff.mp hblock
              have hmem : block.values ∈ area.refs :=
                List.mem_map_of_mem (List.mem_of_getElem? hlookup)
              obtain ⟨-, -, validated, -, hoverwrite⟩ :=
                DataBlock.exists_overwrite_of_write hwritten
              have hblocks := Heap.map_load_update (fun (block : BlockObject) values =>
                (⟨block.startAddress, values, block.readonly⟩ : DataBlock α)) howns.nodup hlookup
                (howns.valid _ hmem) written.values
              refine .inr ⟨_, rfl, ?_, Heap.keeps_update heap _ fun hnot => hnot hmem⟩
              change ((block.load heap).write validate address values >>= _) = _
              rw [hwritten]
              have harea : area.load (heap.update block.values written.values) =
                  ⟨(area.blocks.map (BlockObject.load heap)).set position written,
                    area.indexedBlocks, area.starts⟩ := by
                rw [load]
                congr 1
                rw [hoverwrite] at hblocks ⊢
                exact hblocks
              rw [harea]
              rfl

theorem load_of_keeps (hvalid : ∀ ref ∈ area.refs, heap.Valid ref) {kept : Heap.Ref → Prop}
    (hkeeps : Heap.Keeps kept heap after) (hkept : ∀ ref ∈ area.refs, kept ref) :
    area.load after = area.load heap :=
  load_congr fun ref href => hkeeps.load ref (hvalid ref href) (hkept ref href)

/-- What is read is what the area of values has, and no list changes. -/
theorem runOn_get (area : AreaObject) (heap : Heap α) (address count : Int) :
    ∃ after, Exec.runOn (area.get address count) heap =
        ((area.load heap).getValues address count, after) ∧
      Heap.Keeps (fun _ => True) heap after := by
  rw [get, Exec.runOn_bind, Exec.runOn_get]
  dsimp only
  rw [getValues_eq]
  cases (area.load heap).getValues address count with
  | error error => exact ⟨heap, rfl, .refl _ heap⟩
  | ok values =>
      refine ⟨(heap.alloc values).2, ?_, Heap.keeps_alloc heap values⟩
      change (Except.ok ((heap.alloc values).2.load (heap.alloc values).1), _) = _
      rw [Heap.load_alloc]

/-- A write fails as the area of values does, with no list changed, or changes lists of the area to
what the area of values holds then. -/
theorem runOn_set (validate : PyObject → Except PyError α) (howns : area.Owns heap) (address : Int)
    (values : List PyObject) :
    (∃ error, Exec.runOn (area.set validate address values) heap = (.error error, heap) ∧
      (area.load heap).setValues validate address values = .error error) ∨
    ∃ after, Exec.runOn (area.set validate address values) heap = (.ok (), after) ∧
      (area.load heap).setValues validate address values = .ok (area.load after) ∧
      Heap.Keeps (· ∉ area.refs) heap after := by
  rw [set, Exec.runOn_bind, Exec.runOn_get]
  dsimp only
  rw [Exec.runOn_liftM_bind]
  rcases setValues_cases validate howns address values with
    ⟨error, herror, hvalues⟩ | ⟨after, hafter, hvalues, hkeeps⟩
  · rw [herror]
    exact .inl ⟨error, rfl, hvalues⟩
  · rw [hafter]
    exact .inr ⟨after, rfl, hvalues, hkeeps⟩

end AreaObject

namespace StoreObject

variable {store : StoreObject} {before objects : ListObjects} {values : MemoryDataStore}

structure Owns (objects : ListObjects) (store : StoreObject) : Prop where
  registers : store.registerRefs.Nodup
  bits : store.bitRefs.Nodup
  registersValid : ∀ ref ∈ store.registerRefs, objects.registers.Valid ref
  bitsValid : ∀ ref ∈ store.bitRefs, objects.bits.Valid ref

/-- The datastore holds the values, and since `before` no list but its own was changed. -/
structure Tracks (store : StoreObject) (before objects : ListObjects) (values : MemoryDataStore) :
    Prop where
  load : store.load objects = values
  registers : Heap.Keeps (· ∉ store.registerRefs) before.registers objects.registers
  bits : Heap.Keeps (· ∉ store.bitRefs) before.bits objects.bits

theorem Owns.tracked (h : store.Owns before) (htracks : store.Tracks before objects values) :
    store.Owns objects :=
  ⟨h.registers, h.bits, fun ref href => htracks.registers.valid ref (h.registersValid ref href),
    fun ref href => htracks.bits.valid ref (h.bitsValid ref href)⟩

theorem Owns.holdingRegisters (h : store.Owns objects) :
    store.holdingRegisters.Owns objects.registers :=
  ⟨(List.nodup_append.mp h.registers).1, fun ref href =>
    h.registersValid ref (List.mem_append_left _ href)⟩

theorem Owns.inputRegisters (h : store.Owns objects) :
    store.inputRegisters.Owns objects.registers :=
  ⟨(List.nodup_append.mp h.registers).2.1, fun ref href =>
    h.registersValid ref (List.mem_append_right _ href)⟩

theorem Owns.coils (h : store.Owns objects) : store.coils.Owns objects.bits :=
  ⟨(List.nodup_append.mp h.bits).1, fun ref href => h.bitsValid ref (List.mem_append_left _ href)⟩

theorem Owns.discreteInputs (h : store.Owns objects) : store.discreteInputs.Owns objects.bits :=
  ⟨(List.nodup_append.mp h.bits).2.1, fun ref href =>
    h.bitsValid ref (List.mem_append_right _ href)⟩

/-- A datastore whose lists stay as they are holds what it held. -/
theorem load_of_keeps (h : store.Owns objects) {after : ListObjects}
    {registersKept bitsKept : Heap.Ref → Prop}
    (hregisters : Heap.Keeps registersKept objects.registers after.registers)
    (hbits : Heap.Keeps bitsKept objects.bits after.bits)
    (hregistersKept : ∀ ref ∈ store.registerRefs, registersKept ref)
    (hbitsKept : ∀ ref ∈ store.bitRefs, bitsKept ref) : store.load after = store.load objects := by
  rw [load, load,
    AreaObject.load_of_keeps h.holdingRegisters.valid hregisters fun ref href =>
      hregistersKept ref (List.mem_append_left _ href),
    AreaObject.load_of_keeps h.inputRegisters.valid hregisters fun ref href =>
      hregistersKept ref (List.mem_append_right _ href),
    AreaObject.load_of_keeps h.coils.valid hbits fun ref href =>
      hbitsKept ref (List.mem_append_left _ href),
    AreaObject.load_of_keeps h.discreteInputs.valid hbits fun ref href =>
      hbitsKept ref (List.mem_append_right _ href)]

theorem runOn_onRegisters {β : Type} (program : Exec PyError (Heap Int) β) (objects : ListObjects) :
    Exec.runOn (ListObjects.onRegisters program) objects =
      ((Exec.runOn program objects.registers).1,
        { objects with registers := (Exec.runOn program objects.registers).2 }) := rfl

theorem runOn_onBits {β : Type} (program : Exec PyError (Heap Bool) β) (objects : ListObjects) :
    Exec.runOn (ListObjects.onBits program) objects =
      ((Exec.runOn program objects.bits).1,
        { objects with bits := (Exec.runOn program objects.bits).2 }) := rfl

theorem Tracks.keepRegisters (h : store.Tracks before objects values) (howns : store.Owns before)
    {registers : Heap Int} (hkeeps : Heap.Keeps (fun _ => True) objects.registers registers) :
    store.Tracks before { objects with registers } values := by
  refine ⟨?_, h.registers.trans ⟨hkeeps.valid, fun ref hvalid _ => hkeeps.load ref hvalid trivial⟩,
    h.bits⟩
  rw [← h.load]
  exact load_of_keeps (howns.tracked h) hkeeps (.refl (fun _ => True) _) (fun _ _ => trivial)
    fun _ _ => trivial

theorem Tracks.keepBits (h : store.Tracks before objects values) (howns : store.Owns before)
    {bits : Heap Bool} (hkeeps : Heap.Keeps (fun _ => True) objects.bits bits) :
    store.Tracks before { objects with bits } values := by
  refine ⟨?_, h.registers, h.bits.trans ⟨hkeeps.valid, fun ref hvalid _ =>
    hkeeps.load ref hvalid trivial⟩⟩
  rw [← h.load]
  exact load_of_keeps (howns.tracked h) (.refl (fun _ => True) _) hkeeps (fun _ _ => trivial)
    fun _ _ => trivial

theorem simulates_getRegisters (howns : store.Owns before) {area : AreaObject} {address count : Int}
    {program : Exec PyError MemoryDataStore (List Int)}
    (hprogram : ∀ objects, Exec.runOn program (store.load objects) =
      ((area.load objects.registers).getValues address count, store.load objects)) :
    Exec.Simulates (store.Tracks before)
      (ListObjects.onRegisters (area.get address count)) program := by
  intro objects values htracks
  obtain ⟨registers, hrun, hkeeps⟩ := area.runOn_get objects.registers address count
  rw [runOn_onRegisters, hrun, ← htracks.load, hprogram, htracks.load]
  exact ⟨rfl, htracks.keepRegisters howns hkeeps⟩

theorem simulates_getBits (howns : store.Owns before) {area : AreaObject} {address count : Int}
    {program : Exec PyError MemoryDataStore (List Bool)}
    (hprogram : ∀ objects, Exec.runOn program (store.load objects) =
      ((area.load objects.bits).getValues address count, store.load objects)) :
    Exec.Simulates (store.Tracks before) (ListObjects.onBits (area.get address count)) program := by
  intro objects values htracks
  obtain ⟨bits, hrun, hkeeps⟩ := area.runOn_get objects.bits address count
  rw [runOn_onBits, hrun, ← htracks.load, hprogram, htracks.load]
  exact ⟨rfl, htracks.keepBits howns hkeeps⟩

theorem simulates_setRegisters (howns : store.Owns before) {area : AreaObject} {address : Int}
    {written : List PyObject} {program : Exec PyError MemoryDataStore Unit}
    (install : MemoryDataStore → DataArea Int → MemoryDataStore)
    (hprogram : ∀ objects, Exec.runOn program (store.load objects) =
      Exec.replaced (store.load objects) (install (store.load objects) <$>
        (area.load objects.registers).setValues validateRegister address written))
    (harea : ∀ objects, store.Owns objects → area.Owns objects.registers)
    (hrefs : ∀ ref ∈ area.refs, ref ∈ store.registerRefs)
    (hinstall : ∀ objects registers, store.Owns objects →
      Heap.Keeps (· ∉ area.refs) objects.registers registers →
        store.load { objects with registers } =
          install (store.load objects) (area.load registers)) :
    Exec.Simulates (store.Tracks before)
      (ListObjects.onRegisters (area.set validateRegister address written)) program := by
  intro objects values htracks
  have hcurrent := howns.tracked htracks
  rw [runOn_onRegisters, ← htracks.load, hprogram]
  rcases AreaObject.runOn_set validateRegister (harea objects hcurrent) address written with
    ⟨error, hrun, hvalues⟩ | ⟨registers, hrun, hvalues, hkeeps⟩
  · rw [hrun, hvalues]
    exact ⟨rfl, htracks.load.symm ▸ htracks⟩
  · rw [hrun, hvalues]
    refine ⟨rfl, hinstall objects registers hcurrent hkeeps, ?_, htracks.bits⟩
    exact htracks.registers.trans ⟨hkeeps.valid, fun ref hvalid hother =>
      hkeeps.load ref hvalid fun hmem => hother (hrefs ref hmem)⟩

theorem simulates_setBits (howns : store.Owns before) {area : AreaObject} {address : Int}
    {written : List PyObject} {program : Exec PyError MemoryDataStore Unit}
    (install : MemoryDataStore → DataArea Bool → MemoryDataStore)
    (hprogram : ∀ objects, Exec.runOn program (store.load objects) =
      Exec.replaced (store.load objects) (install (store.load objects) <$>
        (area.load objects.bits).setValues validateBit address written))
    (harea : ∀ objects, store.Owns objects → area.Owns objects.bits)
    (hrefs : ∀ ref ∈ area.refs, ref ∈ store.bitRefs)
    (hinstall : ∀ objects bits, store.Owns objects →
      Heap.Keeps (· ∉ area.refs) objects.bits bits →
        store.load { objects with bits } = install (store.load objects) (area.load bits)) :
    Exec.Simulates (store.Tracks before)
      (ListObjects.onBits (area.set validateBit address written)) program := by
  intro objects values htracks
  have hcurrent := howns.tracked htracks
  rw [runOn_onBits, ← htracks.load, hprogram]
  rcases AreaObject.runOn_set validateBit (harea objects hcurrent) address written with
    ⟨error, hrun, hvalues⟩ | ⟨bits, hrun, hvalues, hkeeps⟩
  · rw [hrun, hvalues]
    exact ⟨rfl, htracks.load.symm ▸ htracks⟩
  · rw [hrun, hvalues]
    refine ⟨rfl, hinstall objects bits hcurrent hkeeps, htracks.registers, ?_⟩
    exact htracks.bits.trans ⟨hkeeps.valid, fun ref hvalid hother =>
      hkeeps.load ref hvalid fun hmem => hother (hrefs ref hmem)⟩

theorem simulates_setHoldingRegisters (howns : store.Owns before) (address : Int)
    (written : List PyObject) :
    Exec.Simulates (store.Tracks before) (store.setHoldingRegisters address written)
      (MemoryDataStore.setHoldingRegisters address written) := by
  refine simulates_setRegisters howns (fun store area => { store with holdingRegisters := area })
    (fun objects => MemoryDataStore.runOn_setHoldingRegisters address written (store.load objects))
    (fun objects hcurrent => hcurrent.holdingRegisters) (fun ref => List.mem_append_left _) ?_
  intro objects registers hcurrent hkeeps
  rw [load, AreaObject.load_of_keeps hcurrent.inputRegisters.valid hkeeps]
  · rfl
  · exact fun ref href hmem => (List.nodup_append.mp hcurrent.registers).2.2 ref hmem ref href rfl

theorem simulates_setInputRegisters (howns : store.Owns before) (address : Int)
    (written : List PyObject) :
    Exec.Simulates (store.Tracks before) (store.setInputRegisters address written)
      (ModbusSimulator.setInputRegisters address written) := by
  refine simulates_setRegisters howns (fun store area => { store with inputRegisters := area })
    (fun objects => MemoryDataStore.runOn_setInputRegisters address written (store.load objects))
    (fun objects hcurrent => hcurrent.inputRegisters) (fun ref => List.mem_append_right _) ?_
  intro objects registers hcurrent hkeeps
  rw [load, AreaObject.load_of_keeps hcurrent.holdingRegisters.valid hkeeps]
  · rfl
  · exact fun ref href hmem => (List.nodup_append.mp hcurrent.registers).2.2 ref href ref hmem rfl

theorem simulates_setCoils (howns : store.Owns before) (address : Int) (written : List PyObject) :
    Exec.Simulates (store.Tracks before) (store.setCoils address written)
      (MemoryDataStore.setCoils address written) := by
  refine simulates_setBits howns (fun store area => { store with coils := area })
    (fun objects => MemoryDataStore.runOn_setCoils address written (store.load objects))
    (fun objects hcurrent => hcurrent.coils) (fun ref => List.mem_append_left _) ?_
  intro objects bits hcurrent hkeeps
  rw [load, AreaObject.load_of_keeps hcurrent.discreteInputs.valid hkeeps]
  · rfl
  · exact fun ref href hmem => (List.nodup_append.mp hcurrent.bits).2.2 ref hmem ref href rfl

theorem simulates_setDiscreteInputs (howns : store.Owns before) (address : Int)
    (written : List PyObject) :
    Exec.Simulates (store.Tracks before) (store.setDiscreteInputs address written)
      (ModbusSimulator.setDiscreteInputs address written) := by
  refine simulates_setBits howns (fun store area => { store with discreteInputs := area })
    (fun objects => MemoryDataStore.runOn_setDiscreteInputs address written (store.load objects))
    (fun objects hcurrent => hcurrent.discreteInputs) (fun ref => List.mem_append_right _) ?_
  intro objects bits hcurrent hkeeps
  rw [load, AreaObject.load_of_keeps hcurrent.coils.valid hkeeps]
  · rfl
  · exact fun ref href hmem => (List.nodup_append.mp hcurrent.bits).2.2 ref href ref hmem rfl

theorem simulates_methods (howns : store.Owns before) :
    store.methods.Simulates (store.Tracks before) MemoryDataStore.methods where
  getHoldingRegisters address count := simulates_getRegisters howns fun objects =>
    ModbusTcpServer.runOn_getHoldingRegisters address count (store.load objects)
  setHoldingRegisters := simulates_setHoldingRegisters howns
  getInputRegisters address count := simulates_getRegisters howns fun objects =>
    ModbusTcpServer.runOn_getInputRegisters address count (store.load objects)
  getCoils address count := simulates_getBits howns fun objects =>
    ModbusTcpServer.runOn_getCoils address count (store.load objects)
  setCoils := simulates_setCoils howns
  getDiscreteInputs address count := simulates_getBits howns fun objects =>
    ModbusTcpServer.runOn_getDiscreteInputs address count (store.load objects)

/-- **One datastore among the lists of a program**: an operation gives what it gives on the values
the lists hold, and changes no list but those of its blocks. -/
theorem perform_tracks (howns : store.Owns objects) (server : ModbusTcpServer)
    (operation : Operation) :
    (store.perform server objects operation).1 =
        (server.perform (store.load objects) operation).1 ∧
      store.Tracks objects (store.perform server objects operation).2
        (server.perform (store.load objects) operation).2 := by
  have htracks : store.Tracks objects objects (store.load objects) :=
    ⟨rfl, .refl _ _, .refl _ _⟩
  have hmethods := simulates_methods howns
  cases operation with
  | request request =>
      have hrequest := ModbusTcpServer.simulates_handleRequestOver hmethods server
        (.builtin request.1) objects (store.load objects) htracks
      exact ⟨congrArg Output.response hrequest.1, hrequest.2⟩
  | getHoldingRegisters address count =>
      have hget := hmethods.getHoldingRegisters address count objects _ htracks
      exact ⟨congrArg Output.registers hget.1, hget.2⟩
  | getInputRegisters address count =>
      have hget := hmethods.getInputRegisters address count objects _ htracks
      exact ⟨congrArg Output.registers hget.1, hget.2⟩
  | getCoils address count =>
      have hget := hmethods.getCoils address count objects _ htracks
      exact ⟨congrArg Output.bits hget.1, hget.2⟩
  | getDiscreteInputs address count =>
      have hget := hmethods.getDiscreteInputs address count objects _ htracks
      exact ⟨congrArg Output.bits hget.1, hget.2⟩
  | setHoldingRegisters address values =>
      have hset := hmethods.setHoldingRegisters address values objects _ htracks
      exact ⟨congrArg Output.done hset.1, hset.2⟩
  | setCoils address values =>
      have hset := hmethods.setCoils address values objects _ htracks
      exact ⟨congrArg Output.done hset.1, hset.2⟩
  | setInputRegisters address values =>
      have hset := simulates_setInputRegisters howns address values objects _ htracks
      exact ⟨congrArg Output.done hset.1, hset.2⟩
  | setDiscreteInputs address values =>
      have hset := simulates_setDiscreteInputs howns address values objects _ htracks
      exact ⟨congrArg Output.done hset.1, hset.2⟩

end StoreObject

end ClearModbus
