import ClearModbus.Proof.Lookup
import ClearModbus.Simulator
import Mathlib.Logic.Relation

/-!
# Runs of datastore writes

A write replaces the values of one block by as many others, so the shapes of the blocks, and with
them the index, are the same in every state a run reaches. Lookup therefore agrees with a scan of
the blocks in all of them.
-/

namespace ClearModbus

variable {α : Type}

namespace DataArea

def indexShapes (shapes : List (Int × Nat × Bool)) : List Nat × List Int :=
  let indexed := shapes.zipIdx.filter fun item => item.1.2.1 > 0
  (indexed.map fun item => item.2, indexed.map fun item => item.1.1)

theorem indexBlocks_eq (blocks : List (DataBlock α)) :
    indexBlocks blocks = indexShapes (blocks.map DataBlock.shape) := by
  simp only [indexShapes, List.zipIdx_map, List.filter_map, List.map_map]
  rfl

def BeforeShape (left right : Int × Nat × Bool) : Prop :=
  left.2.1 ≠ 0 → right.2.1 ≠ 0 → left.1 + left.2.1 - 1 < right.1

theorem pairwise_before_iff (blocks : List (DataBlock α)) :
    blocks.Pairwise Before ↔ (blocks.map DataBlock.shape).Pairwise BeforeShape := by
  rw [List.pairwise_map]
  refine List.Pairwise.iff fun left right => ?_
  simp only [Before, BeforeShape, DataBlock.shape, DataBlock.endAddress, ne_eq,
    List.length_eq_zero_iff]

structure SameShape (left right : DataArea α) : Prop where
  indexedBlocks_eq : left.indexedBlocks = right.indexedBlocks
  starts_eq : left.starts = right.starts
  shapes_eq : left.blocks.map DataBlock.shape = right.blocks.map DataBlock.shape

theorem WellFormed.of_sameShape {area after : DataArea α} (harea : area.WellFormed)
    (h : SameShape after area) : after.WellFormed := by
  constructor
  · rw [h.indexedBlocks_eq, harea.indexedBlocks_eq, indexBlocks_eq, indexBlocks_eq, h.shapes_eq]
  · rw [h.starts_eq, harea.starts_eq, indexBlocks_eq, indexBlocks_eq, h.shapes_eq]
  · rw [pairwise_before_iff, h.shapes_eq, ← pairwise_before_iff]
    exact harea.before

theorem sameShape_set {area : DataArea α} {position : Nat} {block written : DataBlock α}
    (hblock : area.blocks[position]? = some block) (h : written.shape = block.shape) :
    SameShape { area with blocks := area.blocks.set position written } area := by
  refine ⟨rfl, rfl, ?_⟩
  obtain ⟨hposition, hget⟩ := List.getElem?_eq_some_iff.mp hblock
  change (area.blocks.set position written).map DataBlock.shape = _
  rw [List.map_set, h, ← hget, ← List.getElem_map DataBlock.shape (h := by simpa using hposition),
    List.set_getElem_self]

theorem exists_block_of_setValues {validate : PyObject → Except PyError α} {area after : DataArea α}
    {address : Int} {values : List PyObject}
    (h : area.setValues validate address values = .ok after) :
    ∃ position block written, area.findBlock address values.length = .ok position ∧
      area.blocks[position]? = some block ∧ block.write validate address values = .ok written ∧
      after = { area with blocks := area.blocks.set position written } := by
  rw [setValues, Except.bind_eq_ok_iff] at h
  obtain ⟨position, hfind, h⟩ := h
  rw [Except.bind_eq_ok_iff] at h
  obtain ⟨block, hblock, h⟩ := h
  rw [Except.bind_eq_ok_iff] at h
  obtain ⟨written, hwrite, h⟩ := h
  cases h
  exact ⟨position, block, written, hfind, getItem_natCast_eq_ok_iff.mp hblock, hwrite, rfl⟩

theorem sameShape_setValues {validate : PyObject → Except PyError α} {area after : DataArea α}
    {address : Int} {values : List PyObject}
    (h : area.setValues validate address values = .ok after) : SameShape after area := by
  obtain ⟨position, block, written, -, hblock, hwrite, rfl⟩ := exists_block_of_setValues h
  exact sameShape_set hblock (DataBlock.shape_write hwrite)

/-- A write behind the methods of the datastore: a caller that kept a block writes it, or the values
of a block change because its list is also the list of another block. -/
inductive BlockWrite (validate : PyObject → Except PyError α) : DataArea α → DataArea α → Prop where
  | write {area : DataArea α} {position : Nat} {block written : DataBlock α} (address : Int)
      (values : List PyObject) (hblock : area.blocks[position]? = some block)
      (hwrite : block.write validate address values = .ok written) :
      BlockWrite validate area { area with blocks := area.blocks.set position written }
  | shared {area : DataArea α} {position : Nat} {block : DataBlock α} (values : List α)
      (hblock : area.blocks[position]? = some block)
      (hlength : values.length = block.values.length) :
      BlockWrite validate area
        { area with blocks := area.blocks.set position { block with values := values } }

theorem sameShape_blockWrite {validate : PyObject → Except PyError α} {area after : DataArea α}
    (h : BlockWrite validate area after) : SameShape after area := by
  cases h with
  | write address values hblock hwrite => exact sameShape_set hblock (DataBlock.shape_write hwrite)
  | shared values hblock hlength =>
      apply sameShape_set hblock
      simp only [DataBlock.shape, hlength]

structure LookupAgrees (area : DataArea α) (address count : Int) : Prop where
  found_iff : ∀ position, area.findBlock address count = .ok position ↔
    ∃ block, area.blocks[position]? = some block ∧ block.contains address count = true
  unique : ∀ (left right : Nat) (leftBlock rightBlock : DataBlock α),
    area.blocks[left]? = some leftBlock → leftBlock.contains address count = true →
    area.blocks[right]? = some rightBlock → rightBlock.contains address count = true → left = right
  rejected : (∀ block ∈ area.blocks, block.contains address count = false) →
    area.findBlock address count = .error (.invalidAddressError address count)

theorem lookupAgrees {area : DataArea α} (harea : area.WellFormed) (address count : Int) :
    area.LookupAgrees address count := by
  refine ⟨fun position => ⟨fun hfind => ?_, ?_⟩, ?_, findBlock_of_not_contains harea⟩
  · by_contra hnone
    by_cases hcovered : ∃ block ∈ area.blocks, block.contains address count = true
    · obtain ⟨block, hmem, hcontains⟩ := hcovered
      obtain ⟨other, hother⟩ := List.getElem?_of_mem hmem
      rw [findBlock_of_contains harea hother hcontains] at hfind
      cases hfind
      exact hnone ⟨block, hother, hcontains⟩
    · have hnotCovered : ∀ block ∈ area.blocks, block.contains address count = false := by
        intro block hmem
        by_contra hcontains
        exact hcovered ⟨block, hmem, by simpa using hcontains⟩
      rw [findBlock_of_not_contains harea hnotCovered] at hfind
      cases hfind
  · rintro ⟨block, hblock, hcontains⟩
    exact findBlock_of_contains harea hblock hcontains
  · intro left right leftBlock rightBlock hleft hleftContains hright hrightContains
    have hfind := findBlock_of_contains harea hleft hleftContains
    rw [findBlock_of_contains harea hright hrightContains] at hfind
    exact (Except.ok.inj hfind).symm

end DataArea

/-- One write to a datastore: a `set_*` call, a setter of the simulator, or a write to a block. A
call that raises leaves the state it raised in. -/
inductive DatastoreWrite : MemoryDataStore → MemoryDataStore → Prop where
  | setHoldingRegisters (store : MemoryDataStore) (address : Int) (values : List PyObject) :
      DatastoreWrite store (Exec.runOn (MemoryDataStore.setHoldingRegisters address values) store).2
  | setCoils (store : MemoryDataStore) (address : Int) (values : List PyObject) :
      DatastoreWrite store (Exec.runOn (MemoryDataStore.setCoils address values) store).2
  | setInputRegisters (store : MemoryDataStore) (address : Int) (values : List PyObject) :
      DatastoreWrite store (Exec.runOn (ModbusSimulator.setInputRegisters address values) store).2
  | setDiscreteInputs (store : MemoryDataStore) (address : Int) (values : List PyObject) :
      DatastoreWrite store (Exec.runOn (ModbusSimulator.setDiscreteInputs address values) store).2
  | holdingRegisterBlock {store : MemoryDataStore} {area : DataArea Int}
      (h : DataArea.BlockWrite validateRegister store.holdingRegisters area) :
      DatastoreWrite store { store with holdingRegisters := area }
  | inputRegisterBlock {store : MemoryDataStore} {area : DataArea Int}
      (h : DataArea.BlockWrite validateRegister store.inputRegisters area) :
      DatastoreWrite store { store with inputRegisters := area }
  | coilBlock {store : MemoryDataStore} {area : DataArea Bool}
      (h : DataArea.BlockWrite validateBit store.coils area) :
      DatastoreWrite store { store with coils := area }
  | discreteInputBlock {store : MemoryDataStore} {area : DataArea Bool}
      (h : DataArea.BlockWrite validateBit store.discreteInputs area) :
      DatastoreWrite store { store with discreteInputs := area }

namespace MemoryDataStore

structure WellFormed (store : MemoryDataStore) : Prop where
  holdingRegisters : store.holdingRegisters.WellFormed
  inputRegisters : store.inputRegisters.WellFormed
  coils : store.coils.WellFormed
  discreteInputs : store.discreteInputs.WellFormed

theorem wellFormed_init {holdingRegisters inputRegisters : List RegisterBlock}
    {coils discreteInputs : List BitBlock} {store : MemoryDataStore}
    (h : init holdingRegisters inputRegisters coils discreteInputs = .ok store) :
    store.WellFormed := by
  simp only [init, Except.bind_eq_ok_iff] at h
  obtain ⟨_, hholding, _, hinput, _, hcoils, _, hdiscrete, h⟩ := h
  cases h
  exact ⟨DataArea.wellFormed_ofBlocks hholding, DataArea.wellFormed_ofBlocks hinput,
    DataArea.wellFormed_ofBlocks hcoils, DataArea.wellFormed_ofBlocks hdiscrete⟩

theorem runOn_setHoldingRegisters (address : Int) (values : List PyObject)
    (store : MemoryDataStore) :
    Exec.runOn (setHoldingRegisters address values) store =
      Exec.replaced store ((fun area => { store with holdingRegisters := area }) <$>
        store.holdingRegisters.setValues validateRegister address values) :=
  Exec.runOn_get_set
    (fun store : MemoryDataStore =>
      store.holdingRegisters.setValues validateRegister address values)
    (fun store area => { store with holdingRegisters := area }) store

theorem runOn_setCoils (address : Int) (values : List PyObject)
    (store : MemoryDataStore) :
    Exec.runOn (setCoils address values) store =
      Exec.replaced store ((fun area => { store with coils := area }) <$>
        store.coils.setValues validateBit address values) :=
  Exec.runOn_get_set
    (fun store : MemoryDataStore => store.coils.setValues validateBit address values)
    (fun store area => { store with coils := area }) store

theorem runOn_setInputRegisters (address : Int) (values : List PyObject)
    (store : MemoryDataStore) :
    Exec.runOn (ModbusSimulator.setInputRegisters address values) store =
      Exec.replaced store ((fun area => { store with inputRegisters := area }) <$>
        store.inputRegisters.setValues validateRegister address values) :=
  Exec.runOn_get_set
    (fun store : MemoryDataStore => store.inputRegisters.setValues validateRegister address values)
    (fun store area => { store with inputRegisters := area }) store

theorem runOn_setDiscreteInputs (address : Int) (values : List PyObject)
    (store : MemoryDataStore) :
    Exec.runOn (ModbusSimulator.setDiscreteInputs address values) store =
      Exec.replaced store ((fun area => { store with discreteInputs := area }) <$>
        store.discreteInputs.setValues validateBit address values) :=
  Exec.runOn_get_set
    (fun store : MemoryDataStore => store.discreteInputs.setValues validateBit address values)
    (fun store area => { store with discreteInputs := area }) store

theorem wellFormed_write {store after : MemoryDataStore} (hstore : store.WellFormed)
    (h : DatastoreWrite store after) : after.WellFormed := by
  cases h with
  | setHoldingRegisters address values =>
      rw [runOn_setHoldingRegisters]
      refine Exec.replaced_invariant hstore fun next hnext => ?_
      obtain ⟨area, hset, rfl⟩ := Except.map_eq_ok_iff.mp hnext
      have harea := hstore.holdingRegisters.of_sameShape (DataArea.sameShape_setValues hset)
      exact { hstore with holdingRegisters := harea }
  | setCoils address values =>
      rw [runOn_setCoils]
      refine Exec.replaced_invariant hstore fun next hnext => ?_
      obtain ⟨area, hset, rfl⟩ := Except.map_eq_ok_iff.mp hnext
      have harea := hstore.coils.of_sameShape (DataArea.sameShape_setValues hset)
      exact { hstore with coils := harea }
  | setInputRegisters address values =>
      rw [runOn_setInputRegisters]
      refine Exec.replaced_invariant hstore fun next hnext => ?_
      obtain ⟨area, hset, rfl⟩ := Except.map_eq_ok_iff.mp hnext
      have harea := hstore.inputRegisters.of_sameShape (DataArea.sameShape_setValues hset)
      exact { hstore with inputRegisters := harea }
  | setDiscreteInputs address values =>
      rw [runOn_setDiscreteInputs]
      refine Exec.replaced_invariant hstore fun next hnext => ?_
      obtain ⟨area, hset, rfl⟩ := Except.map_eq_ok_iff.mp hnext
      have harea := hstore.discreteInputs.of_sameShape (DataArea.sameShape_setValues hset)
      exact { hstore with discreteInputs := harea }
  | holdingRegisterBlock h =>
      have harea := hstore.holdingRegisters.of_sameShape (DataArea.sameShape_blockWrite h)
      exact { hstore with holdingRegisters := harea }
  | inputRegisterBlock h =>
      have harea := hstore.inputRegisters.of_sameShape (DataArea.sameShape_blockWrite h)
      exact { hstore with inputRegisters := harea }
  | coilBlock h =>
      have harea := hstore.coils.of_sameShape (DataArea.sameShape_blockWrite h)
      exact { hstore with coils := harea }
  | discreteInputBlock h =>
      have harea := hstore.discreteInputs.of_sameShape (DataArea.sameShape_blockWrite h)
      exact { hstore with discreteInputs := harea }

theorem wellFormed_writes {store after : MemoryDataStore} (hstore : store.WellFormed)
    (h : Relation.ReflTransGen DatastoreWrite store after) : after.WellFormed := by
  induction h with
  | refl => exact hstore
  | tail _ hwrite ih => exact wellFormed_write ih hwrite

end MemoryDataStore

end ClearModbus
