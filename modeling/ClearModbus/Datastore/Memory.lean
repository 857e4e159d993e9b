import ClearModbus.Datastore.Blocks
import ClearModbus.Lib.Bisect
import Mathlib.Data.List.Sort

/-!
# The memory datastore

A data area is the tuple of its blocks, sorted by start address, and the index built over it once,
at construction: the blocks that are not empty, as positions in the tuple (the tuple and the index
share the block objects), and their start addresses.
-/

namespace ClearModbus

structure DataArea (α : Type) where
  blocks : List (DataBlock α)
  indexedBlocks : List Nat
  starts : List Int
  deriving DecidableEq, Repr

namespace DataArea

variable {α : Type}

def sortBlocks (blocks : List (DataBlock α)) : List (DataBlock α) :=
  blocks.insertionSort fun left right => left.startAddress ≤ right.startAddress

/-- `_index_blocks`: the positions of the non-empty blocks, and their start addresses. -/
def indexBlocks (blocks : List (DataBlock α)) : List Nat × List Int :=
  let indexed := blocks.zipIdx.filter fun item => item.1.values.length > 0
  (indexed.map fun item => item.2, indexed.map fun item => item.1.startAddress)

def ofBlocks (blocks : List (DataBlock α)) : DataArea α :=
  let sorted := sortBlocks blocks
  let (indexedBlocks, starts) := indexBlocks sorted
  ⟨sorted, indexedBlocks, starts⟩

/-- `_find_block`: the block object, as its position in the tuple. -/
def findBlock (area : DataArea α) (address count : Int) : Except PyError Nat :=
  let index : Int := Bisect.right area.starts address - 1
  if index ≥ 0 then do
    let position ← getItem area.indexedBlocks index
    let block ← getItem area.blocks position
    if block.contains address count then return position
    else throw (.invalidAddressError address count)
  else .error (.invalidAddressError address count)

def getValues (area : DataArea α) (address count : Int) : Except PyError (List α) := do
  let position ← area.findBlock address count
  let block ← getItem area.blocks position
  block.read address count

def setValues (validate : PyObject → Except PyError α) (area : DataArea α) (address : Int)
    (values : List PyObject) : Except PyError (DataArea α) := do
  let position ← area.findBlock address values.length
  let block ← getItem area.blocks position
  let written ← block.write validate address values
  return { area with blocks := area.blocks.set position written }

end DataArea

def rangeLe (left right : Int × Int) : Prop :=
  left.1 < right.1 ∨ (left.1 = right.1 ∧ left.2 ≤ right.2)

instance : DecidableRel rangeLe := fun left right => by
  unfold rangeLe
  infer_instance

def validateNeighbours : List (Int × Int) → Except PyError Unit
  | previous :: current :: rest =>
      if current.1 ≤ previous.2 then
        .error (.valueError ("Datastore blocks must not overlap: " ++ toString previous.1 ++ "-" ++
          toString previous.2 ++ " overlaps " ++ toString current.1 ++ "-" ++
          toString current.2 ++ "."))
      else validateNeighbours (current :: rest)
  | _ => .ok ()

def validateNoOverlappingRanges (ranges : List (Int × Int)) : Except PyError Unit :=
  validateNeighbours (ranges.insertionSort rangeLe)

def blockRanges {α : Type} (blocks : List (DataBlock α)) : List (Int × Int) :=
  (blocks.filter fun block => block.values.length > 0).map fun block =>
    (block.startAddress, block.endAddress)

def validateNoOverlappingBlocks {α : Type} (blocks : List (DataBlock α)) : Except PyError Unit :=
  validateNoOverlappingRanges (blockRanges blocks)

structure MemoryDataStore where
  holdingRegisters : DataArea Int
  inputRegisters : DataArea Int
  coils : DataArea Bool
  discreteInputs : DataArea Bool
  deriving DecidableEq, Repr

namespace MemoryDataStore

def init (holdingRegisters inputRegisters : List RegisterBlock)
    (coils discreteInputs : List BitBlock) :
    Except PyError MemoryDataStore := do
  let store : MemoryDataStore :=
    { holdingRegisters := DataArea.ofBlocks holdingRegisters
      inputRegisters := DataArea.ofBlocks inputRegisters
      coils := DataArea.ofBlocks coils
      discreteInputs := DataArea.ofBlocks discreteInputs }
  validateNoOverlappingBlocks store.holdingRegisters.blocks
  validateNoOverlappingBlocks store.inputRegisters.blocks
  validateNoOverlappingBlocks store.coils.blocks
  validateNoOverlappingBlocks store.discreteInputs.blocks
  return store

def getHoldingRegisters (address count : Int) : Exec PyError MemoryDataStore (List Int) := do
  let store ← get
  store.holdingRegisters.getValues address count

def setHoldingRegisters (address : Int) (values : List PyObject) :
    Exec PyError MemoryDataStore Unit := do
  let store ← get
  let area ← store.holdingRegisters.setValues validateRegister address values
  set { store with holdingRegisters := area }

def getInputRegisters (address count : Int) : Exec PyError MemoryDataStore (List Int) := do
  let store ← get
  store.inputRegisters.getValues address count

def getCoils (address count : Int) : Exec PyError MemoryDataStore (List Bool) := do
  let store ← get
  store.coils.getValues address count

def setCoils (address : Int) (values : List PyObject) : Exec PyError MemoryDataStore Unit := do
  let store ← get
  let area ← store.coils.setValues validateBit address values
  set { store with coils := area }

def getDiscreteInputs (address count : Int) : Exec PyError MemoryDataStore (List Bool) := do
  let store ← get
  store.discreteInputs.getValues address count

end MemoryDataStore

end ClearModbus
