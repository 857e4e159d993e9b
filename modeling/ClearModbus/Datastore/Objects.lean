import ClearModbus.Datastore.Base
import ClearModbus.Lib.Heap
import ClearModbus.Simulator

/-!
# Blocks and the lists they hold

A block object holds a reference to a list. A read returns a new list, a write changes the list of
the block in place, and `to_block` gives a block a copy of the list of its range; all of them look
at what the lists hold at that moment.
-/

namespace ClearModbus

variable {α : Type}

structure BlockObject where
  startAddress : Int
  values : Heap.Ref
  readonly : Bool := false
  deriving DecidableEq

namespace BlockObject

def load (heap : Heap α) (block : BlockObject) : DataBlock α :=
  ⟨block.startAddress, heap.load block.values, block.readonly⟩

/-- The slice is a new list. -/
def read (heap : Heap α) (block : BlockObject) (address count : Int) :
    Except PyError (Heap.Ref × Heap α) :=
  heap.alloc <$> (block.load heap).read address count

def write (validate : PyObject → Except PyError α) (heap : Heap α) (block : BlockObject)
    (address : Int) (values : List PyObject) : Except PyError (Heap α) := do
  let written ← (block.load heap).write validate address values
  return heap.update block.values written.values

end BlockObject

structure AreaObject where
  blocks : List BlockObject
  indexedBlocks : List Nat
  starts : List Int
  deriving DecidableEq

namespace AreaObject

def load (heap : Heap α) (area : AreaObject) : DataArea α :=
  ⟨area.blocks.map (BlockObject.load heap), area.indexedBlocks, area.starts⟩

def refs (area : AreaObject) : List Heap.Ref := area.blocks.map BlockObject.values

def sortBlocks (blocks : List BlockObject) : List BlockObject :=
  blocks.insertionSort fun left right => left.startAddress ≤ right.startAddress

/-- `_index_blocks`, which looks at the lengths of the lists once. -/
def indexBlocks (heap : Heap α) (blocks : List BlockObject) : List Nat × List Int :=
  let indexed := blocks.zipIdx.filter fun item => (heap.load item.1.values).length > 0
  (indexed.map fun item => item.2, indexed.map fun item => item.1.startAddress)

def ofBlocks (heap : Heap α) (blocks : List BlockObject) : AreaObject :=
  let sorted := sortBlocks blocks
  let (indexedBlocks, starts) := indexBlocks heap sorted
  ⟨sorted, indexedBlocks, starts⟩

def findBlock (heap : Heap α) (area : AreaObject) (address count : Int) :
    Except PyError BlockObject :=
  let index : Int := Bisect.right area.starts address - 1
  if index ≥ 0 then do
    let position ← getItem area.indexedBlocks index
    let block ← getItem area.blocks position
    if (block.load heap).contains address count then return block
    else throw (.invalidAddressError address count)
  else .error (.invalidAddressError address count)

def getValues (heap : Heap α) (area : AreaObject) (address count : Int) :
    Except PyError (Heap.Ref × Heap α) := do
  let block ← area.findBlock heap address count
  block.read heap address count

def setValues (validate : PyObject → Except PyError α) (heap : Heap α) (area : AreaObject)
    (address : Int) (values : List PyObject) : Except PyError (Heap α) := do
  let block ← area.findBlock heap address values.length
  block.write validate heap address values

/-- A `get_*` method, up to what the list it returns holds. -/
def get (area : AreaObject) (address count : Int) : Exec PyError (Heap α) (List α) := do
  let heap ← MonadState.get
  let (values, heap) ← area.getValues heap address count
  MonadState.set heap
  return heap.load values

def set (validate : PyObject → Except PyError α) (area : AreaObject) (address : Int)
    (values : List PyObject) : Exec PyError (Heap α) Unit := do
  let heap ← MonadState.get
  let heap ← area.setValues validate heap address values
  MonadState.set heap

end AreaObject

structure ListObjects where
  registers : Heap Int
  bits : Heap Bool
  deriving DecidableEq

def ListObjects.onRegisters {β : Type} (program : Exec PyError (Heap Int) β) :
    Exec PyError ListObjects β := fun objects =>
  let (outcome, registers) := Exec.runOn program objects.registers
  (outcome, { objects with registers })

def ListObjects.onBits {β : Type} (program : Exec PyError (Heap Bool) β) :
    Exec PyError ListObjects β := fun objects =>
  let (outcome, bits) := Exec.runOn program objects.bits
  (outcome, { objects with bits })

/-- A `MemoryDataStore` as an object; no attribute of it changes once it is built. -/
structure StoreObject where
  holdingRegisters : AreaObject
  inputRegisters : AreaObject
  coils : AreaObject
  discreteInputs : AreaObject
  deriving DecidableEq

namespace StoreObject

def load (objects : ListObjects) (store : StoreObject) : MemoryDataStore :=
  ⟨store.holdingRegisters.load objects.registers, store.inputRegisters.load objects.registers,
    store.coils.load objects.bits, store.discreteInputs.load objects.bits⟩

def registerRefs (store : StoreObject) : List Heap.Ref :=
  store.holdingRegisters.refs ++ store.inputRegisters.refs

def bitRefs (store : StoreObject) : List Heap.Ref := store.coils.refs ++ store.discreteInputs.refs

def init (objects : ListObjects)
    (holdingRegisters inputRegisters coils discreteInputs : List BlockObject) :
    Except PyError StoreObject := do
  let store : StoreObject :=
    { holdingRegisters := AreaObject.ofBlocks objects.registers holdingRegisters
      inputRegisters := AreaObject.ofBlocks objects.registers inputRegisters
      coils := AreaObject.ofBlocks objects.bits coils
      discreteInputs := AreaObject.ofBlocks objects.bits discreteInputs }
  validateNoOverlappingBlocks (store.load objects).holdingRegisters.blocks
  validateNoOverlappingBlocks (store.load objects).inputRegisters.blocks
  validateNoOverlappingBlocks (store.load objects).coils.blocks
  validateNoOverlappingBlocks (store.load objects).discreteInputs.blocks
  return store

def getHoldingRegisters (store : StoreObject) (address count : Int) :
    Exec PyError ListObjects (List Int) :=
  ListObjects.onRegisters (store.holdingRegisters.get address count)

def setHoldingRegisters (store : StoreObject) (address : Int) (values : List PyObject) :
    Exec PyError ListObjects Unit :=
  ListObjects.onRegisters (store.holdingRegisters.set validateRegister address values)

def getInputRegisters (store : StoreObject) (address count : Int) :
    Exec PyError ListObjects (List Int) :=
  ListObjects.onRegisters (store.inputRegisters.get address count)

def getCoils (store : StoreObject) (address count : Int) : Exec PyError ListObjects (List Bool) :=
  ListObjects.onBits (store.coils.get address count)

def setCoils (store : StoreObject) (address : Int) (values : List PyObject) :
    Exec PyError ListObjects Unit :=
  ListObjects.onBits (store.coils.set validateBit address values)

def getDiscreteInputs (store : StoreObject) (address count : Int) :
    Exec PyError ListObjects (List Bool) :=
  ListObjects.onBits (store.discreteInputs.get address count)

def methods (store : StoreObject) : ModbusDataStore ListObjects where
  getHoldingRegisters := store.getHoldingRegisters
  setHoldingRegisters := store.setHoldingRegisters
  getInputRegisters := store.getInputRegisters
  getCoils := store.getCoils
  setCoils := store.setCoils
  getDiscreteInputs := store.getDiscreteInputs

def setInputRegisters (store : StoreObject) (address : Int) (values : List PyObject) :
    Exec PyError ListObjects Unit :=
  ListObjects.onRegisters (store.inputRegisters.set validateRegister address values)

def setDiscreteInputs (store : StoreObject) (address : Int) (values : List PyObject) :
    Exec PyError ListObjects Unit :=
  ListObjects.onBits (store.discreteInputs.set validateBit address values)

end StoreObject

structure RangeObject where
  startAddress : Int
  values : Heap.Ref
  readonly : Bool := false
  deriving DecidableEq

namespace RangeObject

def load (heap : Heap α) (range : RangeObject) : ValueRange α :=
  ⟨range.startAddress, heap.load range.values, range.readonly⟩

/-- `to_block`: the block gets a list of its own, with what the list of the range holds. -/
def toBlock (heap : Heap α) (range : RangeObject) : BlockObject × Heap α :=
  let (values, heap) := heap.alloc (heap.load range.values)
  (⟨range.startAddress, values, range.readonly⟩, heap)

def toBlocks (heap : Heap α) : List RangeObject → List BlockObject × Heap α
  | [] => ([], heap)
  | range :: ranges =>
      let (block, heap) := range.toBlock heap
      let (blocks, heap) := toBlocks heap ranges
      (block :: blocks, heap)

end RangeObject

structure ProfileObject where
  holdingRegisters : List RangeObject
  inputRegisters : List RangeObject
  coils : List RangeObject
  discreteInputs : List RangeObject
  deriving DecidableEq

namespace ProfileObject

def load (objects : ListObjects) (profile : ProfileObject) : SimulatorProfile :=
  ⟨profile.holdingRegisters.map (RangeObject.load objects.registers),
    profile.inputRegisters.map (RangeObject.load objects.registers),
    profile.coils.map (RangeObject.load objects.bits),
    profile.discreteInputs.map (RangeObject.load objects.bits)⟩

def toDatastore (objects : ListObjects) (profile : ProfileObject) :
    Except PyError StoreObject × ListObjects :=
  let (holdingRegisters, registers) :=
    RangeObject.toBlocks objects.registers profile.holdingRegisters
  let (inputRegisters, registers) := RangeObject.toBlocks registers profile.inputRegisters
  let (coils, bits) := RangeObject.toBlocks objects.bits profile.coils
  let (discreteInputs, bits) := RangeObject.toBlocks bits profile.discreteInputs
  (StoreObject.init ⟨registers, bits⟩ holdingRegisters inputRegisters coils discreteInputs,
    ⟨registers, bits⟩)

end ProfileObject

end ClearModbus
