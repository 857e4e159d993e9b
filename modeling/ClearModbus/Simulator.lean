import ClearModbus.Datastore.Memory

/-!
# The simulator over its datastore

Profiles are turned into datastores, and the setters of the simulator write the areas a client can
only read.
-/

namespace ClearModbus

structure ValueRange (α : Type) where
  startAddress : Int
  values : List α
  readonly : Bool := false
  deriving DecidableEq, Repr

def ValueRange.toBlock {α : Type} (range : ValueRange α) : DataBlock α :=
  { startAddress := range.startAddress, values := range.values, readonly := range.readonly }

abbrev RegisterRange := ValueRange Int
abbrev BitRange := ValueRange Bool

structure SimulatorProfile where
  holdingRegisters : List RegisterRange
  inputRegisters : List RegisterRange
  coils : List BitRange
  discreteInputs : List BitRange
  deriving DecidableEq, Repr

def SimulatorProfile.toDatastore (profile : SimulatorProfile) : Except PyError MemoryDataStore :=
  MemoryDataStore.init (profile.holdingRegisters.map ValueRange.toBlock)
    (profile.inputRegisters.map ValueRange.toBlock) (profile.coils.map ValueRange.toBlock)
    (profile.discreteInputs.map ValueRange.toBlock)

namespace ModbusSimulator

/-- The read-only areas are written behind the datastore's back: the block is looked up and written
directly. -/
def setInputRegisters (address : Int) (values : List PyObject) :
    Exec PyError MemoryDataStore Unit := do
  let store ← get
  let area ← store.inputRegisters.setValues validateRegister address values
  set { store with inputRegisters := area }

def setDiscreteInputs (address : Int) (values : List PyObject) :
    Exec PyError MemoryDataStore Unit := do
  let store ← get
  let area ← store.discreteInputs.setValues validateBit address values
  set { store with discreteInputs := area }

end ModbusSimulator

end ClearModbus
