import ClearModbus.Python

/-!
# Datastore blocks

A block is a contiguous range of values from its start address on. Register and bit blocks differ in
the check a written value has to pass and in nothing else.
-/

namespace ClearModbus

structure DataBlock (α : Type) where
  startAddress : Int
  values : List α
  readonly : Bool := false
  deriving DecidableEq, Repr

namespace DataBlock

variable {α : Type}

/-- The inclusive final address; one less than the start of an empty block. -/
def endAddress (block : DataBlock α) : Int := block.startAddress + block.values.length - 1

def contains (block : DataBlock α) (address : Int) (count : Int := 1) : Bool :=
  count > 0 ∧ address ≥ block.startAddress ∧ address + count - 1 ≤ block.endAddress

def offsetFor (block : DataBlock α) (address : Int) : Except PyError Int :=
  if !block.contains address then .error (.invalidAddressError address 1)
  else .ok (address - block.startAddress)

def read (block : DataBlock α) (address count : Int) : Except PyError (List α) :=
  if !block.contains address count then .error (.invalidAddressError address 1)
  else do
    let offset ← block.offsetFor address
    return slice block.values offset (offset + count)

/-- Write the values that pass `validate`; nothing is written when one does not. -/
def write (validate : PyObject → Except PyError α) (block : DataBlock α) (address : Int)
    (values : List PyObject) : Except PyError (DataBlock α) :=
  if block.readonly then .error (.readOnlyDataBlockError address)
  else if !block.contains address values.length then .error (.invalidAddressError address 1)
  else do
    let offset ← block.offsetFor address
    let validatedValues ← values.mapM validate
    return { block with
      values := sliceAssign block.values offset (offset + validatedValues.length)
        validatedValues }

end DataBlock

def validateRegister : PyObject → Except PyError Int
  | .int value =>
      if 0 ≤ value ∧ value ≤ 0xFFFF then .ok value else .error (.invalidValueError (.int value))
  | value => .error (.invalidValueError value)

def validateBit : PyObject → Except PyError Bool
  | .bool value => .ok value
  | value => .error (.invalidValueError value)

abbrev RegisterBlock := DataBlock Int
abbrev BitBlock := DataBlock Bool

def RegisterBlock.write (block : RegisterBlock) : Int → List PyObject →
    Except PyError RegisterBlock :=
  DataBlock.write validateRegister block

def BitBlock.write (block : BitBlock) : Int → List PyObject → Except PyError BitBlock :=
  DataBlock.write validateBit block

end ClearModbus
