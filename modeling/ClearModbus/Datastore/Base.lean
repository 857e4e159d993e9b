import ClearModbus.Datastore.Memory

/-!
# The datastore protocol

What a server asks of its datastore: six methods over a state of their own.
-/

namespace ClearModbus

structure ModbusDataStore (σ : Type) where
  getHoldingRegisters (address count : Int) : Exec PyError σ (List Int)
  setHoldingRegisters (address : Int) (values : List PyObject) : Exec PyError σ Unit
  getInputRegisters (address count : Int) : Exec PyError σ (List Int)
  getCoils (address count : Int) : Exec PyError σ (List Bool)
  setCoils (address : Int) (values : List PyObject) : Exec PyError σ Unit
  getDiscreteInputs (address count : Int) : Exec PyError σ (List Bool)

def MemoryDataStore.methods : ModbusDataStore MemoryDataStore where
  getHoldingRegisters := getHoldingRegisters
  setHoldingRegisters := setHoldingRegisters
  getInputRegisters := getInputRegisters
  getCoils := getCoils
  setCoils := setCoils
  getDiscreteInputs := getDiscreteInputs

end ClearModbus
