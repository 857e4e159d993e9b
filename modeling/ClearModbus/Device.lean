import ClearModbus.Lib.AddressSpace
import ClearModbus.Server
import ClearModbus.Simulator

/-!
# The abstract device

What the server is for: four independent address spaces, the data requests and the direct calls as
reads and writes of them. No block, offset or index is left; the blocks a device is configured with
are its regions.
-/

namespace ClearModbus

variable {α : Type}

def DataBlock.segment (block : DataBlock α) : Segment α :=
  ⟨block.startAddress, block.values, !block.readonly⟩

structure Device where
  holdingRegisters : AddressSpace Int
  inputRegisters : AddressSpace Int
  coils : AddressSpace Bool
  discreteInputs : AddressSpace Bool

def Device.ofBlocks (holdingRegisters inputRegisters : List RegisterBlock)
    (coils discreteInputs : List BitBlock) : Device where
  holdingRegisters := .ofSegments (holdingRegisters.map DataBlock.segment)
  inputRegisters := .ofSegments (inputRegisters.map DataBlock.segment)
  coils := .ofSegments (coils.map DataBlock.segment)
  discreteInputs := .ofSegments (discreteInputs.map DataBlock.segment)

def BuiltinRequest.IsData : BuiltinRequest → Prop
  | .readDeviceIdentification _ => False
  | _ => True

abbrev DataRequest := { request : BuiltinRequest // request.IsData }

/-- What is done to a served datastore: a request, a call of one of its methods, or a call of one of
the two setters of the simulator. -/
inductive Operation where
  | request (request : DataRequest)
  | getHoldingRegisters (address count : Int)
  | getInputRegisters (address count : Int)
  | getCoils (address count : Int)
  | getDiscreteInputs (address count : Int)
  | setHoldingRegisters (address : Int) (values : List PyObject)
  | setCoils (address : Int) (values : List PyObject)
  | setInputRegisters (address : Int) (values : List PyObject)
  | setDiscreteInputs (address : Int) (values : List PyObject)

inductive Output where
  | response (outcome : Except PyError ResponsePDU)
  | registers (outcome : Except PyError (List Int))
  | bits (outcome : Except PyError (List Bool))
  | done (outcome : Except PyError Unit)

def ModbusTcpServer.perform (server : ModbusTcpServer) (store : MemoryDataStore) :
    Operation → Output × MemoryDataStore
  | .request request =>
      (Exec.runOn (server.handleRequest (.builtin request.1)) store).map .response id
  | .getHoldingRegisters address count =>
      (Exec.runOn (MemoryDataStore.getHoldingRegisters address count) store).map .registers id
  | .getInputRegisters address count =>
      (Exec.runOn (MemoryDataStore.getInputRegisters address count) store).map .registers id
  | .getCoils address count =>
      (Exec.runOn (MemoryDataStore.getCoils address count) store).map .bits id
  | .getDiscreteInputs address count =>
      (Exec.runOn (MemoryDataStore.getDiscreteInputs address count) store).map .bits id
  | .setHoldingRegisters address values =>
      (Exec.runOn (MemoryDataStore.setHoldingRegisters address values) store).map .done id
  | .setCoils address values =>
      (Exec.runOn (MemoryDataStore.setCoils address values) store).map .done id
  | .setInputRegisters address values =>
      (Exec.runOn (ModbusSimulator.setInputRegisters address values) store).map .done id
  | .setDiscreteInputs address values =>
      (Exec.runOn (ModbusSimulator.setDiscreteInputs address values) store).map .done id

/-- The 16-bit value a mask write is for: the cell's bit where the AND mask has one, the OR mask's
bit elsewhere. -/
def maskedCell (value andMask orMask : Int) : Nat :=
  Nat.ofBits fun bit : Fin 16 =>
    if andMask.testBit bit then value.testBit bit else orMask.testBit bit

namespace Device

def reject (device : Device) (request : DataRequest) : ResponsePDU × Device :=
  (.exception ⟨request.1.functionCode, ExceptionCode.illegalDataAddress.code⟩, device)

def request (device : Device) : DataRequest → ResponsePDU × Device
  | ⟨.readCoils request, h⟩ =>
      if device.coils.Accessible request.address request.count then
        (.readBits ⟨0x01, device.coils.read request.address request.count⟩, device)
      else device.reject ⟨.readCoils request, h⟩
  | ⟨.readDiscreteInputs request, h⟩ =>
      if device.discreteInputs.Accessible request.address request.count then
        (.readBits ⟨0x02, device.discreteInputs.read request.address request.count⟩, device)
      else device.reject ⟨.readDiscreteInputs request, h⟩
  | ⟨.readHoldingRegisters request, h⟩ =>
      if device.holdingRegisters.Accessible request.address request.count then
        (.readRegisters ⟨0x03, device.holdingRegisters.read request.address request.count⟩, device)
      else device.reject ⟨.readHoldingRegisters request, h⟩
  | ⟨.readInputRegisters request, h⟩ =>
      if device.inputRegisters.Accessible request.address request.count then
        (.readRegisters ⟨0x04, device.inputRegisters.read request.address request.count⟩, device)
      else device.reject ⟨.readInputRegisters request, h⟩
  | ⟨.writeSingleCoil request, h⟩ =>
      if device.coils.Writable request.address 1 then
        (.writeSingleCoil ⟨0x05, request.address, request.value⟩,
          { device with coils := device.coils.write request.address [request.value] })
      else device.reject ⟨.writeSingleCoil request, h⟩
  | ⟨.writeSingleRegister request, h⟩ =>
      if device.holdingRegisters.Writable request.address 1 then
        (.writeSingleRegister ⟨0x06, request.address, request.value⟩,
          { device with
            holdingRegisters := device.holdingRegisters.write request.address [request.value] })
      else device.reject ⟨.writeSingleRegister request, h⟩
  | ⟨.writeMultipleCoils request, h⟩ =>
      if device.coils.Writable request.address request.values.length then
        (.writeMultipleCoils ⟨0x0F, request.address, request.values.length⟩,
          { device with coils := device.coils.write request.address request.values })
      else device.reject ⟨.writeMultipleCoils request, h⟩
  | ⟨.writeMultipleRegisters request, h⟩ =>
      if device.holdingRegisters.Writable request.address request.values.length then
        (.writeMultipleRegisters ⟨0x10, request.address, request.values.length⟩,
          { device with
            holdingRegisters := device.holdingRegisters.write request.address request.values })
      else device.reject ⟨.writeMultipleRegisters request, h⟩
  | ⟨.maskWriteRegister request, h⟩ =>
      if device.holdingRegisters.Writable request.address 1 then
        let masked := (device.holdingRegisters.read request.address 1).map fun value =>
          (maskedCell value request.andMask request.orMask : Int)
        (.maskWriteRegister ⟨0x16, request.address, request.andMask, request.orMask⟩,
          { device with holdingRegisters := device.holdingRegisters.write request.address masked })
      else device.reject ⟨.maskWriteRegister request, h⟩
  | ⟨.readWriteMultipleRegisters request, h⟩ =>
      if device.holdingRegisters.Accessible request.readAddress request.readCount ∧
          device.holdingRegisters.Writable request.writeAddress request.values.length then
        let written := device.holdingRegisters.write request.writeAddress request.values
        (.readRegisters ⟨0x17, written.read request.readAddress request.readCount⟩,
          { device with holdingRegisters := written })
      else device.reject ⟨.readWriteMultipleRegisters request, h⟩
  | ⟨.readDeviceIdentification _, h⟩ => h.elim

def getValues (space : AddressSpace α) (address count : Int) : Except PyError (List α) :=
  if space.Accessible address count then .ok (space.read address count)
  else .error (.invalidAddressError address count)

/-- A direct write of one space: the address is checked first, then the readonly flag, then the
values. -/
def setValues (validate : PyObject → Except PyError α) (space : AddressSpace α) (address : Int)
    (values : List PyObject) : Except PyError (AddressSpace α) :=
  if ¬space.Accessible address values.length then
    .error (.invalidAddressError address values.length)
  else if ¬space.Writable address values.length then .error (.readOnlyDataBlockError address)
  else space.write address <$> values.mapM validate

def finish (device : Device) (update : AddressSpace α → Device) :
    Except PyError (AddressSpace α) → Output × Device
  | .ok space => (.done (.ok ()), update space)
  | .error error => (.done (.error error), device)

def perform (device : Device) : Operation → Output × Device
  | .request request =>
      let (response, after) := device.request request
      (.response (.ok response), after)
  | .getHoldingRegisters address count =>
      (.registers (getValues device.holdingRegisters address count), device)
  | .getInputRegisters address count =>
      (.registers (getValues device.inputRegisters address count), device)
  | .getCoils address count => (.bits (getValues device.coils address count), device)
  | .getDiscreteInputs address count =>
      (.bits (getValues device.discreteInputs address count), device)
  | .setHoldingRegisters address values =>
      device.finish (fun space => { device with holdingRegisters := space })
        (setValues validateRegister device.holdingRegisters address values)
  | .setCoils address values =>
      device.finish (fun space => { device with coils := space })
        (setValues validateBit device.coils address values)
  | .setInputRegisters address values =>
      device.finish (fun space => { device with inputRegisters := space })
        (setValues validateRegister device.inputRegisters address values)
  | .setDiscreteInputs address values =>
      device.finish (fun space => { device with discreteInputs := space })
        (setValues validateBit device.discreteInputs address values)

end Device

end ClearModbus
