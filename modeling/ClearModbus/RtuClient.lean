import ClearModbus.Protocol.Rtu
import ClearModbus.Transport

namespace ClearModbus

structure ModbusRtuClient where
  unitId : Int
  deriving DecidableEq, Repr

namespace ModbusRtuClient

variable {σ : Type}

/-- The loop of `_receive_read_device_identification_response` over the announced objects. -/
def receiveObjects (transport : Transport σ) : Nat → Exec PyError σ Bytes
  | 0 => return []
  | count + 1 => do
      let objectHeader ← transport.receive 2
      let valueLength ← getItem objectHeader 1
      let value ← (if valueLength ≠ 0 then transport.receive valueLength.toNat else pure [])
      let rest ← receiveObjects transport count
      return objectHeader ++ value ++ rest

def receiveReadDeviceIdentificationResponse (transport : Transport σ) : Exec PyError σ Bytes := do
  let header ← transport.receive 6
  let objectCount ← getItem header 5
  let objects ← receiveObjects transport objectCount.toNat
  let crc ← transport.receive 2
  return header ++ objects ++ crc

def receiveResponse (transport : Transport σ) (request : RequestPDU) : Exec PyError σ Bytes := do
  let prefixData ← transport.receive rtuResponsePrefixSize
  let responseSize ← rtuResponseSizeFromPrefix prefixData request
  match responseSize, request with
  | none, .builtin (.readDeviceIdentification _) => do
      let body ← receiveReadDeviceIdentificationResponse transport
      return prefixData ++ body
  | none, _ => do
      let byteCountData ← transport.receive 1
      let byteCount ← getItem byteCountData 0
      let responseSize ← rtuByteCountResponseSize byteCount.toNat
      let rest ← transport.receive (responseSize - rtuResponsePrefixSize - 1)
      return prefixData ++ byteCountData ++ rest
  | some responseSize, _ => do
      let rest ← transport.receive (responseSize - rtuResponsePrefixSize)
      return prefixData ++ rest

def execute (registry : CustomFunctionCodeRegistry) (client : ModbusRtuClient)
    (transport : Transport σ) (request : RequestPDU) (unitId : Option Int) :
    Exec PyError σ ResponsePDU := do
  let unitId := unitId.getD client.unitId
  let payload ← ModbusRTUCodec.encodeRequest request unitId
  transport.send payload
  let data ← receiveResponse transport request
  ModbusRTUCodec.decodeResponse registry data request unitId

end ModbusRtuClient

end ClearModbus
