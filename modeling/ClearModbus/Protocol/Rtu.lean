import ClearModbus.Protocol.Decode

/-!
# Modbus RTU frames

The CRC is over the unit id and the PDU and follows them low byte first. An RTU frame carries no
length, so the size of a response is inferred from the request and the first bytes received.
-/

namespace ClearModbus

abbrev minRtuFrameSize : Nat := 4
abbrev rtuResponsePrefixSize : Int := 2
abbrev rtuExceptionResponseSize : Int := 5
abbrev rtuWriteRegisterResponseSize : Int := 8
abbrev rtuMaskWriteRegisterResponseSize : Int := 10

def crc16Shift (value : Nat) : Nat :=
  if value &&& 0x0001 ≠ 0 then (value >>> 1) ^^^ 0xA001 else value >>> 1

def crc16TableEntry (value : Nat) : Nat :=
  ((List.range 8).foldl (fun value _ => crc16Shift value) value) &&& 0xFFFF

def crc16ModbusTable : List Nat := (List.range 256).map crc16TableEntry

/-- One turn of the loop of `crc16_modbus`; the index is masked to a byte, so it is in the table. -/
def crc16Step (crc : Nat) (byte : UInt8) : Nat :=
  (crc >>> 8) ^^^ crc16ModbusTable.getD ((crc ^^^ byte.toNat) &&& 0xFF) 0

def crc16Modbus (data : Bytes) : Nat := data.foldl crc16Step 0xFFFF &&& 0xFFFF

def crcBytes (crc : Nat) : Bytes := [UInt8.ofNat crc, UInt8.ofNat (crc / 256)]

def fromLittleEndian : Bytes → Nat
  | [] => 0
  | byte :: rest => byte.toNat + 256 * fromLittleEndian rest

structure ModbusRTUFrame where
  unitId : Int
  pdu : Bytes
  deriving DecidableEq, Repr

def ModbusRTUFrame.encode (frame : ModbusRTUFrame) : Except PyError Bytes := do
  let head ← bytesOf [frame.unitId]
  let data := head ++ frame.pdu
  return data ++ crcBytes (crc16Modbus data)

def ModbusRTUFrame.decode (data : Bytes) : Except PyError ModbusRTUFrame :=
  if data.length < minRtuFrameSize then
    .error (.modbusFrameError "RTU frame must include unit id, PDU, and CRC")
  else
    let message := slice data 0 (-2)
    let receivedCrc := fromLittleEndian (slice data (-2) data.length)
    if receivedCrc ≠ crc16Modbus message then
      .error (.modbusCRCError "RTU frame CRC does not match payload")
    else do
      let unitId ← getItem message 0
      let pdu := message.drop 1
      if pdu.length = 0 then throw (.modbusFrameError "RTU frame PDU is empty")
      else return ⟨unitId.toNat, pdu⟩

namespace ModbusRTUCodec

def encodeRequest (request : RequestPDU) (unitId : Int) : Except PyError Bytes := do
  let pdu ← request.encode
  let frame : ModbusRTUFrame := ⟨unitId, pdu⟩
  frame.encode

def decodeResponse (registry : CustomFunctionCodeRegistry) (data : Bytes) (request : RequestPDU)
    (expectedUnitId : Int) : Except PyError ResponsePDU := do
  let frame ← ModbusRTUFrame.decode data
  if frame.unitId ≠ expectedUnitId then
    throw (.modbusResponseMismatchError "RTU response unit id does not match request.")
  else
    decodeResponsePdu registry frame.pdu request

end ModbusRTUCodec

def fixedRtuResponseSize : RequestPDU → Option Int
  | .builtin (.writeSingleCoil _) => some rtuWriteRegisterResponseSize
  | .builtin (.writeSingleRegister _) => some rtuWriteRegisterResponseSize
  | .builtin (.writeMultipleCoils _) => some rtuWriteRegisterResponseSize
  | .builtin (.writeMultipleRegisters _) => some rtuWriteRegisterResponseSize
  | .builtin (.maskWriteRegister _) => some rtuMaskWriteRegisterResponseSize
  | _ => none

def rtuResponseSizeFromPrefix (prefixData : Bytes) (request : RequestPDU) :
    Except PyError (Option Int) :=
  if (prefixData.length : Int) ≠ rtuResponsePrefixSize then
    .error (.valueError "RTU response prefix must be unit id plus function code")
  else do
    let functionCode ← getItem prefixData 1
    if isExceptionFunctionCode functionCode.toNat then
      return some rtuExceptionResponseSize
    else
      return fixedRtuResponseSize request

def rtuByteCountResponseSize (byteCount : Int) : Except PyError Int :=
  if byteCount < 0 then .error (.valueError "RTU byte count must be non-negative")
  else .ok (rtuResponsePrefixSize + 1 + byteCount + 2)

end ClearModbus
