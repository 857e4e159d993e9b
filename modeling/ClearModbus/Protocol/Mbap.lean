import ClearModbus.Protocol.Decode

/-!
# Modbus TCP frames

The MBAP header counts the unit id and the PDU in its length field. The codec matches a response
frame with the transaction id and the unit id of its request.
-/

namespace ClearModbus

abbrev modbusTcpProtocolId : Int := 0

structure MBAPHeader where
  transactionId : Int
  protocolId : Int
  length : Int
  unitId : Int
  deriving DecidableEq, Repr

def MBAPHeader.encode (header : MBAPHeader) : Except PyError Bytes :=
  pack [.u16 header.transactionId, .u16 header.protocolId, .u16 header.length, .u8 header.unitId]

def MBAPHeader.decode (data : Bytes) : Except PyError MBAPHeader :=
  if data.length ≠ 7 then .error (.modbusFrameError "MBAP header must be exactly 7 bytes.")
  else do
    let (transactionId, protocolId, length, unitId) ← unpackHHHB data
    return ⟨transactionId, protocolId, length, unitId⟩

structure ModbusTCPFrame where
  transactionId : Int
  unitId : Int
  pdu : Bytes
  protocolId : Int := modbusTcpProtocolId
  deriving DecidableEq, Repr

def ModbusTCPFrame.encode (frame : ModbusTCPFrame) : Except PyError Bytes := do
  let length : Int := 1 + frame.pdu.length
  let header : MBAPHeader := ⟨frame.transactionId, frame.protocolId, length, frame.unitId⟩
  let head ← header.encode
  return head ++ frame.pdu

def ModbusTCPFrame.decode (data : Bytes) : Except PyError ModbusTCPFrame := do
  let header ← MBAPHeader.decode (data.take 7)
  let pdu := data.drop 7
  if header.protocolId ≠ modbusTcpProtocolId then
    throw (.modbusFrameError "MBAP protocol id must be 0 for Modbus TCP.")
  else if header.length ≠ 1 + pdu.length then
    throw (.modbusFrameError "MBAP length does not match PDU length.")
  else
    return ⟨header.transactionId, header.unitId, pdu, header.protocolId⟩

namespace ModbusTCPCodec

def encodeRequest (request : RequestPDU) (transactionId unitId : Int) : Except PyError Bytes := do
  let pdu ← request.encode
  let frame : ModbusTCPFrame := { transactionId, unitId, pdu }
  frame.encode

def decodeResponse (registry : CustomFunctionCodeRegistry) (data : Bytes) (request : RequestPDU)
    (expectedTransactionId expectedUnitId : Int) : Except PyError ResponsePDU := do
  let frame ← ModbusTCPFrame.decode data
  if frame.transactionId ≠ expectedTransactionId then
    throw (.modbusResponseMismatchError "Response transaction id does not match request.")
  else if frame.unitId ≠ expectedUnitId then
    throw (.modbusResponseMismatchError "Response unit id does not match request.")
  else
    decodeResponsePdu registry frame.pdu request

end ModbusTCPCodec

end ClearModbus
