import ClearModbus.Python
import Mathlib.Data.Int.Bitwise

namespace ClearModbus

inductive FunctionCode where
  | readCoils
  | readDiscreteInputs
  | readHoldingRegisters
  | readInputRegisters
  | writeSingleCoil
  | writeSingleRegister
  | writeMultipleCoils
  | writeMultipleRegisters
  | maskWriteRegister
  | readWriteMultipleRegisters
  | encapsulatedInterfaceTransport
  deriving DecidableEq, Repr

def FunctionCode.code : FunctionCode → Int
  | .readCoils => 0x01
  | .readDiscreteInputs => 0x02
  | .readHoldingRegisters => 0x03
  | .readInputRegisters => 0x04
  | .writeSingleCoil => 0x05
  | .writeSingleRegister => 0x06
  | .writeMultipleCoils => 0x0F
  | .writeMultipleRegisters => 0x10
  | .maskWriteRegister => 0x16
  | .readWriteMultipleRegisters => 0x17
  | .encapsulatedInterfaceTransport => 0x2B

inductive ExceptionCode where
  | illegalFunction
  | illegalDataAddress
  | illegalDataValue
  | serverDeviceFailure
  | acknowledge
  | serverDeviceBusy
  | memoryParityError
  | gatewayPathUnavailable
  | gatewayTargetDeviceFailedToRespond
  deriving DecidableEq, Repr

def ExceptionCode.code : ExceptionCode → Int
  | .illegalFunction => 0x01
  | .illegalDataAddress => 0x02
  | .illegalDataValue => 0x03
  | .serverDeviceFailure => 0x04
  | .acknowledge => 0x05
  | .serverDeviceBusy => 0x06
  | .memoryParityError => 0x08
  | .gatewayPathUnavailable => 0x0A
  | .gatewayTargetDeviceFailedToRespond => 0x0B

/-- Whether the high exception bit is set. -/
def isExceptionFunctionCode (functionCode : Int) : Bool := Int.land functionCode 0x80 ≠ 0

end ClearModbus
