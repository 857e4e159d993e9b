import ClearModbus.Protocol.Bits
import ClearModbus.Protocol.DeviceIdentification

/-!
# Request PDUs

A request carries the facts its `__post_init__` checks, so only requests the constructor accepts
exist. The constructors are the `postInit` functions; they check the fields in the order of the
source.
-/

namespace ClearModbus

abbrev maxReadRegisters : Int := 125
abbrev maxWriteRegisters : Int := 123
abbrev maxReadWriteRegistersWrite : Int := 121
abbrev maxRegisterValue : Int := 0xFFFF
abbrev maxReadBits : Int := 2000
abbrev maxWriteBits : Int := 1968
abbrev coilOn : Int := 0xFF00
abbrev coilOff : Int := 0x0000

abbrev IsRegisterAddress (address : Int) : Prop := 0 ≤ address ∧ address ≤ maxRegisterValue

abbrev IsCount (maxCount count : Int) : Prop := 1 ≤ count ∧ count ≤ maxCount

abbrev IsRegisterValue (value : Int) : Prop := 0 ≤ value ∧ value ≤ maxRegisterValue

def validateRegisterAddress (address : Int) : Except PyError (PLift (IsRegisterAddress address)) :=
  check _ (.valueError "address is not between 0 and 0xFFFF.")

def validateCount (count maxCount : Int) : Except PyError (PLift (IsCount maxCount count)) :=
  check _ (.valueError "count is not between 1 and max_count.")

def validateRegisterCount (count : Int) (maxCount : Int := maxReadRegisters) :
    Except PyError (PLift (IsCount maxCount count)) := validateCount count maxCount

def validateBitCount (count : Int) (maxCount : Int := maxReadBits) :
    Except PyError (PLift (IsCount maxCount count)) := validateCount count maxCount

def validateRegisterValue (value : Int) : Except PyError (PLift (IsRegisterValue value)) :=
  check _ (.valueError "value is not between 0 and 0xFFFF.")

def validateRegisterValues :
    (values : List Int) → Except PyError (PLift (∀ value ∈ values, IsRegisterValue value))
  | [] => .ok ⟨fun _ h => absurd h List.not_mem_nil⟩
  | value :: values => do
      let hvalue ← validateRegisterValue value
      let hvalues ← validateRegisterValues values
      return ⟨List.forall_mem_cons.mpr ⟨hvalue.down, hvalues.down⟩⟩

def requireBool (message : String) : PyObject → Except PyError Bool
  | .bool value => .ok value
  | _ => .error (.valueError message)

def requireBools :
    (values : List PyObject) → Except PyError {bits : List Bool // bits.length = values.length}
  | [] => .ok ⟨[], rfl⟩
  | value :: values => do
      let bit ← requireBool "coil values must be bools." value
      let bits ← requireBools values
      return ⟨bit :: bits.1, congrArg (· + 1) bits.2⟩

/-- A read request: they differ in the function code and the largest count. -/
structure ReadRequest (functionCode maxCount : Int) where
  address : Int
  count : Int
  address_valid : IsRegisterAddress address
  count_valid : IsCount maxCount count
  deriving DecidableEq, Repr

def ReadRequest.postInit (functionCode maxCount address count : Int) :
    Except PyError (ReadRequest functionCode maxCount) := do
  let haddress ← validateRegisterAddress address
  let hcount ← validateCount count maxCount
  return ⟨address, count, haddress.down, hcount.down⟩

def ReadRequest.encode {functionCode maxCount : Int} (request : ReadRequest functionCode maxCount) :
    Except PyError Bytes :=
  pack [.u8 functionCode, .u16 request.address, .u16 request.count]

abbrev ReadCoilsRequest := ReadRequest 0x01 maxReadBits
abbrev ReadDiscreteInputsRequest := ReadRequest 0x02 maxReadBits
abbrev ReadHoldingRegistersRequest := ReadRequest 0x03 maxReadRegisters
abbrev ReadInputRegistersRequest := ReadRequest 0x04 maxReadRegisters

structure WriteSingleRegisterRequest where
  address : Int
  value : Int
  address_valid : IsRegisterAddress address
  value_valid : IsRegisterValue value
  deriving DecidableEq, Repr

def WriteSingleRegisterRequest.postInit (address value : Int) :
    Except PyError WriteSingleRegisterRequest := do
  let haddress ← validateRegisterAddress address
  let hvalue ← validateRegisterValue value
  return ⟨address, value, haddress.down, hvalue.down⟩

def WriteSingleRegisterRequest.encode (request : WriteSingleRegisterRequest) :
    Except PyError Bytes :=
  pack [.u8 0x06, .u16 request.address, .u16 request.value]

structure WriteSingleCoilRequest where
  address : Int
  value : Bool
  address_valid : IsRegisterAddress address
  deriving DecidableEq, Repr

def WriteSingleCoilRequest.postInit (address : Int) (value : PyObject) :
    Except PyError WriteSingleCoilRequest := do
  let haddress ← validateRegisterAddress address
  let value ← requireBool "coil value must be a bool." value
  return ⟨address, value, haddress.down⟩

def WriteSingleCoilRequest.encode (request : WriteSingleCoilRequest) : Except PyError Bytes :=
  let encodedValue := if request.value then coilOn else coilOff
  pack [.u8 0x05, .u16 request.address, .u16 encodedValue]

structure WriteMultipleRegistersRequest where
  address : Int
  values : List Int
  address_valid : IsRegisterAddress address
  count_valid : IsCount maxWriteRegisters values.length
  values_valid : ∀ value ∈ values, IsRegisterValue value
  deriving DecidableEq, Repr

def WriteMultipleRegistersRequest.postInit (address : Int) (values : List Int) :
    Except PyError WriteMultipleRegistersRequest := do
  let haddress ← validateRegisterAddress address
  let hcount ← validateRegisterCount values.length maxWriteRegisters
  let hvalues ← validateRegisterValues values
  return ⟨address, values, haddress.down, hcount.down, hvalues.down⟩

def WriteMultipleRegistersRequest.encode (request : WriteMultipleRegistersRequest) :
    Except PyError Bytes :=
  let byteCount : Int := request.values.length * 2
  pack ([.u8 0x10, .u16 request.address, .u16 request.values.length, .u8 byteCount] ++
    request.values.map .u16)

structure WriteMultipleCoilsRequest where
  address : Int
  values : List Bool
  address_valid : IsRegisterAddress address
  count_valid : IsCount maxWriteBits values.length
  deriving DecidableEq, Repr

def WriteMultipleCoilsRequest.postInit (address : Int) (values : List PyObject) :
    Except PyError WriteMultipleCoilsRequest := do
  let haddress ← validateRegisterAddress address
  let hcount ← validateBitCount values.length maxWriteBits
  let bits ← requireBools values
  return ⟨address, bits.1, haddress.down, by
    rw [bits.2]
    exact hcount.down⟩

def WriteMultipleCoilsRequest.encode (request : WriteMultipleCoilsRequest) :
    Except PyError Bytes := do
  let packedValues ← packBits request.values
  let head ← pack [.u8 0x0F, .u16 request.address, .u16 request.values.length,
    .u8 packedValues.length]
  return head ++ packedValues

structure MaskWriteRegisterRequest where
  address : Int
  andMask : Int
  orMask : Int
  address_valid : IsRegisterAddress address
  andMask_valid : IsRegisterValue andMask
  orMask_valid : IsRegisterValue orMask
  deriving DecidableEq, Repr

def MaskWriteRegisterRequest.postInit (address andMask orMask : Int) :
    Except PyError MaskWriteRegisterRequest := do
  let haddress ← validateRegisterAddress address
  let hand ← validateRegisterValue andMask
  let hor ← validateRegisterValue orMask
  return ⟨address, andMask, orMask, haddress.down, hand.down, hor.down⟩

def MaskWriteRegisterRequest.encode (request : MaskWriteRegisterRequest) : Except PyError Bytes :=
  pack [.u8 0x16, .u16 request.address, .u16 request.andMask, .u16 request.orMask]

structure ReadWriteMultipleRegistersRequest where
  readAddress : Int
  readCount : Int
  writeAddress : Int
  values : List Int
  readAddress_valid : IsRegisterAddress readAddress
  readCount_valid : IsCount maxReadRegisters readCount
  writeAddress_valid : IsRegisterAddress writeAddress
  count_valid : IsCount maxReadWriteRegistersWrite values.length
  values_valid : ∀ value ∈ values, IsRegisterValue value
  deriving DecidableEq, Repr

def ReadWriteMultipleRegistersRequest.postInit (readAddress readCount writeAddress : Int)
    (values : List Int) : Except PyError ReadWriteMultipleRegistersRequest := do
  let hreadAddress ← validateRegisterAddress readAddress
  let hreadCount ← validateRegisterCount readCount
  let hwriteAddress ← validateRegisterAddress writeAddress
  let hcount ← validateRegisterCount values.length maxReadWriteRegistersWrite
  let hvalues ← validateRegisterValues values
  return ⟨readAddress, readCount, writeAddress, values, hreadAddress.down, hreadCount.down,
    hwriteAddress.down, hcount.down, hvalues.down⟩

def ReadWriteMultipleRegistersRequest.encode (request : ReadWriteMultipleRegistersRequest) :
    Except PyError Bytes :=
  let byteCount : Int := request.values.length * 2
  pack ([.u8 0x17, .u16 request.readAddress, .u16 request.readCount, .u16 request.writeAddress,
    .u16 request.values.length, .u8 byteCount] ++ request.values.map .u16)

inductive BuiltinRequest where
  | readCoils (request : ReadCoilsRequest)
  | readDiscreteInputs (request : ReadDiscreteInputsRequest)
  | readHoldingRegisters (request : ReadHoldingRegistersRequest)
  | readInputRegisters (request : ReadInputRegistersRequest)
  | writeSingleCoil (request : WriteSingleCoilRequest)
  | writeSingleRegister (request : WriteSingleRegisterRequest)
  | writeMultipleCoils (request : WriteMultipleCoilsRequest)
  | writeMultipleRegisters (request : WriteMultipleRegistersRequest)
  | maskWriteRegister (request : MaskWriteRegisterRequest)
  | readWriteMultipleRegisters (request : ReadWriteMultipleRegistersRequest)
  | readDeviceIdentification (request : ReadDeviceIdentificationRequest)
  deriving DecidableEq, Repr

/-- An object of a class outside the package that has a function code and an encoder. -/
structure CustomPDU where
  functionCode : Int
  encode : Except PyError Bytes
  deriving DecidableEq

inductive RequestPDU where
  | builtin (request : BuiltinRequest)
  | custom (request : CustomPDU)
  deriving DecidableEq

def BuiltinRequest.functionCode : BuiltinRequest → Int
  | .readCoils _ => 0x01
  | .readDiscreteInputs _ => 0x02
  | .readHoldingRegisters _ => 0x03
  | .readInputRegisters _ => 0x04
  | .writeSingleCoil _ => 0x05
  | .writeSingleRegister _ => 0x06
  | .writeMultipleCoils _ => 0x0F
  | .writeMultipleRegisters _ => 0x10
  | .maskWriteRegister _ => 0x16
  | .readWriteMultipleRegisters _ => 0x17
  | .readDeviceIdentification _ => 0x2B

def BuiltinRequest.encode : BuiltinRequest → Except PyError Bytes
  | .readCoils request => request.encode
  | .readDiscreteInputs request => request.encode
  | .readHoldingRegisters request => request.encode
  | .readInputRegisters request => request.encode
  | .writeSingleCoil request => request.encode
  | .writeSingleRegister request => request.encode
  | .writeMultipleCoils request => request.encode
  | .writeMultipleRegisters request => request.encode
  | .maskWriteRegister request => request.encode
  | .readWriteMultipleRegisters request => request.encode
  | .readDeviceIdentification request => request.encode

def RequestPDU.functionCode : RequestPDU → Int
  | .builtin request => request.functionCode
  | .custom request => request.functionCode

def RequestPDU.encode : RequestPDU → Except PyError Bytes
  | .builtin request => request.encode
  | .custom request => request.encode

end ClearModbus
