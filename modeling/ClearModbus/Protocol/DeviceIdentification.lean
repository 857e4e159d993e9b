import ClearModbus.Protocol.Functions

/-!
# Device-identification PDUs

The one request that does not read or write the areas, the objects it asks for and its response. All
three validate their fields.
-/

namespace ClearModbus

abbrev readDeviceIdentificationMeiType : Int := 0x0E
abbrev maxDeviceIdentificationObjectLength : Nat := 244

abbrev IsObjectId (objectId : Int) : Prop := 0 ≤ objectId ∧ objectId ≤ 0xFF

abbrev IsReadCode (readCode : Int) : Prop :=
  readCode = 0x01 ∨ readCode = 0x02 ∨ readCode = 0x03 ∨ readCode = 0x04

def validateDeviceIdentificationObjectId (objectId : Int) :
    Except PyError (PLift (IsObjectId objectId)) :=
  check _ (.valueError "object_id is not between 0 and 0xFF.")

def validateReadCode (readCode : Int) : Except PyError (PLift (IsReadCode readCode)) :=
  check _ (.valueError "read_code must be between 0x01 and 0x04.")

def validateMeiType (meiType : Int) :
    Except PyError (PLift (meiType = readDeviceIdentificationMeiType)) :=
  check _ (.valueError "MEI type must be 0x0E for Read Device Identification.")

structure ReadDeviceIdentificationRequest where
  readCode : Int
  objectId : Int
  meiType : Int
  meiType_valid : meiType = readDeviceIdentificationMeiType
  readCode_valid : IsReadCode readCode
  objectId_valid : IsObjectId objectId
  deriving DecidableEq, Repr

def ReadDeviceIdentificationRequest.postInit (readCode : Int) (objectId : Int := 0)
    (meiType : Int := readDeviceIdentificationMeiType) :
    Except PyError ReadDeviceIdentificationRequest := do
  let hmei ← validateMeiType meiType
  let hcode ← validateReadCode readCode
  let hid ← validateDeviceIdentificationObjectId objectId
  return ⟨readCode, objectId, meiType, hmei.down, hcode.down, hid.down⟩

def ReadDeviceIdentificationRequest.encode (request : ReadDeviceIdentificationRequest) :
    Except PyError Bytes :=
  bytesOf [0x2B, request.meiType, request.readCode, request.objectId]

structure DeviceIdentificationObject where
  objectId : Int
  value : Bytes
  objectId_valid : IsObjectId objectId
  value_valid : value.length ≤ maxDeviceIdentificationObjectLength
  deriving DecidableEq, Repr

def validateDeviceIdentificationObjectValue (value : Bytes) :
    Except PyError (PLift (value.length ≤ maxDeviceIdentificationObjectLength)) :=
  check _ (.valueError "object value is longer than 244 bytes.")

def DeviceIdentificationObject.postInit (objectId : Int) (value : Bytes) :
    Except PyError DeviceIdentificationObject := do
  let hid ← validateDeviceIdentificationObjectId objectId
  let hvalue ← validateDeviceIdentificationObjectValue value
  return ⟨objectId, value, hid.down, hvalue.down⟩

abbrev IsConformityLevel (level : Int) : Prop :=
  level = 0x01 ∨ level = 0x02 ∨ level = 0x03 ∨ level = 0x81 ∨ level = 0x82 ∨ level = 0x83

structure ReadDeviceIdentificationResponse where
  readCode : Int
  conformityLevel : Int
  objects : List DeviceIdentificationObject
  moreFollows : Bool
  nextObjectId : Int
  meiType : Int
  meiType_valid : meiType = readDeviceIdentificationMeiType
  readCode_valid : IsReadCode readCode
  conformityLevel_valid : IsConformityLevel conformityLevel
  nextObjectId_valid : IsObjectId nextObjectId
  objects_valid : objects.length ≤ 0xFF
  deriving DecidableEq, Repr

def ReadDeviceIdentificationResponse.postInit (readCode conformityLevel : Int)
    (objects : List DeviceIdentificationObject) (moreFollows : Bool := false)
    (nextObjectId : Int := 0) (meiType : Int := readDeviceIdentificationMeiType) :
    Except PyError ReadDeviceIdentificationResponse := do
  let hmei ← validateMeiType meiType
  let hcode ← validateReadCode readCode
  let hlevel ← check (IsConformityLevel conformityLevel) (.valueError "invalid conformity level.")
  let hnext ← validateDeviceIdentificationObjectId nextObjectId
  let hobjects ← check (objects.length ≤ 0xFF)
    (.valueError "too many device identification objects.")
  return ⟨readCode, conformityLevel, objects, moreFollows, nextObjectId, meiType, hmei.down,
    hcode.down, hlevel.down, hnext.down, hobjects.down⟩

def encodeObjects : List DeviceIdentificationObject → Except PyError Bytes
  | [] => .ok []
  | item :: items => do
      let head ← bytesOf [item.objectId, item.value.length]
      let rest ← encodeObjects items
      return head ++ item.value ++ rest

def ReadDeviceIdentificationResponse.encode (response : ReadDeviceIdentificationResponse) :
    Except PyError Bytes := do
  let head ← bytesOf [0x2B, response.meiType, response.readCode, response.conformityLevel,
    if response.moreFollows then 0xFF else 0x00, response.nextObjectId, response.objects.length]
  let objects ← encodeObjects response.objects
  return head ++ objects

/-- The loop of `decode`: `count` objects from `offset` on, and the offset behind the last one. -/
def decodeObjects (payload : Bytes) :
    (count offset : Nat) → Except PyError (List DeviceIdentificationObject × Nat)
  | 0, offset => .ok ([], offset)
  | count + 1, offset =>
      if (payload.length : Int) - offset < 2 then
        .error (.valueError "device identification object header is incomplete.")
      else do
        let objectId ← getItem payload (offset : Int)
        let length ← getItem payload ((offset + 1 : Nat) : Int)
        let start := offset + 2
        if (payload.length : Int) - start < length.toNat then
          throw (.valueError "device identification object value is incomplete.")
        else
          let stop := start + length.toNat
          let item ← DeviceIdentificationObject.postInit objectId.toNat (slice payload start stop)
          let (items, last) ← decodeObjects payload count stop
          return (item :: items, last)

def ReadDeviceIdentificationResponse.decode (payload : Bytes) :
    Except PyError ReadDeviceIdentificationResponse :=
  match payload with
  | meiType :: readCode :: conformityLevel :: moreFollows :: nextObjectId :: count :: _ =>
      if (meiType.toNat : Int) ≠ readDeviceIdentificationMeiType then
        .error (.valueError "MEI type must be 0x0E for Read Device Identification.")
      else if moreFollows ≠ 0x00 ∧ moreFollows ≠ 0xFF then
        .error (.valueError "more_follows must be 0x00 or 0xFF.")
      else do
        let (objects, offset) ← decodeObjects payload count.toNat 6
        if offset ≠ payload.length then
          throw (.valueError "extra bytes after device identification objects.")
        else
          ReadDeviceIdentificationResponse.postInit readCode.toNat conformityLevel.toNat objects
            (moreFollows = 0xFF) nextObjectId.toNat meiType.toNat
  | _ => .error (.valueError "read device identification response is too short.")

end ClearModbus
