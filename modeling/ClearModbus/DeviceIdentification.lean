import ClearModbus.Protocol.Response
import Mathlib.Data.List.Sort

/-!
# Device identification in the server

The configured objects are a `dict` from object ids to values, normalized once by the constructor of
the server. A read selects the ids of its code from the starting id on, in ascending order, and fits
as many objects as the PDU has room for.
-/

namespace ClearModbus

inductive DeviceIdentificationValue where
  | bytes (value : Bytes)
  | str (text : String)
  deriving DecidableEq

/-- `value.encode()` of a `str`, `bytes(value)` of a `bytes`. -/
def DeviceIdentificationValue.toBytes : DeviceIdentificationValue → Bytes
  | .bytes value => value
  | .str text => text.toUTF8.toList

structure DeviceIdentificationConfig where
  items : List (Int × DeviceIdentificationValue)
  keys_nodup : (items.map Prod.fst).Nodup

structure DeviceIdentification where
  items : List (Int × Bytes)
  keys_nodup : (items.map Prod.fst).Nodup
  items_valid : ∀ item ∈ items,
    IsObjectId item.1 ∧ item.2.length ≤ maxDeviceIdentificationObjectLength

/-- The loop of `_normalize_device_identification`: every pair passes the checks of
`DeviceIdentificationObject`. -/
def normalizeItems : (objects : List (Int × DeviceIdentificationValue)) →
    Except PyError {items : List (Int × Bytes) //
      items.map Prod.fst = objects.map Prod.fst ∧ ∀ item ∈ items,
        IsObjectId item.1 ∧ item.2.length ≤ maxDeviceIdentificationObjectLength}
  | [] => .ok ⟨[], rfl, fun _ h => absurd h List.not_mem_nil⟩
  | (objectId, value) :: objects => do
      let encodedValue := value.toBytes
      let hid ← validateDeviceIdentificationObjectId objectId
      let hvalue ← validateDeviceIdentificationObjectValue encodedValue
      let rest ← normalizeItems objects
      return ⟨(objectId, encodedValue) :: rest.1, congrArg (objectId :: ·) rest.2.1,
        List.forall_mem_cons.mpr ⟨⟨hid.down, hvalue.down⟩, rest.2.2⟩⟩

def normalizeDeviceIdentification (objects : DeviceIdentificationConfig) :
    Except PyError DeviceIdentification := do
  let normalized ← normalizeItems objects.items
  return ⟨normalized.1, by
    rw [normalized.2.1]
    exact objects.keys_nodup, normalized.2.2⟩

namespace DeviceIdentification

def empty : DeviceIdentification := ⟨[], List.nodup_nil, fun _ h => absurd h List.not_mem_nil⟩

def keys (objects : DeviceIdentification) : List Int := objects.items.map Prod.fst

def value (objects : DeviceIdentification) (objectId : Int) : Except PyError Bytes :=
  match objects.items.lookup objectId with
  | some value => .ok value
  | none => .error .keyError

def sortedKeys (objects : DeviceIdentification) : List Int :=
  objects.keys.insertionSort (· ≤ ·)

end DeviceIdentification

def allowedObjectIds (readCode startObjectId : Int) : Int × Int :=
  if readCode = 1 then (0x00, 0x03)
  else if readCode = 2 then (0x00, 0x80)
  else if readCode = 3 then (0x00, 0x100)
  else (startObjectId, startObjectId + 1)

def isSelected (readCode startObjectId objectId : Int) : Bool :=
  let allowed := allowedObjectIds readCode startObjectId
  allowed.1 ≤ objectId ∧ objectId < allowed.2 ∧ objectId ≥ startObjectId

def selectDeviceIdentificationObjects (readCode startObjectId : Int)
    (objects : DeviceIdentification) : Except PyError (List DeviceIdentificationObject) :=
  (objects.sortedKeys.filter (isSelected readCode startObjectId)).mapM fun objectId => do
    let value ← objects.value objectId
    DeviceIdentificationObject.postInit objectId value

/-- The loop of `_fit_device_identification_objects`: the objects that fit, whether more follow, and
the id of the first that does not fit. -/
def fitObjects (remaining : Int) :
    List DeviceIdentificationObject → List DeviceIdentificationObject × Bool × Int
  | [] => ([], false, 0)
  | item :: items =>
      let itemSize : Int := 2 + item.value.length
      if itemSize > remaining then ([], true, item.objectId)
      else
        let (fitted, moreFollows, nextObjectId) := fitObjects (remaining - itemSize) items
        (item :: fitted, moreFollows, nextObjectId)

/-- The budget is a 253-byte PDU less the function code and the six-byte MEI header. -/
def fitDeviceIdentificationObjects (objects : List DeviceIdentificationObject) :
    List DeviceIdentificationObject × Bool × Int :=
  fitObjects (253 - 7) objects

def deviceIdentificationConformityLevel (objects : DeviceIdentification) : Int :=
  if objects.keys.any fun objectId => objectId ≥ 0x80 then 0x83
  else if objects.keys.any fun objectId => objectId > 0x02 then 0x82
  else 0x81

def readDeviceIdentification (request : ReadDeviceIdentificationRequest)
    (objects : DeviceIdentification) : Except PyError ResponsePDU :=
  if request.readCode = 4 ∧ request.objectId ∉ objects.keys then
    .ok (.exception ⟨0x2B, ExceptionCode.illegalDataAddress.code⟩)
  else do
    let selected ← selectDeviceIdentificationObjects request.readCode request.objectId objects
    let (responseObjects, moreFollows, nextObjectId) := fitDeviceIdentificationObjects selected
    let response ← ReadDeviceIdentificationResponse.postInit request.readCode
      (deviceIdentificationConformityLevel objects) responseObjects moreFollows nextObjectId
    return .readDeviceIdentification response

end ClearModbus
