import ClearModbus.Proof.ResponseCodec

/-!
# The format of device-identification responses

The other direction of the codec: what `ReadDeviceIdentificationResponse.decode` accepts is the
layout of the response it returns, so encoding that response gives the payload back. The loop over
the objects has taken the layouts of the objects it returned, no more and no less.
-/

namespace ClearModbus

/-- A constructor that accepts its arguments keeps them. -/
theorem DeviceIdentificationObject.postInit_eq_ok {objectId : Int} {value : Bytes}
    {item : DeviceIdentificationObject} (h : postInit objectId value = .ok item) :
    item.objectId = objectId ∧ item.value = value := by
  obtain ⟨hid, _, h⟩ := Except.bind_eq_ok_iff.mp h
  obtain ⟨hvalue, _, h⟩ := Except.bind_eq_ok_iff.mp h
  cases h
  exact ⟨rfl, rfl⟩

theorem getItem_eq_ok {values : Bytes} {index : Nat} {value : UInt8}
    (h : getItem values (index : Int) = .ok value) :
    ∃ hindex : index < values.length, values[index] = value :=
  List.getElem?_eq_some_iff.mp (getItem_natCast_eq_ok_iff.mp h)

/-- The object at an offset: its layout is what the loop has gone past. -/
theorem take_wire_at {payload : Bytes} {offset : Nat} {objectId length : UInt8}
    {item : DeviceIdentificationObject}
    (hobject : getItem payload (offset : Int) = .ok objectId)
    (hlength : getItem payload ((offset + 1 : Nat) : Int) = .ok length)
    (hsize : offset + 2 + length.toNat ≤ payload.length)
    (hid : item.objectId = objectId.toNat)
    (hvalue : item.value = slice payload ((offset + 2 : Nat) : Int)
      ((offset + 2 + length.toNat : Nat) : Int)) :
    payload.take (offset + 2 + length.toNat) = payload.take offset ++ item.wire := by
  obtain ⟨hinside, hobject⟩ := getItem_eq_ok hobject
  obtain ⟨hnext, hlength⟩ := getItem_eq_ok hlength
  rw [slice_natCast (by omega) hsize] at hvalue
  have hbytes : item.value.length = length.toNat := by
    rw [hvalue, List.length_drop, List.length_take]
    omega
  have hwire : item.wire = [payload[offset], payload[offset + 1]] ++
      (payload.take (offset + 2 + length.toNat)).drop (offset + 2) := by
    rw [DeviceIdentificationObject.wire, hid, hbytes, ← hvalue, hobject, hlength]
    simp
  have hhead : payload.take (offset + 2) =
      payload.take offset ++ [payload[offset], payload[offset + 1]] := by
    rw [List.take_succ_eq_append_getElem hnext, List.take_succ_eq_append_getElem hinside,
      List.append_assoc]
    rfl
  calc payload.take (offset + 2 + length.toNat)
      = (payload.take (offset + 2 + length.toNat)).take (offset + 2) ++
          (payload.take (offset + 2 + length.toNat)).drop (offset + 2) :=
        (List.take_append_drop _ _).symm
    _ = payload.take (offset + 2) ++
          (payload.take (offset + 2 + length.toNat)).drop (offset + 2) := by
        rw [List.take_take, Nat.min_eq_left (by omega)]
    _ = payload.take offset ++ item.wire := by
        rw [hhead, hwire, List.append_assoc]

/-- The loop over the objects has gone past their layouts. -/
theorem decodeObjects_sound {payload : Bytes} {count offset last : Nat}
    {items : List DeviceIdentificationObject} (hoffset : offset ≤ payload.length)
    (h : decodeObjects payload count offset = .ok (items, last)) :
    items.length = count ∧ last ≤ payload.length ∧
      payload.take last = payload.take offset ++ objectsWire items := by
  induction count generalizing offset items with
  | zero =>
      cases h
      exact ⟨rfl, hoffset, (List.append_nil _).symm⟩
  | succ count ih =>
      rw [decodeObjects] at h
      split at h
      · cases h
      · obtain ⟨objectId, hobject, h⟩ := Except.bind_eq_ok_iff.mp h
        obtain ⟨length, hlength, h⟩ := Except.bind_eq_ok_iff.mp h
        dsimp only at h
        split at h
        · cases h
        · rename_i henough
          obtain ⟨item, hitem, h⟩ := Except.bind_eq_ok_iff.mp h
          obtain ⟨⟨rest, final⟩, hrest, h⟩ := Except.bind_eq_ok_iff.mp h
          cases h
          have hsize : offset + 2 + length.toNat ≤ payload.length := by omega
          obtain ⟨hid, hvalue⟩ := DeviceIdentificationObject.postInit_eq_ok hitem
          obtain ⟨hcount, hlast, htake⟩ := ih hsize hrest
          refine ⟨by rw [List.length_cons, hcount], hlast, ?_⟩
          rw [htake, take_wire_at hobject hlength hsize hid hvalue, objectsWire_cons,
            List.append_assoc]

namespace ReadDeviceIdentificationResponse

def payloadWire (response : ReadDeviceIdentificationResponse) : Bytes :=
  (ResponsePDU.wire (.readDeviceIdentification response)).tail

theorem postInit_eq_ok {readCode conformityLevel : Int} {objects : List DeviceIdentificationObject}
    {moreFollows : Bool} {nextObjectId meiType : Int} {response : ReadDeviceIdentificationResponse}
    (h : postInit readCode conformityLevel objects moreFollows nextObjectId meiType =
      .ok response) :
    response.readCode = readCode ∧ response.conformityLevel = conformityLevel ∧
      response.objects = objects ∧ response.moreFollows = moreFollows ∧
      response.nextObjectId = nextObjectId := by
  obtain ⟨hmei, _, h⟩ := Except.bind_eq_ok_iff.mp h
  obtain ⟨hcode, _, h⟩ := Except.bind_eq_ok_iff.mp h
  obtain ⟨hlevel, _, h⟩ := Except.bind_eq_ok_iff.mp h
  obtain ⟨hnext, _, h⟩ := Except.bind_eq_ok_iff.mp h
  obtain ⟨hobjects, _, h⟩ := Except.bind_eq_ok_iff.mp h
  cases h
  exact ⟨rfl, rfl, rfl, rfl, rfl⟩

theorem decode_sound {payload : Bytes} {response : ReadDeviceIdentificationResponse}
    (h : decode payload = .ok response) : response.payloadWire = payload := by
  match payload with
  | meiType :: readCode :: conformityLevel :: moreFollows :: nextObjectId :: count :: rest =>
      rw [decode] at h
      split at h
      · cases h
      · rename_i hmei
        split at h
        · cases h
        · rename_i hflag
          obtain ⟨⟨objects, offset⟩, hloop, h⟩ := Except.bind_eq_ok_iff.mp h
          dsimp only at h
          split at h
          · cases h
          · rename_i hend
            obtain ⟨hread, hlevel, hobjects, hmore, hnext⟩ := postInit_eq_ok h
            obtain ⟨hcount, _, htake⟩ := decodeObjects_sound (by simp) hloop
            rw [not_not.mp hend, List.take_length] at htake
            have hmeiByte : meiType = 0x0E := by
              have hmeiValue : (meiType.toNat : Int) = 0x0E := not_not.mp hmei
              apply UInt8.toNat_inj.mp
              change meiType.toNat = 14
              omega
            have hflagByte : (if decide (moreFollows = 0xFF) then (0xFF : UInt8) else 0x00) =
                moreFollows := by
              by_cases hset : moreFollows = 0xFF
              · simp [hset]
              · have hclear : moreFollows = 0x00 := by
                  by_contra hne
                  exact hflag ⟨hne, hset⟩
                simp [hclear]
            rw [payloadWire, ResponsePDU.wire, hread, hlevel, hobjects, hmore, hnext, hcount,
              byte_toNat, byte_toNat, byte_toNat, UInt8.ofNat_toNat, hflagByte, htake, hmeiByte]
            rfl
  | [] | [_] | [_, _] | [_, _, _] | [_, _, _, _] | [_, _, _, _, _] => cases h

/-- **The format is exact.** Every response is decoded from its own payload, and every payload that
is decoded is the encoding of what it is decoded to. -/
theorem decode_exact :
    (∀ response : ReadDeviceIdentificationResponse,
      ∃ data, response.encode = .ok data ∧ decode (data.drop 1) = .ok response) ∧
    (∀ payload response, decode payload = .ok response →
      response.encode = .ok (0x2B :: payload)) := by
  constructor
  · intro response
    exact ⟨_, response.encode_eq, response.decode_wire⟩
  · intro payload response h
    rw [response.encode_eq, ← decode_sound h]
    rfl

end ReadDeviceIdentificationResponse

end ClearModbus
