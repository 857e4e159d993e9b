import ClearModbus.Proof.ResponseCodec
import ClearModbus.DeviceIdentification

/-!
# Device identification in the server

The configured objects in ascending id order are one list, and every selection is a filter of it.
What is fitted into a response is a prefix of the selection that stays within the budget, so a read
always produces a response, unless it asks for a single object that is not configured.
-/

namespace ClearModbus

namespace DeviceIdentification

theorem exists_value_of_mem_keys {items : List (Int × Bytes)} {objectId : Int}
    (h : objectId ∈ items.map Prod.fst) :
    ∃ value, items.lookup objectId = some value ∧ (objectId, value) ∈ items := by
  induction items with
  | nil => cases h
  | cons item items ih =>
      obtain ⟨key, stored⟩ := item
      by_cases hkey : objectId = key
      · subst hkey
        exact ⟨stored, List.lookup_cons_self, List.mem_cons_self⟩
      · rw [List.map_cons, List.mem_cons] at h
        obtain ⟨value, hlookup, hmem⟩ := ih (h.resolve_left hkey)
        refine ⟨value, ?_, List.mem_cons_of_mem _ hmem⟩
        rw [List.lookup_cons, beq_false_of_ne hkey]
        exact hlookup

theorem mem_sortedKeys {objects : DeviceIdentification} {objectId : Int} :
    objectId ∈ objects.sortedKeys ↔ objectId ∈ objects.keys :=
  List.mem_insertionSort _

theorem pairwise_sortedKeys (objects : DeviceIdentification) :
    objects.sortedKeys.Pairwise (· < ·) := by
  have hsorted : objects.sortedKeys.Pairwise (· ≤ ·) :=
    List.pairwise_insertionSort (· ≤ ·) objects.keys
  have hnodup : objects.sortedKeys.Pairwise (· ≠ ·) :=
    (List.perm_insertionSort (· ≤ ·) objects.keys).nodup_iff.mpr objects.keys_nodup
  exact (hsorted.and hnodup).imp fun h => lt_of_le_of_ne h.1 h.2

/-- Reading the configured values never raises. -/
theorem exists_objects (objects : DeviceIdentification) {ids : List Int}
    (h : ∀ objectId ∈ ids, objectId ∈ objects.keys) :
    ∃ items : List DeviceIdentificationObject, items.map (·.objectId) = ids ∧
      (∀ item ∈ items, (item.objectId, item.value) ∈ objects.items) ∧
      ∀ selects : Int → Bool, ((ids.filter selects).mapM fun objectId => do
        let value ← objects.value objectId
        DeviceIdentificationObject.postInit objectId value) =
          .ok (items.filter fun item => selects item.objectId) := by
  induction ids with
  | nil => exact ⟨[], rfl, fun _ hmem => absurd hmem List.not_mem_nil, fun _ => rfl⟩
  | cons objectId ids ih =>
      obtain ⟨items, hids, hitems, hselect⟩ :=
        ih fun other hmem => h other (List.mem_cons_of_mem _ hmem)
      obtain ⟨value, hlookup, hmem⟩ := exists_value_of_mem_keys (h objectId List.mem_cons_self)
      obtain ⟨hid, hvalue⟩ := objects.items_valid _ hmem
      let item : DeviceIdentificationObject := ⟨objectId, value, hid, hvalue⟩
      refine ⟨item :: items, by rw [List.map_cons, hids],
        List.forall_mem_cons.mpr ⟨hmem, hitems⟩, fun selects => ?_⟩
      have hread : objects.value objectId = .ok value := by
        rw [DeviceIdentification.value, hlookup]
      by_cases hselected : selects objectId
      · have hkeep : (item :: items).filter (fun item => selects item.objectId) =
            item :: items.filter fun item => selects item.objectId :=
          List.filter_cons_of_pos hselected
        rw [List.filter_cons_of_pos hselected, hkeep, List.mapM_cons, hread, Except.ok_bind,
          item.postInit_self, Except.ok_bind, hselect]
        rfl
      · have hdrop : (item :: items).filter (fun item => selects item.objectId) =
            items.filter fun item => selects item.objectId :=
          List.filter_cons_of_neg hselected
        rw [List.filter_cons_of_neg hselected, hdrop, hselect]

/-- The configured objects in ascending id order, of which every selection is a filter. -/
theorem exists_sortedObjects (objects : DeviceIdentification) :
    ∃ items : List DeviceIdentificationObject,
      items.map (·.objectId) = objects.sortedKeys ∧
      (∀ item ∈ items, (item.objectId, item.value) ∈ objects.items) ∧
      ∀ readCode startObjectId, selectDeviceIdentificationObjects readCode startObjectId objects =
        .ok (items.filter fun item => isSelected readCode startObjectId item.objectId) := by
  obtain ⟨items, hids, hitems, hselect⟩ :=
    objects.exists_objects fun objectId hmem => mem_sortedKeys.mp hmem
  exact ⟨items, hids, hitems, fun readCode startObjectId =>
    hselect (isSelected readCode startObjectId)⟩

end DeviceIdentification

/-- What a fitted response leaves behind: nothing and no continuation, or a next object that is too
large for what remains of the budget. -/
theorem fitObjects_spec (remaining : Int) (items : List DeviceIdentificationObject) :
    ∃ rest, items = (fitObjects remaining items).1 ++ rest ∧
      ((rest = [] ∧ (fitObjects remaining items).2 = (false, 0)) ∨
        ∃ next tail, rest = next :: tail ∧
          (fitObjects remaining items).2 = (true, next.objectId)) := by
  induction items generalizing remaining with
  | nil => exact ⟨[], rfl, .inl ⟨rfl, rfl⟩⟩
  | cons item items ih =>
      by_cases hsize : (2 + item.value.length : Int) > remaining
      · have hfit : fitObjects remaining (item :: items) = ([], true, item.objectId) := by
          rw [fitObjects, if_pos hsize]
        exact ⟨item :: items, by rw [hfit]; rfl, .inr ⟨item, items, rfl, by rw [hfit]⟩⟩
      · obtain ⟨rest, hrest, hcases⟩ := ih (remaining - (2 + item.value.length))
        have hfit : fitObjects remaining (item :: items) =
            (item :: (fitObjects (remaining - (2 + item.value.length)) items).1,
              (fitObjects (remaining - (2 + item.value.length)) items).2) := by
          rw [fitObjects, if_neg hsize]
        rw [hfit]
        exact ⟨rest, by rw [List.cons_append, ← hrest], hcases⟩

/-- The fitted objects stay within the budget. -/
theorem length_objectsWire_fitObjects {remaining : Int} (hremaining : 0 ≤ remaining)
    (items : List DeviceIdentificationObject) :
    ((objectsWire (fitObjects remaining items).1).length : Int) ≤ remaining := by
  induction items generalizing remaining with
  | nil => exact hremaining
  | cons item items ih =>
      by_cases hsize : (2 + item.value.length : Int) > remaining
      · rw [fitObjects, if_pos hsize]
        exact hremaining
      · have hrest := ih (show 0 ≤ remaining - (2 + item.value.length) by omega)
        rw [fitObjects, if_neg hsize]
        simp only [objectsWire_cons, List.length_append, DeviceIdentificationObject.length_wire]
        omega

theorem two_mul_length_le_length_objectsWire (items : List DeviceIdentificationObject) :
    2 * items.length ≤ (objectsWire items).length := by
  induction items with
  | nil => rfl
  | cons item items ih =>
      rw [List.length_cons, objectsWire_cons, List.length_append,
        DeviceIdentificationObject.length_wire]
      omega

/-- The largest object just fits into an empty response. -/
theorem fitDeviceIdentificationObjects_ne_nil (item : DeviceIdentificationObject)
    (items : List DeviceIdentificationObject) :
    (fitDeviceIdentificationObjects (item :: items)).1 ≠ [] := by
  have hmax : maxDeviceIdentificationObjectLength = 244 := rfl
  have hvalue := item.value_valid
  rw [fitDeviceIdentificationObjects, fitObjects, if_neg (by omega)]
  exact List.cons_ne_nil _ _

theorem isConformityLevel_deviceIdentification (objects : DeviceIdentification) :
    IsConformityLevel (deviceIdentificationConformityLevel objects) := by
  unfold deviceIdentificationConformityLevel IsConformityLevel
  split
  · omega
  · split <;> omega

/-- A read answers with the objects that fit, unless it asks for one object that is not
configured. -/
theorem exists_readDeviceIdentification (request : ReadDeviceIdentificationRequest)
    (objects : DeviceIdentification) (h : ¬(request.readCode = 4 ∧ request.objectId ∉ objects.keys))
    {selected : List DeviceIdentificationObject}
    (hselected : selectDeviceIdentificationObjects request.readCode request.objectId objects =
      .ok selected) :
    ∃ response : ReadDeviceIdentificationResponse,
      readDeviceIdentification request objects = .ok (.readDeviceIdentification response) ∧
        response.readCode = request.readCode ∧
        response.objects = (fitDeviceIdentificationObjects selected).1 ∧
        (response.moreFollows, response.nextObjectId) =
          (fitDeviceIdentificationObjects selected).2 := by
  have hbudget := length_objectsWire_fitObjects (by decide : (0 : Int) ≤ 253 - 7) selected
  have hcount := two_mul_length_le_length_objectsWire (fitObjects (253 - 7) selected).1
  have hobjects : (fitDeviceIdentificationObjects selected).1.length ≤ 0xFF := by
    unfold fitDeviceIdentificationObjects
    omega
  have hnext : IsObjectId (fitDeviceIdentificationObjects selected).2.2 := by
    obtain ⟨rest, -, hcases⟩ := fitObjects_spec (253 - 7) selected
    unfold fitDeviceIdentificationObjects
    rcases hcases with ⟨-, hfit⟩ | ⟨next, tail, -, hfit⟩
    · rw [hfit]
      decide
    · rw [hfit]
      exact next.objectId_valid
  refine ⟨⟨request.readCode, deviceIdentificationConformityLevel objects,
    (fitDeviceIdentificationObjects selected).1, (fitDeviceIdentificationObjects selected).2.1,
    (fitDeviceIdentificationObjects selected).2.2, 0x0E, rfl, request.readCode_valid,
    isConformityLevel_deviceIdentification objects, hnext, hobjects⟩, ?_, rfl, rfl, rfl⟩
  rw [readDeviceIdentification, if_neg h, hselected, Except.ok_bind]
  simp only [ReadDeviceIdentificationResponse.postInit]
  rw [validateMeiType, check_pos _ rfl, validateReadCode, check_pos _ request.readCode_valid,
    check_pos _ (isConformityLevel_deviceIdentification objects),
    validateDeviceIdentificationObjectId, check_pos _ hnext, check_pos _ hobjects]
  rfl

end ClearModbus
