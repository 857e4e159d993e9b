import ClearModbus.Proof.Dispatch

/-!
# Paging through the device identification

A client asks again with the continuation id while more objects follow. What is still selected after
a response is the part that did not fit, and since the largest object fits into an empty response,
every round makes progress.
-/

namespace ClearModbus

def objectIdLimit (readCode : Int) : Int :=
  if readCode = 1 then 0x03 else if readCode = 2 then 0x80 else 0x100

theorem isSelected_iff {readCode : Int} (hcode : readCode = 1 ∨ readCode = 2 ∨ readCode = 3)
    (startObjectId objectId : Int) :
    isSelected readCode startObjectId objectId = true ↔
      0 ≤ objectId ∧ objectId < objectIdLimit readCode ∧ startObjectId ≤ objectId := by
  rcases hcode with rfl | rfl | rfl <;>
    simp [isSelected, allowedObjectIds, objectIdLimit]

inductive Exchange (server : ModbusTcpServer) (store : MemoryDataStore) (readCode : Int) :
    Int → List ReadDeviceIdentificationResponse → Prop where
  | last {startObjectId : Int} {request : ReadDeviceIdentificationRequest}
      {response : ReadDeviceIdentificationResponse}
      (hrequest : ReadDeviceIdentificationRequest.postInit readCode startObjectId = .ok request)
      (hanswer : Exec.runOn (server.handleRequest (.builtin (.readDeviceIdentification request)))
        store = (.ok (.readDeviceIdentification response), store))
      (hlast : response.moreFollows = false) :
      Exchange server store readCode startObjectId [response]
  | more {startObjectId : Int} {request : ReadDeviceIdentificationRequest}
      {response : ReadDeviceIdentificationResponse}
      {responses : List ReadDeviceIdentificationResponse}
      (hrequest : ReadDeviceIdentificationRequest.postInit readCode startObjectId = .ok request)
      (hanswer : Exec.runOn (server.handleRequest (.builtin (.readDeviceIdentification request)))
        store = (.ok (.readDeviceIdentification response), store))
      (hmore : response.moreFollows = true)
      (hrest : Exchange server store readCode response.nextObjectId responses) :
      Exchange server store readCode startObjectId (response :: responses)

namespace Exchange

variable {server : ModbusTcpServer} {store : MemoryDataStore} {readCode startObjectId : Int}

theorem answer_unique {left right : ReadDeviceIdentificationRequest}
    {leftResponse rightResponse : ReadDeviceIdentificationResponse}
    (hleft : ReadDeviceIdentificationRequest.postInit readCode startObjectId = .ok left)
    (hright : ReadDeviceIdentificationRequest.postInit readCode startObjectId = .ok right)
    (hleftAnswer : Exec.runOn (server.handleRequest (.builtin (.readDeviceIdentification left)))
      store = (.ok (.readDeviceIdentification leftResponse), store))
    (hrightAnswer : Exec.runOn (server.handleRequest (.builtin (.readDeviceIdentification right)))
      store = (.ok (.readDeviceIdentification rightResponse), store)) :
    leftResponse = rightResponse := by
  obtain rfl : left = right := Except.ok.inj (hleft.symm.trans hright)
  rw [hleftAnswer] at hrightAnswer
  simpa using hrightAnswer

/-- The server leaves a client no choice. -/
theorem unique {left right : List ReadDeviceIdentificationResponse}
    (hleft : Exchange server store readCode startObjectId left)
    (hright : Exchange server store readCode startObjectId right) : left = right := by
  induction hleft generalizing right with
  | last hrequest hanswer hlast =>
      cases hright with
      | last hrequest' hanswer' hlast' => rw [answer_unique hrequest hrequest' hanswer hanswer']
      | more hrequest' hanswer' hmore hrest =>
          rw [answer_unique hrequest hrequest' hanswer hanswer', hmore] at hlast
          cases hlast
  | more hrequest hanswer hmore hrest ih =>
      cases hright with
      | last hrequest' hanswer' hlast =>
          rw [answer_unique hrequest hrequest' hanswer hanswer', hlast] at hmore
          cases hmore
      | more hrequest' hanswer' hmore' hrest' =>
          obtain rfl := answer_unique hrequest hrequest' hanswer hanswer'
          rw [ih hrest']

end Exchange

/-- Every response that announces more carries an object and continues behind all ids sent so
far. -/
def Progresses (responses : List ReadDeviceIdentificationResponse) : Prop :=
  ∀ before response after, responses = before ++ response :: after →
    response.moreFollows = true → response.objects ≠ [] ∧
      ∀ sent ∈ before ++ [response], ∀ item ∈ sent.objects,
        item.objectId < response.nextObjectId

theorem progresses_singleton {response : ReadDeviceIdentificationResponse}
    (hlast : response.moreFollows = false) : Progresses [response] := by
  intro before other after hsplit hmore
  have hmem : other ∈ [response] := by
    rw [hsplit]
    exact List.mem_append_right _ List.mem_cons_self
  rw [List.mem_singleton.mp hmem, hlast] at hmore
  cases hmore

theorem progresses_cons {response : ReadDeviceIdentificationResponse}
    {responses : List ReadDeviceIdentificationResponse} (hobjects : response.objects ≠ [])
    (hbelow : ∀ item ∈ response.objects, item.objectId < response.nextObjectId)
    (habove : ∀ item ∈ responses.flatMap (·.objects), response.nextObjectId ≤ item.objectId)
    (hrest : Progresses responses) : Progresses (response :: responses) := by
  intro before other after hsplit hmore
  cases before with
  | nil =>
      obtain ⟨rfl, -⟩ := List.cons.inj hsplit
      refine ⟨hobjects, fun sent hsent => ?_⟩
      rw [List.nil_append, List.mem_singleton] at hsent
      rw [hsent]
      exact hbelow
  | cons first before =>
      obtain ⟨hfirst, hrestSplit⟩ := List.cons.inj hsplit
      obtain ⟨hother, hsent⟩ := hrest before other after hrestSplit hmore
      refine ⟨hother, fun sent hmem item hitem => ?_⟩
      rcases List.mem_cons.mp hmem with hsentFirst | hmem
      · -- An object of the later response lies between the two.
        obtain ⟨witness, hwitness⟩ := List.exists_mem_of_ne_nil _ hother
        have hmiddle : response.nextObjectId ≤ witness.objectId := by
          refine habove witness (List.mem_flatMap.mpr ⟨other, ?_, hwitness⟩)
          rw [hrestSplit]
          exact List.mem_append_right _ List.mem_cons_self
        have hlast := hsent other (List.mem_append_right _ (List.mem_singleton.mpr rfl)) witness
          hwitness
        rw [hsentFirst, ← hfirst] at hitem
        have hsentBelow := hbelow item hitem
        omega
      · exact hsent sent hmem item hitem

section Selection

variable {items : List DeviceIdentificationObject} {readCode : Int}

/-- Asking from the first object that was left out selects what was left out. -/
theorem filter_isSelected_next (hcode : readCode = 1 ∨ readCode = 2 ∨ readCode = 3)
    (hsorted : items.Pairwise fun left right => left.objectId < right.objectId)
    {startObjectId : Int} {fitted tail : List DeviceIdentificationObject}
    {next : DeviceIdentificationObject}
    (hselected : items.filter (fun item => isSelected readCode startObjectId item.objectId) =
      fitted ++ next :: tail) :
    items.filter (fun item => isSelected readCode next.objectId item.objectId) = next :: tail := by
  have hnext : next ∈ items.filter fun item =>
      isSelected readCode startObjectId item.objectId := by
    rw [hselected]
    exact List.mem_append_right _ List.mem_cons_self
  have hstart := ((isSelected_iff hcode _ _).mp (List.mem_filter.mp hnext).2).2.2
  have hrefine : ∀ item ∈ items, isSelected readCode next.objectId item.objectId =
      (isSelected readCode startObjectId item.objectId &&
        decide (next.objectId ≤ item.objectId)) := by
    intro item _
    rw [Bool.eq_iff_iff, Bool.and_eq_true, isSelected_iff hcode, isSelected_iff hcode,
      decide_eq_true_eq]
    omega
  have hpairwise := hsorted.filter fun item => isSelected readCode startObjectId item.objectId
  rw [hselected, List.pairwise_append, List.pairwise_cons] at hpairwise
  obtain ⟨-, ⟨htail, -⟩, hfitted⟩ := hpairwise
  calc
    items.filter (fun item => isSelected readCode next.objectId item.objectId)
      = (items.filter fun item => isSelected readCode startObjectId item.objectId).filter
          fun item => decide (next.objectId ≤ item.objectId) := by
        rw [List.filter_filter]
        refine List.filter_congr fun item hitem => ?_
        rw [hrefine item hitem, Bool.and_comm]
    _ = (fitted ++ next :: tail).filter fun item => decide (next.objectId ≤ item.objectId) := by
        rw [hselected]
    _ = next :: tail := by
        rw [List.filter_append, List.filter_eq_nil_iff.mpr, List.nil_append,
          List.filter_eq_self.mpr]
        · intro item hitem
          rcases List.mem_cons.mp hitem with rfl | hitem
          · simp
          · simpa using (htail item hitem).le
        · intro item hitem
          simpa using hfitted item hitem next List.mem_cons_self

end Selection

/-- One round: the response carries the whole selection and is the last one, or it carries a part
that is not empty and continues at the first object left out. -/
theorem exists_round (server : ModbusTcpServer) (store : MemoryDataStore) {readCode : Int}
    (hcode : readCode = 1 ∨ readCode = 2 ∨ readCode = 3)
    {selected : List DeviceIdentificationObject} {startObjectId : Int}
    (hselect : selectDeviceIdentificationObjects readCode startObjectId
      server.deviceIdentification = .ok selected) (hstart : IsObjectId startObjectId) :
    ∃ request response,
      ReadDeviceIdentificationRequest.postInit readCode startObjectId = .ok request ∧
      Exec.runOn (server.handleRequest (.builtin (.readDeviceIdentification request))) store =
        (.ok (.readDeviceIdentification response), store) ∧
      (response.moreFollows = false ∧ response.objects = selected ∨
        ∃ next tail, response.moreFollows = true ∧ response.nextObjectId = next.objectId ∧
          response.objects ≠ [] ∧ selected = response.objects ++ next :: tail) := by
  have hreadCode : IsReadCode readCode := by omega
  let request : ReadDeviceIdentificationRequest :=
    ⟨readCode, startObjectId, 0x0E, rfl, hreadCode, hstart⟩
  have hrequest : ReadDeviceIdentificationRequest.postInit readCode startObjectId =
      .ok request := ReadDeviceIdentificationRequest.postInit_eq_ok_iff.mpr ⟨rfl, rfl, rfl⟩
  have hconfigured : ¬(request.readCode = 4 ∧
      request.objectId ∉ server.deviceIdentification.keys) := by
    rintro ⟨hfour, -⟩
    change readCode = 4 at hfour
    omega
  obtain ⟨response, hread, -, hobjects, hfit⟩ := exists_readDeviceIdentification request
    server.deviceIdentification hconfigured hselect
  have hanswer : Exec.runOn
      (server.handleRequest (.builtin (.readDeviceIdentification request))) store =
        (.ok (.readDeviceIdentification response), store) := by
    apply ModbusTcpServer.runOn_handleRequest_of_ok
    change Exec.runOn (liftM (readDeviceIdentification request server.deviceIdentification))
      store = _
    rw [hread]
    rfl
  obtain ⟨rest, hsplit, hcases⟩ := fitObjects_spec (253 - 7) selected
  rw [← fitDeviceIdentificationObjects, ← hobjects] at hsplit
  rw [← fitDeviceIdentificationObjects, ← hfit] at hcases
  refine ⟨request, response, hrequest, hanswer, ?_⟩
  rcases hcases with ⟨rfl, hlast⟩ | ⟨next, tail, rfl, hmore⟩
  · obtain ⟨hlast, -⟩ := Prod.mk.inj hlast
    rw [List.append_nil] at hsplit
    exact .inl ⟨hlast, hsplit.symm⟩
  · obtain ⟨hmore, hnext⟩ := Prod.mk.inj hmore
    refine .inr ⟨next, tail, hmore, hnext, ?_, hsplit⟩
    rw [hobjects]
    cases selected with
    | nil =>
        exact absurd hsplit.symm (List.append_ne_nil_of_right_ne_nil _ (List.cons_ne_nil _ _))
    | cons first others => exact fitDeviceIdentificationObjects_ne_nil first others

/-- The exchange from any id ends, progresses, and returns the selection of that id. -/
theorem exists_exchange_of_length (server : ModbusTcpServer) (store : MemoryDataStore)
    {readCode : Int} (hcode : readCode = 1 ∨ readCode = 2 ∨ readCode = 3)
    {items : List DeviceIdentificationObject}
    (hsorted : items.Pairwise fun left right => left.objectId < right.objectId)
    (hselect : ∀ startObjectId, selectDeviceIdentificationObjects readCode startObjectId
      server.deviceIdentification =
        .ok (items.filter fun item => isSelected readCode startObjectId item.objectId))
    (size : Nat) {startObjectId : Int} (hstart : IsObjectId startObjectId)
    (hsize : (items.filter fun item =>
      isSelected readCode startObjectId item.objectId).length = size) :
    ∃ responses, Exchange server store readCode startObjectId responses ∧ Progresses responses ∧
      responses.flatMap (·.objects) =
        items.filter fun item => isSelected readCode startObjectId item.objectId := by
  induction size using Nat.strong_induction_on generalizing startObjectId with
  | _ size ih =>
      obtain ⟨request, response, hrequest, hanswer, hcases⟩ :=
        exists_round server store hcode (hselect startObjectId) hstart
      rcases hcases with ⟨hlast, hobjects⟩ | ⟨next, tail, hmore, hnext, hne, hsplit⟩
      · refine ⟨[response], .last hrequest hanswer hlast, progresses_singleton hlast, ?_⟩
        rw [List.flatMap_singleton, hobjects]
      · have hselected := filter_isSelected_next hcode hsorted hsplit
        rw [← hnext] at hselected
        -- The response was not empty, so fewer objects are left.
        have hlt : (next :: tail).length < size := by
          rw [← hsize, hsplit, List.length_append]
          have := List.length_pos_of_ne_nil hne
          omega
        obtain ⟨responses, hexchange, hprogress, hresult⟩ := ih _ hlt
          response.nextObjectId_valid (congrArg List.length hselected)
        rw [hselected] at hresult
        have hpairwise := hsorted.filter fun item =>
          isSelected readCode startObjectId item.objectId
        rw [hsplit, List.pairwise_append, List.pairwise_cons] at hpairwise
        obtain ⟨-, ⟨htail, -⟩, hfitted⟩ := hpairwise
        refine ⟨response :: responses, .more hrequest hanswer hmore hexchange,
          progresses_cons hne ?_ ?_ hprogress, ?_⟩
        · intro item hitem
          rw [hnext]
          exact hfitted item hitem next List.mem_cons_self
        · intro item hitem
          rw [hresult] at hitem
          rw [hnext]
          rcases List.mem_cons.mp hitem with rfl | hitem
          · exact le_rfl
          · exact (htail item hitem).le
        · rw [List.flatMap_cons, hresult, hsplit]

theorem normalizeItems_eq {objects : List (Int × DeviceIdentificationValue)}
    {normalized : {items : List (Int × Bytes) //
      items.map Prod.fst = objects.map Prod.fst ∧ ∀ item ∈ items,
        IsObjectId item.1 ∧ item.2.length ≤ maxDeviceIdentificationObjectLength}}
    (h : normalizeItems objects = .ok normalized) :
    normalized.1 = objects.map fun item => (item.1, item.2.toBytes) := by
  induction objects with
  | nil =>
      cases h
      rfl
  | cons object objects ih =>
      obtain ⟨objectId, value⟩ := object
      simp only [normalizeItems, Except.bind_eq_ok_iff] at h
      obtain ⟨_, _, _, _, rest, hrest, h⟩ := h
      cases h
      exact congrArg ((objectId, value.toBytes) :: ·) (ih hrest)

theorem items_of_init {config : DeviceIdentificationConfig} {server : ModbusTcpServer}
    (h : ModbusTcpServer.init config = .ok server) :
    server.deviceIdentification.items =
      config.items.map fun item => (item.1, item.2.toBytes) := by
  simp only [ModbusTcpServer.init, normalizeDeviceIdentification, Except.bind_eq_ok_iff] at h
  obtain ⟨objects, ⟨normalized, hnormalized, hobjects⟩, h⟩ := h
  cases hobjects
  cases h
  exact normalizeItems_eq hnormalized

/-- The exchange ends, is determined by the server, makes progress with every response, and returns
exactly the configured objects in range, in ascending id order. -/
theorem exchange_complete {config : DeviceIdentificationConfig} {server : ModbusTcpServer}
    (hserver : ModbusTcpServer.init config = .ok server) (store : MemoryDataStore) {readCode : Int}
    (hcode : readCode = 1 ∨ readCode = 2 ∨ readCode = 3) {startObjectId : Int}
    (hstart : IsObjectId startObjectId) :
    ∃ responses, Exchange server store readCode startObjectId responses ∧
      (∀ other, Exchange server store readCode startObjectId other → other = responses) ∧
      Progresses responses ∧
      ((responses.flatMap (·.objects)).map (·.objectId)).Pairwise (· < ·) ∧
      ∀ objectId value,
        (∃ item ∈ responses.flatMap (·.objects), item.objectId = objectId ∧ item.value = value) ↔
          (∃ configured, (objectId, configured) ∈ config.items ∧ configured.toBytes = value) ∧
            startObjectId ≤ objectId ∧ objectId < objectIdLimit readCode := by
  obtain ⟨items, hids, hitems, hselect⟩ := server.deviceIdentification.exists_sortedObjects
  have hsorted : items.Pairwise fun left right => left.objectId < right.objectId := by
    have := server.deviceIdentification.pairwise_sortedKeys
    rwa [← hids, List.pairwise_map] at this
  obtain ⟨responses, hexchange, hprogress, hresult⟩ := exists_exchange_of_length server store hcode
    hsorted (hselect readCode) _ hstart rfl
  refine ⟨responses, hexchange, fun other hother => hother.unique hexchange, hprogress, ?_, ?_⟩
  · rw [hresult, List.pairwise_map]
    exact hsorted.filter _
  · intro objectId value
    have hconfig : (∃ configured, (objectId, configured) ∈ config.items ∧
        configured.toBytes = value) ↔ (objectId, value) ∈ server.deviceIdentification.items := by
      rw [items_of_init hserver]
      simp
    rw [hresult, hconfig]
    constructor
    · rintro ⟨item, hitem, rfl, rfl⟩
      obtain ⟨hmem, hselected⟩ := List.mem_filter.mp hitem
      obtain ⟨-, hlimit, hfrom⟩ := (isSelected_iff hcode _ _).mp hselected
      exact ⟨hitems item hmem, hfrom, hlimit⟩
    · rintro ⟨hmem, hfrom, hlimit⟩
      have hkey : objectId ∈ items.map (·.objectId) := by
        rw [hids]
        exact DeviceIdentification.mem_sortedKeys.mpr (List.mem_map_of_mem hmem)
      obtain ⟨item, hitem, rfl⟩ := List.mem_map.mp hkey
      refine ⟨item, List.mem_filter.mpr ⟨hitem, ?_⟩, rfl, ?_⟩
      · exact (isSelected_iff hcode _ _).mpr ⟨item.objectId_valid.1, hlimit, hfrom⟩
      · -- The keys of the `dict` are distinct, so the id has one value.
        have heq := List.inj_on_of_nodup_map server.deviceIdentification.keys_nodup
          (hitems item hitem) hmem rfl
        exact congrArg Prod.snd heq

set_option maxRecDepth 4000 in
/-- Two objects of 200 bytes take two pages. -/
theorem exchange_complete_two_objects :
    ∃ server responses,
      ModbusTcpServer.init ⟨[(2, .bytes (List.replicate 200 66)),
        (0, .bytes (List.replicate 200 65))], by decide⟩ = .ok server ∧
      Exchange server ⟨.ofBlocks [], .ofBlocks [], .ofBlocks [], .ofBlocks []⟩ 1 0 responses ∧
      responses.map (·.objects.map (·.objectId)) = [[0], [2]] ∧ Progresses responses := by
  let server : ModbusTcpServer := ⟨[(2, List.replicate 200 66), (0, List.replicate 200 65)],
    by decide, by decide⟩
  let store : MemoryDataStore := ⟨.ofBlocks [], .ofBlocks [], .ofBlocks [], .ofBlocks []⟩
  have hserver : ModbusTcpServer.init ⟨[(2, .bytes (List.replicate 200 66)),
      (0, .bytes (List.replicate 200 65))], by decide⟩ = .ok server := rfl
  have hfirst : ∃ first, Exec.runOn (server.handleRequest (.builtin
      (.readDeviceIdentification ⟨1, 0, 0x0E, rfl, by decide, by decide⟩))) store =
        (.ok (.readDeviceIdentification first), store) ∧ first.moreFollows = true ∧
      first.nextObjectId = 2 ∧ first.objects.map (·.objectId) = [0] := ⟨_, rfl, rfl, rfl, rfl⟩
  have hsecond : ∃ second, Exec.runOn (server.handleRequest (.builtin
      (.readDeviceIdentification ⟨1, 2, 0x0E, rfl, by decide, by decide⟩))) store =
        (.ok (.readDeviceIdentification second), store) ∧ second.moreFollows = false ∧
      second.objects.map (·.objectId) = [2] := ⟨_, rfl, rfl, rfl⟩
  obtain ⟨first, hanswer, hmore, hnext, hids⟩ := hfirst
  obtain ⟨second, hanswer', hlast, hids'⟩ := hsecond
  have hpaged : Exchange server store 1 0 [first, second] :=
    .more rfl hanswer hmore (hnext ▸ .last rfl hanswer' hlast)
  obtain ⟨responses, hexchange, hunique, hprogress, -⟩ :=
    exchange_complete hserver store (.inl rfl) (by decide : IsObjectId 0)
  obtain rfl := hunique _ hpaged
  refine ⟨server, _, hserver, hexchange, ?_, hprogress⟩
  rw [List.map_cons, List.map_singleton, hids, hids']

end ClearModbus
