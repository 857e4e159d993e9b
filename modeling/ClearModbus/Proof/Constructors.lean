import ClearModbus.Proof.RequestWire

/-!
# What the constructors and `struct.unpack` accept

A constructor returns a request exactly when the request has the fields it was called with. A
payload of the size a format needs is the words of some fields, and unpacking returns these fields.
-/

namespace ClearModbus

theorem validateRegisterValues_eq_ok {values : List Int}
    (h : ∀ value ∈ values, IsRegisterValue value) : validateRegisterValues values = .ok ⟨h⟩ := by
  induction values with
  | nil => rfl
  | cons value values ih =>
      rw [validateRegisterValues, validateRegisterValue, check_pos _ (h value List.mem_cons_self),
        Except.ok_bind, ih fun other hother => h other (List.mem_cons_of_mem _ hother)]
      rfl

theorem requireBools_map_bool (values : List Bool) :
    ∃ hlength, requireBools (values.map .bool) = .ok ⟨values, hlength⟩ := by
  induction values with
  | nil => exact ⟨rfl, rfl⟩
  | cons value values ih =>
      obtain ⟨hlength, hrest⟩ := ih
      refine ⟨congrArg (· + 1) hlength, ?_⟩
      change (requireBools (values.map .bool) >>= fun bits => Except.ok (Subtype.mk
        (p := fun bits => bits.length = (PyObject.bool value :: values.map .bool).length)
        (value :: bits.1) (congrArg (· + 1) bits.2))) = _
      rw [hrest]
      rfl

theorem eq_map_bool_of_requireBools {values : List PyObject}
    {bits : {bits : List Bool // bits.length = values.length}}
    (h : requireBools values = .ok bits) :
    values = bits.1.map .bool := by
  induction values with
  | nil =>
      obtain ⟨bits, hbits⟩ := bits
      rw [List.length_nil, List.length_eq_zero_iff] at hbits
      subst hbits
      rfl
  | cons value values ih =>
      rw [requireBools, Except.bind_eq_ok_iff] at h
      obtain ⟨bit, hbit, h⟩ := h
      rw [Except.bind_eq_ok_iff] at h
      obtain ⟨rest, hrest, h⟩ := h
      cases value with
      | bool value =>
          cases hbit
          cases h
          rw [List.map_cons, ← ih hrest]
      | int value => cases hbit
      | other text => cases hbit

theorem ReadRequest.postInit_eq_ok_iff {functionCode maxCount address count : Int}
    {request : ReadRequest functionCode maxCount} :
    ReadRequest.postInit functionCode maxCount address count = .ok request ↔
      address = request.address ∧ count = request.count := by
  constructor
  · intro h
    simp only [ReadRequest.postInit, Except.bind_eq_ok_iff] at h
    obtain ⟨_, _, _, _, h⟩ := h
    cases h
    exact ⟨rfl, rfl⟩
  · rintro ⟨rfl, rfl⟩
    rw [ReadRequest.postInit, validateRegisterAddress, validateCount,
      check_pos _ request.address_valid, check_pos _ request.count_valid]
    rfl

theorem WriteSingleRegisterRequest.postInit_eq_ok_iff {address value : Int}
    {request : WriteSingleRegisterRequest} :
    WriteSingleRegisterRequest.postInit address value = .ok request ↔
      address = request.address ∧ value = request.value := by
  constructor
  · intro h
    simp only [WriteSingleRegisterRequest.postInit, Except.bind_eq_ok_iff] at h
    obtain ⟨_, _, _, _, h⟩ := h
    cases h
    exact ⟨rfl, rfl⟩
  · rintro ⟨rfl, rfl⟩
    rw [WriteSingleRegisterRequest.postInit, validateRegisterAddress, validateRegisterValue,
      check_pos _ request.address_valid, check_pos _ request.value_valid]
    rfl

theorem WriteSingleCoilRequest.postInit_eq_ok_iff {address : Int} {value : PyObject}
    {request : WriteSingleCoilRequest} :
    WriteSingleCoilRequest.postInit address value = .ok request ↔
      address = request.address ∧ value = .bool request.value := by
  constructor
  · intro h
    simp only [WriteSingleCoilRequest.postInit, Except.bind_eq_ok_iff] at h
    obtain ⟨_, _, bit, hbit, h⟩ := h
    cases h
    cases value with
    | bool value =>
        cases hbit
        exact ⟨rfl, rfl⟩
    | int value => cases hbit
    | other text => cases hbit
  · rintro ⟨rfl, rfl⟩
    rw [WriteSingleCoilRequest.postInit, validateRegisterAddress,
      check_pos _ request.address_valid]
    rfl

theorem WriteMultipleRegistersRequest.postInit_eq_ok_iff {address : Int} {values : List Int}
    {request : WriteMultipleRegistersRequest} :
    WriteMultipleRegistersRequest.postInit address values = .ok request ↔
      address = request.address ∧ values = request.values := by
  constructor
  · intro h
    simp only [WriteMultipleRegistersRequest.postInit, Except.bind_eq_ok_iff] at h
    obtain ⟨_, _, _, _, _, _, h⟩ := h
    cases h
    exact ⟨rfl, rfl⟩
  · rintro ⟨rfl, rfl⟩
    rw [WriteMultipleRegistersRequest.postInit, validateRegisterAddress, validateRegisterCount,
      validateCount, check_pos _ request.address_valid, check_pos _ request.count_valid,
      validateRegisterValues_eq_ok request.values_valid]
    rfl

theorem WriteMultipleCoilsRequest.postInit_eq_ok_iff {address : Int} {values : List PyObject}
    {request : WriteMultipleCoilsRequest} :
    WriteMultipleCoilsRequest.postInit address values = .ok request ↔
      address = request.address ∧ values = request.values.map .bool := by
  constructor
  · intro h
    simp only [WriteMultipleCoilsRequest.postInit, Except.bind_eq_ok_iff] at h
    obtain ⟨_, _, _, _, bits, hbits, h⟩ := h
    cases h
    exact ⟨rfl, eq_map_bool_of_requireBools hbits⟩
  · rintro ⟨rfl, rfl⟩
    obtain ⟨hlength, hbits⟩ := requireBools_map_bool request.values
    have hcount : IsCount maxWriteBits (request.values.map PyObject.bool).length := by
      rw [List.length_map]
      exact request.count_valid
    rw [WriteMultipleCoilsRequest.postInit, validateRegisterAddress, validateBitCount,
      validateCount, check_pos _ request.address_valid, check_pos _ hcount, hbits]
    rfl

theorem MaskWriteRegisterRequest.postInit_eq_ok_iff {address andMask orMask : Int}
    {request : MaskWriteRegisterRequest} :
    MaskWriteRegisterRequest.postInit address andMask orMask = .ok request ↔
      address = request.address ∧ andMask = request.andMask ∧ orMask = request.orMask := by
  constructor
  · intro h
    simp only [MaskWriteRegisterRequest.postInit, Except.bind_eq_ok_iff] at h
    obtain ⟨_, _, _, _, _, _, h⟩ := h
    cases h
    exact ⟨rfl, rfl, rfl⟩
  · rintro ⟨rfl, rfl, rfl⟩
    rw [MaskWriteRegisterRequest.postInit, validateRegisterAddress, validateRegisterValue,
      validateRegisterValue, check_pos _ request.address_valid, check_pos _ request.andMask_valid,
      check_pos _ request.orMask_valid]
    rfl

theorem ReadWriteMultipleRegistersRequest.postInit_eq_ok_iff
    {readAddress readCount writeAddress : Int} {values : List Int}
    {request : ReadWriteMultipleRegistersRequest} :
    ReadWriteMultipleRegistersRequest.postInit readAddress readCount writeAddress values =
        .ok request ↔
      readAddress = request.readAddress ∧ readCount = request.readCount ∧
        writeAddress = request.writeAddress ∧ values = request.values := by
  constructor
  · intro h
    simp only [ReadWriteMultipleRegistersRequest.postInit, Except.bind_eq_ok_iff] at h
    obtain ⟨_, _, _, _, _, _, _, _, _, _, h⟩ := h
    cases h
    exact ⟨rfl, rfl, rfl, rfl⟩
  · rintro ⟨rfl, rfl, rfl, rfl⟩
    rw [ReadWriteMultipleRegistersRequest.postInit, validateRegisterAddress, validateRegisterCount,
      validateRegisterAddress, validateRegisterCount, validateCount, validateCount,
      check_pos _ request.readAddress_valid, check_pos _ request.readCount_valid,
      check_pos _ request.writeAddress_valid, check_pos _ request.count_valid,
      validateRegisterValues_eq_ok request.values_valid]
    rfl

theorem ReadDeviceIdentificationRequest.postInit_eq_ok_iff {readCode objectId meiType : Int}
    {request : ReadDeviceIdentificationRequest} :
    ReadDeviceIdentificationRequest.postInit readCode objectId meiType = .ok request ↔
      readCode = request.readCode ∧ objectId = request.objectId ∧ meiType = request.meiType := by
  constructor
  · intro h
    simp only [ReadDeviceIdentificationRequest.postInit, Except.bind_eq_ok_iff] at h
    obtain ⟨_, _, _, _, _, _, h⟩ := h
    cases h
    exact ⟨rfl, rfl, rfl⟩
  · rintro ⟨rfl, rfl, rfl⟩
    rw [ReadDeviceIdentificationRequest.postInit, validateMeiType, validateReadCode,
      validateDeviceIdentificationObjectId, check_pos _ request.meiType_valid,
      check_pos _ request.readCode_valid, check_pos _ request.objectId_valid]
    rfl

theorem exists_words_of_length_eq_four {data : Bytes} (h : data.length = 4) :
    ∃ first second, IsRegisterValue first ∧ IsRegisterValue second ∧
      data = word first ++ word second := by
  match data, h with
  | [a, b, c, d], _ =>
      refine ⟨Words.decode a b, Words.decode c d, isRegisterValue_decode a b,
        isRegisterValue_decode c d, ?_⟩
      simp only [word_decode, List.cons_append, List.nil_append]

theorem exists_words_of_length_eq_six {data : Bytes} (h : data.length = 6) :
    ∃ first second third, IsRegisterValue first ∧ IsRegisterValue second ∧
      IsRegisterValue third ∧ data = word first ++ word second ++ word third := by
  match data, h with
  | [a, b, c, d, e, f], _ =>
      refine ⟨Words.decode a b, Words.decode c d, Words.decode e f, isRegisterValue_decode a b,
        isRegisterValue_decode c d, isRegisterValue_decode e f, ?_⟩
      simp only [word_decode, List.cons_append, List.nil_append]

theorem exists_words_of_four_le_length {data : Bytes} (h : 4 ≤ data.length) :
    ∃ first second rest, IsRegisterValue first ∧ IsRegisterValue second ∧
      data = word first ++ word second ++ rest := by
  have htake : (data.take 4).length = 4 := by simpa using h
  obtain ⟨first, second, hfirst, hsecond, hdata⟩ := exists_words_of_length_eq_four htake
  exact ⟨first, second, data.drop 4, hfirst, hsecond, by rw [← hdata, List.take_append_drop]⟩

theorem unpackHH_words {first second : Int} (hfirst : IsRegisterValue first)
    (hsecond : IsRegisterValue second) :
    unpackHH (word first ++ word second) = .ok (first, second) := by
  change Except.ok (_, _) = _
  rw [decode_word hfirst, decode_word hsecond]

theorem unpackHHH_words {first second third : Int} (hfirst : IsRegisterValue first)
    (hsecond : IsRegisterValue second) (hthird : IsRegisterValue third) :
    unpackHHH (word first ++ word second ++ word third) = .ok (first, second, third) := by
  change Except.ok (_, _, _) = _
  rw [decode_word hfirst, decode_word hsecond, decode_word hthird]

theorem unpackFromHH_words {first second : Int} (hfirst : IsRegisterValue first)
    (hsecond : IsRegisterValue second) (rest : Bytes) :
    unpackFromHH (word first ++ word second ++ rest) = .ok (first, second) := by
  change Except.ok (_, _) = _
  rw [decode_word hfirst, decode_word hsecond]

theorem unpackFromHHHH_words {first second third fourth : Int} (hfirst : IsRegisterValue first)
    (hsecond : IsRegisterValue second) (hthird : IsRegisterValue third)
    (hfourth : IsRegisterValue fourth) (rest : Bytes) :
    unpackFromHHHH (word first ++ word second ++ word third ++ word fourth ++ rest) =
      .ok (first, second, third, fourth) := by
  change Except.ok (_, _, _, _) = _
  rw [decode_word hfirst, decode_word hsecond, decode_word hthird, decode_word hfourth]

theorem unpackWords_eq_ok_iff {count : Int} {data : Bytes} {values : List Int} :
    unpackWords count data = .ok values ↔
      (values.length : Int) = count ∧ data = words values ∧
        ∀ value ∈ values, IsRegisterValue value := by
  constructor
  · intro h
    unfold unpackWords at h
    split at h
    · rename_i hlength
      cases h
      have hcount := Words.length_decodeAll data
      refine ⟨?_, (words_decodeAll (by omega)).symm,
        fun value => isRegisterValue_of_mem_decodeAll⟩
      rw [List.length_map]
      omega
    · cases h
  · rintro ⟨rfl, rfl, hvalues⟩
    rw [unpackWords, if_pos (by rw [length_words]; push_cast; rfl), decodeAll_words hvalues]

end ClearModbus
