import ClearModbus.Proof.Delivered
import ClearModbus.Proof.FrameFormats
import ClearModbus.Proof.ResponseErrors

/-!
# The gatherer and the decoder of device identification agree

The RTU client gathers a device-identification response object by object, taking the length of each
value from the transport; the decoder walks offsets in the gathered bytes. What the gatherer returns
is a header and as many whole objects as the header counts, so the decoder finds every header and
every value complete and ends exactly at the end, whatever the bytes say.
-/

namespace ClearModbus

def Transport.ReceivesExactly {σ : Type} (transport : Transport σ) : Prop :=
  ∀ (size : Int) (state final : σ) (data : Bytes),
    Exec.runOn (transport.receive size) state = (.ok data, final) → (data.length : Int) = size

theorem serialTransport_receivesExactly : serialTransport.ReceivesExactly := by
  intro size port final data h
  obtain ⟨-, -, hlength, -⟩ := SerialTransport.taken_of_runOn_receive h
  exact hlength

/-- The errors of the decoder about the layout of a payload, rather than about its fields. -/
def PyError.IsStructural (error : PyError) : Prop :=
  error = .valueError "read device identification response is too short." ∨
    error = .valueError "device identification object header is incomplete." ∨
    error = .valueError "device identification object value is incomplete." ∨
    error = .valueError "extra bytes after device identification objects."

instance : DecidablePred PyError.IsStructural := fun error => by
  unfold PyError.IsStructural
  infer_instance

abbrev PyError.NotStructural (error : PyError) : Prop := ¬error.IsStructural

open PyError (NotStructural)

inductive ObjectChunks : Nat → Bytes → Prop where
  | nil : ObjectChunks 0 []
  | cons (objectId length : UInt8) {value rest : Bytes} {count : Nat}
      (hvalue : value.length = length.toNat) (hrest : ObjectChunks count rest) :
      ObjectChunks (count + 1) (objectId :: length :: value ++ rest)

namespace ModbusRtuClient

variable {σ : Type} {transport : Transport σ}

theorem objectChunks_of_receiveObjects (hexact : transport.ReceivesExactly) {count : Nat}
    {state final : σ} {data : Bytes}
    (h : Exec.runOn (receiveObjects transport count) state = (.ok data, final)) :
    ObjectChunks count data := by
  induction count generalizing state data with
  | zero =>
      cases h
      exact .nil
  | succ count ih =>
      rw [receiveObjects] at h
      obtain ⟨objectHeader, afterHeader, hheader, h⟩ := Exec.runOn_bind_eq_ok_iff.mp h
      obtain ⟨valueLength, hlength, h⟩ := Exec.runOn_liftM_bind_eq_ok_iff.mp h
      obtain ⟨value, afterValue, hvalue, h⟩ := Exec.runOn_bind_eq_ok_iff.mp h
      obtain ⟨rest, last, hrest, h⟩ := Exec.runOn_bind_eq_ok_iff.mp h
      cases h
      have htwo := hexact 2 state afterHeader objectHeader hheader
      obtain ⟨objectId, length, rfl⟩ := List.length_eq_two.mp (Int.ofNat_inj.mp htwo)
      cases hlength
      -- No value is received after a length of zero.
      have hsize : value.length = valueLength.toNat := by
        split at hvalue
        · exact Int.ofNat_inj.mp (hexact _ _ _ _ hvalue)
        · rename_i hzero
          cases hvalue
          rw [not_not.mp hzero]
          rfl
      exact .cons objectId valueLength hsize (ih hrest)

end ModbusRtuClient

/-- Every turn of the loop consumes one chunk. -/
theorem ObjectChunks.notStructural_decodeObjects {count : Nat} {data : Bytes}
    (h : ObjectChunks count data) (front : Bytes) :
    (decodeObjects (front ++ data) count front.length).RaisesOnly NotStructural := by
  induction h generalizing front with
  | nil => exact trivial
  | @cons objectId length value rest count hvalue hrest ih =>
      rw [decodeObjects_chunk front rest objectId length hvalue]
      apply Except.RaisesOnly.bind
        (DeviceIdentificationObject.raisesOnly_postInit (by decide) (by decide) _ _)
      intro item
      apply Except.RaisesOnly.map
      have htail := ih (front ++ objectId :: length :: value)
      rwa [List.append_assoc] at htail

/-- The loop ends behind the last chunk. -/
theorem ObjectChunks.last_of_decodeObjects {count : Nat} {data : Bytes}
    (h : ObjectChunks count data) (front : Bytes) (result : List DeviceIdentificationObject × Nat)
    (hresult : decodeObjects (front ++ data) count front.length = .ok result) :
    result.2 = (front ++ data).length := by
  induction h generalizing front result with
  | nil =>
      cases hresult
      rw [List.append_nil]
  | @cons objectId length value rest count hvalue hrest ih =>
      rw [decodeObjects_chunk front rest objectId length hvalue] at hresult
      obtain ⟨item, -, hresult⟩ := Except.bind_eq_ok_iff.mp hresult
      obtain ⟨tail, htail, rfl⟩ := Except.map_eq_ok_iff.mp hresult
      rw [← List.append_assoc] at htail ⊢
      exact ih (front ++ objectId :: length :: value) tail htail

namespace ReadDeviceIdentificationResponse

/-- A header and as many whole objects as it counts pass the checks of the layout. -/
theorem notStructural_decode
    (meiType readCode conformityLevel moreFollows nextObjectId count : UInt8)
    {data : Bytes} (h : ObjectChunks count.toNat data) :
    (decode ([meiType, readCode, conformityLevel, moreFollows, nextObjectId, count] ++
      data)).RaisesOnly NotStructural := by
  have hobjects := h.notStructural_decodeObjects
    [meiType, readCode, conformityLevel, moreFollows, nextObjectId, count]
  have hlast := h.last_of_decodeObjects
    [meiType, readCode, conformityLevel, moreFollows, nextObjectId, count]
  have hsix : [meiType, readCode, conformityLevel, moreFollows, nextObjectId, count].length = 6 :=
    rfl
  rw [hsix] at hobjects hlast
  simp only [List.cons_append, List.nil_append] at hobjects hlast ⊢
  rw [decode]
  generalize
    meiType :: readCode :: conformityLevel :: moreFollows :: nextObjectId :: count :: data =
    payload at *
  split_ifs
  · change NotStructural (.valueError _)
    decide
  · change NotStructural (.valueError _)
    decide
  · cases hloop : decodeObjects payload count.toNat 6 with
    | error raised =>
        rw [hloop] at hobjects
        exact hobjects
    | ok result =>
        obtain ⟨objects, last⟩ := result
        have hend : last = payload.length := hlast _ hloop
        rw [Except.ok_bind]
        dsimp only
        rw [if_neg (not_not.mpr hend)]
        exact raisesOnly_postInit (by decide) (by decide) (by decide) (by decide) (by decide) _ _ _
          _ _ _

end ReadDeviceIdentificationResponse

namespace ModbusRtuClient

variable {σ : Type} {transport : Transport σ}

theorem exists_chunks_of_receiveReadDeviceIdentificationResponse
    (hexact : transport.ReceivesExactly) {state final : σ} {data : Bytes}
    (h : Exec.runOn (receiveReadDeviceIdentificationResponse transport) state = (.ok data, final)) :
    ∃ meiType readCode conformityLevel moreFollows nextObjectId count objects crc,
      ObjectChunks (UInt8.toNat count) objects ∧ crc.length = 2 ∧
      data = [meiType, readCode, conformityLevel, moreFollows, nextObjectId, count] ++ objects ++
        crc := by
  rw [receiveReadDeviceIdentificationResponse] at h
  obtain ⟨header, afterHeader, hheader, h⟩ := Exec.runOn_bind_eq_ok_iff.mp h
  obtain ⟨objectCount, hcount, h⟩ := Exec.runOn_liftM_bind_eq_ok_iff.mp h
  obtain ⟨objects, afterObjects, hobjects, h⟩ := Exec.runOn_bind_eq_ok_iff.mp h
  obtain ⟨crc, afterCrc, hcrc, h⟩ := Exec.runOn_bind_eq_ok_iff.mp h
  cases h
  have hsix : header.length = 6 := Int.ofNat_inj.mp (hexact _ _ _ _ hheader)
  have htwo : crc.length = 2 := Int.ofNat_inj.mp (hexact _ _ _ _ hcrc)
  obtain ⟨first, second, third, -, -, -, rfl⟩ := exists_words_of_length_eq_six hsix
  cases hcount
  exact ⟨_, _, _, _, _, _, objects, crc, objectChunks_of_receiveObjects hexact hobjects, htwo, rfl⟩

/-- With function code `0x2B` in the prefix the size is not fixed and the objects are gathered. -/
theorem exists_chunks_of_receiveResponse (hexact : transport.ReceivesExactly)
    {request : ReadDeviceIdentificationRequest} {state final : σ} {data : Bytes}
    (h : Exec.runOn (receiveResponse transport (.builtin (.readDeviceIdentification request)))
      state = (.ok data, final)) (hcode : data[1]? = some 0x2B) :
    ∃ unitId meiType readCode conformityLevel moreFollows nextObjectId count objects crc,
      ObjectChunks (UInt8.toNat count) objects ∧ crc.length = 2 ∧
      data = [unitId, 0x2B] ++
        ([meiType, readCode, conformityLevel, moreFollows, nextObjectId, count] ++ objects) ++
          crc := by
  rw [receiveResponse] at h
  obtain ⟨prefixData, afterPrefix, hprefix, h⟩ := Exec.runOn_bind_eq_ok_iff.mp h
  obtain ⟨responseSize, hsize, h⟩ := Exec.runOn_liftM_bind_eq_ok_iff.mp h
  have htwo : prefixData.length = 2 := Int.ofNat_inj.mp (hexact _ _ _ _ hprefix)
  obtain ⟨unitId, head, rfl⟩ := List.length_eq_two.mp htwo
  cases responseSize with
  | some responseSize =>
      obtain ⟨rest, last, -, h⟩ := Exec.runOn_bind_eq_ok_iff.mp h
      cases h
      cases hcode
      rw [rtuResponseSizeFromPrefix_normal unitId rfl] at hsize
      cases hsize
  | none =>
      obtain ⟨body, last, hbody, h⟩ := Exec.runOn_bind_eq_ok_iff.mp h
      cases h
      cases hcode
      obtain ⟨meiType, readCode, conformityLevel, moreFollows, nextObjectId, count, objects, crc,
        hchunks, hcrc, rfl⟩ := exists_chunks_of_receiveReadDeviceIdentificationResponse hexact hbody
      exact ⟨unitId, meiType, readCode, conformityLevel, moreFollows, nextObjectId, count, objects,
        crc, hchunks, hcrc, rfl⟩

theorem notStructural_decodeEncapsulatedResponse (registry : CustomFunctionCodeRegistry)
    (functionCode : Int) {payload : Bytes} (request : ReadDeviceIdentificationRequest)
    (h : (ReadDeviceIdentificationResponse.decode payload).RaisesOnly NotStructural) :
    (decodeEncapsulatedResponse registry functionCode payload
      (.builtin (.readDeviceIdentification request))).RaisesOnly NotStructural := by
  apply Except.RaisesOnly.bind h
  intro response
  split_ifs
  · change NotStructural (.valueError _)
    decide
  · exact trivial

/-- The codec checks the frame and the unit id and then decodes the gathered objects. -/
theorem notStructural_decodeResponse (registry : CustomFunctionCodeRegistry)
    (request : ReadDeviceIdentificationRequest) (expectedUnitId : Int) {unitId : UInt8}
    {payload crc : Bytes} (hcrc : crc.length = 2)
    (h : (ReadDeviceIdentificationResponse.decode payload).RaisesOnly NotStructural) :
    (ModbusRTUCodec.decodeResponse registry ([unitId, 0x2B] ++ payload ++ crc)
      (.builtin (.readDeviceIdentification request)) expectedUnitId).RaisesOnly NotStructural := by
  have hmessage : [unitId, 0x2B] ++ payload ++ crc = (unitId :: 0x2B :: payload) ++ crc := rfl
  rw [ModbusRTUCodec.decodeResponse, hmessage, ModbusRTUFrame.decode_append (by simp) hcrc]
  by_cases hsame : fromLittleEndian crc ≠ crc16Modbus (unitId :: 0x2B :: payload)
  · rw [if_pos hsame]
    change NotStructural (.modbusCRCError _)
    decide
  · rw [if_neg hsame]
    change (if (unitId.toNat : Int) ≠ expectedUnitId then
        throw (.modbusResponseMismatchError "RTU response unit id does not match request.")
      else decodeResponsePdu registry (0x2B :: payload)
        (.builtin (.readDeviceIdentification request))).RaisesOnly NotStructural
    split_ifs
    · change NotStructural (.modbusResponseMismatchError _)
      decide
    · rw [decodeResponsePdu_cons rfl]
      exact notStructural_decodeEncapsulatedResponse registry
        (BuiltinRequest.readDeviceIdentification request).functionCode request h

/-- **The two parsers agree on every stream**: whatever bytes a transport delivers, once a response
with function code `0x2B` is gathered, no check of its layout fails, neither in the decoder nor in
what `execute` returns. -/
theorem gathered_passes_structural_checks (hexact : transport.ReceivesExactly)
    (request : ReadDeviceIdentificationRequest) {state final : σ} {data : Bytes}
    (h : Exec.runOn (receiveResponse transport (.builtin (.readDeviceIdentification request)))
      state = (.ok data, final)) (hcode : data[1]? = some 0x2B) :
    (∀ error, ReadDeviceIdentificationResponse.decode (slice data 2 (-2)) = .error error →
      ¬error.IsStructural) ∧
    ∀ (registry : CustomFunctionCodeRegistry) (unitId : Int) (error : PyError),
      ModbusRTUCodec.decodeResponse registry data (.builtin (.readDeviceIdentification request))
        unitId = .error error → ¬error.IsStructural := by
  obtain ⟨unitId, meiType, readCode, conformityLevel, moreFollows, nextObjectId, count, objects,
    crc, hchunks, hcrc, rfl⟩ := exists_chunks_of_receiveResponse hexact h hcode
  have hdecode := ReadDeviceIdentificationResponse.notStructural_decode meiType readCode
    conformityLevel moreFollows nextObjectId count hchunks
  constructor
  · rw [slice_two_neg_two _ rfl hcrc]
    exact Except.raisesOnly_iff.mp hdecode
  · intro registry expectedUnitId
    exact Except.raisesOnly_iff.mp
      (notStructural_decodeResponse registry request expectedUnitId hcrc hdecode)

/-- Two objects, the first one empty, behind a conformity level that is no member of its enum. -/
theorem gathered_passes_structural_checks_two_objects :
    ∃ data final, Exec.runOn (receiveResponse serialTransport
        (.builtin (.readDeviceIdentification ⟨1, 0, 0x0E, rfl, by decide, by decide⟩)))
          ⟨true, [7, 0x2B, 0x0E, 1, 0x55, 0, 0, 2, 0, 0, 1, 2, 0x41, 0x42, 0xAA, 0xBB, 0xCC], [],
            [], false⟩ = (.ok data, final) ∧
      final.incoming = [0xCC] ∧
      ∀ error, ReadDeviceIdentificationResponse.decode (slice data 2 (-2)) = .error error →
        ¬error.IsStructural := by
  have hrun : Exec.runOn (receiveResponse serialTransport
      (.builtin (.readDeviceIdentification ⟨1, 0, 0x0E, rfl, by decide, by decide⟩)))
        ⟨true, [7, 0x2B, 0x0E, 1, 0x55, 0, 0, 2, 0, 0, 1, 2, 0x41, 0x42, 0xAA, 0xBB, 0xCC], [], [],
          false⟩ = (.ok [7, 0x2B, 0x0E, 1, 0x55, 0, 0, 2, 0, 0, 1, 2, 0x41, 0x42, 0xAA, 0xBB],
            ⟨true, [0xCC], [], [2, 6, 2, 2, 2, 2], false⟩) := rfl
  exact ⟨_, _, hrun, rfl,
    (gathered_passes_structural_checks serialTransport_receivesExactly _ hrun rfl).1⟩

end ModbusRtuClient

end ClearModbus
