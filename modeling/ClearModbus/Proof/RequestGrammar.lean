import ClearModbus.Proof.RequestCodec

/-!
# How canonical the accepted requests are

Encoding a decoded request gives back the data, up to the padding of the last coil byte, unless the
data is a coil write with more coil bytes than its count needs: the `0x0F` branch rejects a byte
count that is too short, and no other one.
-/

namespace ClearModbus

def EqualUpToPadding : RequestPDU → Bytes → Bytes → Prop
  | .builtin (.writeMultipleCoils request), left, right =>
      left.dropLast = right.dropLast ∧ ∀ bit < BitString.usedBits request.values.length,
        (left.getLastD 0).toNat.testBit bit = (right.getLastD 0).toNat.testBit bit
  | _, left, right => left = right

def Canonical (data : Bytes) : Prop :=
  ∀ request, decodeRequestPdu .empty data = .ok request →
    ∃ encoded, request.encode = .ok encoded ∧ encoded.length = data.length ∧
      EqualUpToPadding request encoded data

/-- A coil write whose byte count agrees with its coil bytes but exceeds what its count needs. -/
def OverlongCoilWrite (data : Bytes) : Prop :=
  ∃ (address count : Int) (bitBytes : Bytes), IsRegisterAddress address ∧
    IsCount maxWriteBits count ∧ bitBytes.length < 256 ∧ (count + 7) / 8 < bitBytes.length ∧
    data = 0x0F :: word address ++ word count ++ UInt8.ofNat bitBytes.length :: bitBytes

/-- An overlong coil write is decoded to a request with a shorter encoding. -/
theorem exists_shorter_wire {data : Bytes} (h : OverlongCoilWrite data) :
    ∃ request : BuiltinRequest, decodeRequestPdu .empty data = .ok (.builtin request) ∧
      request.wire.length < data.length := by
  obtain ⟨address, count, bitBytes, haddress, hcount, hlt, hlong, rfl⟩ := h
  obtain ⟨bits, rfl⟩ := Int.eq_ofNat_of_zero_le (a := count) (by have := hcount.1; omega)
  have hlength : ((BitString.unpack bitBytes).take bits).length = bits := by
    rw [List.length_take, BitString.length_unpack]
    omega
  let request : WriteMultipleCoilsRequest :=
    ⟨address, (BitString.unpack bitBytes).take bits, haddress, by rw [hlength]; exact hcount⟩
  refine ⟨.writeMultipleCoils request, decodeRequestPdu_of_decodesFrom _ ?_, ?_⟩
  · refine ⟨bitBytes, hlt, ?_, ?_, ?_⟩
    · change (((BitString.unpack bitBytes).take bits).length + 7) / 8 ≤ _
      omega
    · change _ = (BitString.unpack bitBytes).take ((BitString.unpack bitBytes).take bits).length
      rw [hlength]
    · change _ = 0x0F :: word address ++
        word ((BitString.unpack bitBytes).take bits).length ++ _ :: _
      rw [hlength]
  · simp only [BuiltinRequest.wire, List.length_append, List.length_cons, length_word,
      BitString.length_pack]
    change 2 + 1 + 2 + ((((BitString.unpack bitBytes).take bits).length + 7) / 8 + 1) < _
    omega

theorem not_canonical_of_overlong {data : Bytes} (h : OverlongCoilWrite data) :
    ¬Canonical data := by
  intro hcanonical
  obtain ⟨request, hdecode, hshorter⟩ := exists_shorter_wire h
  obtain ⟨encoded, hencode, hlength, _⟩ := hcanonical _ hdecode
  have hwire : encoded = request.wire := Except.ok.inj (hencode.symm.trans request.encode_eq)
  rw [hwire] at hlength
  omega

/-- A coil write with just the coil bytes its count needs is canonical. -/
theorem equalUpToPadding_coils {request : WriteMultipleCoilsRequest} {head bitBytes : Bytes}
    (hlength : bitBytes.length = (request.values.length + 7) / 8)
    (hvalues : request.values = (BitString.unpack bitBytes).take request.values.length) :
    EqualUpToPadding (.builtin (.writeMultipleCoils request))
      (head ++ BitString.pack request.values) (head ++ bitBytes) := by
  have hcount : 0 < request.values.length := by
    have := request.count_valid.1
    omega
  have hpack : (BitString.pack request.values).length = bitBytes.length := by
    rw [BitString.length_pack, hlength]
  have hnil : bitBytes ≠ [] := List.ne_nil_of_length_pos (by omega)
  have hpackNil : BitString.pack request.values ≠ [] := List.ne_nil_of_length_pos (by omega)
  constructor
  · rw [List.dropLast_append_of_ne_nil hpackNil, List.dropLast_append_of_ne_nil hnil, hvalues,
      BitString.dropLast_pack_take_unpack hlength]
  · intro bit hbit
    have hlast := BitString.testBit_getLastD_pack_take_unpack hcount hlength hbit
    rw [← hvalues] at hlast
    rw [List.getLastD_eq_getLast?, List.getLastD_eq_getLast?] at hlast ⊢
    rw [List.getLast?_append_of_ne_nil _ hpackNil, List.getLast?_append_of_ne_nil _ hnil, hlast]

/-- Overlong coil writes are the only accepted requests that are not canonical. -/
theorem canonical_iff_not_overlong (data : Bytes) : Canonical data ↔ ¬OverlongCoilWrite data := by
  constructor
  · exact fun hcanonical hlong => not_canonical_of_overlong hlong hcanonical
  · intro hnotLong request hdecode
    obtain ⟨inner, rfl, hfrom⟩ := exists_decodesFrom hdecode
    refine ⟨inner.wire, inner.encode_eq, ?_⟩
    cases inner with
    | writeMultipleCoils request =>
        obtain ⟨bitBytes, hlt, henough, hvalues, rfl⟩ := hfrom
        have hexact : bitBytes.length = (request.values.length + 7) / 8 := by
          by_contra hne
          exact hnotLong ⟨request.address, request.values.length, bitBytes,
            request.address_valid, request.count_valid, hlt, by omega, rfl⟩
        have hwire : (BuiltinRequest.writeMultipleCoils request).wire =
            0x0F :: word request.address ++ word request.values.length ++
              [UInt8.ofNat bitBytes.length] ++ BitString.pack request.values := by
          rw [hexact]
          simp [BuiltinRequest.wire]
        have hdata : 0x0F :: word request.address ++ word request.values.length ++
            UInt8.ofNat bitBytes.length :: bitBytes =
            0x0F :: word request.address ++ word request.values.length ++
              [UInt8.ofNat bitBytes.length] ++ bitBytes := by
          simp
        rw [hwire, hdata]
        refine ⟨?_, equalUpToPadding_coils hexact hvalues⟩
        simp only [List.length_append, BitString.length_pack, hexact]
    | _ =>
        cases hfrom
        exact ⟨rfl, rfl⟩

theorem not_canonical_two_coil_bytes : ¬Canonical [0x0F, 0, 0, 0, 1, 2, 1, 0] := by
  refine not_canonical_of_overlong ⟨0, 1, [1, 0], ?_, ?_, ?_, ?_, rfl⟩ <;> decide

end ClearModbus
