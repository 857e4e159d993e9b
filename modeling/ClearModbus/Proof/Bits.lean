import ClearModbus.Protocol.Bits

/-!
# The bit loops are the bit strings

`pack_bits` computes `BitString.pack` and never raises; `unpack_bits` raises exactly when the data
is too short and otherwise takes the first bits of `BitString.unpack`.
-/

namespace ClearModbus

theorem getItem_bitsMasks {offset : Nat} (h : offset < 8) :
    getItem bitsMasks (offset : Int) = .ok (2 ^ offset) := by
  rw [getItem_natCast (by simpa [bitsMasks] using h)]
  interval_cases offset <;> rfl

theorem map_bitsMasks (byte : Nat) :
    (bitsMasks.map fun mask => byte &&& mask != 0) = (List.range 8).map byte.testBit := by
  have hmasks : bitsMasks = (List.range 8).map fun offset => 2 ^ offset := rfl
  rw [hmasks, List.map_map]
  apply List.map_congr_left
  intro offset _
  have hand := Nat.and_two_pow byte offset
  cases hbit : byte.testBit offset <;> simp [hand, hbit]

theorem getItem_unpackedBitsByByte (byte : UInt8) :
    getItem unpackedBitsByByte (byte.toNat : Int) = .ok (BitString.byteBits byte) := by
  have hbyte : byte.toNat < unpackedBitsByByte.length := by
    simpa [unpackedBitsByByte] using byte.toNat_lt
  rw [getItem_natCast hbyte]
  simp only [unpackedBitsByByte, List.getElem_map, List.getElem_range, map_bitsMasks]
  rfl

/-- The byte after `count` turns of the inner loop. -/
def prefixByte (values : List Bool) (base count : Nat) : Nat :=
  Nat.ofBits fun offset : Fin 8 => decide (offset.val < count) && values.getD (base + offset) false

theorem testBit_prefixByte (values : List Bool) (base count position : Nat) :
    (prefixByte values base count).testBit position =
      (decide (position < 8) && (decide (position < count) &&
        values.getD (base + position) false)) := by
  by_cases h : position < 8
  · simp [prefixByte, Nat.testBit_ofBits_lt _ _ h, h]
  · simp [prefixByte, Nat.testBit_ofBits_ge _ _ (Nat.le_of_not_lt h), h]

theorem prefixByte_succ {values : List Bool} {base count : Nat} (hcount : count < 8) :
    prefixByte values base (count + 1) =
      if values.getD (base + count) false then prefixByte values base count ||| 2 ^ count
      else prefixByte values base count := by
  apply Nat.eq_of_testBit_eq
  intro position
  rcases Nat.lt_trichotomy position count with hlt | rfl | hgt
  · have hne : count ≠ position := by omega
    split <;>
      simp [testBit_prefixByte, Nat.testBit_or, hne, hlt, Nat.lt_succ_of_lt hlt]
  · split <;> rename_i hvalue <;>
      simp [testBit_prefixByte, Nat.testBit_or, hcount] at hvalue ⊢ <;>
      simp [hvalue]
  · have hne : count ≠ position := by omega
    have hnotLt : ¬position < count := by omega
    have hnotSucc : ¬position < count + 1 := by omega
    split <;> simp [testBit_prefixByte, Nat.testBit_or, hne, hnotLt, hnotSucc]

theorem foldlM_packBit {values : List Bool} {base count : Nat} (hcount : count ≤ 8)
    (hinside : base + count ≤ values.length) :
    (List.range' base count).foldlM (packBit values base) 0 =
      .ok (prefixByte values base count) := by
  induction count with
  | zero =>
      have hzero : prefixByte values base 0 = 0 := by
        apply Nat.eq_of_testBit_eq
        intro position
        simp [testBit_prefixByte]
      rw [hzero]
      rfl
  | succ count ih =>
      have hturn : packBit values base (prefixByte values base count) (base + count) =
          .ok (prefixByte values base (count + 1)) := by
        have hget : getItem values ((base + count : Nat) : Int) = .ok values[base + count] :=
          getItem_natCast (by omega)
        have hvalue : values.getD (base + count) false = values[base + count] := by
          rw [List.getD_eq_getElem?_getD, List.getElem?_eq_getElem (by omega), Option.getD_some]
        have hoffset : ((base + count : Nat) : Int) - base = (count : Int) := by
          push_cast
          omega
        rw [packBit, hget, Except.ok_bind, prefixByte_succ (by omega), hvalue, hoffset,
          getItem_bitsMasks (by omega)]
        cases values[base + count] <;> rfl
      rw [List.range'_concat, List.foldlM_append, ih (by omega) (by omega), Except.ok_bind]
      simpa using hturn

theorem packByte_eq {values : List Bool} {byteIndex : Nat}
    (hindex : byteIndex < (values.length + 7) / 8) :
    packByte values byteIndex =
      .ok ((BitString.byteOf fun offset : Fin 8 =>
        values.getD (8 * byteIndex + offset) false).toNat : Int) := by
  have hcount : min (byteIndex * 8 + 8) values.length - byteIndex * 8 ≤ 8 := by omega
  have hinside : byteIndex * 8 + (min (byteIndex * 8 + 8) values.length - byteIndex * 8) ≤
      values.length := by omega
  have hbits : prefixByte values (byteIndex * 8)
      (min (byteIndex * 8 + 8) values.length - byteIndex * 8) =
        Nat.ofBits fun offset : Fin 8 => values.getD (8 * byteIndex + offset) false := by
    -- Past the end of the list the loop stops and the missing bits read as clear.
    unfold prefixByte
    refine congrArg Nat.ofBits (funext fun offset => ?_)
    rw [Nat.mul_comm byteIndex 8]
    by_cases hlast : 8 * byteIndex + offset.val < values.length
    · have hlt : offset.val < min (8 * byteIndex + 8) values.length - 8 * byteIndex := by omega
      simp [hlt]
    · rw [List.getD_eq_getElem?_getD, List.getElem?_eq_none (by omega)]
      simp
  rw [packByte, foldlM_packBit hcount hinside, hbits, BitString.toNat_byteOf]
  rfl

/-- `pack_bits` never raises. -/
theorem packBits_eq (values : List Bool) : packBits values = .ok (BitString.pack values) := by
  have hbytes : (List.range ((values.length + 7) / 8)).mapM (packByte values) =
      .ok ((BitString.pack values).map fun byte => (byte.toNat : Int)) := by
    rw [Except.mapM_eq_ok fun byteIndex hmem => packByte_eq (List.mem_range.mp hmem)]
    rw [BitString.pack, List.map_map]
    rfl
  have hrange : ∀ value ∈ (BitString.pack values).map fun byte => (byte.toNat : Int),
      0 ≤ value ∧ value < 256 := by
    intro value hmem
    obtain ⟨byte, _, rfl⟩ := List.mem_map.mp hmem
    have hlt := byte.toNat_lt
    omega
  calc
    packBits values = bytesOf ((BitString.pack values).map fun byte => (byte.toNat : Int)) := by
      rw [packBits, hbytes, Except.ok_bind]
    _ = .ok (((BitString.pack values).map fun byte => (byte.toNat : Int)).map fun value =>
        UInt8.ofNat value.toNat) := bytesOf_eq_ok hrange
    _ = .ok (BitString.pack values) := by
      rw [List.map_map]
      congr 1
      apply List.map_id''
      intro byte
      simp

theorem mapM_getItem_unpackedBitsByByte (data : Bytes) :
    (data.mapM fun byte => getItem unpackedBitsByByte (byte.toNat : Int)) =
      .ok (data.map BitString.byteBits) :=
  Except.mapM_eq_ok fun byte _ => getItem_unpackedBitsByByte byte

theorem unpackBits_eq {data : Bytes} {count : Nat} (h : (count + 7) / 8 ≤ data.length) :
    unpackBits data count = .ok ((BitString.unpack data).take count) := by
  have hfull : ((count : Int) / 8) = ((count / 8 : Nat) : Int) := by omega
  have hrest : ((count : Int) % 8) = ((count % 8 : Nat) : Int) := by omega
  have hslice : slice data 0 ((count / 8 : Nat) : Int) = data.take (count / 8) :=
    slice_natCast (Nat.zero_le _) (by omega)
  rw [unpackBits, if_neg (by omega)]
  dsimp only
  rw [hfull, hrest, hslice, mapM_getItem_unpackedBitsByByte, Except.ok_bind,
    ← BitString.unpack_eq_flatten]
  by_cases hzero : count % 8 = 0
  · -- Whole bytes only.
    have hlength : (BitString.unpack (data.take (count / 8))).length = count := by
      rw [BitString.length_unpack, List.length_take_of_le (by omega)]
      omega
    have htake : (BitString.unpack data).take count = BitString.unpack (data.take (count / 8)) := by
      conv_lhs => rw [← List.take_append_drop (count / 8) data]
      rw [BitString.unpack_append, List.take_append_of_le_length hlength.ge,
        List.take_of_length_le hlength.le]
    rw [if_neg (by omega), htake]
    rfl
  · have hlt : count / 8 < data.length := by omega
    have hbits : slice (BitString.byteBits data[count / 8]) 0 ((count % 8 : Nat) : Int) =
        (BitString.byteBits data[count / 8]).take (count % 8) :=
      slice_natCast (Nat.zero_le _) (by rw [BitString.length_byteBits]; omega)
    have htake := BitString.take_unpack hlt (Nat.mod_lt count (by decide : 0 < 8)).le
    rw [Nat.div_add_mod] at htake
    rw [if_pos (by omega), getItem_natCast hlt, Except.ok_bind, getItem_unpackedBitsByByte,
      Except.ok_bind, hbits, htake]
    rfl

theorem unpackBits_pack (values : List Bool) :
    unpackBits (BitString.pack values) values.length = .ok values := by
  rw [unpackBits_eq (by simp), BitString.take_unpack_pack]

theorem unpackBits_of_short {data : Bytes} {count : Nat} (h : data.length < (count + 7) / 8) :
    unpackBits data count =
      .error (.valueError "bit byte count is too short for requested count.") := by
  have hshort : (data.length : Int) < ((count : Int) + 7) / 8 := by omega
  rw [unpackBits, if_pos hshort]

theorem unpackBits_error_iff {data : Bytes} {count : Nat} :
    (∃ message, unpackBits data count = .error (.valueError message)) ↔
      data.length < (count + 7) / 8 := by
  constructor
  · rintro ⟨message, herror⟩
    by_contra hlong
    rw [unpackBits_eq (by omega)] at herror
    cases herror
  · intro hshort
    exact ⟨_, unpackBits_of_short hshort⟩

theorem length_take_unpack {data : Bytes} {count : Nat} (h : (count + 7) / 8 ≤ data.length) :
    ((BitString.unpack data).take count).length = count := by
  rw [List.length_take, BitString.length_unpack]
  omega

theorem getElem?_take_unpack {data : Bytes} {count position : Nat}
    (h : (count + 7) / 8 ≤ data.length) (hposition : position < count) :
    ((BitString.unpack data).take count)[position]? = some (BitString.bitAt data position) := by
  have hinside : position < (BitString.unpack data).length := by
    rw [BitString.length_unpack]
    omega
  rw [List.getElem?_take_of_lt hposition, List.getElem?_eq_getElem hinside,
    BitString.getElem_unpack]

/-- Packing loses nothing and clears the padding; unpacking reads bit `n % 8` of byte `n / 8` and
fails on too few bytes only, so packing again clears the padding of the bytes it read. -/
theorem bitPacking_exact (values : List Bool) (data : Bytes) (count : Nat) :
    (∃ packed, packBits values = .ok packed ∧ unpackBits packed values.length = .ok values ∧
      packed.length = (values.length + 7) / 8 ∧
      ∀ position, values.length ≤ position → BitString.bitAt packed position = false) ∧
    ((∃ message, unpackBits data count = .error (.valueError message)) ↔
      data.length < (count + 7) / 8) ∧
    ((count + 7) / 8 ≤ data.length →
      ∃ result, unpackBits data count = .ok result ∧ result.length = count ∧
        (∀ position < count, result[position]? = some (BitString.bitAt data position)) ∧
        packBits result = .ok (BitString.clearUnused data count)) := by
  refine ⟨⟨BitString.pack values, packBits_eq values, unpackBits_pack values,
    BitString.length_pack values, ?_⟩, unpackBits_error_iff, ?_⟩
  · intro position hposition
    exact BitString.bitAt_pack_of_length_le hposition
  · intro hlong
    refine ⟨(BitString.unpack data).take count, unpackBits_eq hlong, length_take_unpack hlong,
      ?_, ?_⟩
    · intro position hposition
      exact getElem?_take_unpack hlong hposition
    · rw [packBits_eq, BitString.pack_take_unpack hlong]

end ClearModbus
