import Mathlib.Tactic
import Mathlib.Data.Nat.Bitwise

/-!
# Bit strings packed least significant bit first

Bit `position` of a byte string is bit `position % 8` of byte `position / 8`. Packing rounds the
length up to whole bytes and clears the padding, so unpacking recovers the bits and packing again
recovers the bytes up to that padding. Everything is proved through `bitAt`.
-/

namespace BitString

def bitAt (data : List UInt8) (position : Nat) : Bool :=
  (data.getD (position / 8) 0).toNat.testBit (position % 8)

def byteOf (bits : Fin 8 → Bool) : UInt8 := UInt8.ofNat (Nat.ofBits bits)

def pack (bits : List Bool) : List UInt8 :=
  (List.range ((bits.length + 7) / 8)).map fun index =>
    byteOf fun offset => bits.getD (8 * index + offset) false

def unpack (data : List UInt8) : List Bool :=
  (List.range (8 * data.length)).map (bitAt data)

/-- How many bits the last byte of a packed string of `count` bits holds. -/
def usedBits (count : Nat) : Nat := (count - 1) % 8 + 1

theorem toNat_byteOf (bits : Fin 8 → Bool) : (byteOf bits).toNat = Nat.ofBits bits := by
  have hlt : Nat.ofBits bits < 2 ^ 8 := Nat.ofBits_lt_two_pow bits
  simp only [byteOf, UInt8.toNat_ofNat']
  exact Nat.mod_eq_of_lt hlt

theorem testBit_byteOf (bits : Fin 8 → Bool) {offset : Nat} (hoffset : offset < 8) :
    (byteOf bits).toNat.testBit offset = bits ⟨offset, hoffset⟩ := by
  rw [toNat_byteOf, Nat.testBit_ofBits_lt]

theorem byte_ext {left right : UInt8}
    (h : ∀ offset < 8, left.toNat.testBit offset = right.toNat.testBit offset) : left = right := by
  apply UInt8.toNat_inj.mp
  apply Nat.eq_of_testBit_eq
  intro offset
  by_cases hoffset : offset < 8
  · exact h offset hoffset
  · have hpow : (2 : Nat) ^ 8 ≤ 2 ^ offset := Nat.pow_le_pow_right (by decide) (by omega)
    rw [Nat.testBit_eq_false_of_lt (lt_of_lt_of_le left.toNat_lt hpow),
      Nat.testBit_eq_false_of_lt (lt_of_lt_of_le right.toNat_lt hpow)]

@[simp]
theorem length_pack (bits : List Bool) : (pack bits).length = (bits.length + 7) / 8 := by
  simp [pack]

@[simp]
theorem length_unpack (data : List UInt8) : (unpack data).length = 8 * data.length := by
  simp [unpack]

theorem getElem_unpack {data : List UInt8} {position : Nat} (h : position < (unpack data).length) :
    (unpack data)[position] = bitAt data position := by
  simp [unpack]

def byteBits (byte : UInt8) : List Bool := (List.range 8).map byte.toNat.testBit

@[simp]
theorem length_byteBits (byte : UInt8) : (byteBits byte).length = 8 := rfl

theorem unpack_cons (byte : UInt8) (data : List UInt8) :
    unpack (byte :: data) = byteBits byte ++ unpack data := by
  apply List.ext_getElem
  · simp only [length_unpack, List.length_append, length_byteBits, List.length_cons]
    omega
  · intro position hleft hright
    rw [getElem_unpack]
    by_cases hlow : position < 8
    · have hdiv : position / 8 = 0 := by omega
      have hmod : position % 8 = position := by omega
      rw [List.getElem_append_left (by simpa using hlow)]
      simp [bitAt, byteBits, hdiv, hmod]
    · have hdiv : position / 8 = (position - 8) / 8 + 1 := by omega
      have hmod : position % 8 = (position - 8) % 8 := by omega
      rw [List.getElem_append_right (by simpa using hlow), getElem_unpack]
      simp [bitAt, hdiv, hmod]

theorem unpack_append (left right : List UInt8) :
    unpack (left ++ right) = unpack left ++ unpack right := by
  induction left with
  | nil => rfl
  | cons byte left ih => rw [List.cons_append, unpack_cons, unpack_cons, ih, List.append_assoc]

theorem unpack_eq_flatten (data : List UInt8) : unpack data = (data.map byteBits).flatten := by
  induction data with
  | nil => rfl
  | cons byte data ih => rw [unpack_cons, ih, List.map_cons, List.flatten_cons]

/-- Taking bits takes whole bytes and then the low bits of the next one. -/
theorem take_unpack {data : List UInt8} {full rest : Nat} (hfull : full < data.length)
    (hrest : rest ≤ 8) :
    (unpack data).take (8 * full + rest) =
      unpack (data.take full) ++ (byteBits data[full]).take rest := by
  have hsplit : data = data.take full ++ data[full] :: data.drop (full + 1) := by
    rw [List.cons_getElem_drop_succ, List.take_append_drop]
  have hlength : (unpack (data.take full)).length = 8 * full := by
    rw [length_unpack, List.length_take_of_le hfull.le]
  conv_lhs => rw [hsplit]
  rw [unpack_append, unpack_cons, ← hlength, List.take_length_add_append,
    List.take_append_of_le_length (by simpa using hrest)]

theorem bitAt_pack {bits : List Bool} {position : Nat}
    (hposition : position < 8 * ((bits.length + 7) / 8)) :
    bitAt (pack bits) position = bits.getD position false := by
  have hindex : position / 8 < (bits.length + 7) / 8 := by omega
  have hbyte : (pack bits).getD (position / 8) 0 =
      byteOf fun offset => bits.getD (8 * (position / 8) + offset) false := by
    simp [pack, List.getD_eq_getElem?_getD, hindex]
  have hmod : position % 8 < 8 := Nat.mod_lt _ (by decide)
  rw [bitAt, hbyte, testBit_byteOf _ hmod]
  congr 1
  exact Nat.div_add_mod position 8

theorem take_unpack_pack (bits : List Bool) : (unpack (pack bits)).take bits.length = bits := by
  apply List.ext_getElem
  · simp only [List.length_take, length_unpack, length_pack]
    omega
  · intro position hleft hright
    rw [List.getElem_take, getElem_unpack, bitAt_pack (by omega), List.getD_eq_getElem?_getD,
      List.getElem?_eq_getElem hright]
    rfl

theorem bitAt_pack_take_unpack {data : List UInt8} {count position : Nat}
    (hcount : count ≤ 8 * data.length) (hposition : position < count) :
    bitAt (pack ((unpack data).take count)) position = bitAt data position := by
  have hlength : ((unpack data).take count).length = count := by
    simp only [List.length_take, length_unpack]
    omega
  have hinside : position < (unpack data).length := by
    rw [length_unpack]
    omega
  rw [bitAt_pack (by rw [hlength]; omega), List.getD_eq_getElem?_getD,
    List.getElem?_take_of_lt hposition, List.getElem?_eq_getElem hinside, getElem_unpack]
  rfl

/-- The first whole bytes that `count` bits need, with the unused high bits of the last one
cleared. -/
def clearUnused (data : List UInt8) (count : Nat) : List UInt8 :=
  (data.take ((count + 7) / 8)).modify (count / 8) (· &&& UInt8.ofNat (2 ^ (count % 8) - 1))

theorem length_clearUnused {data : List UInt8} {count : Nat}
    (hlength : (count + 7) / 8 ≤ data.length) :
    (clearUnused data count).length = (count + 7) / 8 := by
  rw [clearUnused, List.length_modify, List.length_take_of_le hlength]

theorem bitAt_of_length_le {data : List UInt8} {position : Nat}
    (h : 8 * data.length ≤ position) : bitAt data position = false := by
  have houtside : data.length ≤ position / 8 := by omega
  simp [bitAt, List.getD_eq_getElem?_getD, houtside]

theorem bitAt_pack_of_length_le {bits : List Bool} {position : Nat}
    (h : bits.length ≤ position) : bitAt (pack bits) position = false := by
  by_cases hinside : position < 8 * ((bits.length + 7) / 8)
  · rw [bitAt_pack hinside, List.getD_eq_getElem?_getD, List.getElem?_eq_none h]
    rfl
  · apply bitAt_of_length_le
    rw [length_pack]
    omega

theorem testBit_and_lowMask (byte : UInt8) {rest offset : Nat} (hrest : rest < 8) :
    (byte &&& UInt8.ofNat (2 ^ rest - 1)).toNat.testBit offset =
      (byte.toNat.testBit offset && decide (offset < rest)) := by
  have hpow : 2 ^ rest ≤ 2 ^ 7 := Nat.pow_le_pow_right (by decide) (by omega)
  have hmask : (UInt8.ofNat (2 ^ rest - 1)).toNat = 2 ^ rest - 1 := by
    rw [UInt8.toNat_ofNat']
    apply Nat.mod_eq_of_lt
    omega
  rw [UInt8.toNat_and, hmask, Nat.testBit_and, Nat.testBit_two_pow_sub_one]

theorem getElem?_clearUnused_last {data : List UInt8} {count index : Nat}
    (hlast : count / 8 = index) (hinside : index < (count + 7) / 8) :
    (clearUnused data count)[index]? =
      data[index]?.map (· &&& UInt8.ofNat (2 ^ (count % 8) - 1)) := by
  subst hlast
  rw [clearUnused, List.getElem?_modify_eq, List.getElem?_take_of_lt hinside]
  rfl

theorem getElem?_clearUnused_of_ne {data : List UInt8} {count index : Nat}
    (hlast : count / 8 ≠ index) (hinside : index < (count + 7) / 8) :
    (clearUnused data count)[index]? = data[index]? := by
  rw [clearUnused, List.getElem?_modify_ne _ _ hlast, List.getElem?_take_of_lt hinside]

theorem bitAt_clearUnused (data : List UInt8) (count position : Nat) :
    bitAt (clearUnused data count) position =
      (decide (position < count) && bitAt data position) := by
  have hrest : count % 8 < 8 := Nat.mod_lt _ (by decide)
  simp only [bitAt, List.getD_eq_getElem?_getD]
  by_cases hinside : position / 8 < (count + 7) / 8
  · by_cases hlast : count / 8 = position / 8
    · -- The partial byte: its bits from `count % 8` on are cleared.
      have hiff : position % 8 < count % 8 ↔ position < count := by omega
      rw [getElem?_clearUnused_last hlast hinside]
      cases data[position / 8]? with
      | none => simp
      | some byte =>
          simp only [Option.map_some, Option.getD_some]
          rw [testBit_and_lowMask byte hrest, decide_eq_decide.mpr hiff, Bool.and_comm]
    · have hlt : position < count := by omega
      rw [getElem?_clearUnused_of_ne hlast hinside]
      simp [hlt]
  · have hnot : ¬position < count := by omega
    have hnone : (clearUnused data count)[position / 8]? = none := by
      apply List.getElem?_eq_none
      rw [clearUnused, List.length_modify, List.length_take]
      omega
    rw [hnone]
    simp [hnot]

def toNat : List UInt8 → Nat
  | [] => 0
  | byte :: rest => byte.toNat + 256 * toNat rest

theorem testBit_toNat (data : List UInt8) (position : Nat) :
    (toNat data).testBit position = bitAt data position := by
  induction data generalizing position with
  | nil => simp [toNat, bitAt]
  | cons byte rest ih =>
      have hbyte : byte.toNat < 2 ^ 8 := byte.toNat_lt
      have hvalue : toNat (byte :: rest) = 2 ^ 8 * toNat rest + byte.toNat := Nat.add_comm _ _
      rw [hvalue, Nat.testBit_two_pow_mul_add _ hbyte, bitAt]
      by_cases hlow : position < 8
      · have hdiv : position / 8 = 0 := by omega
        have hmod : position % 8 = position := by omega
        rw [if_pos hlow, hdiv, hmod, List.getD_cons_zero]
      · have hdiv : position / 8 = (position - 8) / 8 + 1 := by omega
        have hmod : position % 8 = (position - 8) % 8 := by omega
        rw [if_neg hlow, hdiv, hmod, List.getD_cons_succ, ih, bitAt]

theorem toNat_lt (data : List UInt8) : toNat data < 2 ^ (8 * data.length) := by
  induction data with
  | nil => decide
  | cons byte rest ih =>
      have hbyte := byte.toNat_lt
      rw [toNat, List.length_cons, Nat.mul_succ, pow_add]
      omega

theorem toNat_append (left right : List UInt8) :
    toNat (left ++ right) = toNat left ^^^ (toNat right <<< (8 * left.length)) := by
  have hsum : toNat (left ++ right) = toNat left + 2 ^ (8 * left.length) * toNat right := by
    induction left with
    | nil => simp [toNat]
    | cons byte left ih =>
        rw [List.cons_append, toNat, ih, toNat, List.length_cons, Nat.mul_succ, pow_add]
        ring
  have hlt := toNat_lt left
  rw [hsum]
  apply Nat.eq_of_testBit_eq
  intro position
  rw [Nat.add_comm, Nat.testBit_two_pow_mul_add _ hlt, Nat.testBit_xor, Nat.testBit_shiftLeft]
  by_cases hlow : position < 8 * left.length
  · have hnot : ¬8 * left.length ≤ position := by omega
    simp [hlow, hnot]
  · have hle : 8 * left.length ≤ position := by omega
    have hpow : 2 ^ (8 * left.length) ≤ 2 ^ position := Nat.pow_le_pow_right (by decide) hle
    rw [if_neg hlow, Nat.testBit_eq_false_of_lt (lt_of_lt_of_le hlt hpow)]
    simp [hle]

theorem toNat_injective {left right : List UInt8} (hlength : left.length = right.length)
    (h : toNat left = toNat right) : left = right := by
  apply List.ext_getElem hlength
  intro index hleft hright
  apply byte_ext
  intro offset hoffset
  have hdiv : (8 * index + offset) / 8 = index := by omega
  have hmod : (8 * index + offset) % 8 = offset := by omega
  have hbit : bitAt left (8 * index + offset) = bitAt right (8 * index + offset) := by
    rw [← testBit_toNat, ← testBit_toNat, h]
  simpa [bitAt, hdiv, hmod, List.getD_eq_getElem?_getD, hleft, hright] using hbit

theorem ext_bitAt {left right : List UInt8} (hlength : left.length = right.length)
    (h : ∀ position, bitAt left position = bitAt right position) : left = right := by
  apply toNat_injective hlength
  apply Nat.eq_of_testBit_eq
  intro position
  rw [testBit_toNat, testBit_toNat, h]

/-- Unpacking `count` bits and packing them again clears the padding and nothing else. -/
theorem pack_take_unpack {data : List UInt8} {count : Nat}
    (hlength : (count + 7) / 8 ≤ data.length) :
    pack ((unpack data).take count) = clearUnused data count := by
  have htake : ((unpack data).take count).length = count := by
    simp only [List.length_take, length_unpack]
    omega
  apply ext_bitAt
  · rw [length_pack, htake, length_clearUnused hlength]
  · intro position
    rw [bitAt_clearUnused]
    by_cases hposition : position < count
    · rw [bitAt_pack_take_unpack (by omega) hposition]
      simp [hposition]
    · rw [bitAt_pack_of_length_le (by omega)]
      simp [hposition]

theorem dropLast_pack_take_unpack {data : List UInt8} {count : Nat}
    (hlength : data.length = (count + 7) / 8) :
    (pack ((unpack data).take count)).dropLast = data.dropLast := by
  rw [pack_take_unpack hlength.ge]
  apply List.ext_getElem?
  intro index
  rw [List.getElem?_dropLast, List.getElem?_dropLast, length_clearUnused hlength.ge, hlength]
  by_cases hindex : index < (count + 7) / 8 - 1
  · rw [if_pos hindex, if_pos hindex, getElem?_clearUnused_of_ne (by omega) (by omega)]
  · rw [if_neg hindex, if_neg hindex]

theorem testBit_getLastD (data : List UInt8) {offset : Nat} (hoffset : offset < 8) :
    (data.getLastD 0).toNat.testBit offset = bitAt data (8 * (data.length - 1) + offset) := by
  have hdiv : (8 * (data.length - 1) + offset) / 8 = data.length - 1 := by omega
  have hmod : (8 * (data.length - 1) + offset) % 8 = offset := by omega
  rw [bitAt, hdiv, hmod, List.getD_eq_getElem?_getD, ← List.getLast?_eq_getElem?,
    List.getLastD_eq_getLast?]

theorem testBit_getLastD_pack_take_unpack {data : List UInt8} {count offset : Nat}
    (hcount : 0 < count) (hlength : data.length = (count + 7) / 8)
    (hoffset : offset < usedBits count) :
    ((pack ((unpack data).take count)).getLastD 0).toNat.testBit offset =
      (data.getLastD 0).toNat.testBit offset := by
  unfold usedBits at hoffset
  have hused : 8 * (data.length - 1) + offset < count := by omega
  have hcleared : (clearUnused data count).length = data.length := by
    rw [length_clearUnused hlength.ge, hlength]
  rw [pack_take_unpack hlength.ge, testBit_getLastD _ (by omega), testBit_getLastD data (by omega),
    hcleared, bitAt_clearUnused, decide_eq_true hused, Bool.true_and]

def differingBits (left right : List UInt8) : Finset Nat :=
  (Finset.range (8 * left.length)).filter fun position => bitAt left position ≠ bitAt right position

theorem mem_differingBits {left right : List UInt8} (hlength : left.length = right.length)
    {position : Nat} :
    position ∈ differingBits left right ↔
      (toNat left ^^^ toNat right).testBit position = true := by
  have hxor : (toNat left ^^^ toNat right).testBit position = true ↔
      bitAt left position ≠ bitAt right position := by
    rw [Nat.testBit_xor, testBit_toNat, testBit_toNat, bne_iff_ne]
  rw [hxor, differingBits, Finset.mem_filter, and_iff_right_iff_imp]
  intro hne
  by_contra houtside
  rw [Finset.mem_range] at houtside
  have hleft : left.length ≤ position / 8 := by omega
  have hright : right.length ≤ position / 8 := by omega
  simp [bitAt, List.getD_eq_getElem?_getD, hleft, hright] at hne

theorem xor_toNat_ne_zero {left right : List UInt8} (hlength : left.length = right.length)
    (hne : left ≠ right) : toNat left ^^^ toNat right ≠ 0 := by
  intro hzero
  apply hne
  apply toNat_injective hlength
  exact Nat.xor_eq_zero_iff.mp hzero

end BitString
