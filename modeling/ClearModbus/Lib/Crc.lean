import ClearModbus.Lib.BitString

/-!
# Cyclic redundancy checks, least significant bit first

A remainder is shifted right and reduced by the polynomial whenever a one falls out. A shift is
linear in exclusive or, so what a byte string does to a remainder is one run of shifts on the number
the string spells (`foldl_step`). Two properties of the polynomial carry the error detection: with
its top bit set a shift is injective on remainders, and with an odd number of ones it keeps the
parity.
-/

namespace Crc

variable {poly width : Nat}

def shift (poly value : Nat) : Nat :=
  if value.testBit 0 then (value >>> 1) ^^^ poly else value >>> 1

def step (poly remainder : Nat) (byte : UInt8) : Nat := (shift poly)^[8] (remainder ^^^ byte.toNat)

theorem shift_xor (left right : Nat) :
    shift poly (left ^^^ right) = shift poly left ^^^ shift poly right := by
  have hshift := Nat.shiftRight_xor_distrib (a := left) (b := right) (i := 1)
  unfold shift
  rw [Nat.testBit_xor, hshift]
  cases left.testBit 0 <;> cases right.testBit 0
  · rfl
  · exact Nat.xor_assoc _ _ _
  · exact Nat.xor_right_comm _ _ _
  · change _ = _ ^^^ poly ^^^ (_ ^^^ poly)
    rw [Nat.xor_comm (right >>> 1), ← Nat.xor_assoc, Nat.xor_xor_cancel_right]
    rfl

theorem iterate_shift_xor (count left right : Nat) :
    (shift poly)^[count] (left ^^^ right) =
      (shift poly)^[count] left ^^^ (shift poly)^[count] right := by
  induction count generalizing left right with
  | zero => rfl
  | succ count ih => rw [Function.iterate_succ_apply, shift_xor, ih]; rfl

theorem shift_zero : shift poly 0 = 0 := rfl

/-- Zeros that fall out reduce nothing. -/
theorem iterate_shift_shiftLeft (count value : Nat) :
    (shift poly)^[count] (value <<< count) = value := by
  induction count generalizing value with
  | zero => rfl
  | succ count ih =>
      have hbit : (value <<< (count + 1)).testBit 0 = false := by simp
      have hshift : value <<< (count + 1) >>> 1 = value <<< count := by
        rw [Nat.shiftLeft_add, Nat.shiftLeft_shiftRight]
      rw [Function.iterate_succ_apply, shift, hbit, if_neg Bool.false_ne_true, hshift, ih]

theorem foldl_step (remainder : Nat) (data : List UInt8) :
    data.foldl (step poly) remainder =
      (shift poly)^[8 * data.length] (remainder ^^^ BitString.toNat data) := by
  induction data generalizing remainder with
  | nil => rw [BitString.toNat, Nat.xor_zero]; rfl
  | cons byte rest ih =>
      have hvalue : BitString.toNat (byte :: rest) =
          byte.toNat ^^^ (BitString.toNat rest <<< 8) := by
        have happend := BitString.toNat_append [byte] rest
        simpa [BitString.toNat] using happend
      calc (byte :: rest).foldl (step poly) remainder
          = (shift poly)^[8 * rest.length]
              (step poly remainder byte ^^^ BitString.toNat rest) := ih _
        _ = (shift poly)^[8 * rest.length] ((shift poly)^[8]
              (remainder ^^^ byte.toNat ^^^ (BitString.toNat rest <<< 8))) := by
            rw [iterate_shift_xor 8, iterate_shift_shiftLeft]
            rfl
        _ = (shift poly)^[8 * (byte :: rest).length]
              (remainder ^^^ BitString.toNat (byte :: rest)) := by
            rw [← Function.iterate_add_apply, hvalue, ← Nat.xor_assoc]
            rfl

/-- Byte strings of one length leave remainders that differ by the shifts of their difference. -/
theorem foldl_step_xor (poly remainder : Nat) {left right : List UInt8}
    (hlength : left.length = right.length) :
    left.foldl (step poly) remainder ^^^ right.foldl (step poly) remainder =
      (shift poly)^[8 * left.length] (BitString.toNat left ^^^ BitString.toNat right) := by
  rw [foldl_step, foldl_step, ← hlength, ← iterate_shift_xor]
  congr 1
  rw [Nat.xor_comm remainder, Nat.xor_assoc, Nat.xor_xor_cancel_left]

/-- The step through a table of the remainders of single bytes. -/
theorem step_eq_table (remainder : Nat) (byte : UInt8) :
    step poly remainder byte =
      (remainder >>> 8) ^^^ (shift poly)^[8] ((remainder ^^^ byte.toNat) % 2 ^ 8) := by
  have hbyte : byte.toNat >>> 8 = 0 := by
    rw [Nat.shiftRight_eq_div_pow]
    exact Nat.div_eq_of_lt byte.toNat_lt
  have hsplit : remainder ^^^ byte.toNat =
      ((remainder >>> 8) <<< 8) ^^^ ((remainder ^^^ byte.toNat) % 2 ^ 8) := by
    apply Nat.eq_of_testBit_eq
    intro position
    rw [Nat.testBit_xor _ ((_ : Nat) % _), Nat.testBit_mod_two_pow, Nat.testBit_shiftLeft,
      Nat.testBit_shiftRight]
    by_cases hlow : position < 8
    · have hnot : ¬8 ≤ position := by omega
      simp [hlow, hnot]
    · have hle : 8 ≤ position := by omega
      have hpow : 2 ^ 8 ≤ 2 ^ position := Nat.pow_le_pow_right (by decide) hle
      have hbit : byte.toNat.testBit position = false :=
        Nat.testBit_eq_false_of_lt (lt_of_lt_of_le byte.toNat_lt hpow)
      rw [Nat.testBit_xor, hbit]
      simp [hlow, hle]
  calc step poly remainder byte
      = (shift poly)^[8] (((remainder >>> 8) <<< 8) ^^^
          ((remainder ^^^ byte.toNat) % 2 ^ 8)) := by rw [← hsplit]; rfl
    _ = _ := by rw [iterate_shift_xor, iterate_shift_shiftLeft]

theorem shift_lt (hpoly : poly < 2 ^ width) {value : Nat} (hvalue : value < 2 ^ width) :
    shift poly value < 2 ^ width := by
  have hhalf : value >>> 1 < 2 ^ width :=
    lt_of_le_of_lt (Nat.shiftRight_le value 1) hvalue
  unfold shift
  split
  · exact Nat.xor_lt_two_pow hhalf hpoly
  · exact hhalf

theorem iterate_shift_lt (hpoly : poly < 2 ^ width) (count : Nat) {value : Nat}
    (hvalue : value < 2 ^ width) : (shift poly)^[count] value < 2 ^ width := by
  induction count generalizing value with
  | zero => exact hvalue
  | succ count ih => exact ih (shift_lt hpoly hvalue)

/-- The top bit of the polynomial tells whether a one has fallen out. -/
theorem shift_eq_zero (htop : poly.testBit width) {value : Nat}
    (hvalue : value < 2 ^ (width + 1)) (h : shift poly value = 0) : value = 0 := by
  have hhalf : (value >>> 1).testBit width = false := by
    rw [Nat.testBit_shiftRight]
    exact Nat.testBit_eq_false_of_lt (by rwa [Nat.add_comm])
  cases hlow : value.testBit 0 with
  | true =>
      rw [shift, hlow, if_pos rfl] at h
      have hbit : ((value >>> 1) ^^^ poly).testBit width = true := by
        rw [Nat.testBit_xor, hhalf, htop]
        rfl
      rw [h, Nat.zero_testBit] at hbit
      cases hbit
  | false =>
      rw [shift, hlow, if_neg Bool.false_ne_true, Nat.shiftRight_eq_div_pow] at h
      rw [Nat.testBit_zero] at hlow
      have hmod : ¬value % 2 = 1 := of_decide_eq_false hlow
      omega

theorem iterate_shift_eq_zero (htop : poly.testBit width) (hpoly : poly < 2 ^ (width + 1))
    (count : Nat) {value : Nat} (hvalue : value < 2 ^ (width + 1))
    (h : (shift poly)^[count] value = 0) : value = 0 := by
  induction count generalizing value with
  | zero => exact h
  | succ count ih => exact shift_eq_zero htop hvalue (ih (shift_lt hpoly hvalue) h)

def parity (width value : Nat) : ZMod 2 :=
  ∑ position ∈ Finset.range width, if value.testBit position then 1 else 0

theorem parity_xor (left right : Nat) :
    parity width (left ^^^ right) = parity width left + parity width right := by
  unfold parity
  rw [← Finset.sum_add_distrib]
  apply Finset.sum_congr rfl
  intro position _
  rw [Nat.testBit_xor]
  cases left.testBit position <;> cases right.testBit position <;> decide

theorem parity_shiftRight {value : Nat} (hvalue : value < 2 ^ width) :
    parity width (value >>> 1) + (if value.testBit 0 then 1 else 0) = parity width value := by
  have htop : value.testBit width = false := Nat.testBit_eq_false_of_lt hvalue
  have hsucc : parity (width + 1) value = parity width value := by
    rw [parity, Finset.sum_range_succ, htop, if_neg Bool.false_ne_true, add_zero]
    rfl
  rw [← hsucc, parity, parity, Finset.sum_range_succ']
  congr 1
  apply Finset.sum_congr rfl
  intro position _
  rw [Nat.testBit_shiftRight, Nat.add_comm]

/-- A polynomial with an odd number of ones replaces the one that falls out. -/
theorem parity_shift (hodd : parity width poly = 1) {value : Nat} (hvalue : value < 2 ^ width) :
    parity width (shift poly value) = parity width value := by
  rw [← parity_shiftRight hvalue]
  unfold shift
  split
  · rw [parity_xor, hodd]
  · rw [add_zero]

theorem parity_iterate_shift (hodd : parity width poly = 1) (hpoly : poly < 2 ^ width)
    (count : Nat) {value : Nat} (hvalue : value < 2 ^ width) :
    parity width ((shift poly)^[count] value) = parity width value := by
  induction count generalizing value with
  | zero => rfl
  | succ count ih =>
      rw [Function.iterate_succ_apply, ih (shift_lt hpoly hvalue), parity_shift hodd hvalue]

theorem parity_of_le {wide value : Nat} (hwide : width ≤ wide) (hvalue : value < 2 ^ width) :
    parity wide value = parity width value := by
  unfold parity
  symm
  apply Finset.sum_subset (Finset.range_subset_range.mpr hwide)
  intro position _ houtside
  rw [Finset.mem_range] at houtside
  have hpow : 2 ^ width ≤ 2 ^ position := Nat.pow_le_pow_right (by decide) (by omega)
  rw [Nat.testBit_eq_false_of_lt (lt_of_lt_of_le hvalue hpow), if_neg Bool.false_ne_true]

section Detection

variable {left right : List UInt8}

open BitString

/-- A burst no longer than the remainder changes the remainder. -/
theorem foldl_step_ne_of_burst (htop : poly.testBit width) (hpoly : poly < 2 ^ (width + 1))
    (hlength : left.length = right.length) (hne : left ≠ right) {start : Nat}
    (hburst : ∀ position ∈ differingBits left right,
      start ≤ position ∧ position < start + (width + 1)) (remainder : Nat) :
    left.foldl (step poly) remainder ≠ right.foldl (step poly) remainder := by
  have hnonzero := xor_toNat_ne_zero hlength hne
  have hbits : ∀ position, (toNat left ^^^ toNat right).testBit position = true →
      start ≤ position ∧ position < start + (width + 1) := by
    intro position hbit
    exact hburst position ((mem_differingBits hlength).mpr hbit)
  have hstart : start ≤ 8 * left.length := by
    obtain ⟨position, hbit⟩ := Nat.exists_testBit_of_ne_zero hnonzero
    have hmem := (mem_differingBits hlength).mpr hbit
    have hinside := Finset.mem_range.mp (Finset.mem_filter.mp hmem).1
    exact (hbits position hbit).1.trans hinside.le
  have hdifference := foldl_step_xor poly remainder hlength
  generalize toNat left ^^^ toNat right = difference at hnonzero hbits hdifference
  have hwindow : difference >>> start < 2 ^ (width + 1) := by
    apply Nat.lt_pow_two_of_testBit
    intro position hposition
    rw [Nat.testBit_shiftRight, Bool.eq_false_iff]
    intro hbit
    have hinside := (hbits _ hbit).2
    omega
  have hshifted : (difference >>> start) <<< start = difference := by
    apply Nat.eq_of_testBit_eq
    intro position
    rw [Nat.testBit_shiftLeft, Nat.testBit_shiftRight]
    by_cases hle : start ≤ position
    · rw [decide_eq_true hle, Bool.true_and, Nat.add_sub_cancel' hle]
    · rw [decide_eq_false hle, Bool.false_and]
      symm
      rw [Bool.eq_false_iff]
      intro hbit
      exact hle (hbits position hbit).1
  intro hequal
  rw [hequal, Nat.xor_self, ← Nat.sub_add_cancel hstart, Function.iterate_add_apply, ← hshifted,
    iterate_shift_shiftLeft] at hdifference
  have hzero := iterate_shift_eq_zero htop hpoly _ hwindow hdifference.symm
  rw [hzero, Nat.zero_shiftLeft] at hshifted
  exact hnonzero hshifted.symm

theorem parity_xor_toNat :
    parity (8 * left.length) (toNat left ^^^ toNat right) = (differingBits left right).card := by
  rw [differingBits, Finset.card_filter, Nat.cast_sum, parity]
  apply Finset.sum_congr rfl
  intro position hposition
  rw [Nat.testBit_xor, testBit_toNat, testBit_toNat, Nat.cast_ite]
  simp

/-- An odd number of changed bits changes the remainder. -/
theorem foldl_step_ne_of_odd (hodd : parity width poly = 1) (hpoly : poly < 2 ^ width)
    (hlength : left.length = right.length) (hcount : Odd (differingBits left right).card)
    (remainder : Nat) :
    left.foldl (step poly) remainder ≠ right.foldl (step poly) remainder := by
  intro hequal
  have hdifference := foldl_step_xor poly remainder hlength
  rw [hequal, Nat.xor_self] at hdifference
  have hwide : width ≤ max width (8 * left.length) := Nat.le_max_left _ _
  have hbytes : 8 * left.length ≤ max width (8 * left.length) := Nat.le_max_right _ _
  have hvalue : toNat left ^^^ toNat right < 2 ^ (8 * left.length) :=
    Nat.xor_lt_two_pow (toNat_lt left) (by rw [hlength]; exact toNat_lt right)
  have heven := calc
    (0 : ZMod 2) = parity (max width (8 * left.length)) 0 := by simp [parity]
    _ = parity (max width (8 * left.length)) (toNat left ^^^ toNat right) := by
        rw [hdifference, parity_iterate_shift ((parity_of_le hwide hpoly).trans hodd)
          (lt_of_lt_of_le hpoly (Nat.pow_le_pow_right (by decide) hwide)) _
          (lt_of_lt_of_le hvalue (Nat.pow_le_pow_right (by decide) hbytes))]
    _ = (differingBits left right).card := by
        rw [parity_of_le hbytes hvalue, parity_xor_toNat]
  have hone : ((differingBits left right).card : ZMod 2) = 1 :=
    ZMod.natCast_eq_one_iff_odd.mpr hcount
  rw [hone] at heven
  exact absurd heven (by decide)

end Detection

end Crc
