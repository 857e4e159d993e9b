import ClearModbus.Proof.Lookup

/-!
# The overlap check is exact

The check compares neighbours in the order of the sorted ranges only. Sorted ranges that are apart
pairwise also follow each other, so the neighbours decide: the check passes exactly when no two
entries of one list cover a common address. Empty blocks cover none, and the four lists are checked
on their own.
-/

namespace ClearModbus

variable {α : Type}

theorem validateNeighbours_of_pairwise {ranges : List (Int × Int)}
    (h : ranges.Pairwise fun left right => left.2 < right.1) :
    validateNeighbours ranges = .ok () := by
  induction ranges using validateNeighbours.induct with
  | case1 previous current rest hoverlap =>
      have hbefore := (List.pairwise_cons.mp h).1 current (by simp)
      omega
  | case2 previous current rest hapart ih =>
      rw [validateNeighbours, if_neg hapart]
      exact ih (List.pairwise_cons.mp h).2
  | case3 ranges hshort =>
      rw [validateNeighbours]
      exact hshort

theorem pairwise_rangeLe_insertionSort (ranges : List (Int × Int)) :
    (ranges.insertionSort rangeLe).Pairwise rangeLe := by
  have htotal : Std.Total rangeLe := ⟨fun left right => by
    unfold rangeLe
    omega⟩
  have htrans : IsTrans (Int × Int) rangeLe := ⟨fun first second third hleft hright => by
    unfold rangeLe at *
    omega⟩
  exact List.pairwise_insertionSort rangeLe ranges

theorem validateNoOverlappingRanges_ok_iff {ranges : List (Int × Int)}
    (hranges : ∀ range ∈ ranges, range.1 ≤ range.2) :
    validateNoOverlappingRanges ranges = .ok () ↔ ranges.Pairwise Apart := by
  constructor
  · exact pairwise_of_validateNoOverlappingRanges hranges
  · intro hapart
    have hperm := List.perm_insertionSort rangeLe ranges
    have hsortedApart : (ranges.insertionSort rangeLe).Pairwise Apart :=
      (hperm.pairwise_iff Apart.symm).mpr hapart
    apply validateNeighbours_of_pairwise
    apply ((pairwise_rangeLe_insertionSort ranges).and hsortedApart).imp_of_mem
    intro left right _ hright hpair
    obtain ⟨hle, hbefore | hafter⟩ := hpair
    · exact hbefore
    · -- A range that ends before an earlier start would have been sorted first.
      have hrange := hranges right (hperm.mem_iff.mp hright)
      unfold rangeLe at hle
      omega

theorem raisesOnly_validateNeighbours (ranges : List (Int × Int)) :
    (validateNeighbours ranges).RaisesOnly PyError.IsValueError := by
  induction ranges using validateNeighbours.induct with
  | case1 previous current rest hoverlap =>
      rw [validateNeighbours, if_pos hoverlap]
      exact trivial
  | case2 previous current rest hapart ih =>
      rw [validateNeighbours, if_neg hapart]
      exact ih
  | case3 ranges hshort =>
      rw [validateNeighbours]
      · exact trivial
      · exact hshort

def DataBlock.Covers (block : DataBlock α) (address : Int) : Prop :=
  block.startAddress ≤ address ∧ address < block.startAddress + block.values.length

def DataBlock.Disjoint (left right : DataBlock α) : Prop :=
  ∀ address, ¬(left.Covers address ∧ right.Covers address)

/-- Two different entries of a list cover a common address. -/
def Overlapping (blocks : List (DataBlock α)) : Prop :=
  ∃ (first second : Nat) (left right : DataBlock α) (address : Int), first ≠ second ∧
    blocks[first]? = some left ∧ blocks[second]? = some right ∧
    left.Covers address ∧ right.Covers address

theorem DataBlock.Disjoint.symm {left right : DataBlock α} (h : left.Disjoint right) :
    right.Disjoint left :=
  fun address hcovers => h address hcovers.symm

theorem disjoint_of_values_eq_nil {left right : DataBlock α} (h : left.values = []) :
    left.Disjoint right := by
  rintro address ⟨⟨hstart, hend⟩, -⟩
  rw [h] at hend
  simp only [List.length_nil] at hend
  omega

theorem disjoint_iff_apart {left right : DataBlock α} (hleft : 0 < left.values.length)
    (hright : 0 < right.values.length) :
    left.Disjoint right ↔
      Apart (left.startAddress, left.endAddress) (right.startAddress, right.endAddress) := by
  simp only [Apart, DataBlock.endAddress]
  constructor
  · intro hdisjoint
    by_contra hmeet
    -- The later of the two starts is covered by both.
    apply hdisjoint (max left.startAddress right.startAddress)
    unfold DataBlock.Covers
    omega
  · rintro hapart address ⟨⟨hleftStart, hleftEnd⟩, hrightStart, hrightEnd⟩
    omega

theorem validateNoOverlappingBlocks_ok_iff {blocks : List (DataBlock α)} :
    validateNoOverlappingBlocks blocks = .ok () ↔ blocks.Pairwise DataBlock.Disjoint := by
  have hranges : ∀ range ∈ blockRanges blocks, range.1 ≤ range.2 := fun range hmem =>
    range_le_of_mem_blockRanges hmem
  rw [validateNoOverlappingBlocks, validateNoOverlappingRanges_ok_iff hranges, blockRanges,
    List.pairwise_map, List.pairwise_filter]
  apply List.Pairwise.iff
  intro left right
  by_cases hleft : left.values = []
  · simp [hleft, disjoint_of_values_eq_nil hleft]
  · by_cases hright : right.values = []
    · simp [hright, (disjoint_of_values_eq_nil hright).symm]
    · have hleftLength := List.length_pos_of_ne_nil hleft
      have hrightLength := List.length_pos_of_ne_nil hright
      simp [hleftLength, hrightLength, disjoint_iff_apart hleftLength hrightLength]

theorem not_overlapping_iff {blocks : List (DataBlock α)} :
    ¬Overlapping blocks ↔ blocks.Pairwise DataBlock.Disjoint := by
  rw [List.pairwise_iff_getElem]
  constructor
  · intro hnot first second hfirst hsecond hlt address hcovers
    apply hnot
    exact ⟨first, second, blocks[first], blocks[second], address, hlt.ne,
      List.getElem?_eq_getElem hfirst, List.getElem?_eq_getElem hsecond, hcovers⟩
  · rintro hpairwise ⟨first, second, left, right, address, hne, hfirst, hsecond, hcovers⟩
    obtain ⟨hfirstLength, rfl⟩ := List.getElem?_eq_some_iff.mp hfirst
    obtain ⟨hsecondLength, rfl⟩ := List.getElem?_eq_some_iff.mp hsecond
    rcases Nat.lt_or_gt_of_ne hne with hlt | hgt
    · exact hpairwise first second hfirstLength hsecondLength hlt address hcovers
    · exact hpairwise second first hsecondLength hfirstLength hgt address hcovers.symm

/-- The order in which the blocks are listed does not matter. -/
theorem overlapping_perm {left right : List (DataBlock α)} (h : left.Perm right) :
    Overlapping left ↔ Overlapping right := by
  rw [← not_iff_not, not_overlapping_iff, not_overlapping_iff]
  exact h.pairwise_iff DataBlock.Disjoint.symm

def nonEmptyBlocks (blocks : List (DataBlock α)) : List (DataBlock α) :=
  blocks.filter fun block => block.values.length > 0

theorem overlapping_nonEmptyBlocks {blocks : List (DataBlock α)} :
    Overlapping (nonEmptyBlocks blocks) ↔ Overlapping blocks := by
  have hranges : blockRanges (nonEmptyBlocks blocks) = blockRanges blocks := by
    simp only [blockRanges, nonEmptyBlocks, List.filter_filter, Bool.and_self]
  rw [← not_iff_not, not_overlapping_iff, not_overlapping_iff, ← validateNoOverlappingBlocks_ok_iff,
    ← validateNoOverlappingBlocks_ok_iff, validateNoOverlappingBlocks, validateNoOverlappingBlocks,
    hranges]

def Adjacent (left right : DataBlock α) : Prop :=
  right.startAddress = left.startAddress + left.values.length

def Precedes (left right : DataBlock α) : Prop :=
  left.startAddress + left.values.length ≤ right.startAddress

instance : Trans (Precedes (α := α)) (Precedes (α := α)) (Precedes (α := α)) where
  trans hleft hright := by
    unfold Precedes at *
    omega

theorem Precedes.disjoint {left right : DataBlock α} (h : Precedes left right) :
    left.Disjoint right := by
  rintro address ⟨⟨hleftStart, hleftEnd⟩, hrightStart, hrightEnd⟩
  unfold Precedes at h
  omega

def Contiguous (blocks : List (DataBlock α)) : Prop :=
  ∃ order : List (DataBlock α), order.Perm blocks ∧ order.IsChain Adjacent

theorem not_overlapping_of_contiguous {blocks : List (DataBlock α)} (h : Contiguous blocks) :
    ¬Overlapping blocks := by
  obtain ⟨order, hperm, hchain⟩ := h
  have hafter : order.Pairwise Precedes := by
    apply List.isChain_iff_pairwise.mp
    apply hchain.imp
    intro left right hadjacent
    exact hadjacent.ge
  rw [← overlapping_perm hperm, not_overlapping_iff]
  exact hafter.imp Precedes.disjoint

theorem validateNoOverlappingBlocks_ofBlocks_ok_iff {blocks : List (DataBlock α)} :
    validateNoOverlappingBlocks (DataArea.ofBlocks blocks).blocks = .ok () ↔
      ¬Overlapping blocks := by
  have hperm : (DataArea.sortBlocks blocks).Perm blocks := List.perm_insertionSort _ blocks
  change validateNoOverlappingBlocks (DataArea.sortBlocks blocks) = .ok () ↔ ¬Overlapping blocks
  rw [validateNoOverlappingBlocks_ok_iff, ← not_overlapping_iff, overlapping_perm hperm]

namespace MemoryDataStore

variable {holdingRegisters inputRegisters : List RegisterBlock}
  {coils discreteInputs : List BitBlock}

theorem init_ok_iff :
    (∃ store, init holdingRegisters inputRegisters coils discreteInputs = .ok store) ↔
      ¬(Overlapping holdingRegisters ∨ Overlapping inputRegisters ∨ Overlapping coils ∨
        Overlapping discreteInputs) := by
  simp only [init, Except.bind_eq_ok_iff, not_or, ← validateNoOverlappingBlocks_ofBlocks_ok_iff]
  constructor
  · rintro ⟨store, _, hholding, _, hinput, _, hcoils, _, hdiscrete, -⟩
    exact ⟨hholding, hinput, hcoils, hdiscrete⟩
  · rintro ⟨hholding, hinput, hcoils, hdiscrete⟩
    exact ⟨_, (), hholding, (), hinput, (), hcoils, (), hdiscrete, rfl⟩

theorem raisesOnly_init :
    (init holdingRegisters inputRegisters coils discreteInputs).RaisesOnly
      PyError.IsValueError := by
  unfold init
  apply Except.RaisesOnly.bind (raisesOnly_validateNeighbours _)
  intro hholding
  apply Except.RaisesOnly.bind (raisesOnly_validateNeighbours _)
  intro hinput
  apply Except.RaisesOnly.bind (raisesOnly_validateNeighbours _)
  intro hcoils
  apply Except.RaisesOnly.bind (raisesOnly_validateNeighbours _)
  intro hdiscrete
  exact trivial

theorem init_error_iff :
    (∃ message, init holdingRegisters inputRegisters coils discreteInputs =
        .error (.valueError message)) ↔
      (Overlapping holdingRegisters ∨ Overlapping inputRegisters ∨ Overlapping coils ∨
        Overlapping discreteInputs) := by
  rw [exists_valueError_iff raisesOnly_init, init_ok_iff, not_not]

/-- The constructor raises exactly when two entries of one area cover a common address: dropping the
empty blocks changes nothing, and adjacent blocks are accepted. -/
theorem init_error_iff_overlapping (holdingRegisters inputRegisters : List RegisterBlock)
    (coils discreteInputs : List BitBlock) :
    ((∃ message, init holdingRegisters inputRegisters coils discreteInputs =
        .error (.valueError message)) ↔
      (Overlapping holdingRegisters ∨ Overlapping inputRegisters ∨ Overlapping coils ∨
        Overlapping discreteInputs)) ∧
    ((∃ store, init holdingRegisters inputRegisters coils discreteInputs = .ok store) ↔
      ¬(Overlapping holdingRegisters ∨ Overlapping inputRegisters ∨ Overlapping coils ∨
        Overlapping discreteInputs)) ∧
    ((∃ message, init (nonEmptyBlocks holdingRegisters) (nonEmptyBlocks inputRegisters)
        (nonEmptyBlocks coils) (nonEmptyBlocks discreteInputs) = .error (.valueError message)) ↔
      ∃ message, init holdingRegisters inputRegisters coils discreteInputs =
        .error (.valueError message)) ∧
    (Contiguous holdingRegisters → Contiguous inputRegisters → Contiguous coils →
      Contiguous discreteInputs →
      ∃ store, init holdingRegisters inputRegisters coils discreteInputs = .ok store) := by
  refine ⟨init_error_iff, init_ok_iff, ?_, ?_⟩
  · rw [init_error_iff, init_error_iff]
    simp only [overlapping_nonEmptyBlocks]
  · intro hholding hinput hcoils hdiscrete
    rw [init_ok_iff, not_or, not_or, not_or]
    exact ⟨not_overlapping_of_contiguous hholding, not_overlapping_of_contiguous hinput,
      not_overlapping_of_contiguous hcoils, not_overlapping_of_contiguous hdiscrete⟩

end MemoryDataStore

end ClearModbus
