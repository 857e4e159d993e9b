import ClearModbus.Proof.Blocks
import ClearModbus.Datastore.Memory

/-!
# Indexed lookup

The constructor sorts the blocks, indexes the non-empty ones by start address and checks neighbours
for overlaps, so every non-empty block ends before the next one starts. On such an area the bisected
index names the block that contains a range whenever there is one. Writes change no shape, and the
index depends on the shapes only.
-/

namespace ClearModbus

variable {α : Type}

theorem pairwise_of_validateNeighbours {ranges : List (Int × Int)}
    (hranges : ∀ range ∈ ranges, range.1 ≤ range.2) (h : validateNeighbours ranges = .ok ()) :
    ranges.Pairwise fun left right => left.2 < right.1 := by
  induction ranges using validateNeighbours.induct with
  | case1 previous current rest hoverlap =>
      rw [validateNeighbours, if_pos hoverlap] at h
      cases h
  | case2 previous current rest hapart ih =>
      rw [validateNeighbours, if_neg hapart] at h
      have hrest := ih (fun range hmem => hranges range (List.mem_cons_of_mem _ hmem)) h
      refine List.pairwise_cons.mpr ⟨fun range hmem => ?_, hrest⟩
      have hcurrent := hranges current (by simp)
      rcases List.mem_cons.mp hmem with rfl | hmem
      · omega
      · have := (List.pairwise_cons.mp hrest).1 range hmem
        omega
  | case3 ranges hshort =>
      match ranges, hshort with
      | [], _ => exact List.Pairwise.nil
      | [_], _ => exact List.pairwise_singleton _ _
      | previous :: current :: rest, hshort => exact absurd rfl (hshort previous current rest)

def Apart (left right : Int × Int) : Prop := left.2 < right.1 ∨ right.2 < left.1

theorem Apart.symm {left right : Int × Int} (h : Apart left right) : Apart right left := Or.symm h

/-- Validated ranges do not overlap, in whichever order they are listed. -/
theorem pairwise_of_validateNoOverlappingRanges {ranges : List (Int × Int)}
    (hranges : ∀ range ∈ ranges, range.1 ≤ range.2)
    (h : validateNoOverlappingRanges ranges = .ok ()) : ranges.Pairwise Apart := by
  have hperm := List.perm_insertionSort rangeLe ranges
  have hsorted := pairwise_of_validateNeighbours
    (fun range hmem => hranges range (hperm.mem_iff.mp hmem)) h
  exact (hperm.pairwise_iff Apart.symm).mp (hsorted.imp Or.inl)

theorem range_le_of_mem_blockRanges {blocks : List (DataBlock α)} {range : Int × Int}
    (h : range ∈ blockRanges blocks) : range.1 ≤ range.2 := by
  obtain ⟨block, hblock, rfl⟩ := List.mem_map.mp h
  have hlength : 0 < block.values.length := by simpa using (List.mem_filter.mp hblock).2
  change block.startAddress ≤ block.endAddress
  rw [DataBlock.endAddress]
  omega

namespace DataArea

def Before (left right : DataBlock α) : Prop :=
  left.values ≠ [] → right.values ≠ [] → left.endAddress < right.startAddress

theorem pairwise_before {blocks : List (DataBlock α)}
    (hsorted : blocks.Pairwise fun left right => left.startAddress ≤ right.startAddress)
    (h : validateNoOverlappingBlocks blocks = .ok ()) : blocks.Pairwise Before := by
  have happart := pairwise_of_validateNoOverlappingRanges
    (fun range hmem => range_le_of_mem_blockRanges hmem) h
  rw [blockRanges, List.pairwise_map, List.pairwise_filter] at happart
  apply (hsorted.and happart).imp
  intro left right hpair hleft hright
  obtain ⟨hstart, hapart⟩ := hpair
  have hleftLength := List.length_pos_of_ne_nil hleft
  have hrightLength := List.length_pos_of_ne_nil hright
  rcases hapart (by simpa using hleftLength) (by simpa using hrightLength) with hbefore | hafter
  · exact hbefore
  · simp only [DataBlock.endAddress] at hafter
    omega

/-- What the constructor establishes and no write destroys. -/
structure WellFormed (area : DataArea α) : Prop where
  indexedBlocks_eq : area.indexedBlocks = (indexBlocks area.blocks).1
  starts_eq : area.starts = (indexBlocks area.blocks).2
  before : area.blocks.Pairwise Before

theorem wellFormed_ofBlocks {blocks : List (DataBlock α)}
    (h : validateNoOverlappingBlocks (ofBlocks blocks).blocks = .ok ()) :
    (ofBlocks blocks).WellFormed := by
  refine ⟨rfl, rfl, pairwise_before ?_ h⟩
  have htotal : Std.Total fun left right : DataBlock α => left.startAddress ≤ right.startAddress :=
    ⟨fun left right => le_total left.startAddress right.startAddress⟩
  have htrans : IsTrans (DataBlock α)
      fun left right => left.startAddress ≤ right.startAddress := ⟨fun _ _ _ => le_trans⟩
  exact List.pairwise_insertionSort _ blocks

def entries (blocks : List (DataBlock α)) : List (DataBlock α × Nat) :=
  blocks.zipIdx.filter fun item => item.1.values.length > 0

theorem mem_entries {blocks : List (DataBlock α)} {block : DataBlock α} {position : Nat} :
    (block, position) ∈ entries blocks ↔ blocks[position]? = some block ∧ block.values ≠ [] := by
  rw [entries, List.mem_filter, List.mk_mem_zipIdx_iff_getElem?]
  simp [List.length_pos_iff]

theorem pairwise_entries {blocks : List (DataBlock α)} (h : blocks.Pairwise Before) :
    (entries blocks).Pairwise fun left right => left.1.endAddress < right.1.startAddress := by
  have hzip : blocks.zipIdx.Pairwise fun left right => Before left.1 right.1 := by
    rw [← List.pairwise_map (f := Prod.fst) (R := Before), List.zipIdx_map_fst]
    exact h
  refine (hzip.filter _).imp_of_mem fun hleft hright hbefore => ?_
  exact hbefore (mem_entries.mp hleft).2 (mem_entries.mp hright).2

theorem endAddress_ge {block : DataBlock α} (h : block.values ≠ []) :
    block.startAddress ≤ block.endAddress := by
  have := List.length_pos_of_ne_nil h
  rw [DataBlock.endAddress]
  omega

theorem pairwise_starts {area : DataArea α} (harea : area.WellFormed) :
    area.starts.Pairwise (· ≤ ·) := by
  rw [harea.starts_eq]
  refine List.pairwise_map.mpr ((pairwise_entries harea.before).imp_of_mem ?_)
  intro left right hleft _ hlt
  have := endAddress_ge (mem_entries.mp hleft).2
  omega

/-- The block that contains a range is found. -/
theorem findBlock_of_contains {area : DataArea α} (harea : area.WellFormed) {position : Nat}
    {block : DataBlock α} {address count : Int} (hblock : area.blocks[position]? = some block)
    (hcontains : block.contains address count = true) :
    area.findBlock address count = .ok position := by
  have hnonempty := DataBlock.values_ne_nil_of_contains hcontains
  obtain ⟨hcount, hstart, hstop⟩ := DataBlock.contains_iff.mp hcontains
  obtain ⟨index, hindex, hentry⟩ :=
    List.getElem_of_mem (mem_entries.mpr ⟨hblock, hnonempty⟩)
  have hindexed : area.indexedBlocks = (entries area.blocks).map Prod.snd := harea.indexedBlocks_eq
  have hstarts : area.starts = (entries area.blocks).map fun item => item.1.startAddress :=
    harea.starts_eq
  have hlength : area.starts.length = (entries area.blocks).length := by
    rw [hstarts, List.length_map]
  -- Every later indexed block starts behind this one, so the bisection stops right after it.
  have hright : Bisect.right area.starts address = index + 1 := by
    apply Bisect.right_eq_succ (pairwise_starts harea) (hlength ▸ hindex)
    · simpa [hstarts, hentry] using hstart
    · intro hnext
      have hlt := List.pairwise_iff_getElem.mp (pairwise_entries harea.before) index (index + 1)
        hindex (hlength ▸ hnext) (Nat.lt_succ_self index)
      rw [hentry] at hlt
      simp only [DataBlock.endAddress] at hlt
      simp only [hstarts, List.getElem_map]
      omega
  have hposition : getItem area.indexedBlocks (index : Int) = .ok position := by
    rw [getItem_natCast (by rw [hindexed, List.length_map]; exact hindex)]
    simp [hindexed, hentry]
  have hinside := (List.getElem?_eq_some_iff.mp hblock).1
  have hget : getItem area.blocks (position : Int) = .ok block := by
    rw [getItem_natCast hinside, (List.getElem?_eq_some_iff.mp hblock).2]
  have hsub : ((Bisect.right area.starts address : Nat) : Int) - 1 = (index : Int) := by omega
  rw [findBlock]
  simp only [hsub]
  rw [if_pos (by omega), hposition, Except.ok_bind, hget, Except.ok_bind, if_pos hcontains]
  rfl

/-- A range no block contains is rejected. -/
theorem findBlock_of_not_contains {area : DataArea α} (harea : area.WellFormed)
    {address count : Int} (h : ∀ block ∈ area.blocks, block.contains address count = false) :
    area.findBlock address count = .error (.invalidAddressError address count) := by
  have hindexed : area.indexedBlocks = (entries area.blocks).map Prod.snd := harea.indexedBlocks_eq
  have hstarts : area.starts = (entries area.blocks).map fun item => item.1.startAddress :=
    harea.starts_eq
  rw [findBlock]
  split
  · rename_i hindex
    -- The index is one of the entries, whose block does not contain the range.
    obtain ⟨hcut, -, -⟩ := Bisect.separates_right (pairwise_starts harea) address
    have hlength : area.starts.length = (entries area.blocks).length := by
      rw [hstarts, List.length_map]
    have hinside : Bisect.right area.starts address - 1 < (entries area.blocks).length := by omega
    have hsub : ((Bisect.right area.starts address : Nat) : Int) - 1 =
        ((Bisect.right area.starts address - 1 : Nat) : Int) := by omega
    obtain ⟨⟨block, position⟩, hentry⟩ : ∃ entry,
        (entries area.blocks)[Bisect.right area.starts address - 1] = entry := ⟨_, rfl⟩
    obtain ⟨hblock, -⟩ := mem_entries.mp (hentry ▸ List.getElem_mem hinside)
    obtain ⟨hposition, hget⟩ := List.getElem?_eq_some_iff.mp hblock
    have hpositionItem : getItem area.indexedBlocks
        ((Bisect.right area.starts address - 1 : Nat) : Int) = .ok position := by
      rw [getItem_natCast (by rw [hindexed, List.length_map]; exact hinside)]
      simp [hindexed, hentry]
    rw [hsub, hpositionItem, Except.ok_bind, getItem_natCast hposition, Except.ok_bind,
      h _ (List.getElem_mem hposition)]
    rfl
  · rfl

end DataArea

end ClearModbus
