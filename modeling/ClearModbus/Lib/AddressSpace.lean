import Mathlib.Tactic

/-!
# Address spaces

A partial map from addresses to values, defined on the union of its regions. A range is accessible
when one region covers the whole of it: two neighbouring regions do not make one. A write replaces
the addressed cells and nothing else, and leaves the regions as they are.
-/

structure Region where
  start : ℤ
  stop : ℤ
  writable : Bool
  deriving DecidableEq, Repr

def Region.Covers (region : Region) (address count : ℤ) : Prop :=
  0 < count ∧ region.start ≤ address ∧ address + count ≤ region.stop

instance (region : Region) (address count : ℤ) : Decidable (region.Covers address count) :=
  inferInstanceAs (Decidable (_ ∧ _ ∧ _))

structure Segment (α : Type*) where
  start : ℤ
  values : List α
  writable : Bool

namespace Segment

variable {α : Type*}

def region (segment : Segment α) : Region :=
  ⟨segment.start, segment.start + segment.values.length, segment.writable⟩

def cell (segment : Segment α) (address : ℤ) : Option α :=
  if segment.start ≤ address then segment.values[(address - segment.start).toNat]? else none

theorem isSome_cell_iff (segment : Segment α) (address : ℤ) :
    (segment.cell address).isSome ↔ segment.region.Covers address 1 := by
  rw [cell, Region.Covers, region]
  dsimp only
  by_cases hstart : segment.start ≤ address
  · rw [if_pos hstart, Option.isSome_iff_ne_none, ne_eq, List.getElem?_eq_none_iff]
    omega
  · rw [if_neg hstart]
    simp [hstart]

end Segment

structure AddressSpace (α : Type*) where
  regions : List Region
  cells : ℤ → Option α
  domain : ∀ address, (cells address).isSome ↔ ∃ region ∈ regions, region.Covers address 1

namespace AddressSpace

variable {α : Type*}

/-- The address space of some segments; the first one that has an address gives its value. -/
def ofSegments (segments : List (Segment α)) : AddressSpace α where
  regions := segments.map Segment.region
  cells address := segments.findSome? fun segment => segment.cell address
  domain address := by
    rw [List.findSome?_isSome_iff]
    constructor
    · rintro ⟨segment, hmem, hcell⟩
      exact ⟨segment.region, List.mem_map_of_mem hmem, (segment.isSome_cell_iff address).mp hcell⟩
    · rintro ⟨region, hmem, hcovers⟩
      obtain ⟨segment, hsegment, rfl⟩ := List.mem_map.mp hmem
      exact ⟨segment, hsegment, (segment.isSome_cell_iff address).mpr hcovers⟩

def Accessible (space : AddressSpace α) (address count : ℤ) : Prop :=
  ∃ region ∈ space.regions, region.Covers address count

def Writable (space : AddressSpace α) (address count : ℤ) : Prop :=
  ∃ region ∈ space.regions, region.Covers address count ∧ region.writable = true

instance (space : AddressSpace α) (address count : ℤ) :
    Decidable (space.Accessible address count) :=
  inferInstanceAs (Decidable (∃ region ∈ space.regions, _))

instance (space : AddressSpace α) (address count : ℤ) : Decidable (space.Writable address count) :=
  inferInstanceAs (Decidable (∃ region ∈ space.regions, _))

theorem Writable.accessible {space : AddressSpace α} {address count : ℤ}
    (h : space.Writable address count) : space.Accessible address count := by
  obtain ⟨region, hmem, hcovers, -⟩ := h
  exact ⟨region, hmem, hcovers⟩

def read (space : AddressSpace α) (address count : ℤ) : List α :=
  (List.range count.toNat).filterMap fun offset : ℕ => space.cells (address + offset)

def replace (cells : ℤ → Option α) (address : ℤ) (values : List α) : ℤ → Option α := fun other =>
  if address ≤ other ∧ other < address + values.length then values[(other - address).toNat]?
  else cells other

theorem isSome_replace_iff (space : AddressSpace α) {address : ℤ} {values : List α}
    (h : space.Accessible address values.length) (other : ℤ) :
    (replace space.cells address values other).isSome ↔
      ∃ region ∈ space.regions, region.Covers other 1 := by
  rw [replace]
  split
  · rename_i hinside
    obtain ⟨region, hmem, hcount, hstart, hstop⟩ := h
    have hvalue : (values[(other - address).toNat]?).isSome := by
      rw [Option.isSome_iff_ne_none, ne_eq, List.getElem?_eq_none_iff]
      omega
    exact iff_of_true hvalue ⟨region, hmem, by decide, by omega, by omega⟩
  · exact space.domain other

def write (space : AddressSpace α) (address : ℤ) (values : List α) : AddressSpace α :=
  if h : space.Writable address values.length then
    { regions := space.regions
      cells := replace space.cells address values
      domain := space.isSome_replace_iff h.accessible }
  else space

theorem regions_write (space : AddressSpace α) (address : ℤ) (values : List α) :
    (space.write address values).regions = space.regions := by
  rw [write]
  split <;> rfl

theorem cells_write {space : AddressSpace α} {address : ℤ} {values : List α}
    (h : space.Writable address values.length) :
    (space.write address values).cells = replace space.cells address values := by
  rw [write, dif_pos h]

theorem read_eq {space : AddressSpace α} {address count : ℤ} {values : List α}
    (hlength : values.length = count.toNat)
    (hcells : ∀ offset < values.length, space.cells (address + offset) = values[offset]?) :
    space.read address count = values := by
  have hmap : (List.range count.toNat).map (fun offset : ℕ => space.cells (address + offset)) =
      values.map some := by
    apply List.ext_getElem
    · rw [List.length_map, List.length_map, List.length_range, hlength]
    · intro offset hleft hright
      rw [List.length_map] at hright
      rw [List.getElem_map, List.getElem_map, List.getElem_range, hcells offset hright,
        List.getElem?_eq_getElem hright]
  calc
    space.read address count =
        ((List.range count.toNat).map
          fun offset : ℕ => space.cells (address + offset)).filterMap id := by
      rw [read, List.filterMap_map]
      rfl
    _ = (values.map some).filterMap id := by rw [hmap]
    _ = values := by rw [List.filterMap_map, Function.id_comp, List.filterMap_some]

variable {left right : AddressSpace α} {address count : ℤ}

theorem accessible_congr (h : left.regions = right.regions) :
    left.Accessible address count ↔ right.Accessible address count := by
  rw [Accessible, h, Accessible]

theorem writable_congr (h : left.regions = right.regions) :
    left.Writable address count ↔ right.Writable address count := by
  rw [Writable, h, Writable]

theorem read_congr (h : ∀ location, address ≤ location → location < address + count →
    left.cells location = right.cells location) :
    left.read address count = right.read address count := by
  apply List.filterMap_congr
  intro offset hoffset
  have hlt := List.mem_range.mp hoffset
  exact h _ (by omega) (by omega)

theorem cells_write_congr (hregions : left.regions = right.regions) {location : ℤ}
    (hcell : left.cells location = right.cells location) (values : List α) :
    (left.write address values).cells location = (right.write address values).cells location := by
  by_cases hwritable : right.Writable address values.length
  · rw [cells_write hwritable, cells_write ((writable_congr hregions).mpr hwritable), replace,
      replace, hcell]
  · rw [write, dif_neg (mt (writable_congr hregions).mp hwritable), write, dif_neg hwritable, hcell]

theorem length_read_le (space : AddressSpace α) (address count : ℤ) :
    (space.read address count).length ≤ count.toNat := by
  rw [read]
  exact (List.length_filterMap_le _ _).trans List.length_range.le

end AddressSpace
