import ClearModbus.Datastore.Blocks

/-!
# Blocks as ranges of cells

A range inside a block is read as consecutive cells and written by replacing exactly these cells; a
write keeps the start address, the length and the readonly flag of its block.
-/

namespace ClearModbus

namespace DataBlock

variable {α : Type}

/-- What no write changes. -/
def shape (block : DataBlock α) : Int × Nat × Bool :=
  (block.startAddress, block.values.length, block.readonly)

def cell (block : DataBlock α) (address : Int) : Option α :=
  if block.startAddress ≤ address then block.values[(address - block.startAddress).toNat]? else none

def overwrite (block : DataBlock α) (address : Int) (values : List α) : DataBlock α :=
  let offset := (address - block.startAddress).toNat
  { block with
    values := block.values.take offset ++ values ++ block.values.drop (offset + values.length) }

theorem contains_iff {block : DataBlock α} {address count : Int} :
    block.contains address count = true ↔
      0 < count ∧ block.startAddress ≤ address ∧
        address + count ≤ block.startAddress + block.values.length := by
  rw [contains, decide_eq_true_eq, endAddress]
  omega

theorem values_ne_nil_of_contains {block : DataBlock α} {address count : Int}
    (h : block.contains address count = true) : block.values ≠ [] := by
  obtain ⟨hcount, hstart, hstop⟩ := contains_iff.mp h
  apply List.ne_nil_of_length_pos
  omega

theorem contains_one {block : DataBlock α} {address count : Int}
    (h : block.contains address count = true) : block.contains address = true := by
  obtain ⟨hcount, hstart, hstop⟩ := contains_iff.mp h
  exact contains_iff.mpr ⟨by omega, hstart, by omega⟩

theorem offsetFor_of_contains {block : DataBlock α} {address : Int}
    (h : block.contains address = true) :
    block.offsetFor address = .ok ((address - block.startAddress).toNat : Int) := by
  obtain ⟨-, hstart, -⟩ := contains_iff.mp h
  have hoffset : ((address - block.startAddress).toNat : Int) = address - block.startAddress := by
    omega
  rw [offsetFor, h, hoffset]
  rfl

theorem read_of_contains {block : DataBlock α} {address count : Int}
    (h : block.contains address count = true) :
    block.read address count =
      .ok ((block.values.drop (address - block.startAddress).toNat).take count.toNat) := by
  obtain ⟨hcount, hstart, hstop⟩ := contains_iff.mp h
  obtain ⟨size, rfl⟩ := Int.eq_ofNat_of_zero_le hcount.le
  have hread : block.read address size = .ok (slice block.values
      ((address - block.startAddress).toNat : Int)
      (((address - block.startAddress).toNat + size : Nat) : Int)) := by
    rw [read, h, offsetFor_of_contains (contains_one h)]
    rfl
  calc
    block.read address size = .ok ((block.values.take
        ((address - block.startAddress).toNat + size)).drop
          (address - block.startAddress).toNat) := by
      rw [hread, slice_natCast (by omega) (by omega)]
    _ = .ok ((block.values.drop (address - block.startAddress).toNat).take (size : Int).toNat) := by
      rw [List.drop_take, Nat.add_sub_cancel_left, Int.toNat_natCast]

theorem cell_eq_some_of_contains {block : DataBlock α} {address count : Int} {offset : Nat}
    (h : block.contains address count = true) (hoffset : (offset : Int) < count) :
    ∃ value, block.cell (address + offset) = some value := by
  obtain ⟨hcount, hstart, hstop⟩ := contains_iff.mp h
  have hinside : (address + offset - block.startAddress).toNat < block.values.length := by omega
  rw [cell, if_pos (by omega), List.getElem?_eq_getElem hinside]
  exact ⟨_, rfl⟩

theorem getElem?_read {block : DataBlock α} {address count : Int} {offset : Nat}
    (h : block.contains address count = true) (hoffset : (offset : Int) < count) :
    ((block.values.drop (address - block.startAddress).toNat).take count.toNat)[offset]? =
      block.cell (address + offset) := by
  obtain ⟨hcount, hstart, hstop⟩ := contains_iff.mp h
  have hindex : (address + offset - block.startAddress).toNat =
      (address - block.startAddress).toNat + offset := by omega
  rw [cell, if_pos (by omega), List.getElem?_take_of_lt (by omega), List.getElem?_drop, hindex]

theorem length_read {block : DataBlock α} {address count : Int}
    (h : block.contains address count = true) :
    ((block.values.drop (address - block.startAddress).toNat).take count.toNat).length =
      count.toNat := by
  obtain ⟨hcount, hstart, hstop⟩ := contains_iff.mp h
  rw [List.length_take, List.length_drop]
  omega

theorem write_of_readonly {validate : PyObject → Except PyError α} {block : DataBlock α}
    {address : Int} {values : List PyObject} (h : block.readonly = true) :
    block.write validate address values = .error (.readOnlyDataBlockError address) := by
  rw [write, if_pos h]

theorem length_mapM {β γ : Type} {f : β → Except PyError γ} {values : List β} {results : List γ}
    (h : values.mapM f = .ok results) : results.length = values.length := by
  induction values generalizing results with
  | nil =>
      cases h
      rfl
  | cons value values ih =>
      rw [List.mapM_cons, Except.bind_eq_ok_iff] at h
      obtain ⟨result, -, h⟩ := h
      rw [Except.bind_eq_ok_iff] at h
      obtain ⟨rest, hrest, h⟩ := h
      cases h
      rw [List.length_cons, List.length_cons, ih hrest]

theorem write_of_contains {validate : PyObject → Except PyError α} {block : DataBlock α}
    {address : Int} {values : List PyObject} (hwritable : block.readonly = false)
    (h : block.contains address values.length = true) :
    block.write validate address values = block.overwrite address <$> values.mapM validate := by
  obtain ⟨hcount, hstart, hstop⟩ := contains_iff.mp h
  rw [write, if_neg (by simp [hwritable]), if_neg (by simp [h]),
    offsetFor_of_contains (contains_one h), Except.ok_bind]
  cases hvalidated : values.mapM validate with
  | error error => rfl
  | ok validated =>
      have hlength := length_mapM hvalidated
      rw [Except.ok_bind, sliceAssign_natCast (by omega)]
      rfl

theorem shape_overwrite {block : DataBlock α} {address : Int} {values : List α}
    (h : block.contains address values.length = true) :
    (block.overwrite address values).shape = block.shape := by
  obtain ⟨hcount, hstart, hstop⟩ := contains_iff.mp h
  simp only [shape, overwrite, List.length_append, List.length_take, List.length_drop,
    Prod.mk.injEq, and_true, true_and]
  omega

theorem exists_overwrite_of_write {validate : PyObject → Except PyError α}
    {block written : DataBlock α} {address : Int} {values : List PyObject}
    (h : block.write validate address values = .ok written) :
    block.readonly = false ∧ block.contains address values.length = true ∧
      ∃ validated, values.mapM validate = .ok validated ∧
        written = block.overwrite address validated := by
  cases hreadonly : block.readonly with
  | true =>
      rw [write_of_readonly hreadonly] at h
      cases h
  | false =>
      cases hcontains : block.contains address values.length with
      | false =>
          rw [write, hreadonly, hcontains] at h
          cases h
      | true =>
          rw [write_of_contains hreadonly hcontains, Except.map_eq_ok_iff] at h
          obtain ⟨validated, hvalidated, rfl⟩ := h
          exact ⟨rfl, rfl, validated, hvalidated, rfl⟩

theorem shape_write {validate : PyObject → Except PyError α} {block written : DataBlock α}
    {address : Int} {values : List PyObject}
    (h : block.write validate address values = .ok written) : written.shape = block.shape := by
  obtain ⟨-, hcontains, validated, hvalidated, rfl⟩ := exists_overwrite_of_write h
  rw [← length_mapM hvalidated] at hcontains
  exact shape_overwrite hcontains

theorem cell_overwrite {block : DataBlock α} {address : Int} {values : List α}
    (h : block.contains address values.length = true) (other : Int) :
    (block.overwrite address values).cell other =
      if address ≤ other ∧ other < address + values.length then
        values[(other - address).toNat]?
      else block.cell other := by
  obtain ⟨hcount, hstart, hstop⟩ := contains_iff.mp h
  have hcell : (block.overwrite address values).cell other =
      if block.startAddress ≤ other then
        (block.values.take (address - block.startAddress).toNat ++ values ++
          block.values.drop ((address - block.startAddress).toNat + values.length))[
            (other - block.startAddress).toNat]?
      else none := rfl
  rw [hcell, cell]
  by_cases hbelow : block.startAddress ≤ other
  · rw [if_pos hbelow, if_pos hbelow, List.append_assoc]
    have htake : (block.values.take (address - block.startAddress).toNat).length =
        (address - block.startAddress).toNat := List.length_take_of_le (by omega)
    by_cases hleft : other < address
    · rw [if_neg (by omega), List.getElem?_append_left (by omega),
        List.getElem?_take_of_lt (by omega)]
    · rw [List.getElem?_append_right (by omega), htake]
      by_cases hright : other < address + values.length
      · have hindex : (other - block.startAddress).toNat - (address - block.startAddress).toNat =
            (other - address).toNat := by omega
        rw [if_pos ⟨by omega, hright⟩, List.getElem?_append_left (by omega), hindex]
      · have hindex : (address - block.startAddress).toNat + values.length +
            ((other - block.startAddress).toNat - (address - block.startAddress).toNat -
              values.length) = (other - block.startAddress).toNat := by omega
        rw [if_neg (by omega), List.getElem?_append_right (by omega), List.getElem?_drop, hindex]
  · rw [if_neg hbelow, if_neg hbelow, if_neg (by omega)]

end DataBlock

end ClearModbus
