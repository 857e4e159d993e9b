import ClearModbus.Proof.Writes
import ClearModbus.Protocol.Request

/-!
# Reads and writes of an area

`Reads` and `Writes` say what a `get_*` and a `set_*` call do when they succeed, in terms of the one
block that covers the range; `NotCovered` and `CoveredReadOnly` are the only ways for them to fail
on values that pass the check of the area.
-/

namespace ClearModbus

variable {α : Type}

def DataBlock.range (block : DataBlock α) (address count : Int) : List α :=
  (block.values.drop (address - block.startAddress).toNat).take count.toNat

namespace DataArea

def NotCovered (area : DataArea α) (address count : Int) : Prop :=
  ∀ block ∈ area.blocks, block.contains address count = false

/-- The block that covers the range is readonly. -/
def CoveredReadOnly (area : DataArea α) (address count : Int) : Prop :=
  ∃ block ∈ area.blocks, block.contains address count = true ∧ block.readonly = true

def Reads (area : DataArea α) (address count : Int) (values : List α) : Prop :=
  ∃ block ∈ area.blocks, block.contains address count = true ∧ values = block.range address count

def Writes (area : DataArea α) (address : Int) (values : List α) (after : DataArea α) : Prop :=
  ∃ (position : Nat) (block : DataBlock α), area.blocks[position]? = some block ∧
    block.contains address values.length = true ∧ block.readonly = false ∧
    after = { area with blocks := area.blocks.set position (block.overwrite address values) }

theorem eq_of_contains {area : DataArea α} (harea : area.WellFormed) {left right : DataBlock α}
    {address count : Int} (hleft : left ∈ area.blocks) (hright : right ∈ area.blocks)
    (hleftContains : left.contains address count = true)
    (hrightContains : right.contains address count = true) : left = right := by
  obtain ⟨leftPosition, hleft⟩ := List.getElem?_of_mem hleft
  obtain ⟨rightPosition, hright⟩ := List.getElem?_of_mem hright
  have hposition := (lookupAgrees harea address count).unique _ _ _ _ hleft hleftContains hright
    hrightContains
  rw [hposition, hright] at hleft
  exact (Option.some.inj hleft).symm

theorem Reads.not_notCovered {area : DataArea α} {address count : Int} {values : List α}
    (h : area.Reads address count values) : ¬area.NotCovered address count := by
  obtain ⟨block, hmem, hcontains, -⟩ := h
  intro hnone
  rw [hnone block hmem] at hcontains
  cases hcontains

theorem Writes.not_notCovered {area after : DataArea α} {address : Int} {values : List α}
    (h : area.Writes address values after) : ¬area.NotCovered address values.length := by
  obtain ⟨position, block, hblock, hcontains, -, -⟩ := h
  intro hnone
  rw [hnone block (List.mem_of_getElem? hblock)] at hcontains
  cases hcontains

theorem Writes.not_coveredReadOnly {area after : DataArea α} (harea : area.WellFormed)
    {address : Int} {values : List α} (h : area.Writes address values after) :
    ¬area.CoveredReadOnly address values.length := by
  obtain ⟨position, block, hblock, hcontains, hwritable, -⟩ := h
  rintro ⟨other, hother, hotherContains, hreadonly⟩
  have heq := eq_of_contains harea (List.mem_of_getElem? hblock) hother hcontains hotherContains
  rw [heq, hreadonly] at hwritable
  cases hwritable

theorem exists_contains_of_not_notCovered {area : DataArea α} {address count : Int}
    (h : ¬area.NotCovered address count) :
    ∃ (position : Nat) (block : DataBlock α), area.blocks[position]? = some block ∧
      block.contains address count = true := by
  unfold NotCovered at h
  push Not at h
  obtain ⟨block, hmem, hcontains⟩ := h
  obtain ⟨position, hblock⟩ := List.getElem?_of_mem hmem
  exact ⟨position, block, hblock, by simpa using hcontains⟩

theorem getValues_of_reads {area : DataArea α} (harea : area.WellFormed) {address count : Int}
    {values : List α} (h : area.Reads address count values) :
    area.getValues address count = .ok values := by
  obtain ⟨block, hmem, hcontains, rfl⟩ := h
  obtain ⟨position, hblock⟩ := List.getElem?_of_mem hmem
  rw [getValues, findBlock_of_contains harea hblock hcontains, Except.ok_bind,
    getItem_natCast_eq_ok_iff.mpr hblock, Except.ok_bind, DataBlock.read_of_contains hcontains]
  rfl

/-- A read that returns has found a covering block, however the index came about. -/
theorem reads_of_getValues {area : DataArea α} {address count : Int} {values : List α}
    (h : area.getValues address count = .ok values) : area.Reads address count values := by
  rw [getValues, Except.bind_eq_ok_iff] at h
  obtain ⟨position, hfind, h⟩ := h
  obtain ⟨block, hblock, h⟩ := Except.bind_eq_ok_iff.mp h
  have hmem := List.mem_of_getElem? (getItem_natCast_eq_ok_iff.mp hblock)
  by_cases hcontains : block.contains address count = true
  · rw [DataBlock.read_of_contains hcontains] at h
    cases h
    exact ⟨block, hmem, hcontains, rfl⟩
  · rw [DataBlock.read, if_pos (by simpa using hcontains)] at h
    cases h

theorem getValues_of_notCovered {area : DataArea α} (harea : area.WellFormed) {address count : Int}
    (h : area.NotCovered address count) :
    area.getValues address count = .error (.invalidAddressError address count) := by
  rw [getValues, findBlock_of_not_contains harea h]
  rfl

theorem exists_reads_of_not_notCovered {area : DataArea α} {address count : Int}
    (h : ¬area.NotCovered address count) : ∃ values, area.Reads address count values := by
  obtain ⟨position, block, hblock, hcontains⟩ := exists_contains_of_not_notCovered h
  exact ⟨_, block, List.mem_of_getElem? hblock, hcontains, rfl⟩

theorem setValues_of_block {validate : PyObject → Except PyError α} {area : DataArea α}
    (harea : area.WellFormed) {address : Int} {values : List PyObject} {position : Nat}
    {block : DataBlock α} (hblock : area.blocks[position]? = some block)
    (hcontains : block.contains address values.length = true) :
    area.setValues validate address values = (do
      let written ← block.write validate address values
      return { area with blocks := area.blocks.set position written }) := by
  rw [setValues, findBlock_of_contains harea hblock hcontains, Except.ok_bind,
    getItem_natCast_eq_ok_iff.mpr hblock, Except.ok_bind]

theorem setValues_of_notCovered {validate : PyObject → Except PyError α} {area : DataArea α}
    (harea : area.WellFormed) {address : Int} {values : List PyObject}
    (h : area.NotCovered address values.length) :
    area.setValues validate address values =
      .error (.invalidAddressError address values.length) := by
  rw [setValues, findBlock_of_not_contains harea h]
  rfl

theorem setValues_of_coveredReadOnly {validate : PyObject → Except PyError α} {area : DataArea α}
    (harea : area.WellFormed) {address : Int} {values : List PyObject}
    (h : area.CoveredReadOnly address values.length) :
    area.setValues validate address values = .error (.readOnlyDataBlockError address) := by
  obtain ⟨block, hmem, hcontains, hreadonly⟩ := h
  obtain ⟨position, hblock⟩ := List.getElem?_of_mem hmem
  rw [setValues_of_block harea hblock hcontains, DataBlock.write_of_readonly hreadonly]
  rfl

theorem setValues_of_writes {validate : PyObject → Except PyError α} {area after : DataArea α}
    (harea : area.WellFormed) {address : Int} {values : List PyObject} {validated : List α}
    (hvalidated : values.mapM validate = .ok validated) (h : area.Writes address validated after) :
    area.setValues validate address values = .ok after := by
  obtain ⟨position, block, hblock, hcontains, hwritable, rfl⟩ := h
  rw [DataBlock.length_mapM hvalidated] at hcontains
  rw [setValues_of_block harea hblock hcontains, DataBlock.write_of_contains hwritable hcontains,
    hvalidated]
  rfl

/-- Values that do not pass the check are rejected after the address and the readonly flag. -/
theorem setValues_of_invalid {validate : PyObject → Except PyError α} {area : DataArea α}
    (harea : area.WellFormed) {address : Int} {values : List PyObject} {error : PyError}
    (hinvalid : values.mapM validate = .error error)
    (hcovered : ¬area.NotCovered address values.length)
    (hwritable : ¬area.CoveredReadOnly address values.length) :
    area.setValues validate address values = .error error := by
  obtain ⟨position, block, hblock, hcontains⟩ := exists_contains_of_not_notCovered hcovered
  have hreadonly : block.readonly = false := by
    by_contra hreadonly
    exact hwritable ⟨block, List.mem_of_getElem? hblock, hcontains, by simpa using hreadonly⟩
  rw [setValues_of_block harea hblock hcontains, DataBlock.write_of_contains hreadonly hcontains,
    hinvalid]
  rfl

theorem exists_writes {area : DataArea α} {address : Int} {values : List α}
    (hcovered : ¬area.NotCovered address values.length)
    (hwritable : ¬area.CoveredReadOnly address values.length) :
    ∃ after, area.Writes address values after := by
  obtain ⟨position, block, hblock, hcontains⟩ := exists_contains_of_not_notCovered hcovered
  refine ⟨_, position, block, hblock, hcontains, ?_, rfl⟩
  by_contra hreadonly
  exact hwritable ⟨block, List.mem_of_getElem? hblock, hcontains, by simpa using hreadonly⟩

theorem exists_writes_of_setValues {validate : PyObject → Except PyError α}
    {area after : DataArea α} {address : Int} {values : List PyObject}
    (h : area.setValues validate address values = .ok after) :
    ∃ validated, values.mapM validate = .ok validated ∧ area.Writes address validated after := by
  obtain ⟨position, block, written, -, hblock, hwrite, rfl⟩ := exists_block_of_setValues h
  obtain ⟨hwritable, hcontains, validated, hvalidated, rfl⟩ :=
    DataBlock.exists_overwrite_of_write hwrite
  rw [← DataBlock.length_mapM hvalidated] at hcontains
  exact ⟨validated, hvalidated, position, block, hblock, hcontains, hwritable, rfl⟩

theorem Writes.sameShape {area after : DataArea α} {address : Int} {values : List α}
    (h : area.Writes address values after) : SameShape after area := by
  obtain ⟨position, block, hblock, hcontains, -, rfl⟩ := h
  exact sameShape_set hblock (DataBlock.shape_overwrite hcontains)

theorem Writes.wellFormed {area after : DataArea α} (harea : area.WellFormed) {address : Int}
    {values : List α} (h : area.Writes address values after) : after.WellFormed :=
  harea.of_sameShape h.sameShape

/-- Coverage depends on the shapes only. -/
theorem notCovered_congr {left right : DataArea α} (h : SameShape left right)
    (address count : Int) : left.NotCovered address count ↔ right.NotCovered address count := by
  have hcontains : ∀ blocks : List (DataBlock α),
      (∀ block ∈ blocks, block.contains address count = false) ↔
        ∀ shape ∈ blocks.map DataBlock.shape,
          ¬(0 < count ∧ shape.1 ≤ address ∧ address + count ≤ shape.1 + (shape.2.1 : Int)) := by
    intro blocks
    rw [List.forall_mem_map]
    refine forall₂_congr fun block _ => ?_
    rw [← Bool.not_eq_true, DataBlock.contains_iff]
    rfl
  rw [NotCovered, NotCovered, hcontains, hcontains, h.shapes_eq]

theorem Reads.length {area : DataArea α} {address count : Int} {values : List α}
    (h : area.Reads address count values) : (values.length : Int) = count := by
  obtain ⟨block, -, hcontains, rfl⟩ := h
  obtain ⟨hcount, -, -⟩ := DataBlock.contains_iff.mp hcontains
  have hlength := DataBlock.length_read hcontains
  rw [DataBlock.range, hlength]
  omega

def Holds (p : α → Prop) (area : DataArea α) : Prop :=
  ∀ block ∈ area.blocks, ∀ value ∈ block.values, p value

instance (p : α → Prop) [DecidablePred p] (area : DataArea α) : Decidable (area.Holds p) :=
  inferInstanceAs (Decidable (∀ block ∈ area.blocks, ∀ value ∈ block.values, p value))

theorem Reads.forall_mem {p : α → Prop} {area : DataArea α} (harea : area.Holds p)
    {address count : Int} {values : List α} (h : area.Reads address count values) :
    ∀ value ∈ values, p value := by
  obtain ⟨block, hmem, -, rfl⟩ := h
  intro value hvalue
  exact harea block hmem value (List.mem_of_mem_drop (List.mem_of_mem_take hvalue))

theorem Writes.holds {p : α → Prop} {area after : DataArea α} (harea : area.Holds p)
    {address : Int} {values : List α} (hvalues : ∀ value ∈ values, p value)
    (h : area.Writes address values after) : after.Holds p := by
  obtain ⟨position, block, hblock, -, -, rfl⟩ := h
  intro other hother value hvalue
  rcases List.mem_or_eq_of_mem_set hother with hother | rfl
  · exact harea other hother value hvalue
  · rw [DataBlock.overwrite, List.mem_append, List.mem_append] at hvalue
    rcases hvalue with (hvalue | hvalue) | hvalue
    · exact harea block (List.mem_of_getElem? hblock) value (List.mem_of_mem_take hvalue)
    · exact hvalues value hvalue
    · exact harea block (List.mem_of_getElem? hblock) value (List.mem_of_mem_drop hvalue)

end DataArea

theorem mapM_validateRegister {values : List Int} (h : ∀ value ∈ values, IsRegisterValue value) :
    (values.map PyObject.int).mapM validateRegister = .ok values := by
  rw [List.mapM_map]
  have hall : ∀ value ∈ values, (validateRegister ∘ PyObject.int) value = .ok (id value) :=
    fun value hmem => if_pos (h value hmem)
  rw [Except.mapM_eq_ok hall, List.map_id]

theorem mapM_validateBit (values : List Bool) :
    (values.map PyObject.bool).mapM validateBit = .ok values := by
  rw [List.mapM_map]
  have hall : ∀ value ∈ values, (validateBit ∘ PyObject.bool) value = .ok (id value) :=
    fun value _ => rfl
  rw [Except.mapM_eq_ok hall, List.map_id]

end ClearModbus
