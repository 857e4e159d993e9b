import ClearModbus.Proof.Classification
import ClearModbus.Lib.Machine

/-!
# The server refines the device

An area represents a space when its blocks are the regions and their cells are the cells of the
space. Blocks that represent a space answer reads and writes as the space does and represent it
afterwards, so whole runs of the server and of the device answer alike.
-/

namespace ClearModbus

variable {α : Type}

namespace DataBlock

theorem covers_region_iff {block : DataBlock α} {address count : Int} :
    block.segment.region.Covers address count ↔ block.contains address count = true :=
  contains_iff.symm

theorem contains_of_cell {block : DataBlock α} {address : Int} {value : α}
    (h : block.cell address = some value) : block.contains address = true := by
  have hsome : (block.segment.cell address).isSome := Option.isSome_of_eq_some h
  exact covers_region_iff.mp ((block.segment.isSome_cell_iff address).mp hsome)

end DataBlock

theorem exists_mem_set_iff {β : Type} {elements : List β} {position : Nat} {old new : β}
    {p : β → Prop} (hold : elements[position]? = some old) (h : p new ↔ p old) :
    (∃ element ∈ elements.set position new, p element) ↔ ∃ element ∈ elements, p element := by
  obtain ⟨hposition, hget⟩ := List.getElem?_eq_some_iff.mp hold
  constructor
  · rintro ⟨element, hmem, helement⟩
    rcases List.mem_or_eq_of_mem_set hmem with hmem | rfl
    · exact ⟨element, hmem, helement⟩
    · exact ⟨old, List.mem_of_getElem? hold, h.mp helement⟩
  · rintro ⟨element, hmem, helement⟩
    obtain ⟨index, hindex, rfl⟩ := List.getElem_of_mem hmem
    by_cases heq : position = index
    · subst heq
      rw [hget] at helement
      exact ⟨new, List.mem_set hposition new, h.mpr helement⟩
    · have hkept : (elements.set position new)[index]? = some elements[index] := by
        rw [List.getElem?_set_ne heq, List.getElem?_eq_getElem hindex]
      exact ⟨elements[index], List.mem_of_getElem? hkept, helement⟩

namespace DataArea

/-- The blocks are the regions of the space, and their values are its cells. -/
structure Represents (area : DataArea α) (space : AddressSpace α) : Prop where
  mem_regions_iff : ∀ region, region ∈ space.regions ↔
    ∃ block ∈ area.blocks, block.segment.region = region
  cells_eq_some_iff : ∀ address value, space.cells address = some value ↔
    ∃ block ∈ area.blocks, block.cell address = some value

theorem eq_of_cell {area : DataArea α} (harea : area.WellFormed) {left right : DataBlock α}
    {address : Int} {leftValue rightValue : α} (hleft : left ∈ area.blocks)
    (hright : right ∈ area.blocks) (hleftCell : left.cell address = some leftValue)
    (hrightCell : right.cell address = some rightValue) : left = right :=
  eq_of_contains harea hleft hright (DataBlock.contains_of_cell hleftCell)
    (DataBlock.contains_of_cell hrightCell)

/-- The configured blocks represent the space they configure: sorting keeps the blocks, and no two
of them have an address in common. -/
theorem represents_ofBlocks {blocks : List (DataBlock α)}
    (h : validateNoOverlappingBlocks (ofBlocks blocks).blocks = .ok ()) :
    (ofBlocks blocks).Represents (.ofSegments (blocks.map DataBlock.segment)) := by
  have hmem : ∀ block, block ∈ (ofBlocks blocks).blocks ↔ block ∈ blocks := fun block =>
    (List.perm_insertionSort _ blocks).mem_iff
  constructor
  · intro region
    simp only [AddressSpace.ofSegments, List.mem_map, exists_exists_and_eq_and, hmem]
  · intro address value
    simp only [AddressSpace.ofSegments, List.findSome?_map, hmem]
    constructor
    · intro hfind
      obtain ⟨block, hblock, hcell⟩ := List.exists_of_findSome?_eq_some hfind
      exact ⟨block, hblock, hcell⟩
    · rintro ⟨block, hblock, hcell⟩
      have hsome : (blocks.findSome? fun block => block.segment.cell address).isSome :=
        List.findSome?_isSome_iff.mpr ⟨block, hblock, Option.isSome_of_eq_some hcell⟩
      obtain ⟨found, hfound⟩ := Option.isSome_iff_exists.mp hsome
      obtain ⟨other, hother, hotherCell⟩ := List.exists_of_findSome?_eq_some hfound
      have heq : other = block := eq_of_cell (wellFormed_ofBlocks h) ((hmem other).mpr hother)
        ((hmem block).mpr hblock) hotherCell hcell
      calc
        (blocks.findSome? fun block => block.segment.cell address) = some found := hfound
        _ = other.cell address := hotherCell.symm
        _ = some value := by rw [heq, hcell]

variable {area after : DataArea α} {space : AddressSpace α} {address count : Int} {values : List α}

theorem Represents.accessible_iff (h : area.Represents space) :
    space.Accessible address count ↔ ¬area.NotCovered address count := by
  constructor
  · rintro ⟨region, hregion, hcovers⟩ hnone
    obtain ⟨block, hblock, rfl⟩ := (h.mem_regions_iff region).mp hregion
    rw [DataBlock.covers_region_iff, hnone block hblock] at hcovers
    cases hcovers
  · intro hcovered
    obtain ⟨position, block, hblock, hcontains⟩ := exists_contains_of_not_notCovered hcovered
    exact ⟨block.segment.region,
      (h.mem_regions_iff _).mpr ⟨block, List.mem_of_getElem? hblock, rfl⟩,
      DataBlock.covers_region_iff.mpr hcontains⟩

theorem Represents.writable_iff (harea : area.WellFormed) (h : area.Represents space) :
    space.Writable address count ↔
      ¬area.NotCovered address count ∧ ¬area.CoveredReadOnly address count := by
  constructor
  · intro hwritable
    refine ⟨h.accessible_iff.mp hwritable.accessible, ?_⟩
    obtain ⟨region, hregion, hcovers, hwritable⟩ := hwritable
    obtain ⟨block, hblock, rfl⟩ := (h.mem_regions_iff region).mp hregion
    rintro ⟨other, hother, hcontains, hreadonly⟩
    have heq := eq_of_contains harea hblock hother (DataBlock.covers_region_iff.mp hcovers)
      hcontains
    change (!block.readonly) = true at hwritable
    rw [heq, hreadonly] at hwritable
    cases hwritable
  · rintro ⟨hcovered, hwritable⟩
    obtain ⟨position, block, hblock, hcontains⟩ := exists_contains_of_not_notCovered hcovered
    have hmem := List.mem_of_getElem? hblock
    refine ⟨block.segment.region, (h.mem_regions_iff _).mpr ⟨block, hmem, rfl⟩,
      DataBlock.covers_region_iff.mpr hcontains, ?_⟩
    change (!block.readonly) = true
    rw [Bool.not_eq_true']
    by_contra hreadonly
    exact hwritable ⟨block, hmem, hcontains, by simpa using hreadonly⟩

theorem Represents.not_writable (harea : area.WellFormed) (h : area.Represents space)
    (hrejected : area.NotCovered address count ∨ area.CoveredReadOnly address count) :
    ¬space.Writable address count := by
  rw [h.writable_iff harea]
  tauto

theorem Reads.accessible (h : area.Represents space) (hreads : area.Reads address count values) :
    space.Accessible address count :=
  h.accessible_iff.mpr hreads.not_notCovered

theorem Writes.writable (harea : area.WellFormed) (h : area.Represents space)
    (hwrites : area.Writes address values after) : space.Writable address values.length :=
  (h.writable_iff harea).mpr ⟨hwrites.not_notCovered, hwrites.not_coveredReadOnly harea⟩

theorem Represents.read_eq (h : area.Represents space) (hreads : area.Reads address count values) :
    space.read address count = values := by
  obtain ⟨block, hmem, hcontains, rfl⟩ := hreads
  have hlength : (block.range address count).length = count.toNat := DataBlock.length_read hcontains
  apply AddressSpace.read_eq hlength
  intro offset hoffset
  have hlt : (offset : Int) < count := by omega
  obtain ⟨value, hcell⟩ := DataBlock.cell_eq_some_of_contains hcontains hlt
  rw [DataBlock.range, DataBlock.getElem?_read hcontains hlt, hcell]
  exact (h.cells_eq_some_iff _ _).mpr ⟨block, hmem, hcell⟩

/-- A write to the covering block is a write to the space: no other block has one of the addressed
cells, and the cells around them are kept. -/
theorem Represents.write (harea : area.WellFormed) (h : area.Represents space)
    (hwrites : area.Writes address values after) :
    after.Represents (space.write address values) := by
  have hwritable := Writes.writable harea h hwrites
  have hafter := hwrites.wellFormed harea
  obtain ⟨position, block, hblock, hcontains, -, rfl⟩ := hwrites
  obtain ⟨hposition, -⟩ := List.getElem?_eq_some_iff.mp hblock
  constructor
  · intro region
    have hregion : (block.overwrite address values).segment.region = block.segment.region := by
      have hshape := DataBlock.shape_overwrite hcontains
      simp only [DataBlock.shape, Prod.mk.injEq] at hshape
      simp only [DataBlock.segment, Segment.region, hshape]
    rw [AddressSpace.regions_write, h.mem_regions_iff]
    exact (exists_mem_set_iff hblock (by rw [hregion])).symm
  · intro other value
    rw [AddressSpace.cells_write hwritable, AddressSpace.replace]
    have hcell := DataBlock.cell_overwrite hcontains other
    split
    · rename_i hinside
      rw [if_pos hinside] at hcell
      rw [← hcell]
      have hwritten : block.overwrite address values ∈
          area.blocks.set position (block.overwrite address values) := List.mem_set hposition _
      constructor
      · intro hvalue
        exact ⟨_, hwritten, hvalue⟩
      · rintro ⟨found, hfound, hvalue⟩
        -- The written block has a value there, so it is the one found.
        obtain ⟨stored, hstored⟩ : ∃ stored,
            (block.overwrite address values).cell other = some stored := by
          rw [hcell]
          exact ⟨_, List.getElem?_eq_getElem (by omega)⟩
        rw [eq_of_cell hafter hwritten hfound hstored hvalue]
        exact hvalue
    · rename_i houtside
      rw [if_neg houtside] at hcell
      rw [h.cells_eq_some_iff]
      exact (exists_mem_set_iff hblock (by rw [hcell])).symm

theorem Represents.getValues_eq (harea : area.WellFormed) (h : area.Represents space) :
    area.getValues address count = Device.getValues space address count := by
  rw [Device.getValues]
  by_cases hcovered : area.NotCovered address count
  · rw [getValues_of_notCovered harea hcovered, if_neg]
    rw [h.accessible_iff, not_not]
    exact hcovered
  · obtain ⟨values, hreads⟩ := exists_reads_of_not_notCovered hcovered
    rw [getValues_of_reads harea hreads, if_pos (h.accessible_iff.mpr hcovered), h.read_eq hreads]

/-- A direct write succeeds on both sides, with spaces that represent each other, or fails on both
sides with one error. -/
theorem Represents.setValues (harea : area.WellFormed) (h : area.Represents space)
    (validate : PyObject → Except PyError α) (address : Int) (values : List PyObject) :
    (∃ after written, area.setValues validate address values = .ok after ∧
        Device.setValues validate space address values = .ok written ∧
        after.WellFormed ∧ after.Represents written) ∨
      ∃ error, area.setValues validate address values = .error error ∧
        Device.setValues validate space address values = .error error := by
  by_cases hcovered : area.NotCovered address values.length
  · have haccessible : ¬space.Accessible address values.length := by
      rw [h.accessible_iff, not_not]
      exact hcovered
    exact .inr ⟨_, setValues_of_notCovered harea hcovered, if_pos haccessible⟩
  · have haccessible : space.Accessible address values.length := h.accessible_iff.mpr hcovered
    by_cases hreadonly : area.CoveredReadOnly address values.length
    · refine .inr ⟨_, setValues_of_coveredReadOnly harea hreadonly, ?_⟩
      rw [Device.setValues, if_neg (not_not.mpr haccessible),
        if_pos (h.not_writable harea (.inr hreadonly))]
    · have hwritable : space.Writable address values.length :=
        (h.writable_iff harea).mpr ⟨hcovered, hreadonly⟩
      have hset : Device.setValues validate space address values =
          space.write address <$> values.mapM validate := by
        rw [Device.setValues, if_neg (not_not.mpr haccessible), if_neg (not_not.mpr hwritable)]
      cases hvalidated : values.mapM validate with
      | error error =>
          refine .inr ⟨error, setValues_of_invalid harea hvalidated hcovered hreadonly, ?_⟩
          rw [hset, hvalidated]
          rfl
      | ok validated =>
          have hlength := DataBlock.length_mapM hvalidated
          rw [← hlength] at hcovered hreadonly
          obtain ⟨after, hwrites⟩ := exists_writes hcovered hreadonly
          refine .inl ⟨after, space.write address validated,
            setValues_of_writes harea hvalidated hwrites, ?_, hwrites.wellFormed harea,
            h.write harea hwrites⟩
          rw [hset, hvalidated]
          rfl

end DataArea

structure MemoryDataStore.Represents (store : MemoryDataStore) (device : Device) : Prop where
  wellFormed : store.WellFormed
  holdingRegisters : store.holdingRegisters.Represents device.holdingRegisters
  inputRegisters : store.inputRegisters.Represents device.inputRegisters
  coils : store.coils.Represents device.coils
  discreteInputs : store.discreteInputs.Represents device.discreteInputs

theorem MemoryDataStore.represents_init {holdingRegisters inputRegisters : List RegisterBlock}
    {coils discreteInputs : List BitBlock} {store : MemoryDataStore}
    (h : init holdingRegisters inputRegisters coils discreteInputs = .ok store) :
    store.Represents (.ofBlocks holdingRegisters inputRegisters coils discreteInputs) := by
  have hwellFormed := wellFormed_init h
  simp only [init, Except.bind_eq_ok_iff] at h
  obtain ⟨_, hholding, _, hinput, _, hcoils, _, hdiscrete, h⟩ := h
  cases h
  exact ⟨hwellFormed, DataArea.represents_ofBlocks hholding, DataArea.represents_ofBlocks hinput,
    DataArea.represents_ofBlocks hcoils, DataArea.represents_ofBlocks hdiscrete⟩

namespace ModbusTcpServer

variable {server : ModbusTcpServer} {store after : MemoryDataStore} {device : Device}

theorem request_of_rejected (hrel : store.Represents device) (request : DataRequest)
    (h : server.Rejected store request.1) : device.request request = device.reject request := by
  obtain ⟨hstore, hholding, hinput, hcoils, hdiscrete⟩ := hrel
  obtain ⟨request, hdata⟩ := request
  cases request with
  | readCoils request => exact if_neg (mt hcoils.accessible_iff.mp (not_not.mpr h))
  | readDiscreteInputs request => exact if_neg (mt hdiscrete.accessible_iff.mp (not_not.mpr h))
  | readHoldingRegisters request => exact if_neg (mt hholding.accessible_iff.mp (not_not.mpr h))
  | readInputRegisters request => exact if_neg (mt hinput.accessible_iff.mp (not_not.mpr h))
  | writeSingleCoil request => exact if_neg (hcoils.not_writable hstore.coils h)
  | writeSingleRegister request => exact if_neg (hholding.not_writable hstore.holdingRegisters h)
  | writeMultipleCoils request => exact if_neg (hcoils.not_writable hstore.coils h)
  | writeMultipleRegisters request =>
      exact if_neg (hholding.not_writable hstore.holdingRegisters h)
  | maskWriteRegister request => exact if_neg (hholding.not_writable hstore.holdingRegisters h)
  | readWriteMultipleRegisters request =>
      refine if_neg (not_and_or.mpr ?_)
      rcases h with hread | hwrite
      · exact .inl (mt hholding.accessible_iff.mp (not_not.mpr hread))
      · exact .inr (hholding.not_writable hstore.holdingRegisters hwrite)
  | readDeviceIdentification request => exact hdata.elim

/-- Every outcome of a data request is the outcome on the device. -/
theorem Handles.request_eq {request : DataRequest} {response : ResponsePDU}
    (hrel : store.Represents device) (h : Handles server store request.1 response after) :
    (device.request request).1 = response ∧ after.Represents (device.request request).2 := by
  have hafter := h.wellFormed hrel.wellFormed
  obtain ⟨request, hdata⟩ := request
  obtain ⟨hstore, hholding, hinput, hcoils, hdiscrete⟩ := hrel
  cases h with
  | rejected request h =>
      rw [request_of_rejected ⟨hstore, hholding, hinput, hcoils, hdiscrete⟩ ⟨request, hdata⟩ h]
      exact ⟨rfl, hstore, hholding, hinput, hcoils, hdiscrete⟩
  | readCoils request values h =>
      rw [Device.request, if_pos (h.accessible hcoils), hcoils.read_eq h]
      exact ⟨rfl, hstore, hholding, hinput, hcoils, hdiscrete⟩
  | readDiscreteInputs request values h =>
      rw [Device.request, if_pos (h.accessible hdiscrete), hdiscrete.read_eq h]
      exact ⟨rfl, hstore, hholding, hinput, hcoils, hdiscrete⟩
  | readHoldingRegisters request values h =>
      rw [Device.request, if_pos (h.accessible hholding), hholding.read_eq h]
      exact ⟨rfl, hstore, hholding, hinput, hcoils, hdiscrete⟩
  | readInputRegisters request values h =>
      rw [Device.request, if_pos (h.accessible hinput), hinput.read_eq h]
      exact ⟨rfl, hstore, hholding, hinput, hcoils, hdiscrete⟩
  | writeSingleCoil request area h =>
      have hwritable : device.coils.Writable request.address 1 := h.writable hstore.coils hcoils
      rw [Device.request, if_pos hwritable]
      exact ⟨rfl, hafter, hholding, hinput, hcoils.write hstore.coils h, hdiscrete⟩
  | writeSingleRegister request area h =>
      have hwritable : device.holdingRegisters.Writable request.address 1 :=
        h.writable hstore.holdingRegisters hholding
      rw [Device.request, if_pos hwritable]
      exact ⟨rfl, hafter, hholding.write hstore.holdingRegisters h, hinput, hcoils, hdiscrete⟩
  | writeMultipleCoils request area h =>
      rw [Device.request, if_pos (h.writable hstore.coils hcoils)]
      exact ⟨rfl, hafter, hholding, hinput, hcoils.write hstore.coils h, hdiscrete⟩
  | writeMultipleRegisters request area h =>
      rw [Device.request, if_pos (h.writable hstore.holdingRegisters hholding)]
      exact ⟨rfl, hafter, hholding.write hstore.holdingRegisters h, hinput, hcoils, hdiscrete⟩
  | maskWriteRegister request value area hread hwrite =>
      have hwritable : device.holdingRegisters.Writable request.address 1 :=
        hwrite.writable hstore.holdingRegisters hholding
      rw [maskedValue_eq value request.andMask_valid request.orMask_valid] at hwrite
      rw [Device.request, if_pos hwritable, hholding.read_eq hread]
      exact ⟨rfl, hafter, hholding.write hstore.holdingRegisters hwrite, hinput, hcoils, hdiscrete⟩
  | readWriteMultipleRegisters request area values hwrite hread =>
      have hwritten := hholding.write hstore.holdingRegisters hwrite
      have hcovered := mt (DataArea.notCovered_congr hwrite.sameShape _ _).mpr hread.not_notCovered
      rw [Device.request, if_pos ⟨hholding.accessible_iff.mpr hcovered,
        hwrite.writable hstore.holdingRegisters hholding⟩]
      dsimp only
      rw [hwritten.read_eq hread]
      exact ⟨rfl, hafter, hwritten, hinput, hcoils, hdiscrete⟩
  | readDeviceIdentification request response hcode hconfigured h => exact hdata.elim

/-- A direct write of one area, whichever it is: `install` and `update` put the written area and
space in their places. -/
theorem finish_of_setValues {α : Type} {area : DataArea α} {space : AddressSpace α}
    (harea : area.WellFormed) (h : area.Represents space) (hrel : store.Represents device)
    {validate : PyObject → Except PyError α} {address : Int} {values : List PyObject}
    (program : Exec PyError MemoryDataStore Unit) (install : DataArea α → MemoryDataStore)
    (update : AddressSpace α → Device)
    (hrun : Exec.runOn program store =
      Exec.replaced store (install <$> area.setValues validate address values))
    (hinstall : ∀ area space, area.WellFormed → area.Represents space →
      (install area).Represents (update space)) :
    ((Exec.runOn program store).map Output.done id).1 =
        (device.finish update (Device.setValues validate space address values)).1 ∧
      ((Exec.runOn program store).map Output.done id).2.Represents
        (device.finish update (Device.setValues validate space address values)).2 := by
  rcases h.setValues harea validate address values with
    ⟨written, writtenSpace, hset, hdevice, hwellFormed, hwritten⟩ | ⟨error, hset, hdevice⟩
  · rw [hset] at hrun
    rw [hrun, hdevice]
    exact ⟨rfl, hinstall written writtenSpace hwellFormed hwritten⟩
  · rw [hset] at hrun
    rw [hrun, hdevice]
    exact ⟨rfl, hrel⟩

/-- One operation: the same output, and datastore and device still hold the same contents. -/
theorem perform_represents (server : ModbusTcpServer) (hrel : store.Represents device)
    (operation : Operation) :
    (server.perform store operation).1 = (device.perform operation).1 ∧
      (server.perform store operation).2.Represents (device.perform operation).2 := by
  cases operation with
  | request request =>
      obtain ⟨response, final, hrun, hhandles⟩ := answered server hrel.wellFormed request.1
      obtain ⟨hresponse, hfinal⟩ := hhandles.request_eq hrel
      rw [perform, hrun]
      exact ⟨by rw [← hresponse]; rfl, hfinal⟩
  | getHoldingRegisters address count =>
      rw [perform, runOn_getHoldingRegisters,
        hrel.holdingRegisters.getValues_eq hrel.wellFormed.holdingRegisters]
      exact ⟨rfl, hrel⟩
  | getInputRegisters address count =>
      rw [perform, runOn_getInputRegisters,
        hrel.inputRegisters.getValues_eq hrel.wellFormed.inputRegisters]
      exact ⟨rfl, hrel⟩
  | getCoils address count =>
      rw [perform, runOn_getCoils, hrel.coils.getValues_eq hrel.wellFormed.coils]
      exact ⟨rfl, hrel⟩
  | getDiscreteInputs address count =>
      rw [perform, runOn_getDiscreteInputs,
        hrel.discreteInputs.getValues_eq hrel.wellFormed.discreteInputs]
      exact ⟨rfl, hrel⟩
  | setHoldingRegisters address values =>
      refine finish_of_setValues hrel.wellFormed.holdingRegisters hrel.holdingRegisters hrel
        (MemoryDataStore.setHoldingRegisters address values)
        (fun area => { store with holdingRegisters := area })
        (fun space => { device with holdingRegisters := space })
        (MemoryDataStore.runOn_setHoldingRegisters address values store) ?_
      intro area space hformed hspace
      exact
        { hrel with
          wellFormed := { hrel.wellFormed with holdingRegisters := hformed }
          holdingRegisters := hspace }
  | setCoils address values =>
      refine finish_of_setValues hrel.wellFormed.coils hrel.coils hrel
        (MemoryDataStore.setCoils address values)
        (fun area => { store with coils := area })
        (fun space => { device with coils := space })
        (MemoryDataStore.runOn_setCoils address values store) ?_
      intro area space hformed hspace
      exact
        { hrel with
          wellFormed := { hrel.wellFormed with coils := hformed }
          coils := hspace }
  | setInputRegisters address values =>
      refine finish_of_setValues hrel.wellFormed.inputRegisters hrel.inputRegisters hrel
        (ModbusSimulator.setInputRegisters address values)
        (fun area => { store with inputRegisters := area })
        (fun space => { device with inputRegisters := space })
        (MemoryDataStore.runOn_setInputRegisters address values store) ?_
      intro area space hformed hspace
      exact
        { hrel with
          wellFormed := { hrel.wellFormed with inputRegisters := hformed }
          inputRegisters := hspace }
  | setDiscreteInputs address values =>
      refine finish_of_setValues hrel.wellFormed.discreteInputs hrel.discreteInputs hrel
        (ModbusSimulator.setDiscreteInputs address values)
        (fun area => { store with discreteInputs := area })
        (fun space => { device with discreteInputs := space })
        (MemoryDataStore.runOn_setDiscreteInputs address values store) ?_
      intro area space hformed hspace
      exact
        { hrel with
          wellFormed := { hrel.wellFormed with discreteInputs := hformed }
          discreteInputs := hspace }

/-- Whatever is done to a server's datastore, it answers as the device does that is configured with
the same blocks, and holds the same contents afterwards. -/
theorem run_refines_device {holdingRegisters inputRegisters : List RegisterBlock}
    {coils discreteInputs : List BitBlock}
    (hinit : MemoryDataStore.init holdingRegisters inputRegisters coils discreteInputs = .ok store)
    (server : ModbusTcpServer) (operations : List Operation) :
    (Machine.run server.perform store operations).1 =
        (Machine.run Device.perform
          (.ofBlocks holdingRegisters inputRegisters coils discreteInputs) operations).1 ∧
      (Machine.run server.perform store operations).2.Represents
        (Machine.run Device.perform
          (.ofBlocks holdingRegisters inputRegisters coils discreteInputs) operations).2 := by
  have hstep : ∀ store device operation, MemoryDataStore.Represents store device →
      (server.perform store operation).1 = (device.perform operation).1 ∧
        (server.perform store operation).2.Represents (device.perform operation).2 :=
    fun store device operation hrel => server.perform_represents hrel operation
  exact Machine.run_simulation hstep (MemoryDataStore.represents_init hinit) operations

/-- The read range of the second request overlaps what it writes, and the last range is split
between two blocks. -/
theorem run_refines_device_overlapping :
    ∃ store, MemoryDataStore.init [⟨4, [7, 8, 9], false⟩, ⟨0, [1, 2, 3, 0x12], false⟩] [] [] [] =
        .ok store ∧
      (Machine.run (perform ⟨.empty⟩) store
        [.request ⟨.maskWriteRegister ⟨3, 0xF0, 0x0F, by decide, by decide, by decide⟩, trivial⟩,
          .request ⟨.readWriteMultipleRegisters ⟨1, 3, 0, [5, 6], by decide, by decide, by decide,
            by decide, by decide⟩, trivial⟩,
          .getHoldingRegisters 3 2]).1 =
        [.response (.ok (.maskWriteRegister ⟨0x16, 3, 0xF0, 0x0F⟩)),
          .response (.ok (.readRegisters ⟨0x17, [6, 3, 0x1F]⟩)),
          .registers (.error (.invalidAddressError 3 2))] := by
  have hinit : MemoryDataStore.init [⟨4, [7, 8, 9], false⟩, ⟨0, [1, 2, 3, 0x12], false⟩] [] [] [] =
      .ok _ := rfl
  exact ⟨_, hinit, (run_refines_device hinit _ _).1.trans rfl⟩

end ModbusTcpServer

end ClearModbus
