import ClearModbus.Lib.Independence
import ClearModbus.Proof.Refinement

/-!
# What an operation touches

Every operation on a served datastore names the cells it looks at and the cells it changes. It keeps
to them on the device: nothing else is changed, and nothing else, other than where the regions are,
tells what it answers.
-/

namespace ClearModbus

open Independence

inductive Table where
  | holdingRegisters
  | inputRegisters
  | coils
  | discreteInputs
  deriving DecidableEq, Repr

structure Span where
  table : Table
  address : Int
  count : Int
  deriving DecidableEq, Repr

def Span.cells (span : Span) : Set (Table × Int) :=
  {key | key.1 = span.table ∧ span.address ≤ key.2 ∧ key.2 < span.address + span.count}

/-- Each of the ranges starts before the other one ends. Two that are not empty then have an address
in common; an empty one meets a range that it lies strictly inside of. -/
def Span.Meets (left right : Span) : Prop :=
  left.table = right.table ∧ left.address < right.address + right.count ∧
    right.address < left.address + left.count

instance (left right : Span) : Decidable (left.Meets right) :=
  inferInstanceAs (Decidable (_ ∧ _ ∧ _))

theorem Span.meets_of_mem {left right : Span} {key : Table × Int} (hleft : key ∈ left.cells)
    (hright : key ∈ right.cells) : left.Meets right := by
  obtain ⟨hleftTable, hleftFirst, hleftLast⟩ := hleft
  obtain ⟨hrightTable, hrightFirst, hrightLast⟩ := hright
  exact ⟨hleftTable.symm.trans hrightTable, by omega, by omega⟩

namespace Operation

def reads : Operation → List Span
  | .request ⟨.readCoils inner, _⟩ => [⟨.coils, inner.address, inner.count⟩]
  | .request ⟨.readDiscreteInputs inner, _⟩ => [⟨.discreteInputs, inner.address, inner.count⟩]
  | .request ⟨.readHoldingRegisters inner, _⟩ =>
      [⟨.holdingRegisters, inner.address, inner.count⟩]
  | .request ⟨.readInputRegisters inner, _⟩ => [⟨.inputRegisters, inner.address, inner.count⟩]
  | .request ⟨.maskWriteRegister inner, _⟩ => [⟨.holdingRegisters, inner.address, 1⟩]
  | .request ⟨.readWriteMultipleRegisters inner, _⟩ =>
      [⟨.holdingRegisters, inner.readAddress, inner.readCount⟩]
  | .getHoldingRegisters address count => [⟨.holdingRegisters, address, count⟩]
  | .getInputRegisters address count => [⟨.inputRegisters, address, count⟩]
  | .getCoils address count => [⟨.coils, address, count⟩]
  | .getDiscreteInputs address count => [⟨.discreteInputs, address, count⟩]
  | _ => []

def writes : Operation → List Span
  | .request ⟨.writeSingleCoil inner, _⟩ => [⟨.coils, inner.address, 1⟩]
  | .request ⟨.writeSingleRegister inner, _⟩ => [⟨.holdingRegisters, inner.address, 1⟩]
  | .request ⟨.writeMultipleCoils inner, _⟩ => [⟨.coils, inner.address, inner.values.length⟩]
  | .request ⟨.writeMultipleRegisters inner, _⟩ =>
      [⟨.holdingRegisters, inner.address, inner.values.length⟩]
  | .request ⟨.maskWriteRegister inner, _⟩ => [⟨.holdingRegisters, inner.address, 1⟩]
  | .request ⟨.readWriteMultipleRegisters inner, _⟩ =>
      [⟨.holdingRegisters, inner.writeAddress, inner.values.length⟩]
  | .setHoldingRegisters address values => [⟨.holdingRegisters, address, values.length⟩]
  | .setCoils address values => [⟨.coils, address, values.length⟩]
  | .setInputRegisters address values => [⟨.inputRegisters, address, values.length⟩]
  | .setDiscreteInputs address values => [⟨.discreteInputs, address, values.length⟩]
  | _ => []

def footprint (operation : Operation) : Footprint (Table × Int) where
  reads := {key | ∃ span ∈ operation.reads, key ∈ span.cells}
  writes := {key | ∃ span ∈ operation.writes, key ∈ span.cells}

/-- One of the two changes what the other looks at or changes. -/
def Conflicts (left right : Operation) : Prop :=
  (∃ written ∈ left.writes, ∃ touched ∈ right.reads ++ right.writes, written.Meets touched) ∨
    ∃ written ∈ right.writes, ∃ touched ∈ left.reads ++ left.writes, written.Meets touched

instance (left right : Operation) : Decidable (left.Conflicts right) :=
  inferInstanceAs (Decidable (_ ∨ _))

theorem independent_of_not_conflicts {left right : Operation} (h : ¬left.Conflicts right) :
    left.footprint.Independent right.footprint := by
  rw [Conflicts, not_or] at h
  constructor
  · rintro key ⟨written, hwritten, hkey⟩
    constructor
    · rintro ⟨touched, htouched, hother⟩
      exact h.1 ⟨written, hwritten, touched, List.mem_append_left _ htouched,
        Span.meets_of_mem hkey hother⟩
    · rintro ⟨touched, htouched, hother⟩
      exact h.1 ⟨written, hwritten, touched, List.mem_append_right _ htouched,
        Span.meets_of_mem hkey hother⟩
  · rintro key ⟨written, hwritten, hkey⟩
    constructor
    · rintro ⟨touched, htouched, hother⟩
      exact h.2 ⟨written, hwritten, touched, List.mem_append_left _ htouched,
        Span.meets_of_mem hkey hother⟩
    · rintro ⟨touched, htouched, hother⟩
      exact h.2 ⟨written, hwritten, touched, List.mem_append_right _ htouched,
        Span.meets_of_mem hkey hother⟩

end Operation

namespace Device

def cell (device : Device) : Table × Int → Option PyObject
  | (.holdingRegisters, address) => (device.holdingRegisters.cells address).map .int
  | (.inputRegisters, address) => (device.inputRegisters.cells address).map .int
  | (.coils, address) => (device.coils.cells address).map .bool
  | (.discreteInputs, address) => (device.discreteInputs.cells address).map .bool

def regions (device : Device) : Table → List Region
  | .holdingRegisters => device.holdingRegisters.regions
  | .inputRegisters => device.inputRegisters.regions
  | .coils => device.coils.regions
  | .discreteInputs => device.discreteInputs.regions

end Device

theorem AddressSpace.ext_of_cells {α : Type} {left right : AddressSpace α} {wrap : α → PyObject}
    (hwrap : Function.Injective wrap) (hregions : left.regions = right.regions)
    (hcells : ∀ address, (left.cells address).map wrap = (right.cells address).map wrap) :
    left = right := by
  obtain ⟨regions, cells, domain⟩ := left
  obtain ⟨otherRegions, otherCells, otherDomain⟩ := right
  obtain rfl : regions = otherRegions := hregions
  obtain rfl : cells = otherCells :=
    funext fun address => Option.map_injective hwrap (hcells address)
  rfl

theorem injective_int : Function.Injective PyObject.int := fun _ _ h => PyObject.int.inj h

theorem injective_bool : Function.Injective PyObject.bool := fun _ _ h => PyObject.bool.inj h

def Device.view : View Device (Table × Int) (Option PyObject) (Table → List Region) where
  cell := Device.cell
  frame := Device.regions
  ext left right hregions hcells := by
    have hregion : ∀ table, left.regions table = right.regions table := congrFun hregions
    have hcell : ∀ table address, left.cell (table, address) = right.cell (table, address) :=
      fun table address => congrFun hcells (table, address)
    obtain ⟨holding, input, coils, discrete⟩ := left
    obtain ⟨otherHolding, otherInput, otherCoils, otherDiscrete⟩ := right
    obtain rfl : holding = otherHolding := AddressSpace.ext_of_cells injective_int
      (hregion .holdingRegisters) (hcell .holdingRegisters)
    obtain rfl : input = otherInput := AddressSpace.ext_of_cells injective_int
      (hregion .inputRegisters) (hcell .inputRegisters)
    obtain rfl : coils = otherCoils := AddressSpace.ext_of_cells injective_bool
      (hregion .coils) (hcell .coils)
    obtain rfl : discrete = otherDiscrete := AddressSpace.ext_of_cells injective_bool
      (hregion .discreteInputs) (hcell .discreteInputs)
    rfl

structure Slot (α : Type) where
  table : Table
  get : Device → AddressSpace α
  put : Device → AddressSpace α → Device
  wrap : α → PyObject
  injective : Function.Injective wrap
  regions_get : ∀ device, (get device).regions = device.regions table
  cell_get : ∀ device address, device.cell (table, address) = ((get device).cells address).map wrap
  get_put : ∀ device space, get (put device space) = space
  regions_put : ∀ device space other, other ≠ table →
    (put device space).regions other = device.regions other
  cell_put : ∀ device space other address, other ≠ table →
    (put device space).cell (other, address) = device.cell (other, address)

namespace Slot

def holdingRegisters : Slot Int where
  table := .holdingRegisters
  get := Device.holdingRegisters
  put device space := { device with holdingRegisters := space }
  wrap := .int
  injective := injective_int
  regions_get _ := rfl
  cell_get _ _ := rfl
  get_put _ _ := rfl
  regions_put _ _ other h := by cases other <;> first | rfl | exact absurd rfl h
  cell_put _ _ other _ h := by cases other <;> first | rfl | exact absurd rfl h

def inputRegisters : Slot Int where
  table := .inputRegisters
  get := Device.inputRegisters
  put device space := { device with inputRegisters := space }
  wrap := .int
  injective := injective_int
  regions_get _ := rfl
  cell_get _ _ := rfl
  get_put _ _ := rfl
  regions_put _ _ other h := by cases other <;> first | rfl | exact absurd rfl h
  cell_put _ _ other _ h := by cases other <;> first | rfl | exact absurd rfl h

def coils : Slot Bool where
  table := .coils
  get := Device.coils
  put device space := { device with coils := space }
  wrap := .bool
  injective := injective_bool
  regions_get _ := rfl
  cell_get _ _ := rfl
  get_put _ _ := rfl
  regions_put _ _ other h := by cases other <;> first | rfl | exact absurd rfl h
  cell_put _ _ other _ h := by cases other <;> first | rfl | exact absurd rfl h

def discreteInputs : Slot Bool where
  table := .discreteInputs
  get := Device.discreteInputs
  put device space := { device with discreteInputs := space }
  wrap := .bool
  injective := injective_bool
  regions_get _ := rfl
  cell_get _ _ := rfl
  get_put _ _ := rfl
  regions_put _ _ other h := by cases other <;> first | rfl | exact absurd rfl h
  cell_put _ _ other _ h := by cases other <;> first | rfl | exact absurd rfl h

variable {α ο : Type} {slot : Slot α} {device : Device}

def act (slot : Slot α) (address : Int) (decision : AddressSpace α → ο × Option (List α))
    (device : Device) : ο × Device :=
  ((decision (slot.get device)).1,
    (decision (slot.get device)).2.elim device fun values =>
      slot.put device ((slot.get device).write address values))

theorem act_ite (slot : Slot α) (address : Int) (device : Device) {p : AddressSpace α → Prop}
    [DecidablePred p] (good : AddressSpace α → ο) (bad : ο) (values : AddressSpace α → List α) :
    slot.act address
      (fun space => if p space then (good space, some (values space)) else (bad, none))
        device =
      if p (slot.get device) then
        (good (slot.get device),
          slot.put device ((slot.get device).write address (values (slot.get device))))
      else (bad, device) := by
  rw [act]
  by_cases hp : p (slot.get device)
  · simp only [if_pos hp, Option.elim_some]
  · simp only [if_neg hp, Option.elim_none]

theorem regions_put_write (slot : Slot α) (device : Device) (address : Int) (values : List α) :
    (slot.put device ((slot.get device).write address values)).regions = device.regions := by
  funext other
  by_cases hother : other = slot.table
  · rw [hother, ← slot.regions_get, slot.get_put, AddressSpace.regions_write, slot.regions_get]
  · exact slot.regions_put device _ other hother

theorem cell_put_write (slot : Slot α) (device : Device) (address : Int) (values : List α)
    (key : Table × Int) :
    (slot.put device ((slot.get device).write address values)).cell key =
      if key.1 = slot.table ∧ (slot.get device).Writable address values.length ∧
          address ≤ key.2 ∧ key.2 < address + values.length then
        (values[(key.2 - address).toNat]?).map slot.wrap
      else device.cell key := by
  obtain ⟨other, location⟩ := key
  dsimp only
  by_cases hother : other = slot.table
  · subst hother
    rw [slot.cell_get, slot.get_put, slot.cell_get]
    by_cases hwritable : (slot.get device).Writable address values.length
    · rw [AddressSpace.cells_write hwritable, AddressSpace.replace]
      simp only [hwritable, true_and]
      split <;> rfl
    · rw [AddressSpace.write, dif_neg hwritable, if_neg]
      exact fun h => hwritable h.2.1
  · rw [slot.cell_put device _ other location hother, if_neg]
    exact fun h => hother h.1

/-- The operation keeps to the cells its decision depends on and the ones it stores to. -/
theorem within_act (slot : Slot α) (address : Int)
    {decision : AddressSpace α → ο × Option (List α)} {footprint : Footprint (Table × Int)}
    (hreads : ∀ left right : AddressSpace α, left.regions = right.regions →
      (∀ location, (slot.table, location) ∈ footprint.reads →
        left.cells location = right.cells location) → decision left = decision right)
    (hwrites : ∀ space values, (decision space).2 = some values → ∀ location, address ≤ location →
      location < address + values.length → (slot.table, location) ∈ footprint.writes) :
    Within Device.view (slot.act address decision) footprint := by
  have hagree : ∀ left right, Device.view.Agree footprint.reads left right →
      (slot.get left).regions = (slot.get right).regions ∧
        decision (slot.get left) = decision (slot.get right) := by
    intro left right h
    have hregions : (slot.get left).regions = (slot.get right).regions := by
      rw [slot.regions_get, slot.regions_get]
      exact congrFun h.frame slot.table
    refine ⟨hregions, hreads _ _ hregions fun location hlocation => ?_⟩
    apply Option.map_injective slot.injective
    rw [← slot.cell_get, ← slot.cell_get]
    exact h.cell _ hlocation
  constructor
  · intro device
    change (slot.act address decision device).2.regions = device.regions
    rw [act]
    cases (decision (slot.get device)).2 with
    | none => rfl
    | some values => exact slot.regions_put_write device address values
  · intro device key hkey
    change (slot.act address decision device).2.cell key = device.cell key
    rw [act]
    cases hvalues : (decision (slot.get device)).2 with
    | none => rfl
    | some values =>
        dsimp only [Option.elim_some]
        rw [slot.cell_put_write, if_neg]
        rintro ⟨htable, -, hfirst, hlast⟩
        have hwritten := hwrites _ _ hvalues key.2 hfirst hlast
        rw [← htable] at hwritten
        exact hkey hwritten
  · intro left right h
    change (decision (slot.get left)).1 = (decision (slot.get right)).1
    rw [(hagree left right h).2]
  · intro left right h key
    obtain ⟨hregions, hdecision⟩ := hagree left right h
    change (slot.act address decision left).2.cell key =
      (slot.act address decision right).2.cell key ∨
      (slot.act address decision left).2.cell key = left.cell key ∧
        (slot.act address decision right).2.cell key = right.cell key
    rw [act, act, hdecision]
    cases (decision (slot.get right)).2 with
    | none => exact .inr ⟨rfl, rfl⟩
    | some values =>
        dsimp only [Option.elim_some]
        rw [slot.cell_put_write, slot.cell_put_write]
        simp only [AddressSpace.writable_congr hregions]
        split
        · exact .inl rfl
        · exact .inr ⟨rfl, rfl⟩

end Slot

section Operations

variable {α ο : Type} {address count : Int} {operation : Device → ο × Device}
  {footprint : Footprint (Table × Int)}

theorem within_of_read (slot : Slot α) (good : List α → ο) (bad : ο)
    (hoperation : ∀ device, operation device =
      if (slot.get device).Accessible address count then
        (good ((slot.get device).read address count), device)
      else (bad, device))
    (hreads : ∀ key ∈ (Span.mk slot.table address count).cells, key ∈ footprint.reads) :
    Within Device.view operation footprint := by
  have hact : operation = slot.act 0 fun space =>
      (if space.Accessible address count then good (space.read address count) else bad, none) := by
    funext device
    rw [hoperation]
    dsimp only [Slot.act, Option.elim_none]
    split <;> rfl
  rw [hact]
  apply slot.within_act
  · intro left right hregions hcells
    have hread : left.read address count = right.read address count :=
      AddressSpace.read_congr fun location hfirst hlast =>
        hcells location (hreads _ ⟨rfl, hfirst, hlast⟩)
    rw [hread]
    simp only [AddressSpace.accessible_congr hregions]
  · intro space values hvalues
    cases hvalues

theorem within_of_write (slot : Slot α) (good bad : ο) (values : List α)
    (hoperation : ∀ device, operation device =
      if (slot.get device).Writable address values.length then
        (good, slot.put device ((slot.get device).write address values))
      else (bad, device))
    (hwrites : ∀ key ∈ (Span.mk slot.table address values.length).cells, key ∈ footprint.writes) :
    Within Device.view operation footprint := by
  have hact : operation = slot.act address fun space =>
      if space.Writable address values.length then (good, some values) else (bad, none) := by
    funext device
    rw [Slot.act_ite]
    exact hoperation device
  rw [hact]
  apply slot.within_act
  · intro left right hregions _
    simp only [AddressSpace.writable_congr hregions]
  · intro space stored hstored location hfirst hlast
    split at hstored
    · cases hstored
      exact hwrites _ ⟨rfl, hfirst, hlast⟩
    · cases hstored

def setDecision (validate : PyObject → Except PyError α) (address : Int) (values : List PyObject)
    (space : AddressSpace α) : Output × Option (List α) :=
  if ¬space.Accessible address values.length then
    (.done (.error (.invalidAddressError address values.length)), none)
  else if ¬space.Writable address values.length then
    (.done (.error (.readOnlyDataBlockError address)), none)
  else
    match values.mapM validate with
    | .ok stored => (.done (.ok ()), some stored)
    | .error error => (.done (.error error), none)

theorem length_of_setDecision {validate : PyObject → Except PyError α} {values : List PyObject}
    {space : AddressSpace α} {stored : List α}
    (h : (setDecision validate address values space).2 = some stored) :
    stored.length = values.length := by
  unfold setDecision at h
  split at h
  · cases h
  · split at h
    · cases h
    · split at h
      · rename_i hvalidated
        cases h
        exact DataBlock.length_mapM hvalidated
      · cases h

theorem finish_setValues (slot : Slot α) (validate : PyObject → Except PyError α) (address : Int)
    (values : List PyObject) (device : Device) :
    device.finish (slot.put device) (Device.setValues validate (slot.get device) address values) =
      slot.act address (setDecision validate address values) device := by
  rw [Device.setValues, Slot.act, setDecision]
  by_cases haccessible : (slot.get device).Accessible address values.length
  · by_cases hwritable : (slot.get device).Writable address values.length
    · simp only [haccessible, hwritable, not_true_eq_false, if_false]
      cases values.mapM validate <;> rfl
    · simp only [haccessible, hwritable, not_true_eq_false, not_false_eq_true, if_false, if_true]
      rfl
  · simp only [haccessible, not_false_eq_true, if_true]
    rfl

theorem within_of_set (slot : Slot α) (validate : PyObject → Except PyError α)
    (values : List PyObject) {operation : Device → Output × Device}
    (hoperation : ∀ device, operation device =
      device.finish (slot.put device) (Device.setValues validate (slot.get device) address values))
    (hwrites : ∀ key ∈ (Span.mk slot.table address values.length).cells, key ∈ footprint.writes) :
    Within Device.view operation footprint := by
  have hact : operation = slot.act address (setDecision validate address values) := by
    funext device
    rw [hoperation, finish_setValues]
  rw [hact]
  apply slot.within_act
  · intro left right hregions _
    unfold setDecision
    simp only [AddressSpace.accessible_congr hregions, AddressSpace.writable_congr hregions]
  · intro space stored hstored location hfirst hlast
    rw [length_of_setDecision hstored] at hlast
    exact hwrites _ ⟨rfl, hfirst, hlast⟩

end Operations

namespace Operation

theorem mem_reads_of_mem {operation : Operation} {span : Span} (h : span ∈ operation.reads) :
    ∀ key ∈ span.cells, key ∈ operation.footprint.reads := fun _ hkey => ⟨span, h, hkey⟩

theorem mem_writes_of_mem {operation : Operation} {span : Span} (h : span ∈ operation.writes) :
    ∀ key ∈ span.cells, key ∈ operation.footprint.writes := fun _ hkey => ⟨span, h, hkey⟩

def rejected (functionCode : Int) : Output :=
  .response (.ok (.exception ⟨functionCode, ExceptionCode.illegalDataAddress.code⟩))

theorem perform_ite {device after : Device} {request : DataRequest} {p : Prop} [Decidable p]
    {good bad : ResponsePDU}
    (h : device.request request = if p then (good, after) else (bad, device)) :
    device.perform (.request request) =
      if p then (.response (.ok good), after) else (.response (.ok bad), device) := by
  rw [Device.perform, h]
  by_cases hp : p
  · rw [if_pos hp, if_pos hp]
  · rw [if_neg hp, if_neg hp]

theorem getValues_ite {α : Type} {space : AddressSpace α} {address count : Int}
    (wrap : Except PyError (List α) → Output) (device : Device) :
    (wrap (Device.getValues space address count), device) =
      if space.Accessible address count then (wrap (.ok (space.read address count)), device)
      else (wrap (.error (.invalidAddressError address count)), device) := by
  rw [Device.getValues]
  split <;> rfl

/-- A mask write stores what it makes of the one cell it looks at. -/
theorem within_maskWrite (request : MaskWriteRegisterRequest)
    (hdata : (BuiltinRequest.maskWriteRegister request).IsData) :
    Within Device.view (fun device => device.perform (.request ⟨.maskWriteRegister request, hdata⟩))
      (footprint (.request ⟨.maskWriteRegister request, hdata⟩)) := by
  have hact :
      (fun device : Device => device.perform (.request ⟨.maskWriteRegister request, hdata⟩)) =
      Slot.holdingRegisters.act request.address fun space =>
        if space.Writable request.address 1 then
          (.response (.ok (.maskWriteRegister
            ⟨0x16, request.address, request.andMask, request.orMask⟩)),
            some ((space.read request.address 1).map fun value =>
              (maskedCell value request.andMask request.orMask : Int)))
        else (rejected 0x16, none) := by
    funext device
    rw [Slot.act_ite]
    exact perform_ite rfl
  rw [hact]
  apply Slot.within_act
  · intro left right hregions hcells
    have hread : left.read request.address 1 = right.read request.address 1 :=
      AddressSpace.read_congr fun location hfirst hlast =>
        hcells location (mem_reads_of_mem List.mem_cons_self _ ⟨rfl, hfirst, hlast⟩)
    rw [hread]
    simp only [AddressSpace.writable_congr hregions]
  · intro space stored hstored location hfirst hlast
    split at hstored
    · cases hstored
      have hlength := space.length_read_le request.address 1
      rw [List.length_map] at hlast
      exact mem_writes_of_mem List.mem_cons_self _ ⟨rfl, hfirst, by dsimp only; omega⟩
    · cases hstored

/-- A read and write answers with the values it has stored where the ranges meet. -/
theorem within_readWrite (request : ReadWriteMultipleRegistersRequest)
    (hdata : (BuiltinRequest.readWriteMultipleRegisters request).IsData) :
    Within Device.view
      (fun device => device.perform (.request ⟨.readWriteMultipleRegisters request, hdata⟩))
      (footprint (.request ⟨.readWriteMultipleRegisters request, hdata⟩)) := by
  have hact : (fun device : Device =>
        device.perform (.request ⟨.readWriteMultipleRegisters request, hdata⟩)) =
      Slot.holdingRegisters.act request.writeAddress fun space =>
        if space.Accessible request.readAddress request.readCount ∧
            space.Writable request.writeAddress request.values.length then
          (.response
            (.ok (.readRegisters ⟨0x17, (space.write request.writeAddress request.values).read
            request.readAddress request.readCount⟩)), some request.values)
        else (rejected 0x17, none) := by
    funext device
    rw [Slot.act_ite]
    exact perform_ite rfl
  rw [hact]
  apply Slot.within_act
  · intro left right hregions hcells
    have hread : (left.write request.writeAddress request.values).read request.readAddress
          request.readCount =
        (right.write request.writeAddress request.values).read request.readAddress
          request.readCount :=
      AddressSpace.read_congr fun location hfirst hlast =>
        AddressSpace.cells_write_congr hregions
          (hcells location (mem_reads_of_mem List.mem_cons_self _ ⟨rfl, hfirst, hlast⟩)) _
    rw [hread]
    simp only [AddressSpace.accessible_congr hregions, AddressSpace.writable_congr hregions]
  · intro space stored hstored location hfirst hlast
    split at hstored
    · cases hstored
      exact mem_writes_of_mem List.mem_cons_self _ ⟨rfl, hfirst, hlast⟩
    · cases hstored

/-- Every operation keeps to what it touches. -/
theorem within_perform (operation : Operation) :
    Within Device.view (fun device => device.perform operation) operation.footprint := by
  cases operation with
  | request request =>
      obtain ⟨request, hdata⟩ := request
      cases request with
      | readCoils request =>
          exact within_of_read .coils (fun values => .response (.ok (.readBits ⟨0x01, values⟩)))
            (rejected 0x01) (fun device => perform_ite rfl) (mem_reads_of_mem List.mem_cons_self)
      | readDiscreteInputs request =>
          exact within_of_read .discreteInputs (fun values =>
            .response (.ok (.readBits ⟨0x02, values⟩)))
            (rejected 0x02) (fun device => perform_ite rfl) (mem_reads_of_mem List.mem_cons_self)
      | readHoldingRegisters request =>
          exact within_of_read .holdingRegisters (fun values =>
            .response (.ok (.readRegisters ⟨0x03, values⟩)))
            (rejected 0x03) (fun device => perform_ite rfl) (mem_reads_of_mem List.mem_cons_self)
      | readInputRegisters request =>
          exact within_of_read .inputRegisters (fun values =>
            .response (.ok (.readRegisters ⟨0x04, values⟩)))
            (rejected 0x04) (fun device => perform_ite rfl) (mem_reads_of_mem List.mem_cons_self)
      | writeSingleCoil request =>
          exact within_of_write .coils
            (.response (.ok (.writeSingleCoil ⟨0x05, request.address, request.value⟩)))
            (rejected 0x05) [request.value] (fun device => perform_ite rfl)
            (mem_writes_of_mem List.mem_cons_self)
      | writeSingleRegister request =>
          exact within_of_write .holdingRegisters
            (.response (.ok (.writeSingleRegister ⟨0x06, request.address, request.value⟩)))
            (rejected 0x06) [request.value] (fun device => perform_ite rfl)
            (mem_writes_of_mem List.mem_cons_self)
      | writeMultipleCoils request =>
          exact within_of_write .coils
            (.response (.ok (.writeMultipleCoils ⟨0x0F, request.address, request.values.length⟩)))
            (rejected 0x0F) request.values (fun device => perform_ite rfl)
            (mem_writes_of_mem List.mem_cons_self)
      | writeMultipleRegisters request =>
          exact within_of_write .holdingRegisters
            (.response
              (.ok (.writeMultipleRegisters ⟨0x10, request.address, request.values.length⟩)))
            (rejected 0x10) request.values (fun device => perform_ite rfl)
            (mem_writes_of_mem List.mem_cons_self)
      | maskWriteRegister request => exact within_maskWrite request hdata
      | readWriteMultipleRegisters request => exact within_readWrite request hdata
      | readDeviceIdentification request => exact hdata.elim
  | getHoldingRegisters address count =>
      exact within_of_read .holdingRegisters (fun values => .registers (.ok values))
        (.registers (.error (.invalidAddressError address count)))
        (fun device => getValues_ite .registers device) (mem_reads_of_mem List.mem_cons_self)
  | getInputRegisters address count =>
      exact within_of_read .inputRegisters (fun values => .registers (.ok values))
        (.registers (.error (.invalidAddressError address count)))
        (fun device => getValues_ite .registers device) (mem_reads_of_mem List.mem_cons_self)
  | getCoils address count =>
      exact within_of_read .coils (fun values => .bits (.ok values))
        (.bits (.error (.invalidAddressError address count)))
        (fun device => getValues_ite .bits device) (mem_reads_of_mem List.mem_cons_self)
  | getDiscreteInputs address count =>
      exact within_of_read .discreteInputs (fun values => .bits (.ok values))
        (.bits (.error (.invalidAddressError address count)))
        (fun device => getValues_ite .bits device) (mem_reads_of_mem List.mem_cons_self)
  | setHoldingRegisters address values =>
      exact within_of_set .holdingRegisters validateRegister values (fun device => rfl)
        (mem_writes_of_mem List.mem_cons_self)
  | setCoils address values =>
      exact within_of_set .coils validateBit values (fun device => rfl)
        (mem_writes_of_mem List.mem_cons_self)
  | setInputRegisters address values =>
      exact within_of_set .inputRegisters validateRegister values (fun device => rfl)
        (mem_writes_of_mem List.mem_cons_self)
  | setDiscreteInputs address values =>
      exact within_of_set .discreteInputs validateBit values (fun device => rfl)
        (mem_writes_of_mem List.mem_cons_self)

end Operation

end ClearModbus
