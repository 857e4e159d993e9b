import ClearModbus.Proof.Footprints

/-!
# Orders that do not matter

A datastore is determined by the shapes of its blocks, which no operation changes, and by what the
device holds. Operations that do not conflict can therefore be taken in either order, on the device
and on the server's own datastore.
-/

namespace ClearModbus

open Independence

namespace DataArea

variable {α : Type} {left right : DataArea α} {space : AddressSpace α}

theorem SameShape.refl (area : DataArea α) : SameShape area area := ⟨rfl, rfl, rfl⟩

theorem SameShape.trans {middle : DataArea α} (h : SameShape left middle)
    (hright : SameShape middle right) : SameShape left right :=
  ⟨h.indexedBlocks_eq.trans hright.indexedBlocks_eq, h.starts_eq.trans hright.starts_eq,
    h.shapes_eq.trans hright.shapes_eq⟩

theorem SameShape.symm (h : SameShape left right) : SameShape right left :=
  ⟨h.indexedBlocks_eq.symm, h.starts_eq.symm, h.shapes_eq.symm⟩

theorem values_eq_of_represents (hright : right.WellFormed) (hleftRep : left.Represents space)
    (hrightRep : right.Represents space) {leftBlock rightBlock : DataBlock α}
    (hleftMem : leftBlock ∈ left.blocks) (hrightMem : rightBlock ∈ right.blocks)
    (hshape : leftBlock.shape = rightBlock.shape) : leftBlock.values = rightBlock.values := by
  simp only [DataBlock.shape, Prod.mk.injEq] at hshape
  obtain ⟨hstart, hlength, -⟩ := hshape
  have hcell : ∀ (block : DataBlock α) (offset : Nat),
      block.cell (block.startAddress + offset) = block.values[offset]? := by
    intro block offset
    rw [DataBlock.cell, if_pos (by omega)]
    congr
    omega
  apply List.ext_getElem hlength
  intro offset hleftLt hrightLt
  -- The address of the value is in one block of the right area only.
  have hleftCell : leftBlock.cell (leftBlock.startAddress + offset) =
      some leftBlock.values[offset] := by
    rw [hcell, List.getElem?_eq_getElem hleftLt]
  have hrightCell : rightBlock.cell (leftBlock.startAddress + offset) =
      some rightBlock.values[offset] := by
    rw [hstart, hcell, List.getElem?_eq_getElem hrightLt]
  obtain ⟨found, hfound, hfoundCell⟩ := (hrightRep.cells_eq_some_iff _ _).mp
    ((hleftRep.cells_eq_some_iff _ _).mpr ⟨leftBlock, hleftMem, hleftCell⟩)
  rw [eq_of_cell hright hfound hrightMem hfoundCell hrightCell, hrightCell] at hfoundCell
  exact (Option.some.inj hfoundCell).symm

theorem eq_of_represents (hright : right.WellFormed) (hshape : SameShape left right)
    (hleftRep : left.Represents space) (hrightRep : right.Represents space) : left = right := by
  obtain ⟨hindexed, hstarts, hshapes⟩ := hshape
  have hblocks : left.blocks = right.blocks := by
    have hlength : left.blocks.length = right.blocks.length := by
      simpa using congrArg List.length hshapes
    apply List.ext_getElem hlength
    intro index hleftLt hrightLt
    have hblock : (left.blocks[index]).shape = (right.blocks[index]).shape := by
      have hget := congrArg (·[index]?) hshapes
      simpa [hleftLt, hrightLt] using hget
    have hvalues := values_eq_of_represents hright hleftRep hrightRep (List.getElem_mem hleftLt)
      (List.getElem_mem hrightLt) hblock
    simp only [DataBlock.shape, Prod.mk.injEq] at hblock
    obtain ⟨hstart, -, hreadonly⟩ := hblock
    exact DataBlock.mk.injEq .. |>.mpr ⟨hstart, hvalues, hreadonly⟩
  obtain ⟨blocks, indexedBlocks, starts⟩ := left
  exact DataArea.mk.injEq .. |>.mpr ⟨hblocks, hindexed, hstarts⟩

end DataArea

namespace MemoryDataStore

structure SameShape (left right : MemoryDataStore) : Prop where
  holdingRegisters : left.holdingRegisters.SameShape right.holdingRegisters
  inputRegisters : left.inputRegisters.SameShape right.inputRegisters
  coils : left.coils.SameShape right.coils
  discreteInputs : left.discreteInputs.SameShape right.discreteInputs

variable {left right store : MemoryDataStore} {device : Device}

theorem SameShape.refl (store : MemoryDataStore) : SameShape store store :=
  ⟨.refl _, .refl _, .refl _, .refl _⟩

theorem SameShape.trans {middle : MemoryDataStore} (h : SameShape left middle)
    (hright : SameShape middle right) : SameShape left right :=
  ⟨h.holdingRegisters.trans hright.holdingRegisters, h.inputRegisters.trans hright.inputRegisters,
    h.coils.trans hright.coils, h.discreteInputs.trans hright.discreteInputs⟩

theorem SameShape.symm (h : SameShape left right) : SameShape right left :=
  ⟨h.holdingRegisters.symm, h.inputRegisters.symm, h.coils.symm, h.discreteInputs.symm⟩

/-- Two datastores of one shape that hold what one device holds are equal. -/
theorem eq_of_represents (hshape : SameShape left right) (hleft : left.Represents device)
    (hright : right.Represents device) : left = right := by
  obtain ⟨hwell, hholding, hinput, hcoils, hdiscrete⟩ := hright
  have hholdingEq := DataArea.eq_of_represents hwell.holdingRegisters hshape.holdingRegisters
    hleft.holdingRegisters hholding
  have hinputEq := DataArea.eq_of_represents hwell.inputRegisters hshape.inputRegisters
    hleft.inputRegisters hinput
  have hcoilsEq := DataArea.eq_of_represents hwell.coils hshape.coils hleft.coils hcoils
  have hdiscreteEq := DataArea.eq_of_represents hwell.discreteInputs hshape.discreteInputs
    hleft.discreteInputs hdiscrete
  obtain ⟨holding, input, coils, discrete⟩ := left
  exact MemoryDataStore.mk.injEq .. |>.mpr ⟨hholdingEq, hinputEq, hcoilsEq, hdiscreteEq⟩

end MemoryDataStore

namespace ModbusTcpServer

variable {server : ModbusTcpServer} {store after : MemoryDataStore} {device : Device}

theorem Handles.sameShape {request : BuiltinRequest} {response : ResponsePDU}
    (h : Handles server store request response after) : after.SameShape store := by
  have hrefl := MemoryDataStore.SameShape.refl store
  cases h with
  | writeSingleCoil request area h => exact { hrefl with coils := h.sameShape }
  | writeSingleRegister request area h => exact { hrefl with holdingRegisters := h.sameShape }
  | writeMultipleCoils request area h => exact { hrefl with coils := h.sameShape }
  | writeMultipleRegisters request area h => exact { hrefl with holdingRegisters := h.sameShape }
  | maskWriteRegister request value area hread hwrite =>
      exact { hrefl with holdingRegisters := hwrite.sameShape }
  | readWriteMultipleRegisters request area values hwrite hread =>
      exact { hrefl with holdingRegisters := hwrite.sameShape }
  | _ => exact hrefl

theorem sameShape_of_replaced {α : Type} {program : Exec PyError MemoryDataStore Unit}
    {install : DataArea α → MemoryDataStore} {result : Except PyError (DataArea α)}
    (hrun : Exec.runOn program store = Exec.replaced store (install <$> result))
    (h : ∀ area, result = .ok area → (install area).SameShape store) :
    ((Exec.runOn program store).map Output.done id).2.SameShape store := by
  rw [hrun]
  cases result with
  | ok area => exact h area rfl
  | error error => exact .refl store

theorem sameShape_perform (hstore : store.WellFormed) (operation : Operation) :
    (server.perform store operation).2.SameShape store := by
  have hrefl := MemoryDataStore.SameShape.refl store
  cases operation with
  | request request =>
      obtain ⟨response, final, hrun, hhandles⟩ := answered server hstore request.1
      rw [perform, hrun]
      exact hhandles.sameShape
  | setHoldingRegisters address values =>
      exact sameShape_of_replaced (MemoryDataStore.runOn_setHoldingRegisters address values store)
        fun area hset => { hrefl with holdingRegisters := DataArea.sameShape_setValues hset }
  | setCoils address values =>
      exact sameShape_of_replaced (MemoryDataStore.runOn_setCoils address values store)
        fun area hset => { hrefl with coils := DataArea.sameShape_setValues hset }
  | setInputRegisters address values =>
      exact sameShape_of_replaced (MemoryDataStore.runOn_setInputRegisters address values store)
        fun area hset => { hrefl with inputRegisters := DataArea.sameShape_setValues hset }
  | setDiscreteInputs address values =>
      exact sameShape_of_replaced (MemoryDataStore.runOn_setDiscreteInputs address values store)
        fun area hset => { hrefl with discreteInputs := DataArea.sameShape_setValues hset }
  | getHoldingRegisters address count => exact hrefl
  | getInputRegisters address count => exact hrefl
  | getCoils address count => exact hrefl
  | getDiscreteInputs address count => exact hrefl

end ModbusTcpServer

variable {κ : Type} {store : MemoryDataStore} {device : Device}

def ModbusTcpServer.performFor (server : ModbusTcpServer) (store : MemoryDataStore)
    (asked : κ × Operation) : Output × MemoryDataStore :=
  server.perform store asked.2

def Device.performFor (device : Device) (asked : κ × Operation) : Output × Device :=
  device.perform asked.2

/-- Operations that do not conflict can be taken in either order. -/
theorem Device.commute_of_not_conflicts {asked other : κ × Operation}
    (h : ¬asked.2.Conflicts other.2) : Commute Device.performFor asked other := by
  have hfirst : Within Device.view (fun device => device.perform asked.2) asked.2.footprint :=
    Operation.within_perform asked.2
  have hsecond : Within Device.view (fun device => device.perform other.2) other.2.footprint :=
    Operation.within_perform other.2
  exact hfirst.comm hsecond (Operation.independent_of_not_conflicts h)

namespace ModbusTcpServer

/-- The server's runs are the device's, and keep the shape of the datastore. -/
theorem run_performFor (hrel : store.Represents device) (server : ModbusTcpServer)
    (order : List (κ × Operation)) :
    (Machine.run server.performFor store order).1 = (Machine.run Device.performFor device order).1 ∧
      (Machine.run server.performFor store order).2.Represents
        (Machine.run Device.performFor device order).2 ∧
      (Machine.run server.performFor store order).2.SameShape store := by
  induction order generalizing store device with
  | nil => exact ⟨rfl, hrel, .refl store⟩
  | cons asked order ih =>
      obtain ⟨houtput, hnext⟩ := server.perform_represents hrel asked.2
      obtain ⟨houtputs, hfinal, hshape⟩ := ih hnext
      rw [Machine.run_cons, Machine.run_cons]
      refine ⟨?_, hfinal, hshape.trans (sameShape_perform hrel.wellFormed asked.2)⟩
      exact congrArg₂ List.cons houtput houtputs

theorem answers_performFor (hrel : store.Represents device) (server : ModbusTcpServer)
    (order : List (κ × Operation)) :
    answers server.performFor store order = answers Device.performFor device order := by
  rw [answers, (run_performFor hrel server order).1, answers]

/-- **Only the order of conflicting operations matters.** From any state that operations lead to,
two orders of the same operations that take those in the same order of which one changes what the
other looks at or changes give every operation the same answer and leave the same datastore. -/
theorem order_of_conflicts_suffices {holdingRegisters inputRegisters : List RegisterBlock}
    {coils discreteInputs : List BitBlock} {initial : MemoryDataStore}
    (hinit : MemoryDataStore.init holdingRegisters inputRegisters coils discreteInputs =
      .ok initial)
    (server : ModbusTcpServer) (earlier first second : List (κ × Operation))
    (hnodup : first.Nodup) (hperm : first.Perm second)
    (horder : ∀ asked other : κ × Operation, asked.2.Conflicts other.2 →
      [asked, other].Sublist second → [asked, other].Sublist first) :
    (answers server.performFor (Machine.run server.performFor initial earlier).2 first).Perm
        (answers server.performFor (Machine.run server.performFor initial earlier).2 second) ∧
      (Machine.run server.performFor (Machine.run server.performFor initial earlier).2 first).2 =
        (Machine.run server.performFor (Machine.run server.performFor initial earlier).2
          second).2 := by
  obtain ⟨-, hrel, -⟩ := run_performFor (MemoryDataStore.represents_init hinit) server earlier
  obtain ⟨-, hfirst, hfirstShape⟩ := run_performFor hrel server first
  obtain ⟨-, hsecond, hsecondShape⟩ := run_performFor hrel server second
  obtain ⟨hanswers, hfinal⟩ := answers_perm hnodup hperm
    (fun asked other hcommute hsublist =>
      horder asked other (not_imp_comm.mp Device.commute_of_not_conflicts hcommute) hsublist)
    (Machine.run Device.performFor
      (.ofBlocks holdingRegisters inputRegisters coils discreteInputs) earlier).2
  rw [hfinal] at hfirst
  rw [answers_performFor hrel, answers_performFor hrel]
  exact ⟨hanswers, MemoryDataStore.eq_of_represents (hfirstShape.trans hsecondShape.symm) hfirst
    hsecond⟩

/-- A mask write to the third register can be taken before a read and a write of the first two. -/
theorem order_of_conflicts_suffices_mask :
    ∃ store, MemoryDataStore.init [⟨0, [1, 2, 0x12], false⟩] [] [] [] = .ok store ∧
      (answers (performFor ⟨.empty⟩) store
        [(0, .request ⟨.readHoldingRegisters ⟨0, 2, by decide, by decide⟩, trivial⟩),
          (1, .setHoldingRegisters 0 [.int 7]),
          (2, .request ⟨.maskWriteRegister ⟨2, 0xF0, 0x0F, by decide, by decide, by decide⟩,
            trivial⟩)]).Perm
      (answers (performFor ⟨.empty⟩) store
        [(2, .request ⟨.maskWriteRegister ⟨2, 0xF0, 0x0F, by decide, by decide, by decide⟩,
          trivial⟩), (0, .request ⟨.readHoldingRegisters ⟨0, 2, by decide, by decide⟩, trivial⟩),
          (1, .setHoldingRegisters 0 [.int 7])]) := by
  have hinit : MemoryDataStore.init [⟨0, [1, 2, 0x12], false⟩] [] [] [] = .ok _ := rfl
  refine ⟨_, hinit, (order_of_conflicts_suffices hinit ⟨.empty⟩ [] _ _ ?_ ?_ ?_).1⟩
  · apply List.Nodup.of_map Prod.fst
    decide
  · exact List.perm_append_singleton _ [_, _]
  · intro asked other hconflicts hsublist
    rcases List.sublist_cons_iff.mp hsublist with hkept | ⟨rest, heq, hrest⟩
    · exact hkept.trans (List.sublist_append_left _ [_])
    · -- Neither of the two conflicts with the mask write.
      cases heq
      rcases List.mem_pair.mp (List.singleton_sublist.mp hrest) with rfl | rfl
      · exact absurd hconflicts (by decide)
      · exact absurd hconflicts (by decide)

end ModbusTcpServer

end ClearModbus
