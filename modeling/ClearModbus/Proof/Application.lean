import ClearModbus.Lib.Machine
import ClearModbus.Lib.Transition
import ClearModbus.Proof.Objects

/-!
# Simulators built from profiles

A simulator is built with lists that exist nowhere else. From then on it answers as if it were alone
with what its profile held at that moment.
-/

namespace ClearModbus

variable {α : Type} {heap after : Heap α}

namespace RangeObject

structure Builds (heap : Heap α) (ranges : List RangeObject) (blocks : List BlockObject)
    (after : Heap α) : Prop where
  keeps : Heap.Keeps (fun _ => True) heap after
  load : blocks.map (BlockObject.load after) = (ranges.map (RangeObject.load heap)).map
    ValueRange.toBlock
  nodup : (blocks.map BlockObject.values).Nodup
  fresh : ∀ ref ∈ blocks.map BlockObject.values, ¬heap.Valid ref ∧ after.Valid ref

theorem builds_toBlocks (ranges : List RangeObject)
    (hvalid : ∀ range ∈ ranges, heap.Valid range.values) :
    Builds heap ranges (toBlocks heap ranges).1 (toBlocks heap ranges).2 := by
  induction ranges generalizing heap with
  | nil =>
      exact ⟨.refl _ heap, rfl, List.nodup_nil, fun _ hmem => absurd hmem List.not_mem_nil⟩
  | cons range ranges ih =>
      obtain ⟨hfirst, hrest⟩ := List.forall_mem_cons.mp hvalid
      have halloc : Heap.Keeps (fun _ => True) heap (range.toBlock heap).2 :=
        Heap.keeps_alloc heap _
      have hnew : (range.toBlock heap).2.Valid (range.toBlock heap).1.values := heap.valid_alloc _
      have hbuilds := ih fun other hother => halloc.valid _ (hrest other hother)
      rw [toBlocks]
      refine ⟨halloc.trans hbuilds.keeps, ?_, ?_, ?_⟩
      · have hblock : (range.toBlock heap).1.load (toBlocks (range.toBlock heap).2 ranges).2 =
            (range.load heap).toBlock := by
          rw [BlockObject.load, hbuilds.keeps.load _ hnew trivial]
          exact congrArg (DataBlock.mk _ · _) (heap.load_alloc _)
        have hranges : ranges.map (RangeObject.load (range.toBlock heap).2) =
            ranges.map (RangeObject.load heap) := by
          refine List.map_congr_left fun other hother => ?_
          rw [RangeObject.load, halloc.load _ (hrest other hother) trivial, RangeObject.load]
        dsimp only
        rw [List.map_cons, List.map_cons, List.map_cons, hblock, hbuilds.load, hranges]
      · refine List.nodup_cons.mpr ⟨fun hmem => ?_, hbuilds.nodup⟩
        exact (hbuilds.fresh _ hmem).1 hnew
      · refine List.forall_mem_cons.mpr
          ⟨⟨heap.not_valid_alloc (heap.load range.values), hbuilds.keeps.valid _ hnew⟩, ?_⟩
        intro ref hmem
        obtain ⟨hnot, hafter⟩ := hbuilds.fresh ref hmem
        exact ⟨fun hbefore => hnot (halloc.valid ref hbefore), hafter⟩

end RangeObject

namespace AreaObject

theorem refs_ofBlocks (heap : Heap α) (blocks : List BlockObject) :
    (ofBlocks heap blocks).refs.Perm (blocks.map BlockObject.values) :=
  (List.perm_insertionSort _ blocks).map BlockObject.values

theorem indexBlocks_load (heap : Heap α) (blocks : List BlockObject) :
    DataArea.indexBlocks (blocks.map (BlockObject.load heap)) = indexBlocks heap blocks := by
  rw [DataArea.indexBlocks, indexBlocks, List.zipIdx_map, List.filter_map, List.map_map,
    List.map_map]
  rfl

theorem load_ofBlocks (heap : Heap α) (blocks : List BlockObject) :
    (ofBlocks heap blocks).load heap = DataArea.ofBlocks (blocks.map (BlockObject.load heap)) := by
  have hsorted : (sortBlocks blocks).map (BlockObject.load heap) =
      DataArea.sortBlocks (blocks.map (BlockObject.load heap)) :=
    List.map_insertionSort _ _ _ blocks fun _ _ _ _ => Iff.rfl
  rw [DataArea.ofBlocks, ← hsorted, indexBlocks_load]
  rfl

end AreaObject

namespace StoreObject

variable {objects : ListObjects} {holdingRegisters inputRegisters coils discreteInputs :
    List BlockObject}
  {store other : StoreObject}

def ofBlocks (objects : ListObjects)
    (holdingRegisters inputRegisters coils discreteInputs : List BlockObject) : StoreObject :=
  ⟨.ofBlocks objects.registers holdingRegisters, .ofBlocks objects.registers inputRegisters,
    .ofBlocks objects.bits coils, .ofBlocks objects.bits discreteInputs⟩

/-- The constructor fails as the one over values does, or gives the datastore with those values. -/
theorem init_cases (objects : ListObjects)
    (holdingRegisters inputRegisters coils discreteInputs : List BlockObject) :
    (∃ error, init objects holdingRegisters inputRegisters coils discreteInputs = .error error ∧
      MemoryDataStore.init (holdingRegisters.map (BlockObject.load objects.registers))
        (inputRegisters.map (BlockObject.load objects.registers))
        (coils.map (BlockObject.load objects.bits))
        (discreteInputs.map (BlockObject.load objects.bits)) = .error error) ∨
    init objects holdingRegisters inputRegisters coils discreteInputs =
        .ok (ofBlocks objects holdingRegisters inputRegisters coils discreteInputs) ∧
      MemoryDataStore.init (holdingRegisters.map (BlockObject.load objects.registers))
        (inputRegisters.map (BlockObject.load objects.registers))
        (coils.map (BlockObject.load objects.bits))
        (discreteInputs.map (BlockObject.load objects.bits)) =
      .ok
        ((ofBlocks objects holdingRegisters inputRegisters coils discreteInputs).load objects) := by
  have hvalues : MemoryDataStore.init (holdingRegisters.map (BlockObject.load objects.registers))
      (inputRegisters.map (BlockObject.load objects.registers))
      (coils.map (BlockObject.load objects.bits))
      (discreteInputs.map (BlockObject.load objects.bits)) = (do
        let store :=
          (ofBlocks objects holdingRegisters inputRegisters coils discreteInputs).load objects
        validateNoOverlappingBlocks store.holdingRegisters.blocks
        validateNoOverlappingBlocks store.inputRegisters.blocks
        validateNoOverlappingBlocks store.coils.blocks
        validateNoOverlappingBlocks store.discreteInputs.blocks
        return store) := by
    rw [ofBlocks, load, AreaObject.load_ofBlocks, AreaObject.load_ofBlocks,
      AreaObject.load_ofBlocks, AreaObject.load_ofBlocks]
    rfl
  rw [init, hvalues, ← ofBlocks]
  dsimp only
  generalize ofBlocks objects holdingRegisters inputRegisters coils discreteInputs = store
  cases validateNoOverlappingBlocks (store.load objects).holdingRegisters.blocks with
  | error error => exact .inl ⟨error, rfl, rfl⟩
  | ok _ =>
      cases validateNoOverlappingBlocks (store.load objects).inputRegisters.blocks with
      | error error => exact .inl ⟨error, rfl, rfl⟩
      | ok _ =>
          cases validateNoOverlappingBlocks (store.load objects).coils.blocks with
          | error error => exact .inl ⟨error, rfl, rfl⟩
          | ok _ =>
              cases validateNoOverlappingBlocks (store.load objects).discreteInputs.blocks with
              | error error => exact .inl ⟨error, rfl, rfl⟩
              | ok _ => exact .inr ⟨rfl, rfl⟩

structure New (before : ListObjects) (store : StoreObject) (after : ListObjects) : Prop where
  owns : store.Owns after
  registers : ∀ ref ∈ store.registerRefs, ¬before.registers.Valid ref
  bits : ∀ ref ∈ store.bitRefs, ¬before.bits.Valid ref

theorem new_ofBlocks {before : ListObjects}
    (hregisters : (holdingRegisters.map BlockObject.values ++
        inputRegisters.map BlockObject.values).Nodup ∧
      ∀ ref ∈ holdingRegisters.map BlockObject.values ++ inputRegisters.map BlockObject.values,
        ¬before.registers.Valid ref ∧ objects.registers.Valid ref)
    (hbits : (coils.map BlockObject.values ++ discreteInputs.map BlockObject.values).Nodup ∧
      ∀ ref ∈ coils.map BlockObject.values ++ discreteInputs.map BlockObject.values,
        ¬before.bits.Valid ref ∧ objects.bits.Valid ref) :
    (ofBlocks objects holdingRegisters inputRegisters coils discreteInputs).New before objects := by
  have hregistersPerm : (ofBlocks objects holdingRegisters inputRegisters coils
      discreteInputs).registerRefs.Perm
        (holdingRegisters.map BlockObject.values ++ inputRegisters.map BlockObject.values) :=
    (AreaObject.refs_ofBlocks _ _).append (AreaObject.refs_ofBlocks _ _)
  have hbitsPerm : (ofBlocks objects holdingRegisters inputRegisters coils
      discreteInputs).bitRefs.Perm
        (coils.map BlockObject.values ++ discreteInputs.map BlockObject.values) :=
    (AreaObject.refs_ofBlocks _ _).append (AreaObject.refs_ofBlocks _ _)
  exact ⟨⟨hregistersPerm.nodup_iff.mpr hregisters.1, hbitsPerm.nodup_iff.mpr hbits.1,
    fun ref href => (hregisters.2 ref (hregistersPerm.mem_iff.mp href)).2,
    fun ref href => (hbits.2 ref (hbitsPerm.mem_iff.mp href)).2⟩,
    fun ref href => (hregisters.2 ref (hregistersPerm.mem_iff.mp href)).1,
    fun ref href => (hbits.2 ref (hbitsPerm.mem_iff.mp href)).1⟩

end StoreObject

namespace RangeObject

variable {ranges others : List RangeObject} {blocks otherBlocks : List BlockObject}
  {middle : Heap α}

theorem Builds.both (h : Builds heap ranges blocks middle)
    (hnext : Builds middle others otherBlocks after) :
    (blocks.map BlockObject.values ++ otherBlocks.map BlockObject.values).Nodup ∧
      ∀ ref ∈ blocks.map BlockObject.values ++ otherBlocks.map BlockObject.values,
        ¬heap.Valid ref ∧ after.Valid ref := by
  constructor
  · refine List.nodup_append.mpr ⟨h.nodup, hnext.nodup, ?_⟩
    rintro ref hmem _ hother rfl
    exact (hnext.fresh ref hother).1 (h.fresh ref hmem).2
  · refine List.forall_mem_append.mpr ⟨fun ref hmem => ?_, fun ref hmem => ?_⟩
    · exact ⟨(h.fresh ref hmem).1, hnext.keeps.valid ref (h.fresh ref hmem).2⟩
    · obtain ⟨hnot, hvalid⟩ := hnext.fresh ref hmem
      exact ⟨fun hbefore => hnot (h.keeps.valid ref hbefore), hvalid⟩

/-- The first blocks still hold what their ranges held, and the second ones what theirs did
before. -/
theorem Builds.loads (h : Builds heap ranges blocks middle)
    (hnext : Builds middle others otherBlocks after)
    (hvalid : ∀ range ∈ others, heap.Valid range.values) :
    blocks.map (BlockObject.load after) = (ranges.map (RangeObject.load heap)).map
      ValueRange.toBlock ∧ otherBlocks.map (BlockObject.load after) =
        (others.map (RangeObject.load heap)).map ValueRange.toBlock := by
  constructor
  · rw [← h.load]
    refine List.map_congr_left fun block hblock => ?_
    rw [BlockObject.load, hnext.keeps.load _ (h.fresh _ (List.mem_map_of_mem hblock)).2 trivial,
      BlockObject.load]
  · rw [hnext.load]
    refine congrArg _ (List.map_congr_left fun range hrange => ?_)
    rw [RangeObject.load, h.keeps.load _ (hvalid range hrange) trivial, RangeObject.load]

end RangeObject

namespace ProfileObject

structure Valid (objects : ListObjects) (profile : ProfileObject) : Prop where
  registers : ∀ range ∈ profile.holdingRegisters ++ profile.inputRegisters,
    objects.registers.Valid range.values
  bits : ∀ range ∈ profile.coils ++ profile.discreteInputs, objects.bits.Valid range.values

/-- A datastore built from a profile holds what the lists of the profile hold, in lists of its
own. -/
theorem toDatastore_cases {objects : ListObjects} {profile : ProfileObject}
    (hvalid : profile.Valid objects) :
    ∃ outcome after, profile.toDatastore objects = (outcome, after) ∧
      Heap.Keeps (fun _ => True) objects.registers after.registers ∧
      Heap.Keeps (fun _ => True) objects.bits after.bits ∧
      ∀ store, outcome = .ok store →
        (profile.load objects).toDatastore = .ok (store.load after) ∧ store.New objects after := by
  obtain ⟨hholding, hinput⟩ := List.forall_mem_append.mp hvalid.registers
  obtain ⟨hcoils, hdiscrete⟩ := List.forall_mem_append.mp hvalid.bits
  have hfirst := RangeObject.builds_toBlocks _ hholding
  have hsecond := RangeObject.builds_toBlocks _ fun range hrange =>
    hfirst.keeps.valid _ (hinput range hrange)
  have hthird := RangeObject.builds_toBlocks _ hcoils
  have hfourth := RangeObject.builds_toBlocks _ fun range hrange =>
    hthird.keeps.valid _ (hdiscrete range hrange)
  refine ⟨_, _, rfl, hfirst.keeps.trans hsecond.keeps, hthird.keeps.trans hfourth.keeps, ?_⟩
  intro store hstore
  obtain ⟨hholdingLoad, hinputLoad⟩ := hfirst.loads hsecond hinput
  obtain ⟨hcoilsLoad, hdiscreteLoad⟩ := hthird.loads hfourth hdiscrete
  rcases StoreObject.init_cases _ _ _ _ _ with ⟨error, herror, -⟩ | ⟨hinit, hvalues⟩
  · cases herror.symm.trans hstore
  · cases hinit.symm.trans hstore
    refine ⟨?_, StoreObject.new_ofBlocks (hfirst.both hsecond) (hthird.both hfourth)⟩
    rw [SimulatorProfile.toDatastore, load]
    dsimp only
    rw [← hholdingLoad, ← hinputLoad, ← hcoilsLoad, ← hdiscreteLoad]
    exact hvalues

end ProfileObject

namespace Application

variable {server : ModbusTcpServer} {application next : Application} {start : ListObjects}

structure Apart (left right : StoreObject) : Prop where
  registers : ∀ ref ∈ left.registerRefs, ref ∉ right.registerRefs
  bits : ∀ ref ∈ left.bitRefs, ref ∉ right.bitRefs

theorem Apart.symm {left right : StoreObject} (h : Apart left right) : Apart right left :=
  ⟨fun ref hright hleft => h.registers ref hleft hright, fun ref hright hleft =>
    h.bits ref hleft hright⟩

/-- The simulator holds what a datastore of values holds after the same operations, from what its
profile held when it was built, and it has answered alike. -/
def Alone (server : ModbusTcpServer) (application : Application) (index : Nat)
    (store : StoreObject) :
    Prop :=
  ∃ profile initial, application.profiles[index]? = some profile ∧
    profile.toDatastore = .ok initial ∧
    Machine.run server.perform initial ((application.performed index).map Prod.fst) =
      ((application.performed index).map Prod.snd, store.load application.objects)

structure Invariant (server : ModbusTcpServer) (application : Application) : Prop where
  owns : ∀ store ∈ application.simulators, store.Owns application.objects
  apart : application.simulators.Pairwise Apart
  length : application.profiles.length = application.simulators.length
  alone : ∀ index store, application.simulators[index]? = some store →
    Alone server application index store
  unperformed : ∀ index, application.simulators.length ≤ index → application.performed index = []

theorem invariant_fresh (objects : ListObjects) : (fresh objects).Invariant server := by
  refine ⟨fun _ hmem => absurd hmem List.not_mem_nil, .nil, rfl, ?_, fun _ _ => rfl⟩
  intro index store hstore
  cases hstore

/-- Changes of lists that are no block's are seen by no simulator. -/
theorem Invariant.withObjects (h : application.Invariant server) {objects : ListObjects}
    {registersKept bitsKept : Heap.Ref → Prop}
    (hregisters : Heap.Keeps registersKept application.objects.registers objects.registers)
    (hbits : Heap.Keeps bitsKept application.objects.bits objects.bits)
    (hregistersKept : ∀ store ∈ application.simulators, ∀ ref ∈ store.registerRefs,
      registersKept ref)
    (hbitsKept : ∀ store ∈ application.simulators, ∀ ref ∈ store.bitRefs, bitsKept ref) :
    Invariant server { application with objects } := by
  refine ⟨fun store hstore => ?_, h.apart, h.length, fun index store hstore => ?_, h.unperformed⟩
  · have howns := h.owns store hstore
    exact ⟨howns.registers, howns.bits, fun ref href =>
      hregisters.valid ref (howns.registersValid ref href), fun ref href =>
        hbits.valid ref (howns.bitsValid ref href)⟩
  · have hmem := List.mem_of_getElem? hstore
    obtain ⟨profile, initial, hprofile, hinitial, hrun⟩ := h.alone index store hstore
    refine ⟨profile, initial, hprofile, hinitial, hrun.trans ?_⟩
    rw [StoreObject.load_of_keeps (h.owns store hmem) hregisters hbits (hregistersKept store hmem)
      (hbitsKept store hmem)]
    rfl

theorem filterMap_built (history : List ApplicationEvent) (profile : SimulatorProfile)
    (index : Nat) :
    (history ++ [ApplicationEvent.built profile]).filterMap (ofPerformed index) =
      history.filterMap (ofPerformed index) :=
  List.filterMap_append.trans (List.append_nil _)

theorem filterMap_performed (history : List ApplicationEvent) (index other : Nat)
    (operation : Operation) (output : Output) :
    (history ++ [ApplicationEvent.performed index operation output]).filterMap (ofPerformed other) =
      history.filterMap (ofPerformed other) ++
        if index = other then [(operation, output)] else [] := by
  refine List.filterMap_append.trans (congrArg _ ?_)
  by_cases heq : index = other
  · rw [if_pos heq]
    exact List.filterMap_cons_some (if_pos heq)
  · rw [if_neg heq]
    exact List.filterMap_cons_none (if_neg heq)

theorem apart_of_ne {simulators : List StoreObject} (h : simulators.Pairwise Apart)
    {index other : Nat} (hne : index ≠ other) {left right : StoreObject}
    (hleft : simulators[index]? = some left) (hright : simulators[other]? = some right) :
    Apart left right := by
  obtain ⟨hindex, rfl⟩ := List.getElem?_eq_some_iff.mp hleft
  obtain ⟨hother, rfl⟩ := List.getElem?_eq_some_iff.mp hright
  rcases Nat.lt_or_gt_of_ne hne with hlt | hgt
  · exact List.pairwise_iff_getElem.mp h index other hindex hother hlt
  · exact (List.pairwise_iff_getElem.mp h other index hother hindex hgt).symm

theorem Invariant.build (h : application.Invariant server) {profile : ProfileObject}
    (hvalid : profile.Valid application.objects) :
      (application.build profile).Invariant server := by
  obtain ⟨outcome, after, hdatastore, hregisters, hbits, hstore⟩ :=
    ProfileObject.toDatastore_cases hvalid
  have hkept := h.withObjects hregisters hbits (fun _ _ _ _ => trivial) fun _ _ _ _ => trivial
  rw [Application.build, hdatastore]
  cases outcome with
  | error error => exact hkept
  | ok store =>
      obtain ⟨hinitial, hnew⟩ := hstore store rfl
      have hprofiles : (application.history ++
          [ApplicationEvent.built (profile.load application.objects)]).filterMap ofBuilt =
            application.profiles ++ [profile.load application.objects] := List.filterMap_append
      refine ⟨?_, ?_, ?_, ?_, ?_⟩
      · exact List.forall_mem_append.mpr ⟨hkept.owns, List.forall_mem_singleton.mpr hnew.owns⟩
      · refine List.pairwise_append.mpr ⟨hkept.apart, List.pairwise_singleton _ _, ?_⟩
        intro before hbefore added hadded
        obtain rfl := List.mem_singleton.mp hadded
        have howns := h.owns before hbefore
        exact ⟨fun ref href hmem => hnew.registers ref hmem (howns.registersValid ref href),
          fun ref href hmem => hnew.bits ref hmem (howns.bitsValid ref href)⟩
      · rw [profiles, hprofiles, List.length_append, List.length_append, h.length]
        rfl
      · intro index found hfound
        rcases Transition.getElem?_append_singleton hfound with hbefore | ⟨rfl, rfl⟩
        · obtain ⟨before, initial, hprofile, hbeforeInitial, hrun⟩ :=
            hkept.alone index found hbefore
          refine ⟨before, initial, ?_, hbeforeInitial, ?_⟩
          · rw [profiles, hprofiles]
            have hlt : index < application.profiles.length :=
              (List.getElem?_eq_some_iff.mp hprofile).1
            rw [List.getElem?_append_left hlt]
            exact hprofile
          · rw [performed, filterMap_built]
            exact hrun
        · refine ⟨_, _, ?_, hinitial, ?_⟩
          · rw [profiles, hprofiles, ← h.length, List.getElem?_concat_length]
          · rw [performed, filterMap_built, ← performed, h.unperformed _ (Nat.le_refl _)]
            rfl
      · intro index hindex
        rw [List.length_append] at hindex
        rw [performed, filterMap_built]
        exact h.unperformed index (Nat.le_of_succ_le hindex)

theorem Invariant.perform (h : application.Invariant server) {index : Nat} {store : StoreObject}
    (hstore : application.simulators[index]? = some store) (operation : Operation) :
    Invariant server { application with
      objects := (store.perform server application.objects operation).2
      history := application.history ++
        [.performed index operation (store.perform server application.objects operation).1] } := by
  have hmem := List.mem_of_getElem? hstore
  obtain ⟨houtput, htracks⟩ := StoreObject.perform_tracks (h.owns store hmem) server operation
  have hprofiles : (application.history ++ [ApplicationEvent.performed index operation
      (store.perform server application.objects operation).1]).filterMap ofBuilt =
        application.profiles := List.filterMap_append.trans (List.append_nil _)
  refine ⟨fun found hfound => ?_, h.apart, ?_, fun other found hfound => ?_, fun other hother => ?_⟩
  · have howns := h.owns found hfound
    exact ⟨howns.registers, howns.bits, fun ref href =>
      htracks.registers.valid ref (howns.registersValid ref href), fun ref href =>
        htracks.bits.valid ref (howns.bitsValid ref href)⟩
  · rw [profiles, hprofiles]
    exact h.length
  · obtain ⟨profile, initial, hprofile, hinitial, hrun⟩ := h.alone other found hfound
    refine ⟨profile, initial, ?_, hinitial, ?_⟩
    · rw [profiles, hprofiles]
      exact hprofile
    · rw [performed, filterMap_performed]
      by_cases heq : index = other
      · subst heq
        cases hstore.symm.trans hfound
        rw [if_pos rfl, List.map_append, List.map_append, Machine.run_append]
        rw [performed] at hrun
        rw [hrun, htracks.load, houtput]
        rfl
      · have hapart := apart_of_ne h.apart (Ne.symm heq) hfound hstore
        rw [if_neg heq, List.append_nil]
        refine hrun.trans (congrArg (Prod.mk _) ?_)
        exact (StoreObject.load_of_keeps (h.owns found (List.mem_of_getElem? hfound))
          htracks.registers htracks.bits hapart.registers hapart.bits).symm
  · have hlt := (List.getElem?_eq_some_iff.mp hstore).1
    have hne : index ≠ other := Nat.ne_of_lt (Nat.lt_of_lt_of_le hlt hother)
    rw [performed, filterMap_performed, if_neg hne, List.append_nil]
    exact h.unperformed other hother

theorem invariant_step {action : ApplicationAction} (h : application.Invariant server)
    (hpermits : application.Permits action) (hstep : application.step server action = some next) :
    next.Invariant server := by
  cases action with
  | newRegisters values =>
      cases hstep
      exact h.withObjects (Heap.keeps_alloc _ values) (.refl (fun _ => True) _)
        (fun _ _ _ _ => trivial) fun _ _ _ _ => trivial
  | newBits values =>
      cases hstep
      exact h.withObjects (.refl (fun _ => True) _) (Heap.keeps_alloc _ values)
        (fun _ _ _ _ => trivial) fun _ _ _ _ => trivial
  | changeRegisters ref values =>
      cases hstep
      have hkeeps : Heap.Keeps (· ≠ ref) application.objects.registers _ :=
        Heap.keeps_update _ values fun hnot => hnot rfl
      refine h.withObjects hkeeps (.refl (fun _ => True) _) (fun store hstore other hother => ?_)
        fun _ _ _ _ => trivial
      rintro rfl
      exact hpermits store hstore hother
  | changeBits ref values =>
      cases hstep
      have hkeeps : Heap.Keeps (· ≠ ref) application.objects.bits _ :=
        Heap.keeps_update _ values fun hnot => hnot rfl
      refine h.withObjects (.refl (fun _ => True) _) hkeeps (fun _ _ _ _ => trivial)
        fun store hstore other hother => ?_
      rintro rfl
      exact hpermits store hstore hother
  | fromProfile profile =>
      cases hstep
      exact h.build ⟨hpermits.1, hpermits.2⟩
  | perform index operation =>
      obtain ⟨store, hstore, rfl⟩ := Option.map_eq_some_iff.mp hstep
      exact h.perform hstore operation

/-- **Every simulator is alone.** Whatever lists an application shares between the ranges of its
profiles and between simulators, and whatever it does to them and to the lists that reads return,
each simulator answers as a datastore that was built from what its profile held and has seen its own
operations only. -/
theorem simulators_alone (server : ModbusTcpServer) (start : ListObjects)
    (application : Application)
    (h : Transition.Reaches (step server) Permits (fresh start) application) (index : Nat)
    (store : StoreObject) (hstore : application.simulators[index]? = some store) :
    ∃ profile initial, application.profiles[index]? = some profile ∧
      profile.toDatastore = .ok initial ∧
      Machine.run server.perform initial ((application.performed index).map Prod.fst) =
        ((application.performed index).map Prod.snd, store.load application.objects) := by
  have hinvariant : application.Invariant server :=
    h.invariant (invariant_fresh start) fun _ _ _ hinv hguard hnext =>
      invariant_step hinv hguard hnext
  exact hinvariant.alone index store hstore

/-- One list for two ranges, changed between two simulators, and a returned list that is changed. -/
theorem simulators_alone_shared_list :
    ∃ application : Application, application.simulators.map (fun store =>
        ((store.load application.objects).holdingRegisters.blocks.map DataBlock.values,
          (store.load application.objects).inputRegisters.blocks.map DataBlock.values)) =
      [([[7, 2]], [[1, 2]]), ([[9, 9]], [[9, 9]])] ∧
      ∀ store, application.simulators[0]? = some store → ∃ profile initial,
        application.profiles[0]? = some profile ∧ profile.toDatastore = .ok initial ∧
        Machine.run (ModbusTcpServer.perform ⟨.empty⟩) initial
            ((application.performed 0).map Prod.fst) =
          ((application.performed 0).map Prod.snd, store.load application.objects) := by
  have hrun : ∃ application ∈ Transition.run (step ⟨.empty⟩) Permits (fresh ⟨⟨[[1, 2]]⟩, ⟨[]⟩⟩)
      [.fromProfile ⟨[⟨0, 0, false⟩], [⟨0, 0, false⟩], [], []⟩, .changeRegisters 0 [9, 9],
        .fromProfile ⟨[⟨0, 0, false⟩], [⟨0, 0, false⟩], [], []⟩,
        .perform 0 (.setHoldingRegisters 0 [.int 7]), .perform 0 (.getHoldingRegisters 0 2),
        .changeRegisters 5 [0, 0],
        .perform 1 (.request ⟨.readHoldingRegisters ⟨0, 2, by decide, by decide⟩, trivial⟩)],
      application.simulators.map (fun store =>
        ((store.load application.objects).holdingRegisters.blocks.map DataBlock.values,
          (store.load application.objects).inputRegisters.blocks.map DataBlock.values)) =
      [([[7, 2]], [[1, 2]]), ([[9, 9]], [[9, 9]])] := by decide +kernel
  obtain ⟨application, happlication, hvalues⟩ := hrun
  exact ⟨application, hvalues, simulators_alone ⟨.empty⟩ _ application
    (Transition.reaches_of_run .refl happlication) 0⟩

end Application

end ClearModbus
