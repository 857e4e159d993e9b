import Mathlib.Tactic

/-!
# List objects and references

A heap holds the list objects of a program, each under the reference it got when it was created. New
lists are added behind the old ones, so that a reference stays valid; what a list holds changes in
place.
-/

variable {α : Type*}

structure Heap (α : Type*) where
  lists : List (List α)
  deriving DecidableEq

namespace Heap

abbrev Ref := Nat

variable {heap middle after : Heap α} {ref other : Ref} {kept : Ref → Prop}

def Valid (heap : Heap α) (ref : Ref) : Prop := ref < heap.lists.length

instance (heap : Heap α) : DecidablePred heap.Valid := fun ref =>
  inferInstanceAs (Decidable (ref < heap.lists.length))

def load (heap : Heap α) (ref : Ref) : List α := heap.lists[ref]?.getD []

def alloc (heap : Heap α) (values : List α) : Ref × Heap α :=
  (heap.lists.length, ⟨heap.lists ++ [values]⟩)

def update (heap : Heap α) (ref : Ref) (values : List α) : Heap α := ⟨heap.lists.set ref values⟩

theorem valid_alloc (heap : Heap α) (values : List α) :
    (heap.alloc values).2.Valid (heap.alloc values).1 := by
  rw [Valid, alloc, List.length_append]
  exact Nat.lt_succ_self _

theorem not_valid_alloc (heap : Heap α) (values : List α) : ¬heap.Valid (heap.alloc values).1 :=
  Nat.lt_irrefl _

theorem load_alloc (heap : Heap α) (values : List α) :
    (heap.alloc values).2.load (heap.alloc values).1 = values := by
  rw [load, alloc, List.getElem?_concat_length, Option.getD_some]

theorem load_update (h : heap.Valid ref) (values : List α) :
    (heap.update ref values).load ref = values := by
  rw [load, update, List.getElem?_set_self h, Option.getD_some]

theorem load_update_of_ne (h : ref ≠ other) (values : List α) :
    (heap.update ref values).load other = heap.load other := by
  rw [load, update, List.getElem?_set_ne h, load]

/-- The lists under the kept references hold what they held, and no list is lost. -/
structure Keeps (kept : Ref → Prop) (heap after : Heap α) : Prop where
  valid : ∀ ref, heap.Valid ref → after.Valid ref
  load : ∀ ref, heap.Valid ref → kept ref → after.load ref = heap.load ref

theorem Keeps.refl (kept : Ref → Prop) (heap : Heap α) : Keeps kept heap heap :=
  ⟨fun _ h => h, fun _ _ _ => rfl⟩

theorem Keeps.trans (h : Keeps kept heap middle) (hnext : Keeps kept middle after) :
    Keeps kept heap after :=
  ⟨fun ref hvalid => hnext.valid ref (h.valid ref hvalid), fun ref hvalid hkept =>
    (hnext.load ref (h.valid ref hvalid) hkept).trans (h.load ref hvalid hkept)⟩

theorem keeps_alloc (heap : Heap α) (values : List α) : Keeps kept heap (heap.alloc values).2 where
  valid ref hvalid := by
    rw [Valid, alloc, List.length_append]
    exact Nat.lt_succ_of_lt hvalid
  load ref hvalid _ := by
    rw [load, alloc, List.getElem?_append_left hvalid, load]

theorem keeps_update (heap : Heap α) (values : List α) (h : ¬kept ref) :
    Keeps kept heap (heap.update ref values) where
  valid other hvalid := by
    rw [Valid, update, List.length_set]
    exact hvalid
  load other _ hkept := by
    refine load_update_of_ne ?_ values
    rintro rfl
    exact h hkept

/-- Of holders of distinct lists only the one whose list changes sees something else. -/
theorem map_load_update {ι β : Type*} {holders : List ι} {holder : ι} {refOf : ι → Ref}
    (see : ι → List α → β) (hnodup : (holders.map refOf).Nodup) {index : Nat}
    (hindex : holders[index]? = some holder) (hvalid : heap.Valid (refOf holder))
    (values : List α) :
    (holders.map fun item => see item ((heap.update (refOf holder) values).load (refOf item))) =
      (holders.map fun item => see item (heap.load (refOf item))).set index
        (see holder values) := by
  refine List.ext_getElem? fun position => ?_
  obtain ⟨hlt, -⟩ := List.getElem?_eq_some_iff.mp hindex
  rw [List.getElem?_map, List.getElem?_set, List.length_map]
  by_cases heq : index = position
  · subst heq
    rw [if_pos rfl, if_pos hlt, hindex, Option.map_some, load_update hvalid]
  · rw [if_neg heq, List.getElem?_map]
    cases hposition : holders[position]? with
    | none => rfl
    | some other =>
        have hne : refOf holder ≠ refOf other := by
          intro hsame
          have hlookup : (holders.map refOf)[index]? = (holders.map refOf)[position]? := by
            rw [List.getElem?_map, hindex, List.getElem?_map, hposition, Option.map_some,
              Option.map_some, hsame]
          exact heq ((List.getElem?_inj (by rwa [List.length_map]) hnodup).mp hlookup)
        rw [Option.map_some, Option.map_some, load_update_of_ne hne]

end Heap
