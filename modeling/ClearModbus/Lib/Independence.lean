import ClearModbus.Lib.Machine
import Mathlib.Data.List.Perm.Subperm

/-!
# Independent operations

An operation looks at some cells of a state and changes some. Two operations neither of which
changes what the other looks at or changes are independent: either can be taken first. Two orders of
the same operations that agree on the dependent ones therefore answer alike and end alike.
-/

namespace Independence

variable {σ ι ο κ ν τ : Type*}

structure View (σ κ ν τ : Type*) where
  cell : σ → κ → ν
  frame : σ → τ
  ext : ∀ left right, frame left = frame right → cell left = cell right → left = right

/-- The cells an operation looks at, and those it changes. -/
structure Footprint (κ : Type*) where
  reads : Set κ
  writes : Set κ

structure View.Agree (view : View σ κ ν τ) (cells : Set κ) (left right : σ) : Prop where
  frame : view.frame left = view.frame right
  cell : ∀ key ∈ cells, view.cell left key = view.cell right key

/-- The operation keeps to its footprint: nothing else is changed, and the answer and the changes
depend on nothing but the frame and the cells it looks at. -/
structure Within (view : View σ κ ν τ) (operation : σ → ο × σ) (footprint : Footprint κ) :
    Prop where
  frame : ∀ state, view.frame (operation state).2 = view.frame state
  kept : ∀ state, ∀ key ∉ footprint.writes,
    view.cell (operation state).2 key = view.cell state key
  answer : ∀ left right, view.Agree footprint.reads left right →
    (operation left).1 = (operation right).1
  changed : ∀ left right, view.Agree footprint.reads left right → ∀ key,
    view.cell (operation left).2 key = view.cell (operation right).2 key ∨
      view.cell (operation left).2 key = view.cell left key ∧
        view.cell (operation right).2 key = view.cell right key

structure Footprint.Independent (left right : Footprint κ) : Prop where
  left_writes : ∀ key ∈ left.writes, key ∉ right.reads ∧ key ∉ right.writes
  right_writes : ∀ key ∈ right.writes, key ∉ left.reads ∧ key ∉ left.writes

theorem Footprint.Independent.symm {left right : Footprint κ} (h : left.Independent right) :
    right.Independent left := ⟨h.right_writes, h.left_writes⟩

variable {view : View σ κ ν τ} {first second : σ → ο × σ} {left right : Footprint κ}

theorem Within.agree (h : Within view first left) (hindependent : left.Independent right)
    (state : σ) :
    view.Agree right.reads (first state).2 state where
  frame := h.frame state
  cell := fun key hkey => h.kept state key fun hwritten =>
    (hindependent.left_writes key hwritten).1 hkey

/-- A cell that the first operation changes is left alone by the second one, whichever comes
first. -/
theorem Within.cell_comm (hfirst : Within view first left) (hsecond : Within view second right)
    (hindependent : left.Independent right) (state : σ) (key : κ) (hkey : key ∉ right.writes) :
    view.cell (second (first state).2).2 key = view.cell (first (second state).2).2 key := by
  have hstate : view.cell (second state).2 key = view.cell state key := hsecond.kept state key hkey
  rw [hsecond.kept _ key hkey]
  rcases hfirst.changed state (second state).2 (by
      obtain ⟨hframe, hcell⟩ := hsecond.agree hindependent.symm state
      exact ⟨hframe.symm, fun other hother => (hcell other hother).symm⟩) key with
    hsame | ⟨hbefore, hafter⟩
  · exact hsame
  · rw [hbefore, hafter, hstate]

/-- Independent operations can be taken in either order. -/
theorem Within.comm (hfirst : Within view first left) (hsecond : Within view second right)
    (hindependent : left.Independent right) (state : σ) :
    (second (first state).2).1 = (second state).1 ∧
      (first (second state).2).1 = (first state).1 ∧
      (second (first state).2).2 = (first (second state).2).2 := by
  refine ⟨hsecond.answer _ _ (hfirst.agree hindependent state),
    hfirst.answer _ _ (hsecond.agree hindependent.symm state), view.ext _ _ ?_ ?_⟩
  · rw [hsecond.frame, hfirst.frame, hfirst.frame, hsecond.frame]
  · funext key
    by_cases hkey : key ∈ right.writes
    · exact (hsecond.cell_comm hfirst hindependent.symm state key
        (hindependent.right_writes key hkey).2).symm
    · exact hfirst.cell_comm hsecond hindependent state key hkey

variable {step : σ → ι → ο × σ}

def answers (step : σ → ι → ο × σ) (state : σ) (order : List ι) : List (ι × ο) :=
  order.zip (Machine.run step state order).1

theorem answers_cons (state : σ) (input : ι) (order : List ι) :
    answers step state (input :: order) =
      (input, (step state input).1) :: answers step (step state input).2 order := rfl

def Commute (step : σ → ι → ο × σ) (input other : ι) : Prop :=
  ∀ state, (step (step state input).2 other).1 = (step state other).1 ∧
    (step (step state other).2 input).1 = (step state input).1 ∧
    (step (step state input).2 other).2 = (step (step state other).2 input).2

/-- An input that commutes with all that come before it can be taken first. -/
theorem answers_move {input : ι} {front : List ι}
    (hcommute : ∀ other ∈ front, Commute step other input) (back : List ι) (state : σ) :
    (answers step state (front ++ input :: back)).Perm
        (answers step state (input :: (front ++ back))) ∧
      (Machine.run step state (front ++ input :: back)).2 =
        (Machine.run step state (input :: (front ++ back))).2 := by
  induction front generalizing state with
  | nil => exact ⟨.refl _, rfl⟩
  | cons head front ih =>
      obtain ⟨hinput, hhead, hstate⟩ := hcommute head List.mem_cons_self state
      obtain ⟨hanswers, hfinal⟩ := ih (fun other hother =>
        hcommute other (List.mem_cons_of_mem _ hother)) (step state head).2
      rw [List.cons_append, List.cons_append]
      constructor
      · rw [answers_cons]
        refine (hanswers.cons _).trans ?_
        rw [answers_cons, answers_cons, answers_cons, hinput, hstate, hhead]
        exact .swap _ _ _
      · rw [Machine.run_cons, hfinal, Machine.run_cons, Machine.run_cons, Machine.run_cons, hstate]

theorem Commute.symm {input other : ι} (h : Commute step input other) : Commute step other input :=
  fun state => ⟨(h state).2.1, (h state).1, (h state).2.2.symm⟩

theorem mem_of_sublist {input other : ι} {front back : List ι}
    (hnodup : (front ++ input :: back).Nodup)
    (h : [input, other].Sublist (front ++ input :: back)) :
    other ∈ back := by
  obtain ⟨left, right, hsplit, hleft, hright⟩ := List.sublist_append_iff.mp h
  have hinput : input ∉ front := fun hmem =>
    (List.nodup_append.mp hnodup).2.2 input hmem input List.mem_cons_self rfl
  cases left with
  | nil =>
      rw [List.nil_append] at hsplit
      rw [← hsplit] at hright
      exact List.singleton_sublist.mp (List.cons_sublist_cons.mp hright)
  | cons head left =>
      obtain ⟨rfl, -⟩ := List.cons.inj hsplit
      exact absurd (hleft.subset List.mem_cons_self) hinput

/-- Two orders of the same inputs that agree on those that do not commute answer alike and end in
the same state. -/
theorem answers_perm {first second : List ι} (hnodup : first.Nodup) (hperm : first.Perm second)
    (horder : ∀ input other, ¬Commute step input other → [input, other].Sublist second →
      [input, other].Sublist first) (state : σ) :
    (answers step state first).Perm (answers step state second) ∧
      (Machine.run step state first).2 = (Machine.run step state second).2 := by
  classical
  induction second generalizing first state with
  | nil =>
      rw [hperm.eq_nil]
      exact ⟨.refl _, rfl⟩
  | cons input second ih =>
      obtain ⟨front, back, rfl⟩ := List.append_of_mem (hperm.mem_iff.mpr List.mem_cons_self)
      have hrest : (front ++ back).Perm second :=
        (List.perm_middle.symm.trans hperm).cons_inv
      obtain ⟨hinput, hrestNodup⟩ := List.nodup_cons.mp (List.perm_middle.nodup_iff.mp hnodup)
      have hfront : ∀ other ∈ front, Commute step other input := by
        intro other hother
        by_contra hcommute
        have hsecond : other ∈ second := hrest.mem_iff.mp (List.mem_append_left _ hother)
        have hback := mem_of_sublist hnodup (horder input other (mt Commute.symm hcommute)
          (List.cons_sublist_cons.mpr (List.singleton_sublist.mpr hsecond)))
        exact (List.nodup_append.mp hrestNodup).2.2 other hother other hback rfl
      have hkept : ∀ left right, ¬Commute step left right → [left, right].Sublist second →
          [left, right].Sublist (front ++ back) := by
        intro left right hcommute hsublist
        have hmem : ∀ other ∈ [left, right], other ≠ input := fun other hother heq =>
          hinput (hrest.mem_iff.mpr (heq ▸ hsublist.subset hother))
        have herased := (horder left right hcommute (hsublist.cons input)).erase input
        rwa [List.erase_of_not_mem fun hmember => hmem _ hmember rfl,
          List.erase_append_right _ fun hmember => hinput (List.mem_append_left _ hmember),
          List.erase_cons_head] at herased
      obtain ⟨hmove, hmoved⟩ := answers_move hfront back state
      obtain ⟨hanswers, hfinal⟩ := ih hrestNodup hrest hkept (step state input).2
      constructor
      · refine hmove.trans ?_
        rw [answers_cons, answers_cons]
        exact hanswers.cons _
      · rw [hmoved, Machine.run_cons, Machine.run_cons, hfinal]

end Independence
