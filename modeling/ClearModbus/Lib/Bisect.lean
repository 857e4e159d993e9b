import Mathlib.Tactic
import Mathlib.Order.Defs.LinearOrder

/-!
# Right bisection

On a sorted list, the loop returns the number of entries not above the target. The window invariant
is that everything left of `low` is at most the target and everything from `high` on is above it.
-/

namespace Bisect

variable {α : Type*} [LinearOrder α]

/-- The loop on the window `[low, high)`; the last branch is never taken when `high` is at most the
length of the list. -/
def rightLoop (values : List α) (target : α) (low high : Nat) : Nat :=
  if low < high then
    match values[(low + high) / 2]? with
    | some value =>
        if target < value then rightLoop values target low ((low + high) / 2)
        else rightLoop values target ((low + high) / 2 + 1) high
    | none => low
  else low
termination_by high - low

def right (values : List α) (target : α) : Nat := rightLoop values target 0 values.length

def Separates (values : List α) (target : α) (cut : Nat) : Prop :=
  cut ≤ values.length ∧
    (∀ index (h : index < values.length), index < cut → values[index] ≤ target) ∧
    ∀ index (h : index < values.length), cut ≤ index → target < values[index]

theorem Separates.unique {values : List α} {target : α} {left right : Nat}
    (hleft : Separates values target left) (hright : Separates values target right) :
    left = right := by
  obtain ⟨hleftLe, hleftLow, hleftHigh⟩ := hleft
  obtain ⟨hrightLe, hrightLow, hrightHigh⟩ := hright
  rcases lt_trichotomy left right with hlt | heq | hgt
  · have hinside : left < values.length := by omega
    exact absurd (hleftHigh left hinside le_rfl) (not_lt.mpr (hrightLow left hinside hlt))
  · exact heq
  · have hinside : right < values.length := by omega
    exact absurd (hrightHigh right hinside le_rfl) (not_lt.mpr (hleftLow right hinside hgt))

theorem separates_rightLoop {values : List α} {target : α} {low high : Nat}
    (hsorted : values.Pairwise (· ≤ ·)) (hwindow : low ≤ high) (hhigh : high ≤ values.length)
    (hbelow : ∀ index (h : index < values.length), index < low → values[index] ≤ target)
    (habove : ∀ index (h : index < values.length), high ≤ index → target < values[index]) :
    Separates values target (rightLoop values target low high) := by
  have hmono : ∀ i j (hi : i < values.length) (hj : j < values.length), i ≤ j →
      values[i] ≤ values[j] := by
    intro i j hi hj hij
    rcases Nat.lt_or_eq_of_le hij with hlt | rfl
    · exact List.pairwise_iff_getElem.mp hsorted i j hi hj hlt
    · exact le_rfl
  induction low, high using rightLoop.induct values target with
  | case1 low high hlt value hvalue hbefore ih =>
      -- The middle entry is above the target: the window keeps its left half.
      obtain ⟨hmiddle, hget⟩ := List.getElem?_eq_some_iff.mp hvalue
      have hcut := ih (by omega) (by omega) hbelow fun index hindex hle =>
        lt_of_lt_of_le (hget ▸ hbefore) (hmono _ _ hmiddle hindex hle)
      rw [rightLoop]
      simpa [hlt, hvalue, hbefore] using hcut
  | case2 low high hlt value hvalue hafter ih =>
      obtain ⟨hmiddle, hget⟩ := List.getElem?_eq_some_iff.mp hvalue
      have hcut := ih (by omega) hhigh
        (fun index hindex hle =>
          (hmono _ _ hindex hmiddle (by omega)).trans (hget ▸ not_lt.mp hafter)) habove
      rw [rightLoop]
      simpa [hlt, hvalue, hafter] using hcut
  | case3 low high hlt hnone =>
      rw [List.getElem?_eq_none_iff] at hnone
      omega
  | case4 low high hdone =>
      have heq : low = high := by omega
      subst heq
      rw [rightLoop, if_neg hdone]
      exact ⟨hhigh, hbelow, habove⟩

theorem separates_right {values : List α} (hsorted : values.Pairwise (· ≤ ·)) (target : α) :
    Separates values target (right values target) :=
  separates_rightLoop hsorted (Nat.zero_le _) le_rfl (fun _ _ h => absurd h (Nat.not_lt_zero _))
    fun _ hindex hle => absurd hle (not_le.mpr hindex)

/-- The entry before the insertion point is the only one that can be the last not above the
target. -/
theorem right_eq_succ {values : List α} (hsorted : values.Pairwise (· ≤ ·)) {target : α}
    {index : Nat} (hindex : index < values.length) (hle : values[index] ≤ target)
    (hnext : ∀ (h : index + 1 < values.length), target < values[index + 1]) :
    right values target = index + 1 := by
  refine (separates_right hsorted target).unique ⟨by omega, ?_, ?_⟩
  · intro other hother hlt
    rcases Nat.lt_or_eq_of_le (Nat.le_of_lt_succ hlt) with hbefore | rfl
    · exact (List.pairwise_iff_getElem.mp hsorted other index hother hindex hbefore).trans hle
    · exact hle
  · intro other hother hge
    rcases Nat.lt_or_eq_of_le hge with hafter | rfl
    · exact lt_of_lt_of_le (hnext (by omega))
        (List.pairwise_iff_getElem.mp hsorted (index + 1) other (by omega) hother hafter)
    · exact hnext hother

end Bisect
