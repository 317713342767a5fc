import Mathlib.Data.List.Perm.Basic
import Mathlib.Data.List.Count
import Mathlib.Order.Bounds.Defs

/-!
# Choosing from two lists

Two parties who each list what they support settle on something they share: the
whole of what is shared, in the order of one of the lists, or a single element.
-/

namespace OpenRD.Foundation

variable {α : Type}

/-- Something is in both lists. -/
def Overlap (first second : List α) : Prop :=
  ∃ x ∈ first, x ∈ second

/--
`chosen` is what `allowed` leaves of `whole`: in the order of `whole` and with its
multiplicities.
-/
structure RestrictedTo [DecidableEq α] (whole allowed chosen : List α) : Prop where
  sublist : chosen.Sublist whole
  count : ∀ x, chosen.count x = if x ∈ allowed then whole.count x else 0

/-- `x` is the first element of `wanted` that is in `offered`. -/
def FirstIn (wanted offered : List α) (x : α) : Prop :=
  x ∈ offered ∧ ∃ before after, wanted = before ++ x :: after ∧
    ∀ y ∈ before, y ∉ offered

theorem Overlap.mono {first second first' second' : List α} (h : Overlap first second)
    (hfirst : first ⊆ first') (hsecond : second ⊆ second') : Overlap first' second' := by
  obtain ⟨x, hx, hx'⟩ := h
  exact ⟨x, hfirst hx, hsecond hx'⟩

section Restricted

variable [DecidableEq α] {whole allowed chosen : List α}

theorem RestrictedTo.mem_iff (h : RestrictedTo whole allowed chosen) {x : α} :
    x ∈ chosen ↔ x ∈ whole ∧ x ∈ allowed := by
  rw [← List.count_pos_iff, h.count x, ← List.count_pos_iff (l := whole)]
  by_cases hx : x ∈ allowed <;> simp [hx]

theorem RestrictedTo.mono {whole' allowed' chosen' : List α}
    (h : RestrictedTo whole allowed chosen) (h' : RestrictedTo whole' allowed' chosen')
    (hwhole : whole ⊆ whole') (hallowed : allowed ⊆ allowed') : chosen ⊆ chosen' := by
  intro x hx
  obtain ⟨hin, hpermitted⟩ := h.mem_iff.mp hx
  exact h'.mem_iff.mpr ⟨hwhole hin, hallowed hpermitted⟩

theorem restrictedTo_filter (whole allowed : List α) :
    RestrictedTo whole allowed (whole.filter (allowed.contains ·)) where
  sublist := List.filter_sublist
  count x := by
    by_cases hx : x ∈ allowed
    · rw [if_pos hx]
      exact List.count_filter (by simpa using hx)
    · rw [if_neg hx, List.count_eq_zero]
      simp [hx]

theorem filter_contains_eq_nil :
    whole.filter (allowed.contains ·) = [] ↔ ¬ Overlap whole allowed := by
  rw [List.filter_eq_nil_iff]
  simp [Overlap]

theorem find?_contains_eq_some {wanted offered : List α} {x : α} :
    wanted.find? (offered.contains ·) = some x ↔ FirstIn wanted offered x := by
  rw [List.find?_eq_some_iff_append]
  simp [FirstIn]

theorem find?_contains_eq_none {wanted offered : List α} :
    wanted.find? (offered.contains ·) = none ↔ ¬ Overlap wanted offered := by
  rw [List.find?_eq_none]
  simp [Overlap]

end Restricted

end OpenRD.Foundation
