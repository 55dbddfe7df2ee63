import Mathlib.Algebra.Order.Field.Basic
import Mathlib.Data.Set.Finite.List
import Mathlib.Data.Set.Finite.Lemmas
import Mathlib.Tactic.Linarith
import Mathlib.Tactic.Ring

/-! Values between the least and the greatest of a list, and what keeps them there:
more values in the list, and weighted means. -/

namespace Hull

section Order
variable {K : Type} [LinearOrder K]

def Between (values : List K) (x : K) : Prop :=
  ∃ least greatest, IsLeast {v | v ∈ values} least ∧ IsGreatest {v | v ∈ values} greatest ∧ least ≤ x ∧ x ≤ greatest

theorem between_iff {values : List K} {x : K} : Between values x ↔ (∃ low ∈ values, low ≤ x) ∧ ∃ high ∈ values, x ≤ high := by
  constructor
  · rintro ⟨least, greatest, lowest, highest, above, below⟩
    exact ⟨⟨least, lowest.1, above⟩, greatest, highest.1, below⟩
  · rintro ⟨⟨low, low_mem, above⟩, high, high_mem, below⟩
    obtain ⟨least, least_mem, lowest⟩ := Set.exists_min_image {v | v ∈ values} id (List.finite_toSet values) ⟨low, low_mem⟩
    obtain ⟨greatest, greatest_mem, highest⟩ := Set.exists_max_image {v | v ∈ values} id (List.finite_toSet values) ⟨low, low_mem⟩
    exact ⟨least, greatest, ⟨least_mem, lowest⟩, ⟨greatest_mem, highest⟩, (lowest low low_mem).trans above,
      below.trans (highest high high_mem)⟩

theorem between_of_mem {values : List K} {x : K} (member : x ∈ values) : Between values x :=
  between_iff.mpr ⟨⟨x, member, le_rfl⟩, x, member, le_rfl⟩

theorem Between.mono {values more : List K} {x : K} (between : Between values x) (subset : values ⊆ more) : Between more x := by
  obtain ⟨⟨low, low_mem, above⟩, high, high_mem, below⟩ := between_iff.mp between
  exact between_iff.mpr ⟨⟨low, subset low_mem, above⟩, high, subset high_mem, below⟩

/-- Every lower bound of the values is one of what is between them. -/
theorem Between.ge {values : List K} {x bound : K} (between : Between values x) (bounded : ∀ v ∈ values, bound ≤ v) : bound ≤ x := by
  obtain ⟨least, greatest, lowest, highest, above, below⟩ := between
  exact (bounded least lowest.1).trans above

end Order

section Field
variable {K : Type} [Field K] [LinearOrder K] [IsStrictOrderedRing K]

theorem blend_le {weight x y bound : K} (weight_nonneg : 0 ≤ weight) (weight_le : weight ≤ 1) (left : x ≤ bound) (right : y ≤ bound) :
    weight * x + (1 - weight) * y ≤ bound := by
  have first := mul_le_mul_of_nonneg_left left weight_nonneg
  have second := mul_le_mul_of_nonneg_left right (sub_nonneg.mpr weight_le)
  linarith

theorem le_blend {weight x y bound : K} (weight_nonneg : 0 ≤ weight) (weight_le : weight ≤ 1) (left : bound ≤ x) (right : bound ≤ y) :
    bound ≤ weight * x + (1 - weight) * y := by
  have first := mul_le_mul_of_nonneg_left left weight_nonneg
  have second := mul_le_mul_of_nonneg_left right (sub_nonneg.mpr weight_le)
  linarith

theorem Between.blend {values : List K} {weight x y : K} (weight_nonneg : 0 ≤ weight) (weight_le : weight ≤ 1)
    (first : Between values x) (second : Between values y) : Between values (weight * x + (1 - weight) * y) := by
  obtain ⟨least, greatest, lowest, highest, above, below⟩ := first
  obtain ⟨least', greatest', lowest', highest', above', below'⟩ := second
  obtain rfl := lowest.unique lowest'
  obtain rfl := highest.unique highest'
  exact ⟨least, greatest, lowest, highest, le_blend weight_nonneg weight_le above above', blend_le weight_nonneg weight_le below below'⟩

theorem Between.mean {values : List K} {x y : K} (first : Between values x) (second : Between values y) :
    Between values ((x + y) / 2) := by
  have halves := first.blend one_half_pos.le one_half_lt_one.le second
  have same : (1 : K) / 2 * x + (1 - 1 / 2) * y = (x + y) / 2 := by ring
  rwa [same] at halves

end Field

end Hull
