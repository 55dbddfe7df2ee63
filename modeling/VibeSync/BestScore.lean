import Mathlib.Order.Lattice

/-! A scan of a list for the first item of the lowest score, starting from a
score that an item has to beat. Items without a score are passed over. -/

namespace BestScore
variable {α τ : Type} [LinearOrder τ] (score : α → Option τ)

def better (best : τ × α) (item : α) : τ × α :=
  match score item with
  | some value => if value < best.1 then (value, item) else best
  | none => best

variable {score}

theorem better_le (best : τ × α) (item : α) : (better score best item).1 ≤ best.1 := by
  unfold better
  split
  · split
    next lower => exact lower.le
    · exact le_rfl
  · exact le_rfl

theorem better_le_score (best : τ × α) {item : α} {value : τ} (scored : score item = some value) :
    (better score best item).1 ≤ value := by
  simp only [better, scored]
  split
  · exact le_rfl
  next higher => exact not_lt.mp higher

theorem better_cases (best : τ × α) (item : α) :
    better score best item = best ∨
      ∃ value, score item = some value ∧ value < best.1 ∧ better score best item = (value, item) := by
  unfold better
  split
  next value scored =>
    split
    next lower => exact Or.inr ⟨value, scored, lower, rfl⟩
    · exact Or.inl rfl
  · exact Or.inl rfl

theorem scan_le (items : List α) (best : τ × α) : (items.foldl (better score) best).1 ≤ best.1 := by
  induction items generalizing best with
  | nil => exact le_rfl
  | cons item rest ih => exact (ih _).trans (better_le best item)

theorem scan_le_score {items : List α} {item : α} (member : item ∈ items) {value : τ} (scored : score item = some value)
    (best : τ × α) : (items.foldl (better score) best).1 ≤ value := by
  induction items generalizing best with
  | nil => cases member
  | cons first rest ih =>
    cases member with
    | head => exact (scan_le rest _).trans (better_le_score best scored)
    | tail _ later => exact ih later _

theorem scan_cases (items : List α) (best : τ × α) :
    items.foldl (better score) best = best ∨
      ∃ value, ∃ item ∈ items, score item = some value ∧ value < best.1 ∧
        items.foldl (better score) best = (value, item) := by
  induction items generalizing best with
  | nil => exact Or.inl rfl
  | cons first rest ih =>
    rw [List.foldl_cons]
    obtain same | ⟨value, item, member, scored, lower, result⟩ := ih (better score best first)
    · rw [same]
      obtain kept | ⟨value, scored, lower, taken⟩ := better_cases best first
      · exact Or.inl kept
      · exact Or.inr ⟨value, first, List.mem_cons_self, scored, lower, taken⟩
    · exact Or.inr ⟨value, item, List.mem_cons_of_mem _ member, scored, lower.trans_le (better_le best first), result⟩

/-- Nothing that is scanned later replaces a score it does not beat. -/
theorem scan_of_least {items : List α} {best : τ × α}
    (least : ∀ item ∈ items, ∀ value, score item = some value → best.1 ≤ value) :
    items.foldl (better score) best = best := by
  obtain same | ⟨value, item, member, scored, lower, _⟩ := scan_cases items best
  · exact same
  · exact absurd (least item member value scored) (not_le.mpr lower)

end BestScore
