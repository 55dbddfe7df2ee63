import Mathlib.Data.List.Basic
import Mathlib.Logic.Function.Basic

/-! Objects that are never freed and the index by which they are found. Names do
not change, so an index that misses a name knows that no object has it. -/

namespace Registry
variable {κ α : Type} {name : α → κ} {objects : List α} {index : κ → Option Nat}

/-- The index knows every object by its name, and nothing else. -/
def Indexed (name : α → κ) (objects : List α) (index : κ → Option Nat) : Prop :=
  ∀ key place, index key = some place ↔ ∃ object, objects[place]? = some object ∧ name object = key

theorem indexed_nil : Indexed name [] fun _ => none := by
  intro key place
  simp

theorem Indexed.unique (indexed : Indexed name objects index) {first second : Nat} {left right : α}
    (leftAt : objects[first]? = some left) (rightAt : objects[second]? = some right) (same : name left = name right) :
    first = second := by
  have leftIndexed := (indexed (name left) first).mpr ⟨left, leftAt, rfl⟩
  have rightIndexed := (indexed (name left) second).mpr ⟨right, rightAt, same.symm⟩
  exact Option.some.inj (leftIndexed.symm.trans rightIndexed)

theorem Indexed.place_lt (indexed : Indexed name objects index) {key : κ} {place : Nat} (found : index key = some place) :
    place < objects.length := by
  obtain ⟨object, there, -⟩ := (indexed key place).mp found
  exact (List.getElem?_eq_some_iff.mp there).1

/-- A missing name may be given to a new object. -/
theorem Indexed.push [DecidableEq κ] (indexed : Indexed name objects index) {object : α} (missing : index (name object) = none) :
    Indexed name (objects ++ [object]) (Function.update index (name object) (some objects.length)) := by
  intro key place
  rw [Function.update_apply]
  rcases Nat.lt_trichotomy place objects.length with old | rfl | beyond
  · rw [List.getElem?_append_left old, ← indexed key place]
    split
    next same =>
      rw [same, missing]
      simp only [Option.some.injEq, reduceCtorEq, iff_false]
      omega
    · rfl
  · rw [List.getElem?_concat_length]
    split
    next same => simp [same]
    next other =>
      simp only [Option.some.injEq, exists_eq_left']
      constructor
      · intro found
        exact absurd (indexed.place_lt found) (Nat.lt_irrefl _)
      · intro same
        exact absurd same.symm other
  · have outside : (objects ++ [object])[place]? = none := by
      rw [List.getElem?_eq_none_iff, List.length_append, List.length_singleton]
      omega
    simp only [outside, reduceCtorEq, false_and, exists_false, iff_false]
    split
    · simp only [Option.some.injEq]
      omega
    · intro found
      exact absurd (indexed.place_lt found) (by omega)

theorem Indexed.modify (indexed : Indexed name objects index) (place : Nat) {change : α → α}
    (keeps : ∀ object, name (change object) = name object) : Indexed name (objects.modify place change) index := by
  intro key other
  rw [indexed key other, List.getElem?_modify]
  cases objects[other]? with
  | none => simp
  | some object =>
    by_cases here : place = other
    · simp [here, keeps]
    · simp [here]

theorem mem_of_mem_modify {place : Nat} {change : α → α} {object : α} (found : object ∈ objects.modify place change) :
    object ∈ objects ∨ ∃ before, objects[place]? = some before ∧ object = change before := by
  obtain ⟨other, there⟩ := List.mem_iff_getElem?.mp found
  rw [List.getElem?_modify] at there
  obtain ⟨before, present, same⟩ := Option.map_eq_some_iff.mp there
  by_cases here : place = other
  · rw [if_pos here] at same
    exact Or.inr ⟨before, here ▸ present, same.symm⟩
  · rw [if_neg here] at same
    exact Or.inl (same ▸ List.mem_of_getElem? present)

theorem mem_modify_self {place : Nat} {change : α → α} {object : α} (there : objects[place]? = some object) :
    change object ∈ objects.modify place change := by
  apply List.mem_of_getElem?
  rw [List.getElem?_modify_eq, there]
  rfl

theorem mem_modify_other {place other : Nat} {change : α → α} {object : α} (there : objects[other]? = some object)
    (elsewhere : place ≠ other) : object ∈ objects.modify place change := by
  have kept : (objects.modify place change)[other]? = objects[other]? := by
    rw [List.getElem?_modify, there]
    simp [elsewhere]
  exact List.mem_of_getElem? (kept.trans there)

theorem mem_modify_of_mem (place : Nat) (change : α → α) {object : α} (found : object ∈ objects) :
    object ∈ objects.modify place change ∨ change object ∈ objects.modify place change := by
  obtain ⟨other, there⟩ := List.mem_iff_getElem?.mp found
  by_cases here : place = other
  · exact Or.inr (mem_modify_self (here ▸ there))
  · exact Or.inl (mem_modify_other there here)

end Registry
