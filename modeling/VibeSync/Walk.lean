import Mathlib.Data.List.Nodup

/-! Walking a list without a position: the next item is the one behind the first item
equal to the current one. Such a walk visits every item in order exactly if no item
stands twice in the list. -/

namespace Walk
variable {α : Type} [DecidableEq α]

def next (items : List α) (current : Option α) : Option α :=
  match items.findIdx? fun item => some item = current with
  | some i => items[i + 1]?
  | none => items[0]?

/-- The current items of a walk that starts outside the list and takes every step there is. -/
structure Walks (items : List α) (current : Nat → Option α) : Prop where
  outside : ∀ item ∈ items, some item ≠ current 0
  moves : ∀ k, current (k + 1) = (next items (current k)).or (current k)

/-- Every step goes to the next item, and the last one goes nowhere. -/
def Visits (items : List α) (current : Nat → Option α) : Prop := ∀ k ≤ items.length, next items (current k) = items[k]?

variable {items : List α}

theorem next_mem {current : Option α} {item : α} (stepped : next items current = some item) : item ∈ items := by
  unfold next at stepped
  split at stepped
  · exact List.mem_of_getElem? stepped
  · exact List.mem_of_getElem? stepped

theorem next_outside {current : Option α} (outside : ∀ item ∈ items, some item ≠ current) : next items current = items[0]? := by
  have absent : items.findIdx? (fun item => some item = current) = none := by
    apply List.findIdx?_eq_none_iff.mpr
    intro item member
    exact decide_eq_false (outside item member)
  rw [next, absent]

theorem next_of_nodup (nodup : items.Nodup) {i : Nat} (inside : i < items.length) : next items items[i]? = items[i + 1]? := by
  have found : items.findIdx? (fun item => some item = items[i]?) = some i := by
    apply List.findIdx?_eq_some_iff_getElem.mpr
    refine ⟨inside, ?_, ?_⟩
    · rw [List.getElem?_eq_getElem inside]
      exact decide_eq_true rfl
    · intro j earlier same
      rw [List.getElem?_eq_getElem inside, decide_eq_true_iff, Option.some_inj, nodup.getElem_inj_iff] at same
      omega
  rw [next, found]

namespace Walks
variable {current : Nat → Option α}

theorem succ_eq (walks : Walks items current) {k : Nat} (inside : k < items.length) (visits : next items (current k) = items[k]?) :
    current (k + 1) = items[k]? := by
  rw [walks.moves, visits, List.getElem?_eq_getElem inside]
  rfl

theorem visits_of_nodup (walks : Walks items current) (nodup : items.Nodup) : Visits items current := by
  intro k bounded
  induction k with
  | zero => exact next_outside walks.outside
  | succ k ih =>
    rw [walks.succ_eq bounded (ih (Nat.le_of_succ_le bounded))]
    exact next_of_nodup nodup bounded

/-- Once two positions agree, all that follow do, although the later one runs out first. -/
theorem agree (walks : Walks items current) (visits : Visits items current) {i j : Nat} (ordered : i < j)
    (same : items[i]? = items[j]?) (offset : Nat) (bounded : j + offset ≤ items.length) : items[i + offset]? = items[j + offset]? := by
  induction offset with
  | zero => exact same
  | succ offset ih =>
    have agreed := ih (Nat.le_of_succ_le bounded)
    have early := walks.succ_eq (k := i + offset) (by omega) (visits _ (by omega))
    have late := walks.succ_eq (k := j + offset) (by omega) (visits _ (by omega))
    have here := visits (i + offset + 1) (by omega)
    rw [early, agreed, ← late, visits (j + offset + 1) (by omega)] at here
    exact here.symm

theorem nodup_of_visits (walks : Walks items current) (visits : Visits items current) : items.Nodup := by
  rw [List.nodup_iff_getElem?_ne_getElem?]
  intro i j ordered inside same
  have agreed := walks.agree visits ordered same (items.length - j) (by omega)
  rw [Nat.add_sub_cancel' (Nat.le_of_lt inside), List.getElem?_eq_none (Nat.le_refl _), List.getElem?_eq_none_iff] at agreed
  omega

theorem visits_iff (walks : Walks items current) : Visits items current ↔ items.Nodup :=
  ⟨walks.nodup_of_visits, walks.visits_of_nodup⟩

end Walks

end Walk
