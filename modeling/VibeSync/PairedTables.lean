import Mathlib.Data.List.AList

/-! Two tables that hold the same keys in the same order, with related values at
each key. -/

namespace PairedTables
variable {κ α : Type} {relation : κ → α → α → Prop}

abbrev Table (κ α : Type) := AList fun _ : κ => α

def Paired (relation : κ → α → α → Prop) (first second : Table κ α) : Prop :=
  List.Forall₂ (fun entry other => entry.1 = other.1 ∧ relation entry.1 entry.2 other.2) first.entries second.entries

theorem Paired.refl (reflexive : ∀ key value, relation key value value) (table : Table κ α) : Paired relation table table :=
  List.forall₂_same.mpr fun entry _ => ⟨rfl, reflexive entry.1 entry.2⟩

variable {first second : Table κ α}

theorem Paired.keys (paired : Paired relation first second) : first.keys = second.keys := by
  have same : List.Forall₂ (fun entry other => entry.1 = other.1) first.entries second.entries :=
    paired.imp fun _ _ related => related.1
  unfold AList.keys List.keys
  rw [← List.forall₂_eq_eq_eq, List.forall₂_map_left_iff, List.forall₂_map_right_iff]
  exact same

theorem Paired.map {β : Type} (paired : Paired relation first second) (view : α → β)
    (same : ∀ key value other, relation key value other → view value = view other) :
    (first.entries.map Sigma.snd).map view = (second.entries.map Sigma.snd).map view := by
  rw [← List.forall₂_eq_eq_eq]
  simp only [List.forall₂_map_left_iff, List.forall₂_map_right_iff]
  exact paired.imp fun _ _ related => same _ _ _ related.2

variable [DecidableEq κ]

theorem Paired.lookup (paired : Paired relation first second) (key : κ) :
    (first.lookup key = none ∧ second.lookup key = none) ∨
      ∃ value other, first.lookup key = some value ∧ second.lookup key = some other ∧ relation key value other := by
  unfold AList.lookup
  unfold Paired at paired
  generalize first.entries = entries, second.entries = others at paired
  induction paired with
  | nil => exact Or.inl ⟨rfl, rfl⟩
  | @cons entry other _ _ related _ ih =>
    obtain ⟨name, value⟩ := entry
    obtain ⟨name', value'⟩ := other
    obtain ⟨rfl, related⟩ := related
    by_cases here : key = name
    · subst here
      exact Or.inr ⟨value, value', List.dlookup_cons_eq .., List.dlookup_cons_eq .., related⟩
    · rw [List.dlookup_cons_ne _ _ here, List.dlookup_cons_ne _ _ here]
      exact ih

theorem Paired.insert (paired : Paired relation first second) {key : κ} {value other : α} (related : relation key value other) :
    Paired relation (first.insert key value) (second.insert key other) := by
  unfold Paired at paired ⊢
  rw [AList.entries_insert, AList.entries_insert]
  refine .cons ⟨rfl, related⟩ ?_
  generalize first.entries = entries, second.entries = others at paired
  induction paired with
  | nil => exact .nil
  | @cons entry other _ _ paired rest ih =>
    by_cases here : key = entry.1
    · rw [List.kerase_cons_eq here, List.kerase_cons_eq (here.trans paired.1)]
      exact rest
    · rw [List.kerase_cons_ne here, List.kerase_cons_ne (paired.1 ▸ here)]
      exact .cons paired ih

end PairedTables
