import Mathlib.Data.Finset.Insert
import Mathlib.Data.Finset.Card

/-! Partial maps as functions into `Option`: how many keys they hold, and those
whose keys are the numbers below a bound. -/

namespace PartialMap
variable {κ α : Type}

/-- The map holds `count` keys. -/
def Tally (map : κ → Option α) (count : Int) : Prop :=
  ∃ keys : Finset κ, (∀ key, key ∈ keys ↔ (map key).isSome) ∧ (keys.card : Int) = count

variable {map : κ → Option α} {count : Int}

theorem Tally.of_none (empty : ∀ key, map key = none) : Tally map 0 :=
  ⟨∅, fun key => by simp [empty key], rfl⟩

theorem Tally.card_le (tally : Tally map count) {few : Finset κ} (present : ∀ key ∈ few, (map key).isSome) :
    few.card ≤ count := by
  obtain ⟨keys, held, card⟩ := tally
  have fewer : few.card ≤ keys.card := Finset.card_le_card fun key member => (held key).mpr (present key member)
  omega

variable [DecidableEq κ]

/-- What is found after an insertion is the new entry or an old one. -/
theorem update_eq_some {key other : κ} {value found : α} (held : Function.update map key (some value) other = some found) :
    (other = key ∧ found = value) ∨ map other = some found := by
  rw [Function.update_apply] at held
  split at held
  · next same =>
    cases held
    exact Or.inl ⟨same, rfl⟩
  · exact Or.inr held

theorem Tally.insert (tally : Tally map count) {key : κ} (absent : map key = none) (value : α) :
    Tally (Function.update map key (some value)) (count + 1) := by
  obtain ⟨keys, held, card⟩ := tally
  have fresh : key ∉ keys := by
    rw [held, absent]
    exact Bool.false_ne_true
  refine ⟨Insert.insert key keys, fun other => ?_, ?_⟩
  · rw [Finset.mem_insert, Function.update_apply, held]
    split
    · next same => simp [same]
    · next different => simp [different]
  · rw [Finset.card_insert_of_notMem fresh, ← card]
    omega

theorem Tally.erase (tally : Tally map count) {key : κ} (present : (map key).isSome) :
    Tally (Function.update map key none) (count - 1) := by
  obtain ⟨keys, held, card⟩ := tally
  have there : key ∈ keys := (held key).mpr present
  refine ⟨keys.erase key, fun other => ?_, ?_⟩
  · rw [Finset.mem_erase, Function.update_apply, held]
    split
    · next same => simp [same]
    · next different => simp [different]
  · have positive := Finset.card_pos.mpr ⟨key, there⟩
    rw [Finset.card_erase_of_mem there, ← card]
    omega

/-! Positions. -/

/-- The greatest key below the bound. -/
def lastBelow (map : Nat → Option α) : Nat → Option Nat
  | 0 => none
  | bound + 1 => if (map bound).isSome then some bound else lastBelow map bound

/-- The map without one position, with the later ones moved down. -/
def closeGap (map : Nat → Option α) (position : Nat) : Nat → Option α :=
  fun key => if key < position then map key else map (key + 1)

/-- The position itself does not matter. -/
theorem closeGap_update (map : Nat → Option α) (position : Nat) (value : Option α) :
    closeGap (Function.update map position value) position = closeGap map position := by
  funext key
  rw [closeGap, closeGap]
  split
  · rw [Function.update_of_ne (by omega)]
  · rw [Function.update_of_ne (by omega)]

def Dense (map : Nat → Option α) (count : Nat) : Prop := ∀ key, (map key).isSome ↔ key < count

section Dense
variable {map : Nat → Option α} {count bound position : Nat}

theorem Dense.absent (dense : Dense map count) (beyond : count ≤ position) : map position = none := by
  cases found : map position with
  | none => rfl
  | some value =>
    have inside := (dense position).mp (by rw [found]; rfl)
    omega

theorem Dense.last (dense : Dense map (count + 1)) (within : count < bound) : lastBelow map bound = some count := by
  induction bound with
  | zero => omega
  | succ bound ih =>
    rw [lastBelow]
    split
    · next present =>
      have inside := (dense bound).mp present
      congr 1
      omega
    · next absent =>
      have beyond : ¬ bound < count + 1 := fun inside => absent ((dense bound).mpr inside)
      exact ih (by omega)

theorem Dense.last_none (dense : Dense map 0) (bound : Nat) : lastBelow map bound = none := by
  induction bound with
  | zero => rfl
  | succ bound ih =>
    rw [lastBelow, dense.absent (Nat.zero_le bound)]
    exact ih

theorem Dense.push (dense : Dense map count) (value : α) : Dense (Function.update map count (some value)) (count + 1) := by
  intro key
  by_cases same : key = count
  · rw [same, Function.update_self]
    simp
  · rw [Function.update_of_ne same, dense key]
    omega

theorem Dense.closeGap (dense : Dense map (count + 1)) (inside : position ≤ count) : Dense (closeGap map position) count := by
  intro key
  rw [PartialMap.closeGap]
  split
  · next earlier =>
    rw [dense key]
    omega
  · rw [dense (key + 1)]
    omega

theorem Dense.keys_below (dense : Dense map count) (bound : Nat) :
    (List.range bound).filterMap (fun key => (map key).map fun _ => key) = List.range (min count bound) := by
  induction bound with
  | zero => rw [Nat.min_zero]; rfl
  | succ bound ih =>
    rw [List.range_succ, List.filterMap_append, ih]
    cases found : map bound with
    | some value =>
      have inside := (dense bound).mp (by rw [found]; rfl)
      rw [Nat.min_eq_right (Nat.le_of_lt inside), Nat.min_eq_right inside, List.range_succ]
      simp [found]
    | none =>
      have outside : ¬ bound < count := by
        intro inside
        have present := (dense bound).mpr inside
        rw [found] at present
        cases present
      rw [Nat.min_eq_left (by omega), Nat.min_eq_left (by omega)]
      simp [found]

end Dense

/-! Moving keys down one at a time. -/

def stepDown (map : Nat → Option α) (key : Nat) : Nat → Option α :=
  Function.update (Function.update map key none) (key - 1) (map key)

/-- Each key of the list moves one place down, which has to be free by then. -/
def stepsDown (map : Nat → Option α) : List Nat → Option (Nat → Option α)
  | [] => some map
  | key :: rest => if (map (key - 1)).isSome then none else stepsDown (stepDown map key) rest

/-- The keys are the numbers below `count` without `gap`. -/
def OneGap (map : Nat → Option α) (count gap : Nat) : Prop := ∀ key, (map key).isSome ↔ key < count ∧ key ≠ gap

theorem closeGap_stepDown (map : Nat → Option α) (gap : Nat) :
    closeGap (stepDown map (gap + 1)) (gap + 1) = closeGap map gap := by
  funext key
  rw [closeGap, closeGap, stepDown, Nat.add_sub_cancel]
  by_cases same : key = gap
  · rw [if_pos (by omega), if_neg (by omega), same, Function.update_self]
  by_cases earlier : key < gap
  · rw [if_pos (by omega), if_pos earlier, Function.update_of_ne same, Function.update_of_ne (by omega)]
  · rw [if_neg (by omega), if_neg earlier, Function.update_of_ne (by omega), Function.update_of_ne (by omega)]

section OneGap
variable {map : Nat → Option α} {count gap : Nat}

theorem Dense.oneGap (dense : Dense map count) (gap : Nat) : OneGap (Function.update map gap none) count gap := by
  intro key
  by_cases same : key = gap
  · rw [same, Function.update_self]
    simp
  · rw [Function.update_of_ne same, dense key]
    simp [same]

theorem OneGap.stepDown (gapped : OneGap map count gap) (inside : gap + 1 < count) :
    OneGap (stepDown map (gap + 1)) count (gap + 1) := by
  intro key
  rw [PartialMap.stepDown, Nat.add_sub_cancel]
  by_cases same : key = gap
  · rw [same, Function.update_self, gapped (gap + 1)]
    omega
  by_cases next : key = gap + 1
  · rw [Function.update_of_ne same, next, Function.update_self]
    simp
  · rw [Function.update_of_ne same, Function.update_of_ne next, gapped key]
    omega

/-- Only the key behind the gap can move. -/
theorem OneGap.free_iff (gapped : OneGap map count gap) {key : Nat} (later : gap < key) (inside : key < count) :
    ¬ (map (key - 1)).isSome ↔ key = gap + 1 := by
  rw [gapped (key - 1)]
  omega

theorem OneGap.closed (gapped : OneGap map (gap + 1) gap) : closeGap map gap = map := by
  have absent : ∀ key, gap ≤ key → map key = none := by
    intro key beyond
    rw [← Option.not_isSome_iff_eq_none, gapped key]
    omega
  funext key
  rw [closeGap]
  split
  · rfl
  · next beyond => rw [absent key (Nat.le_of_not_lt beyond), absent (key + 1) (by omega)]

/-- Moving the later keys down in ascending order closes the gap. -/
theorem OneGap.stepsDown_ascending {later : Nat} (gapped : OneGap map (gap + 1 + later) gap) :
    stepsDown map (List.range' (gap + 1) later) = some (closeGap map gap) := by
  induction later generalizing map gap with
  | zero =>
    rw [gapped.closed]
    rfl
  | succ later ih =>
    have free : ¬ (map (gap + 1 - 1)).isSome := (gapped.free_iff (by omega) (by omega)).mpr rfl
    have moved := gapped.stepDown (by omega)
    rw [show gap + 1 + (later + 1) = gap + 1 + 1 + later by omega] at moved
    rw [List.range'_succ, stepsDown, if_neg free, ih moved, closeGap_stepDown]

/-- No other order goes through. -/
theorem OneGap.ascending_of_stepsDown {keys : List Nat} (gapped : OneGap map count gap)
    (within : ∀ key ∈ keys, gap < key ∧ key < count) (distinct : keys.Nodup) (done : (stepsDown map keys).isSome) :
    keys = List.range' (gap + 1) keys.length := by
  induction keys generalizing map gap with
  | nil => rfl
  | cons key rest ih =>
    rw [stepsDown] at done
    obtain ⟨here, others⟩ := List.forall_mem_cons.mp within
    obtain ⟨absent, remaining⟩ := List.nodup_cons.mp distinct
    split at done
    · cases done
    next free =>
      have first := (gapped.free_iff here.1 here.2).mp free
      subst first
      have tail := ih (gapped.stepDown here.2)
        (fun other member => ⟨Nat.lt_of_le_of_ne (others other member).1 fun same => absent (same ▸ member),
          (others other member).2⟩) remaining done
      rw [List.length_cons, List.range'_succ, ← tail]

end OneGap

end PartialMap
