import Mathlib.Data.List.GetD
import Mathlib.Data.List.Sort
import VibeSync.Sync.Median
import VibeSync.Hull

/-! The medians of the controller. The loops on the copy do what the insertion sort of
lists does, and nothing that existed before is written. -/

namespace VibeSync.Proofs.SyncMedian
open VibeSync.Sync VibeSync.Sync.InPlace Slices Hull

/-! The insertion sort on lists. -/

theorem shiftInsert_eq (key : ℚ) (sorted : List ℚ) : shiftInsert key sorted = sorted.orderedInsert (· ≥ ·) key := by
  induction sorted with
  | nil => rfl
  | cons x rest ih =>
    rw [shiftInsert, List.orderedInsert_cons, ih]
    by_cases above : x > key
    · rw [if_pos above, if_neg (not_le.mpr above)]
    · rw [if_neg above, if_pos (not_lt.mp above)]

theorem insertionSort_eq (vals : List ℚ) : insertionSort vals = (vals.reverse.insertionSort (· ≥ ·)).reverse := by
  rw [insertionSort, List.foldl_eq_foldr_reverse]
  simp only [shiftInsert_eq]
  rfl

theorem insertionSort_perm (vals : List ℚ) : (insertionSort vals).Perm vals := by
  rw [insertionSort_eq]
  exact (List.reverse_perm _).trans ((List.perm_insertionSort _ _).trans (List.reverse_perm vals))

theorem insertionSort_sorted (vals : List ℚ) : (insertionSort vals).Pairwise (· ≤ ·) := by
  rw [insertionSort_eq, List.pairwise_reverse]
  exact List.pairwise_insertionSort (· ≥ ·) vals.reverse

theorem eq_insertionSort {vals sorted : List ℚ} (perm : sorted.Perm vals) (ordered : sorted.Pairwise (· ≤ ·)) :
    sorted = insertionSort vals :=
  (perm.trans (insertionSort_perm vals).symm).eq_of_pairwise (fun _ _ _ _ => le_antisymm) ordered (insertionSort_sorted vals)

/-! The middle of a sorted list. -/

def middle (sorted : List ℚ) : ℚ :=
  if sorted.length % 2 = 0 then (sorted.getD (sorted.length / 2 - 1) 0 + sorted.getD (sorted.length / 2) 0) / 2
  else sorted.getD (sorted.length / 2) 0

theorem middle_between {sorted : List ℚ} (present : sorted ≠ []) : Between sorted (middle sorted) := by
  have some_length := List.length_pos_iff.mpr present
  have inside : ∀ i < sorted.length, Between sorted (sorted.getD i 0) := by
    intro i inside
    rw [List.getD_eq_getElem _ _ inside]
    exact between_of_mem (List.getElem_mem inside)
  unfold middle
  split
  next even => exact (inside _ (by omega)).mean (inside _ (by omega))
  next odd => exact inside _ (by omega)

theorem medianFloats_eq (vals : List ℚ) : Sync.medianFloats vals = middle (insertionSort vals) := by
  unfold Sync.medianFloats
  split
  next empty =>
    obtain rfl := List.length_eq_zero_iff.mp empty
    decide +kernel
  · rfl

/-! The loops on the copy. -/

theorem moveHole_eq {m : Memory ℚ} {s : Slice} {passed tail : List ℚ} {hole : ℚ} (held : Holds m s (passed.reverse ++ hole :: tail))
    (key : ℚ) : ∃ after, moveHole m s key passed.length = some after ∧ Holds after s ((shiftInsert key passed).reverse ++ tail) ∧
      Confined s m after := by
  induction passed generalizing m tail hole with
  | nil => exact held.write_eq key
  | cons below passed ih =>
    have position : (passed.reverse ++ [below]).length = passed.length + 1 := by
      rw [List.length_append, List.length_reverse, List.length_singleton]
    have top : read m s passed.length = some below := by
      rw [List.reverse_cons, List.append_assoc] at held
      rw [← List.length_reverse]
      exact held.read_eq
    rw [List.reverse_cons] at held
    rw [List.length_cons, moveHole, top, shiftInsert]
    change ∃ after, (if below > key then _ else _) = some after ∧ _
    split
    next above =>
      -- The hole takes the value below it and moves there.
      obtain ⟨moved, written, held, confined⟩ := held.write_eq below
      rw [position] at written
      rw [List.append_assoc] at held
      obtain ⟨after, rest, held, later⟩ := ih held
      refine ⟨after, ?_, ?_, confined.trans later⟩
      · rw [written]
        exact rest
      · rwa [List.reverse_cons, List.append_assoc]
    next stays =>
      obtain ⟨after, written, held, confined⟩ := held.write_eq key
      rw [position] at written
      refine ⟨after, written, ?_, confined⟩
      rwa [List.reverse_cons, List.reverse_cons, List.append_assoc]

theorem insertionLoop_eq {m : Memory ℚ} {s : Slice} {sorted rest : List ℚ} (held : Holds m s (sorted.reverse ++ rest)) :
    ∃ after, insertionLoop m s sorted.length rest.length = some after ∧
      Holds after s (rest.foldl (fun sorted key => shiftInsert key sorted) sorted).reverse ∧ Confined s m after := by
  induction rest generalizing m sorted with
  | nil =>
    rw [List.append_nil] at held
    exact ⟨m, rfl, held, .refl s m⟩
  | cons key rest ih =>
    have next : read m s sorted.length = some key := by
      rw [← List.length_reverse]
      exact held.read_eq
    obtain ⟨moved, placed, held, confined⟩ := moveHole_eq held key
    obtain ⟨after, looped, held, later⟩ := ih held
    have longer : (shiftInsert key sorted).length = sorted.length + 1 := by
      rw [shiftInsert_eq, List.orderedInsert_length]
    rw [longer] at looped
    refine ⟨after, ?_, held, confined.trans later⟩
    rw [List.length_cons, insertionLoop, next]
    change (moveHole m s key sorted.length >>= _) = _
    rw [placed]
    exact looped

/-- The copy ends sorted. -/
theorem sort_copy {m : Memory ℚ} {s : Slice} {vals : List ℚ} (held : Holds m s vals) (present : vals ≠ []) :
    ∃ copied after, copy (make m 0 s.length).2 (make m 0 s.length).1 s = some copied ∧
      insertionLoop copied (make m 0 s.length).1 1 (s.length - 1) = some after ∧
      Holds after (make m 0 s.length).1 (insertionSort vals) ∧ Confined (make m 0 s.length).1 (make m 0 s.length).2 after := by
  obtain ⟨copied, copies, target, confined⟩ := (held.append _).copy_eq (make_holds m 0 s.length) rfl
  obtain ⟨first, rest, rfl⟩ := List.exists_cons_of_ne_nil present
  obtain ⟨after, looped, sorted, later⟩ := @insertionLoop_eq copied _ [first] rest target
  refine ⟨copied, after, copies, ?_, sorted, confined.trans later⟩
  have rounds : s.length - 1 = rest.length := by
    rw [← held.length]
    rfl
  rw [rounds]
  exact looped

theorem read_sorted {m : Memory ℚ} {s : Slice} {sorted : List ℚ} (held : Holds m s sorted) {i : Nat} (inside : i < sorted.length) :
    read m s i = some (sorted.getD i 0) := by
  rw [held.read_getElem?, List.getElem?_eq_getElem inside, List.getD_eq_getElem _ _ inside]

/-- The median on the copy is the one on lists. -/
theorem inPlace_eq {m : Memory ℚ} {s : Slice} {vals : List ℚ} (held : Holds m s vals) (present : vals ≠ []) :
    ∃ after, InPlace.medianFloats m s = some (Sync.medianFloats vals, after) ∧
      Holds after (make m 0 s.length).1 (insertionSort vals) ∧ ∀ other kept, Holds m other kept → Holds after other kept := by
  obtain ⟨copied, after, copies, looped, sorted, confined⟩ := sort_copy held present
  refine ⟨after, ?_, sorted, fun other kept => confined.holds_old⟩
  have length : (insertionSort vals).length = s.length := sorted.length
  have some_length : 0 < s.length := by
    rw [← held.length]
    exact List.length_pos_iff.mpr present
  have reads : ∀ i < s.length, read after (make m 0 s.length).1 i = some ((insertionSort vals).getD i 0) := by
    intro i inside
    exact read_sorted sorted (inside.trans_eq length.symm)
  unfold InPlace.medianFloats
  rw [if_neg some_length.ne', medianFloats_eq, middle, length]
  change (copy (make m 0 s.length).2 (make m 0 s.length).1 s >>= _) = _
  rw [copies]
  change (insertionLoop copied (make m 0 s.length).1 1 (s.length - 1) >>= _) = _
  rw [looped]
  change (if s.length % 2 = 0 then (read after (make m 0 s.length).1 (s.length / 2 - 1) >>= _) else
    (read after (make m 0 s.length).1 (s.length / 2) >>= _)) = _
  split
  · rw [reads _ (by omega)]
    change (read after (make m 0 s.length).1 (s.length / 2) >>= _) = _
    rw [reads _ (by omega)]
    rfl
  · rw [reads _ (by omega)]
    rfl

theorem inPlace_empty (m : Memory ℚ) {s : Slice} (empty : s.length = 0) : InPlace.medianFloats m s = some (0, m) := if_pos empty

theorem inPlace_returns {m : Memory ℚ} {s : Slice} {vals : List ℚ} (held : Holds m s vals) :
    ∃ after, InPlace.medianFloats m s = some (Sync.medianFloats vals, after) ∧ ∀ other kept, Holds m other kept → Holds after other kept := by
  by_cases present : vals = []
  · subst present
    exact ⟨m, inPlace_empty m held.length.symm, fun _ _ => id⟩
  · obtain ⟨after, returns, -, keeps⟩ := inPlace_eq held present
    exact ⟨after, returns, keeps⟩

theorem medianFloats_perm {vals other : List ℚ} (perm : other.Perm vals) : Sync.medianFloats other = Sync.medianFloats vals := by
  rw [medianFloats_eq, medianFloats_eq, ← eq_insertionSort ((insertionSort_perm other).trans perm) (insertionSort_sorted other)]

theorem medianFloats_between {vals : List ℚ} (present : vals ≠ []) : Between vals (Sync.medianFloats vals) := by
  have perm := insertionSort_perm vals
  have sorted_present : insertionSort vals ≠ [] := fun empty => present (List.nil_perm.mp (empty ▸ perm))
  rw [medianFloats_eq]
  exact (middle_between sorted_present).mono perm.subset

/-- What the medians compute, and what they leave alone. -/
theorem median_of_slice {m : Memory ℚ} {s : Slice} {vals : List ℚ} (held : Holds m s vals) :
    ∃ result after, InPlace.medianFloats m s = some (result, after) ∧
      (vals = [] → result = 0) ∧
      (vals ≠ [] → ∃ sorted, Holds after (make m 0 s.length).1 sorted ∧ sorted.Perm vals ∧ sorted.Pairwise (· ≤ ·) ∧
        result = middle sorted ∧ Between vals result) ∧
      (∀ m' s' vals', Holds m' s' vals' → vals'.Perm vals → ∃ after', InPlace.medianFloats m' s' = some (result, after')) ∧
      InPlace.medianRTT m s = some (result, after) ∧
      ∀ other kept, Holds m other kept → Holds after other kept := by
  obtain ⟨after, returns, keeps⟩ := inPlace_returns held
  refine ⟨Sync.medianFloats vals, after, returns, ?_, ?_, ?_, returns, keeps⟩
  · rintro rfl
    rfl
  · intro present
    obtain ⟨after', returns', sorted, -⟩ := inPlace_eq held present
    obtain rfl : after' = after := congrArg Prod.snd (Option.some.inj (returns'.symm.trans returns))
    exact ⟨_, sorted, insertionSort_perm vals, insertionSort_sorted vals, medianFloats_eq vals, medianFloats_between present⟩
  · intro m' s' vals' held' perm
    obtain ⟨after', returns', -⟩ := inPlace_returns held'
    rw [medianFloats_perm perm] at returns'
    exact ⟨after', returns'⟩

theorem window_holds : Holds [[9, 3, 1, 2 / 3]] ⟨0, 1, 3⟩ [(3 : ℚ), 1, 2 / 3] := ⟨rfl, fun _ => ⟨[9], [], rfl, rfl⟩⟩

theorem window_unchanged :
    ∃ result after, InPlace.medianFloats [[9, 3, 1, 2 / 3]] ⟨0, 1, 3⟩ = some (result, after) ∧
      InPlace.medianRTT [[9, 3, 1, 2 / 3]] ⟨0, 1, 3⟩ = some (result, after) ∧ Holds after ⟨0, 1, 3⟩ [3, 1, 2 / 3] := by
  obtain ⟨result, after, returns, -, -, -, same, keeps⟩ := median_of_slice window_holds
  exact ⟨result, after, returns, same, keeps _ _ window_holds⟩

end VibeSync.Proofs.SyncMedian
