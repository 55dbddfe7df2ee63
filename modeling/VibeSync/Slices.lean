import Mathlib.Data.List.Basic

/-! Slices over backing arrays in a memory that is never freed. A slice is a window on
one array, several slices may share an array, and an access outside the window fails.
An empty slice needs no array. -/

namespace Slices
variable {α : Type}

abbrev Memory (α : Type) : Type := List (List α)

structure Slice where
  array : Nat
  offset : Nat
  length : Nat
  deriving DecidableEq, Repr

def read (m : Memory α) (s : Slice) (i : Nat) : Option α := if i < s.length then m[s.array]?.bind (·[s.offset + i]?) else none

def write (m : Memory α) (s : Slice) (i : Nat) (x : α) : Option (Memory α) :=
  if i < s.length then m[s.array]?.map fun array => m.set s.array (array.set (s.offset + i) x) else none

def make (m : Memory α) (zero : α) (length : Nat) : Slice × Memory α := (⟨m.length, 0, length⟩, m ++ [List.replicate length zero])

def contents (m : Memory α) (s : Slice) : Option (List α) :=
  if s.length = 0 then some [] else m[s.array]?.map fun array => (array.drop s.offset).take s.length

def writeAll (m : Memory α) (s : Slice) (i : Nat) : List α → Option (Memory α)
  | [] => some m
  | x :: rest => do writeAll (← write m s i x) s (i + 1) rest

/-- The values are read before any is written, so that slices of one array may overlap. -/
def copy (m : Memory α) (dst src : Slice) : Option (Memory α) := do writeAll m dst 0 ((← contents m src).take dst.length)

/-- The values seen through a slice. -/
structure Holds (m : Memory α) (s : Slice) (vals : List α) : Prop where
  length : vals.length = s.length
  stored : vals ≠ [] → ∃ before behind, before.length = s.offset ∧ m[s.array]? = some (before ++ vals ++ behind)

/-- At most the array of the slice was written. -/
def Confined (s : Slice) (before after : Memory α) : Prop := ∀ array ≠ s.array, after[array]? = before[array]?

theorem Confined.refl (s : Slice) (m : Memory α) : Confined s m m := fun _ _ => rfl

theorem Confined.trans {s : Slice} {first second third : Memory α} (left : Confined s first second) (right : Confined s second third) :
    Confined s first third := fun array other => (right array other).trans (left array other)

namespace Holds
variable {m : Memory α} {s : Slice} {vals : List α}

theorem contents_eq (held : Holds m s vals) : contents m s = some vals := by
  rw [contents, ← held.length]
  split
  next empty => rw [List.length_eq_zero_iff.mp empty]
  next present =>
    obtain ⟨before, behind, offset, stored⟩ := held.stored fun empty => present (List.length_eq_zero_iff.mpr empty)
    rw [stored, Option.map_some, List.append_assoc, ← offset, List.drop_left, List.take_left]

theorem read_getElem? (held : Holds m s vals) (i : Nat) : read m s i = vals[i]? := by
  rw [read, ← held.length]
  split
  next inside =>
    obtain ⟨before, behind, offset, stored⟩ := held.stored (List.ne_nil_of_length_pos (Nat.zero_lt_of_lt inside))
    rw [stored, Option.bind_some, ← offset, List.append_assoc, List.getElem?_append_right (Nat.le_add_right _ _),
      Nat.add_sub_cancel_left, List.getElem?_append_left inside]
  next outside => exact (List.getElem?_eq_none (Nat.not_lt.mp outside)).symm

theorem read_eq {front back : List α} {x : α} (held : Holds m s (front ++ x :: back)) : read m s front.length = some x := by
  rw [held.read_getElem?, List.getElem?_append_right (Nat.le_refl _), Nat.sub_self]
  rfl

theorem write_eq {front back : List α} {old : α} (held : Holds m s (front ++ old :: back)) (x : α) :
    ∃ after, write m s front.length x = some after ∧ Holds after s (front ++ x :: back) ∧ Confined s m after := by
  obtain ⟨before, behind, offset, stored⟩ := held.stored (List.append_ne_nil_of_right_ne_nil _ (List.cons_ne_nil _ _))
  have length := held.length
  rw [List.length_append, List.length_cons] at length
  refine ⟨_, by rw [write, if_pos (by omega), stored, Option.map_some], ⟨?_, fun _ => ⟨before, behind, offset, ?_⟩⟩, ?_⟩
  · rw [List.length_append, List.length_cons, length]
  · obtain ⟨present, -⟩ := List.getElem?_eq_some_iff.mp stored
    rw [List.getElem?_set_self present, ← offset, List.append_assoc, List.set_append_right _ _ (Nat.le_add_right _ _),
      Nat.add_sub_cancel_left, List.append_assoc, List.set_append_right _ _ (Nat.le_refl _), Nat.sub_self, List.append_assoc, List.append_assoc front]
    rfl
  · intro array other
    exact List.getElem?_set_ne other.symm

theorem writeAll_eq {front old new : List α} (held : Holds m s (front ++ old)) (same : new.length = old.length) :
    ∃ after, writeAll m s front.length new = some after ∧ Holds after s (front ++ new) ∧ Confined s m after := by
  induction new generalizing m front old with
  | nil =>
    obtain rfl := List.length_eq_zero_iff.mp same.symm
    exact ⟨m, rfl, held, .refl s m⟩
  | cons x new ih =>
    obtain ⟨y, old, rfl⟩ := List.exists_cons_of_length_eq_add_one same.symm
    obtain ⟨next, written, held, confined⟩ := held.write_eq x
    rw [List.append_cons] at held
    obtain ⟨after, rest, held, later⟩ := ih held (Nat.succ.inj same)
    rw [List.length_append, List.length_singleton] at rest
    rw [← List.append_cons] at held
    refine ⟨after, ?_, held, confined.trans later⟩
    rw [writeAll, written]
    exact rest

theorem copy_eq {dst : Slice} {old : List α} (held : Holds m s vals) (target : Holds m dst old) (same : dst.length = s.length) :
    ∃ after, copy m dst s = some after ∧ Holds after dst vals ∧ Confined dst m after := by
  have count : vals.length = dst.length := held.length.trans same.symm
  have all : vals.take dst.length = vals := List.take_of_length_le (Nat.le_of_eq count)
  obtain ⟨after, written, result⟩ := @writeAll_eq α m dst [] old vals target (count.trans target.length.symm)
  refine ⟨after, ?_, result⟩
  rw [copy, held.contents_eq]
  change writeAll m dst 0 (vals.take dst.length) = some after
  rw [all]
  exact written

theorem array_lt (held : Holds m s vals) (present : vals ≠ []) : s.array < m.length := by
  obtain ⟨before, behind, -, stored⟩ := held.stored present
  exact (List.getElem?_eq_some_iff.mp stored).1

/-- A new array leaves what slices hold. -/
theorem append (held : Holds m s vals) (new : Memory α) : Holds (m ++ new) s vals := by
  refine ⟨held.length, fun present => ?_⟩
  rw [List.getElem?_append_left (held.array_lt present)]
  exact held.stored present

end Holds

theorem make_holds (m : Memory α) (zero : α) (length : Nat) :
    Holds (make m zero length).2 (make m zero length).1 (List.replicate length zero) := by
  refine ⟨List.length_replicate, fun _ => ⟨[], [], rfl, ?_⟩⟩
  rw [List.nil_append, List.append_nil]
  exact List.getElem?_concat_length

/-- What is written to a new array changes nothing that was held. -/
theorem Confined.holds_old {m after : Memory α} {zero : α} {length : Nat}
    (confined : Confined (make m zero length).1 (make m zero length).2 after) {s : Slice} {vals : List α} (held : Holds m s vals) :
    Holds after s vals := by
  refine ⟨held.length, fun present => ?_⟩
  rw [confined s.array (Nat.ne_of_lt (held.array_lt present))]
  exact (held.append _).stored present

end Slices
