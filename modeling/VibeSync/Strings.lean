import Mathlib.Data.List.DropRight

/-! What the services use of Go's `strings`, `unicode` and `regexp` packages. -/

namespace VibeSync

/-- `unicode.IsSpace`. -/
def isSpace (c : Char) : Bool :=
  (9 ≤ c.toNat && c.toNat ≤ 13) || (0x2000 ≤ c.toNat && c.toNat ≤ 0x200a) ||
    [0x20, 0x85, 0xa0, 0x1680, 0x2028, 0x2029, 0x202f, 0x205f, 0x3000].contains c.toNat

def trimSpace (s : String) : String := String.ofList ((s.toList.dropWhile isSpace).rdropWhile isSpace)

/-- `strings.ToLower`, which maps one rune at a time. -/
def toLower (lower : Char → Char) (s : String) : String := String.ofList (s.toList.map lower)

/-- `strings.Split` at a separator of one character. -/
def split (s : String) (sep : Char) : List String := (s.toList.splitOn sep).map String.ofList

/-- The class `\s` of a regular expression. -/
def regexSpace (c : Char) : Bool := [9, 10, 12, 13, 32].contains c.toNat

def isLowerLetter (c : Char) : Bool := 'a' ≤ c && c ≤ 'z'

def isUpperLetter (c : Char) : Bool := 'A' ≤ c && c ≤ 'Z'

def isDigit (c : Char) : Bool := '0' ≤ c && c ≤ '9'

/-! Letters and digits by their codes. -/

theorem isLowerLetter_iff (c : Char) : isLowerLetter c = true ↔ 97 ≤ c.toNat ∧ c.toNat ≤ 122 := by
  rw [isLowerLetter, Bool.and_eq_true, decide_eq_true_iff, decide_eq_true_iff]
  rfl

theorem isUpperLetter_iff (c : Char) : isUpperLetter c = true ↔ 65 ≤ c.toNat ∧ c.toNat ≤ 90 := by
  rw [isUpperLetter, Bool.and_eq_true, decide_eq_true_iff, decide_eq_true_iff]
  rfl

theorem isDigit_iff (c : Char) : isDigit c = true ↔ 48 ≤ c.toNat ∧ c.toNat ≤ 57 := by
  rw [isDigit, Bool.and_eq_true, decide_eq_true_iff, decide_eq_true_iff]
  rfl

/-! Trimming at both ends. -/

section Trimming
variable {α : Type} {p : α → Bool}

theorem trim_sublist (p : α → Bool) (text : List α) : ((text.dropWhile p).rdropWhile p).Sublist text :=
  (List.rdropWhile_prefix ..).sublist.trans (List.dropWhile_sublist _)

theorem trim_eq_self {text : List α} (kept : ∀ c ∈ text, ¬ p c = true) : (text.dropWhile p).rdropWhile p = text := by
  have begins : text.dropWhile p = text := List.dropWhile_eq_self_iff.mpr fun nonempty => kept _ (List.getElem_mem nonempty)
  have ends : text.rdropWhile p = text := List.rdropWhile_eq_self_iff.mpr fun nonempty => kept _ (List.getLast_mem nonempty)
  rw [begins, ends]

theorem trim_head (p : α → Bool) {text rest : List α} {first : α} (trimmed : (text.dropWhile p).rdropWhile p = first :: rest) :
    p first = false := by
  obtain ⟨tail, same⟩ : (text.dropWhile p).rdropWhile p <+: text.dropWhile p := List.rdropWhile_prefix ..
  have head := List.head?_dropWhile_not p text
  rw [← same, trimmed] at head
  simpa using head

theorem trimSpace_trimSpace (s : String) : trimSpace (trimSpace s) = trimSpace s := by
  have begins : ((s.toList.dropWhile isSpace).rdropWhile isSpace).dropWhile isSpace =
      (s.toList.dropWhile isSpace).rdropWhile isSpace := by
    rw [List.dropWhile_eq_self_iff]
    intro nonempty
    rw [(List.rdropWhile_prefix isSpace _).getElem nonempty]
    exact List.dropWhile_eq_self_iff.mp (List.dropWhile_idempotent isSpace s.toList) _
  rw [trimSpace, trimSpace, String.toList_ofList, begins, List.rdropWhile_idempotent]

theorem rdropWhile_map {β : Type} (f : α → β) (p : β → Bool) (l : List α) :
    (l.map f).rdropWhile p = (l.rdropWhile (p ∘ f)).map f := by
  rw [List.rdropWhile, List.rdropWhile, ← List.map_reverse, List.dropWhile_map, List.map_reverse]

theorem trimSpace_toLower {lower : Char → Char} (folds : ∀ c, isSpace (lower c) = isSpace c) (s : String) :
    trimSpace (toLower lower s) = toLower lower (trimSpace s) := by
  have same : isSpace ∘ lower = isSpace := funext folds
  rw [trimSpace, toLower, toLower, trimSpace, String.toList_ofList, String.toList_ofList, List.dropWhile_map, rdropWhile_map, same]

end Trimming

/-! Texts in two parts. -/

section Parts
variable {sep : Char}

theorem parts_of_append {front : List Char} (free : sep ∉ front) (back : List Char) :
    (front ++ sep :: back).takeWhile (· ≠ sep) = front ∧ (front ++ sep :: back).dropWhile (· ≠ sep) = sep :: back := by
  have passes : ∀ c ∈ front, decide (c ≠ sep) = true := by
    intro c member
    apply decide_eq_true
    rintro rfl
    exact free member
  rw [List.takeWhile_append_of_pos passes, List.dropWhile_append_of_pos passes]
  simp

/-- What the first part stops at is the separator. -/
theorem parts_cons {text back : List Char} {stop : Char} (behind : text.dropWhile (· ≠ sep) = stop :: back) :
    sep ∉ text.takeWhile (· ≠ sep) ∧ text = text.takeWhile (· ≠ sep) ++ sep :: back := by
  have stopped : stop = sep := by
    have head := List.head?_dropWhile_not (fun c => decide (c ≠ sep)) text
    rw [behind] at head
    simpa using head
  constructor
  · intro member
    have passed := List.mem_takeWhile_imp member
    simp at passed
  · rw [← stopped, ← behind, stopped]
    exact List.takeWhile_append_dropWhile.symm

end Parts

theorem split_injective {s t : String} {sep : Char} (same : split s sep = split t sep) : s = t := by
  have pieces : s.toList.splitOn sep = t.toList.splitOn sep := List.map_injective_iff.mpr (fun _ _ => String.ofList_injective) same
  have texts := congrArg (List.intercalate [sep]) pieces
  rw [List.intercalate_splitOn, List.intercalate_splitOn] at texts
  exact String.toList_injective texts

end VibeSync
