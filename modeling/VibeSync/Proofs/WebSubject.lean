import VibeSync.Web.Subject

/-! Which header values give a caller a role. Three spellings are documented; a numeral
is read with a sign, with leading zeros and modulo `2 ^ 32` besides. -/

namespace VibeSync.Proofs.WebSubject
open VibeSync.Web Decimal
open Auth (SystemRole)

/-- The documented spellings of a role: the enumeration's name, the short name and the wire value. -/
def Spelling (role : SystemRole) (s : String) : Prop :=
  s = fullName role ∨ s = shortName role ∨ s = toString role.number

/-- A decimal numeral of 64 bits, with a sign or without. -/
def Numeral (s : String) (n : Int) : Prop :=
  ∃ digits, digits ≠ [] ∧ Digits digits ∧ -2 ^ 63 ≤ n ∧ n < 2 ^ 63 ∧
    (s.toList = digits ∧ n = value digits ∨ s.toList = '+' :: digits ∧ n = value digits ∨
      s.toList = '-' :: digits ∧ n = -value digits)

theorem splitSign_digits {digits : List Char} (decimal : Digits digits) : splitSign digits = (false, digits) := by
  rw [splitSign.eq_def]
  split
  · cases (digits_cons.mp decimal).1
  · cases (digits_cons.mp decimal).1
  · rfl

theorem splitSign_cases (text : List Char) :
    (splitSign text = (false, text)) ∨ (∃ rest, text = '+' :: rest ∧ splitSign text = (false, rest)) ∨
      ∃ rest, text = '-' :: rest ∧ splitSign text = (true, rest) := by
  rw [splitSign.eq_def]
  split
  · exact Or.inr (Or.inr ⟨_, rfl, rfl⟩)
  · exact Or.inr (Or.inl ⟨_, rfl, rfl⟩)
  · exact Or.inl rfl

theorem atoi_split (s : String) (n : Int) :
    atoi s = some n ↔ ∃ negative digits, splitSign s.toList = (negative, digits) ∧ digits ≠ [] ∧ Digits digits ∧
      -2 ^ 63 ≤ n ∧ n < 2 ^ 63 ∧ n = signed negative (value digits) := by
  rw [atoi]
  cases split : splitSign s.toList with
  | mk negative digits =>
    dsimp only
    constructor
    · intro read
      split at read
      · next whole =>
        cases read
        exact ⟨negative, digits, rfl, whole.1, whole.2.1, whole.2.2.1, whole.2.2.2, rfl⟩
      · cases read
    · rintro ⟨_, _, ⟨rfl, rfl⟩, written, decimal, low, high, rfl⟩
      exact if_pos ⟨written, decimal, low, high⟩

theorem atoi_iff (s : String) (n : Int) : atoi s = some n ↔ Numeral s n := by
  rw [atoi_split]
  constructor
  · rintro ⟨negative, digits, split, written, decimal, low, high, rfl⟩
    refine ⟨digits, written, decimal, low, high, ?_⟩
    rcases splitSign_cases s.toList with plain | ⟨rest, text, positive⟩ | ⟨rest, text, negated⟩
    · cases plain.symm.trans split
      exact Or.inl ⟨rfl, rfl⟩
    · cases positive.symm.trans split
      exact Or.inr (Or.inl ⟨text, rfl⟩)
    · cases negated.symm.trans split
      exact Or.inr (Or.inr ⟨text, rfl⟩)
  · rintro ⟨digits, written, decimal, low, high, ⟨text, rfl⟩ | ⟨text, rfl⟩ | ⟨text, rfl⟩⟩
    · exact ⟨false, digits, by rw [text, splitSign_digits decimal], written, decimal, low, high, rfl⟩
    · exact ⟨false, digits, by rw [text, splitSign], written, decimal, low, high, rfl⟩
    · exact ⟨true, digits, by rw [text, splitSign], written, decimal, low, high, rfl⟩

theorem systemRoleValue_iff (name : String) (role : SystemRole) : systemRoleValue name = some role ↔ name = fullName role := by
  constructor
  · intro found
    have named := List.find?_some found
    exact (of_decide_eq_true named).symm
  · rintro rfl
    cases role <;> decide

theorem ofInt_number_iff (n : Int) (role : SystemRole) :
    Int32.ofInt role.number = Int32.ofInt n ↔ n % 2 ^ 32 = role.number := by
  rw [← Int32.toInt_inj, Int32.toInt_ofInt, Int32.toInt_ofInt, Int.bmod_def, Int.bmod_def]
  cases role <;> simp only [SystemRole.number, Int32.size] <;> omega

/-- The number counts modulo `2 ^ 32`. -/
theorem systemRoleName_iff (n : Int) (role : SystemRole) :
    systemRoleName (Int32.ofInt n) = some role ↔ n % 2 ^ 32 = role.number := by
  rw [← ofInt_number_iff]
  constructor
  · intro found
    have numbered := List.find?_some found
    exact of_decide_eq_true numbered
  · intro same
    rw [← same]
    cases role <;> decide

theorem name_not_numeral (role : SystemRole) (n : Int) : ¬ Numeral (fullName role) n ∧ ¬ Numeral (shortName role) n := by
  rw [← atoi_iff, ← atoi_iff]
  have unread : atoi (fullName role) = none ∧ atoi (shortName role) = none := by
    cases role <;> decide
  rw [unread.1, unread.2]
  simp

theorem fullName_injective {s : String} {role : SystemRole} : "SYSTEM_ROLE_" ++ s = fullName role ↔ s = shortName role :=
  String.append_right_inj _

theorem parse_numeral {s : String} {n : Int} {role : SystemRole} (numeral : Numeral s n) (wraps : n % 2 ^ 32 = role.number) :
    parseSystemRole s = role := by
  have read := (atoi_iff s n).mpr numeral
  have nonempty : s ≠ "" := by
    rintro rfl
    cases read
  have unnamed : systemRoleValue s = none := by
    cases named : systemRoleValue s with
    | none => rfl
    | some other =>
      rw [(systemRoleValue_iff s other).mp named] at numeral
      exact absurd numeral (name_not_numeral other n).1
  rw [parseSystemRole, if_neg nonempty, unnamed, read, Option.bind_some, (systemRoleName_iff n role).mpr wraps]

/-- Every text that gives a role. -/
theorem parse_iff {s : String} {role : SystemRole} (specified : role ≠ .unspecified) :
    parseSystemRole s = role ↔
      s = fullName role ∨ s = shortName role ∨ ∃ n, Numeral s n ∧ n % 2 ^ 32 = role.number := by
  constructor
  · intro parsed
    rw [parseSystemRole] at parsed
    split at parsed
    · exact absurd parsed.symm specified
    split at parsed
    · next named =>
      rw [parsed] at named
      exact Or.inl ((systemRoleValue_iff s role).mp named)
    split at parsed
    · next numbered =>
      rw [parsed] at numbered
      obtain ⟨n, read, known⟩ := Option.bind_eq_some_iff.mp numbered
      exact Or.inr (Or.inr ⟨n, (atoi_iff s n).mp read, (systemRoleName_iff n role).mp known⟩)
    split at parsed
    · next named =>
      rw [parsed] at named
      exact Or.inr (Or.inl (fullName_injective.mp ((systemRoleValue_iff _ role).mp named)))
    · exact absurd parsed.symm specified
  · rintro (rfl | rfl | ⟨n, numeral, wraps⟩)
    · cases role <;> decide
    · cases role <;> decide
    · exact parse_numeral numeral wraps

/-- The documented spellings of a role give it, and nothing else does. -/
def FailsClosed (s : String) : Prop :=
  ∀ role : SystemRole, role ≠ .unspecified → (parseSystemRole s = role ↔ Spelling role s)

theorem fails_closed_iff (s : String) :
    FailsClosed s ↔
      ∀ (role : SystemRole) (n : Int), role ≠ .unspecified → Numeral s n → n % 2 ^ 32 = role.number → s = toString role.number := by
  constructor
  · intro closed role n specified numeral wraps
    have parsed := (parse_iff specified).mpr (Or.inr (Or.inr ⟨n, numeral, wraps⟩))
    rcases (closed role specified).mp parsed with rfl | rfl | plain
    · exact absurd numeral (name_not_numeral role n).1
    · exact absurd numeral (name_not_numeral role n).2
    · exact plain
  · intro plain role specified
    rw [parse_iff specified, Spelling]
    constructor
    · rintro (full | short | ⟨n, numeral, wraps⟩)
      · exact Or.inl full
      · exact Or.inr (Or.inl short)
      · exact Or.inr (Or.inr (plain role n specified numeral wraps))
    · rintro (full | short | rfl)
      · exact Or.inl full
      · exact Or.inr (Or.inl short)
      · refine Or.inr (Or.inr ⟨role.number, (atoi_iff _ _).mp ?_, ?_⟩)
        · cases role <;> decide
        · cases role <;> rfl

/-- The numeral of `2 ^ 32 + 4` makes an administrator. -/
theorem wrapped_numeral_administrates :
    parseSystemRole "4294967300" = .administrator ∧ ¬ Spelling .administrator "4294967300" := by
  refine ⟨by decide, ?_⟩
  rintro (full | short | plain)
  · revert full
    decide
  · revert short
    decide
  · revert plain
    decide

end VibeSync.Proofs.WebSubject
