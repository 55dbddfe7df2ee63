import VibeSync.Proofs.AuthReuse
import VibeSync.Proofs.AuthTables

/-! Refresh tokens on the wire: the selector, a dot and the validator. The first dot
ends the selector, so a presented text has at most one reading. -/

namespace VibeSync.Proofs.AuthPresentation
open VibeSync.Auth Transaction VibeSync.Proofs.AuthTables

/-- A reading of a presented text. -/
structure Reads (token selector validator : String) : Prop where
  named : selector ≠ ""
  secret : validator ≠ ""
  dotless : '.' ∉ selector.toList
  joined : selector ++ "." ++ validator = token

theorem toList_ne_nil {s : String} (nonempty : s ≠ "") : s.toList ≠ [] := by
  intro empty
  exact nonempty (String.toList_injective empty)

/-- A text with a reading is split that way. -/
theorem Reads.split {token selector validator : String} (reads : Reads token selector validator) :
    splitSelectorValidator token = (selector, validator) := by
  have text : token.toList = selector.toList ++ '.' :: validator.toList := by
    rw [← reads.joined]
    simp
  obtain ⟨before, behind⟩ := parts_of_append reads.dotless validator.toList
  rw [← text] at before behind
  have long : ¬ ('.' :: validator.toList).length ≤ 1 := by
    have present := List.length_pos_of_ne_nil (toList_ne_nil reads.secret)
    rw [List.length_cons]
    omega
  simp only [splitSelectorValidator, before, behind]
  rw [if_neg (not_or.mpr ⟨toList_ne_nil reads.named, long⟩), List.tail_cons, String.ofList_toList, String.ofList_toList]

/-- Either the text has a reading, or it is split into two empty texts. -/
theorem reads_or_empty (token : String) :
    Reads token (splitSelectorValidator token).1 (splitSelectorValidator token).2 ∨ splitSelectorValidator token = ("", "") := by
  unfold splitSelectorValidator
  dsimp only
  split
  · exact Or.inr rfl
  next whole =>
    obtain ⟨named, long⟩ := not_or.mp whole
    left
    cases behind : token.toList.dropWhile (· ≠ '.') with
    | nil =>
      rw [behind] at long
      exact absurd (Nat.zero_le 1) long
    | cons dot validator =>
      obtain ⟨dotless, joined⟩ := parts_cons behind
      rw [behind, List.length_cons] at long
      refine ⟨?_, ?_, by rwa [String.toList_ofList], ?_⟩
      · intro empty
        exact named (by simpa using congrArg String.toList empty)
      · intro empty
        have nothing : validator = [] := by simpa using congrArg String.toList empty
        rw [nothing] at long
        exact long le_rfl
      · apply String.toList_injective
        simpa using joined.symm

theorem split_empty_iff (token : String) :
    splitSelectorValidator token = ("", "") ↔ ¬ ∃ selector validator, Reads token selector validator := by
  constructor
  · rintro empty ⟨selector, validator, reads⟩
    have parts := reads.split
    rw [empty] at parts
    exact reads.named (congrArg Prod.fst parts).symm
  · intro unread
    rcases reads_or_empty token with reads | empty
    · exact absurd ⟨_, _, reads⟩ unread
    · exact empty

/-- What is presented is read back, and what is read is what was presented. -/
theorem presentation_round_trips :
    (∀ material : ValidatorMaterial, material.selector ≠ "" → '.' ∉ material.selector.toList → material.validator ≠ "" →
        splitSelectorValidator material.presentationToken = (material.selector, material.validator)) ∧
      ∀ token selector validator, splitSelectorValidator token = (selector, validator) →
        ((selector, validator) ≠ ("", "") → Reads token selector validator) ∧
          ((selector, validator) = ("", "") ↔ ¬ ∃ first second, Reads token first second) := by
  refine ⟨fun material named dotless secret => Reads.split ⟨named, secret, dotless, rfl⟩, ?_⟩
  rintro token selector validator parts
  refine ⟨fun some_text => ?_, ?_⟩
  · rcases reads_or_empty token with reads | empty
    · rw [parts] at reads
      exact reads
    · exact absurd (parts.symm.trans empty) some_text
  · rw [← parts]
    exact split_empty_iff token

/-! Tokens that the service hands out. -/

section Issued
variable {randomURL : Nat → Except Err String} {hash : String → Except Err String} {now : Time}
  {id familyID userID sessionID rotatedFrom : String} {ttl : Duration} {rt : RefreshToken} {material : ValidatorMaterial}

theorem newRefreshToken_material
    (made : newRefreshToken randomURL hash now id familyID userID sessionID rotatedFrom ttl = .ok (rt, material)) :
    randomURL selectorBytes = .ok material.selector ∧ randomURL validatorBytes = .ok material.validator ∧
      hash material.validator = .ok rt.validatorHash ∧ rt.selector = material.selector := by
  simp only [newRefreshToken, bind, Except.bind, pure, Except.pure] at made
  split at made
  · cases made
  next selected =>
    split at made
    · cases made
    next drawn =>
      split at made
      · cases made
      next hashed =>
        cases made
        exact ⟨selected, drawn, hashed, rfl⟩

/-- A credential that is handed out leads back to the row stored with it, whose hash was made
of the validator that is then read. -/
theorem issued_presents [Collation] {store : Store database} {written : Writes database}
    (made : newRefreshToken randomURL hash now id familyID userID sessionID rotatedFrom ttl = .ok (rt, material))
    (drawn : ∀ count text, randomURL count = .ok text → text ≠ "" ∧ '.' ∉ text.toList)
    (inserted : Tables.insertToken store rt = .ok ((), written)) :
    AuthReuse.Presents (store.write written) material.presentationToken rt ∧
      hash (splitSelectorValidator material.presentationToken).2 = .ok rt.validatorHash := by
  obtain ⟨selector, validator, hashed, named⟩ := newRefreshToken_material made
  obtain ⟨some_selector, dotless⟩ := drawn _ _ selector
  have reads : Reads material.presentationToken material.selector material.validator :=
    ⟨some_selector, (drawn _ _ validator).1, dotless, rfl⟩
  obtain ⟨-, rfl⟩ := insertToken_ok inserted
  rw [AuthReuse.Presents, reads.split]
  refine ⟨⟨rt.id, ?_, ?_⟩, hashed⟩
  · simp [Store.write, Tables.putToken, named]
  · simp [Tables.token, Store.write, Tables.putToken]

end Issued

end VibeSync.Proofs.AuthPresentation
