import VibeSync.Proofs.AuthTables

/-! The usernames that are made up for new OAuth users. A local part that is cut to the
full 32 characters and begins with a digit gets a prefix for which there is no room. -/

namespace VibeSync.Proofs.AuthUsernames
open VibeSync.Auth Transaction VibeSync.Proofs.AuthTables

/-! Characters of a username. -/

def isNameChar (c : Char) : Bool := isLowerLetter c || isDigit c || c = '_'

theorem isNameChar_cases {c : Char} (name : isNameChar c = true) : isLowerLetter c = true ∨ isDigit c = true ∨ c = '_' := by
  simpa [isNameChar, or_assoc] using name

theorem lowered_letter {c : Char} (upper : isUpperLetter c = true) : isLowerLetter (Char.ofNat (c.toNat + 32)) = true := by
  obtain ⟨least, most⟩ := (isUpperLetter_iff c).mp upper
  have letters : ∀ n < 26, isLowerLetter (Char.ofNat (65 + n + 32)) = true := by decide
  have lowered := letters (c.toNat - 65) (by omega)
  rwa [show 65 + (c.toNat - 65) + 32 = c.toNat + 32 by omega] at lowered

theorem not_space {c : Char} (name : isNameChar c = true) : isSpace c = false := by
  have range : 48 ≤ c.toNat ∧ c.toNat ≤ 122 := by
    rcases isNameChar_cases name with letter | digit | rfl
    · have bounds := (isLowerLetter_iff c).mp letter
      omega
    · have bounds := (isDigit_iff c).mp digit
      omega
    · decide
  simp [isSpace]
  omega

/-- A text of such characters is stored as it is. -/
theorem stored_unchanged {lower : Char → Char} (fixes : ∀ c, isNameChar c = true → lower c = c) {text : List Char}
    (plain : ∀ c ∈ text, isNameChar c = true) : trimSpace (toLower lower (String.ofList text)) = String.ofList text := by
  have same : text.map lower = text := by
    rw [List.map_congr_left fun c member => fixes c (plain c member), List.map_id']
  have unspaced : ∀ c ∈ text, ¬ isSpace c = true := fun c member => by simp [not_space (plain c member)]
  rw [toLower, trimSpace, String.toList_ofList, String.toList_ofList, same, trim_eq_self unspaced]

/-! The sanitised local part. -/

/-- The local part of the address, sanitised, cut and trimmed. -/
def sanitised (p : ProviderProfile) : List Char := trimUnderscores (sanitize [] (p.email.toList.takeWhile (· ≠ '@')))

/-- What every step of the sanitising keeps: name characters, and room for one more. -/
theorem sanitizeChar_plain {out : List Char} (plain : ∀ c ∈ out, isNameChar c = true) (c : Char) :
    (∀ d ∈ sanitizeChar out c, isNameChar d = true) ∧ (sanitizeChar out c).length ≤ out.length + 1 := by
  have append : ∀ d, isNameChar d = true → (∀ e ∈ out ++ [d], isNameChar e = true) ∧ (out ++ [d]).length ≤ out.length + 1 := by
    intro d name
    refine ⟨List.forall_mem_append.mpr ⟨plain, List.forall_mem_singleton.mpr name⟩, ?_⟩
    rw [List.length_append, List.length_singleton]
  unfold sanitizeChar
  split
  next letter => exact append c (by simp [isNameChar, letter])
  · split
    next upper => exact append _ (by simp [isNameChar, lowered_letter upper])
    · split
      next kept => exact append c (by simpa [isNameChar, or_assoc] using Or.inr (by simpa using kept))
      · split
        · exact append '_' (by decide)
        · exact ⟨plain, Nat.le_succ _⟩

theorem sanitize_plain {out text : List Char} (plain : ∀ c ∈ out, isNameChar c = true) (short : out.length < 32) :
    (∀ c ∈ sanitize out text, isNameChar c = true) ∧ (sanitize out text).length ≤ 32 := by
  induction text generalizing out with
  | nil => exact ⟨plain, short.le⟩
  | cons c rest ih =>
    obtain ⟨still, longer⟩ := sanitizeChar_plain plain c
    rw [sanitize]
    split
    · exact ⟨still, by omega⟩
    next room => exact ih still (by omega)

/-- Name characters of which the first is no underscore, and at most 32 of them. -/
theorem sanitised_shape {p : ProviderProfile} {first : Char} {rest : List Char} (shape : sanitised p = first :: rest) :
    (isLowerLetter first = true ∨ isDigit first = true) ∧ (∀ c ∈ first :: rest, isNameChar c = true) ∧ rest.length ≤ 31 := by
  obtain ⟨plain, short⟩ := @sanitize_plain [] (p.email.toList.takeWhile (· ≠ '@')) (List.forall_mem_nil _) (by decide)
  have sublist := trim_sublist (· = '_') (sanitize [] (p.email.toList.takeWhile (· ≠ '@')))
  rw [← trimUnderscores, ← sanitised, shape] at sublist
  have kept : ∀ c ∈ first :: rest, isNameChar c = true := fun c member => plain c (sublist.subset member)
  have length := sublist.length_le
  rw [List.length_cons] at length
  refine ⟨?_, kept, by omega⟩
  rcases isNameChar_cases (kept first List.mem_cons_self) with letter | digit | underscore
  · exact Or.inl letter
  · exact Or.inr digit
  · exact absurd underscore (of_decide_eq_false (trim_head (· = '_') shape))

/-! What the constructor makes of it. -/

/-- The constructor does not object to the address, whatever comes with it. -/
def AcceptsEmail (lower : Char → Char) (email : String) : Prop :=
  ∀ now username displayName avatarURL, newUser lower now ⟨email, username, displayName, avatarURL⟩ ≠ .error errEmailInvalid

/-- With the address, every display name that fits makes a user who has exactly this username. -/
def AcceptsUsername (lower : Char → Char) (email username : String) : Prop :=
  ∀ now displayName avatarURL, (trimSpace displayName).utf8ByteSize ≤ 100 →
    ∃ user, newUser lower now ⟨email, username, displayName, avatarURL⟩ = .ok user ∧ user.username = username

theorem acceptsEmail_iff (lower : Char → Char) (email : String) :
    AcceptsEmail lower email ↔ emailRe (trimSpace (toLower lower email)) = true := by
  constructor
  · intro accepted
    by_contra refused
    apply accepted 0 "" "" ""
    unfold newUser
    exact if_pos (by simpa using refused)
  · intro fits now username displayName avatarURL refused
    unfold newUser at refused
    dsimp only at refused
    rw [if_neg (by simp [fits])] at refused
    split at refused
    · exact absurd refused (by simp [errUsernameInvalid, errEmailInvalid])
    split at refused
    · exact absurd refused (by simp [errDisplayNameTooLong, errEmailInvalid])
    · cases refused

theorem acceptsUsername_iff {lower : Char → Char} {email : String} (accepted : AcceptsEmail lower email) (username : String) :
    AcceptsUsername lower email username ↔
      usernameRe (trimSpace (toLower lower username)) = true ∧ trimSpace (toLower lower username) = username := by
  have fits := (acceptsEmail_iff lower email).mp accepted
  constructor
  · intro suits
    obtain ⟨user, made, same⟩ := suits 0 "" "" (by decide)
    unfold newUser at made
    dsimp only at made
    rw [if_neg (by simp [fits])] at made
    split at made
    · cases made
    next valid =>
      split at made
      · cases made
      · cases made
        exact ⟨by simpa using valid, same⟩
  · rintro ⟨valid, same⟩ now displayName avatarURL short
    unfold newUser
    dsimp only
    rw [if_neg (by simp [fits]), if_neg (by simp [valid]), if_neg (Nat.not_lt.mpr short)]
    exact ⟨_, rfl, same⟩

theorem newUser_refuses {lower : Char → Char} {email username : String} (accepted : AcceptsEmail lower email)
    (invalid : ¬ usernameRe (trimSpace (toLower lower username)) = true) (now : Time) (displayName avatarURL : String) :
    newUser lower now ⟨email, username, displayName, avatarURL⟩ = .error errUsernameInvalid := by
  have fits := (acceptsEmail_iff lower email).mp accepted
  unfold newUser
  dsimp only
  rw [if_neg (by simp [fits]), if_pos (by simpa using invalid)]

theorem usernameRe_cons {first : Char} {rest : List Char} (plain : ∀ c ∈ rest, isNameChar c = true) :
    usernameRe (String.ofList (first :: rest)) = true ↔ isLowerLetter first = true ∧ 2 ≤ rest.length ∧ rest.length ≤ 31 := by
  have all : rest.all (fun c => isLowerLetter c || isDigit c || c = '_') = true := List.all_eq_true.mpr plain
  rw [usernameRe, String.toList_ofList]
  simp [all, and_assoc]

/-- The local part leaves room for a prefix, or begins with a letter and needs none. -/
def Roomy (p : ProviderProfile) : Prop :=
  (sanitised p).length < 32 ∨ ∃ first rest, sanitised p = first :: rest ∧ isLowerLetter first = true

section Derived
variable {lower : Char → Char} {p : ProviderProfile} (accepted : AcceptsEmail lower p.email) (long : 3 ≤ (sanitised p).length)
include accepted long

theorem deriveUsername_eq : deriveUsername p =
    if (sanitised p).head?.any isLowerLetter then String.ofList (sanitised p) else String.ofList ('u' :: sanitised p) := by
  have given : p.email ≠ "" := by
    intro empty
    have fits := (acceptsEmail_iff lower p.email).mp accepted
    rw [empty] at fits
    exact absurd fits (by simp [toLower, trimSpace, emailRe])
  rw [deriveUsername, if_neg given]
  exact if_neg (Nat.not_lt.mpr long)

/-- A letter and name characters, too many of them exactly if there was no room. -/
theorem deriveUsername_shape : ∃ first rest, deriveUsername p = String.ofList (first :: rest) ∧ isLowerLetter first = true ∧
    (∀ c ∈ first :: rest, isNameChar c = true) ∧ 2 ≤ rest.length ∧ (rest.length ≤ 31 ↔ Roomy p) := by
  rw [deriveUsername_eq accepted long, Roomy]
  cases shape : sanitised p with
  | nil =>
    rw [shape] at long
    cases long
  | cons first rest =>
    obtain ⟨_, plain, short⟩ := sanitised_shape shape
    rw [shape, List.length_cons] at long
    rw [List.head?_cons, Option.any_some, List.length_cons]
    by_cases letter : isLowerLetter first = true
    · refine ⟨first, rest, if_pos letter, letter, plain, by omega, ?_⟩
      exact iff_of_true short (Or.inr ⟨first, rest, rfl, letter⟩)
    · have prefixed : ∀ c ∈ 'u' :: first :: rest, isNameChar c = true := List.forall_mem_cons.mpr ⟨by decide, plain⟩
      refine ⟨'u', first :: rest, if_neg letter, by decide, prefixed, by rw [List.length_cons]; omega, ?_⟩
      rw [List.length_cons]
      constructor
      · intro room
        exact Or.inl (by omega)
      · rintro (room | ⟨_, _, ⟨⟩, lettered⟩)
        · omega
        · exact absurd lettered letter

theorem deriveUsername_valid_iff (fixes : ∀ c, isNameChar c = true → lower c = c) :
    trimSpace (toLower lower (deriveUsername p)) = deriveUsername p ∧ (usernameRe (deriveUsername p) = true ↔ Roomy p) := by
  obtain ⟨first, rest, derived, letter, plain, enough, room⟩ := deriveUsername_shape accepted long
  rw [derived]
  refine ⟨stored_unchanged fixes plain, ?_⟩
  rw [usernameRe_cons (List.forall_mem_cons.mp plain).2, room]
  exact ⟨fun valid => valid.2.2, fun roomy => ⟨letter, enough, roomy⟩⟩

theorem derived_refused (fixes : ∀ c, isNameChar c = true → lower c = c) (full : ¬ Roomy p) (now : Time) (displayName avatarURL : String) :
    newUser lower now ⟨p.email, deriveUsername p, displayName, avatarURL⟩ = .error errUsernameInvalid := by
  obtain ⟨stored, valid⟩ := deriveUsername_valid_iff accepted long fixes
  apply newUser_refuses accepted
  rw [stored, valid]
  exact full

end Derived

/-- The username made up for an accepted address with a local part that is long enough is a
valid one, unless the part fills all 32 characters and does not begin with a letter. -/
theorem derived_username_iff {lower : Char → Char} (fixes : ∀ c, isNameChar c = true → lower c = c) (p : ProviderProfile)
    (accepted : AcceptsEmail lower p.email) (long : 3 ≤ (sanitised p).length) :
    AcceptsUsername lower p.email (deriveUsername p) ↔ Roomy p := by
  obtain ⟨stored, valid⟩ := deriveUsername_valid_iff accepted long fixes
  rw [acceptsUsername_iff accepted, stored, valid]
  exact and_iff_left rfl

def profile (email : String) : ProviderProfile := ⟨"p1", email, "", ""⟩

theorem dotted_name_accepted : AcceptsUsername id "ann.lee@b.c" "ann_lee" := by
  have accepted : AcceptsEmail id "ann.lee@b.c" := (acceptsEmail_iff id _).mpr (by decide)
  have derived : deriveUsername (profile "ann.lee@b.c") = "ann_lee" := by decide
  have suits := (derived_username_iff (fun _ _ => rfl) (profile "ann.lee@b.c") accepted (by decide)).mpr (Or.inl (by decide))
  rw [derived] at suits
  exact suits

def digits : ProviderProfile := profile "12345678901234567890123456789012@b.c"

theorem digits_sanitised : sanitised digits = "12345678901234567890123456789012".toList := by decide +kernel

theorem digits_full : ¬ Roomy digits := by
  rw [Roomy, digits_sanitised]
  rintro (short | ⟨first, rest, shape, letter⟩)
  · exact absurd short (by decide)
  · cases shape
    exact absurd letter (by decide)

/-- Thirty-two digits become a username of 33 characters. -/
theorem digits_refused :
    AcceptsEmail id digits.email ∧ 3 ≤ (sanitised digits).length ∧
      newUser id 0 ⟨digits.email, deriveUsername digits, "", ""⟩ = .error errUsernameInvalid := by
  have accepted : AcceptsEmail id digits.email := (acceptsEmail_iff id _).mpr (by decide +kernel)
  have long : 3 ≤ (sanitised digits).length := by
    rw [digits_sanitised]
    decide
  exact ⟨accepted, long, derived_refused accepted long (fun _ _ => rfl) digits_full 0 "" ""⟩

/-! The sign-in. -/

end VibeSync.Proofs.AuthUsernames
