import VibeSync.Id

/-! Identifiers and their texts. Every ULID is written in a valid text that reads back, but
a valid text may hold two bits more than a ULID has room for. -/

namespace VibeSync.Proofs.Identifiers
open VibeSync.Id Radix.Alphabet

def crockford : Radix.Alphabet Char := ⟨format.toList, by decide, by decide⟩

/-! Canonical characters. -/

theorem canonical_le {c : Char} (canonical : isCanonicalChar c = true) : c.toNat ≤ 90 := by
  have range : c ≤ 'Z' := by
    simp only [isCanonicalChar, Bool.or_eq_true, Bool.and_eq_true, decide_eq_true_iff] at canonical
    rcases canonical with (((((((digit | letter) | rfl) | rfl) | rfl) | rfl) | letter) | letter)
    · exact Char.le_trans digit.2 (by decide)
    · exact Char.le_trans letter.2 (by decide)
    · decide
    · decide
    · decide
    · decide
    · exact Char.le_trans letter.2 (by decide)
    · exact letter.2
  exact range

theorem isCanonicalChar_iff (c : Char) : isCanonicalChar c = true ↔ c ∈ crockford.symbols := by
  have ascii : ∀ n ≤ 90, isCanonicalChar (Char.ofNat n) = true → Char.ofNat n ∈ crockford.symbols := by decide
  have listed : crockford.symbols.all isCanonicalChar = true := by decide
  constructor
  · intro canonical
    have member := ascii c.toNat (canonical_le canonical)
    rw [Char.ofNat_toNat] at member
    exact member canonical
  · exact List.all_eq_true.mp listed c

/-- The characters of the first three bits. -/
theorem index_small_iff {c : Char} (member : c ∈ crockford.symbols) : crockford.index c < 8 ↔ ¬ '7' < c := by
  have small : crockford.symbols.all (fun d => crockford.index d < 8 ↔ ¬ '7' < d) = true := by decide
  exact of_decide_eq_true (List.all_eq_true.mp small c member)

/-! Canonical texts. -/

structure Canonical (s : String) : Prop where
  length : s.toList.length = 26
  spelled : crockford.Spells s.toList

theorem canonicalRe_iff (s : String) : canonicalRe s = true ↔ Canonical s := by
  rw [canonicalRe, Bool.and_eq_true, decide_eq_true_iff, List.all_eq_true]
  constructor
  · exact fun both => ⟨both.1, fun c member => (isCanonicalChar_iff c).mp (both.2 c member)⟩
  · exact fun canonical => ⟨canonical.length, fun c member => (isCanonicalChar_iff c).mpr (canonical.spelled c member)⟩

theorem valid_iff (s : String) : valid s = true ↔ Canonical s := by
  rw [← canonicalRe_iff, valid, validate]
  cases canonicalRe s <;> decide

/-- The first character has more than three bits. -/
def Overflows (s : String) : Prop := ∃ c ∈ s.toList.head?, '7' < c

/-- A canonical text is a number of 128 bits exactly when its first character has three. -/
theorem Canonical.decode_lt_iff {s : String} (canonical : Canonical s) :
    crockford.decode s.toList < 2 ^ 128 ↔ ¬ Overflows s := by
  obtain ⟨length, spelled⟩ := canonical
  unfold Overflows
  cases text : s.toList with
  | nil =>
    rw [text] at length
    cases length
  | cons c rest =>
    rw [text] at length spelled
    obtain ⟨first, others⟩ := List.forall_mem_cons.mp spelled
    have below : crockford.decode rest < 32 ^ 25 := by
      have below := decode_lt others
      rwa [Nat.succ.inj length] at below
    have parts : crockford.decode (c :: rest) = crockford.decode rest + 32 ^ 25 * crockford.index c := by
      rw [decode_cons, Nat.succ.inj length]
      rfl
    have room : crockford.decode (c :: rest) < 2 ^ 128 ↔ crockford.index c < 8 := by
      rw [parts]
      omega
    rw [room, index_small_iff first]
    simp

/-- What is used of the library's texts: a canonical text that is too large is
refused, and otherwise they are written and read in Crockford's base 32. -/
structure Crockford {Source : Type} (ulid : Ulid Source) : Prop where
  refuses : ∀ s, Canonical s → Overflows s → ∃ err, ulid.parse s = .error err
  reads : ∀ s, Canonical s → ¬ Overflows s → ulid.parse s = .ok (BitVec.ofNat 128 (crockford.decode s.toList))
  writes : ∀ u, ulid.string u = String.ofList (crockford.encode 26 u.toNat)

section Library
variable {Source : Type} {ulid : Ulid Source}

theorem Canonical.parse_eq {s : String} (canonical : Canonical s) : parse ulid s = ulid.parse s := by
  rw [parse, validate, (canonicalRe_iff s).mpr canonical]
  rfl

theorem Canonical.parses (spelling : Crockford ulid) {s : String} (canonical : Canonical s) (fits : ¬ Overflows s) :
    ∃ u, parse ulid s = .ok u ∧ ulid.string u = s := by
  refine ⟨_, canonical.parse_eq.trans (spelling.reads s canonical fits), ?_⟩
  rw [spelling.writes, BitVec.toNat_ofNat, Nat.mod_eq_of_lt (canonical.decode_lt_iff.mpr fits), ← canonical.length,
    encode_decode canonical.spelled, String.ofList_toList]

theorem parse_canonical (spelling : Crockford ulid) {s : String} {u : ULID} (parsed : parse ulid s = .ok u) :
    Canonical s ∧ ¬ Overflows s := by
  cases matched : canonicalRe s with
  | false =>
    rw [parse, validate, matched] at parsed
    cases parsed
  | true =>
    have canonical := (canonicalRe_iff s).mp matched
    refine ⟨canonical, fun overflow => ?_⟩
    obtain ⟨err, refused⟩ := spelling.refuses s canonical overflow
    cases (canonical.parse_eq.trans refused).symm.trans parsed

/-! Texts of identifiers. -/

theorem toNat_lt (u : ULID) : u.toNat < crockford.base ^ 26 := Nat.lt_of_lt_of_le u.isLt (by decide)

section Spelling
variable (spelling : Crockford ulid)
include spelling

theorem decode_string (u : ULID) : crockford.decode (ulid.string u).toList = u.toNat := by
  rw [spelling.writes, String.toList_ofList, decode_encode (toNat_lt u)]

theorem string_canonical (u : ULID) : Canonical (ulid.string u) := by
  constructor
  · rw [spelling.writes, String.toList_ofList, encode_length (toNat_lt u)]
  · rw [spelling.writes, String.toList_ofList]
    exact encode_spells 26 u.toNat

theorem string_fits (u : ULID) : ¬ Overflows (ulid.string u) := by
  rw [← (string_canonical spelling u).decode_lt_iff, decode_string spelling]
  exact u.isLt

/-- Every identifier reads back, with its time. -/
theorem parse_string (u : ULID) : parse ulid (ulid.string u) = .ok u := by
  have canonical := string_canonical spelling u
  rw [canonical.parse_eq, spelling.reads _ canonical (string_fits spelling u), decode_string spelling, BitVec.ofNat_toNat, BitVec.setWidth_eq]

theorem time_string (u : ULID) : time ulid (ulid.string u) = .ok (ulid.ofMs (ulid.time u)) := by
  rw [time, parse_string spelling]
  rfl

/-- Validity is parseability exactly of the texts that do not overflow. -/
theorem valid_iff_parses (s : String) :
    (valid s = true ↔ ∃ u, parse ulid s = .ok u ∧ ulid.string u = s) ↔ ¬ (valid s = true ∧ Overflows s) := by
  rw [valid_iff]
  constructor
  · rintro same ⟨canonical, overflow⟩
    obtain ⟨u, parsed, _⟩ := same.mp canonical
    exact (parse_canonical spelling parsed).2 overflow
  · intro fits
    constructor
    · exact fun canonical => canonical.parses spelling fun overflow => fits ⟨canonical, overflow⟩
    · rintro ⟨u, parsed, _⟩
      exact (parse_canonical spelling parsed).1

end Spelling

end Library

def counted (ms : Nat) (source : Nat × Nat) : Nat := if source.1 = ms then source.2 + 1 else 0

def errOverflow : Err := .plain "ulid: overflow when unmarshaling"

/-- A library whose source counts within a millisecond. -/
def counting : Ulid (Nat × Nat) where
  parse s :=
    if s.toList.head?.any ('7' < ·) then .error errOverflow else .ok (BitVec.ofNat 128 (crockford.decode s.toList))
  string u := String.ofList (crockford.encode 26 u.toNat)
  time u := u.toNat / 2 ^ 80
  ofMs ms := ms * 1000000
  timestamp now := (now / 1000000).toNat
  new ms source :=
    if ms < 2 ^ 48 ∧ counted ms source < 2 ^ 80 then
      (.ok (BitVec.ofNat 128 (ms * 2 ^ 80 + counted ms source)), (ms, counted ms source))
    else (.error (.plain "ulid: monotonic entropy overflow"), source)

theorem counting_crockford : Crockford counting := by
  refine ⟨fun s _ ⟨c, first, above⟩ => ⟨_, if_pos ?_⟩, fun s _ fits => if_neg fun above => fits ?_, fun _ => rfl⟩
  · rw [first]
    simpa using above
  · simpa [Overflows, Option.any_eq_true] using above

theorem short_parses : valid "01ARZ3NDEKTSV4RRFFQ69G5FAV" = true ↔
    ∃ u, parse counting "01ARZ3NDEKTSV4RRFFQ69G5FAV" = .ok u ∧ counting.string u = "01ARZ3NDEKTSV4RRFFQ69G5FAV" := by
  refine (valid_iff_parses counting_crockford _).mpr ?_
  rintro ⟨_, c, first, above⟩
  cases first
  exact absurd above (by decide)

/-- The least text that overflows is valid and does not parse. -/
theorem eight_overflows :
    valid "80000000000000000000000000" = true ∧ parse counting "80000000000000000000000000" = .error errOverflow ∧
      ¬ ∃ u, parse counting "80000000000000000000000000" = .ok u ∧ counting.string u = "80000000000000000000000000" := by
  have refused : parse counting "80000000000000000000000000" = .error errOverflow := rfl
  refine ⟨by decide, refused, ?_⟩
  rintro ⟨u, parsed, _⟩
  cases refused.symm.trans parsed

end VibeSync.Proofs.Identifiers
