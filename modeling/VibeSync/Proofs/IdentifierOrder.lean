import Mathlib.Data.String.Basic
import VibeSync.Proofs.Identifiers

/-! Identifiers in the order in which a process draws them. Their texts rise as long
as the clock readings do not fall, and not a step longer. -/

namespace VibeSync.Proofs.IdentifierOrder
open VibeSync.Id VibeSync.Proofs.Identifiers Radix.Alphabet

/-- What is used of the library's source: the time stands in the upper 48 bits, and
within a millisecond each identifier is above the one before. -/
structure Monotonic {Source : Type} (ulid : Ulid Source) : Prop where
  upper : ∀ u, ulid.time u = u.toNat / 2 ^ 80
  stamped : ∀ {ms source u after}, ulid.new ms source = (.ok u, after) → ulid.time u = ms
  rises : ∀ {ms source u middle v after}, ulid.new ms source = (.ok u, middle) → ulid.new ms middle = (.ok v, after) → u.toNat < v.toNat

section Library
variable {Source : Type} {ulid : Ulid Source}

/-- Texts are ordered as their numbers. -/
theorem string_lt_iff (spelling : Crockford ulid) (u v : ULID) : ulid.string u < ulid.string v ↔ u.toNat < v.toNat := by
  have rising : crockford.symbols.Pairwise (· < ·) := by decide
  have left := string_canonical spelling u
  have right := string_canonical spelling v
  rw [String.lt_iff_toList_lt, ← decode_lt_iff rising left.spelled right.spelled (left.length.trans right.length.symm),
    decode_string spelling, decode_string spelling]

/-- A later millisecond decides, and within one the source. -/
theorem Monotonic.lt_iff (monotonic : Monotonic ulid) {first second : Nat} {source middle after : Source} {u v : ULID}
    (before : ulid.new first source = (.ok u, middle)) (next : ulid.new second middle = (.ok v, after)) :
    u.toNat < v.toNat ↔ first ≤ second := by
  have left := monotonic.stamped before
  have right := monotonic.stamped next
  rw [monotonic.upper] at left right
  constructor
  · intro less
    rw [← left, ← right]
    exact Nat.div_le_div_right (Nat.le_of_lt less)
  · intro later
    rcases Nat.lt_or_eq_of_le later with less | rfl
    · exact Nat.lt_of_div_lt_div (by rwa [left, right])
    · exact monotonic.rises before next

theorem newAt_ok {source after : Source} {now : Time} {text : String} (made : newAt ulid source now = (.ok text, after)) :
    ∃ u, ulid.new (ulid.timestamp now) source = (.ok u, after) ∧ text = ulid.string u := by
  unfold newAt at made
  split at made
  · cases made
  next u _ drawn =>
    cases made
    exact ⟨u, drawn, rfl⟩

/-! All that a process draws. -/

def draws (ulid : Ulid Source) (source : Source) : List Time → List (Except Err String)
  | [] => []
  | now :: rest => (newAt ulid source now).1 :: draws ulid (newAt ulid source now).2 rest

theorem draws_cons {source : Source} {now : Time} {rest : List Time} {text : String} {texts : List String}
    (drawn : draws ulid source (now :: rest) = (text :: texts).map .ok) :
    ∃ u after, ulid.new (ulid.timestamp now) source = (.ok u, after) ∧ text = ulid.string u ∧ draws ulid after rest = texts.map .ok := by
  obtain ⟨first, others⟩ := List.cons.inj drawn
  obtain ⟨u, made, rfl⟩ := newAt_ok (Prod.ext first rfl)
  exact ⟨u, _, made, rfl, others⟩

/-- From one identifier on: the texts rise exactly if the readings do not fall. -/
theorem draws_rise_iff (spelling : Crockford ulid) (monotonic : Monotonic ulid) {ms : Nat} {earlier source : Source} {u : ULID}
    (last : ulid.new ms earlier = (.ok u, source)) {readings : List Time} {texts : List String}
    (drawn : draws ulid source readings = texts.map .ok) :
    (ulid.string u :: texts).IsChain (· < ·) ↔ (ms :: readings.map ulid.timestamp).IsChain (· ≤ ·) := by
  induction readings generalizing ms earlier source u texts with
  | nil =>
    cases texts with
    | nil => simp
    | cons text texts => cases drawn
  | cons now rest ih =>
    cases texts with
    | nil => cases drawn
    | cons text texts =>
      obtain ⟨v, after, made, rfl, later⟩ := draws_cons drawn
      rw [List.map_cons, List.isChain_cons_cons, List.isChain_cons_cons, ih made later, string_lt_iff spelling,
        monotonic.lt_iff last made]

theorem draws_times (spelling : Crockford ulid) (monotonic : Monotonic ulid) {source : Source} {readings : List Time}
    {texts : List String} (drawn : draws ulid source readings = texts.map .ok) :
    texts.map (Id.time ulid) = readings.map fun now => .ok (ulid.ofMs (ulid.timestamp now)) := by
  induction readings generalizing source texts with
  | nil =>
    cases texts with
    | nil => rfl
    | cons text texts => cases drawn
  | cons now rest ih =>
    cases texts with
    | nil => cases drawn
    | cons text texts =>
      obtain ⟨u, after, made, rfl, later⟩ := draws_cons drawn
      rw [List.map_cons, List.map_cons, ih later, time_string spelling, monotonic.stamped made]

/-- The texts that a process draws rise exactly if the clock readings do not fall
from one to the next, and each holds its reading. -/
theorem identifiers_rise_iff (spelling : Crockford ulid) (monotonic : Monotonic ulid) (source : Source) (readings : List Time)
    (texts : List String) (drawn : draws ulid source readings = texts.map .ok) :
    (texts.Pairwise (· < ·) ↔ (readings.map ulid.timestamp).Pairwise (· ≤ ·)) ∧
      texts.map (Id.time ulid) = readings.map fun now => .ok (ulid.ofMs (ulid.timestamp now)) := by
  refine ⟨?_, draws_times spelling monotonic drawn⟩
  rw [← List.isChain_iff_pairwise, ← List.isChain_iff_pairwise]
  cases readings with
  | nil =>
    cases texts with
    | nil => simp
    | cons text texts => cases drawn
  | cons now rest =>
    cases texts with
    | nil => cases drawn
    | cons text texts =>
      obtain ⟨u, after, made, rfl, later⟩ := draws_cons drawn
      rw [draws_rise_iff spelling monotonic made later, List.map_cons]

end Library

theorem counting_new {ms : Nat} {source after : Nat × Nat} {u : ULID} (made : counting.new ms source = (.ok u, after)) :
    u.toNat = ms * 2 ^ 80 + after.2 ∧ after.1 = ms ∧ after.2 < 2 ^ 80 ∧ (source.1 = ms → after.2 = source.2 + 1) := by
  simp only [counting] at made
  split at made
  next fits =>
    cases made
    refine ⟨?_, rfl, fits.2, fun same => if_pos same⟩
    dsimp only
    rw [BitVec.toNat_ofNat, Nat.mod_eq_of_lt (by omega)]
  · cases made

theorem counting_monotonic : Monotonic counting := by
  refine ⟨fun _ => rfl, fun made => ?_, fun first second => ?_⟩
  · obtain ⟨value, _, small, _⟩ := counting_new made
    change _ / 2 ^ 80 = _
    omega
  · obtain ⟨value, same, _, _⟩ := counting_new first
    obtain ⟨value', _, _, steps⟩ := counting_new second
    have stepped := steps same
    omega

/-- The third caller has read the clock before the second one. -/
theorem overtaken_falls :
    ∃ texts : List String, draws counting (0, 0) [5000000, 6000000, 5000000] = texts.map .ok ∧ texts.length = 3 ∧
      ¬ texts.Pairwise (· < ·) := by
  have drawn : draws counting (0, 0) [5000000, 6000000, 5000000] =
      [counting.string (BitVec.ofNat 128 (5 * 2 ^ 80)), counting.string (BitVec.ofNat 128 (6 * 2 ^ 80)),
        counting.string (BitVec.ofNat 128 (5 * 2 ^ 80))].map .ok := by
    rfl
  refine ⟨_, drawn, rfl, ?_⟩
  rw [(identifiers_rise_iff counting_crockford counting_monotonic (0, 0) _ _ drawn).1]
  decide

end VibeSync.Proofs.IdentifierOrder
