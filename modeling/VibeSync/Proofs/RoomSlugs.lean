import VibeSync.Rooms.Domain
import VibeSync.Words

/-! Slugs of rooms. The words of the name are joined by dashes and then cut, and the
cut may leave a dash at the end, in front of the dash of the suffix. -/

namespace VibeSync.Proofs.RoomSlugs
open VibeSync.Rooms Words

/-- `[a-z0-9]+(-[a-z0-9]+)*`. -/
def Kebab (slug : String) : Prop := Joined isSlugChar '-' slug.toList

def nameWords (name : String) : List (List Char) := words isSlugChar ((trimSpace name).toList.map lower)

/-- The joined words are too long, and the cut falls right behind a dash. -/
def CutAtDash (name : String) : Prop :=
  maxSlugLen - 8 < (['-'].intercalate (nameWords name)).length ∧ Breaks '-' (nameWords name) (maxSlugLen - 9)

theorem dash_outside : isSlugChar '-' = false := by decide

theorem dashRuns_eq_squeeze (inRun : Bool) (text : List Char) : dashRuns inRun text = squeeze isSlugChar '-' inRun text := by
  induction text generalizing inRun with
  | nil => rfl
  | cons c text ih => simp only [dashRuns, squeeze, ih]

/-! The part of a slug that comes from the name. -/

def slugBody (name : String) : List Char :=
  let joined := ['-'].intercalate (nameWords name)
  if joined.length > maxSlugLen - 8 then joined.take (maxSlugLen - 9) else joined

theorem generateSlug_eq (random : List UInt8) (name : String) :
    (generateSlug random name).toList =
      if slugBody name = [] then randomSlugSuffix random else slugBody name ++ '-' :: randomSlugSuffix random := by
  have trimmed := trim_squeeze dash_outside ((trimSpace name).toList.map lower)
  rw [← dashRuns_eq_squeeze] at trimmed
  unfold generateSlug
  dsimp only
  rw [trimmed]
  change (if slugBody name = [] then String.ofList _ else String.ofList (slugBody name ++ _)).toList = _
  split
  · rw [String.toList_ofList]
  · rw [String.toList_ofList]

theorem slugBody_length (name : String) : (slugBody name).length ≤ maxSlugLen - 8 := by
  unfold slugBody
  dsimp only
  split
  · exact (List.length_take_le _ _).trans (by decide)
  · omega

theorem slugBody_joined_iff (name : String) : slugBody name = [] ∨ Joined isSlugChar '-' (slugBody name) ↔ ¬ CutAtDash name := by
  have proper : Proper isSlugChar (nameWords name) := words_proper isSlugChar _
  unfold slugBody CutAtDash
  dsimp only
  rw [not_and]
  split
  next long =>
    have some_left : 0 < maxSlugLen - 9 := by decide
    have some_cut : maxSlugLen - 9 ≤ (['-'].intercalate (nameWords name)).length := (Nat.le_succ _).trans long.le
    have some_body : (['-'].intercalate (nameWords name)).take (maxSlugLen - 9) ≠ [] := by
      rw [Ne, ← List.length_eq_zero_iff, List.length_take_of_le some_cut]
      exact some_left.ne'
    rw [or_iff_right some_body, joined_take_iff dash_outside proper some_left some_cut]
    exact ⟨fun whole _ => whole, fun whole => whole long⟩
  next short =>
    refine iff_of_true ?_ fun long => absurd long short
    rcases eq_or_ne (nameWords name) [] with none | some_words
    · exact .inl (by rw [none, List.intercalate_nil])
    · exact .inr ⟨nameWords name, some_words, proper, rfl⟩

/-! The random part. -/

theorem suffix_plain (random : List UInt8) : ∀ c ∈ randomSlugSuffix random, isSlugChar c = true := by
  intro c member
  obtain ⟨b, _, rfl⟩ := List.mem_map.mp member
  have plain : ∀ n < slugAlphabet.length, isSlugChar (slugAlphabet.getD n 'a') = true := by decide
  exact plain _ (Nat.mod_lt _ (by decide))

theorem suffix_length (random : List UInt8) : (randomSlugSuffix random).length = random.length := List.length_map _

theorem suffix_joined {random : List UInt8} (six : random.length = 6) : Joined isSlugChar '-' (randomSlugSuffix random) := by
  refine joined_word (fun empty => ?_) (suffix_plain random)
  have length := suffix_length random
  rw [empty, six] at length
  cases length

/-! The whole slug. -/

theorem slug_length {random : List UInt8} (six : random.length = 6) (name : String) :
    (generateSlug random name).length ≤ maxSlugLen - 1 := by
  have body : (slugBody name).length ≤ 56 := slugBody_length name
  have suffix := suffix_length random
  rw [six] at suffix
  rw [← String.length_toList, generateSlug_eq]
  split
  · rw [suffix]
    decide
  · rw [List.length_append, List.length_cons, suffix]
    exact Nat.add_le_add_right body 7

theorem slug_joined_iff {random : List UInt8} (six : random.length = 6) (name : String) :
    Kebab (generateSlug random name) ↔ slugBody name = [] ∨ Joined isSlugChar '-' (slugBody name) := by
  have suffix := suffix_joined six
  unfold Kebab
  rw [generateSlug_eq]
  split
  next empty => exact iff_of_true suffix (.inl empty)
  next some_body => rw [joined_append_cons dash_outside, or_iff_right some_body, and_iff_left suffix]

theorem kebab_iff {random : List UInt8} (six : random.length = 6) (name : String) :
    Kebab (generateSlug random name) ↔ ¬ CutAtDash name :=
  (slug_joined_iff six name).trans (slugBody_joined_iff name)

/-- A slug always fits. It is in kebab case unless the cut leaves a dash. -/
theorem slug_kebab_iff (random : List UInt8) (six : random.length = 6) (name : String) :
    (generateSlug random name).length ≤ maxSlugLen ∧ (Kebab (generateSlug random name) ↔ ¬ CutAtDash name) :=
  ⟨(slug_length six name).trans (Nat.sub_le _ _), kebab_iff six name⟩

theorem short_name_kebab : Kebab (generateSlug [0, 27, 1, 28, 2, 29] "My Cool Room!") :=
  (slug_kebab_iff [0, 27, 1, 28, 2, 29] rfl "My Cool Room!").2.mpr fun cut => absurd cut.1 (by decide +kernel)

/-- A room gets the slug of its trimmed name. -/
theorem newRoom_slug {now : Time} {id ownerID : String} {random : List UInt8} {p : NewRoomParams} (named : trimSpace p.name ≠ "")
    (short : (trimSpace p.name).utf8ByteSize ≤ maxRoomName) :
    ∃ room, newRoom now id ownerID random p = .ok room ∧ room.slug = generateSlug random (trimSpace p.name) := by
  unfold newRoom
  dsimp only
  rw [if_neg named, if_neg (Nat.not_lt.mpr short)]
  refine ⟨_, rfl, ?_⟩
  dsimp only

def longName : String := "aaaaaaaaaaaaaaaaaaaaaaaaaaaaaaaaaaaaaaaaaaaaaaaaaaaaaa bb"

theorem longName_trimmed : trimSpace longName = longName := by decide +kernel

theorem longName_words : nameWords longName = [List.replicate 54 'a', ['b', 'b']] := by
  rw [nameWords, longName_trimmed]
  decide +kernel

theorem longName_cut : CutAtDash longName := by
  rw [CutAtDash, longName_words]
  exact ⟨by decide, [List.replicate 54 'a'], [['b', 'b']], rfl, by decide, by decide, by decide⟩

theorem longName_slug :
    generateSlug [0, 27, 1, 28, 2, 29] longName = "aaaaaaaaaaaaaaaaaaaaaaaaaaaaaaaaaaaaaaaaaaaaaaaaaaaaaa--a1b2c3" := by
  apply String.toList_injective
  rw [generateSlug_eq, slugBody, longName_words]
  decide +kernel

/-- Two dashes in a row: the name is 57 characters long and its first word ends at the cut. -/
theorem long_name_two_dashes :
    ∃ room, newRoom 0 "01ROOM" "01OWNER" [0, 27, 1, 28, 2, 29] ⟨longName, "", visibilityPublic, none⟩ = .ok room ∧
      room.slug = "aaaaaaaaaaaaaaaaaaaaaaaaaaaaaaaaaaaaaaaaaaaaaaaaaaaaaa--a1b2c3" ∧ ¬ Kebab room.slug := by
  obtain ⟨room, accepted, same⟩ := @newRoom_slug 0 "01ROOM" "01OWNER" [0, 27, 1, 28, 2, 29] ⟨longName, "", visibilityPublic, none⟩
    (by rw [longName_trimmed]; decide) (by rw [longName_trimmed]; decide)
  rw [longName_trimmed] at same
  refine ⟨room, accepted, same.trans longName_slug, ?_⟩
  rw [same, kebab_iff rfl]
  exact not_not_intro longName_cut

end VibeSync.Proofs.RoomSlugs
