import VibeSync.Proofs.TransactionLogic
import VibeSync.Proofs.AuthReuse
import VibeSync.Proofs.AuthTables

/-! Rotation chains under interleaved logins, refreshes and logouts. The status
that a refresh classifies is read without a lock, so the chain stays linear as
long as the later UPDATE still finds the row active. -/

namespace VibeSync.Proofs.AuthRotation
open VibeSync.Auth Transaction VibeSync.Proofs.AuthTables

section Chains
variable [Collation]

def Dead (row : RefreshToken) : Prop := row.status = .revoked ∨ row.status = .compromised

structure Linear (store : Store database) : Prop where
  keyed : ∀ id row, Tables.token store id = some row → row.id = id
  parents : ∀ id row, Tables.token store id = some row → row.rotatedFrom ≠ "" →
    ∃ parent, Tables.token store row.rotatedFrom = some parent
  single : ∀ id other row next, Tables.token store id = some row → Tables.token store other = some next →
    row.rotatedFrom ≠ "" → row.rotatedFrom = next.rotatedFrom → id = other
  leaf : ∀ id other row next, Tables.token store id = some row → row.status = .active →
    Tables.token store other = some next → next.rotatedFrom ≠ "" → next.rotatedFrom ≠ id
  active : ∀ id other row next, Tables.token store id = some row → Tables.token store other = some next →
    row.status = .active → next.status = .active → row.familyID = next.familyID → id = other
  families : ∀ id row, Tables.token store id = some row → (store (.family row.familyID)).isSome

theorem Linear.of_empty {store : Store database} (empty : ∀ id, Tables.token store id = none) : Linear store := by
  constructor <;> intro id <;> simp [empty]

/-- Rows are never deleted, keep their place in the chain, and stay dead. -/
structure Keeps (before after : Store database) : Prop where
  rows : ∀ id row, Tables.token before id = some row → ∃ later, Tables.token after id = some later ∧
    later.familyID = row.familyID ∧ later.rotatedFrom = row.rotatedFrom ∧ (Dead row → Dead later)
  families : ∀ family, (before (.family family)).isSome → (after (.family family)).isSome

theorem Keeps.refl (store : Store database) : Keeps store store :=
  ⟨fun _ row found => ⟨row, found, rfl, rfl, id⟩, fun _ present => present⟩

theorem Keeps.trans {first middle last : Store database} (left : Keeps first middle) (right : Keeps middle last) :
    Keeps first last := by
  refine ⟨fun id row found => ?_, fun family present => right.families family (left.families family present)⟩
  obtain ⟨between, there, family, chain, dead⟩ := left.rows id row found
  obtain ⟨later, here, laterFamily, laterChain, laterDead⟩ := right.rows id between there
  exact ⟨later, here, laterFamily.trans family, laterChain.trans chain, fun gone => laterDead (dead gone)⟩

/-- The row's latest committed status is still active when it is marked used. -/
def FindsActive (store : Store database) : Statement → Prop
  | .markUsed id _ => ∃ row, Tables.token store id = some row ∧ row.status = .active
  | _ => True

def rules : Rules database where
  invariant := Linear
  guarantee := fun store writes => Keeps store (store.write writes)
  allowed := FindsActive

/-! What a commit may do to a linear store: retire rows and add one token. -/

/-- Every row of `after` was there before, in the same place of the chain, and
was active if it is active now. -/
def Retires (before after : Store database) : Prop :=
  ∀ id row, Tables.token after id = some row → ∃ old, Tables.token before id = some old ∧ row.id = old.id ∧
    row.rotatedFrom = old.rotatedFrom ∧ row.familyID = old.familyID ∧ (row.status = .active → old.status = .active)

theorem Linear.retire {before after : Store database} (linear : Linear before) (keeps : Keeps before after)
    (retires : Retires before after) : Linear after := by
  constructor
  · intro id row found
    obtain ⟨old, present, same, _⟩ := retires id row found
    exact same.trans (linear.keyed id old present)
  · intro id row found rotated
    obtain ⟨old, present, _, chain, _⟩ := retires id row found
    rw [chain] at rotated ⊢
    obtain ⟨parent, held⟩ := linear.parents id old present rotated
    obtain ⟨later, stays, _⟩ := keeps.rows _ parent held
    exact ⟨later, stays⟩
  · intro id other row next found there rotated equal
    obtain ⟨old, present, _, chain, _⟩ := retires id row found
    obtain ⟨prior, held, _, link, _⟩ := retires other next there
    rw [chain] at rotated equal
    exact linear.single id other old prior present held rotated (equal.trans link)
  · intro id other row next found live there rotated
    obtain ⟨old, present, _, _, _, active⟩ := retires id row found
    obtain ⟨prior, held, _, link, _⟩ := retires other next there
    rw [link] at rotated ⊢
    exact linear.leaf id other old prior present (active live) held rotated
  · intro id other row next found there live alive family
    obtain ⟨old, present, _, _, same, active⟩ := retires id row found
    obtain ⟨prior, held, _, _, equal, awake⟩ := retires other next there
    exact linear.active id other old prior present held (active live) (awake alive)
      (same.symm.trans (family.trans equal))
  · intro id row found
    obtain ⟨old, present, _, _, same, _⟩ := retires id row found
    rw [same]
    exact keeps.families _ (linear.families id old present)

/-- The token that may be added: a root of an unused family, or the successor
of a row that is no longer active and has none yet. -/
structure Addition (before after : Store database) (child : RefreshToken) : Prop where
  fresh : Tables.token before child.id = none
  lookup : ∀ id, Tables.token after id = if id = child.id then some child else Tables.token before id
  families : ∀ family, (before (.family family)).isSome → (after (.family family)).isSome
  indexed : (after (.family child.familyID)).isSome
  quiet : ∀ id row, Tables.token before id = some row → row.familyID = child.familyID → row.status ≠ .active
  parent : child.rotatedFrom ≠ "" → ∃ row, Tables.token before child.rotatedFrom = some row ∧ row.status ≠ .active
  childless : ∀ id row, Tables.token before id = some row → child.rotatedFrom ≠ "" → row.rotatedFrom ≠ child.rotatedFrom

theorem Addition.ne_child {before after : Store database} {child : RefreshToken} (adds : Addition before after child)
    {id : String} {row : RefreshToken} (found : Tables.token before id = some row) : id ≠ child.id := by
  rintro rfl
  rw [adds.fresh] at found
  cases found

theorem Addition.old {before after : Store database} {child : RefreshToken} (adds : Addition before after child)
    {id : String} {row : RefreshToken} (found : Tables.token before id = some row) :
    Tables.token after id = some row := by
  rw [adds.lookup, if_neg (adds.ne_child found)]
  exact found

theorem Addition.cases {before after : Store database} {child : RefreshToken} (adds : Addition before after child)
    {id : String} {row : RefreshToken} (found : Tables.token after id = some row) :
    (id = child.id ∧ row = child) ∨ Tables.token before id = some row := by
  rw [adds.lookup] at found
  split at found
  · next same =>
    cases found
    exact Or.inl ⟨same, rfl⟩
  · exact Or.inr found

theorem Linear.add {before after : Store database} {child : RefreshToken} (linear : Linear before)
    (adds : Addition before after child) : Linear after := by
  have unreferenced : ∀ id row, Tables.token before id = some row → row.rotatedFrom ≠ "" →
      row.rotatedFrom ≠ child.id := by
    intro id row found rotated
    obtain ⟨parent, held⟩ := linear.parents id row found rotated
    exact adds.ne_child held
  have notItself : child.rotatedFrom ≠ "" → child.rotatedFrom ≠ child.id := by
    intro rotated
    obtain ⟨row, held, _⟩ := adds.parent rotated
    exact adds.ne_child held
  constructor
  · intro id row found
    rcases adds.cases found with ⟨rfl, rfl⟩ | present
    · rfl
    · exact linear.keyed id row present
  · intro id row found rotated
    rcases adds.cases found with ⟨rfl, rfl⟩ | present
    · obtain ⟨parent, held, _⟩ := adds.parent rotated
      exact ⟨parent, adds.old held⟩
    · obtain ⟨parent, held⟩ := linear.parents id row present rotated
      exact ⟨parent, adds.old held⟩
  · intro id other row next found there rotated equal
    rcases adds.cases found with ⟨rfl, rfl⟩ | present <;> rcases adds.cases there with ⟨rfl, rfl⟩ | held
    · rfl
    · exact absurd equal.symm (adds.childless other next held rotated)
    · exact absurd equal (adds.childless id row present (equal ▸ rotated))
    · exact linear.single id other row next present held rotated equal
  · intro id other row next found live there rotated
    rcases adds.cases found with ⟨rfl, rfl⟩ | present <;> rcases adds.cases there with ⟨rfl, rfl⟩ | held
    · exact notItself rotated
    · exact unreferenced other next held rotated
    · intro same
      obtain ⟨parent, here, inactive⟩ := adds.parent rotated
      rw [same, present] at here
      cases here
      exact inactive live
    · exact linear.leaf id other row next present live held rotated
  · intro id other row next found there live alive family
    rcases adds.cases found with ⟨rfl, rfl⟩ | present <;> rcases adds.cases there with ⟨rfl, rfl⟩ | held
    · rfl
    · exact absurd alive (adds.quiet other next held family.symm)
    · exact absurd live (adds.quiet id row present family)
    · exact linear.active id other row next present held live alive family
  · intro id row found
    rcases adds.cases found with ⟨rfl, rfl⟩ | present
    · exact adds.indexed
    · exact adds.families _ (linear.families id row present)

theorem Keeps.add {before after : Store database} {child : RefreshToken} (adds : Addition before after child) :
    Keeps before after :=
  ⟨fun _ row found => ⟨row, adds.old found, rfl, rfl, id⟩, adds.families⟩

/-! Assertions about the uncommitted writes of one call. -/

/-- The row has been seen; the call has written nothing. -/
structure Known (rt : RefreshToken) (store : Store database) (own : Writes database) : Prop where
  silent : own = Writes.empty
  present : ∃ row, Tables.token store rt.id = some row ∧ row.familyID = rt.familyID

theorem known_stable (rt : RefreshToken) : rules.Stable (Known rt) := by
  rintro store own other _ keeps _ ⟨silent, row, found, family⟩
  obtain ⟨later, held, same, _⟩ := keeps.rows rt.id row found
  exact ⟨silent, later, held, same.trans family⟩

/-- How a status UPDATE changes a row. -/
structure Retired (row changed : RefreshToken) : Prop where
  id : changed.id = row.id
  chain : changed.rotatedFrom = row.rotatedFrom
  family : changed.familyID = row.familyID
  inactive : changed.status ≠ .active
  dead : Dead row → Dead changed

omit [Collation] in
theorem retired_markUsed {row : RefreshToken} (now : Time) (live : row.status = .active) :
    Retired row (row.markUsed now) :=
  ⟨rfl, rfl, rfl, by simp [RefreshToken.markUsed], by simp [Dead, live]⟩

omit [Collation] in
theorem retired_markRevoked (row : RefreshToken) (now : Time) : Retired row (row.markRevoked now) :=
  ⟨rfl, rfl, rfl, by simp [RefreshToken.markRevoked], fun _ => Or.inl rfl⟩

/-- One committed row has been updated. -/
structure Updated (row changed : RefreshToken) (store : Store database) (own : Writes database) : Prop where
  committed : Tables.token store row.id = some row
  changed : own (.token row.id) = some (some changed)
  others : ∀ id, id ≠ row.id → own (.token id) = none
  families : ∀ family, own (.family family) = none

theorem updated_stable (row changed : RefreshToken) : rules.Stable (Updated row changed) := by
  rintro store own other _ _ apart holds
  exact { holds with committed := (Store.write_locked apart holds.changed store).trans holds.committed }

section Updated
variable {row changed : RefreshToken} {store : Store database} {own : Writes database}

theorem Updated.lookup (updated : Updated row changed store own) (id : String) :
    Tables.token (store.write own) id = if id = row.id then some changed else Tables.token store id := by
  rw [token_write]
  split
  · next same =>
    rw [same, updated.changed]
    rfl
  · next different =>
    rw [updated.others id different]
    rfl

theorem Updated.family (updated : Updated row changed store own) (family : String) :
    store.write own (.family family) = store (.family family) :=
  Store.write_of_none (updated.families family) store

theorem Updated.keeps (updated : Updated row changed store own) (retired : Retired row changed) :
    Keeps store (store.write own) := by
  refine ⟨fun id old found => ?_, fun family present => by rwa [updated.family]⟩
  rw [updated.lookup]
  split
  · next same =>
    rw [same, updated.committed] at found
    cases found
    exact ⟨changed, rfl, retired.family, retired.chain, retired.dead⟩
  · exact ⟨old, found, rfl, rfl, fun dead => dead⟩

theorem Updated.retires (updated : Updated row changed store own) (retired : Retired row changed) :
    Retires store (store.write own) := by
  intro id new found
  rw [updated.lookup] at found
  split at found
  · next same =>
    cases found
    rw [same]
    exact ⟨row, updated.committed, retired.id, retired.chain, retired.family, fun live => absurd live retired.inactive⟩
  · exact ⟨new, found, rfl, rfl, rfl, fun live => live⟩

theorem Updated.commit (updated : Updated row changed store own) (retired : Retired row changed)
    (linear : Linear store) : Keeps store (store.write own) ∧ Linear (store.write own) :=
  ⟨updated.keeps retired, linear.retire (updated.keeps retired) (updated.retires retired)⟩

end Updated

/-- The presented row is updated and its successor has been inserted. -/
structure Rotating (row changed child : RefreshToken) (store : Store database) (own : Writes database) : Prop where
  committed : Tables.token store row.id = some row
  changed : own (.token row.id) = some (some changed)
  absent : Tables.token store child.id = none
  created : own (.token child.id) = some (some child)
  others : ∀ id, id ≠ row.id → id ≠ child.id → own (.token id) = none
  families : ∀ family, own (.family family) = none

theorem rotating_stable (row changed child : RefreshToken) : rules.Stable (Rotating row changed child) := by
  rintro store own other _ _ apart holds
  exact { holds with
    committed := (Store.write_locked apart holds.changed store).trans holds.committed
    absent := (Store.write_locked apart holds.created store).trans holds.absent }

def without (own : Writes database) (key : Key) : Writes database := fun other => if other = key then none else own other

section Rotating
variable {row changed child : RefreshToken} {store : Store database} {own : Writes database}

theorem Rotating.different (rotating : Rotating row changed child store own) : row.id ≠ child.id := by
  intro same
  have committed := rotating.committed
  rw [same, rotating.absent] at committed
  cases committed

theorem Rotating.updated (rotating : Rotating row changed child store own) :
    Updated row changed store (without own (.token child.id)) := by
  refine ⟨rotating.committed, ?_, ?_, ?_⟩
  · simp [without, rotating.different, rotating.changed]
  · intro id different
    by_cases same : id = child.id
    · simp [without, same]
    · simp [without, same, rotating.others id different same]
  · intro family
    simp [without, rotating.families family]

theorem Rotating.adds (rotating : Rotating row changed child store own) (retired : Retired row changed)
    (linear : Linear store) (live : row.status = .active) (chain : child.rotatedFrom = row.id)
    (family : child.familyID = row.familyID) :
    Addition (store.write (without own (.token child.id))) (store.write own) child := by
  have updated := rotating.updated
  have same : ∀ name, store.write own (.family name) = store (.family name) := fun name =>
    Store.write_of_none (rotating.families name) store
  refine ⟨?_, ?_, ?_, ?_, ?_, ?_, ?_⟩
  · rw [updated.lookup, if_neg rotating.different.symm]
    exact rotating.absent
  · intro id
    rw [updated.lookup, token_write]
    by_cases new : id = child.id
    · rw [if_pos new, new, rotating.created]
      rfl
    by_cases old : id = row.id
    · rw [if_neg new, if_pos old, old, rotating.changed]
      rfl
    · rw [if_neg new, if_neg old, rotating.others id old new]
      rfl
  · intro name present
    rw [updated.family] at present
    rwa [same]
  · rw [same, family]
    exact linear.families _ row rotating.committed
  · intro id other found member active
    obtain ⟨before, held, _, _, kin, was⟩ := updated.retires retired id other found
    have here : id = row.id := linear.active id row.id before row held rotating.committed (was active) live
      (kin.symm.trans (member.trans family))
    rw [updated.lookup, if_pos here] at found
    cases found
    exact retired.inactive active
  · intro _
    refine ⟨changed, ?_, retired.inactive⟩
    rw [updated.lookup, if_pos chain]
  · intro id other found rotated
    obtain ⟨before, held, _, link, _⟩ := updated.retires retired id other found
    intro equal
    rw [chain] at rotated equal
    exact linear.leaf row.id id row before rotating.committed live held (by rw [← link, equal]; exact rotated)
      (by rw [← link, equal])

theorem Rotating.commit (rotating : Rotating row changed child store own) (retired : Retired row changed)
    (linear : Linear store) (live : row.status = .active) (chain : child.rotatedFrom = row.id)
    (family : child.familyID = row.familyID) : Keeps store (store.write own) ∧ Linear (store.write own) := by
  obtain ⟨keeps, middle⟩ := rotating.updated.commit retired linear
  have adds := rotating.adds retired linear live chain family
  exact ⟨keeps.trans (Keeps.add adds), middle.add adds⟩

end Rotating

/-- A session of a new family has been inserted. -/
structure Opened (family : String) (store : Store database) (own : Writes database) : Prop where
  unused : store (.family family) = none
  opened : ∃ session, own (.family family) = some (some session)
  tokens : ∀ id, own (.token id) = none
  others : ∀ other, other ≠ family → own (.family other) = none

theorem opened_stable (family : String) : rules.Stable (Opened family) := by
  rintro store own other _ _ apart holds
  obtain ⟨session, opened⟩ := holds.opened
  exact { holds with unused := (Store.write_locked apart opened store).trans holds.unused }

/-- The root token of the new family has been inserted as well. -/
structure Rooted (child : RefreshToken) (store : Store database) (own : Writes database) : Prop where
  unused : store (.family child.familyID) = none
  opened : ∃ session, own (.family child.familyID) = some (some session)
  absent : Tables.token store child.id = none
  created : own (.token child.id) = some (some child)
  tokens : ∀ id, id ≠ child.id → own (.token id) = none
  others : ∀ other, other ≠ child.familyID → own (.family other) = none

theorem rooted_stable (child : RefreshToken) : rules.Stable (Rooted child) := by
  rintro store own other _ _ apart holds
  obtain ⟨session, opened⟩ := holds.opened
  exact { holds with
    unused := (Store.write_locked apart opened store).trans holds.unused
    absent := (Store.write_locked apart holds.created store).trans holds.absent }

theorem Rooted.adds {child : RefreshToken} {store : Store database} {own : Writes database}
    (rooted : Rooted child store own) (linear : Linear store) (root : child.rotatedFrom = "") :
    Addition store (store.write own) child := by
  obtain ⟨session, opened⟩ := rooted.opened
  refine ⟨rooted.absent, ?_, ?_, ?_, ?_, fun rotated => absurd root rotated, fun _ _ _ rotated => absurd root rotated⟩
  · intro id
    rw [token_write]
    split
    · next same =>
      rw [same, rooted.created]
      rfl
    · next different =>
      rw [rooted.tokens id different]
      rfl
  · intro family present
    by_cases same : family = child.familyID
    · rw [same, rooted.unused] at present
      cases present
    · rwa [Store.write_of_none (rooted.others family same)]
  · rw [Store.write_of_some opened]
    rfl
  · intro id row found member
    have present := linear.families id row found
    rw [member, rooted.unused] at present
    cases present

/-! The outlines of the three calls. -/

theorem getBySelector_some {store : Store database} {selector : String} {rt : RefreshToken} {written : Writes database}
    (executed : Tables.execute (.getBySelector selector) store = .ok (some rt, written)) :
    written = Writes.empty ∧ ∃ id, Tables.token store id = some rt := by
  simp only [Tables.execute, Except.ok.injEq, Prod.mk.injEq, Option.bind_eq_some_iff] at executed
  obtain ⟨⟨id, _, found⟩, silent⟩ := executed
  exact ⟨silent.symm, id, found⟩

theorem known_of_read {store : Store database} {own written : Writes database} {selector : String} {rt : RefreshToken}
    (linear : Linear store) (untouched : Rules.Untouched store own)
    (executed : Tables.execute (.getBySelector selector) (store.write own) = .ok (some rt, written)) :
    Known rt store (own.andThen written) := by
  obtain ⟨silent, id, found⟩ := getBySelector_some executed
  cases untouched
  have key := linear.keyed id rt found
  exact ⟨by rw [silent, Writes.andThen_empty], rt, by rw [key]; exact found, rfl⟩

/-- An UPDATE of the known row by its primary key. -/
theorem Known.update {rt row : RefreshToken} {store : Store database} {own : Writes database} (known : Known rt store own)
    (found : Tables.token store rt.id = some row) (key : row.id = rt.id) (change : RefreshToken → RefreshToken) :
    Updated row (change row) store (own.andThen (Tables.updateToken (store.write own) rt.id change)) := by
  cases known.silent
  have writes : ∀ id, Tables.updateToken store rt.id change (.token id) =
      if id = row.id then some (some (change row)) else none := by
    intro id
    simp only [Tables.updateToken, key]
    split
    · next same => rw [same, found]; rfl
    · rfl
  rw [Writes.empty_andThen, Store.write_empty]
  refine ⟨by rw [key]; exact found, ?_, ?_, fun _ => rfl⟩
  · rw [writes, if_pos rfl]
  · intro id different
    rw [writes, if_neg different]

theorem outline_logout (env : Env) (selector : String) : rules.Outline (logoutBody env selector) Rules.Untouched := by
  apply Rules.Outline.query
  intro store own reply written linear untouched _ executed
  cases reply with
  | none =>
    have silent : written = Writes.empty := by
      simp only [Tables.execute, Except.ok.injEq, Prod.mk.injEq] at executed
      exact executed.2.symm
    refine ⟨Rules.Untouched, rules.untouched_stable, ?_, ?_⟩
    · rw [silent]
      exact untouched
    · rintro later _ kept rfl
      exact ⟨Keeps.refl later, kept⟩
  | some rt =>
    refine ⟨Known rt, known_stable rt, known_of_read linear untouched executed, ?_⟩
    by_cases live : rt.status = .active
    · simp only [live, ↓reduceIte]
      apply Rules.Outline.query
      rintro middle locks _ updates kept known _ updated
      obtain ⟨row, found, _⟩ := known.present
      cases updated
      refine ⟨Updated row (row.markRevoked env.now), updated_stable _ _,
        known.update found (kept.keyed _ _ found) (fun token => token.markRevoked env.now), ?_⟩
      intro last final linear holds
      exact holds.commit (retired_markRevoked row env.now) linear
    · simp only [live, ↓reduceIte]
      rintro later _ kept ⟨rfl, _⟩
      exact ⟨Keeps.refl later, kept⟩

theorem Updated.insert {row changed child : RefreshToken} {store : Store database} {own : Writes database}
    (updated : Updated row changed store own) (absent : Tables.token (store.write own) child.id = none) :
    Rotating row changed child store (own.andThen (Tables.putToken child)) := by
  rw [updated.lookup] at absent
  split at absent
  · cases absent
  next different =>
    refine ⟨updated.committed, ?_, absent, ?_, ?_, ?_⟩
    · simp [Writes.andThen, Tables.putToken, Ne.symm different, updated.changed]
    · simp [Writes.andThen, Tables.putToken]
    · intro id old new
      simp [Writes.andThen, Tables.putToken, new, updated.others id old]
    · intro family
      simp [Writes.andThen, Tables.putToken, updated.families family]

/-- The tail of a rotation writes no token and no family. -/
theorem Rotating.touch {row changed child : RefreshToken} {store : Store database} {own : Writes database}
    (rotating : Rotating row changed child store own) (view : View) (id : String) (change : Session → Session) :
    Rotating row changed child store (own.andThen (Tables.updateSession view id change)) :=
  ⟨rotating.committed, rotating.changed, rotating.absent, rotating.created, rotating.others, rotating.families⟩

theorem outline_rotate (env : Env) (rt : RefreshToken) : rules.Outline (rotate env rt) (Known rt) := by
  refine Rules.Outline.frame rules (known_stable rt) ?_ ?_
  · intro store own reply written known executed
    cases executed
    exact known
  intro reply
  cases reply with
  | none => trivial
  | some user =>
    by_cases able : user.canAuthenticate
    · simp only [able, ↓reduceIte]
      apply Rules.Outline.query
      rintro store own _ written linear known ⟨row, found, live⟩ executed
      have key := linear.keyed _ _ found
      obtain ⟨seen, present, family⟩ := known.present
      rw [found] at present
      cases present
      cases executed
      have retired := retired_markUsed env.now live
      refine ⟨Updated row (row.markUsed env.now), updated_stable _ _,
        known.update found key (fun token => token.markUsed env.now), ?_⟩
      apply Rules.Outline.pure
      rintro ⟨child, validator⟩ made
      obtain ⟨_, sameFamily, chain, _⟩ := newRefreshToken_fields made
      apply Rules.Outline.query
      rintro middle locks _ insertion kept updated _ inserted
      obtain ⟨absent, same⟩ := insertToken_ok inserted
      rw [same]
      refine ⟨Rotating row (row.markUsed env.now) child, rotating_stable _ _ _, updated.insert absent, ?_⟩
      refine Rules.Outline.frame rules (rotating_stable _ _ _) ?_ ?_
      · intro later held _ touched rotating executed
        cases executed
        exact rotating.touch _ _ _
      intro _
      apply Rules.Outline.pure
      intro access _
      refine Rules.Outline.frame rules (rotating_stable _ _ _) ?_ ?_
      · intro later held _ touched rotating executed
        cases executed
        exact rotating
      intro session
      cases session with
      | none => trivial
      | some session =>
        intro last final linear rotating
        exact rotating.commit retired linear live (chain.trans key.symm) (sameFamily.trans family.symm)
    · simp only [able]
      trivial

theorem outline_refresh (env : Env) (selector validator : String) :
    rules.Outline (refreshBody env selector validator) Rules.Untouched := by
  apply Rules.Outline.query
  intro store own reply written linear untouched _ executed
  cases reply with
  | none => exact ⟨fun _ _ => True, fun _ _ _ _ _ _ holds => holds, trivial, trivial⟩
  | some rt =>
    refine ⟨Known rt, known_stable rt, known_of_read linear untouched executed, ?_⟩
    by_cases genuine : rt.verifyValidator validator env.compare
    · simp only [genuine, ↓reduceIte]
      split
      · exact outline_rotate env rt
      · exact Rules.Outline.hopeless rules fun _ => ⟨_, rfl⟩
      all_goals trivial
    · simp only [genuine]
      trivial

theorem Opened.insert {child : RefreshToken} {store : Store database} {own : Writes database}
    (opened : Opened child.familyID store own) (absent : Tables.token (store.write own) child.id = none) :
    Rooted child store (own.andThen (Tables.putToken child)) := by
  rw [token_write, opened.tokens] at absent
  obtain ⟨session, family⟩ := opened.opened
  refine ⟨opened.unused, ⟨session, ?_⟩, absent, ?_, ?_, ?_⟩
  · simp [Writes.andThen, Tables.putToken, family]
  · simp [Writes.andThen, Tables.putToken]
  · intro id different
    simp [Writes.andThen, Tables.putToken, different, opened.tokens id]
  · intro other different
    simp [Writes.andThen, Tables.putToken, opened.others other different]

theorem outline_issue (env : Env) (user : User) (deviceLabel : String) :
    rules.Outline (issueSessionForUser env user deviceLabel) Rules.Untouched := by
  apply Rules.Outline.query
  rintro store own _ written linear rfl _ executed
  obtain ⟨_, unused, _, _, same⟩ := insertSession_ok executed
  rw [same]
  refine ⟨Opened (env.idgen 1), opened_stable _, ⟨unused, ⟨env.idgen 0, ?_⟩, fun _ => rfl, ?_⟩, ?_⟩
  · simp [Writes.andThen, Tables.putSession, newSession]
  · intro other different
    simp [Writes.andThen, Tables.putSession, newSession, different]
  apply Rules.Outline.pure
  rintro ⟨child, validator⟩ made
  obtain ⟨_, family, root, _⟩ := newRefreshToken_fields made
  apply Rules.Outline.query
  rintro middle locks _ insertion kept opened _ inserted
  obtain ⟨absent, same⟩ := insertToken_ok inserted
  rw [same]
  rw [← family] at opened
  refine ⟨Rooted child, rooted_stable child, opened.insert absent, ?_⟩
  apply Rules.Outline.pure
  intro access _ last final linear rooted
  have adds := rooted.adds linear root
  exact ⟨Keeps.add adds, linear.add adds⟩

theorem outline_login (env : Env) (email password deviceLabel : String) :
    rules.Outline (loginBody env email password deviceLabel) Rules.Untouched := by
  refine Rules.Outline.frame rules rules.untouched_stable ?_ ?_
  · intro store own reply written untouched executed
    cases executed
    exact untouched
  intro reply
  cases reply with
  | none => trivial
  | some user =>
    dsimp only
    split
    · trivial
    split
    · exact outline_issue env user deviceLabel
    · trivial

/-! Whole runs. -/

inductive Call : Program database Err Unit → Prop where
  | login (env : Env) (email password deviceLabel : String) : Call (loginBody env email password deviceLabel).discard
  | refresh (env : Env) (selector validator : String) : Call (refreshBody env selector validator).discard
  | logout (env : Env) (selector : String) : Call (logoutBody env selector).discard

theorem outline_call (program : Program database Err Unit) (call : Call program) :
    rules.Outline program Rules.Untouched := by
  cases call with
  | login env email password deviceLabel => exact (outline_login env email password deviceLabel).discard
  | refresh env selector validator => exact (outline_refresh env selector validator).discard
  | logout env selector => exact (outline_logout env selector).discard

/-- Rotation is linear in `after`, and what was dead in `before` was not used since. -/
structure LinearRotation (before after : Store database) : Prop where
  successor : ∀ first second row next, Tables.token after first = some row → Tables.token after second = some next →
    row.rotatedFrom ≠ "" → row.rotatedFrom = next.rotatedFrom → first = second
  active : ∀ first second row next, Tables.token after first = some row → Tables.token after second = some next →
    row.status = .active → next.status = .active → row.familyID = next.familyID → first = second
  dead : ∀ id row later, Tables.token before id = some row → row.status = .revoked ∨ row.status = .compromised →
    Tables.token after id = some later → later.status ≠ .used

theorem LinearRotation.successor_unique {before after : Store database} (linear : LinearRotation before after)
    {first second parent : String} (named : parent ≠ "")
    (left : (Tables.token after first).map RefreshToken.rotatedFrom = some parent)
    (right : (Tables.token after second).map RefreshToken.rotatedFrom = some parent) : first = second := by
  obtain ⟨row, found, chain⟩ := Option.map_eq_some_iff.mp left
  obtain ⟨next, there, link⟩ := Option.map_eq_some_iff.mp right
  apply linear.successor first second row next found there
  · rw [chain]
    exact named
  · rw [chain, link]

theorem safe_run {before after : System database Err Unit} (safe : rules.Safe before)
    (run : Run Call FindsActive before after) : Keeps before.committed after.committed ∧ rules.Safe after :=
  Rules.Safe.run outline_call Keeps.refl Keeps.trans (fun _ _ _ within => within) run safe

/-- In a run in which every `MarkUsed` still finds its row active, rotation is
linear in every committed state and dead tokens stay dead. -/
theorem rotation_linear_of_findsActive (store : Store database) (empty : ∀ id, Tables.token store id = none)
    (middle after : System database Err Unit) (early : Run Call FindsActive (System.idle store) middle)
    (late : Run Call FindsActive middle after) : LinearRotation middle.committed after.committed := by
  obtain ⟨_, halfway⟩ := safe_run (Rules.Safe.idle (Linear.of_empty empty)) early
  obtain ⟨keeps, safe⟩ := safe_run halfway late
  refine ⟨safe.store.single, safe.store.active, ?_⟩
  intro id row later found dead held
  obtain ⟨kept, there, _, _, stays⟩ := keeps.rows id row found
  rw [held] at there
  cases there
  rcases stays dead with revoked | compromised
  · simp [revoked]
  · simp [compromised]

theorem login_permitted (env : Env) (email password deviceLabel : String) (store : Store database)
    (writes : Writes database) : (loginBody env email password deviceLabel).Permitted FindsActive store writes := by
  apply Program.permitted_query trivial
  intro user _ _
  cases user with
  | none => trivial
  | some user =>
    dsimp only
    split
    · trivial
    split
    · apply Program.permitted_query trivial
      intro _ _ _
      apply Program.permitted_pure
      intro made _
      apply Program.permitted_query trivial
      intro _ _ _
      apply Program.permitted_pure
      intro access _
      trivial
    · trivial

/-- A refresh that nothing interleaves with marks the row it has just classified. -/
theorem refresh_permitted (env : Env) (selector validator : String) {store : Store database} (linear : Linear store) :
    (refreshBody env selector validator).Permitted FindsActive store Writes.empty := by
  apply Program.permitted_query trivial
  intro reply written executed
  cases reply with
  | none => trivial
  | some rt =>
    obtain ⟨silent, id, found⟩ := getBySelector_some executed
    rw [silent]
    have key := linear.keyed id rt found
    by_cases genuine : rt.verifyValidator validator env.compare
    · simp only [genuine, ↓reduceIte]
      split
      · next rotates =>
        have live := RefreshToken.classifyUse_rotate rotates
        apply Program.permitted_query trivial
        intro user _ _
        cases user with
        | none => trivial
        | some user =>
          dsimp only
          split
          · apply Program.permitted_query ⟨rt, by rw [key]; exact found, live⟩
            intro _ _ _
            apply Program.permitted_pure
            intro made _
            apply Program.permitted_query trivial
            intro _ _ _
            apply Program.permitted_query trivial
            intro _ _ _
            apply Program.permitted_pure
            intro access _
            apply Program.permitted_query trivial
            intro session _ _
            cases session <;> trivial
          · trivial
      · apply Program.permitted_query trivial
        intro _ _ _
        trivial
      all_goals trivial
    · simp only [genuine]
      trivial

end Chains

/-! One user signs in and refreshes, alone and twice at the same time. -/

local instance : Collation := .c

def newcomer : Store database
  | .user id => if id = "u1" then some AuthReuse.owner else none
  | .email address => if address = "a@b.c" then some "u1" else none
  | _ => none

def draws (ids : List String) (selector validator : String) : Env :=
  { AuthReuse.call with
    idgen := fun n => ids.getD n ""
    randomURL := fun bytes => .ok (if bytes = selectorBytes then selector else validator) }

def signIn : Program database Err Unit := (loginBody (draws ["d1", "f1", "t0"] "s0" "v0") "a@b.c" "pw" "").discard

def refreshAs (id selector validator : String) : Program database Err Unit :=
  (refreshBody (draws [id] selector validator) "s0" "v0").discard

def signedIn : Store database := (signIn.withTx newcomer).2

theorem signIn_runs {allowed : Store database → Statement → Prop} (permitted : signIn.Permitted allowed newcomer Writes.empty) :
    Run Call allowed (System.idle newcomer) (System.idle signedIn) :=
  withTx_runs (.login ..) permitted (Program.outcome_of_isOk (by decide +kernel))

theorem newcomer_empty (id : String) : Tables.token newcomer id = none := rfl

theorem rotation_linear_sequential :
    LinearRotation signedIn ((refreshAs "t1" "s1" "v1").withTx signedIn).2 := by
  have logged : Run Call FindsActive (System.idle newcomer) (System.idle signedIn) :=
    signIn_runs (login_permitted ..).discard
  have linear : Linear signedIn := (safe_run (Rules.Safe.idle (Linear.of_empty newcomer_empty)) logged).2.store
  have refreshed : Run Call FindsActive (System.idle signedIn) (System.idle ((refreshAs "t1" "s1" "v1").withTx signedIn).2) :=
    withTx_runs (.refresh ..) (refresh_permitted _ _ _ linear).discard (Program.outcome_of_isOk (by decide +kernel))
  exact rotation_linear_of_findsActive newcomer newcomer_empty (System.idle signedIn) _ logged refreshed

/-- Two refreshes that both read the token while it is active give it two
successors. -/
theorem concurrent_refresh_forks :
    ¬ ∀ (store : Store database) (middle after : System database Err Unit), (∀ id, Tables.token store id = none) →
        Run Call (fun _ _ => True) (System.idle store) middle → Run Call (fun _ _ => True) middle after →
        LinearRotation middle.committed after.committed := by
  intro claim
  have always : ∀ (_ : Store database) (_ : Statement), True := fun _ _ => trivial
  have overtaken := @run_overtaken database Err Unit Call (fun _ _ => True) signedIn (refreshAs "t1" "s1" "v1")
    _ (refreshAs "t2" "s2" "v2") () () _ _ always (.refresh ..) (.refresh ..) (.read rfl .here)
    (Program.outcome_of_isOk (by decide +kernel)) (Program.outcome_of_isOk (by decide +kernel))
  have linear := claim newcomer _ _ newcomer_empty (signIn_runs (Program.permitted_of_always always ..)) overtaken
  have same : "t1" = "t2" :=
    linear.successor_unique (by decide : "t0" ≠ "") (by decide +kernel) (by decide +kernel)
  exact absurd same (by decide)

end VibeSync.Proofs.AuthRotation
