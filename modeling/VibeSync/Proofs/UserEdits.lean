import VibeSync.Proofs.TransactionLogic
import VibeSync.Proofs.UserProjection

/-! Profiles that several transactions edit at once. `UpdateUser` writes back what it
has read, so that of two overlapping edits one may be lost; still a profile holds
nothing but what its user, an administrator or the Auth service has said of it. -/

namespace VibeSync.Proofs.UserEdits
open VibeSync.Users Transaction Columns VibeSync.Proofs.UserProjection

section Edits
variable [Collation]

section Sources
variable (text : Text) (edits : Rooms.Subject → UpdateUserRequest → Prop) (events : UserCreatedV1 → Prop)

/-- One of the edits of the profile, by its user or by an administrator. -/
def Edited (id : String) (claim : UpdateUserRequest → Prop) : Prop :=
  ∃ subject req, edits subject req ∧ req.id = id ∧ (subject.userID = id ∨ subject.atLeast .administrator) ∧ claim req

/-- One of the events that tell of the user. -/
def Told (id : String) (claim : UserCreatedV1 → Prop) : Prop := ∃ event, events event ∧ event.userID = id ∧ claim event

structure Sourced (id : String) (row : User) : Prop where
  own : row.id = id
  displayName : (Told events id fun event => row.displayName = toLower text.lower (trimSpace event.username)) ∨
    Edited edits id fun req => ∃ name, req.displayName = some name ∧ row.displayName = trimSpace name
  avatarURL : row.avatarURL = "" ∨ Edited edits id fun req => ∃ url, req.avatarURL = some url ∧ row.avatarURL = trimSpace url
  identity : Told events id fun event =>
    row.email = toLower text.lower (trimSpace event.email) ∧ row.username = toLower text.lower (trimSpace event.username)
  systemRole : row.systemRole = .user

/-- The transactions that the handlers begin. Requests that they refuse begin none. -/
inductive Call : Program database Err Unit → Prop where
  | update (now : Time) {subject : Rooms.Subject} {req : UpdateUserRequest} (asked : edits subject req) (named : req.id ≠ "")
      (own : subject.userID = req.id ∨ subject.atLeast .administrator) : Call (updateUserBody now req).discard
  | project (now : Time) {event : UserCreatedV1} {user : User} (told : events event)
      (valid : projectFromEvent text event now = .ok user) : Call (Repo.upsert user).discard

/-- Every profile is sourced. -/
def Profiles (store : Store database) : Prop := ∀ id row, Tables.user store id = some row → Sourced text edits events id row

/-- Every profile that is written is. -/
def Traceable (writes : Writes database) : Prop :=
  ∀ id row, writes (.user id) = some (some row) → Sourced text edits events id row

def rules : Rules database where
  invariant := Profiles text edits events
  guarantee _ writes := Traceable text edits events writes
  allowed _ _ := True

end Sources

section Steps
variable {text : Text} {edits : Rooms.Subject → UpdateUserRequest → Prop} {events : UserCreatedV1 → Prop}
  {id : String} {row given : User} {store : Store database} {own written : Writes database}

omit [Collation] in
theorem sourced_project {event : UserCreatedV1} (told : events event) {now : Time} {user : User}
    (valid : projectFromEvent text event now = .ok user) : Sourced text edits events user.id user := by
  by_cases lacking : event.userID = "" ∨ event.email = "" ∨ event.username = ""
  · rw [projectFromEvent, if_pos lacking] at valid
    cases valid
  · rw [projectFromEvent, if_neg lacking] at valid
    cases valid
    exact ⟨rfl, Or.inl ⟨event, told, rfl, rfl⟩, Or.inl rfl, ⟨event, told, rfl, rfl, rfl⟩, rfl⟩

omit [Collation] in
theorem Sourced.applyUpdate (sourced : Sourced text edits events id row) {subject : Rooms.Subject} {req : UpdateUserRequest}
    (asked : edits subject req) (named : req.id = id) (own : subject.userID = id ∨ subject.atLeast .administrator) (now : Time) :
    Sourced text edits events id (row.applyUpdate now req.displayName req.avatarURL) := by
  refine ⟨sourced.own, ?_, ?_, sourced.identity, sourced.systemRole⟩
  · cases wanted : req.displayName with
    | none => exact sourced.displayName
    | some name =>
      dsimp only [User.applyUpdate]
      split
      · exact sourced.displayName
      · exact Or.inr ⟨subject, req, asked, named, own, name, wanted, rfl⟩
  · cases wanted : req.avatarURL with
    | none => exact sourced.avatarURL
    | some url => exact Or.inr ⟨subject, req, asked, named, own, url, wanted, rfl⟩

omit [Collation] in
theorem Sourced.overwrite (sourced : Sourced text edits events id row) (edited : Sourced text edits events id given) :
    Sourced text edits events id (Tables.overwrite row given) :=
  ⟨sourced.own, edited.displayName, edited.avatarURL, sourced.identity, sourced.systemRole⟩

omit [Collation] in
theorem Sourced.refresh (sourced : Sourced text edits events id row) (told : Sourced text edits events id given) :
    Sourced text edits events id (Tables.refresh row given) :=
  ⟨sourced.own, sourced.displayName, sourced.avatarURL, told.identity, told.systemRole⟩

omit [Collation] in
theorem Sourced.stored (sourced : Sourced text edits events id given) : Sourced text edits events id (Tables.stored given) :=
  ⟨sourced.own, sourced.displayName, sourced.avatarURL, sourced.identity, sourced.systemRole⟩

theorem Profiles.write (profiles : Profiles text edits events store) (traceable : Traceable text edits events written) :
    Profiles text edits events (store.write written) := by
  intro id row found
  rcases Store.write_origin found with new | old
  · exact traceable id row new
  · exact profiles id row old

theorem traceable_empty : Traceable text edits events Writes.empty := fun _ _ => unwritten

theorem Traceable.andThen (first : Traceable text edits events own) (second : Traceable text edits events written) :
    Traceable text edits events (own.andThen written) := by
  intro id row wrote
  rcases Option.or_eq_some_iff.mp wrote with new | ⟨_, old⟩
  · exact second id row new
  · exact first id row old

/-- A change that writes one profile, and that a sourced one. -/
theorem traceable_one (sourced : Sourced text edits events id row)
    (one : ∀ other, written (.user other) = if other = row.id then some (some row) else none) : Traceable text edits events written := by
  intro other found wrote
  rw [one] at wrote
  split at wrote
  next here =>
    obtain rfl := Option.some.inj (Option.some.inj wrote)
    rw [here, sourced.own]
    exact sourced
  · cases wrote

theorem userUpdate_traceable {affected : Nat} (profiles : Profiles text edits events store)
    (edited : Sourced text edits events given.id given) (executed : Tables.updateUser store given = .ok (affected, written)) :
    Traceable text edits events written := by
  unfold Tables.updateUser at executed
  cases found : Tables.user store given.id with
  | none =>
    rw [found] at executed
    cases executed
    exact traceable_empty
  | some row =>
    simp only [found] at executed
    by_cases fits : given.displayName.length ≤ 100
    · rw [checkLength_ok fits] at executed
      cases executed
      exact traceable_one ((profiles _ _ found).overwrite edited) fun _ => rfl
    · rw [checkLength_error fits] at executed
      cases executed

theorem userUpsert_traceable (profiles : Profiles text edits events store) (told : Sourced text edits events given.id given)
    (executed : Tables.upsertUser store given = .ok ((), written)) : Traceable text edits events written := by
  by_cases admits : Admits store given
  · rw [upsertUser_admitted admits] at executed
    cases executed
    unfold projected
    cases found : Tables.user store given.id with
    | none => exact traceable_one told.stored fun _ => rfl
    | some old => exact traceable_one ((profiles _ _ found).refresh told) fun _ => rfl
  · obtain ⟨err, failed⟩ := upsertUser_refused admits
    rw [failed] at executed
    cases executed

/-! The transactions, between the statements of others. -/

/-- Nothing is assumed of the store but the invariant. -/
theorem traceable_stable : (rules text edits events).Stable fun _ own => Traceable text edits events own :=
  fun _ _ _ _ _ _ holds => holds

theorem outline_done (value : Unit) :
    (rules text edits events).Outline (.done (.ok value) : Program database Err Unit) fun _ own => Traceable text edits events own :=
  fun _ _ profiles traceable => ⟨traceable, Profiles.write profiles traceable⟩

/-- Another transaction may have changed the profile since it was read; what is
written back was sourced when it was read. -/
theorem outline_update {subject : Rooms.Subject} {req : UpdateUserRequest} (asked : edits subject req)
    (own : subject.userID = req.id ∨ subject.atLeast .administrator) (now : Time) :
    (rules text edits events).Outline (updateUserBody now req).discard Rules.Untouched := by
  intro store locks reply written profiles untouched _ executed
  cases executed
  obtain rfl : locks = Writes.empty := untouched
  refine ⟨fun _ own => Traceable text edits events own, traceable_stable, traceable_empty, ?_⟩
  cases found : Tables.user (store.write Writes.empty) req.id with
  | none => trivial
  | some row =>
    have edited := (profiles req.id row found).applyUpdate asked rfl own now
    intro later locks affected written profiles traceable _ executed
    have view := Profiles.write profiles traceable
    have wrote := userUpdate_traceable view (edited.own.symm ▸ edited) executed
    refine ⟨fun _ own => Traceable text edits events own, traceable_stable, traceable.andThen wrote, ?_⟩
    cases affected with
    | zero => trivial
    | succ rows => exact outline_done ()

theorem outline_project {event : UserCreatedV1} (told : events event) {now : Time} {user : User}
    (valid : projectFromEvent text event now = .ok user) :
    (rules text edits events).Outline (Repo.upsert user).discard Rules.Untouched := by
  intro store locks reply written profiles untouched _ executed
  obtain rfl : locks = Writes.empty := untouched
  have wrote := userUpsert_traceable profiles (sourced_project told valid) executed
  exact ⟨fun _ own => Traceable text edits events own, traceable_stable, traceable_empty.andThen wrote, outline_done ()⟩

end Steps

/-- However the transactions interleave, every committed profile shows a name and a
picture that its user or an administrator has given, or those it was made with,
and address, name and role that Auth has told. -/
theorem profiles_sourced (text : Text) (edits : Rooms.Subject → UpdateUserRequest → Prop) (events : UserCreatedV1 → Prop)
    (system : System database Err Unit)
    (run : Run (Call text edits events) (fun _ _ => True) (System.idle fun _ => none) system) (id : String) (row : User)
    (found : Tables.user system.committed id = some row) : Sourced text edits events id row := by
  have fresh : ∀ program, Call text edits events program → (rules text edits events).Outline program Rules.Untouched := by
    intro program call
    cases call with
    | update now asked named own => exact outline_update asked own now
    | project now told valid => exact outline_project told valid
  have empty : Profiles text edits events fun _ => none := fun _ _ => unwritten
  have safe : (rules text edits events).Safe system :=
    (Rules.Safe.run fresh (fun _ => trivial) (fun _ _ => trivial) (fun _ _ _ _ => trivial) run (Rules.Safe.idle empty)).2
  exact safe.store id row found

end Edits

/-! A new picture is written back with the name that was read before the new name. -/

def joined : UserCreatedV1 := ⟨"u1", "ann@a.b", "ann", "", ""⟩

def pictured : UpdateUserRequest := ⟨"u1", none, some "sea"⟩

def renamed : UpdateUserRequest := ⟨"u1", some "Anna", none⟩

def wishes (subject : Rooms.Subject) (req : UpdateUserRequest) : Prop := subject = ⟨"u1", .user⟩ ∧ (req = pictured ∨ req = renamed)

local instance : Collation := .c

def welcomed : Store database := ((Repo.upsert (profile plainText joined 5)).discard.withTx fun _ => none).2

theorem lost_edit_sourced : ∃ system row,
    Run (Call plainText wishes (· = joined)) (fun _ _ => True) (System.idle fun _ => none) system ∧
    Tables.user system.committed "u1" = some row ∧ row.displayName = "ann" ∧ row.avatarURL = "sea" ∧
    Sourced plainText wishes (· = joined) "u1" row := by
  have joins : Run (Call plainText wishes (· = joined)) (fun _ _ => True) (System.idle fun _ => none) (System.idle welcomed) :=
    withTx_runs (.project 5 rfl rfl) (Program.permitted_of_always (fun _ _ => trivial) _ _ _) rfl
  have picture : Call plainText wishes (· = joined) (updateUserBody 20 pictured).discard :=
    .update 20 (⟨rfl, Or.inl rfl⟩ : wishes ⟨"u1", .user⟩ pictured) (by decide) (Or.inl rfl)
  have name : Call plainText wishes (· = joined) (updateUserBody 10 renamed).discard :=
    .update 10 (⟨rfl, Or.inr rfl⟩ : wishes ⟨"u1", .user⟩ renamed) (by decide) (Or.inl rfl)
  have edits := @run_overtaken database Err Unit (Call plainText wishes (· = joined)) (fun _ _ => True) welcomed _ _ _ () () _ _
    (fun _ _ => trivial) picture name (.read rfl .here) (Program.outcome_of_isOk (by decide +kernel))
    (Program.outcome_of_isOk (by decide +kernel))
  obtain ⟨system, run, shown⟩ : ∃ system,
      Run (Call plainText wishes (· = joined)) (fun _ _ => True) (System.idle fun _ => none) system ∧
      (Tables.user system.committed "u1").map (fun row => (row.displayName, row.avatarURL)) = some ("ann", "sea") :=
    ⟨_, joins.trans edits, by decide +kernel⟩
  obtain ⟨row, found, same⟩ := Option.map_eq_some_iff.mp shown
  obtain ⟨name, picture⟩ := Prod.mk.inj same
  exact ⟨system, row, run, found, name, picture, profiles_sourced plainText wishes (· = joined) system run "u1" row found⟩

end VibeSync.Proofs.UserEdits
