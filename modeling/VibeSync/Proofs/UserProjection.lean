import VibeSync.Machine
import VibeSync.Users.Service

/-! Redelivered `user.created.v1` events between edits of the profile. A
redelivery puts back what the event says of the user, the time of the last
update included. -/

namespace VibeSync.Proofs.UserProjection
open VibeSync.Users Transaction Columns

section Projection
variable [Collation] {text : Text} {event : UserCreatedV1} {store : Store database}

/-! The projection. -/

def Valid (event : UserCreatedV1) : Prop := event.userID ≠ "" ∧ event.email ≠ "" ∧ event.username ≠ ""

/-- The user that a valid event describes. -/
def profile (text : Text) (event : UserCreatedV1) (created : Time) : User :=
  { id := event.userID, email := toLower text.lower (trimSpace event.email)
    username := toLower text.lower (trimSpace event.username)
    displayName := toLower text.lower (trimSpace event.username), avatarURL := "", systemRole := .user
    createdAt := created, updatedAt := created }

omit [Collation] in
theorem project_valid (valid : Valid event) (now : Time) :
    projectFromEvent text event now = .ok (profile text event (parseRFC3339 text event.createdAt now)) := by
  rw [projectFromEvent, if_neg (by simpa [Valid] using valid)]
  rfl

omit [Collation] in
theorem project_invalid (invalid : ¬ Valid event) (now : Time) :
    projectFromEvent text event now = .error errInvalidEvent := by
  have lacking : event.userID = "" ∨ event.email = "" ∨ event.username = "" := by
    unfold Valid at invalid
    tauto
  rw [projectFromEvent, if_pos lacking]

/-! The upsert. -/

/-- The columns are wide enough and the unique ones are free or the user's own. -/
structure Admits (view : View) (given : User) : Prop where
  width : given.id.length ≤ 26
  username : given.username.length ≤ 32
  displayName : given.displayName.length ≤ 100
  email : Tables.taken (view (.email (citext given.email))) given.id = false
  free : Tables.taken (view (.username given.username)) given.id = false

instance (view : View) (given : User) : Decidable (Admits view given) :=
  decidable_of_iff (given.id.length ≤ 26 ∧ given.username.length ≤ 32 ∧ given.displayName.length ≤ 100 ∧
      Tables.taken (view (.email (citext given.email))) given.id = false ∧
      Tables.taken (view (.username given.username)) given.id = false)
    ⟨fun ⟨width, username, displayName, email, free⟩ => ⟨width, username, displayName, email, free⟩,
      fun admits => ⟨admits.width, admits.username, admits.displayName, admits.email, admits.free⟩⟩

/-- What an admitted upsert writes. -/
def projected (view : View) (given : User) : Changes :=
  match Tables.user view given.id with
  | some old => Tables.replaceUser old (Tables.refresh old given)
  | none => Tables.putUser (Tables.stored given)

theorem upsertUser_admitted {view : View} {given : User} (admits : Admits view given) :
    Tables.upsertUser view given = .ok ((), projected view given) := by
  have email := Bool.eq_false_iff.mp admits.email
  have free := Bool.eq_false_iff.mp admits.free
  simp only [Tables.upsertUser, checkID_ok admits.width, checkLength_ok admits.username, checkLength_ok admits.displayName, bind,
    Except.bind, if_neg email, if_neg free, projected]
  cases Tables.user view given.id <;> rfl

theorem upsertUser_refused {view : View} {given : User} (refused : ¬ Admits view given) :
    ∃ err, Tables.upsertUser view given = .error err := by
  cases executed : Tables.upsertUser view given with
  | error err => exact ⟨err, rfl⟩
  | ok result =>
    -- the checks that an upsert has passed are what it is admitted by
    obtain ⟨width, passed⟩ := checkID_bind executed
    obtain ⟨username, passed⟩ := checkLength_bind passed
    obtain ⟨displayName, passed⟩ := checkLength_bind passed
    split at passed
    · cases passed
    next email =>
      split at passed
      · cases passed
      next free =>
        exact absurd ⟨width, username, displayName, Bool.eq_false_iff.mpr email, Bool.eq_false_iff.mpr free⟩ refused

theorem upsert_admitted {given : User} (admits : Admits store given) :
    ((Repo.upsert given).withTx store).2 = store.write (projected store given) := by
  have executed : (Repo.upsert given).exec store = (.ok (), store.write (projected store given)) :=
    (@Program.exec_query database _ _ (.userUpsert given) _ _ _ _ _ (upsertUser_admitted admits) :)
  rw [Program.withTx_of_ok executed]

theorem upsert_refused {given : User} (refused : ¬ Admits store given) : ((Repo.upsert given).withTx store).2 = store := by
  obtain ⟨err, failed⟩ := upsertUser_refused refused
  have executed : (Repo.upsert given).exec store = (.error (.wrapped "user_repo: upsert" err), store) :=
    @Program.exec_query_error database _ (.userUpsert given) _ _ _ failed
  rw [Program.withTx_of_error executed]

/-- What a handled event does to the store. -/
theorem handle_store (valid : Valid event) (now : Time) :
    (handle text now (.ok event) store).2 =
      if Admits store (profile text event (parseRFC3339 text event.createdAt now)) then
        store.write (projected store (profile text event (parseRFC3339 text event.createdAt now)))
      else store := by
  simp only [handle, project_valid valid]
  split
  next admits => exact upsert_admitted admits
  next refused => exact upsert_refused refused

theorem handle_invalid (invalid : ¬ Valid event) (now : Time) : (handle text now (.ok event) store).2 = store := by
  simp only [handle, project_invalid invalid]

/-- The time does not matter to whether an event is admitted. -/
theorem admits_at (created other : Time) : Admits store (profile text event created) ↔ Admits store (profile text event other) :=
  ⟨fun admits => ⟨admits.width, admits.username, admits.displayName, admits.email, admits.free⟩,
    fun admits => ⟨admits.width, admits.username, admits.displayName, admits.email, admits.free⟩⟩

/-! Edits. -/

/-- The caller may edit the user, and the column takes the name. -/
def Takes (id : String) (subject : Rooms.Subject) (displayName : Option String) : Prop :=
  (subject.userID = id ∨ subject.atLeast .administrator) ∧ (trimSpace (displayName.getD "")).length ≤ 100

instance (id : String) (subject : Rooms.Subject) (displayName : Option String) : Decidable (Takes id subject displayName) :=
  inferInstanceAs (Decidable (_ ∧ _))

omit [Collation] in
theorem applyUpdate_fits {row : User} (narrow : row.displayName.length ≤ 100) (now : Time) (displayName avatarURL : Option String) :
    (row.applyUpdate now displayName avatarURL).displayName.length ≤ 100 ↔ (trimSpace (displayName.getD "")).length ≤ 100 := by
  cases displayName with
  | none => exact iff_of_true narrow (by decide)
  | some name =>
    simp only [User.applyUpdate, Option.getD_some]
    split
    next blank => simp [narrow, blank]
    · rfl

theorem getByID_exec (id : String) :
    (Repo.getByID id).exec store = ((Tables.user store id).elim (.error (.missing "user" id)) .ok, store) := by
  have read : (Repo.sql (.userByID id) "user_repo: scan").exec store = (.ok (Tables.user store id), store) := rfl
  rw [Repo.getByID, Program.exec_bind read]
  cases Tables.user store id <;> rfl

theorem update_exec {given row : User} (found : Tables.user store given.id = some row) (fits : given.displayName.length ≤ 100) :
    (Repo.update given).exec store = (.ok (), store.write (Tables.setUser (Tables.overwrite row given))) := by
  have executed : Tables.updateUser store given = .ok (1, Tables.setUser (Tables.overwrite row given)) := by
    simp only [Tables.updateUser, found, checkLength_ok fits, bind, Except.bind]
  exact (@Program.exec_query database _ _ (.userUpdate given) _ _ _ _ _ executed :)

theorem update_exec_error {given row : User} (found : Tables.user store given.id = some row)
    (long : ¬ given.displayName.length ≤ 100) : ∃ err, (Repo.update given).exec store = (.error err, store) := by
  have executed : Tables.updateUser store given = .error (tooLong "character varying" 100) := by
    simp only [Tables.updateUser, found, checkLength_error long, bind, Except.bind]
  have first : (Repo.sql (.userUpdate given) "user_repo: update").exec store =
      (.error (.wrapped "user_repo: update" (tooLong "character varying" 100)), store) :=
    @Program.exec_query_error database _ (.userUpdate given) _ _ _ executed
  exact ⟨_, Program.exec_bind_error first⟩

/-- The store after the call is the store after its transaction. -/
theorem updateUser_body {req : UpdateUserRequest} {subject : Rooms.Subject} (named : req.id ≠ "")
    (own : subject.userID = req.id ∨ subject.atLeast .administrator) (now : Time) :
    (updateUser now subject req store).2 = ((updateUserBody now req).withTx store).2 := by
  have allowed : ¬ (subject.userID ≠ req.id ∧ ¬ subject.atLeast .administrator) := fun denied => own.elim denied.1 denied.2
  rw [updateUser, if_neg named, if_neg allowed]
  cases (updateUserBody now req).withTx store with
  | mk result after =>
    cases result with
    | ok user => rfl
    | error err =>
      dsimp only
      split <;> rfl

theorem updateUser_denied {req : UpdateUserRequest} {subject : Rooms.Subject}
    (foreign : ¬ (subject.userID = req.id ∨ subject.atLeast .administrator)) (now : Time) :
    (updateUser now subject req store).2 = store := by
  rw [updateUser, if_pos (not_or.mp foreign)]
  split <;> rfl

/-- What a call of `UpdateUser` does to the store. -/
theorem updateUser_store {req : UpdateUserRequest} {row : User} (named : req.id ≠ "")
    (found : Tables.user store req.id = some row) (same : row.id = req.id) (narrow : row.displayName.length ≤ 100) (now : Time)
    (subject : Rooms.Subject) : (updateUser now subject req store).2 =
      if Takes req.id subject req.displayName then
        store.write (Tables.setUser (Tables.overwrite row (row.applyUpdate now req.displayName req.avatarURL)))
      else store := by
  by_cases own : subject.userID = req.id ∨ subject.atLeast .administrator
  · have read : (Repo.getByID req.id).exec store = (.ok row, store) := by
      rw [getByID_exec, found]
      rfl
    have there : Tables.user store (row.applyUpdate now req.displayName req.avatarURL).id = some row := by
      rw [← found, ← same]
      rfl
    have fits := applyUpdate_fits narrow now req.displayName req.avatarURL
    rw [updateUser_body named own]
    split
    next takes =>
      have executed : (updateUserBody now req).exec store =
          (.ok (row.applyUpdate now req.displayName req.avatarURL),
            store.write (Tables.setUser (Tables.overwrite row (row.applyUpdate now req.displayName req.avatarURL)))) := by
        rw [updateUserBody, Program.exec_bind read, Program.exec_bind (update_exec there (fits.mpr takes.2))]
        rfl
      rw [Program.withTx_of_ok executed]
    next refused =>
      obtain ⟨err, failed⟩ := update_exec_error there (mt fits.mp fun short => refused ⟨own, short⟩)
      have executed : (updateUserBody now req).exec store = (.error err, store) := by
        rw [updateUserBody, Program.exec_bind read, Program.exec_bind_error failed]
      rw [Program.withTx_of_error executed]
  · rw [updateUser_denied own, if_neg fun takes => own takes.1]

theorem updateUser_absent {req : UpdateUserRequest} (named : req.id ≠ "") (absent : Tables.user store req.id = none) (now : Time)
    (subject : Rooms.Subject) : (updateUser now subject req store).2 = store := by
  by_cases own : subject.userID = req.id ∨ subject.atLeast .administrator
  · have read : (Repo.getByID req.id).exec store = (.error (.missing "user" req.id), store) := by
      rw [getByID_exec, absent]
      rfl
    have executed : (updateUserBody now req).exec store = (.error (.missing "user" req.id), store) := by
      rw [updateUserBody, Program.exec_bind_error read]
    rw [updateUser_body named own, Program.withTx_of_error executed]
  · exact updateUser_denied own now

/-! Sequences of redeliveries and edits. -/

inductive Operation where
  | redeliver (now : Time)
  | edit (now : Time) (subject : Rooms.Subject) (displayName avatarURL : Option String)

def perform (text : Text) (event : UserCreatedV1) (store : Store database) : Operation → Store database
  | .redeliver now => (handle text now (.ok event) store).2
  | .edit now subject displayName avatarURL => (updateUser now subject ⟨event.userID, displayName, avatarURL⟩ store).2

/-- The time that the operation leaves in the row of a projected user. -/
def stamp (text : Text) (event : UserCreatedV1) (last : Time) : Operation → Time
  | .redeliver now => parseRFC3339 text event.createdAt now
  | .edit now subject displayName _ => if Takes event.userID subject displayName then now else last

/-- A row under its own id, no wider than its columns. -/
def RowTyped (store : Store database) (id : String) : Prop :=
  ∀ row, Tables.user store id = some row → row.id = id ∧ row.displayName.length ≤ 100

/-- What the event determines of the row. -/
structure Projects (text : Text) (event : UserCreatedV1) (last : Time) (row : User) : Prop where
  id : row.id = event.userID
  email : row.email = toLower text.lower (trimSpace event.email)
  username : row.username = toLower text.lower (trimSpace event.username)
  role : row.systemRole = .user
  updated : row.updatedAt = Outbox.timestamptz last
  narrow : row.displayName.length ≤ 100

/-- The event has been projected, and the last write of the row was at `last`. -/
structure Holds (text : Text) (event : UserCreatedV1) (last : Time) (store : Store database) : Prop where
  row : ∃ row, Tables.user store event.userID = some row ∧ Projects text event last row
  admits : Admits store (profile text event 0)
  email : store (.email (citext (toLower text.lower (trimSpace event.email)))) = some event.userID
  username : store (.username (toLower text.lower (trimSpace event.username))) = some event.userID

omit [Collation] in
theorem taken_own (id : String) : Tables.taken (some id) id = false := by
  simp [Tables.taken]

/-- The keys of the event lead to its user. -/
theorem holds_of_keys {last : Time} {row : User} (found : Tables.user store event.userID = some row)
    (projects : Projects text event last row)
    (email : store (.email (citext (toLower text.lower (trimSpace event.email)))) = some event.userID)
    (username : store (.username (toLower text.lower (trimSpace event.username))) = some event.userID)
    (width : event.userID.length ≤ 26) (short : (toLower text.lower (trimSpace event.username)).length ≤ 32) :
    Holds text event last store := by
  refine ⟨⟨row, found, projects⟩, ⟨width, short, short.trans (by decide), ?_, ?_⟩, email, username⟩
  · exact (congrArg (Tables.taken · event.userID) email).trans (taken_own event.userID)
  · exact (congrArg (Tables.taken · event.userID) username).trans (taken_own event.userID)

omit [Collation] in
theorem refresh_id (old given : User) : (Tables.refresh old given).id = old.id := rfl

omit [Collation] in
theorem refresh_projects {old : User} (same : old.id = event.userID) (narrow : old.displayName.length ≤ 100) (created : Time) :
    Projects text event created (Tables.refresh old (profile text event created)) := by
  refine ⟨?_, rfl, rfl, rfl, rfl, ?_⟩
  · dsimp only [Tables.refresh]
    exact same
  · dsimp only [Tables.refresh]
    exact narrow

/-- The row of the user and the keys that lead to it. -/
structure Listed (user : User) (store : Store database) : Prop where
  row : Tables.user store user.id = some user
  email : store (.email (citext user.email)) = some user.id
  username : store (.username user.username) = some user.id

theorem listed_of_written {changes : Changes} {new : User} (row : changes (.user new.id) = some (some new))
    (email : changes (.email (citext new.email)) = some (some new.id))
    (username : changes (.username new.username) = some (some new.id)) : Listed new (store.write changes) :=
  ⟨Store.write_of_some row store, Store.write_of_some email store, Store.write_of_some username store⟩

theorem putUser_listed (new : User) : Listed new (store.write (Tables.putUser new)) := by
  have row : Tables.putUser new (.user new.id) = some (some new) := if_pos rfl
  have email : Tables.putUser new (.email (citext new.email)) = some (some new.id) := if_pos rfl
  have username : Tables.putUser new (.username new.username) = some (some new.id) := if_pos rfl
  exact listed_of_written row email username

theorem replaceUser_listed (old new : User) : Listed new (store.write (Tables.replaceUser old new)) := by
  have row : Tables.replaceUser old new (.user new.id) = some (some new) := if_pos rfl
  have email : Tables.replaceUser old new (.email (citext new.email)) = some (some new.id) := if_pos rfl
  have username : Tables.replaceUser old new (.username new.username) = some (some new.id) := if_pos rfl
  exact listed_of_written row email username

theorem projected_holds {created : Time} (admits : Admits store (profile text event created)) (typed : RowTyped store event.userID) :
    Holds text event created (store.write (projected store (profile text event created))) := by
  cases found : Tables.user store event.userID with
  | none =>
    have changes : projected store (profile text event created) = Tables.putUser (Tables.stored (profile text event created)) := by
      simp only [projected, profile, found]
    have listed := @putUser_listed _ store (Tables.stored (profile text event created))
    rw [changes]
    exact holds_of_keys listed.row ⟨rfl, rfl, rfl, rfl, rfl, admits.displayName⟩ listed.email listed.username admits.width
      admits.username
  | some old =>
    obtain ⟨same, narrow⟩ := typed old found
    have changes : projected store (profile text event created) =
        Tables.replaceUser old (Tables.refresh old (profile text event created)) := by
      simp only [projected, profile, found]
    obtain ⟨row, email, username⟩ := @replaceUser_listed _ store old (Tables.refresh old (profile text event created))
    rw [refresh_id, same] at row email username
    rw [changes]
    exact holds_of_keys row (refresh_projects same narrow created) email username admits.width admits.username

theorem Holds.typed {last : Time} (holds : Holds text event last store) : RowTyped store event.userID := by
  obtain ⟨row, found, projects⟩ := holds.row
  intro other here
  cases found.symm.trans here
  exact ⟨projects.id, projects.narrow⟩

/-- A redelivery finds its user and puts the row back to the event's time. -/
theorem Holds.redeliver {last : Time} (holds : Holds text event last store) (valid : Valid event) (now : Time) :
    Holds text event (parseRFC3339 text event.createdAt now) (handle text now (.ok event) store).2 := by
  have admits := (admits_at 0 (parseRFC3339 text event.createdAt now)).mp holds.admits
  rw [handle_store valid, if_pos admits]
  exact projected_holds admits holds.typed

/-- The row after an edit that was taken. -/
theorem edited_user {row : User} (same : row.id = event.userID) (now : Time) (displayName avatarURL : Option String) :
    Tables.user (store.write (Tables.setUser (Tables.overwrite row (row.applyUpdate now displayName avatarURL)))) event.userID =
      some (Tables.overwrite row (row.applyUpdate now displayName avatarURL)) := by
  have written : Tables.setUser (Tables.overwrite row (row.applyUpdate now displayName avatarURL)) (.user row.id) =
      some (some (Tables.overwrite row (row.applyUpdate now displayName avatarURL))) := if_pos rfl
  rw [← same]
  exact Store.write_of_some written store

theorem Holds.edit {last : Time} (holds : Holds text event last store) (valid : Valid event) (now : Time) (subject : Rooms.Subject)
    (displayName avatarURL : Option String) :
    Holds text event (if Takes event.userID subject displayName then now else last)
      (updateUser now subject ⟨event.userID, displayName, avatarURL⟩ store).2 := by
  obtain ⟨row, found, projects⟩ := holds.row
  rw [@updateUser_store _ store ⟨event.userID, displayName, avatarURL⟩ row valid.1 found projects.id projects.narrow now subject]
  by_cases takes : Takes event.userID subject displayName
  · rw [if_pos takes, if_pos takes]
    have fits := (applyUpdate_fits projects.narrow now displayName avatarURL).mpr takes.2
    exact holds_of_keys (edited_user projects.id now displayName avatarURL)
      ⟨projects.id, projects.email, projects.username, projects.role, rfl, fits⟩ holds.email holds.username
      holds.admits.width holds.admits.username
  · rw [if_neg takes, if_neg takes]
    exact holds

theorem Holds.perform {last : Time} (holds : Holds text event last store) (valid : Valid event) (operation : Operation) :
    Holds text event (stamp text event last operation) (UserProjection.perform text event store operation) := by
  cases operation with
  | redeliver now => exact holds.redeliver valid now
  | edit now subject displayName avatarURL => exact holds.edit valid now subject displayName avatarURL

theorem Holds.run {last : Time} (holds : Holds text event last store) (valid : Valid event) (operations : List Operation) :
    Holds text event (Machine.run (stamp text event) last operations)
      (Machine.run (UserProjection.perform text event) store operations) := by
  induction operations generalizing last store with
  | nil => exact holds
  | cons operation rest ih => exact ih (holds.perform valid operation)

/-- The event cannot be projected: a column is too narrow or taken. -/
structure Refused (text : Text) (event : UserCreatedV1) (store : Store database) : Prop where
  refused : ¬ Admits store (profile text event 0)
  typed : RowTyped store event.userID

theorem Refused.redeliver (refused : Refused text event store) (valid : Valid event) (now : Time) :
    (handle text now (.ok event) store).2 = store := by
  rw [handle_store valid, if_neg (mt (admits_at 0 _).mpr refused.refused)]

theorem Refused.perform (refused : Refused text event store) (valid : Valid event) (operation : Operation) :
    Refused text event (UserProjection.perform text event store operation) := by
  cases operation with
  | redeliver now =>
    rw [UserProjection.perform, refused.redeliver valid]
    exact refused
  | edit now subject displayName avatarURL =>
    rw [UserProjection.perform]
    cases found : Tables.user store event.userID with
    | none =>
      rw [@updateUser_absent _ store ⟨event.userID, displayName, avatarURL⟩ valid.1 found now subject]
      exact refused
    | some row =>
      obtain ⟨same, narrow⟩ := refused.typed row found
      rw [@updateUser_store _ store ⟨event.userID, displayName, avatarURL⟩ row valid.1 found same narrow now subject]
      split
      next takes =>
        have fits := (applyUpdate_fits narrow now displayName avatarURL).mpr takes.2
        refine ⟨fun admits => refused.refused ⟨admits.width, admits.username, admits.displayName, admits.email, admits.free⟩, ?_⟩
        intro after here
        cases (edited_user same now displayName avatarURL).symm.trans here
        exact ⟨same, fits⟩
      · exact refused

theorem Refused.run (refused : Refused text event store) (valid : Valid event) (operations : List Operation) :
    Refused text event (Machine.run (UserProjection.perform text event) store operations) :=
  Machine.run_invariant (Refused text event) (fun _ operation refused => refused.perform valid operation) refused operations

/-! Idempotence. -/

omit [Collation] in
/-- Only the time of the update can differ. -/
theorem refresh_eq {last created : Time} {row : User} (projects : Projects text event last row) :
    Tables.refresh row (profile text event created) = { row with updatedAt := Outbox.timestamptz created } := by
  obtain ⟨id, email, username, role, -, -⟩ := projects
  rw [Tables.refresh, profile]
  dsimp only
  rw [← email, ← username, ← role]

theorem redelivered_row {last : Time} {row : User} (holds : Holds text event last store) (valid : Valid event)
    (found : Tables.user store event.userID = some row) (projects : Projects text event last row) (now : Time) :
    Tables.user (handle text now (.ok event) store).2 event.userID =
      some { row with updatedAt := Outbox.timestamptz (parseRFC3339 text event.createdAt now) } := by
  have changes : projected store (profile text event (parseRFC3339 text event.createdAt now)) =
      Tables.replaceUser row (Tables.refresh row (profile text event (parseRFC3339 text event.createdAt now))) := by
    simp only [projected, profile, found]
  have user := (@replaceUser_listed _ store row (Tables.refresh row (profile text event (parseRFC3339 text event.createdAt now)))).row
  rw [handle_store valid, if_pos ((admits_at 0 _).mp holds.admits), changes, ← refresh_eq projects]
  rwa [refresh_id, projects.id] at user

/-- The store after the event was handled first and the operations that followed. -/
def history (text : Text) (event : UserCreatedV1) (store : Store database) (first : Time) (operations : List Operation) :
    Store database := Machine.run (perform text event) (handle text first (.ok event) store).2 operations

/-- When the row of the event was last written. -/
def lastWrite (text : Text) (event : UserCreatedV1) (first : Time) (operations : List Operation) : Time :=
  Machine.run (stamp text event) (parseRFC3339 text event.createdAt first) operations

/-- A redelivery leaves the row as it was exactly if the event was never projected
or the row was last written at the time that the redelivery gives it. -/
theorem redelivery_idempotent_iff (text : Text) (event : UserCreatedV1) (store : Store database)
    (typed : RowTyped store event.userID) (first : Time) (operations : List Operation) (again : Time) :
    Tables.user (handle text again (.ok event) (history text event store first operations)).2 event.userID =
        Tables.user (history text event store first operations) event.userID ↔
      (Valid event → Admits store (profile text event (parseRFC3339 text event.createdAt first)) →
        Outbox.timestamptz (parseRFC3339 text event.createdAt again) = Outbox.timestamptz (lastWrite text event first operations)) := by
  by_cases valid : Valid event
  · by_cases admits : Admits store (profile text event (parseRFC3339 text event.createdAt first))
    · have start : Holds text event (parseRFC3339 text event.createdAt first) (handle text first (.ok event) store).2 := by
        rw [handle_store valid, if_pos admits]
        exact projected_holds admits typed
      have holds : Holds text event (lastWrite text event first operations) (history text event store first operations) :=
        start.run valid operations
      obtain ⟨row, found, projects⟩ := holds.row
      rw [redelivered_row holds valid found projects again, found, ← projects.updated]
      constructor
      · intro same _ _
        exact congrArg User.updatedAt (Option.some.inj same)
      · intro same
        rw [same valid admits]
    · have start : Refused text event (handle text first (.ok event) store).2 := by
        rw [handle_store valid, if_neg admits]
        exact ⟨mt (admits_at 0 _).mp admits, typed⟩
      have refused : Refused text event (history text event store first operations) := start.run valid operations
      rw [refused.redeliver valid]
      exact iff_of_true rfl fun _ impossible => absurd impossible admits
  · rw [handle_invalid valid]
    exact iff_of_true rfl fun impossible => absurd impossible valid

end Projection

/-! One user signs up and picks a display name. -/

def plainText : Text := ⟨id, fun _ => some 1000000⟩

def signUp : UserCreatedV1 := ⟨"u1", "ann@example.org", "ann", "google", "1970-01-01T00:00:00.001Z"⟩

def ann : Rooms.Subject := ⟨"u1", .user⟩

local instance : Collation := .c

def emptyStore : Store database := fun _ => none

theorem emptyStore_typed : RowTyped emptyStore "u1" := fun _ impossible => by cases impossible

/-- An edit at the very time that the event names. -/
def timely : Operation := .edit 1000000 ann (some "Ann") none

theorem signUp_again :
    (Tables.user (history plainText signUp emptyStore 5000000 [timely]) "u1").map User.displayName = some "Ann" ∧
      Tables.user (handle plainText 9000000 (.ok signUp) (history plainText signUp emptyStore 5000000 [timely])).2 "u1" =
        Tables.user (history plainText signUp emptyStore 5000000 [timely]) "u1" :=
  ⟨by decide +kernel, (redelivery_idempotent_iff plainText signUp emptyStore emptyStore_typed 5000000 [timely] 9000000).mpr
    fun _ _ => by decide +kernel⟩

/-- After an edit it takes the time of the edit back. -/
theorem edit_forgotten :
    ¬ ∀ (text : Text) (event : UserCreatedV1) (store : Store database), RowTyped store event.userID →
        ∀ (first : Time) (operations : List Operation) (again : Time),
          Tables.user (handle text again (.ok event) (history text event store first operations)).2 event.userID =
            Tables.user (history text event store first operations) event.userID := by
  intro claim
  have same := claim plainText signUp emptyStore emptyStore_typed 5000000 [.edit 7000000 ann (some "Ann") none] 9000000
  exact absurd same (by decide +kernel)

end VibeSync.Proofs.UserProjection
