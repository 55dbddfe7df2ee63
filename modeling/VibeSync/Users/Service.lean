import VibeSync.Auth.Tables
import VibeSync.Rooms.Service
import VibeSync.Users.Domain

/-! The `users` table of the User service, the statements of its repository, the
consumer of `user.created.v1` and the profile use cases. -/

namespace VibeSync.Users
open Transaction Columns

variable [Collation]

inductive Key where
  | user (id : String)
  | email (address : String)
  | username (value : String)
  deriving DecidableEq

@[reducible] def Row : Key → Type
  | .user _ => User
  | .email _ | .username _ => String

inductive Statement where
  | userUpsert (user : User)
  | userByID (id : String)
  | userUpdate (user : User)

@[reducible] def Reply : Statement → Type
  | .userUpsert _ => Unit
  | .userByID _ => Option User
  | .userUpdate _ => Nat

abbrev View : Type := (key : Key) → Option (Row key)

abbrev Changes : Type := (key : Key) → Option (Option (Row key))

namespace Tables

def user (view : View) (id : String) : Option User := view (.user id)

def unchanged : Changes := fun _ => none

def putUser (new : User) : Changes
  | .user id => if id = new.id then some (some new) else none
  | .email address => if address = citext new.email then some (some new.id) else none
  | .username value => if value = new.username then some (some new.id) else none

/-- A changed email or username leaves its place in the index. -/
def replaceUser (old new : User) : Changes
  | .user id => if id = new.id then some (some new) else none
  | .email address =>
    if address = citext new.email then some (some new.id)
    else if address = citext old.email then some none
    else none
  | .username value =>
    if value = new.username then some (some new.id) else if value = old.username then some none else none

/-- The unique column leads to another user. -/
def taken (holder : Option String) (id : String) : Bool :=
  match holder with
  | some other => other ≠ id
  | none => false

def stored (given : User) : User :=
  { given with createdAt := Outbox.timestamptz given.createdAt, updatedAt := Outbox.timestamptz given.updatedAt }

/-- The columns that the upsert sets on a conflict. -/
def refresh (old given : User) : User :=
  { old with
    email := given.email, username := given.username, systemRole := given.systemRole
    updatedAt := Outbox.timestamptz given.updatedAt }

def upsertUser (view : View) (given : User) : Except Err (Unit × Changes) := do
  checkID given.id
  checkLength 32 given.username
  checkLength 100 given.displayName
  if taken (view (.email (citext given.email))) given.id then .error (.uniqueViolation "users_email_key")
  else if taken (view (.username given.username)) given.id then .error (.uniqueViolation "users_username_key")
  else match user view given.id with
    | some old => .ok ((), replaceUser old (refresh old given))
    | none => .ok ((), putUser (stored given))

/-- The columns that `Update` sets. -/
def overwrite (row given : User) : User :=
  { row with
    displayName := given.displayName, avatarURL := given.avatarURL, updatedAt := Outbox.timestamptz given.updatedAt }

def setUser (new : User) : Changes
  | .user id => if id = new.id then some (some new) else none
  | _ => none

/-- The rows affected, and the update. -/
def updateUser (view : View) (given : User) : Except Err (Nat × Changes) :=
  match user view given.id with
  | none => .ok (0, unchanged)
  | some row => do
    checkLength 100 given.displayName
    .ok (1, setUser (overwrite row given))

def execute : (statement : Statement) → View → Except Err (Reply statement × Changes)
  | .userUpsert given, view => upsertUser view given
  | .userByID id, view => .ok (user view id, unchanged)
  | .userUpdate given, view => updateUser view given

end Tables

abbrev database : Database where
  Key := Key
  Row := Row
  Error := Err
  Statement := Statement
  Reply := Reply
  execute := Tables.execute

abbrev Tx (α : Type) : Type := Program database Err α

namespace Repo

def sql (statement : Statement) (context : String) : Tx (Reply statement) :=
  @Program.query database Err statement (Err.wrapped context)

def upsert (user : User) : Tx Unit := (sql (.userUpsert user) "user_repo: upsert" :)

def getByID (id : String) : Tx User := do
  match ← (sql (.userByID id) "user_repo: scan" : Tx (Option User)) with
  | some user => return user
  | none => Program.fail (.missing "user" id)

def update (user : User) : Tx Unit := do
  let affected ← (sql (.userUpdate user) "user_repo: update" : Tx Nat)
  if affected = 0 then Program.fail (.missing "user" user.id) else return ()

end Repo

/-- The consumer. `payload` is what decoding the message came to; a message that
does not decode or lacks a field is skipped. -/
def handle (text : Text) (now : Time) (payload : Except Err UserCreatedV1) (store : Store database) :
    Except Err Unit × Store database :=
  match payload with
  | .error _ => (.ok (), store)
  | .ok event =>
    match projectFromEvent text event now with
    | .error _ => (.ok (), store)
    | .ok user => (Repo.upsert user).withTx store

/-- The consumer on the bytes of a message, with a transaction that may fail. -/
def handleMessage (text : Text) (now : Time) (failure : Option Err) (value : JsonObject) (store : Store database) :
    Except Err Unit × Store database :=
  let payload := (UserCreatedV1.decode value).elim (.error (.plain "json: cannot unmarshal")) .ok
  match failure with
  | none => handle text now payload store
  | some err =>
    match payload.bind (projectFromEvent text · now) with
    | .error _ => (.ok (), store)
    | .ok _ => (.error err, store)

/-- `errors.Is` with the sentinel of the ports. -/
def isNotFound : Err → Bool
  | .missing _ _ => true
  | .wrapped _ cause => isNotFound cause
  | _ => false

def missingID : Err := .invalidArgumentFor "vibesync.user" "MISSING_ID" "user id required"

def getUser (id : String) (store : Store database) : Except Err User :=
  if id = "" then .error missingID
  else
    match ((Repo.getByID id).withTx store).1 with
    | .error err =>
      if isNotFound err then .error (.notFound "user" id)
      else .error ((Err.internal "GET_USER_FAILED" err.text).withCause (some err))
    | .ok user => .ok user

structure UpdateUserRequest where
  id : String
  displayName : Option String
  avatarURL : Option String
  deriving DecidableEq, Repr

def updateUserBody (now : Time) (req : UpdateUserRequest) : Tx User := do
  let user ← Repo.getByID req.id
  let updated := user.applyUpdate now req.displayName req.avatarURL
  Repo.update updated
  return updated

def updateUser (now : Time) (subject : Rooms.Subject) (req : UpdateUserRequest) (store : Store database) :
    Except Err User × Store database :=
  if req.id = "" then (.error missingID, store)
  else if subject.userID ≠ req.id ∧ ¬ subject.atLeast .administrator then
    (.error (.permissionDenied "update_user" ("user:" ++ req.id)), store)
  else
    match (updateUserBody now req).withTx store with
    | (.error err, after) =>
      if isNotFound err then (.error (.notFound "user" req.id), after)
      else (.error ((Err.internal "UPDATE_USER_FAILED" err.text).withCause (some err)), after)
    | (.ok user, after) => (.ok user, after)

end VibeSync.Users
