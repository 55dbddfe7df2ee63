import VibeSync.Columns
import VibeSync.Transaction
import VibeSync.Auth.Accounts
import VibeSync.Outbox.Table

/-! The Auth tables and the statements of the Postgres repositories. A unique
column is a key of its own that leads to the primary key, as its index does. -/

namespace VibeSync.Auth
open Transaction Columns

variable [Collation]

inductive Key where
  | user (id : String)
  | email (address : String)
  | session (id : String)
  | family (id : String)
  | token (id : String)
  | selector (value : String)
  | username (value : String)
  | flow (state : String)
  | account (provider providerUserID : String)
  | link (userID provider : String)
  | providerToken (provider userID : String)
  | outbox (id : String)
  deriving DecidableEq

@[reducible] def Row : Key → Type
  | .user _ => User
  | .session _ => Session
  | .token _ => RefreshToken
  | .email _ | .family _ | .selector _ | .username _ | .link _ _ => String
  | .flow _ => OAuthFlow
  | .account _ _ => OAuthAccount
  | .providerToken _ _ => ProviderToken
  | .outbox _ => Outbox.Row

inductive Statement where
  | userByID (id : String)
  | userByEmail (email : String)
  | createSession (session : Session)
  | sessionByID (id : String)
  | updateLastSeen (id : String) (at_ : Time)
  | createToken (token : RefreshToken)
  | getBySelector (selector : String)
  | markUsed (id : String) (at_ : Time)
  | markRevoked (id : String) (at_ : Time)
  | revokeFamily (familyID : String) (at_ : Time)
  | createUser (user : User)
  | createFlow (flow : OAuthFlow)
  | flowByState (state : String)
  | deleteFlow (state : String)
  | accountUpsert (account : OAuthAccount)
  | accountByProvider (provider providerUserID : String)
  | providerTokenUpsert (token : ProviderToken)
  | outboxInsert (event : Outbox.Event)

@[reducible] def Reply : Statement → Type
  | .userByID _ | .userByEmail _ => Option User
  | .sessionByID _ => Option Session
  | .getBySelector _ => Option RefreshToken
  | .flowByState _ => Option OAuthFlow
  | .accountByProvider _ _ => Option OAuthAccount
  | _ => Unit

abbrev View : Type := (key : Key) → Option (Row key)

abbrev Changes : Type := (key : Key) → Option (Option (Row key))

namespace Tables

def user (view : View) (id : String) : Option User := view (.user id)

def session (view : View) (id : String) : Option Session := view (.session id)

def token (view : View) (id : String) : Option RefreshToken := view (.token id)

def flow (view : View) (state : String) : Option OAuthFlow := view (.flow state)

def account (view : View) (provider providerUserID : String) : Option OAuthAccount := view (.account provider providerUserID)

def outbox (view : View) (id : String) : Option Outbox.Row := view (.outbox id)

def putSession (session : Session) : Changes
  | .session id => if id = session.id then some (some session) else none
  | .family id => if id = session.familyID then some (some session.id) else none
  | _ => none

def putToken (token : RefreshToken) : Changes
  | .token id => if id = token.id then some (some token) else none
  | .selector value => if value = token.selector then some (some token.id) else none
  | _ => none

/-- `UPDATE ... SET ... WHERE` over the rows of the token table. -/
def updateTokens (view : View) (condition : RefreshToken → Bool) (change : RefreshToken → RefreshToken) : Changes
  | .token id => match token view id with
    | some row => if condition row then some (some (change row)) else none
    | none => none
  | _ => none

/-- `UPDATE ... WHERE id = $1`: the primary key picks at most one row. -/
def updateToken (view : View) (id : String) (change : RefreshToken → RefreshToken) : Changes
  | .token key => if key = id then (token view key).map (fun row => some (change row)) else none
  | _ => none

def updateSession (view : View) (id : String) (change : Session → Session) : Changes
  | .session key => if key = id then (session view key).map (fun row => some (change row)) else none
  | _ => none

def unchanged : Changes := fun _ => none

def insertSession (view : View) (session : Session) : Except Err (Unit × Changes) := do
  checkID session.id
  checkID session.userID
  let deviceLabel ← varchar 100 session.deviceLabel
  checkID session.familyID
  if (view (.session session.id)).isSome then .error (.uniqueViolation "sessions_pkey")
  else if (view (.family session.familyID)).isSome then .error (.uniqueViolation "sessions_family_id_key")
  else if (view (.user session.userID)).isNone then .error (.foreignKeyViolation "sessions" "sessions_user_id_fkey")
  else .ok ((), putSession { session with deviceLabel })

def insertToken (view : View) (token : RefreshToken) : Except Err (Unit × Changes) := do
  checkID token.id
  checkID token.familyID
  checkID token.userID
  checkID token.sessionID
  checkLength 32 token.selector
  checkID token.rotatedFrom
  if (view (.token token.id)).isSome then .error (.uniqueViolation "refresh_tokens_pkey")
  else if (view (.selector token.selector)).isSome then .error (.uniqueViolation "refresh_tokens_selector_key")
  else if (view (.user token.userID)).isNone then .error (.foreignKeyViolation "refresh_tokens" "refresh_tokens_user_id_fkey")
  else if (view (.session token.sessionID)).isNone then .error (.foreignKeyViolation "refresh_tokens" "refresh_tokens_session_id_fkey")
  else .ok ((), putToken token)

def putUser (user : User) : Changes
  | .user id => if id = user.id then some (some user) else none
  | .email address => if address = citext user.email then some (some user.id) else none
  | .username value => if value = user.username then some (some user.id) else none
  | _ => none

def insertUser (view : View) (new : User) : Except Err (Unit × Changes) := do
  checkID new.id
  checkLength 32 new.username
  checkLength 100 new.displayName
  if (user view new.id).isSome then .error (.uniqueViolation "users_pkey")
  else if (view (.email (citext new.email))).isSome then .error (.uniqueViolation "users_email_key")
  else if (view (.username new.username)).isSome then .error (.uniqueViolation "users_username_key")
  else .ok ((), putUser new)

def putFlow (new : OAuthFlow) : Changes
  | .flow state => if state = new.state then some (some new) else none
  | _ => none

def insertFlow (view : View) (new : OAuthFlow) : Except Err (Unit × Changes) := do
  checkLength 32 new.state
  checkLength 32 new.provider
  let codeChallenge ← varchar 64 new.codeChallenge
  if (flow view new.state).isSome then .error (.uniqueViolation "oauth_flows_pkey")
  else .ok ((), putFlow { new with codeChallenge })

def deleteFlow (view : View) (state : String) : Changes
  | .flow key => if key = state then (flow view key).map fun _ => none else none
  | _ => none

def putAccount (new : OAuthAccount) : Changes
  | .account provider providerUserID =>
    if provider = new.provider ∧ providerUserID = new.providerUserID then some (some new) else none
  | .link userID provider => if userID = new.userID ∧ provider = new.provider then some (some new.providerUserID) else none
  | _ => none

/-- `ON CONFLICT (provider, provider_user_id) DO NOTHING`; the other unique index still refuses. -/
def upsertAccount (view : View) (new : OAuthAccount) : Except Err (Unit × Changes) := do
  checkLength 32 new.provider
  checkLength 255 new.providerUserID
  checkID new.userID
  if (account view new.provider new.providerUserID).isSome then .ok ((), unchanged)
  else if (view (.link new.userID new.provider)).isSome then .error (.uniqueViolation "oauth_accounts_user_provider_idx")
  else if (user view new.userID).isNone then .error (.foreignKeyViolation "oauth_accounts" "oauth_accounts_user_id_fkey")
  else .ok ((), putAccount new)

def putProviderToken (new : ProviderToken) : Changes
  | .providerToken provider userID => if provider = new.provider ∧ userID = new.userID then some (some new) else none
  | _ => none

def upsertProviderToken (view : View) (new : ProviderToken) : Except Err (Unit × Changes) := do
  checkLength 32 new.provider
  checkID new.userID
  if (user view new.userID).isNone then .error (.foreignKeyViolation "provider_tokens" "provider_tokens_user_id_fkey")
  else .ok ((), putProviderToken new)

def putOutbox (id : String) (row : Outbox.Row) : Changes
  | .outbox key => if key = id then some (some row) else none
  | _ => none

def insertOutbox (view : View) (event : Outbox.Event) : Except Err (Unit × Changes) := do
  checkID event.id
  checkID event.aggregateID
  checkLength 128 event.topic
  checkLength 128 event.row.event.key
  checkLength 16 event.version
  if (outbox view event.id).isSome then .error (.uniqueViolation "outbox_pkey")
  else .ok ((), putOutbox event.id event.row)

def execute : (statement : Statement) → View → Except Err (Reply statement × Changes)
  | .userByID id, view => .ok (user view id, unchanged)
  | .userByEmail email, view => .ok ((view (.email (citext email))).bind (user view), unchanged)
  | .createSession session, view => insertSession view session
  | .sessionByID id, view => .ok (session view id, unchanged)
  | .updateLastSeen id now, view => .ok ((), updateSession view id fun row => { row with lastSeenAt := now })
  | .createToken token, view => insertToken view token
  | .getBySelector selector, view => .ok ((view (.selector selector)).bind (token view), unchanged)
  | .markUsed id now, view => .ok ((), updateToken view id fun row => row.markUsed now)
  | .markRevoked id now, view => .ok ((), updateToken view id fun row => row.markRevoked now)
  | .revokeFamily familyID now, view =>
    .ok ((), updateTokens view (fun row => row.familyID = familyID ∧ row.status ≠ .compromised)
      fun row => row.markCompromised now)
  | .createUser user, view => insertUser view user
  | .createFlow flow, view => insertFlow view flow
  | .flowByState state, view => .ok (flow view state, unchanged)
  | .deleteFlow state, view => .ok ((), deleteFlow view state)
  | .accountUpsert account, view => upsertAccount view account
  | .accountByProvider provider providerUserID, view => .ok (account view provider providerUserID, unchanged)
  | .providerTokenUpsert token, view => upsertProviderToken view token
  | .outboxInsert event, view => insertOutbox view event

end Tables

abbrev database : Database where
  Key := Key
  Row := Row
  Error := Err
  Statement := Statement
  Reply := Reply
  execute := Tables.execute

end VibeSync.Auth
