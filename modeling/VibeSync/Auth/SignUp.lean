import VibeSync.Auth.Service

/-! Registration and the OAuth sign-in. A sign-in consumes its flow in one
transaction, asks the provider, and upserts the user in a second one. -/

namespace VibeSync.Auth
open Transaction

variable [Collation]

/-- The further ports of a call that may create a user. -/
structure SignUpEnv extends Env where
  startedAt : Time
  passwordSetAt : Time
  savedAt : Time
  lower : Char → Char
  encrypt : String → Except Err String
  rfc3339 : Time → String

/-- The environment once some ids are drawn. -/
def SignUpEnv.skip (env : SignUpEnv) (drawn : Nat) : Env := { env.toEnv with idgen := fun n => env.idgen (drawn + n) }

/-- SQLSTATE 23505 anywhere in the chain of causes. -/
def isUniqueViolation : Err → Bool
  | .uniqueViolation _ => true
  | .wrapped _ cause => isUniqueViolation cause
  | .vibe _ _ _ _ _ (some cause) => isUniqueViolation cause
  | _ => false

namespace Repo

def createUser (user : User) (failed : Err → Err) : Tx Unit :=
  @Program.query database Err (.createUser user) fun problem => failed (.wrapped "user_repo: create" problem)

def createFlow (flow : OAuthFlow) : Tx Unit := (sql (.createFlow flow) "oauthflow_repo: create" :)

/-- `GetAndConsume`: the number of deleted rows is not looked at. -/
def getAndConsume (state : String) : Tx (Option OAuthFlow) := do
  match ← (sql (.flowByState state) "oauthflow_repo: scan" :) with
  | none => return none
  | some flow =>
    (sql (.deleteFlow state) "oauthflow_repo: consume" : Tx Unit)
    return some flow

def accountUpsert (account : OAuthAccount) : Tx Unit := (sql (.accountUpsert account) "oauthaccount_repo: upsert" :)

def accountByProvider (provider providerUserID : String) : Tx (Option OAuthAccount) :=
  (sql (.accountByProvider provider providerUserID) "oauthaccount_repo: scan" :)

def providerTokenUpsert (token : ProviderToken) : Tx Unit :=
  (sql (.providerTokenUpsert token) "provider_token_repo: upsert" :)

def outboxAppend (event : Outbox.Event) : Tx Unit :=
  if event.topic = "" then Program.fail (.plain "outbox: event 0 missing topic")
  else (sql (.outboxInsert event) "outbox: insert event 0" :)

end Repo

def userCreated : String := "user.created.v1"

def createdEvent (env : SignUpEnv) (id provider : String) (user : User) : Outbox.Event :=
  { id, aggregateID := user.id, topic := userCreated, key := user.id
    payload := [("created_at", .text (env.rfc3339 env.startedAt)), ("email", .text user.email),
      ("provider", .text provider), ("user_id", .text user.id), ("username", .text user.username)]
    headers := [], occurredAt := env.startedAt, version := "v1" }

/-- An error with its cause. -/
def reporting {α : Type} (report : String → Err) : Except Err α → Except Err α
  | .ok value => .ok value
  | .error err => .error ((report err.text).withCause (some err))

omit [Collation] in
theorem reporting_ok {α : Type} {report : String → Err} {result : Except Err α} {value : α}
    (reported : reporting report result = .ok value) : result = .ok value := by
  cases result with
  | error err => cases reported
  | ok value => exact reported

/-! Registration. -/

structure RegisterRequest where
  email : String
  username : String
  password : String
  displayName : String
  deviceLabel : String

def registerBody (env : SignUpEnv) (req : RegisterRequest) : Tx (Session × TokenMaterial) := do
  let fresh ← Program.done (reporting (.invalidArgumentFor "vibesync.auth" "INVALID_FIELDS")
    (newUser env.lower env.startedAt ⟨req.email, req.username, req.displayName, ""⟩))
  let hash ← Program.done (reporting (.internal "PASSWORD_HASH_FAILED") (env.hash req.password))
  match ← Repo.userByEmail fresh.email with
  | some _ => Program.fail (.alreadyExists "user" fresh.email)
  | none =>
    let user := { fresh.setPassword hash env.passwordSetAt with id := env.idgen 0 }
    Repo.createUser user fun err => if isUniqueViolation err then .alreadyExists "user" user.email else err
    Repo.outboxAppend (createdEvent env (env.idgen 1) "password" user)
    issueSessionForUser (env.skip 2) user req.deviceLabel

def register (env : SignUpEnv) (req : RegisterRequest) (store : Store database) :
    Except Err (Session × TokenMaterial) × Store database :=
  if req.email = "" ∨ req.username = "" ∨ req.password = "" then
    (.error (.invalidArgumentFor "vibesync.auth" "MISSING_FIELDS" "email, username, and password are required"), store)
  else if req.password.utf8ByteSize < 8 then
    (.error (.invalidArgumentFor "vibesync.auth" "PASSWORD_TOO_SHORT" "password must be at least 8 characters"), store)
  else (registerBody env req).withTx store

/-! OAuth. -/

structure OAuthProvider where
  name : String
  authorizationURL : String → String → String → Except Err String
  exchange : String → String → String → Except Err ProviderTokens
  profile : ProviderTokens → Except Err ProviderProfile

abbrev Registry : Type := List OAuthProvider

/-- Of two providers with one name the later one is registered. -/
def Registry.get (registry : Registry) (name : String) : Option OAuthProvider :=
  registry.reverse.find? fun provider => provider.name = name

structure BeginOAuthRequest where
  provider : String
  redirectURI : String
  codeChallenge : String

structure BeginOAuthResponse where
  authorizationURL : String
  state : String

def beginOAuth (env : Env) (flowTTL : Duration) (registry : Option Registry) (req : BeginOAuthRequest)
    (store : Store database) : Except Err BeginOAuthResponse × Store database :=
  if req.provider = "" ∨ req.redirectURI = "" then
    (.error (.invalidArgumentFor "vibesync.auth" "MISSING_OAUTH_PARAMS" "provider and redirect_uri required"), store)
  else match registry with
  | none => (.error (.failedPrecondition "vibesync.auth" "OAUTH_DISABLED" "no OAuth providers configured"), store)
  | some registry => match registry.get req.provider with
    | none => (.error (.invalidArgumentFor "vibesync.auth" "UNKNOWN_PROVIDER"
        ("unknown or disabled OAuth provider: " ++ req.provider)), store)
    | some provider =>
      match reporting (.internal "OAUTH_FLOW_INIT")
          (newOAuthFlow env.randomURL env.now req.provider req.redirectURI req.codeChallenge "" flowTTL) with
      | .error err => (.error err, store)
      | .ok flow => match (Repo.createFlow flow).withTx store with
        | (.error err, after) => (.error err, after)
        | (.ok _, after) =>
          match reporting (.internal "OAUTH_AUTH_URL")
              (provider.authorizationURL req.redirectURI flow.state flow.codeChallenge) with
          | .error err => (.error err, after)
          | .ok url => (.ok ⟨url, flow.state⟩, after)

/-- The transaction that consumes a flow. -/
def consumeBody (state : String) : Tx OAuthFlow := do
  match ← Repo.getAndConsume state with
  | none => Program.fail (.invalidArgumentFor "vibesync.auth" "BAD_STATE" "state not found or expired")
  | some flow => return flow

def saveProviderTokens (env : SignUpEnv) (provider userID : String) (tokens : ProviderTokens) : Tx Unit :=
  if tokens.accessToken = "" then return ()
  else do
    let encAccess ← Program.done (reporting (.internal "TOKEN_ENCRYPT_FAILED") (env.encrypt tokens.accessToken))
    let encRefresh ← Program.done (reporting (.internal "TOKEN_ENCRYPT_FAILED") (env.encrypt tokens.refreshToken))
    let expiresIn := if tokens.expiresIn = 0 then 3600000000000 else tokens.expiresIn
    Repo.providerTokenUpsert ⟨provider, userID, encAccess, encRefresh, env.savedAt + expiresIn, env.savedAt⟩

/-- The last part of the upsert, for the user found or created. -/
def signIn (env : SignUpEnv) (drawn : Nat) (provider : String) (user : User) (deviceLabel : String)
    (tokens : ProviderTokens) : Tx (Session × TokenMaterial) :=
  if user.canAuthenticate then do
    saveProviderTokens env provider user.id tokens
    issueSessionForUser (env.skip drawn) user deviceLabel
  else Program.fail (.permissionDenied "oauth_login" ("user:" ++ user.id))

/-- An identity without a user: the user, the link and the event are created. -/
def createOAuthUser (env : SignUpEnv) (provider : String) (profile : ProviderProfile) : Tx User := do
  let fresh ← Program.done (reporting (.invalidArgumentFor "vibesync.auth" "OAUTH_PROFILE_INVALID")
    (newUser env.lower env.startedAt ⟨profile.email, deriveUsername profile, profile.displayName, profile.avatarURL⟩))
  let user := { fresh with id := env.idgen 0 }
  Repo.createUser user id
  Repo.accountUpsert ⟨user.id, provider, profile.providerUserID, env.startedAt⟩
  Repo.outboxAppend (createdEvent env (env.idgen 1) provider user)
  return user

/-- `completeOAuthUpsert`. -/
def upsertBody (env : SignUpEnv) (provider : String) (profile : ProviderProfile) (deviceLabel : String)
    (tokens : ProviderTokens) : Tx (Session × TokenMaterial) := do
  match ← Repo.accountByProvider provider profile.providerUserID with
  | some link =>
    match ← Repo.userByID link.userID with
    | none => Program.fail (.missing "user" "")
    | some user => signIn env 0 provider user deviceLabel tokens
  | none =>
    match ← Repo.userByEmail profile.email with
    | some user =>
      Repo.accountUpsert ⟨user.id, provider, profile.providerUserID, env.startedAt⟩
      signIn env 0 provider user deviceLabel tokens
    | none =>
      let user ← createOAuthUser env provider profile
      signIn env 2 provider user deviceLabel tokens

structure CompleteOAuthRequest where
  provider : String
  code : String
  state : String
  codeVerifier : String

/-- What the provider answers between the two transactions. -/
def askProvider (provider : OAuthProvider) (req : CompleteOAuthRequest) (flow : OAuthFlow) :
    Except Err (ProviderTokens × ProviderProfile) :=
  match provider.exchange req.code flow.redirectURI req.codeVerifier with
  | .error err => .error ((Err.unauthenticated "OAUTH_EXCHANGE_FAILED").withCause (some err))
  | .ok tokens => match provider.profile tokens with
    | .error err => .error ((Err.internal "OAUTH_PROFILE_FAILED" err.text).withCause (some err))
    | .ok profile =>
      if profile.providerUserID = "" ∨ profile.email = "" then
        .error (.invalidArgumentFor "vibesync.auth" "OAUTH_PROFILE_INCOMPLETE" "provider did not return id and email")
      else .ok (tokens, profile)

def completeOAuth (env : SignUpEnv) (registry : Option Registry) (req : CompleteOAuthRequest) (store : Store database) :
    Except Err (Session × TokenMaterial) × Store database :=
  match registry with
  | none => (.error (.failedPrecondition "vibesync.auth" "OAUTH_DISABLED" "no OAuth providers configured"), store)
  | some registry => match registry.get req.provider with
    | none => (.error (.invalidArgumentFor "vibesync.auth" "UNKNOWN_PROVIDER" "unknown or disabled OAuth provider"), store)
    | some provider => match (consumeBody req.state).withTx store with
      | (.error err, after) => (.error err, after)
      | (.ok flow, consumed) => match askProvider provider req flow with
        | .error err => (.error err, consumed)
        | .ok (tokens, profile) => (upsertBody env provider.name profile flow.userAgent tokens).withTx consumed

end VibeSync.Auth
