import VibeSync.Auth.Tables

/-! The session use cases of the Auth service: login, refresh and logout. Each
body is the function passed to `withTx`. -/

namespace VibeSync.Auth
open Transaction

variable [Collation]

structure AccessTokenClaims where
  subject : String
  systemRole : Int
  issuer : String
  audience : List String
  issuedAt : Time
  expiresAt : Time
  scope : String

/-- What one call draws from its ports and its configuration. Ids are numbered
in the order in which the call generates them. -/
structure Env where
  now : Time
  issuedAt : Time
  idgen : Nat → String
  randomURL : Nat → Except Err String
  hash : String → Except Err String
  compare : String → String → Bool
  sign : AccessTokenClaims → Except Err String
  issuer : String
  sessionTTL : Duration
  refreshTokenTTL : Duration
  accessTokenTTL : Duration

structure TokenMaterial where
  accessToken : String
  refreshToken : String
  expiresIn : Nat

abbrev Tx (α : Type) : Type := Program database Err α

namespace Repo

def sql (statement : Statement) (context : String) : Tx (Reply statement) :=
  @Program.query database Err statement (Err.wrapped context)

def userByID (id : String) : Tx (Option User) := (sql (.userByID id) "user_repo: scan" :)

def userByEmail (email : String) : Tx (Option User) := (sql (.userByEmail email) "user_repo: scan" :)

def createSession (session : Session) : Tx Unit := (sql (.createSession session) "session_repo: create" :)

def sessionByID (id : String) : Tx (Option Session) := (sql (.sessionByID id) "session_repo: scan" :)

def updateLastSeen (id : String) (now : Time) : Tx Unit :=
  (sql (.updateLastSeen id now) "session_repo: update_last_seen" :)

def createToken (token : RefreshToken) : Tx Unit := (sql (.createToken token) "refresh_repo: create" :)

def getBySelector (selector : String) : Tx (Option RefreshToken) :=
  (sql (.getBySelector selector) "refresh_repo: scan" :)

def markUsed (id : String) (now : Time) : Tx Unit := (sql (.markUsed id now) "refresh_repo: mark_used" :)

def markRevoked (id : String) (now : Time) : Tx Unit := (sql (.markRevoked id now) "refresh_repo: mark_revoked" :)

def revokeFamily (familyID : String) (now : Time) : Tx Unit :=
  (sql (.revokeFamily familyID now) "refresh_repo: revoke_family" :)

end Repo

def issueAccessToken (env : Env) (user : User) : Except Err String :=
  env.sign { subject := user.id, systemRole := user.systemRole.number, issuer := env.issuer,
             audience := ["vibesync"], issuedAt := env.issuedAt,
             expiresAt := env.issuedAt + env.accessTokenTTL, scope := "" }

def tokenMaterial (env : Env) (access : String) (material : ValidatorMaterial) : TokenMaterial :=
  { accessToken := access, refreshToken := material.presentationToken,
    expiresIn := (env.accessTokenTTL / 1000000000).toNat }

def splitSelectorValidator (token : String) : String × String :=
  let selector := token.toList.takeWhile (· ≠ '.')
  let rest := token.toList.dropWhile (· ≠ '.')
  if selector = [] ∨ rest.length ≤ 1 then ("", "")
  else (String.ofList selector, String.ofList rest.tail)

/-- The happy path of a refresh: the presented token becomes used and its
successor joins the family. -/
def rotate (env : Env) (rt : RefreshToken) : Tx (Session × TokenMaterial) := do
  match ← Repo.userByID rt.userID with
  | none => Program.fail (.unauthenticated "INVALID_REFRESH_TOKEN")
  | some user =>
    if user.canAuthenticate then
      Repo.markUsed rt.id env.now
      let (newRT, newValidator) ← Program.done (newRefreshToken env.randomURL env.hash env.now (env.idgen 0)
        rt.familyID user.id rt.sessionID rt.id env.refreshTokenTTL)
      Repo.createToken newRT
      Repo.updateLastSeen rt.sessionID env.now
      let access ← Program.done (issueAccessToken env user)
      match ← Repo.sessionByID rt.sessionID with
      | none => Program.fail (.missing "session" rt.sessionID)
      | some session => return (session, tokenMaterial env access newValidator)
    else Program.fail (.permissionDenied "refresh" ("user:" ++ user.id))

def reuseDetected (rt : RefreshToken) (cause : Option Err) : Err :=
  ((Err.unauthenticated "REUSE_DETECTED").withMeta "family_id" rt.familyID).withCause cause

def refreshBody (env : Env) (selector validator : String) : Tx (Session × TokenMaterial) := do
  match ← Repo.getBySelector selector with
  | none => Program.fail (.unauthenticated "INVALID_REFRESH_TOKEN")
  | some rt =>
    if rt.verifyValidator validator env.compare then
      let action := rt.classifyUse env.now
      match action.outcome with
      | .rotate => rotate env rt
      | .reuse =>
        Repo.revokeFamily rt.familyID env.now
        Program.fail (reuseDetected rt action.err)
      | .compromised => Program.fail ((Err.unauthenticated "FAMILY_COMPROMISED").withCause action.err)
      | .revoked => Program.fail ((Err.unauthenticated "REVOKED").withCause action.err)
      | .expired => Program.fail ((Err.unauthenticated "EXPIRED").withCause action.err)
      | .unspecified => Program.fail (.internal "UNKNOWN_TOKEN_STATE" "unhandled refresh token state")
    else Program.fail (.unauthenticated "INVALID_REFRESH_TOKEN")

def refreshUseCase (env : Env) (presented : String) (store : Store database) :
    Except Err (Session × TokenMaterial) × Store database :=
  let (selector, validator) := splitSelectorValidator presented
  if selector = "" ∨ validator = "" then
    (.error (.invalidArgumentFor "vibesync.auth" "MALFORMED_REFRESH_TOKEN" "expected <selector>.<validator>"), store)
  else (refreshBody env selector validator).withTx store

def refreshToken (env : Env) (presented : String) (store : Store database) :
    Except Err (Session × TokenMaterial) × Store database :=
  if presented = "" then
    (.error (.invalidArgumentFor "vibesync.auth" "MISSING_REFRESH_TOKEN" "refresh_token required"), store)
  else refreshUseCase env presented store

def logoutBody (env : Env) (selector : String) : Tx Bool := do
  match ← Repo.getBySelector selector with
  | none => return false
  | some rt =>
    if rt.status = .active then
      Repo.markRevoked rt.id env.now
      return true
    else return false

def logout (env : Env) (presented : String) (store : Store database) : Except Err Bool × Store database :=
  let (selector, _) := splitSelectorValidator presented
  if presented = "" ∨ selector = "" then (.ok false, store)
  else (logoutBody env selector).withTx store

/-- A fresh session with the root token of a new family. Login repeats these
steps inline; registration and OAuth call them. -/
def issueSessionForUser (env : Env) (user : User) (deviceLabel : String) : Tx (Session × TokenMaterial) := do
  let sess := newSession env.now (env.idgen 0) user.id (env.idgen 1) env.sessionTTL deviceLabel
  Repo.createSession sess
  let (rt, validator) ← Program.done (newRefreshToken env.randomURL env.hash env.now (env.idgen 2)
    (env.idgen 1) user.id (env.idgen 0) "" env.refreshTokenTTL)
  Repo.createToken rt
  let access ← Program.done (issueAccessToken env user)
  return (sess, tokenMaterial env access validator)

def loginBody (env : Env) (email password deviceLabel : String) : Tx (Session × TokenMaterial) := do
  match ← Repo.userByEmail email with
  | none => Program.fail (.unauthenticated "INVALID_CREDENTIALS")
  | some user =>
    if ¬ user.hasPassword ∨ ¬ env.compare user.passwordHash password then
      Program.fail (.unauthenticated "INVALID_CREDENTIALS")
    else if user.canAuthenticate then issueSessionForUser env user deviceLabel
    else Program.fail (.permissionDenied "login" ("user:" ++ user.id))

def login (env : Env) (email password deviceLabel : String) (store : Store database) :
    Except Err (Session × TokenMaterial) × Store database :=
  if email = "" ∨ password = "" then
    (.error (.invalidArgumentFor "vibesync.auth" "MISSING_CREDENTIALS" "email and password required"), store)
  else (loginBody env email password deviceLabel).withTx store

end VibeSync.Auth
