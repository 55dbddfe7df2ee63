import Mathlib.Logic.Function.Basic
import VibeSync.Auth.SignUp

/-! Signing keys: their table, the in-memory signer, the start of the service and
the rotation of the active key. -/

namespace VibeSync.Auth.Keys

inductive SigningKeyStatus where
  | unspecified | active | retired
  deriving DecidableEq, Repr

structure SigningKey where
  kid : String
  status : SigningKeyStatus
  privateEncrypted : String
  publicJWK : String
  createdAt : Time
  retiredAt : Option Time
  deriving DecidableEq, Repr

/-- The payload of an access token, in seconds. -/
structure JwtClaims where
  sub : String
  role : Int
  scope : String
  jti : String
  iss : String
  aud : List String
  iat : Int
  exp : Int
  deriving DecidableEq, Repr

/-- The parts of a compact token. -/
structure Jws where
  kid : String
  payload : String
  signature : String
  deriving DecidableEq, Repr

/-- The libraries behind the keys: RSA and its encodings, the cipher under the
master key, JSON and go-jose. -/
structure Crypto (Private Public : Type) where
  publicKey : Private → Public
  encodePrivateKeyPKCS8 : Private → Except Err String
  rsaPrivateKeyFromPKCS8 : String → Except Err Private
  decrypt : String → Except Err String
  rsaPublicKeyToJWK : Public → Except Err String
  jwkToRSAPublic : String → Except Err Public
  marshal : JwtClaims → Except Err String
  unmarshal : String → Except Err JwtClaims
  /-- The signature of a header with this kid and of the payload. -/
  sign : Private → String → String → Except Err String
  verify : Public → Jws → Bool
  compactSerialize : Jws → Except Err String
  parseSignedCompact : String → Option Jws

/-- What one start or one rotation draws. The cipher takes a new nonce each time. -/
structure KeyEnv (Private : Type) where
  now : Time
  random : Except Err String
  generated : Except Err Private
  encrypt : String → Except Err String
  keyRotationInterval : Duration

variable {Private Public : Type}

def kidPrefix : String := "vk1_"

def newKID (random : Except Err String) : Except Err String := random.map (kidPrefix ++ ·)

def generateSigningKey (crypto : Crypto Private Public) (env : KeyEnv Private) (kid : String) :
    Except Err (SigningKey × Private) := do
  let priv ← env.generated
  let privDER ← crypto.encodePrivateKeyPKCS8 priv
  let privateEncrypted ← env.encrypt privDER
  let publicJWK ← crypto.rsaPublicKeyToJWK (crypto.publicKey priv)
  return ({ kid, status := .active, privateEncrypted, publicJWK, createdAt := env.now, retiredAt := none }, priv)

/-! The table. -/

abbrev Table : Type := List SigningKey

/-- What the columns keep of a key. -/
def SigningKey.stored (k : SigningKey) : SigningKey :=
  { k with createdAt := Outbox.timestamptz k.createdAt, retiredAt := k.retiredAt.map Outbox.timestamptz }

def actives (table : Table) : Table := table.filter fun row => row.status = .active

/-- `ON CONFLICT (kid) DO UPDATE` keeps the creation time. The partial unique
index admits one active row. -/
def upsert (table : Table) (k : SigningKey) : Except Err Table :=
  let after := if table.any fun row => row.kid = k.kid then
      table.map fun row => if row.kid = k.kid then { k.stored with createdAt := row.createdAt } else row
    else table ++ [k.stored]
  if (actives after).length > 1 then
    .error (.wrapped "signingkey_repo: upsert" (.uniqueViolation "signing_keys_one_active_idx"))
  else .ok after

def getActive (table : Table) : Option SigningKey := table.find? fun row => row.status = .active

def listVerifiable (table : Table) : List SigningKey :=
  (table.filter fun row => row.status = .active ∨ row.status = .retired).insertionSort
    fun first second => second.createdAt ≤ first.createdAt

def markRetired (table : Table) (kid : String) (now : Time) : Table :=
  table.map fun row =>
    if row.kid = kid then { row with status := .retired, retiredAt := some (Outbox.timestamptz now) } else row

/-! Transactions that may fail. -/

inductive Query where
  | getActive | markRetired | upsert | listVerifiable
  deriving DecidableEq

/-- An unacknowledged commit has taken effect, and its caller sees an error. -/
inductive CommitOutcome where
  | applied
  | lost (err : Err)
  | unacknowledged (err : Err)

structure Outage where
  begin_ : Option Err
  fails : Query → Option Err
  commit : CommitOutcome

def Outage.attempt {α : Type} (outage : Outage) (query : Query) (result : Except Err α) : Except Err α :=
  match outage.fails query with
  | some err => .error err
  | none => result

def withTx {α : Type} (outage : Outage) (table : Table) (body : Table → Except Err (α × Table)) : Except Err α × Table :=
  match outage.begin_ with
  | some err => (.error err, table)
  | none => match body table with
    | .error err => (.error err, table)
    | .ok (value, after) => match outage.commit with
      | .applied => (.ok value, after)
      | .lost err => (.error err, table)
      | .unacknowledged err => (.error err, after)

/-! The signer. -/

structure VerifiableKey where
  kid : String
  publicJWK : String

abbrev RetiredKeyInput : Type := VerifiableKey

structure JWTSigner (Private Public : Type) where
  activeKID : String
  priv : Private
  verifiers : String → Option Public

/-- The public keys of stored rows, one after another. -/
def loadKeys (crypto : Crypto Private Public) (context : String) (verifiers : String → Option Public) :
    List VerifiableKey → Except Err (String → Option Public)
  | [] => .ok verifiers
  | key :: rest => match crypto.jwkToRSAPublic key.publicJWK with
    | .error err => .error (.wrapped (context ++ key.kid) err)
    | .ok pub => loadKeys crypto context (Function.update verifiers key.kid (some pub)) rest

def ownVerifier (crypto : Crypto Private Public) (active : SigningKey) (activePriv : Private) : String → Option Public :=
  Function.update (fun _ => none) active.kid (some (crypto.publicKey activePriv))

def newJWTSigner (crypto : Crypto Private Public) (active : SigningKey) (activePriv : Private)
    (verifiable : List VerifiableKey) : Except Err (JWTSigner Private Public) :=
  match loadKeys crypto "jwt: load retired key " (ownVerifier crypto active activePriv)
      (verifiable.filter fun key => key.kid ≠ active.kid) with
  | .error err => .error err
  | .ok verifiers => .ok ⟨active.kid, activePriv, verifiers⟩

/-- `Reload`: the whole key set is replaced. -/
def JWTSigner.reload (crypto : Crypto Private Public) (active : SigningKey) (activePriv : Private)
    (retired : List RetiredKeyInput) : Except Err (JWTSigner Private Public) :=
  match loadKeys crypto "jwt: reload retired key " (ownVerifier crypto active activePriv) retired with
  | .error err => .error err
  | .ok verifiers => .ok ⟨active.kid, activePriv, verifiers⟩

/-- `time.Time.Unix`. -/
def unix (t : Time) : Int := t / 1000000000

def jwtClaims (jti : String) (c : AccessTokenClaims) : JwtClaims :=
  { sub := c.subject, role := c.systemRole, scope := c.scope, jti, iss := c.issuer, aud := c.audience,
    iat := unix c.issuedAt, exp := unix c.expiresAt }

def JWTSigner.sign (crypto : Crypto Private Public) (signer : JWTSigner Private Public) (jti : String)
    (c : AccessTokenClaims) : Except Err String :=
  match crypto.marshal (jwtClaims jti c) with
  | .error err => .error (.wrapped "jwt: marshal claims" err)
  | .ok payload => match crypto.sign signer.priv signer.activeKID payload with
    | .error err => .error (.wrapped "jwt: sign" err)
    | .ok signature => crypto.compactSerialize ⟨signer.activeKID, payload, signature⟩

/-- The claims of a payload, with the id of the token. -/
def JwtClaims.access (claims : JwtClaims) : AccessTokenClaims × String :=
  ({ subject := claims.sub, systemRole := claims.role, issuer := claims.iss, audience := claims.aud,
     issuedAt := claims.iat * 1000000000, expiresAt := claims.exp * 1000000000, scope := claims.scope }, claims.jti)

def JWTSigner.verify (crypto : Crypto Private Public) (signer : JWTSigner Private Public) (now : Time) (token : String) :
    Except Err (AccessTokenClaims × String) :=
  match crypto.parseSignedCompact token with
  | none => .error (.unauthenticated "TOKEN_MALFORMED")
  | some jws => match signer.verifiers jws.kid with
    | none => .error (.unauthenticated "UNKNOWN_KID")
    | some pub =>
      if crypto.verify pub jws then match crypto.unmarshal jws.payload with
        | .error _ => .error (.unauthenticated "CLAIMS_MALFORMED")
        | .ok claims =>
          if unix now ≥ claims.exp then .error (.unauthenticated "TOKEN_EXPIRED") else .ok claims.access
      else .error (.unauthenticated "BAD_SIGNATURE")

/-! The start of the service. -/

/-- The active key with its private side; an empty table gets a first key. -/
def loadActive (crypto : Crypto Private Public) (env : KeyEnv Private) (outage : Outage) (table : Table) :
    Except Err ((SigningKey × Private) × Table) :=
  match outage.attempt .getActive (.ok (getActive table)) with
  | .error err => .error (.wrapped "load active key" err)
  | .ok none => do
    let kid ← newKID env.random
    let (k, priv) ← generateSigningKey crypto env kid
    let after ← outage.attempt .upsert (upsert table k)
    return ((k, priv), after)
  | .ok (some active) => match crypto.decrypt active.privateEncrypted with
    | .error err => .error (.wrapped "decrypt active key"
        (.plain (err.text ++ " (master key mismatch? check VB_AUTH_KEY_MASTER)")))
    | .ok der => match crypto.rsaPrivateKeyFromPKCS8 der with
      | .error err => .error err
      | .ok priv => .ok ((active, priv), table)

/-- The verifiable keys but the active one. -/
def readRetired (outage : Outage) (activeKID : String) (table : Table) : Except Err (List VerifiableKey × Table) :=
  match outage.attempt .listVerifiable (.ok (listVerifiable table)) with
  | .error err => .error err
  | .ok rows => .ok ((rows.filter fun row => row.kid ≠ activeKID).map fun row => ⟨row.kid, row.publicJWK⟩, table)

def bootstrapSigner (crypto : Crypto Private Public) (env : KeyEnv Private) (outage reading : Outage) (table : Table) :
    Except Err (JWTSigner Private Public) × Table :=
  match withTx outage table (loadActive crypto env outage) with
  | (.error err, after) => (.error err, after)
  | (.ok (active, priv), after) => match withTx reading after (readRetired reading active.kid) with
    | (.error err, after) => (.error err, after)
    | (.ok verifiable, after) => (newJWTSigner crypto active priv verifiable, after)

/-! Rotation. -/

inductive GoType where
  | context | string | error | any | bytes | accessTokenClaims | jsonWebKeys | signingKey | rsaPrivateKey | retiredKeyInputs
  deriving DecidableEq, Repr

structure Method where
  name : String
  params : List GoType
  results : List GoType
  deriving DecidableEq, Repr

/-- The method set of `*crypto.JWTSigner`. -/
def jwtSignerMethods : List Method :=
  [⟨"Sign", [.context, .accessTokenClaims], [.string, .error]⟩, ⟨"Verify", [.context, .string], [.accessTokenClaims, .error]⟩,
    ⟨"ActiveKID", [], [.string]⟩, ⟨"JWKS", [], [.jsonWebKeys]⟩, ⟨"JWKSJSON", [], [.bytes, .error]⟩,
    ⟨"Reload", [.signingKey, .any, .retiredKeyInputs], [.error]⟩]

def signerReloader : List Method := [⟨"Reload", [.signingKey, .rsaPrivateKey, .retiredKeyInputs], [.error]⟩]

/-- A type assertion to an interface: every method with identical parameter and result types. -/
def implements (methods interface : List Method) : Bool := interface.all fun method => method ∈ methods

/-- The transaction of a rotation. -/
def rotateKey (env : KeyEnv Private) (force : Bool) (outage : Outage) (newKey : SigningKey) (table : Table) :
    Except Err (Unit × Table) :=
  match outage.attempt .getActive (.ok (getActive table)) with
  | .error err => .error err
  | .ok none => do
    let after ← outage.attempt .upsert (upsert table newKey)
    return ((), after)
  | .ok (some prev) =>
    if ¬ force ∧ env.now - prev.createdAt < env.keyRotationInterval then
      .error (.failedPrecondition "vibesync.auth" "ROTATION_TOO_SOON" "active key is younger than the rotation interval")
    else do
      let retired ← outage.attempt .markRetired (.ok (markRetired table prev.kid env.now))
      let after ← outage.attempt .upsert (upsert retired newKey)
      return ((), after)

/-- `rotateSigningKey`, for a signer with these methods. -/
def rotateSigningKey (crypto : Crypto Private Public) (methods : List Method) (env : KeyEnv Private) (force : Bool)
    (outage reading : Outage) (table : Table) (signer : JWTSigner Private Public) :
    Except Err String × Table × JWTSigner Private Public :=
  match reporting (.internal "KID_GEN_FAILED") (newKID env.random) with
  | .error err => (.error err, table, signer)
  | .ok kid => match reporting (.internal "KEY_GEN_FAILED") (generateSigningKey crypto env kid) with
    | .error err => (.error err, table, signer)
    | .ok (newKey, newPriv) => match withTx outage table (rotateKey env force outage newKey) with
      | (.error err, after) => (.error err, after, signer)
      | (.ok _, after) =>
        if implements methods signerReloader then match withTx reading after (readRetired reading newKey.kid) with
          | (.error err, after) => (.error err, after, signer)
          | (.ok verifiable, after) =>
            match reporting (.internal "SIGNER_RELOAD_FAILED") (JWTSigner.reload crypto newKey newPriv verifiable) with
            | .error err => (.error err, after, signer)
            | .ok reloaded => (.ok kid, after, reloaded)
        else (.ok kid, after, signer)

/-! One service process over the table. -/

structure Issued (Private : Type) where
  token : String
  claims : AccessTokenClaims
  kid : String
  priv : Private

/-- The table and the running process, with the tokens signed so far and the kid
that the last successful rotation of this process returned. -/
structure State (Private Public : Type) where
  table : Table
  process : Option (JWTSigner Private Public)
  issued : List (Issued Private)
  told : Option String

/-- A start while a process is running is a restart. -/
inductive Event (Private : Type) where
  | start (env : KeyEnv Private) (outage reading : Outage)
  | rotate (env : KeyEnv Private) (force : Bool) (outage reading : Outage)
  | issue (jti : String) (claims : AccessTokenClaims)
  | crash

def step (crypto : Crypto Private Public) (state : State Private Public) : Event Private → State Private Public
  | .start env outage reading => match bootstrapSigner crypto env outage reading state.table with
    | (.error _, table) => { state with table, process := none, told := none }
    | (.ok signer, table) => { state with table, process := some signer, told := none }
  | .rotate env force outage reading => match state.process with
    | none => state
    | some signer => match rotateSigningKey crypto jwtSignerMethods env force outage reading state.table signer with
      | (.error _, table, signer) => { state with table, process := some signer }
      | (.ok kid, table, signer) => { state with table, process := some signer, told := some kid }
  | .issue jti claims => match state.process with
    | none => state
    | some signer => match signer.sign crypto jti claims with
      | .error _ => state
      | .ok token => { state with issued := ⟨token, claims, signer.activeKID, signer.priv⟩ :: state.issued }
  | .crash => { state with process := none, told := none }

end VibeSync.Auth.Keys
