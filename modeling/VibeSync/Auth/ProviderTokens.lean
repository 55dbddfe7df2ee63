import VibeSync.Auth.SignUp

/-! The provider tokens kept for the Provider service. A token about to expire is
refreshed at the provider before it is handed out, and the new pair is stored in
a transaction of its own. -/

namespace VibeSync.Auth
open Transaction

structure TokenRefreshResponse where
  accessToken : String
  refreshToken : String
  expiresIn : Int64
  tokenType : String

/-- What became of the request to a token endpoint. -/
inductive TokenEndpointAnswer where
  | unreachable (err : Err)
  | refused (status : String)
  | undecodable (err : Err)
  | answered (response : TokenRefreshResponse)

/-- The names of environment variables, or the credentials themselves. -/
structure ClientCreds where
  clientIDEnv : String
  clientSecretEnv : String

/-- What one call of `GetProviderToken` draws from its ports and configuration. -/
structure ProviderTokenEnv where
  now : Time
  refreshedAt : Time
  savedAt : Time
  encrypt : String → Except Err String
  decrypt : String → Except Err String
  getenv : String → String
  spotify : ClientCreds
  google : ClientCreds
  post : String → List (String × String) → TokenEndpointAnswer

def tokenRefreshMargin : Duration := 120000000000

def providerTokenEndpoints (provider : String) : Option String :=
  if provider = "spotify" then some "https://accounts.spotify.com/api/token"
  else if provider = "google" then some "https://oauth2.googleapis.com/token"
  else none

def providerClientCreds (env : ProviderTokenEnv) (provider : String) : Option ClientCreds :=
  if provider = "spotify" then some env.spotify else if provider = "google" then some env.google else none

def resolveEnvOrValue (getenv : String → String) (s : String) : String := if getenv s ≠ "" then getenv s else s

/-- A product of `int64` nanoseconds. -/
def seconds (n : Int64) : Duration := (n * 1000000000).toInt

/-- The form of the `refresh_token` grant. -/
def refreshForm (clientID clientSecret refreshToken : String) : List (String × String) :=
  [("grant_type", "refresh_token"), ("refresh_token", refreshToken)] ++
    if clientID ≠ "" then [("client_id", clientID), ("client_secret", clientSecret)] else []

/-- A provider that sends no new refresh token leaves the old one in use. -/
def refreshProviderToken (env : ProviderTokenEnv) (provider refreshToken : String) : Except Err (String × String × Time) :=
  match providerClientCreds env provider with
  | none => .error (.plain ("no client credentials for provider \"" ++ provider ++ "\""))
  | some creds => match providerTokenEndpoints provider with
    | none => .error (.plain ("no token endpoint for provider \"" ++ provider ++ "\""))
    | some endpoint =>
      match env.post endpoint (refreshForm (resolveEnvOrValue env.getenv creds.clientIDEnv)
          (resolveEnvOrValue env.getenv creds.clientSecretEnv) refreshToken) with
      | .unreachable err => .error (.wrapped "refresh request" err)
      | .refused status => .error (.plain ("refresh status " ++ status))
      | .undecodable err => .error (.wrapped "decode refresh response" err)
      | .answered tr =>
        if tr.accessToken = "" then .error (.plain "empty access token in refresh response")
        else .ok (tr.accessToken, if tr.refreshToken = "" then refreshToken else tr.refreshToken,
          env.refreshedAt + seconds tr.expiresIn)

variable [Collation]

/-- `Get` of the repository in a transaction of its own; `failure` is a failed read. -/
def providerTokenGet (provider userID : String) (failure : Option Err) (store : Store database) : Except Err ProviderToken :=
  match failure with
  | some err => .error (.wrapped "provider_token_repo: get" err)
  | none => match store (.providerToken provider userID) with
    | some token => .ok token
    | none => .error (.missing "provider_token" (provider ++ ":" ++ userID))

/-- `errors.Is` with the sentinel of the ports. -/
def isNotFound : Err → Bool
  | .missing _ _ => true
  | .wrapped _ cause => isNotFound cause
  | _ => false

structure GetProviderTokenResponse where
  accessToken : String
  expiresAt : Time
  deriving DecidableEq, Repr

/-- The refresh of a pair that has been read and decrypted. -/
def renewProviderToken (env : ProviderTokenEnv) (provider userID refreshToken : String) (store : Store database) :
    Except Err GetProviderTokenResponse × Store database :=
  match reporting (.internal "TOKEN_REFRESH_FAILED") (refreshProviderToken env provider refreshToken) with
  | .error err => (.error err, store)
  | .ok (newAccess, newRefresh, newExpiry) =>
    match reporting (.internal "TOKEN_ENCRYPT_FAILED") (env.encrypt newAccess) with
    | .error err => (.error err, store)
    | .ok encAccess => match reporting (.internal "TOKEN_ENCRYPT_FAILED") (env.encrypt newRefresh) with
      | .error err => (.error err, store)
      | .ok encRefresh =>
        match (Repo.providerTokenUpsert ⟨provider, userID, encAccess, encRefresh, newExpiry, env.savedAt⟩).withTx store with
        | (.error err, after) => (.error ((Err.internal "TOKEN_STORE_FAILED" err.text).withCause (some err)), after)
        | (.ok _, after) => (.ok ⟨newAccess, newExpiry⟩, after)

def getProviderToken (env : ProviderTokenEnv) (registry : Option Registry) (userID provider : String) (failure : Option Err)
    (store : Store database) : Except Err GetProviderTokenResponse × Store database :=
  if userID = "" ∨ provider = "" then
    (.error (.invalidArgumentFor "vibesync.auth" "MISSING_PARAMS" "user_id and provider required"), store)
  else match registry with
  | none => (.error (.failedPrecondition "vibesync.auth" "OAUTH_DISABLED" "no OAuth providers configured"), store)
  | some registry => match registry.get provider with
    | none => (.error (.invalidArgumentFor "vibesync.auth" "UNKNOWN_PROVIDER" ("unknown provider: " ++ provider)), store)
    | some _ => match providerTokenGet provider userID failure store with
      | .error err =>
        if isNotFound err then (.error (.notFound "provider_token" (provider ++ ":" ++ userID)), store)
        else (.error ((Err.internal "TOKEN_FETCH_FAILED" err.text).withCause (some err)), store)
      | .ok stored => match reporting (.internal "TOKEN_DECRYPT_FAILED") (env.decrypt stored.accessTokenEnc) with
        | .error err => (.error err, store)
        | .ok accessToken => match reporting (.internal "TOKEN_DECRYPT_FAILED") (env.decrypt stored.refreshTokenEnc) with
          | .error err => (.error err, store)
          | .ok refreshToken =>
            if env.now < stored.expiresAt - tokenRefreshMargin then (.ok ⟨accessToken, stored.expiresAt⟩, store)
            else renewProviderToken env provider userID refreshToken store

end VibeSync.Auth
