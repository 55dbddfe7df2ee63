import VibeSync.Auth.Domain
import VibeSync.Strings

/-! New users, provider identities and the flows of an OAuth sign-in. -/

namespace VibeSync.Auth

/-- `^[^\s@]+@[^\s@]+\.[^\s@]+$`. -/
def emailRe (text : String) : Bool :=
  let name := text.toList.takeWhile (· ≠ '@')
  match text.toList.dropWhile (· ≠ '@') with
  | [] => false
  | _ :: host => name ≠ [] && (name ++ host).all (fun c => !regexSpace c && c ≠ '@') && '.' ∈ host.tail.dropLast

/-- `^[a-z][a-z0-9_]{2,31}$`. -/
def usernameRe (text : String) : Bool :=
  match text.toList with
  | [] => false
  | first :: rest => isLowerLetter first && rest.all (fun c => isLowerLetter c || isDigit c || c = '_') &&
      2 ≤ rest.length && rest.length ≤ 31

structure NewUserParams where
  email : String
  username : String
  displayName : String
  avatarURL : String

def errEmailInvalid : Err := .plain "user: invalid email"

def errUsernameInvalid : Err := .plain "user: invalid username"

def errDisplayNameTooLong : Err := .plain "user: display name too long"

/-- The id and the password hash are still empty. -/
@[irreducible] def newUser (lower : Char → Char) (now : Time) (p : NewUserParams) : Except Err User :=
  let email := trimSpace (toLower lower p.email)
  if !emailRe email then .error errEmailInvalid
  else
    let username := trimSpace (toLower lower p.username)
    if !usernameRe username then .error errUsernameInvalid
    else
      let display := trimSpace p.displayName
      if display.utf8ByteSize > 100 then .error errDisplayNameTooLong
      else .ok { id := "", email, username, displayName := if display = "" then username else display,
                 avatarURL := trimSpace p.avatarURL, passwordHash := "", systemRole := .user, status := .active,
                 createdAt := now, updatedAt := now }

def User.setPassword (user : User) (hash : String) (now : Time) : User :=
  { user with passwordHash := hash, updatedAt := now }

structure OAuthFlow where
  state : String
  provider : String
  redirectURI : String
  codeChallenge : String
  userAgent : String
  createdAt : Time
  expiresAt : Time
  deriving DecidableEq, Repr

def stateBytes : Nat := 16

def newOAuthFlow (randomURL : Nat → Except Err String) (now : Time)
    (provider redirectURI codeChallenge userAgent : String) (ttl : Duration) : Except Err OAuthFlow := do
  let state ← randomURL stateBytes
  return { state, provider, redirectURI, codeChallenge, userAgent, createdAt := now, expiresAt := now + ttl }

def OAuthFlow.isExpired (flow : OAuthFlow) (now : Time) : Bool := ¬ now < flow.expiresAt

/-- The link between a user and an identity at a provider. -/
structure OAuthAccount where
  userID : String
  provider : String
  providerUserID : String
  createdAt : Time
  deriving DecidableEq, Repr

structure ProviderProfile where
  providerUserID : String
  email : String
  displayName : String
  avatarURL : String

structure ProviderTokens where
  accessToken : String
  idToken : String
  refreshToken : String
  expiresIn : Duration

structure ProviderToken where
  provider : String
  userID : String
  accessTokenEnc : String
  refreshTokenEnc : String
  expiresAt : Time
  updatedAt : Time
  deriving DecidableEq, Repr

/-! The username of a new OAuth user. -/

def trimUnderscores (text : List Char) : List Char :=
  (text.dropWhile (· = '_')).rdropWhile (· = '_')

/-- A character outside ASCII stands for several bytes, of which the first one may
add an underscore and the others do nothing. -/
def sanitizeChar (out : List Char) (c : Char) : List Char :=
  if isLowerLetter c then out ++ [c]
  else if isUpperLetter c then out ++ [Char.ofNat (c.toNat + 32)]
  else if isDigit c || c = '_' then out ++ [c]
  else if out ≠ [] ∧ out.getLast? ≠ some '_' then out ++ ['_']
  else out

def sanitize (out : List Char) : List Char → List Char
  | [] => out
  | c :: rest =>
    let next := sanitizeChar out c
    if next.length ≥ 32 then next else sanitize next rest

def deriveUsername (p : ProviderProfile) : String :=
  if p.email = "" then ""
  else
    let name := p.email.toList.takeWhile (· ≠ '@')
    let out := trimUnderscores (sanitize [] name)
    if out.length < 3 then String.ofList name
    else if out.head?.any isLowerLetter then String.ofList out
    else String.ofList ('u' :: out)

end VibeSync.Auth
