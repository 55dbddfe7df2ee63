import VibeSync.Auth.Domain
import VibeSync.JsonObject
import VibeSync.Strings

/-! The user projection: the profile that the User service keeps of each user,
made from `user.created.v1` and edited by `UpdateUser`. -/

namespace VibeSync.Users

structure User where
  id : String
  email : String
  username : String
  displayName : String
  avatarURL : String
  systemRole : Auth.SystemRole
  createdAt : Time
  updatedAt : Time
  deriving DecidableEq, Repr

structure UserCreatedV1 where
  userID : String
  email : String
  username : String
  provider : String
  createdAt : String
  deriving DecidableEq, Repr

/-- `json.Unmarshal` into the typed fields. -/
def UserCreatedV1.decode (payload : JsonObject) : Option UserCreatedV1 := do
  let userID ← payload.text "user_id"
  let email ← payload.text "email"
  let username ← payload.text "username"
  let provider ← payload.text "provider"
  let createdAt ← payload.text "created_at"
  return { userID, email, username, provider, createdAt }

/-- Go's lower-casing of a rune and its parser of RFC 3339 times. -/
structure Text where
  lower : Char → Char
  parse : String → Option Time

def errInvalidEvent : Err := .plain "user: invalid user.created.v1 event"

def parseRFC3339 (text : Text) (s : String) (fallback : Time) : Time :=
  if trimSpace s = "" then fallback else (text.parse (trimSpace s)).getD fallback

def projectFromEvent (text : Text) (e : UserCreatedV1) (now : Time) : Except Err User :=
  if e.userID = "" ∨ e.email = "" ∨ e.username = "" then .error errInvalidEvent
  else
    let created := parseRFC3339 text e.createdAt now
    let username := toLower text.lower (trimSpace e.username)
    .ok { id := e.userID, email := toLower text.lower (trimSpace e.email), username, displayName := username
          avatarURL := "", systemRole := .user, createdAt := created, updatedAt := created }

/-- A blank display name is ignored; a blank avatar is not. -/
def User.applyUpdate (u : User) (now : Time) (displayName avatarURL : Option String) : User :=
  { u with
    displayName := match displayName with
      | some name => if trimSpace name = "" then u.displayName else trimSpace name
      | none => u.displayName
    avatarURL := match avatarURL with
      | some url => trimSpace url
      | none => u.avatarURL
    updatedAt := now }

end VibeSync.Users
