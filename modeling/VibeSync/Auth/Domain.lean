import VibeSync.Errors

/-! The Auth entities and the classification of a presented refresh token. -/

namespace VibeSync.Auth

inductive UserStatus where
  | unspecified | active | suspended | deleted
  deriving DecidableEq, Repr

def UserStatus.canLogin (status : UserStatus) : Bool := status = .active

inductive SystemRole where
  | unspecified | guest | user | moderator | administrator
  deriving DecidableEq, Repr

def SystemRole.number : SystemRole → Int
  | .unspecified => 0 | .guest => 1 | .user => 2 | .moderator => 3 | .administrator => 4

structure User where
  id : String
  email : String
  username : String
  displayName : String
  avatarURL : String
  passwordHash : String
  systemRole : SystemRole
  status : UserStatus
  createdAt : Time
  updatedAt : Time
  deriving DecidableEq, Repr

def User.canAuthenticate (user : User) : Bool := user.status.canLogin

def User.hasPassword (user : User) : Bool := user.passwordHash ≠ ""

structure Session where
  id : String
  userID : String
  deviceLabel : String
  familyID : String
  createdAt : Time
  lastSeenAt : Time
  expiresAt : Time
  deriving DecidableEq, Repr

def newSession (now : Time) (id userID familyID : String) (ttl : Duration) (deviceLabel : String) : Session :=
  { id, userID, familyID, deviceLabel, createdAt := now, lastSeenAt := now, expiresAt := now + ttl }

inductive RefreshTokenStatus where
  | unspecified | active | used | revoked | compromised | expired
  deriving DecidableEq, Repr

structure RefreshToken where
  id : String
  familyID : String
  userID : String
  sessionID : String
  selector : String
  validatorHash : String
  /-- The previous token of the chain, empty for the root. -/
  rotatedFrom : String
  status : RefreshTokenStatus
  expiresAt : Time
  createdAt : Time
  usedAt : Option Time
  revokedAt : Option Time
  deriving DecidableEq, Repr

structure ValidatorMaterial where
  selector : String
  validator : String

def ValidatorMaterial.presentationToken (material : ValidatorMaterial) : String :=
  material.selector ++ "." ++ material.validator

def selectorBytes : Nat := 12

def validatorBytes : Nat := 32

def newRefreshToken (randomURL : Nat → Except Err String) (hash : String → Except Err String) (now : Time)
    (id familyID userID sessionID rotatedFrom : String) (ttl : Duration) :
    Except Err (RefreshToken × ValidatorMaterial) := do
  let selector ← randomURL selectorBytes
  let validator ← randomURL validatorBytes
  let validatorHash ← hash validator
  return ({ id, familyID, userID, sessionID, selector, validatorHash, rotatedFrom, status := .active,
            expiresAt := now + ttl, createdAt := now, usedAt := none, revokedAt := none },
          { selector, validator })

namespace RefreshToken

def verifyValidator (token : RefreshToken) (presented : String) (compare : String → String → Bool) : Bool :=
  compare token.validatorHash presented

def markUsed (token : RefreshToken) (now : Time) : RefreshToken :=
  { token with status := .used, usedAt := some now }

def markRevoked (token : RefreshToken) (now : Time) : RefreshToken :=
  { token with status := .revoked, revokedAt := some now }

def markCompromised (token : RefreshToken) (now : Time) : RefreshToken :=
  { token with status := .compromised, revokedAt := some now }

end RefreshToken

def errExpired : Err := .plain "refresh token: expired"

def errRevoked : Err := .plain "refresh token: revoked"

def errReuse : Err := .plain "refresh token: reuse detected"

def errCompromised : Err := .plain "refresh token: family compromised"

inductive UseOutcome where
  | unspecified | rotate | reuse | compromised | revoked | expired
  deriving DecidableEq, Repr

structure UseAction where
  outcome : UseOutcome
  err : Option Err

def RefreshToken.classifyUse (token : RefreshToken) (now : Time) : UseAction :=
  if token.status = .compromised then ⟨.compromised, some errCompromised⟩
  else if token.status = .revoked then ⟨.revoked, some errRevoked⟩
  else if ¬ now < token.expiresAt then ⟨.expired, some errExpired⟩
  else if token.status = .used then ⟨.reuse, some errReuse⟩
  else if token.status = .active then ⟨.rotate, none⟩
  else ⟨.revoked, some errRevoked⟩

theorem RefreshToken.classifyUse_reuse {token : RefreshToken} {now : Time} (used : token.status = .used)
    (unexpired : now < token.expiresAt) : token.classifyUse now = ⟨.reuse, some errReuse⟩ := by
  simp [classifyUse, used, unexpired]

theorem RefreshToken.classifyUse_rotate {token : RefreshToken} {now : Time}
    (rotates : (token.classifyUse now).outcome = .rotate) : token.status = .active := by
  unfold classifyUse at rotates
  grind

theorem RefreshToken.classifyUse_unexpired {token : RefreshToken} {now : Time}
    (rotates : (token.classifyUse now).outcome = .rotate) : now < token.expiresAt := by
  unfold classifyUse at rotates
  grind

theorem newRefreshToken_ok {randomURL : Nat → Except Err String} {hash : String → Except Err String} {now : Time}
    {id familyID userID sessionID rotatedFrom : String} {ttl : Duration} {token : RefreshToken}
    {material : ValidatorMaterial}
    (made : newRefreshToken randomURL hash now id familyID userID sessionID rotatedFrom ttl = .ok (token, material)) :
    ∃ selector validatorHash, token =
      { id, familyID, userID, sessionID, selector, validatorHash, rotatedFrom, status := .active,
        expiresAt := now + ttl, createdAt := now, usedAt := none, revokedAt := none } := by
  simp only [newRefreshToken, bind, Except.bind, pure, Except.pure] at made
  split at made
  · cases made
  split at made
  · cases made
  split at made
  · cases made
  cases made
  exact ⟨_, _, rfl⟩

theorem newRefreshToken_fields {randomURL : Nat → Except Err String} {hash : String → Except Err String} {now : Time}
    {id familyID userID sessionID rotatedFrom : String} {ttl : Duration} {token : RefreshToken}
    {material : ValidatorMaterial}
    (made : newRefreshToken randomURL hash now id familyID userID sessionID rotatedFrom ttl = .ok (token, material)) :
    token.id = id ∧ token.familyID = familyID ∧ token.rotatedFrom = rotatedFrom ∧ token.status = .active := by
  obtain ⟨_, _, rfl⟩ := newRefreshToken_ok made
  exact ⟨rfl, rfl, rfl, rfl⟩

end VibeSync.Auth
