import VibeSync.Auth.Keys
import VibeSync.Rpc

/-! Introspection of access tokens. -/

namespace VibeSync.Auth
open Keys

structure IntrospectResponse where
  active : Bool
  userID : String := ""
  systemRole : Int := 0
  expiresAt : Option Time := none
  scope : String := ""
  deriving DecidableEq, Repr

/-- The result types of a method `Code()`; `connect.Code` is declared as a type of its own over `uint32`. -/
inductive CodeType where
  | uint32
  | connectCode
  deriving DecidableEq, Repr

/-- The method `Code()` of an error's dynamic type, with its result type and what it returns. -/
def codeMethod : Err → Option (CodeType × Nat)
  | .vibe kind _ _ _ _ _ => some (.connectCode, kind.code.number)
  | _ => none

/-- The type assertion to `interface{ Code() uint32 }` wants this very result type. -/
def isAuthErr (err : Err) : Bool :=
  match codeMethod err with
  | some (.uint32, code) => code = 16
  | _ => false

def introspected (claims : AccessTokenClaims) : IntrospectResponse :=
  { active := true, userID := claims.subject, systemRole := claims.systemRole, expiresAt := some claims.expiresAt
    scope := claims.scope }

def introspect {Private Public : Type} (crypto : Crypto Private Public) (signer : JWTSigner Private Public) (now : Time)
    (token : String) : Except Err IntrospectResponse :=
  if token = "" then .ok { active := false }
  else
    match signer.verify crypto now token with
    | .error err => if isAuthErr err then .ok { active := false } else .error err
    | .ok (claims, _) => .ok (introspected claims)

end VibeSync.Auth
