/-! The typed error model shared by the services (`libs/errors`), together with
the plain and wrapped errors that travel beside it. -/

namespace VibeSync

/-- Nanoseconds since the Unix epoch. -/
abbrev Time : Type := Int

/-- The zero value of `time.Time`: January 1 of year 1. -/
def zeroTime : Time := -62135596800000000000

/-- Nanoseconds. -/
abbrev Duration : Type := Int

inductive Kind where
  | other | cancelled | unknown | invalidArgument | deadlineExceeded | notFound | alreadyExists
  | permissionDenied | resourceExhausted | failedPrecondition | aborted | outOfRange
  | unimplemented | internal | unavailable | unauthenticated
  deriving DecidableEq, Repr

inductive Err where
  | vibe (kind : Kind) (domain reason message : String) (info : List (String × String)) (cause : Option Err)
  | plain (message : String)
  | wrapped (context : String) (cause : Err)
  | missing (entity id : String)
  | uniqueViolation (constraint : String)
  | foreignKeyViolation (table constraint : String)

namespace Err

def new (kind : Kind) (domain reason message : String) : Err :=
  .vibe kind (if domain = "" then "vibesync" else domain) (if reason = "" then "UNSPECIFIED" else reason)
    message [] none

def withMeta (key value : String) : Err → Err
  | .vibe kind domain reason message info cause =>
    .vibe kind domain reason message (info.filter (fun entry => entry.1 ≠ key) ++ [(key, value)]) cause
  | err => err

def withCause (cause : Option Err) : Err → Err
  | .vibe kind domain reason message info _ => .vibe kind domain reason message info cause
  | err => err

def invalidArgumentFor (domain reason message : String) : Err := new .invalidArgument domain reason message

def permissionDenied (action resource : String) : Err :=
  ((new .permissionDenied "vibesync.rbac" "PERMISSION_DENIED"
    ("not allowed to " ++ action ++ " on " ++ resource)).withMeta "action" action).withMeta "resource" resource

/-- The domain of an entity's errors. -/
def domainFor (entity : String) : String := if entity = "" then "vibesync" else "vibesync." ++ entity

def notFound (entity id : String) : Err :=
  ((new .notFound (domainFor entity) "NOT_FOUND" (entity ++ " not found: " ++ id)).withMeta "entity" entity).withMeta "id" id

def alreadyExists (entity id : String) : Err :=
  ((new .alreadyExists (domainFor entity) "ALREADY_EXISTS" (entity ++ " already exists: " ++ id)).withMeta "entity"
    entity).withMeta "id" id

def failedPrecondition (domain reason message : String) : Err := new .failedPrecondition domain reason message

def resourceExhausted (domain reason message : String) : Err := new .resourceExhausted domain reason message

def unauthenticated (reason : String) : Err :=
  new .unauthenticated "vibesync.auth" reason "authentication required"

def internal (reason message : String) : Err := new .internal "vibesync" reason message

def reason : Err → Option String
  | .vibe _ _ reason _ _ _ => some reason
  | _ => none

/-- The `Error()` text. -/
def text : Err → String
  | .vibe _ domain reason message _ none =>
    domain ++ "/" ++ reason ++ ": " ++ (if message = "" then reason else message)
  | .vibe _ domain reason message _ (some cause) =>
    domain ++ "/" ++ reason ++ ": " ++ (if message = "" then reason else message) ++ ": " ++ cause.text
  | .plain message => message
  | .wrapped context cause => context ++ ": " ++ cause.text
  | .missing entity id => entity ++ " not found: " ++ id
  | .uniqueViolation name =>
    "ERROR: duplicate key value violates unique constraint \"" ++ name ++ "\" (SQLSTATE 23505)"
  | .foreignKeyViolation table name =>
    "ERROR: insert or update on table \"" ++ table ++ "\" violates foreign key constraint \"" ++ name ++ "\" (SQLSTATE 23503)"

end Err

end VibeSync
