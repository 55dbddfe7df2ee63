import Mathlib.Algebra.Ring.Int.Defs
import VibeSync.Auth.Domain
import VibeSync.Decimal

/-! The system role that a request header carries. -/

namespace VibeSync.Web
open Auth (SystemRole)

/-- The names of the enumeration without the prefix that they share. -/
def shortName : SystemRole → String
  | .unspecified => "UNSPECIFIED"
  | .guest => "GUEST"
  | .user => "USER"
  | .moderator => "MODERATOR"
  | .administrator => "ADMINISTRATOR"

def fullName (role : SystemRole) : String := "SYSTEM_ROLE_" ++ shortName role

def systemRoles : List SystemRole := [.unspecified, .guest, .user, .moderator, .administrator]

def systemRoleValue (name : String) : Option SystemRole := systemRoles.find? fun role => fullName role = name

/-- The lookup in `SystemRole_name` with the conversion that follows it. -/
def systemRoleName (number : Int32) : Option SystemRole := systemRoles.find? fun role => Int32.ofInt role.number = number

/-- A sign in front of a number, and whether it is a minus. -/
def splitSign : List Char → Bool × List Char
  | '-' :: rest => (true, rest)
  | '+' :: rest => (false, rest)
  | text => (false, text)

def signed (negative : Bool) (n : Nat) : Int := if negative then -n else n

/-- `strconv.Atoi` where an `int` has 64 bits. -/
def atoi (s : String) : Option Int :=
  let (negative, digits) := splitSign s.toList
  let n := signed negative (Decimal.value digits)
  if digits ≠ [] ∧ Decimal.Digits digits ∧ -2 ^ 63 ≤ n ∧ n < 2 ^ 63 then some n else none

def parseSystemRole (s : String) : SystemRole :=
  if s = "" then .unspecified
  else
    match systemRoleValue s with
    | some role => role
    | none =>
      match (atoi s).bind fun v => systemRoleName (Int32.ofInt v) with
      | some role => role
      | none =>
        match systemRoleValue ("SYSTEM_ROLE_" ++ s) with
        | some role => role
        | none => .unspecified

end VibeSync.Web
