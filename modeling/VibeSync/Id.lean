import VibeSync.Errors
import VibeSync.Radix

/-! Identifiers (`libs/id`): ULIDs of 128 bits and their texts of 26 characters. The
`ulid` package behind them is a parameter. -/

namespace VibeSync.Id

def format : String := "0123456789ABCDEFGHJKMNPQRSTVWXYZ"

/-- The class `[0-9A-HJKMNP-TV-Z]`. -/
def isCanonicalChar (c : Char) : Bool :=
  ('0' ≤ c && c ≤ '9') || ('A' ≤ c && c ≤ 'H') || c = 'J' || c = 'K' || c = 'M' || c = 'N' || ('P' ≤ c && c ≤ 'T') || ('V' ≤ c && c ≤ 'Z')

/-- `^[0-9A-HJKMNP-TV-Z]{26}$`. -/
def canonicalRe (s : String) : Bool := s.toList.length = 26 && s.toList.all isCanonicalChar

def errInvalidFormat : Err := .plain "id: must be 26 canonical ULID characters"

abbrev ULID : Type := BitVec 128

/-- What is used of the `ulid` package. A source of entropy holds the randomness
that it has yet to give. -/
structure Ulid (Source : Type) where
  parse : String → Except Err ULID
  string : ULID → String
  time : ULID → Nat
  /-- The moment of a number of milliseconds. -/
  ofMs : Nat → Time
  timestamp : Time → Nat
  new : Nat → Source → Except Err ULID × Source

def validate (s : String) : Except Err Unit := if !canonicalRe s then .error errInvalidFormat else .ok ()

def valid (s : String) : Bool := (validate s).isOk

section Library
variable {Source : Type} (ulid : Ulid Source)

def parse (s : String) : Except Err ULID :=
  match validate s with
  | .error err => .error err
  | .ok () => ulid.parse s

def time (s : String) : Except Err Time := (parse ulid s).map fun u => ulid.ofMs (ulid.time u)

/-- Callers take turns at the source of the process. An error is a panic of `MustNew`. -/
def newAt (source : Source) (now : Time) : Except Err String × Source :=
  match ulid.new (ulid.timestamp now) source with
  | (.error err, after) => (.error err, after)
  | (.ok u, after) => (.ok (ulid.string u), after)

end Library

end VibeSync.Id
