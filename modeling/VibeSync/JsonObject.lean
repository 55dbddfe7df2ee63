import Mathlib.Data.Rat.Floor

/-! JSON objects with scalar members, and the decoding of a member into a typed
field: a missing key leaves the zero value, a value of another type is an error. -/

inductive JsonValue where
  | text (value : String)
  | number (value : ℚ)
  deriving DecidableEq, Repr

abbrev JsonObject : Type := List (String × JsonValue)

namespace JsonObject

def text (object : JsonObject) (key : String) : Option String :=
  match object.lookup key with
  | none => some ""
  | some (.text value) => some value
  | some (.number _) => none

def number (object : JsonObject) (key : String) : Option ℚ :=
  match object.lookup key with
  | none => some 0
  | some (.number value) => some value
  | some (.text _) => none

def integer (object : JsonObject) (key : String) : Option Int :=
  (object.number key).bind fun value => if value.den = 1 then some value.num else none

def natural (object : JsonObject) (key : String) : Option Nat :=
  (object.integer key).bind fun value => if 0 ≤ value then some value.toNat else none

/-- A field of an unsigned type of so many bits. -/
def unsigned (object : JsonObject) (bits : Nat) (key : String) : Option Nat :=
  (object.natural key).bind fun value => if value < 2 ^ bits then some value else none

def signed (object : JsonObject) (bits : Nat) (key : String) : Option Int :=
  (object.integer key).bind fun value => if -2 ^ (bits - 1) ≤ value ∧ value < 2 ^ (bits - 1) then some value else none

def int64 (object : JsonObject) (key : String) : Option Int64 := (object.signed 64 key).map Int64.ofInt

section Members
variable {object : JsonObject} {key : String}

theorem text_of_lookup {value : String} (found : object.lookup key = some (.text value)) : object.text key = some value := by
  rw [text, found]

theorem number_of_lookup {value : ℚ} (found : object.lookup key = some (.number value)) :
    object.number key = some value := by
  rw [number, found]

theorem integer_of_lookup {value : Int} (found : object.lookup key = some (.number value)) :
    object.integer key = some value := by
  simp [integer, number_of_lookup found]

theorem natural_of_lookup {value : Nat} (found : object.lookup key = some (.number value)) :
    object.natural key = some value := by
  have whole : object.integer key = some (value : Int) := integer_of_lookup (by rw [found, Int.cast_natCast])
  simp [natural, whole]

theorem unsigned_of_lookup {value : Nat} (found : object.lookup key = some (.number value)) (bits : Nat) :
    object.unsigned bits key = if value < 2 ^ bits then some value else none := by
  rw [unsigned, natural_of_lookup found, Option.bind_some]

theorem signed_of_lookup {value : Int} (found : object.lookup key = some (.number value)) (bits : Nat) :
    object.signed bits key = if -2 ^ (bits - 1) ≤ value ∧ value < 2 ^ (bits - 1) then some value else none := by
  rw [signed, integer_of_lookup found, Option.bind_some]

theorem int64_of_lookup {value : Int64} (found : object.lookup key = some (.number value.toInt)) :
    object.int64 key = some value := by
  rw [int64, signed_of_lookup found, if_pos ⟨value.le_toInt, value.toInt_lt⟩, Option.map_some, Int64.ofInt_toInt]

end Members

end JsonObject
