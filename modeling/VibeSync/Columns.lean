import VibeSync.Errors

/-! What the services rely on of Postgres's column types: the widths of texts, and the
comparison of `CITEXT`, which depends on the locale of the database. -/

namespace VibeSync

namespace Columns

def tooLong (type : String) (limit : Nat) : Err :=
  .plain ("ERROR: value too long for type " ++ type ++ "(" ++ toString limit ++ ") (SQLSTATE 22001)")

/-- The width of a `VARCHAR` column, for texts that do not end in blanks. -/
def checkLength (limit : Nat) (text : String) : Except Err Unit :=
  if text.length > limit then .error (tooLong "character varying" limit) else .ok ()

/-- The width of a `CHAR` column. The ids kept there are as wide as their columns. -/
def checkID (text : String) : Except Err Unit :=
  if text.length > 26 then .error (tooLong "character" 26) else .ok ()

/-- Nothing but blanks lies beyond the width of the column. -/
def fits (limit : Nat) (text : String) : Bool := (text.toList.drop limit).all (· = ' ')

/-- What a `VARCHAR` column keeps of a text: blanks beyond its width are cut off. -/
def varchar (limit : Nat) (text : String) : Except Err String :=
  if fits limit text then .ok (String.ofList (text.toList.take limit)) else .error (tooLong "character varying" limit)

section Checks
variable {α : Type} {limit : Nat} {text : String} {result : α}

/-! What has passed a check. -/

theorem checkLength_bind {next : Unit → Except Err α} (passed : (checkLength limit text >>= next) = .ok result) :
    text.length ≤ limit ∧ next () = .ok result := by
  unfold checkLength at passed
  split at passed
  · cases passed
  next short => exact ⟨Nat.not_lt.mp short, passed⟩

theorem checkID_bind {next : Unit → Except Err α} (passed : (checkID text >>= next) = .ok result) :
    text.length ≤ 26 ∧ next () = .ok result := by
  unfold checkID at passed
  split at passed
  · cases passed
  next short => exact ⟨Nat.not_lt.mp short, passed⟩

theorem varchar_bind {next : String → Except Err α} (passed : (varchar limit text >>= next) = .ok result) :
    fits limit text = true ∧ ∃ kept, next kept = .ok result := by
  unfold varchar at passed
  split at passed
  next fit => exact ⟨fit, _, passed⟩
  · cases passed

/-! What passes. -/

theorem checkLength_ok (short : text.length ≤ limit) : checkLength limit text = .ok () :=
  if_neg (Nat.not_lt.mpr short)

theorem checkLength_error (long : ¬ text.length ≤ limit) : checkLength limit text = .error (tooLong "character varying" limit) :=
  if_pos (Nat.lt_of_not_le long)

theorem checkID_ok (short : text.length ≤ 26) : checkID text = .ok () := if_neg (Nat.not_lt.mpr short)

theorem varchar_ok (fit : fits limit text = true) : varchar limit text = .ok (String.ofList (text.toList.take limit)) :=
  if_pos fit

end Checks

end Columns

/-- How the locale of the database folds the case of a letter. -/
class Collation where
  fold : Char → Char

/-- The locale `C` knows the letters of ASCII only. -/
@[reducible] def Collation.c : Collation := ⟨Char.toLower⟩

/-- `citext` compares what the locale makes of both sides. -/
def citext [Collation] (text : String) : String := String.ofList (text.toList.map Collation.fold)

theorem citext_length [Collation] (text : String) : (citext text).toList.length = text.toList.length := by
  rw [citext, String.toList_ofList, List.length_map]

end VibeSync
