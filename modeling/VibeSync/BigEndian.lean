import Mathlib.Data.List.Basic

/-! Natural numbers as bytes with the most significant one first. -/

namespace BigEndian

/-- The bytes of a number without leading zeros; zero has none. -/
def bytes (n : Nat) : List UInt8 := if n = 0 then [] else bytes (n / 256) ++ [UInt8.ofNat (n % 256)]
termination_by n
decreasing_by omega

def value (buf : List UInt8) : Nat := buf.foldl (fun n byte => n * 256 + byte.toNat) 0

/-- Leading zeros are dropped while more bytes follow. -/
def trim : List UInt8 → List UInt8
  | first :: second :: rest => if first = 0 then trim (second :: rest) else first :: second :: rest
  | buf => buf

theorem value_append (buf : List UInt8) (byte : UInt8) : value (buf ++ [byte]) = value buf * 256 + byte.toNat := by
  simp [value]

theorem value_bytes (n : Nat) : value (bytes n) = n := by
  induction n using Nat.strongRecOn with
  | ind n ih =>
    unfold bytes
    split
    next none_ => rw [none_]; rfl
    next some_ =>
      rw [value_append, ih (n / 256) (by omega), UInt8.toNat_ofNat']
      omega

theorem value_trim (buf : List UInt8) : value (trim buf) = value buf := by
  fun_induction trim buf with
  | case1 second rest ih =>
    rw [ih]
    simp [value]
  | case2 first second rest nonzero => rfl
  | case3 buf short => rfl

end BigEndian
