import Mathlib.Data.List.Basic

/-! The base64 encoding without padding, over the standard alphabet and over the one for
URLs. Decoding skips line breaks and does not look at the bits left over in the last symbol. -/

namespace Base64

def symbol (v : Nat) : Char :=
  if v < 26 then Char.ofNat (v + 65)
  else if v < 52 then Char.ofNat (v + 71)
  else if v < 62 then Char.ofNat (v - 4)
  else if v = 62 then '+'
  else '/'

def index (c : Char) : Option Nat :=
  if 'A' ≤ c ∧ c ≤ 'Z' then some (c.toNat - 65)
  else if 'a' ≤ c ∧ c ≤ 'z' then some (c.toNat - 71)
  else if '0' ≤ c ∧ c ≤ '9' then some (c.toNat + 4)
  else if c = '+' then some 62
  else if c = '/' then some 63
  else none

/-- Bytes in groups of six bits, the last one filled up with zeros. -/
def sextets : List UInt8 → List Nat
  | a :: b :: c :: rest =>
    a.toNat / 4 :: (a.toNat % 4 * 16 + b.toNat / 16) :: (b.toNat % 16 * 4 + c.toNat / 64) :: c.toNat % 64 :: sextets rest
  | [a, b] => [a.toNat / 4, a.toNat % 4 * 16 + b.toNat / 16, b.toNat % 16 * 4]
  | [a] => [a.toNat / 4, a.toNat % 4 * 16]
  | [] => []

def encode (bytes : List UInt8) : List Char := (sextets bytes).map symbol

/-- A single group at the end holds no whole byte. -/
def octets : List Nat → Option (List UInt8)
  | p :: q :: r :: s :: rest => (octets rest).map fun bytes =>
    UInt8.ofNat (p * 4 + q / 16) :: UInt8.ofNat (q % 16 * 16 + r / 4) :: UInt8.ofNat (r % 4 * 64 + s) :: bytes
  | [p, q, r] => some [UInt8.ofNat (p * 4 + q / 16), UInt8.ofNat (q % 16 * 16 + r / 4)]
  | [p, q] => some [UInt8.ofNat (p * 4 + q / 16)]
  | [_] => none
  | [] => some []

/-- The values of the symbols, or the offset of the first character that is none. -/
def indices (offset : Nat) : List Char → Except Nat (List Nat)
  | [] => .ok []
  | c :: rest =>
    if c = '\n' ∨ c = '\r' then indices (offset + 1) rest
    else match index c with
      | none => .error offset
      | some v => (indices (offset + 1) rest).map (v :: ·)

/-- The bytes, or the offset of the illegal data. -/
def decode (text : List Char) : Except Nat (List UInt8) :=
  match indices 0 text with
  | .error offset => .error offset
  | .ok values =>
    match octets values with
    | some bytes => .ok bytes
    | none => .error (text.length - 1)

theorem index_symbol : ∀ v < 64, index (symbol v) = some v := by decide

theorem symbol_ne {v : Nat} (small : v < 64) {c : Char} (foreign : index c = none) : symbol v ≠ c := by
  rintro rfl
  rw [index_symbol v small] at foreign
  cases foreign

theorem sextets_lt (bytes : List UInt8) : ∀ v ∈ sextets bytes, v < 64 := by
  fun_induction sextets bytes with
  | case1 a b c rest ih =>
    have := a.toNat_lt
    have := b.toNat_lt
    have := c.toNat_lt
    simp only [List.forall_mem_cons]
    exact ⟨by omega, by omega, by omega, by omega, ih⟩
  | case2 a b =>
    have := a.toNat_lt
    have := b.toNat_lt
    simp only [List.forall_mem_cons]
    exact ⟨by omega, by omega, by omega, by simp⟩
  | case3 a =>
    have := a.toNat_lt
    simp only [List.forall_mem_cons]
    exact ⟨by omega, by omega, by simp⟩
  | case4 => simp

theorem ofNat_eq (a : UInt8) {n : Nat} (same : n = a.toNat) : UInt8.ofNat n = a := by
  rw [same, UInt8.ofNat_toNat]

theorem octets_sextets (bytes : List UInt8) : octets (sextets bytes) = some bytes := by
  fun_induction sextets bytes with
  | case1 a b c rest ih =>
    have := a.toNat_lt
    have := b.toNat_lt
    have := c.toNat_lt
    rw [octets, ih, Option.map_some, ofNat_eq a (by omega), ofNat_eq b (by omega), ofNat_eq c (by omega)]
  | case2 a b =>
    have := a.toNat_lt
    have := b.toNat_lt
    rw [octets, ofNat_eq a (by omega), ofNat_eq b (by omega)]
  | case3 a =>
    have := a.toNat_lt
    rw [octets, ofNat_eq a (by omega)]
  | case4 => rfl

theorem indices_symbols {values : List Nat} (small : ∀ v ∈ values, v < 64) (offset : Nat) :
    indices offset (values.map symbol) = .ok values := by
  induction values generalizing offset with
  | nil => rfl
  | cons v values ih =>
    obtain ⟨first, others⟩ := List.forall_mem_cons.mp small
    have unbroken : ¬ (symbol v = '\n' ∨ symbol v = '\r') := by
      rintro (feed | carriage)
      · exact symbol_ne first rfl feed
      · exact symbol_ne first rfl carriage
    rw [List.map_cons, indices, if_neg unbroken, index_symbol v first, ih others]
    rfl

theorem decode_encode (bytes : List UInt8) : decode (encode bytes) = .ok bytes := by
  rw [decode, encode, indices_symbols (sextets_lt bytes)]
  dsimp only
  rw [octets_sextets]

/-- Only symbols of the alphabet are written. -/
theorem not_mem_encode {c : Char} (foreign : index c = none) (bytes : List UInt8) : c ∉ encode bytes := by
  intro written
  obtain ⟨v, member, same⟩ := List.mem_map.mp written
  exact symbol_ne (sextets_lt bytes v member) foreign same

/-! The alphabet for URLs. -/

def urlSymbol (v : Nat) : Char := if v = 62 then '-' else if v = 63 then '_' else symbol v

def urlIndex (c : Char) : Option Nat :=
  if c = '-' then some 62 else if c = '_' then some 63 else if c = '+' ∨ c = '/' then none else index c

def encodeURL (bytes : List UInt8) : List Char := (sextets bytes).map urlSymbol

/-- Line breaks are no symbols here. -/
def decodeURL (text : List Char) : Option (List UInt8) := (text.mapM urlIndex).bind octets

theorem urlIndex_symbol : ∀ v < 64, urlIndex (urlSymbol v) = some v := by decide

theorem urlIndices_symbols {values : List Nat} (small : ∀ v ∈ values, v < 64) :
    (values.map urlSymbol).mapM urlIndex = some values := by
  induction values with
  | nil => rfl
  | cons v values ih =>
    obtain ⟨first, others⟩ := List.forall_mem_cons.mp small
    rw [List.map_cons, List.mapM_cons, urlIndex_symbol v first, ih others]
    rfl

theorem decodeURL_encodeURL (bytes : List UInt8) : decodeURL (encodeURL bytes) = some bytes := by
  rw [decodeURL, encodeURL, urlIndices_symbols (sextets_lt bytes)]
  exact octets_sextets bytes

end Base64
