import Mathlib.Data.Nat.Digits.Lemmas
import Mathlib.Data.List.GetD

/-! Numbers written in an alphabet, in a fixed number of symbols with the most
significant one first. -/

namespace Radix

structure Alphabet (α : Type) where
  symbols : List α
  distinct : symbols.Nodup
  several : 1 < symbols.length

namespace Alphabet
variable {α : Type} (alphabet : Alphabet α)

def base : Nat := alphabet.symbols.length

def Spells (text : List α) : Prop := ∀ c ∈ text, c ∈ alphabet.symbols

theorem one_lt_base : 1 < alphabet.base := alphabet.several

/-! Reading. -/

section Reading
variable [DecidableEq α]

def index (c : α) : Nat := alphabet.symbols.idxOf c

def decode (text : List α) : Nat := Nat.ofDigits alphabet.base (text.map alphabet.index).reverse

variable {alphabet}

theorem index_lt {c : α} (member : c ∈ alphabet.symbols) : alphabet.index c < alphabet.base := List.idxOf_lt_length_iff.mpr member

theorem digits_lt {text : List α} (spelled : alphabet.Spells text) :
    ∀ digit ∈ (text.map alphabet.index).reverse, digit < alphabet.base := by
  intro digit member
  obtain ⟨c, present, rfl⟩ := List.mem_map.mp (List.mem_reverse.mp member)
  exact index_lt (spelled c present)

/-- The first symbol is the most significant one. -/
theorem decode_cons (c : α) (text : List α) :
    alphabet.decode (c :: text) = alphabet.decode text + alphabet.base ^ text.length * alphabet.index c := by
  rw [decode, decode, List.map_cons, Nat.ofDigits_reverse_cons, List.length_map]

theorem decode_lt {text : List α} (spelled : alphabet.Spells text) : alphabet.decode text < alphabet.base ^ text.length := by
  have bound := Nat.ofDigits_lt_base_pow_length alphabet.one_lt_base (digits_lt spelled)
  rwa [List.length_reverse, List.length_map] at bound

end Reading

/-! Writing. -/

section Writing
variable [Inhabited α]

def symbol (digit : Nat) : α := alphabet.symbols.getD digit default

def encode (width n : Nat) : List α := (alphabet.base.digitsAppend width n).reverse.map alphabet.symbol

variable {alphabet}

theorem symbol_eq {digit : Nat} (small : digit < alphabet.base) : alphabet.symbol digit = alphabet.symbols.get ⟨digit, small⟩ :=
  List.getD_eq_getElem _ _ small

theorem encode_spells (width n : Nat) : alphabet.Spells (alphabet.encode width n) := by
  intro c member
  obtain ⟨digit, present, rfl⟩ := List.mem_map.mp member
  rw [symbol_eq (Nat.lt_of_mem_digitsAppend alphabet.one_lt_base width digit (List.mem_reverse.mp present))]
  exact List.get_mem _ _

theorem encode_length {width n : Nat} (fits : n < alphabet.base ^ width) : (alphabet.encode width n).length = width := by
  rw [encode, List.length_map, List.length_reverse, Nat.length_digitsAppend alphabet.one_lt_base width fits]

end Writing

/-! Reading what was written, and writing what was read. -/

section Inverse
variable [DecidableEq α] [Inhabited α] {alphabet}

theorem index_symbol {digit : Nat} (small : digit < alphabet.base) : alphabet.index (alphabet.symbol digit) = digit := by
  rw [symbol_eq small]
  exact alphabet.distinct.idxOf_getElem digit small

theorem symbol_index {c : α} (member : c ∈ alphabet.symbols) : alphabet.symbol (alphabet.index c) = c := by
  rw [symbol_eq (index_lt member)]
  exact List.getElem_idxOf (index_lt member)

theorem decode_encode {width n : Nat} (fits : n < alphabet.base ^ width) : alphabet.decode (alphabet.encode width n) = n := by
  have same : (alphabet.encode width n).map alphabet.index = (alphabet.base.digitsAppend width n).reverse := by
    rw [encode, List.map_map]
    refine (List.map_congr_left fun digit member => ?_).trans (List.map_id _)
    exact index_symbol (Nat.lt_of_mem_digitsAppend alphabet.one_lt_base width digit (List.mem_reverse.mp member))
  rw [decode, same, List.reverse_reverse]
  exact (Nat.setInvOn_digitsAppend_ofDigits alphabet.one_lt_base width).2 fits

theorem encode_decode {text : List α} (spelled : alphabet.Spells text) :
    alphabet.encode text.length (alphabet.decode text) = text := by
  have digits : alphabet.base.digitsAppend text.length (alphabet.decode text) = (text.map alphabet.index).reverse :=
    (Nat.setInvOn_digitsAppend_ofDigits alphabet.one_lt_base text.length).1 ⟨by simp, digits_lt spelled⟩
  rw [encode, digits, List.reverse_reverse, List.map_map]
  exact (List.map_congr_left fun c member => symbol_index (spelled c member)).trans (List.map_id _)

end Inverse

/-! Where the symbols rise, the order of texts of one length is the order of their numbers. -/

section Order
variable [LinearOrder α] {alphabet}

theorem lt_of_index_lt (rising : alphabet.symbols.Pairwise (· < ·)) {c d : α} (left : c ∈ alphabet.symbols)
    (right : d ∈ alphabet.symbols) (less : alphabet.index c < alphabet.index d) : c < d := by
  have ordered := List.pairwise_iff_getElem.mp rising _ _ (index_lt left) (index_lt right) less
  have here : alphabet.symbols.get ⟨alphabet.index c, index_lt left⟩ = c := List.getElem_idxOf (index_lt left)
  have there : alphabet.symbols.get ⟨alphabet.index d, index_lt right⟩ = d := List.getElem_idxOf (index_lt right)
  rw [List.get_eq_getElem] at here there
  rwa [← here, ← there]

/-- A first symbol weighs more than all that follow it. -/
theorem add_mul_lt {low bound first second rest : Nat} (small : low < bound) (less : first < second) :
    low + bound * first < rest + bound * second := by
  have step := Nat.mul_le_mul_left bound (Nat.succ_le_of_lt less)
  rw [Nat.mul_succ] at step
  omega

theorem decode_lt_iff (rising : alphabet.symbols.Pairwise (· < ·)) {first second : List α} (left : alphabet.Spells first)
    (right : alphabet.Spells second) (length : first.length = second.length) :
    alphabet.decode first < alphabet.decode second ↔ first < second := by
  induction first generalizing second with
  | nil =>
    cases second with
    | nil => simp
    | cons d rest => cases length
  | cons c first ih =>
    cases second with
    | nil => cases length
    | cons d second =>
      obtain ⟨here, spelled⟩ := List.forall_mem_cons.mp left
      obtain ⟨there, written⟩ := List.forall_mem_cons.mp right
      have shorter : first.length = second.length := Nat.succ.inj length
      rw [decode_cons, decode_cons, List.cons_lt_cons_iff, shorter]
      rcases lt_trichotomy (alphabet.index c) (alphabet.index d) with less | same | more
      · have small : alphabet.decode first < alphabet.base ^ second.length := shorter ▸ decode_lt spelled
        exact iff_of_true (add_mul_lt small less) (Or.inl (lt_of_index_lt rising here there less))
      · obtain rfl : c = d := (List.idxOf_inj here).mp same
        rw [Nat.add_lt_add_iff_right, ih spelled written shorter]
        simp
      · have greater := lt_of_index_lt rising there here more
        refine iff_of_false (add_mul_lt (decode_lt written) more).not_gt ?_
        rintro (less | ⟨same, _⟩)
        · exact less.not_gt greater
        · exact greater.ne' same

end Order

end Alphabet

end Radix
