import VibeSync.Strings

/-! Decimal numerals as lists of digits, and the text of a numeral with the sign that
ends it: where the numeral stops is plain from the text. -/

namespace Decimal
open VibeSync

def Digits (text : List Char) : Prop := ∀ c ∈ text, isDigit c = true

instance (text : List Char) : Decidable (Digits text) := List.decidableBAll (isDigit · = true) text

def digit (c : Char) : Nat := c.toNat - '0'.toNat

def value (text : List Char) : Nat := text.foldl (fun n c => n * 10 + digit c) 0

@[simp] theorem digits_nil : Digits [] := by simp [Digits]

theorem digits_cons {c : Char} {text : List Char} : Digits (c :: text) ↔ isDigit c = true ∧ Digits text := List.forall_mem_cons

theorem digits_append {first second : List Char} : Digits (first ++ second) ↔ Digits first ∧ Digits second :=
  List.forall_mem_append

theorem value_concat (text : List Char) (c : Char) : value (text ++ [c]) = value text * 10 + digit c := by
  rw [value, List.foldl_append]
  rfl

theorem numeral_unique {first second rest rest' : List Char} {c c' : Char} (left : Digits first) (right : Digits second)
    (stop : isDigit c = false) (stop' : isDigit c' = false) (same : first ++ c :: rest = second ++ c' :: rest') :
    first = second ∧ c = c' ∧ rest = rest' := by
  induction first generalizing second with
  | nil =>
    cases second with
    | nil => exact ⟨rfl, List.cons.inj same⟩
    | cons d second =>
      have met := (List.cons.inj same).1
      rw [met, (digits_cons.mp right).1] at stop
      cases stop
  | cons d first ih =>
    cases second with
    | nil =>
      have met := (List.cons.inj same).1
      rw [← met, (digits_cons.mp left).1] at stop'
      cases stop'
    | cons e second =>
      obtain ⟨met, tail⟩ := List.cons.inj same
      obtain ⟨numeral, ended⟩ := ih (digits_cons.mp left).2 (digits_cons.mp right).2 tail
      exact ⟨congr (congrArg List.cons met) numeral, ended⟩

end Decimal
