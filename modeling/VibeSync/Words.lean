import Mathlib.Data.List.DropRight
import Mathlib.Data.List.Basic

/-! Words in a text. Between them any run of other characters may stand; joined, they
are told apart by one separator. -/

namespace Words
variable {α : Type}

/-- The maximal runs of characters inside words. -/
def words (inside : α → Bool) (text : List α) : List (List α) := (text.splitOnP fun c => !inside c).filter fun piece => !piece.isEmpty

/-- Non-empty runs of characters inside words. -/
def Proper (inside : α → Bool) (pieces : List (List α)) : Prop := ∀ piece ∈ pieces, piece ≠ [] ∧ ∀ c ∈ piece, inside c = true

/-- At least one word, and one separator between any two. -/
def Joined (inside : α → Bool) (sep : α) (text : List α) : Prop :=
  ∃ pieces, pieces ≠ [] ∧ Proper inside pieces ∧ text = [sep].intercalate pieces

theorem inside_of_mem_splitOnP {inside : α → Bool} {text piece : List α} (member : piece ∈ text.splitOnP fun c => !inside c) :
    ∀ c ∈ piece, inside c = true := by
  induction text generalizing piece with
  | nil =>
    rw [List.splitOnP_nil, List.mem_singleton] at member
    subst member
    exact List.forall_mem_nil _
  | cons first rest ih =>
    rw [List.splitOnP_cons_eq_if_modifyHead] at member
    split at member
    · rcases List.mem_cons.mp member with rfl | later
      · exact List.forall_mem_nil _
      · exact ih later
    next within =>
      obtain ⟨word, others, pieces⟩ := List.exists_cons_of_ne_nil (List.splitOnP_ne_nil (fun c => !inside c) rest)
      rw [pieces, List.modifyHead_cons] at member
      rcases List.mem_cons.mp member with rfl | later
      · exact List.forall_mem_cons.mpr ⟨by simpa using within, ih (by rw [pieces]; exact List.mem_cons_self)⟩
      · exact ih (by rw [pieces]; exact List.mem_cons_of_mem _ later)

theorem words_proper (inside : α → Bool) (text : List α) : Proper inside (words inside text) := by
  intro piece member
  obtain ⟨split, some_text⟩ := List.mem_filter.mp member
  exact ⟨by simpa using some_text, inside_of_mem_splitOnP split⟩

/-! Words that are joined, and what a cut leaves of them. -/

section Joining
variable {inside : α → Bool} {sep : α}

theorem intercalate_append {front back : List (List α)} (some_front : front ≠ []) (some_back : back ≠ []) :
    [sep].intercalate (front ++ back) = [sep].intercalate front ++ sep :: [sep].intercalate back := by
  induction front with
  | nil => exact absurd rfl some_front
  | cons piece front ih =>
    rw [List.cons_append, List.intercalate_cons_of_ne_nil (List.append_ne_nil_of_right_ne_nil _ some_back)]
    cases front with
    | nil => rw [List.nil_append, List.intercalate_singleton, List.append_assoc, List.singleton_append]
    | cons next front =>
      rw [ih (List.cons_ne_nil _ _), List.intercalate_cons_of_ne_nil (List.cons_ne_nil _ _), List.append_assoc _ _ (sep :: _)]

theorem intercalate_ne_nil (sep : α) {piece : List α} (some_piece : piece ≠ []) (others : List (List α)) :
    [sep].intercalate (piece :: others) ≠ [] := by
  cases others with
  | nil => rwa [List.intercalate_singleton]
  | cons next others =>
    rw [List.intercalate_cons_cons]
    exact List.append_ne_nil_of_left_ne_nil (List.append_ne_nil_of_left_ne_nil some_piece _) _

theorem joined_word {word : List α} (some_word : word ≠ []) (proper : ∀ c ∈ word, inside c = true) : Joined inside sep word :=
  ⟨[word], List.cons_ne_nil _ _, List.forall_mem_singleton.mpr ⟨some_word, proper⟩, List.intercalate_singleton.symm⟩

/-- A cut right behind a separator. -/
def Breaks (sep : α) (pieces : List (List α)) (n : Nat) : Prop :=
  ∃ front back, pieces = front ++ back ∧ front ≠ [] ∧ back ≠ [] ∧ ([sep].intercalate front).length + 1 = n

theorem breaks_first (piece : List α) {pieces : List (List α)} (more : pieces ≠ []) : Breaks sep (piece :: pieces) (piece.length + 1) :=
  ⟨[piece], pieces, rfl, List.cons_ne_nil _ _, more, by rw [List.intercalate_singleton]⟩

theorem Breaks.cons {pieces : List (List α)} {n : Nat} (breaks : Breaks sep pieces n) (piece : List α) :
    Breaks sep (piece :: pieces) (piece.length + 1 + n) := by
  obtain ⟨front, back, rfl, some_front, some_back, rfl⟩ := breaks
  refine ⟨piece :: front, back, rfl, List.cons_ne_nil _ _, some_back, ?_⟩
  rw [List.intercalate_cons_of_ne_nil some_front, List.length_append, List.length_append, List.length_singleton, Nat.add_assoc]

variable [DecidableEq α] (outside : inside sep = false)
include outside

omit [DecidableEq α] in
theorem ne_of_inside {c : α} (within : inside c = true) : c ≠ sep := by
  rintro rfl
  rw [within] at outside
  cases outside

theorem joined_iff (text : List α) : Joined inside sep text ↔ Proper inside (text.splitOn sep) := by
  constructor
  · rintro ⟨pieces, present, proper, rfl⟩
    rw [List.splitOn_intercalate sep _ present]
    · exact proper
    · exact fun piece member separated => ne_of_inside outside ((proper piece member).2 sep separated) rfl
  · intro proper
    exact ⟨_, List.splitOnP_ne_nil _ text, proper, (List.intercalate_splitOn sep).symm⟩

/-- A separator splits the question. -/
theorem joined_append_cons (first second : List α) :
    Joined inside sep (first ++ sep :: second) ↔ Joined inside sep first ∧ Joined inside sep second := by
  rw [joined_iff outside, joined_iff outside, joined_iff outside, List.splitOn, List.splitOnP_append_cons first second (by simp)]
  exact List.forall_mem_append

theorem not_joined_nil : ¬ Joined inside sep [] := by
  rw [joined_iff outside]
  intro proper
  exact (proper [] (by simp [List.splitOn])).1 rfl

theorem not_joined_of_breaks {pieces : List (List α)} {n : Nat} (breaks : Breaks sep pieces n) :
    ¬ Joined inside sep (([sep].intercalate pieces).take n) := by
  obtain ⟨front, back, rfl, some_front, some_back, rfl⟩ := breaks
  rw [intercalate_append some_front some_back, List.take_length_add_append, List.take_succ_cons, List.take_zero,
    joined_append_cons outside]
  exact fun joined => not_joined_nil outside joined.2

theorem joined_take {pieces : List (List α)} (proper : Proper inside pieces) {n : Nat} (some_left : 0 < n)
    (some_cut : n ≤ ([sep].intercalate pieces).length) (whole : ¬ Breaks sep pieces n) :
    Joined inside sep (([sep].intercalate pieces).take n) := by
  induction pieces generalizing n with
  | nil =>
    rw [List.intercalate_nil, List.length_nil] at some_cut
    omega
  | cons piece pieces ih =>
    obtain ⟨⟨some_piece, plain⟩, rest⟩ := List.forall_mem_cons.mp proper
    have cut_piece : Joined inside sep (piece.take n) := by
      refine joined_word ?_ fun c member => plain c (List.mem_of_mem_take member)
      rw [Ne, List.take_eq_nil_iff]
      rintro (rfl | rfl)
      · exact Nat.lt_irrefl 0 some_left
      · exact some_piece rfl
    cases pieces with
    | nil => rwa [List.intercalate_singleton]
    | cons next pieces =>
      -- The cut falls in the first piece, right behind its separator, or in the rest.
      have parts : [sep].intercalate (piece :: next :: pieces) = piece ++ sep :: [sep].intercalate (next :: pieces) := by
        rw [List.intercalate_cons_of_ne_nil (List.cons_ne_nil _ _), List.append_assoc, List.singleton_append]
      rw [parts, List.length_append, List.length_cons] at some_cut
      rw [parts]
      rcases Nat.lt_or_ge piece.length n with further | within
      · obtain ⟨left, rfl⟩ := Nat.exists_eq_add_of_lt further
        rw [Nat.add_assoc, List.take_length_add_append, List.take_succ_cons, joined_append_cons outside]
        refine ⟨joined_word some_piece plain, ih rest ?_ (by omega) ?_⟩
        · rw [Nat.pos_iff_ne_zero]
          rintro rfl
          exact whole (breaks_first piece (List.cons_ne_nil _ _))
        · intro breaks
          have moved := breaks.cons piece
          rw [Nat.add_right_comm] at moved
          exact whole moved
      · rwa [List.take_append_of_le_length within]

/-- What is left of joined words when they are cut. -/
theorem joined_take_iff {pieces : List (List α)} (proper : Proper inside pieces) {n : Nat} (some_left : 0 < n)
    (some_cut : n ≤ ([sep].intercalate pieces).length) :
    Joined inside sep (([sep].intercalate pieces).take n) ↔ ¬ Breaks sep pieces n :=
  ⟨fun joined breaks => not_joined_of_breaks outside breaks joined, joined_take outside proper some_left some_cut⟩

end Joining

/-! Runs of other characters that are squeezed to one separator. -/

section Squeezing
variable {inside : α → Bool} {sep : α}

/-- Each run of characters outside words becomes one separator. -/
def squeeze (inside : α → Bool) (sep : α) (inRun : Bool) : List α → List α
  | [] => []
  | c :: rest =>
    if inside c then c :: squeeze inside sep false rest
    else if inRun then squeeze inside sep true rest
    else sep :: squeeze inside sep true rest

/-- The pieces between characters outside words, with a separator behind each word but the last piece. -/
def spread (sep : α) : List (List α) → List α
  | [] => []
  | piece :: rest =>
    if piece.isEmpty then spread sep rest else piece ++ if rest.isEmpty then [] else sep :: spread sep rest

theorem squeeze_eq {text first : List α} {rest : List (List α)} (pieces : text.splitOnP (fun c => !inside c) = first :: rest) :
    squeeze inside sep true text = spread sep (first :: rest) ∧
      squeeze inside sep false text = first ++ if rest.isEmpty then [] else sep :: spread sep rest := by
  induction text generalizing first rest with
  | nil =>
    cases pieces
    exact ⟨rfl, rfl⟩
  | cons c text ih =>
    obtain ⟨word, others, later⟩ := List.exists_cons_of_ne_nil (List.splitOnP_ne_nil (fun c => !inside c) text)
    obtain ⟨running, fresh⟩ := ih later
    rw [List.splitOnP_cons_eq_if_modifyHead, later] at pieces
    cases within : inside c with
    | true =>
      simp only [within, Bool.not_true, Bool.false_eq_true, if_false, List.modifyHead_cons, List.cons.injEq] at pieces
      obtain ⟨rfl, rfl⟩ := pieces
      simp [squeeze, spread, within, fresh]
    | false =>
      simp only [within, Bool.not_false, if_true, List.cons.injEq] at pieces
      obtain ⟨rfl, rfl⟩ := pieces
      simp [squeeze, spread, within, running]

theorem rdropWhile_append (p : α → Bool) (first second : List α) :
    (first ++ second).rdropWhile p = if (second.rdropWhile p).isEmpty then first.rdropWhile p else first ++ second.rdropWhile p := by
  unfold List.rdropWhile
  rw [List.reverse_append, List.dropWhile_append, List.isEmpty_reverse]
  split
  · rfl
  · rw [List.reverse_append, List.reverse_reverse]

variable [DecidableEq α] (outside : inside sep = false)
include outside

omit outside in
theorem rdropWhile_sep_cons (text : List α) :
    (sep :: text).rdropWhile (· = sep) = if text.rdropWhile (· = sep) = [] then [] else sep :: text.rdropWhile (· = sep) := by
  rw [← List.singleton_append, rdropWhile_append, List.rdropWhile_singleton]
  simp only [List.isEmpty_iff, decide_true, if_true, List.singleton_append]

theorem dropWhile_spread {pieces : List (List α)} (proper : ∀ piece ∈ pieces, ∀ c ∈ piece, inside c = true) :
    (spread sep pieces).dropWhile (· = sep) = spread sep pieces := by
  induction pieces with
  | nil => rfl
  | cons piece pieces ih =>
    obtain ⟨plain, rest⟩ := List.forall_mem_cons.mp proper
    cases piece with
    | nil => exact ih rest
    | cons c piece => exact List.dropWhile_cons_of_neg (by simp [ne_of_inside outside (plain c List.mem_cons_self)])

theorem rdropWhile_spread {pieces : List (List α)} (proper : ∀ piece ∈ pieces, ∀ c ∈ piece, inside c = true) :
    (spread sep pieces).rdropWhile (· = sep) = [sep].intercalate (pieces.filter fun piece => !piece.isEmpty) := by
  induction pieces with
  | nil => rfl
  | cons piece pieces ih =>
    obtain ⟨plain, rest⟩ := List.forall_mem_cons.mp proper
    replace ih := ih rest
    cases piece with
    | nil => exact ih
    | cons c word =>
      have kept : (c :: word).rdropWhile (· = sep) = c :: word :=
        List.rdropWhile_eq_self_iff.mpr fun nonempty => by simp [ne_of_inside outside (plain _ (List.getLast_mem nonempty))]
      -- Separators are left at the end exactly when no word follows.
      rw [List.filter_cons_of_pos rfl]
      cases pieces with
      | nil => simpa [spread] using kept
      | cons next pieces =>
        change (c :: word ++ sep :: spread sep (next :: pieces)).rdropWhile (· = sep) = _
        rw [rdropWhile_append, rdropWhile_sep_cons, ih, kept]
        cases followed : (next :: pieces).filter fun piece => !piece.isEmpty with
        | nil => simp
        | cons later others =>
          have some_later : later ≠ [] := by
            have member : later ∈ (next :: pieces).filter fun piece => !piece.isEmpty := by
              rw [followed]
              exact List.mem_cons_self
            simpa using (List.mem_filter.mp member).2
          have some_word := intercalate_ne_nil sep some_later others
          rw [if_neg some_word, if_neg (by simp), List.intercalate_cons_cons, List.append_assoc, List.singleton_append]

/-- Squeezed and trimmed, a text is its words, joined. -/
theorem trim_squeeze (text : List α) :
    ((squeeze inside sep false text).dropWhile (· = sep)).rdropWhile (· = sep) = [sep].intercalate (words inside text) := by
  obtain ⟨first, rest, pieces⟩ := List.exists_cons_of_ne_nil (List.splitOnP_ne_nil (fun c => !inside c) text)
  have proper : ∀ piece ∈ first :: rest, ∀ c ∈ piece, inside c = true := by
    rw [← pieces]
    exact fun piece => inside_of_mem_splitOnP
  have begins : (squeeze inside sep false text).dropWhile (· = sep) = spread sep (first :: rest) := by
    rw [← dropWhile_spread outside proper, (squeeze_eq pieces).2]
    cases first with
    | nil =>
      cases rest with
      | nil => rfl
      | cons next rest => exact List.dropWhile_cons_of_pos (by simp)
    | cons c word => rfl
  rw [begins, rdropWhile_spread outside proper, words, pieces]

end Squeezing

end Words
