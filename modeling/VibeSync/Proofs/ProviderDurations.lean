import Mathlib.Algebra.Ring.Nat
import VibeSync.Providers.Domain

/-! The durations that the scanner of the Provider service reads, against the grammar
`P[nD][T[nH][nM][nS]]`. The scanner takes more: a numeral may begin before the `T`, units
may come in any order and again, the `T` may end the text, and the sum wraps around. -/

namespace VibeSync.Proofs.ProviderDurations
open VibeSync.Providers Decimal

inductive DurationUnit where
  | days
  | hours
  | minutes
  | seconds
  deriving DecidableEq, Repr

namespace DurationUnit

def letter : DurationUnit → Char
  | .days => 'D'
  | .hours => 'H'
  | .minutes => 'M'
  | .seconds => 'S'

def millis : DurationUnit → Nat
  | .days => 24 * 3600000
  | .hours => 3600000
  | .minutes => 60000
  | .seconds => 1000

/-- The unit stands behind the `T`. -/
def timed : DurationUnit → Bool
  | .days => false
  | _ => true

def place : DurationUnit → Nat
  | .days => 0
  | .hours => 1
  | .minutes => 2
  | .seconds => 3

theorem timed_of_later {first second : DurationUnit} (later : first.place < second.place) : second.timed = true := by
  cases second with
  | days => exact absurd later (Nat.not_lt_zero _)
  | hours | minutes | seconds => rfl

theorem letter_injective {first second : DurationUnit} (same : first.letter = second.letter) : first = second := by
  cases first <;> cases second <;> simp_all [letter]

theorem letter_not_digit (unit : DurationUnit) : isDigit unit.letter = false := by
  cases unit <;> rfl

theorem letter_ne_mark (unit : DurationUnit) : unit.letter ≠ 'T' := by
  cases unit <;> decide

theorem unitMillis_letter (unit : DurationUnit) : unitMillis unit.letter unit.timed = some (Int64.ofNat unit.millis) := by
  cases unit <;> rfl

theorem unit_of_millis {c : Char} {inTime : Bool} {ms : Int64} (known : unitMillis c inTime = some ms) :
    ∃ unit : DurationUnit, c = unit.letter ∧ unit.timed = inTime := by
  unfold unitMillis at known
  split at known
  · next day => exact ⟨.days, day, by cases inTime <;> simp_all [timed]⟩
  split at known
  · next hour => exact ⟨.hours, hour, by cases inTime <;> simp_all [timed]⟩
  split at known
  · next minute => exact ⟨.minutes, minute, by cases inTime <;> simp_all [timed]⟩
  split at known
  · next second => exact ⟨.seconds, second, by cases inTime <;> simp_all [timed]⟩
  · cases known

end DurationUnit

/-- A number with its unit. -/
@[ext] structure Component where
  digits : List Char
  unit : DurationUnit
  decimal : Digits digits
  written : digits ≠ []

def Component.text (component : Component) : List Char := component.digits ++ [component.unit.letter]

def Component.millis (component : Component) : Nat := value component.digits * component.unit.millis

def spell (components : List Component) : List Char := components.flatMap Component.text

def total (components : List Component) : Nat := (components.map Component.millis).sum

def Ordered (components : List Component) : Prop :=
  components.Pairwise fun first second => first.unit.place < second.unit.place

/-- `P[nD][T[nH][nM][nS]]`: the units in this order, each at most once, and at least one. -/
structure Duration where
  components : List Component
  present : components ≠ []
  ordered : Ordered components

def Duration.date (duration : Duration) : List Component := duration.components.filter fun component => !component.unit.timed

def Duration.time (duration : Duration) : List Component := duration.components.filter fun component => component.unit.timed

def Duration.text (duration : Duration) : List Char :=
  'P' :: spell duration.date ++ if duration.time = [] then [] else 'T' :: spell duration.time

/-- The text is a duration of the grammar, and the sum of its components fits and is the value. -/
def Denotes (s : String) (ms : Int64) : Prop :=
  ∃ duration : Duration, s.toList = duration.text ∧ total duration.components < 2 ^ 63 ∧
    ms.toInt = total duration.components

/-- What the scanner takes: components before the `T`, and components after it of which the first
may have begun before it. -/
@[ext] structure Reading where
  date : List Component
  time : List Component
  /-- The digits of the time components that stand before the `T`, if there is one. -/
  early : Option (List Char)
  dated : ∀ component ∈ date, component.unit.timed = false
  clocked : ∀ component ∈ time, component.unit.timed = true
  marked : early = none → time = []
  begun : ∀ digits, early = some digits → Digits digits ∧ digits <+: spell time

def Reading.components (reading : Reading) : List Component := reading.date ++ reading.time

def Reading.body (reading : Reading) : List Char :=
  spell reading.date ++
    match reading.early with
    | none => []
    | some digits => digits ++ 'T' :: (spell reading.time).drop digits.length

def Reading.text (reading : Reading) : List Char := 'P' :: reading.body

/-- The units come in order, the `T` stands right before a time component, and the sum fits. -/
structure Reading.Tidy (reading : Reading) : Prop where
  ordered : Ordered reading.components
  separated : reading.early = if reading.time = [] then none else some []
  fits : total reading.components < 2 ^ 63

section Texts

@[simp] theorem spell_nil : spell [] = [] := rfl

theorem spell_cons (component : Component) (rest : List Component) :
    spell (component :: rest) = component.digits ++ component.unit.letter :: spell rest := by
  rw [spell, List.flatMap_cons, Component.text, List.append_assoc]
  rfl

theorem spell_append (first second : List Component) : spell (first ++ second) = spell first ++ spell second :=
  List.flatMap_append

theorem total_append (first second : List Component) : total (first ++ second) = total first + total second := by
  rw [total, List.map_append, List.sum_append]
  rfl

theorem total_cons (component : Component) (rest : List Component) :
    total (component :: rest) = component.millis + total rest := rfl

theorem digit_ne_mark {c : Char} (decimal : isDigit c = true) : c ≠ 'T' := by
  rintro rfl
  cases decimal

theorem spell_unmarked (components : List Component) : 'T' ∉ spell components := by
  induction components with
  | nil => exact List.not_mem_nil
  | cons component rest ih =>
    rw [spell_cons]
    intro found
    rcases List.mem_append.mp found with early | late
    · exact digit_ne_mark (component.decimal _ early) rfl
    · rcases List.mem_cons.mp late with letter | later
      · exact component.unit.letter_ne_mark letter.symm
      · exact ih later

theorem spell_injective {first second : List Component} (same : spell first = spell second) : first = second := by
  induction first generalizing second with
  | nil =>
    cases second with
    | nil => rfl
    | cons component rest =>
      rw [spell_cons] at same
      cases (List.append_eq_nil_iff.mp same.symm).2
  | cons component rest ih =>
    cases second with
    | nil =>
      rw [spell_cons] at same
      cases (List.append_eq_nil_iff.mp same).2
    | cons other others =>
      rw [spell_cons, spell_cons] at same
      obtain ⟨digits, letters, tails⟩ := numeral_unique component.decimal other.decimal component.unit.letter_not_digit
        other.unit.letter_not_digit same
      rw [Component.ext digits (DurationUnit.letter_injective letters), ih tails]

end Texts

section Scanning
variable {quote : String → String} {quoteRune : Char → String} {s : String}

abbrev scan (quote : String → String) (quoteRune : Char → String) (s : String) (state : Scan) (text : List Char) :
    Except Err Scan := text.foldlM (Scan.step quote quoteRune s) state

/-- The loop's variables after the components read so far and the digits of the next. -/
def state (sum : Nat) (inTime sawUnit : Bool) (pending : List Char) : Scan :=
  ⟨Int64.ofNat sum, Int64.ofNat (value pending), !pending.isEmpty, inTime, sawUnit⟩

theorem scan_append {first second : List Char} {before middle : Scan}
    (scanned : scan quote quoteRune s before first = .ok middle) :
    scan quote quoteRune s before (first ++ second) = scan quote quoteRune s middle second := by
  unfold scan at scanned ⊢
  rw [List.foldlM_append, scanned]
  rfl

theorem scan_cons_ok {c : Char} {rest : List Char} {before after : Scan}
    (scanned : scan quote quoteRune s before (c :: rest) = .ok after) :
    ∃ middle, before.step quote quoteRune s c = .ok middle ∧ scan quote quoteRune s middle rest = .ok after := by
  rw [scan, List.foldlM_cons] at scanned
  cases stepped : before.step quote quoteRune s c with
  | error problem =>
    rw [stepped] at scanned
    cases scanned
  | ok middle =>
    rw [stepped] at scanned
    exact ⟨middle, rfl, scanned⟩

theorem step_digit {c : Char} (decimal : isDigit c = true) (sum : Nat) (inTime sawUnit : Bool) (pending : List Char) :
    (state sum inTime sawUnit pending).step quote quoteRune s c = .ok (state sum inTime sawUnit (pending ++ [c])) := by
  rw [Scan.step, if_neg (digit_ne_mark decimal), if_pos decimal, state, state, value_concat, Int64.ofNat_add, Int64.ofNat_mul]
  simp

theorem step_mark (sum : Nat) (sawUnit : Bool) (pending : List Char) :
    (state sum false sawUnit pending).step quote quoteRune s 'T' = .ok (state sum true sawUnit pending) := rfl

theorem step_letter (unit : DurationUnit) (sum : Nat) (sawUnit : Bool) {pending : List Char} (written : pending ≠ []) :
    (state sum unit.timed sawUnit pending).step quote quoteRune s unit.letter =
      .ok (state (sum + value pending * unit.millis) unit.timed true []) := by
  have number : (!pending.isEmpty) = true := by simp [written]
  have stop : ¬ isDigit unit.letter = true := by simp [unit.letter_not_digit]
  rw [Scan.step, if_neg unit.letter_ne_mark, if_neg stop]
  simp only [state, unit.unitMillis_letter, number, Int64.ofNat_add, Int64.ofNat_mul]
  rfl

/-- What one character can do to the loop's variables. -/
theorem step_cases {c : Char} {sum : Nat} {inTime sawUnit : Bool} {pending : List Char} {after : Scan}
    (stepped : (state sum inTime sawUnit pending).step quote quoteRune s c = .ok after) :
    (isDigit c = true ∧ after = state sum inTime sawUnit (pending ++ [c])) ∨
      (c = 'T' ∧ inTime = false ∧ after = state sum true sawUnit pending) ∨
      ∃ unit : DurationUnit, c = unit.letter ∧ unit.timed = inTime ∧ pending ≠ [] ∧
        after = state (sum + value pending * unit.millis) inTime true [] := by
  by_cases decimal : isDigit c = true
  · rw [step_digit decimal] at stepped
    exact Or.inl ⟨decimal, (Except.ok.inj stepped).symm⟩
  by_cases mark : c = 'T'
  · subst mark
    cases inTime with
    | true => cases stepped
    | false => exact Or.inr (Or.inl ⟨rfl, rfl, (Except.ok.inj stepped).symm⟩)
  refine Or.inr (Or.inr ?_)
  have stepped' := stepped
  rw [Scan.step, if_neg mark, if_neg decimal] at stepped
  split at stepped
  · cases stepped
  next ms known =>
    obtain ⟨unit, rfl, rfl⟩ := DurationUnit.unit_of_millis known
    have written : pending ≠ [] := by
      rintro rfl
      cases stepped
    rw [step_letter unit sum sawUnit written] at stepped'
    exact ⟨unit, rfl, rfl, written, (Except.ok.inj stepped').symm⟩

theorem scan_digits {digits : List Char} (decimal : Digits digits) (sum : Nat) (inTime sawUnit : Bool) (pending rest : List Char) :
    scan quote quoteRune s (state sum inTime sawUnit pending) (digits ++ rest) =
      scan quote quoteRune s (state sum inTime sawUnit (pending ++ digits)) rest := by
  induction digits generalizing pending with
  | nil => rw [List.nil_append, List.append_nil]
  | cons c digits ih =>
    obtain ⟨first, others⟩ := digits_cons.mp decimal
    rw [scan, List.cons_append, List.foldlM_cons, step_digit first]
    refine (ih others (pending ++ [c])).trans ?_
    rw [List.append_assoc]
    rfl

theorem scan_components {components : List Component} {inTime : Bool}
    (placed : ∀ component ∈ components, component.unit.timed = inTime) (sum : Nat) (sawUnit : Bool) :
    scan quote quoteRune s (state sum inTime sawUnit []) (spell components) =
      .ok (state (sum + total components) inTime (sawUnit || !components.isEmpty) []) := by
  induction components generalizing sum sawUnit with
  | nil => simp [total, scan, pure, Except.pure]
  | cons component rest ih =>
    obtain ⟨here, others⟩ := List.forall_mem_cons.mp placed
    rw [spell_cons, scan_digits component.decimal, scan, List.foldlM_cons, List.nil_append]
    subst here
    rw [step_letter component.unit sum sawUnit component.written]
    refine (ih others _ true).trans ?_
    rw [total_cons, Component.millis, Nat.add_assoc]
    simp

/-- A scan after the `T` that leaves no digits has read components. -/
theorem components_of_scan {text : List Char} {sum : Nat} {sawUnit : Bool} {pending : List Char} {after : Scan}
    (decimal : Digits pending) (scanned : scan quote quoteRune s (state sum true sawUnit pending) text = .ok after)
    (ended : after.digits = false) :
    ∃ time : List Component, (∀ component ∈ time, component.unit.timed = true) ∧ pending ++ text = spell time := by
  induction text generalizing sum sawUnit pending with
  | nil =>
    cases scanned
    have settled : pending = [] := by simpa [state] using ended
    exact ⟨[], by simp, by simp [settled]⟩
  | cons c text ih =>
    obtain ⟨middle, stepped, rest⟩ := scan_cons_ok scanned
    rcases step_cases stepped with ⟨digit, rfl⟩ | ⟨_, later, _⟩ | ⟨unit, rfl, timed, written, rfl⟩
    · obtain ⟨time, clocked, same⟩ := ih (digits_append.mpr ⟨decimal, digits_cons.mpr ⟨digit, digits_nil⟩⟩) rest
      rw [List.append_assoc] at same
      exact ⟨time, clocked, same⟩
    · cases later
    · obtain ⟨time, clocked, same⟩ := ih digits_nil rest
      refine ⟨⟨pending, unit, decimal, written⟩ :: time, List.forall_mem_cons.mpr ⟨timed, clocked⟩, ?_⟩
      rw [spell_cons, ← same, List.nil_append]

/-- A scan from the start that leaves no digits has read components, with a `T` at most once. -/
theorem reading_of_scan {text : List Char} {sum : Nat} {sawUnit : Bool} {pending : List Char} {after : Scan}
    (decimal : Digits pending) (scanned : scan quote quoteRune s (state sum false sawUnit pending) text = .ok after)
    (ended : after.digits = false) :
    ∃ reading : Reading, reading.body = pending ++ text := by
  induction text generalizing sum sawUnit pending with
  | nil =>
    cases scanned
    have settled : pending = [] := by simpa [state] using ended
    exact ⟨⟨[], [], none, by simp, by simp, by simp, by simp⟩, by simp [Reading.body, settled]⟩
  | cons c text ih =>
    obtain ⟨middle, stepped, rest⟩ := scan_cons_ok scanned
    rcases step_cases stepped with ⟨digit, rfl⟩ | ⟨rfl, _, rfl⟩ | ⟨unit, rfl, timed, written, rfl⟩
    · obtain ⟨reading, same⟩ := ih (digits_append.mpr ⟨decimal, digits_cons.mpr ⟨digit, digits_nil⟩⟩) rest
      rw [List.append_assoc] at same
      exact ⟨reading, same⟩
    · obtain ⟨time, clocked, same⟩ := components_of_scan decimal rest ended
      refine ⟨⟨[], time, some pending, by simp, clocked, by simp, ?_⟩, ?_⟩
      · rintro digits ⟨⟩
        exact ⟨decimal, text, same⟩
      · simp [Reading.body, ← same]
    · obtain ⟨reading, same⟩ := ih digits_nil rest
      refine ⟨⟨⟨pending, unit, decimal, written⟩ :: reading.date, reading.time, reading.early,
        List.forall_mem_cons.mpr ⟨timed, reading.dated⟩, reading.clocked, reading.marked, reading.begun⟩, ?_⟩
      rw [List.nil_append] at same
      rw [Reading.body, spell_cons, List.append_assoc, List.cons_append, ← same]
      rfl

theorem Reading.rejoin (reading : Reading) {digits : List Char} (early : reading.early = some digits) :
    digits ++ (spell reading.time).drop digits.length = spell reading.time := by
  obtain ⟨rest, same⟩ := (reading.begun digits early).2
  rw [← same, List.drop_left]

theorem scan_reading (reading : Reading) :
    scan quote quoteRune s {} reading.body =
      .ok (state (total reading.components) reading.early.isSome (!reading.components.isEmpty) []) := by
  have date := @scan_components quote quoteRune s reading.date false reading.dated 0 false
  rw [Nat.zero_add, Bool.false_or] at date
  refine (scan_append date).trans ?_
  cases early : reading.early with
  | none =>
    rw [Reading.components, reading.marked early, List.append_nil]
    rfl
  | some digits =>
    have time := @scan_components quote quoteRune s reading.time true reading.clocked (total reading.date) (!reading.date.isEmpty)
    rw [← reading.rejoin early, scan_digits (reading.begun digits early).1] at time
    dsimp only
    rw [scan_digits (reading.begun digits early).1, scan, List.foldlM_cons, step_mark]
    refine time.trans ?_
    rw [Reading.components, total_append]
    cases reading.date <;> rfl

theorem parse_text {rest : List Char} (written : s.toList = 'P' :: rest) (some_text : rest ≠ []) :
    parseISODuration quote quoteRune s = scan quote quoteRune s {} rest >>= Scan.finish quote s := by
  rw [parseISODuration, written]
  exact if_neg some_text

theorem parse_reading (reading : Reading) (present : reading.components ≠ []) (written : s.toList = reading.text) :
    parseISODuration quote quoteRune s = .ok (Int64.ofNat (total reading.components)) := by
  have scanned := @scan_reading quote quoteRune s reading
  have some_text : reading.body ≠ [] := by
    intro empty
    rw [empty] at scanned
    have counted := congrArg Scan.sawUnit (Except.ok.inj scanned)
    simp [state, present] at counted
  have saw : (!reading.components.isEmpty) = true := by simp [present]
  rw [parse_text written some_text, scanned, saw]
  rfl

theorem finish_ok {after : Scan} {ms : Int64} (finished : after.finish quote s = .ok ms) :
    after.digits = false ∧ after.sawUnit = true := by
  rw [Scan.finish] at finished
  split at finished
  · cases finished
  next ended =>
    split at finished
    · cases finished
    next saw => exact ⟨by simpa using ended, by simpa using saw⟩

theorem reading_of_parse {ms : Int64} (parsed : parseISODuration quote quoteRune s = .ok ms) :
    ∃ reading : Reading, reading.components ≠ [] ∧ s.toList = reading.text := by
  have shape : ∃ rest, s.toList = 'P' :: rest ∧ rest ≠ [] := by
    rw [parseISODuration] at parsed
    split at parsed
    · next rest written =>
      split at parsed
      · cases parsed
      · next some_text => exact ⟨rest, written, some_text⟩
    · cases parsed
  obtain ⟨rest, written, some_text⟩ := shape
  rw [parse_text written some_text] at parsed
  cases scanned : scan quote quoteRune s {} rest with
  | error problem =>
    rw [scanned] at parsed
    cases parsed
  | ok after =>
    rw [scanned] at parsed
    obtain ⟨ended, saw⟩ := finish_ok parsed
    obtain ⟨reading, same⟩ := reading_of_scan digits_nil scanned ended
    rw [List.nil_append] at same
    refine ⟨reading, fun empty => ?_, written.trans (congrArg _ same.symm)⟩
    rw [← same, scan_reading, empty] at scanned
    cases scanned
    cases saw

end Scanning

section Readings

theorem Reading.filter_date (reading : Reading) :
    reading.components.filter (fun component => !component.unit.timed) = reading.date := by
  have kept : reading.date.filter (fun component => !component.unit.timed) = reading.date :=
    List.filter_eq_self.mpr (by simpa using reading.dated)
  have dropped : reading.time.filter (fun component => !component.unit.timed) = [] :=
    List.filter_eq_nil_iff.mpr (by simpa using reading.clocked)
  rw [Reading.components, List.filter_append, kept, dropped, List.append_nil]

theorem Reading.filter_time (reading : Reading) :
    reading.components.filter (fun component => component.unit.timed) = reading.time := by
  have dropped : reading.date.filter (fun component => component.unit.timed) = [] :=
    List.filter_eq_nil_iff.mpr (by simpa using reading.dated)
  have kept : reading.time.filter (fun component => component.unit.timed) = reading.time :=
    List.filter_eq_self.mpr reading.clocked
  rw [Reading.components, List.filter_append, kept, dropped, List.nil_append]

theorem Ordered.split {components : List Component} (ordered : Ordered components) :
    components.filter (fun component => !component.unit.timed) ++ components.filter (fun component => component.unit.timed) =
      components := by
  induction components with
  | nil => rfl
  | cons component rest ih =>
    obtain ⟨before, others⟩ := List.pairwise_cons.mp ordered
    cases timed : component.unit.timed with
    | false => simp [timed, ih others]
    | true =>
      have later : ∀ other ∈ rest, other.unit.timed = true := fun other member => DurationUnit.timed_of_later (before other member)
      have none_dated : rest.filter (fun other => !other.unit.timed) = [] := List.filter_eq_nil_iff.mpr (by simpa using later)
      have all_timed : rest.filter (fun other => other.unit.timed) = rest := List.filter_eq_self.mpr later
      simp [timed, none_dated, all_timed]

/-- The reading of a duration of the grammar. -/
def Duration.reading (duration : Duration) : Reading where
  date := duration.date
  time := duration.time
  early := if duration.time = [] then none else some []
  dated := fun _ member => by simpa using (List.mem_filter.mp member).2
  clocked := fun _ member => (List.mem_filter.mp member).2
  marked := fun unmarked => by
    by_contra timed
    rw [if_neg timed] at unmarked
    cases unmarked
  begun := fun digits early => by
    split at early
    · cases early
    · cases early
      exact ⟨digits_nil, List.nil_prefix⟩

theorem Duration.reading_components (duration : Duration) : duration.reading.components = duration.components :=
  duration.ordered.split

theorem Duration.reading_text (duration : Duration) : duration.reading.text = duration.text := by
  by_cases untimed : duration.time = []
  · simp [Reading.text, Reading.body, Duration.text, Duration.reading, untimed]
  · simp [Reading.text, Reading.body, Duration.text, Duration.reading, untimed]

/-- Without the `T` the text is the components one after the other. -/
theorem Reading.body_unmarked (reading : Reading) : reading.body.filter (· ≠ 'T') = spell reading.components := by
  have whole : ∀ components : List Component, (spell components).filter (· ≠ 'T') = spell components := by
    intro components
    refine List.filter_eq_self.mpr fun c member => decide_eq_true ?_
    rintro rfl
    exact spell_unmarked components member
  rw [Reading.body, List.filter_append, whole, Reading.components, spell_append]
  cases early : reading.early with
  | none =>
    rw [reading.marked early]
    rfl
  | some digits =>
    have rejoined := congrArg (List.filter (· ≠ 'T')) (reading.rejoin early)
    rw [whole, List.filter_append] at rejoined
    refine congrArg (spell reading.date ++ ·) (Eq.trans ?_ rejoined)
    simp

theorem Reading.mark_mem (reading : Reading) : 'T' ∈ reading.body ↔ reading.early ≠ none := by
  rw [Reading.body, List.mem_append]
  cases reading.early with
  | none => simp [spell_unmarked]
  | some digits => simp

theorem Reading.body_injective {first second : Reading} (same : first.body = second.body) : first = second := by
  have components : first.components = second.components :=
    spell_injective (by rw [← first.body_unmarked, ← second.body_unmarked, same])
  have date : first.date = second.date := by rw [← first.filter_date, ← second.filter_date, components]
  have time : first.time = second.time := by rw [← first.filter_time, ← second.filter_time, components]
  have marks : first.early ≠ none ↔ second.early ≠ none := by rw [← first.mark_mem, ← second.mark_mem, same]
  have early : first.early = second.early := by
    cases marked : first.early with
    | none =>
      by_contra other
      exact marks.mpr (Ne.symm other) marked
    | some digits =>
      cases marked' : second.early with
      | none => exact absurd marked' (marks.mp (by simp [marked]))
      | some digits' =>
        rw [Reading.body, Reading.body, marked, marked', date] at same
        have tails := List.append_cancel_left same
        exact congrArg some
          (numeral_unique (first.begun digits marked).1 (second.begun digits' marked').1 rfl rfl tails).1
  exact Reading.ext date time early

theorem Reading.Tidy.duration {reading : Reading} (tidy : reading.Tidy) (present : reading.components ≠ []) :
    ∃ duration : Duration, duration.reading = reading := by
  refine ⟨⟨reading.components, present, tidy.ordered⟩, Reading.ext reading.filter_date reading.filter_time ?_⟩
  rw [tidy.separated, ← reading.filter_time]
  rfl

theorem Duration.tidy {duration : Duration} (fits : total duration.components < 2 ^ 63) : duration.reading.Tidy where
  ordered := by
    rw [duration.reading_components]
    exact duration.ordered
  separated := rfl
  fits := by
    rw [duration.reading_components]
    exact fits

theorem denotes_iff {s : String} {ms : Int64} :
    Denotes s ms ↔ ∃ reading : Reading, reading.components ≠ [] ∧ s.toList = reading.text ∧ reading.Tidy ∧
      ms = Int64.ofNat (total reading.components) := by
  constructor
  · rintro ⟨duration, written, fits, exact_sum⟩
    refine ⟨duration.reading, ?_, written.trans duration.reading_text.symm, duration.tidy fits, ?_⟩
    · rw [duration.reading_components]
      exact duration.present
    · rw [duration.reading_components]
      exact Int64.toInt_inj.mp (exact_sum.trans (Int64.toInt_ofNat_of_lt fits).symm)
  · rintro ⟨reading, present, written, tidy, rfl⟩
    obtain ⟨duration, rfl⟩ := tidy.duration present
    have fits := tidy.fits
    rw [duration.reading_components] at fits ⊢
    exact ⟨duration, written.trans duration.reading_text, fits, Int64.toInt_ofNat_of_lt fits⟩

end Readings

/-- The parser accepts the grammar with its value, and nothing else, for the texts whose
every reading is tidy. -/
theorem parse_exact_iff (quote : String → String) (quoteRune : Char → String) (s : String) :
    (∀ ms, parseISODuration quote quoteRune s = .ok ms ↔ Denotes s ms) ↔
      ∀ reading : Reading, reading.components ≠ [] → s.toList = reading.text → reading.Tidy := by
  constructor
  · intro agrees reading present written
    have parsed := @parse_reading quote quoteRune s reading present written
    obtain ⟨other, _, written', tidy, _⟩ := denotes_iff.mp ((agrees _).mp parsed)
    have same : reading = other := Reading.body_injective (List.cons.inj (written.symm.trans written')).2
    rw [same]
    exact tidy
  · intro tidy ms
    rw [denotes_iff]
    constructor
    · intro parsed
      obtain ⟨reading, present, written⟩ := reading_of_parse parsed
      refine ⟨reading, present, written, tidy reading present written, ?_⟩
      exact Except.ok.inj (parsed.symm.trans (parse_reading reading present written))
    · rintro ⟨reading, present, written, _, rfl⟩
      exact parse_reading reading present written

/-- Twelve hours, of which the one stands before the mark. -/
def straddling : Reading where
  date := []
  time := [⟨['1', '2'], .hours, by decide, by decide⟩]
  early := some ['1']
  dated := by simp
  clocked := by simp [DurationUnit.timed]
  marked := by simp
  begun := by
    rintro digits ⟨⟩
    exact ⟨by decide, ['2', 'H'], rfl⟩

theorem numeral_crosses_mark :
    parseISODuration id Char.toString "P1T2H" = .ok 43200000 ∧ ¬ ∃ ms, Denotes "P1T2H" ms := by
  refine ⟨parse_reading straddling (by simp [straddling, Reading.components]) rfl, ?_⟩
  rintro ⟨ms, denoted⟩
  obtain ⟨reading, _, written, tidy, _⟩ := denotes_iff.mp denoted
  have same : reading = straddling := Reading.body_injective (List.cons.inj written).2.symm
  have separated := tidy.separated
  rw [same] at separated
  simp [straddling] at separated

end VibeSync.Proofs.ProviderDurations
