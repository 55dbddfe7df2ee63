import Mathlib.Data.List.Basic
import Mathlib.Data.List.Nodup
import Mathlib.Order.Lattice

/-! Listing a table by pages, latest rows first. The cursor of a page bounds the keys of
its rows, and the key of the first row left out is the cursor of the next page. Following
the cursors ends, but no page from there on has the row that gave the cursor. -/

namespace Keyset
variable {ρ κ τ : Type}

/-- The order in which a database answers each query: latest first, rows of one date as it likes. -/
structure Plan (κ : Type) (date : ρ → τ) [LE τ] where
  sort : κ → List ρ → List ρ
  perm : ∀ cursor rows, (sort cursor rows).Perm rows
  latestFirst : ∀ cursor rows, (sort cursor rows).Pairwise fun first second => date second ≤ date first

/-- The page and the next cursor, given the rows found when one more than `limit` was asked for. -/
def cut (key : ρ → κ) (done : κ) (limit : Nat) (found : List ρ) : List ρ × κ :=
  match found[limit]? with
  | some next => (found.take limit, key next)
  | none => (found, done)

/-- The page at each cursor until there is no next one; `none` when `fuel` pages do not end the walk. -/
def walk [DecidableEq κ] (list : κ → List ρ × κ) (done : κ) : Nat → κ → Option (List (List ρ))
  | 0, _ => none
  | fuel + 1, cursor =>
    if (list cursor).2 = done then some [(list cursor).1]
    else (walk list done fuel (list cursor).2).map ((list cursor).1 :: ·)

theorem cut_short {key : ρ → κ} {done : κ} {limit : Nat} {found : List ρ} (few : found.length ≤ limit) :
    cut key done limit found = (found, done) := by
  rw [cut, List.getElem?_eq_none few]

theorem cut_long {key : ρ → κ} {done : κ} {limit : Nat} {found : List ρ} {next : ρ} (more : found[limit]? = some next) :
    cut key done limit found = (found.take limit, key next) := by
  rw [cut, more]

/-- A row that stands after the first `limit` is not one of them. -/
theorem not_mem_take {limit : Nat} {found : List ρ} {next : ρ} (unique : found.Nodup) (there : found[limit]? = some next) :
    next ∉ found.take limit := by
  intro taken
  obtain ⟨place, inside, same⟩ := List.getElem_of_mem taken
  obtain ⟨_, last⟩ := List.getElem?_eq_some_iff.mp there
  rw [List.getElem_take] at same
  have places := unique.getElem_inj_iff.mp (same.trans last.symm)
  have bounded := List.length_take_le limit found
  omega

section Walk
variable [DecidableEq κ] {list : κ → List ρ × κ} {done : κ}

theorem walk_last {fuel : Nat} {cursor : κ} (last : (list cursor).2 = done) :
    walk list done (fuel + 1) cursor = some [(list cursor).1] := by
  rw [walk, if_pos last]

theorem walk_next {fuel : Nat} {cursor : κ} (more : (list cursor).2 ≠ done) :
    walk list done (fuel + 1) cursor = (walk list done fuel (list cursor).2).map ((list cursor).1 :: ·) := by
  rw [walk, if_neg more]

/-- A finished walk is its last page, or a page and the finished walk from its next cursor. -/
theorem walk_some {fuel : Nat} {cursor : κ} {pages : List (List ρ)} (walked : walk list done fuel cursor = some pages) :
    ((list cursor).2 = done ∧ pages = [(list cursor).1]) ∨
      (list cursor).2 ≠ done ∧ ∃ less rest, fuel = less + 1 ∧ walk list done less (list cursor).2 = some rest ∧
        pages = (list cursor).1 :: rest := by
  cases fuel with
  | zero => cases walked
  | succ fuel =>
    by_cases last : (list cursor).2 = done
    · rw [walk_last last] at walked
      exact .inl ⟨last, (Option.some.inj walked).symm⟩
    · rw [walk_next last] at walked
      obtain ⟨rest, followed, rfl⟩ := Option.map_eq_some_iff.mp walked
      exact .inr ⟨last, fuel, rest, rfl, followed, rfl⟩

/-- A walk ends once something gets smaller from each cursor to the next. -/
theorem walk_ends (left : κ → Nat) (shrinks : ∀ cursor, (list cursor).2 ≠ done → left (list cursor).2 < left cursor)
    (cursor : κ) : ∃ fuel pages, walk list done fuel cursor = some pages := by
  induction size : left cursor using Nat.strongRecOn generalizing cursor with
  | ind size smaller =>
    by_cases last : (list cursor).2 = done
    · exact ⟨1, _, walk_last last⟩
    · obtain ⟨fuel, rest, followed⟩ := smaller _ (size ▸ shrinks cursor last) _ rfl
      refine ⟨fuel + 1, (list cursor).1 :: rest, ?_⟩
      rw [walk_next last, followed]
      rfl

end Walk

section Paging
variable [LinearOrder κ] [LE τ] {date : ρ → τ}

/-- Whether a row may be on the page of a cursor. -/
def before (key : ρ → κ) (done cursor : κ) (row : ρ) : Bool := decide (cursor = done) || decide (key row < cursor)

def remaining (key : ρ → κ) (done : κ) (rows : List ρ) (cursor : κ) : List ρ := rows.filter (before key done cursor)

def list (plan : Plan κ date) (key : ρ → κ) (done : κ) (limit : Nat) (rows : List ρ) (cursor : κ) : List ρ × κ :=
  cut key done limit ((plan.sort cursor (remaining key done rows cursor)).take (limit + 1))

variable {plan : Plan κ date} {key : ρ → κ} {done cursor : κ} {limit : Nat} {rows : List ρ}

theorem mem_remaining {row : ρ} : row ∈ remaining key done rows cursor ↔ row ∈ rows ∧ (cursor = done ∨ key row < cursor) := by
  rw [remaining, List.mem_filter, before, Bool.or_eq_true, decide_eq_true_iff, decide_eq_true_iff]

theorem remaining_done : remaining key done rows done = rows := by
  rw [remaining, List.filter_eq_self]
  intro row _
  simp [before]

/-- The two answers to a query: all the remaining rows, or a page of them and the key of the first row left out. -/
inductive Paged (plan : Plan κ date) (key : ρ → κ) (done : κ) (limit : Nat) (rows : List ρ) (cursor : κ) : List ρ × κ → Prop where
  | whole (few : (remaining key done rows cursor).length ≤ limit) :
      Paged plan key done limit rows cursor (plan.sort cursor (remaining key done rows cursor), done)
  | part {next : ρ} (left : next ∈ remaining key done rows cursor)
      (found : (plan.sort cursor (remaining key done rows cursor))[limit]? = some next) :
      Paged plan key done limit rows cursor ((plan.sort cursor (remaining key done rows cursor)).take limit, key next)

theorem list_paged (plan : Plan κ date) (key : ρ → κ) (done : κ) (limit : Nat) (rows : List ρ) (cursor : κ) :
    Paged plan key done limit rows cursor (list plan key done limit rows cursor) := by
  have sorted := plan.perm cursor (remaining key done rows cursor)
  have length := sorted.length_eq
  rw [list]
  rcases Nat.lt_or_ge limit (plan.sort cursor (remaining key done rows cursor)).length with more | few
  · have found := List.getElem?_eq_getElem more
    have fetched := (List.getElem?_take_of_lt (Nat.lt_succ_self limit)).trans found
    rw [cut_long fetched, List.take_take, Nat.min_eq_left (Nat.le_succ limit)]
    exact .part (sorted.mem_iff.mp (List.mem_of_getElem? found)) found
  · rw [List.take_of_length_le (by omega), cut_short few]
    exact .whole (by omega)

theorem list_rows {row : ρ} (listed : row ∈ (list plan key done limit rows cursor).1) :
    row ∈ remaining key done rows cursor := by
  have paged := list_paged plan key done limit rows cursor
  have sorted := plan.perm cursor (remaining key done rows cursor)
  generalize list plan key done limit rows cursor = answer at paged listed
  cases paged with
  | whole few => exact sorted.mem_iff.mp listed
  | part left found => exact sorted.mem_iff.mp (List.mem_of_mem_take listed)

/-- The next cursor is the key of one of the remaining rows. -/
theorem list_cursor (more : (list plan key done limit rows cursor).2 ≠ done) :
    ∃ row ∈ remaining key done rows cursor, (list plan key done limit rows cursor).2 = key row := by
  have paged := list_paged plan key done limit rows cursor
  generalize list plan key done limit rows cursor = answer at paged more ⊢
  cases paged with
  | whole few => exact absurd rfl more
  | part left found => exact ⟨_, left, rfl⟩

/-- The key of a remaining row, as a cursor, leaves the remaining rows with smaller keys. -/
theorem remaining_next {next : ρ} (left : next ∈ remaining key done rows cursor) (more : key next ≠ done) :
    remaining key done rows (key next) = (remaining key done rows cursor).filter fun row => key row < key next := by
  rw [remaining, remaining, List.filter_filter]
  apply List.filter_congr
  intro row _
  rcases (mem_remaining.mp left).2 with first | bounded
  · simp [before, more, first]
  · have lower : key row < key next → key row < cursor := fun below => below.trans bounded
    simpa [before, more] using fun below => Or.inr (lower below)

theorem list_shrinks (more : (list plan key done limit rows cursor).2 ≠ done) :
    (remaining key done rows (list plan key done limit rows cursor).2).length <
      (remaining key done rows cursor).length := by
  obtain ⟨next, left, named⟩ := list_cursor more
  rw [named] at more ⊢
  rw [remaining_next left more]
  exact List.length_filter_lt_length_iff_exists.mpr ⟨next, left, by simp⟩

/-- However the rows are dated and keyed, following the cursors comes to an end. -/
theorem list_walk_ends (plan : Plan κ date) (key : ρ → κ) (done : κ) (limit : Nat) (rows : List ρ) :
    ∃ fuel pages, walk (list plan key done limit rows) done fuel done = some pages :=
  walk_ends (fun cursor => (remaining key done rows cursor).length) (fun _ => list_shrinks) done

/-- No page from a cursor on holds a row whose key is not below it. -/
theorem walk_below {fuel : Nat} {pages : List (List ρ)} (started : cursor ≠ done)
    (walked : walk (list plan key done limit rows) done fuel cursor = some pages) :
    ∀ row ∈ pages.flatten, key row < cursor := by
  induction fuel generalizing cursor pages with
  | zero => cases walked
  | succ fuel later =>
    have listed : ∀ row ∈ (list plan key done limit rows cursor).1, key row < cursor := fun row held =>
      (mem_remaining.mp (list_rows held)).2.resolve_left started
    rcases walk_some walked with ⟨-, rfl⟩ | ⟨more, less, rest, same, followed, rfl⟩
    · simpa using listed
    · cases same
      obtain ⟨next, left, named⟩ := list_cursor more
      have bounded := (mem_remaining.mp left).2.resolve_left started
      intro row held
      rw [List.flatten_cons, List.mem_append] at held
      rcases held with held | held
      · exact listed row held
      · exact (later more followed row held).trans (named ▸ bounded)

/-- A walk from the start shows every row once, latest first, exactly when the first page has room for all of them. -/
theorem walk_visits_iff (unique : rows.Nodup) {fuel : Nat} {pages : List (List ρ)}
    (walked : walk (list plan key done limit rows) done fuel done = some pages) :
    pages.flatten.Perm rows ∧ (pages.flatten.Pairwise fun first second => date second ≤ date first) ↔
      rows.length ≤ limit := by
  have paged := list_paged plan key done limit rows done
  have walks := walk_some walked
  generalize list plan key done limit rows done = answer at paged walks
  have sorted := plan.perm done rows
  have distinct := sorted.nodup_iff.mpr unique
  cases paged with
  | whole few =>
    rw [remaining_done] at few walks
    obtain ⟨-, rfl⟩ := walks.resolve_right fun more => more.1 rfl
    rw [List.flatten_cons, List.flatten_nil, List.append_nil]
    exact iff_of_true ⟨sorted, plan.latestFirst done rows⟩ few
  | @part next left found =>
    rw [remaining_done] at left found walks
    have skipped := not_mem_take distinct found
    have crowded : ¬ rows.length ≤ limit := by
      have inside := (List.getElem?_eq_some_iff.mp found).1
      rw [sorted.length_eq] at inside
      omega
    refine iff_of_false (fun visited => ?_) crowded
    have shown : next ∈ pages.flatten := visited.1.mem_iff.mpr left
    rcases walks with ⟨-, rfl⟩ | ⟨more, less, rest, -, followed, rfl⟩
    · rw [List.flatten_cons, List.flatten_nil, List.append_nil] at shown
      exact skipped shown
    · rw [List.flatten_cons, List.mem_append] at shown
      rcases shown with first | later
      · exact skipped first
      · exact lt_irrefl _ (walk_below more followed next later)

/-- The keys are different, and a later row never has a smaller key than an earlier one. -/
structure Dated (key : ρ → κ) (date : ρ → τ) (rows : List ρ) : Prop where
  distinct : (rows.map key).Nodup
  rising : ∀ first ∈ rows, ∀ second ∈ rows, date first ≤ date second → key first ≤ key second

theorem Dated.falling (dated : Dated key date rows) (cursor : κ) :
    (plan.sort cursor (remaining key done rows cursor)).Pairwise fun first second => key second < key first := by
  have sorted := plan.perm cursor (remaining key done rows cursor)
  have distinct : (remaining key done rows cursor).Pairwise fun first second => key first ≠ key second :=
    (List.pairwise_map.mp dated.distinct).sublist List.filter_sublist
  have apart := (sorted.pairwise_iff fun differ => differ.symm).mpr distinct
  refine (List.Pairwise.and apart (plan.latestFirst cursor _)).imp_of_mem ?_
  intro first second firstHeld secondHeld both
  have stored {row : ρ} (held : row ∈ plan.sort cursor (remaining key done rows cursor)) : row ∈ rows :=
    (mem_remaining.mp (sorted.mem_iff.mp held)).1
  exact lt_of_le_of_ne (dated.rising second (stored secondHeld) first (stored firstHeld) both.2) (Ne.symm both.1)

/-! A table that changes between the queries of a walk. -/

/-- The pages of a walk, with the rows that each of its queries finds in the table. -/
def walkOver (list : List ρ → κ → List ρ × κ) (done : κ) : List (List ρ) → κ → List (List ρ)
  | [], _ => []
  | rows :: later, cursor =>
    (list rows cursor).1 :: if (list rows cursor).2 = done then [] else walkOver list done later (list rows cursor).2

/-- With rising keys a page falls, from its first row to the cursor of the next page. -/
theorem list_falls (plan : Plan κ date) (done : κ) (limit : Nat) (cursor : κ) (dated : Dated key date rows) :
    (list plan key done limit rows cursor).1.Pairwise (fun first second => key second < key first) ∧
      ((list plan key done limit rows cursor).2 ≠ done →
        ∀ row ∈ (list plan key done limit rows cursor).1, (list plan key done limit rows cursor).2 < key row) := by
  have falling : (plan.sort cursor (remaining key done rows cursor)).Pairwise _ := dated.falling cursor
  have paged := list_paged plan key done limit rows cursor
  generalize list plan key done limit rows cursor = answer at paged ⊢
  cases paged with
  | whole few => exact ⟨falling, fun more => absurd rfl more⟩
  | @part next left found =>
    refine ⟨falling.sublist (List.take_sublist ..), fun _ row held => ?_⟩
    obtain ⟨place, inside, rfl⟩ := List.getElem_of_mem held
    obtain ⟨there, rfl⟩ := List.getElem?_eq_some_iff.mp found
    rw [List.getElem_take]
    exact List.pairwise_iff_getElem.mp falling place limit _ there (by rw [List.length_take] at inside; omega)

/-- Keys fall along the whole walk, so no row is shown twice. -/
theorem walkOver_falls (plan : Plan κ date) (done : κ) (limit : Nat) {tables : List (List ρ)}
    (dated : ∀ rows ∈ tables, Dated key date rows) (cursor : κ) :
    (walkOver (list plan key done limit) done tables cursor).flatten.Pairwise (fun first second => key second < key first) ∧
      (cursor ≠ done → ∀ row ∈ (walkOver (list plan key done limit) done tables cursor).flatten, key row < cursor) := by
  induction tables generalizing cursor with
  | nil => exact ⟨.nil, fun _ => nofun⟩
  | cons rows later ih =>
    obtain ⟨here, others⟩ := List.forall_mem_cons.mp dated
    obtain ⟨falls, bounded⟩ := list_falls plan done limit cursor here
    have below : cursor ≠ done → ∀ row ∈ (list plan key done limit rows cursor).1, key row < cursor :=
      fun started row held => (mem_remaining.mp (list_rows held)).2.resolve_left started
    rw [walkOver]
    split
    · rw [List.flatten_cons, List.flatten_nil, List.append_nil]
      exact ⟨falls, below⟩
    next more =>
      obtain ⟨rest, under⟩ := ih others (list plan key done limit rows cursor).2
      rw [List.flatten_cons]
      refine ⟨List.pairwise_append.mpr ⟨falls, rest, fun row held next shown => (under more next shown).trans (bounded more row held)⟩,
        fun started row held => ?_⟩
      rcases List.mem_append.mp held with first | later
      · exact below started row first
      · obtain ⟨next, left, named⟩ := list_cursor more
        have lower := (mem_remaining.mp left).2.resolve_left started
        exact (under more row later).trans (named ▸ lower)

end Paging

end Keyset
