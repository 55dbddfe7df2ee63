import Mathlib.Logic.Function.Basic

/-! A cache in front of a source. What is fetched for one key may be kept under another,
and a hit is rebuilt from what was kept. The cache is transparent exactly if the source
answers for the key of every entry as the entry does. -/

namespace ReadThrough
variable {κ ρ α ω : Type} [DecidableEq κ]

structure Design (κ ρ α : Type) where
  /-- The keys that are asked for. -/
  asked : κ → Prop
  source : κ → Option α
  /-- The entry that is made of what the source answered. -/
  keep : κ → α → Option (κ × ρ)
  rebuild : κ → ρ → α

/-- The answers to a key, with the entries that are left behind. -/
inductive Answers (d : Design κ ρ α) (rows : κ → Option ρ) (key : κ) : α → (κ → Option ρ) → Prop where
  | hit {row : ρ} (kept : rows key = some row) : Answers d rows key (d.rebuild key row) rows
  | fetched {value : α} {entry : κ × ρ} (missed : rows key = none) (found : d.source key = some value)
      (keeps : d.keep key value = some entry) : Answers d rows key value (Function.update rows entry.1 (some entry.2))

inductive Reachable (d : Design κ ρ α) : (κ → Option ρ) → Prop where
  | start : Reachable d fun _ => none
  | step {rows after : κ → Option ρ} {key : κ} {value : α} (before : Reachable d rows) (asked : d.asked key)
      (answered : Answers d rows key value after) : Reachable d after

/-- Whatever was asked before, an answer looks like the one of the source. -/
def Transparent (d : Design κ ρ α) (see : α → ω) : Prop :=
  ∀ rows key value after, Reachable d rows → d.asked key → Answers d rows key value after →
    ∃ direct, d.source key = some direct ∧ see direct = see value

/-- The source answers for the key of an entry as the entry does. -/
def Coherent (d : Design κ ρ α) (see : α → ω) : Prop :=
  ∀ key value entry, d.asked key → d.source key = some value → d.keep key value = some entry → d.asked entry.1 →
    ∃ direct, d.source entry.1 = some direct ∧ see direct = see (d.rebuild entry.1 entry.2)

variable {d : Design κ ρ α} {see : α → ω}

/-- Every entry was made of an answer of the source. -/
theorem Reachable.origin {rows : κ → Option ρ} (reachable : Reachable d rows) {k : κ} {row : ρ} (kept : rows k = some row) :
    ∃ key value, d.asked key ∧ d.source key = some value ∧ d.keep key value = some (k, row) := by
  induction reachable with
  | start => cases kept
  | step before asked answered ih =>
    cases answered with
    | hit => exact ih kept
    | @fetched _ entry missed found keeps =>
      by_cases same : k = entry.1
      · subst same
        rw [Function.update_self] at kept
        obtain rfl := Option.some.inj kept
        exact ⟨_, _, asked, found, keeps⟩
      · rw [Function.update_of_ne same] at kept
        exact ih kept

theorem transparent_of_coherent (coherent : Coherent d see) : Transparent d see := by
  intro rows key value after reachable asked answered
  cases answered with
  | hit kept =>
    obtain ⟨origin, fetched, origin_asked, found, keeps⟩ := reachable.origin kept
    exact coherent origin fetched _ origin_asked found keeps asked
  | fetched missed found keeps => exact ⟨value, found, rfl⟩

/-- Asking for the first key and then for the key of its entry shows the entry. -/
theorem coherent_of_transparent (transparent : Transparent d see) : Coherent d see := by
  intro key value entry asked found keeps entry_asked
  have first : Answers d (fun _ => none) key value (Function.update (fun _ => none) entry.1 (some entry.2)) :=
    .fetched rfl found keeps
  have reachable := Reachable.start.step asked first
  exact transparent _ _ _ _ reachable entry_asked (.hit (Function.update_self _ _ _))

theorem transparent_iff : Transparent d see ↔ Coherent d see := ⟨coherent_of_transparent, transparent_of_coherent⟩

end ReadThrough
