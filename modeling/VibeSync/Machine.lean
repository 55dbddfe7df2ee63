import Mathlib.Data.List.Induction

/-! Runs of a deterministic machine over a list of events, and the rules for
what holds along them. -/

namespace Machine
variable {σ ε : Type} (step : σ → ε → σ)

def run (start : σ) (events : List ε) : σ := events.foldl step start

/-- The states in which the events of a run arrive. -/
def trace (start : σ) : List ε → List (σ × ε)
  | [] => []
  | event :: rest => (start, event) :: trace (step start event) rest

/-- Every state of a run, from the first to the last. -/
def states (start : σ) : List ε → List σ
  | [] => [start]
  | event :: rest => start :: states (step start event) rest

@[simp] theorem run_cons (start : σ) (event : ε) (rest : List ε) :
    run step start (event :: rest) = run step (step start event) rest := rfl

theorem run_append (start : σ) (first second : List ε) :
    run step start (first ++ second) = run step (run step start first) second := List.foldl_append

theorem trace_append (start : σ) (first second : List ε) :
    trace step start (first ++ second) = trace step start first ++ trace step (run step start first) second := by
  induction first generalizing start with
  | nil => rfl
  | cons event rest ih => simp only [List.cons_append, trace, ih, run_cons]

variable {step}

theorem run_invariant (invariant : σ → Prop) (keeps : ∀ state event, invariant state → invariant (step state event))
    {start : σ} (initial : invariant start) (events : List ε) : invariant (run step start events) := by
  induction events generalizing start with
  | nil => exact initial
  | cons event rest ih => exact ih (keeps start event initial)

/-- An invariant that survives every step meeting its condition holds after a run of such steps. -/
theorem run_of_guarded (invariant : σ → Prop) (guard : σ → ε → Prop)
    (keeps : ∀ state event, invariant state → guard state event → invariant (step state event))
    {start : σ} (initial : invariant start) {events : List ε}
    (guarded : ∀ visit ∈ trace step start events, guard visit.1 visit.2) : invariant (run step start events) := by
  induction events generalizing start with
  | nil => exact initial
  | cons event rest ih =>
    obtain ⟨here, later⟩ := List.forall_mem_cons.mp guarded
    exact ih (keeps start event initial here) later

/-- The same in every state in which an event of the run arrives. -/
theorem trace_of_guarded (invariant : σ → Prop) (guard : σ → ε → Prop)
    (keeps : ∀ state event, invariant state → guard state event → invariant (step state event))
    {start : σ} (initial : invariant start) {events : List ε}
    (guarded : ∀ visit ∈ trace step start events, guard visit.1 visit.2) :
    ∀ visit ∈ trace step start events, invariant visit.1 := by
  induction events generalizing start with
  | nil =>
    intro visit impossible
    cases impossible
  | cons event rest ih =>
    obtain ⟨here, later⟩ := List.forall_mem_cons.mp guarded
    exact List.forall_mem_cons.mpr ⟨initial, ih (keeps start event initial here) later⟩

/-- What holds of a state and of the steps that have led to it. -/
theorem run_traced (claim : List (σ × ε) → σ → Prop) {start : σ} (initial : claim [] start)
    (keeps : ∀ visits state event, claim visits state → claim (visits ++ [(state, event)]) (step state event)) (events : List ε) :
    claim (trace step start events) (run step start events) := by
  induction events using List.reverseRecOn with
  | nil => exact initial
  | append_singleton earlier event ih =>
    rw [trace_append, run_append]
    exact keeps _ _ event ih

theorem trace_event {start : σ} {events : List ε} {visit : σ × ε} (visited : visit ∈ trace step start events) :
    visit.2 ∈ events := by
  induction events generalizing start with
  | nil => cases visited
  | cons event rest ih =>
    cases visited with
    | head => exact List.mem_cons_self
    | tail _ later => exact List.mem_cons_of_mem event (ih later)

/-- Two runs stay related, state by state, when every pair of like events keeps
the relation in the states that meet the condition. -/
theorem states_related (relation : σ → σ → Prop) (alike : ε → ε → Prop) (guard : σ → Prop)
    (keeps : ∀ state other event like, relation state other → guard state → alike event like →
      relation (step state event) (step other like))
    {start other : σ} (initial : relation start other) {events likes : List ε} (same : List.Forall₂ alike events likes)
    (guarded : ∀ state ∈ states step start events, guard state) :
    List.Forall₂ relation (states step start events) (states step other likes) := by
  induction same generalizing start other with
  | nil => exact .cons initial .nil
  | cons like _ ih =>
    obtain ⟨here, later⟩ := List.forall_mem_cons.mp guarded
    exact .cons initial (ih (keeps _ _ _ _ initial here like) later)

/-- When a step is good exactly if it meets its condition, and the invariant that
makes this so survives every step that does, the good runs are those in which
every step meets its condition. -/
theorem good_iff_guarded (invariant : σ → Prop) (good guard : σ → ε → Prop)
    (matches_ : ∀ state event, invariant state → (good state event ↔ guard state event))
    (keeps : ∀ state event, invariant state → guard state event → invariant (step state event))
    {start : σ} (initial : invariant start) (events : List ε) :
    (∀ visit ∈ trace step start events, good visit.1 visit.2) ↔
      ∀ visit ∈ trace step start events, guard visit.1 visit.2 := by
  induction events generalizing start with
  | nil => simp [trace]
  | cons event rest ih =>
    simp only [trace, List.forall_mem_cons]
    rw [matches_ start event initial]
    exact and_congr_right fun guarded => ih (keeps start event initial guarded)

end Machine
