import VibeSync.Proofs.OutboxSafety

/-! The order in which events are first published. A batch is taken in the order
of `occurred_at` and published one by one, so it holds as long as no relay opens
its transaction while another one has rows locked. -/

namespace VibeSync.Proofs.OutboxOrder
open VibeSync.Outbox VibeSync.Proofs.OutboxSafety Machine
open VibeSync.Outbox.Relays (Action)

/-- A transaction is opened while no other relay has one open. -/
def Alone (s : Relays) (a : Action) : Prop := ∀ r, a = .begin r none → ∀ other, other ≠ r → ¬ Open (s.relay other)

def publications (s : Relays) : List Event := s.acknowledged.map Prod.fst

/-- Every occurrence of the second has one of the first before it. -/
def Precedes (first second : Event) (list : List Event) : Prop :=
  ∀ earlier later, list = earlier ++ second :: later → first ∈ earlier

def StagedBefore (s : Relays) (first second : Event) : Prop := [first, second].Sublist (events s.table)

theorem Precedes.of_absent {first second : Event} {list : List Event} (absent : second ∉ list) : Precedes first second list := by
  intro earlier later split
  rw [split] at absent
  simp at absent

theorem Precedes.concat {first second last : Event} {list : List Event} (precedes : Precedes first second list)
    (next : last = second → first ∈ list) : Precedes first second (list ++ [last]) := by
  intro earlier later split
  rcases List.eq_nil_or_concat later with rfl | ⟨init, final, rfl⟩
  · obtain ⟨rfl, same⟩ := List.append_inj' split rfl
    cases same
    exact next rfl
  · rw [List.concat_eq_append, ← List.cons_append, ← List.append_assoc] at split
    obtain ⟨rest, _⟩ := List.append_inj' split rfl
    exact precedes earlier init rest

/-- A row that is there already has the same rows before it afterwards. -/
theorem staged_back {before after : Relays} (growth : Grows before after) (consistent : Consistent after)
    {first second : Event} (known : second ∈ events before.table) (staged : StagedBefore after first second) :
    StagedBefore before first second := by
  obtain ⟨added, rows⟩ := growth.rows
  have unique := consistent.unique
  unfold StagedBefore at staged
  rw [← rows] at staged unique
  obtain ⟨left, right, split, inside, outside⟩ := List.sublist_append_iff.mp staged
  have distinct : ∀ e ∈ added, second ≠ e := by
    rw [List.map_append, List.nodup_append] at unique
    intro e member same
    exact unique.2.2 _ (List.mem_map_of_mem known) _ (List.mem_map_of_mem member) (congrArg Event.id same)
  rcases List.eq_nil_or_concat right with rfl | ⟨init, last, rfl⟩
  · rw [List.append_nil] at split
    rw [← split] at inside
    exact inside
  · rw [List.concat_eq_append, ← List.append_assoc] at split
    have final : second = last := by
      have ends := congrArg List.getLast? split
      simpa using ends
    exact absurd final (distinct last (outside.subset (by simp)))

/-! What an open transaction still has to publish. -/

structure Queued (s : Relays) (phase : Phase) : Prop where
  sorted : ∀ drain, drain? phase = some drain →
    drain.rest.Pairwise fun first second => first.occurredAt ≤ second.occurredAt
  covered : ∀ drain, drain? phase = some drain → ∀ e ∈ drain.rest, ∀ first, StagedBefore s first e →
    first.occurredAt < e.occurredAt → first ∈ publications s ∨ first ∈ drain.rest

theorem Queued.of_quiet {s : Relays} {phase : Phase} (quiet : drain? phase = none) : Queued s phase := by
  refine ⟨?_, ?_⟩
  · intro drain held
    rw [quiet] at held
    cases held
  · intro drain held
    rw [quiet] at held
    cases held

theorem publications_grow {before after : Relays} (growth : Grows before after) {e : Event}
    (published : e ∈ publications before) : e ∈ publications after := by
  obtain ⟨pair, member, same⟩ := List.mem_map.mp published
  exact List.mem_map.mpr ⟨pair, growth.acknowledged.subset member, same⟩

theorem Queued.grow {before after : Relays} {phase : Phase} (queued : Queued before phase) (sound : Sound before phase)
    (growth : Grows before after) (consistent : Consistent after) : Queued after phase := by
  refine ⟨queued.sorted, fun drain held e member first staged timed => ?_⟩
  have known := staged_back growth consistent (sound.rest drain held e member) staged
  exact (queued.covered drain held e member first known timed).imp_left (publications_grow growth)

section Batch
variable {table : List Row} {order : ScanOrder} {locked : String → Bool} {limit : Nat}

instance : Std.Total fun first second : Event => first.occurredAt ≤ second.occurredAt := ⟨fun _ _ => Int.le_total _ _⟩

instance : IsTrans Event fun first second => first.occurredAt ≤ second.occurredAt := ⟨fun _ _ _ => Int.le_trans⟩

theorem fetchUnpublished_sorted :
    (fetchUnpublished table order locked limit).Pairwise fun first second => first.occurredAt ≤ second.occurredAt :=
  (List.pairwise_insertionSort _ _).sublist (List.take_sublist _ _)

/-- An unlocked, unpublished row from before a fetched one is fetched too. -/
theorem fetchUnpublished_earlier {row : Row} {e : Event} (stored : row ∈ table) (unpublished : row.published = false)
    (free : locked row.event.id = false) (fetched : e ∈ fetchUnpublished table order locked limit)
    (timed : row.event.occurredAt < e.occurredAt) : row.event ∈ fetchUnpublished table order locked limit := by
  unfold fetchUnpublished at fetched ⊢
  have found : row.event ∈ ((order.visit table).filter fun row => !row.published && !locked row.event.id).map Row.event := by
    apply List.mem_map_of_mem
    rw [List.mem_filter]
    exact ⟨(order.perm table).mem_iff.mpr stored, by simp [unpublished, free]⟩
  generalize ((order.visit table).filter fun row => !row.published && !locked row.event.id).map Row.event = rows
    at fetched found ⊢
  have sorted := List.pairwise_insertionSort (fun first second : Event => first.occurredAt ≤ second.occurredAt) rows
  have listed := (List.perm_insertionSort (fun first second : Event => first.occurredAt ≤ second.occurredAt) rows).mem_iff.mpr found
  rw [← List.take_append_drop limit (rows.insertionSort _)] at sorted listed
  rcases List.mem_append.mp listed with taken | dropped
  · exact taken
  · have late := (List.pairwise_append.mp sorted).2.2 e fetched row.event dropped
    exact absurd timed (Int.not_lt.mpr late)

end Batch

/-! The invariant. -/

structure Ordered (s : Relays) : Prop where
  alone : ∀ r other, Open (s.relay r) → Open (s.relay other) → r = other
  held : ∀ held ∈ s.rowLocks, (drain? (s.relay held.1)).isSome
  queued : ∀ r, Queued s (s.relay r)
  known : ∀ e ∈ publications s, e ∈ events s.table
  precedes : ∀ first second, StagedBefore s first second → first.occurredAt < second.occurredAt →
    Precedes first second (publications s)

theorem ordered_start : Ordered Relays.start := by
  refine ⟨fun _ _ impossible => False.elim impossible, ?_, fun _ => Queued.of_quiet rfl, ?_, ?_⟩
  · intro held member
    cases member
  · intro e member
    cases member
  · intro first second _ _
    exact Precedes.of_absent List.not_mem_nil

theorem open_of_drain {phase : Phase} (held : (drain? phase).isSome) : Open phase := by
  cases phase <;> trivial

/-- While one relay is about to fetch, no row is locked. -/
theorem Ordered.unlocked {s : Relays} (ordered : Ordered s) {r token : Nat} (begun : s.relay r = .begun token)
    (id : String) : s.locked id = false := by
  have own : Open (s.relay r) := by rw [begun]; trivial
  simp only [Relays.locked, List.any_eq_false, decide_eq_true_eq]
  intro held member
  have drains := ordered.held held member
  have same := ordered.alone r held.1 own (open_of_drain drains)
  rw [← same, begun] at drains
  cases drains

/-- The locks of a transaction end with it. -/
theorem Ordered.held_leave {s : Relays} (ordered : Ordered s) (r : Nat) (phase : Phase) :
    ∀ held ∈ (s.leave r phase).rowLocks, (drain? ((s.leave r phase).relay held.1)).isSome := by
  intro held member
  obtain ⟨old, different⟩ := List.mem_filter.mp member
  dsimp only [Relays.leave, Relays.enter]
  rw [Function.update_of_ne (by simpa using different)]
  exact ordered.held held old

theorem Ordered.held_enter {s : Relays} (ordered : Ordered s) {r : Nat} {phase : Phase} (drains : (drain? phase).isSome) :
    ∀ held ∈ s.rowLocks, (drain? ((s.enter r phase).relay held.1)).isSome := by
  intro held member
  dsimp only [Relays.enter]
  by_cases same : held.1 = r
  · rwa [same, Function.update_self]
  · rw [Function.update_of_ne same]
    exact ordered.held held member

section Step
variable {opts : RelayOptions} {before after : Relays} {a : Action}

theorem Ordered.still_queued (ordered : Ordered before) (consistent : Consistent before) (later : Consistent after)
    (growth : Grows before after) (queued : ∀ r, after.relay r = before.relay r ∨ Queued after (after.relay r)) (r : Nat) :
    Queued after (after.relay r) := by
  rcases queued r with kept | new
  · rw [kept]
    exact (ordered.queued r).grow (consistent.relays r) growth later
  · exact new

/-- One relay moved, and nothing new was published. -/
theorem Ordered.quiet (ordered : Ordered before) (consistent : Consistent before) (later : Consistent after)
    (growth : Grows before after) (silent : after.acknowledged = before.acknowledged)
    (alone : ∀ r other, Open (after.relay r) → Open (after.relay other) → r = other)
    (held : ∀ held ∈ after.rowLocks, (drain? (after.relay held.1)).isSome)
    (queued : ∀ r, after.relay r = before.relay r ∨ Queued after (after.relay r)) : Ordered after := by
  have same : publications after = publications before := congrArg (List.map Prod.fst) silent
  refine ⟨alone, held, ordered.still_queued consistent later growth queued, ?_, ?_⟩
  · rw [same]
    exact fun e member => growth.rows.subset (ordered.known e member)
  · intro first second staged timed
    rw [same]
    by_cases published : second ∈ publications before
    · exact ordered.precedes first second (staged_back growth later (ordered.known second published) staged) timed
    · exact Precedes.of_absent published

/-- A relay that opens no transaction leaves at most one open. -/
theorem Ordered.alone_moved {r : Nat} {phase : Phase} (ordered : Ordered before) (opens_none : Open phase → Open (before.relay r))
    (moved : after.relay = Function.update before.relay r phase) :
    ∀ one other, Open (after.relay one) → Open (after.relay other) → one = other := by
  have was : ∀ one, Open (after.relay one) → Open (before.relay one) := by
    intro one now
    by_cases same : one = r
    · rw [moved, same, Function.update_self] at now
      rw [same]
      exact opens_none now
    · rwa [moved, Function.update_of_ne same] at now
  exact fun one other left right => ordered.alone one other (was one left) (was other right)

/-- A relay that opens its transaction while the others have none. -/
theorem alone_opened {r : Nat} {phase : Phase} (closed : ∀ other, other ≠ r → ¬ Open (before.relay other))
    (moved : after.relay = Function.update before.relay r phase) :
    ∀ one other, Open (after.relay one) → Open (after.relay other) → one = other := by
  have only : ∀ one, Open (after.relay one) → one = r := by
    intro one now
    by_contra different
    rw [moved, Function.update_of_ne different] at now
    exact closed one different now
  exact fun one other left right => (only one left).trans (only other right).symm

/-- A relay that holds no rows may enter any phase. -/
theorem Ordered.held_turn {r : Nat} (ordered : Ordered before) (quiet : drain? (before.relay r) = none) (phase : Phase) :
    ∀ held ∈ before.rowLocks, (drain? ((before.enter r phase).relay held.1)).isSome := by
  intro held member
  have drains := ordered.held held member
  have different : held.1 ≠ r := by
    intro same
    rw [same, quiet] at drains
    cases drains
  dsimp only [Relays.enter]
  rwa [Function.update_of_ne different]

theorem moved_queued {r : Nat} {phase : Phase} (moved : after.relay = Function.update before.relay r phase)
    (queued : Queued after phase) (other : Nat) : after.relay other = before.relay other ∨ Queued after (after.relay other) := by
  by_cases same : other = r
  · rw [moved, same, Function.update_self]
    exact Or.inr queued
  · rw [moved, Function.update_of_ne same]
    exact Or.inl rfl

/-- The next event of a batch: what was staged before it with an earlier time is published already. -/
theorem Queued.next {s : Relays} {phase : Phase} (queued : Queued s phase) {drain : Drain} (held : drain? phase = some drain)
    {e : Event} {rest : List Event} (next : drain.rest = e :: rest) {first : Event} (staged : StagedBefore s first e)
    (timed : first.occurredAt < e.occurredAt) : first ∈ publications s := by
  have sorted := queued.sorted drain held
  have covered := queued.covered drain held e (by rw [next]; exact List.mem_cons_self) first staged timed
  rw [next] at sorted covered
  rcases covered with published | waiting
  · exact published
  rcases List.mem_cons.mp waiting with rfl | later
  · exact absurd timed (Int.lt_irrefl _)
  · exact absurd timed (Int.not_lt.mpr (List.rel_of_pairwise_cons sorted later))

/-- The rest of a batch once its next event is published. -/
theorem Queued.advance {drain : Drain} {e : Event} {rest : List Event} (queued : Queued before (.publishing drain))
    (next : drain.rest = e :: rest) (grown : publications after = publications before ++ [e])
    (rows : after.table = before.table) : Queued after (.marking e { drain with rest }) := by
  have sorted := queued.sorted drain rfl
  have covered := queued.covered drain rfl
  rw [next] at sorted covered
  refine ⟨?_, ?_⟩
  · rintro _ ⟨⟩
    exact (List.pairwise_cons.mp sorted).2
  · rintro _ ⟨⟩ other member first staged timed
    rw [grown]
    unfold StagedBefore at staged
    rw [rows] at staged
    rcases covered other (List.mem_cons_of_mem e member) first staged timed with published | waiting
    · exact Or.inl (List.mem_append_left _ published)
    · rcases List.mem_cons.mp waiting with rfl | behind
      · exact Or.inl (List.mem_append_right _ (List.mem_singleton_self _))
      · exact Or.inr behind

/-- Of what was staged before a fetched event and has an earlier time, the rest is published already. -/
theorem Ordered.fetched {r token : Nat} {order : ScanOrder} {batch : List Event} (ordered : Ordered before)
    (consistent : Consistent before) (begun : before.relay r = .begun token)
    (found : fetchUnpublished before.table order before.locked opts.limit = batch) (rows : after.table = before.table)
    (silent : publications after = publications before) : Queued after (.publishing ⟨token, batch, batch, []⟩) := by
  refine ⟨?_, ?_⟩
  · rintro _ ⟨⟩
    rw [← found]
    exact fetchUnpublished_sorted
  · rintro _ ⟨⟩ e member first staged timed
    unfold StagedBefore at staged
    rw [rows] at staged
    rw [silent]
    obtain ⟨row, stored, rfl⟩ := List.mem_map.mp (staged.subset List.mem_cons_self)
    cases published : row.published with
    | true =>
      obtain ⟨now, acknowledged⟩ := consistent.published row stored published
      exact Or.inl (List.mem_map.mpr ⟨_, acknowledged, rfl⟩)
    | false =>
      dsimp only at member ⊢
      rw [← found] at member ⊢
      exact Or.inr (fetchUnpublished_earlier stored published (ordered.unlocked begun _) member timed)

/-- The next event of a batch is published after all that was staged before it with an earlier time. -/
theorem Ordered.publish {r : Nat} {drain : Drain} {e : Event} {rest : List Event} (ordered : Ordered before)
    (consistent : Consistent before) (later : Consistent after) (growth : Grows before after)
    (publishing : before.relay r = .publishing drain) (next : drain.rest = e :: rest)
    (moved : after.relay = Function.update before.relay r (.marking e { drain with rest }))
    (grown : publications after = publications before ++ [e]) (rows : after.table = before.table)
    (held : ∀ held ∈ after.rowLocks, (drain? (after.relay held.1)).isSome) : Ordered after := by
  have own : Open (before.relay r) := by rw [publishing]; trivial
  have sound := consistent.relays r
  have queued := ordered.queued r
  rw [publishing] at sound queued
  have advanced := moved_queued moved (queued.advance next grown rows)
  refine ⟨ordered.alone_moved (fun _ => own) moved, held, ordered.still_queued consistent later growth advanced, ?_, ?_⟩
  · intro other member
    rw [grown] at member
    rw [rows]
    rcases List.mem_append.mp member with old | new
    · exact ordered.known other old
    · rw [List.mem_singleton.mp new]
      exact sound.rest drain rfl e (by rw [next]; exact List.mem_cons_self)
  · intro first second staged timed
    unfold StagedBefore at staged
    rw [rows] at staged
    rw [grown]
    refine (ordered.precedes first second staged timed).concat ?_
    rintro rfl
    exact queued.next rfl next staged timed

theorem Ordered.move (ordered : Ordered before) (consistent : Consistent before) (guarded : Alone before a)
    (moves : Moves opts before a after) : Ordered after := by
  have growth := moves.grows
  have later := moves.consistent consistent
  cases moves with
  | locked => exact ordered.quiet consistent later growth rfl ordered.alone ordered.held fun _ => Or.inl rfl
  | staged => exact ordered.quiet consistent later growth rfl ordered.alone ordered.held fun _ => Or.inl rfl
  | @turned r phase lock _ quiet silent opened =>
    refine ordered.quiet consistent later growth rfl ?_ (ordered.held_turn quiet phase)
      (moved_queued rfl (Queued.of_quiet silent))
    by_cases open_ : Open phase
    · exact alone_opened (guarded r (opened open_)) rfl
    · exact ordered.alone_moved (fun opened => absurd opened open_) rfl
  | @left r phase _ closed =>
    refine ordered.quiet consistent later growth rfl (ordered.alone_moved (fun opened => absurd opened closed) rfl) ?_
      (moved_queued rfl (Queued.of_quiet (drain_of_not_open closed)))
    exact ordered.held_leave r phase
  | @fetched r token order _ begun batch found =>
    have own : Open (before.relay r) := by rw [begun]; trivial
    refine ordered.quiet consistent later growth rfl (ordered.alone_moved (fun _ => own) rfl) ?_
      (moved_queued rfl (ordered.fetched consistent begun found rfl rfl))
    intro held member
    rcases List.mem_append.mp member with old | new
    · exact ordered.held_enter rfl held old
    · obtain ⟨e, _, rfl⟩ := List.mem_map.mp new
      dsimp only [Relays.enter]
      rw [Function.update_self]
      rfl
  | @published r drain e rest now _ publishing next =>
    have grown : publications { before.enter r (.marking e { drain with rest }) with
        acknowledged := before.acknowledged ++ [(e, e.message now)] } = publications before ++ [e] := by
      simp [publications]
    exact ordered.publish consistent later growth publishing next rfl grown rfl (ordered.held_enter rfl)
  | @marked r drain e now _ marking =>
    have own : Open (before.relay r) := by rw [marking]; trivial
    have queued := ordered.queued r
    rw [marking] at queued
    refine ordered.quiet consistent later growth rfl (ordered.alone_moved (fun _ => own) rfl) (ordered.held_enter rfl)
      (moved_queued rfl ⟨?_, ?_⟩)
    · rintro _ ⟨⟩
      exact queued.sorted drain rfl
    · rintro _ ⟨⟩
      exact queued.covered drain rfl
  | @committed r drain _ _ =>
    exact ordered.quiet consistent later growth rfl (ordered.alone_moved False.elim rfl) (ordered.held_leave r _)
      (moved_queued rfl (Queued.of_quiet rfl))

end Step

/-! Whole runs. -/

theorem run_ordered {opts : RelayOptions} {actions : List Action}
    (alone : ∀ visit ∈ trace (Relays.step opts) Relays.start actions, Alone visit.1 visit.2) :
    Ordered (run (Relays.step opts) Relays.start actions) := by
  have both := run_of_guarded (fun s => Consistent s ∧ Ordered s) Alone
    (fun s a kept guarded => ⟨(step_moves opts s a).consistent kept.1, kept.2.move kept.1 guarded (step_moves opts s a)⟩)
    ⟨consistent_start, ordered_start⟩ alone
  exact both.2

/-- In a run in which no relay opens its transaction while another has one open,
an event is published before every event staged later with a later time. -/
theorem publications_in_order (opts : RelayOptions) (early late : List Action)
    (alone : ∀ visit ∈ trace (Relays.step opts) Relays.start (early ++ late), Alone visit.1 visit.2)
    (first second : Event) (staged : first ∈ events (run (Relays.step opts) Relays.start early).table)
    (unstaged : second ∉ events (run (Relays.step opts) Relays.start early).table)
    (timed : first.occurredAt < second.occurredAt) :
    Precedes first second (publications (run (Relays.step opts) Relays.start (early ++ late))) := by
  have ordered := run_ordered alone
  have growth := run_grows opts (run (Relays.step opts) Relays.start early) late
  rw [← run_append] at growth
  by_cases known : second ∈ events (run (Relays.step opts) Relays.start (early ++ late)).table
  · refine ordered.precedes first second ?_ timed
    obtain ⟨added, rows⟩ := growth.rows
    unfold StagedBefore
    rw [← rows] at known ⊢
    have new : second ∈ added := (List.mem_append.mp known).resolve_left unstaged
    exact (List.singleton_sublist.mpr staged).append (List.singleton_sublist.mpr new)
  · exact Precedes.of_absent fun published => known (ordered.known second published)

/-- One relay process never meets another one's transaction. -/
theorem alone_of_single {opts : RelayOptions} {only : Nat} {actions : List Action}
    (single : ∀ a ∈ actions, a.relay? = none ∨ a.relay? = some only) :
    ∀ visit ∈ trace (Relays.step opts) Relays.start actions, Alone visit.1 visit.2 := by
  have quiet : ∀ s : Relays, (∀ other, other ≠ only → s.relay other = .idle) →
      ∀ visit ∈ trace (Relays.step opts) s actions, Alone visit.1 visit.2 := by
    induction actions with
    | nil => simp [trace]
    | cons a rest ih =>
      intro s idle
      obtain ⟨here, later⟩ := List.forall_mem_cons.mp single
      refine List.forall_mem_cons.mpr ⟨?_, ih later _ ?_⟩
      · rintro r rfl other different
        obtain none_ | same := here
        · cases none_
        · cases same
          rw [idle other different]
          exact id
      · intro other different
        rw [(step_moves opts s a).others, idle other different]
        rcases here with none_ | same
        · simp [none_]
        · simp [same, Ne.symm different]
  exact quiet _ fun _ _ => rfl

/-! Two members join room r1 one after the other. -/

def joined (id : String) (occurredAt : Time) : Event :=
  { id, aggregateID := "r1", topic := "room.joined.v1", key := "r1", payload := [], headers := [], occurredAt, version := "v1" }

def drains (r : Nat) : List Action := [.acquire r r none, .begin r none, .fetch r .stored none]

def publishes (r : Nat) (now : Time) : List Action := [.publish r now none, .mark r now none]

def oneRelay : List Action :=
  .stage [joined "e2" 2000] :: drains 0 ++ publishes 0 3000 ++ publishes 0 3000 ++ [.commit 0 none]

theorem single_relay_in_order :
    publications (run (Relays.step {}) Relays.start ([.stage [joined "e1" 1000]] ++ oneRelay)) =
        [joined "e1" 1000, joined "e2" 2000] ∧
      Precedes (joined "e1" 1000) (joined "e2" 2000)
        (publications (run (Relays.step {}) Relays.start ([.stage [joined "e1" 1000]] ++ oneRelay))) :=
  ⟨by decide +kernel, publications_in_order {} _ _ (@alone_of_single _ 0 _ (by decide +kernel)) _ _ (by decide +kernel)
    (by decide +kernel) (by decide +kernel)⟩

/-- The lease runs out while the first relay has its row locked, and the second
one, which skips that row, publishes the later event first. -/
theorem overlapping_relays_reorder :
    ¬ ∀ (opts : RelayOptions) (early late : List Action) (first second : Event), first.aggregateID = second.aggregateID →
        first ∈ events (run (Relays.step opts) Relays.start early).table →
        second ∉ events (run (Relays.step opts) Relays.start early).table →
        Precedes first second (publications (run (Relays.step opts) Relays.start (early ++ late))) := by
  intro claim
  have precedes := claim {} (.stage [joined "e1" 1000] :: drains 0)
    (.expire :: .stage [joined "e2" 2000] :: drains 1 ++ publishes 1 3000 ++ publishes 0 4000)
    (joined "e1" 1000) (joined "e2" 2000) rfl (by decide +kernel) (by decide +kernel)
  have first := precedes [] [joined "e1" 1000] (by decide +kernel)
  cases first

end VibeSync.Proofs.OutboxOrder
