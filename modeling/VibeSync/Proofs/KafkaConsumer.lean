import VibeSync.Kafka.Consumer
import VibeSync.Machine
import VibeSync.Proofs.KafkaIdempotency

/-! What a committed offset says about the messages it covers, over any sequence
of failures, restarts and redeliveries. -/

namespace VibeSync.Proofs.KafkaConsumer
open VibeSync.Kafka Machine KafkaIdempotency

/-- The event of a delivery, as the store names it. -/
def eventKey (log : Log) (delivery : Nat × Nat) : Option String :=
  ((log delivery.1)[delivery.2]?).map fun msg => idempotencyKey msg.topic (eventID msg)

/-- A repeat sighting: the event was marked by some delivery before. -/
def Repeats (log : Log) (c : Consumer) (delivery : Nat × Nat) : Prop :=
  delivery ∈ c.repeated ∧ ∃ first ∈ c.marked, eventKey log first = eventKey log delivery

def Settled (log : Log) (c : Consumer) (delivery : Nat × Nat) : Prop := delivery ∈ c.handled ∨ Repeats log c delivery

/-- No commit passes over a delivery that failed since the last restart. -/
def Orderly (c : Consumer) (event : Consumer.Event) : Prop :=
  match event, c.phase with
  | .commit none, .returned partition offset => ∀ lower < offset, (partition, lower) ∉ c.failed
  | _, _ => True

instance (c : Consumer) (event : Consumer.Event) : Decidable (Orderly c event) := by
  unfold Orderly
  split <;> infer_instance

def Phase.current : Phase → Option (Nat × Nat)
  | .idle => none
  | .fetched partition offset | .calling partition offset | .returned partition offset => some (partition, offset)

structure Accounted (log : Log) (c : Consumer) : Prop where
  covered : ∀ partition offset, offset < c.committed partition → Settled log c (partition, offset)
  delivered : ∀ partition offset, offset < c.position partition →
    Settled log c (partition, offset) ∨ (partition, offset) ∈ c.failed ∨ Phase.current c.phase = some (partition, offset)
  fetched : ∀ partition offset, Phase.current c.phase = some (partition, offset) → offset < c.position partition
  returned : ∀ partition offset, c.phase = .returned partition offset → Settled log c (partition, offset)
  stored : ∀ key ∈ c.kv, ∃ first ∈ c.marked, eventKey log first = some key

theorem accounted_start (log : Log) : Accounted log .start := by
  refine ⟨fun _ _ covered => ?_, fun _ _ delivered => ?_, fun _ _ fetched => ?_, fun _ _ returned => ?_, fun _ known => ?_⟩
  · exact absurd covered (Nat.not_lt_zero _)
  · exact absurd delivered (Nat.not_lt_zero _)
  · cases fetched
  · cases returned
  · cases known

/-- Records of deliveries only grow. -/
structure Records (before after : Consumer) : Prop where
  handled : before.handled ⊆ after.handled
  repeated : before.repeated ⊆ after.repeated
  marked : before.marked ⊆ after.marked

theorem Records.of_eq {before after : Consumer} (handled : after.handled = before.handled)
    (repeated : after.repeated = before.repeated) (marked : after.marked = before.marked) : Records before after := by
  refine ⟨?_, ?_, ?_⟩
  · rw [handled]
    exact List.Subset.refl _
  · rw [repeated]
    exact List.Subset.refl _
  · rw [marked]
    exact List.Subset.refl _

theorem Settled.mono {log : Log} {before after : Consumer} (records : Records before after) {delivery : Nat × Nat}
    (settled : Settled log before delivery) : Settled log after delivery := by
  obtain handled | ⟨repeated, first, marked, same⟩ := settled
  · exact Or.inl (records.handled handled)
  · exact Or.inr ⟨records.repeated repeated, first, records.marked marked, same⟩

/-! One delivery. -/

def errorOf : Except Err Unit → Option Err
  | .ok _ => none
  | .error err => some err

/-- The phases of a delivery come to what the wrapped handler returns and stores. -/
theorem delivery_middleware {log : Log} {c : Consumer} {partition offset : Nat} {msg : Message}
    (phase : c.phase = .fetched partition offset) (found : (log partition)[offset]? = some msg) (unavailable : Option Err)
    (next : Message → Except Err Unit) :
    (run (Consumer.step log) c [.dedupe unavailable, .handle (errorOf (next msg))]).kv =
        (idempotencyMiddleware next c.kv unavailable msg).2 ∧
      ((run (Consumer.step log) c [.dedupe unavailable, .handle (errorOf (next msg))]).phase = .returned partition offset ↔
        (idempotencyMiddleware next c.kv unavailable msg).1 = .ok ()) := by
  simp only [run, List.foldl_cons, List.foldl_nil, Consumer.step, phase, Consumer.dedupe, found, idempotencyMiddleware]
  obtain unmarked | marked | ⟨again, _⟩ := sight_cases c.kv unavailable msg
  · cases next msg <;> simp [unmarked, errorOf]
  · cases next msg <;> simp [marked, errorOf]
  · simp [again]

namespace Accounted
variable {log : Log} {c : Consumer} (accounted : Accounted log c)
include accounted

/-- Between two messages, every delivery of the session succeeded, repeated or failed. -/
theorem between (idle : c.phase = .idle) {partition offset : Nat} (delivered : offset < c.position partition) :
    Settled log c (partition, offset) ∨ (partition, offset) ∈ c.failed := by
  obtain settled | failed | current := accounted.delivered partition offset delivered
  · exact Or.inl settled
  · exact Or.inr failed
  · rw [idle] at current
    cases current

theorem fetch (idle : c.phase = .idle) (partition : Nat) : Accounted log (c.fetch log partition) := by
  have extended : ∀ other offset, offset < Function.update c.position partition (c.position partition + 1) other →
      offset < c.position other ∨ (partition, c.position partition) = (other, offset) := by
    intro other offset delivered
    by_cases here : other = partition
    · subst here
      rw [Function.update_self, Nat.lt_succ_iff_lt_or_eq] at delivered
      exact delivered.imp id fun last => by rw [last]
    · rw [Function.update_of_ne here] at delivered
      exact Or.inl delivered
  unfold Consumer.fetch
  split
  · refine ⟨accounted.covered, ?_, ?_, ?_, accounted.stored⟩
    · intro other offset delivered
      obtain before | current := extended other offset delivered
      · exact (accounted.between idle before).imp id Or.inl
      · exact Or.inr (Or.inr (congrArg some current))
    · intro other offset current
      cases current
      dsimp only
      rw [Function.update_self]
      exact Nat.lt_succ_self _
    · intro other offset returned
      cases returned
  · exact accounted

/-- A step that keeps the offsets and settles, fails or keeps the delivery at hand. -/
theorem advance {after : Consumer} (records : Records c after) (committed : after.committed = c.committed)
    (position : after.position = c.position) (failed : c.failed ⊆ after.failed)
    (moves : ∀ delivery, Phase.current c.phase = some delivery → Settled log after delivery ∨ delivery ∈ after.failed ∨
      Phase.current after.phase = some delivery)
    (fetched : ∀ delivery, Phase.current after.phase = some delivery → Phase.current c.phase = some delivery)
    (returned : ∀ partition offset, after.phase = .returned partition offset → Settled log after (partition, offset))
    (stored : ∀ key ∈ after.kv, ∃ first ∈ after.marked, eventKey log first = some key) : Accounted log after := by
  refine ⟨?_, ?_, ?_, returned, stored⟩
  · intro partition offset covered
    rw [committed] at covered
    exact (accounted.covered partition offset covered).mono records
  · intro partition offset delivered
    rw [position] at delivered
    obtain settled | lost | current := accounted.delivered partition offset delivered
    · exact Or.inl (settled.mono records)
    · exact Or.inr (Or.inl (failed lost))
    · exact moves _ current
  · intro partition offset current
    rw [position]
    exact accounted.fetched partition offset (fetched _ current)

/-- The delivery at hand moves on to its next phase. -/
theorem carry {after : Consumer} (records : Records c after) (committed : after.committed = c.committed)
    (position : after.position = c.position) (failed : after.failed = c.failed)
    (same : Phase.current after.phase = Phase.current c.phase)
    (returned : ∀ partition offset, after.phase = .returned partition offset → Settled log after (partition, offset))
    (stored : ∀ key ∈ after.kv, ∃ first ∈ after.marked, eventKey log first = some key) : Accounted log after := by
  refine accounted.advance records committed position (failed ▸ List.Subset.refl _) ?_ ?_ returned stored
  · exact fun delivery held => Or.inr (Or.inr (same.trans held))
  · exact fun delivery held => same.symm.trans held

/-- The loop is done with the delivery at hand. -/
theorem finish {after : Consumer} (records : Records c after) (committed : after.committed = c.committed)
    (position : after.position = c.position) (failed : c.failed ⊆ after.failed) (idle : after.phase = .idle)
    (done : ∀ delivery, Phase.current c.phase = some delivery → Settled log after delivery ∨ delivery ∈ after.failed)
    (stored : ∀ key ∈ after.kv, ∃ first ∈ after.marked, eventKey log first = some key) : Accounted log after := by
  refine accounted.advance records committed position failed ?_ ?_ ?_ stored
  · exact fun delivery held => (done delivery held).imp id Or.inl
  · rw [idle]
    exact fun delivery held => by cases held
  · rw [idle]
    exact fun _ _ returned => by cases returned

theorem dedupe {partition offset : Nat} (phase : c.phase = .fetched partition offset) (unavailable : Option Err) :
    Accounted log (c.dedupe log partition offset unavailable) := by
  have current : some (partition, offset) = Phase.current c.phase := by rw [phase]; rfl
  unfold Consumer.dedupe
  split
  · exact accounted
  next msg found =>
    have key : eventKey log (partition, offset) = some (idempotencyKey msg.topic (eventID msg)) := by
      simp only [eventKey, found, Option.map_some]
    obtain unmarked | marked | ⟨again, known⟩ := sight_cases c.kv unavailable msg
    · simp only [unmarked, ↓reduceIte]
      exact accounted.carry (.of_eq rfl rfl rfl) rfl rfl rfl current (fun _ _ returned => by cases returned) accounted.stored
    · have fresh : (idempotencyKey msg.topic (eventID msg) :: c.kv) ≠ c.kv := List.cons_ne_self _ _
      simp only [marked, if_neg fresh]
      refine accounted.carry ⟨List.Subset.refl _, List.Subset.refl _, List.subset_cons_self _ _⟩ rfl rfl rfl current
        (fun _ _ returned => by cases returned) ?_
      intro other member
      obtain rfl | older := List.mem_cons.mp member
      · exact ⟨_, List.mem_cons_self, key⟩
      · obtain ⟨first, before, same⟩ := accounted.stored other older
        exact ⟨first, List.mem_cons_of_mem _ before, same⟩
    · simp only [again]
      obtain ⟨first, before, same⟩ := accounted.stored _ known
      refine accounted.carry ⟨List.Subset.refl _, List.subset_cons_self _ _, List.Subset.refl _⟩ rfl rfl rfl current ?_ accounted.stored
      intro _ _ returned
      cases returned
      exact Or.inr ⟨List.mem_cons_self, first, before, same.trans key.symm⟩

theorem handle {partition offset : Nat} (phase : c.phase = .calling partition offset) (err : Option Err) :
    Accounted log (c.step log (.handle err)) := by
  have current : some (partition, offset) = Phase.current c.phase := by rw [phase]; rfl
  simp only [Consumer.step, phase]
  split
  · refine accounted.carry ⟨List.subset_cons_self _ _, List.Subset.refl _, List.Subset.refl _⟩ rfl rfl rfl current ?_ accounted.stored
    intro _ _ returned
    cases returned
    exact Or.inl List.mem_cons_self
  · refine accounted.finish (.of_eq rfl rfl rfl) rfl rfl (List.subset_cons_self _ _) rfl ?_ accounted.stored
    intro delivery held
    obtain rfl := Option.some.inj (current.trans held)
    exact Or.inr List.mem_cons_self

theorem commit {partition offset : Nat} (phase : c.phase = .returned partition offset) (err : Option Err)
    (orderly : Orderly c (.commit err)) : Accounted log (c.step log (.commit err)) := by
  have current : Phase.current c.phase = some (partition, offset) := by rw [phase]; rfl
  have settled := accounted.returned partition offset phase
  have idled : Accounted log { c with phase := .idle } := by
    refine accounted.finish (.of_eq rfl rfl rfl) rfl rfl (List.Subset.refl _) rfl ?_ accounted.stored
    intro delivery held
    obtain rfl := Option.some.inj (current.symm.trans held)
    exact Or.inl settled
  simp only [Consumer.step, phase]
  cases err with
  | some err => exact idled
  | none =>
    simp only [Orderly, phase] at orderly
    refine ⟨?_, idled.delivered, idled.fetched, idled.returned, accounted.stored⟩
    intro other lower covered
    by_cases here : other = partition
    · subst here
      have below : lower < offset + 1 := lt_of_lt_of_eq covered (Function.update_self ..)
      obtain before | rfl := Nat.lt_succ_iff_lt_or_eq.mp below
      · have delivered := Nat.lt_trans before (accounted.fetched other offset current)
        exact (idled.between rfl delivered).resolve_right (orderly lower before)
      · exact settled
    · exact accounted.covered other lower (lt_of_lt_of_eq covered (Function.update_of_ne here ..))

theorem restart : Accounted log (c.step log .restart) := by
  refine ⟨accounted.covered, fun partition offset delivered => Or.inl (accounted.covered partition offset delivered), ?_, ?_,
    accounted.stored⟩
  · exact fun _ _ current => by cases current
  · exact fun _ _ returned => by cases returned

theorem expire (key : String) : Accounted log (c.step log (.expire key)) := by
  refine ⟨accounted.covered, accounted.delivered, accounted.fetched, accounted.returned, ?_⟩
  exact fun other known => accounted.stored other (List.mem_of_mem_filter known)

theorem step (event : Consumer.Event) (orderly : Orderly c event) : Accounted log (c.step log event) := by
  cases event with
  | fetch partition =>
    cases phase : c.phase with
    | idle =>
      simp only [Consumer.step, phase]
      exact accounted.fetch phase partition
    | _ =>
      simp only [Consumer.step, phase]
      exact accounted
  | dedupe unavailable =>
    cases phase : c.phase with
    | fetched partition offset =>
      simp only [Consumer.step, phase]
      exact accounted.dedupe phase unavailable
    | _ =>
      simp only [Consumer.step, phase]
      exact accounted
  | handle err =>
    cases phase : c.phase with
    | calling partition offset => exact accounted.handle phase err
    | _ =>
      simp only [Consumer.step, phase]
      exact accounted
  | commit err =>
    cases phase : c.phase with
    | returned partition offset => exact accounted.commit phase err orderly
    | _ =>
      simp only [Consumer.step, phase]
      exact accounted
  | restart => exact accounted.restart
  | expire key => exact accounted.expire key

end Accounted

/-- A committed offset covers only messages that the inner handler finished or
that repeat an event marked before, as long as no failure is passed over. -/
theorem committed_settled (log : Log) {events : List Consumer.Event}
    (orderly : ∀ visit ∈ trace (Consumer.step log) .start events, Orderly visit.1 visit.2) (partition offset : Nat)
    (covered : offset < (run (Consumer.step log) .start events).committed partition) :
    Settled log (run (Consumer.step log) .start events) (partition, offset) := by
  have accounted : Accounted log (run (Consumer.step log) .start events) := by
    apply run_of_guarded (Accounted log) Orderly
    · exact fun c event accounted orderly => accounted.step event orderly
    · exact accounted_start log
    · exact orderly
  exact accounted.covered partition offset covered

/-! A message whose handler fails once, in a process that goes on to another
partition before it is restarted. -/

def created : Message := ⟨"room.created.v1", 0, 0, "room-1", fun name => if name = "event-id" then some "e1" else none⟩

def onePartition : Log := fun partition => if partition = 0 then [created] else []

def other : Message := ⟨"room.created.v1", 1, 0, "room-2", fun name => if name = "event-id" then some "e2" else none⟩

def twoPartitions : Log := fun partition => if partition = 0 then [created] else if partition = 1 then [other] else []

def passedOver : List Consumer.Event :=
  [.fetch 1, .dedupe none, .handle (some (.plain "connection refused")), .fetch 0, .dedupe none, .handle none, .commit none,
    .restart, .fetch 1, .dedupe none, .commit none]

theorem failure_settled :
    (1, 0) ∉ (run (Consumer.step twoPartitions) .start passedOver).handled ∧
      Settled twoPartitions (run (Consumer.step twoPartitions) .start passedOver) (0, 0) ∧
      Settled twoPartitions (run (Consumer.step twoPartitions) .start passedOver) (1, 0) := by
  have orderly : ∀ visit ∈ trace (Consumer.step twoPartitions) .start passedOver, Orderly visit.1 visit.2 := by decide +kernel
  exact ⟨by decide +kernel, committed_settled twoPartitions orderly 0 0 (by decide +kernel),
    committed_settled twoPartitions orderly 1 0 (by decide +kernel)⟩

def failedOnce : List Consumer.Event :=
  [.fetch 0, .dedupe none, .handle (some (.plain "connection refused")), .restart, .fetch 0, .dedupe none, .commit none]

theorem failed_event_committed :
    ¬ ∀ (log : Log) (events : List Consumer.Event) (partition offset : Nat),
        offset < (run (Consumer.step log) .start events).committed partition →
          (partition, offset) ∈ (run (Consumer.step log) .start events).handled := by
  intro claim
  exact absurd (claim onePartition failedOnce 0 0 (by decide +kernel)) (by decide +kernel)

end VibeSync.Proofs.KafkaConsumer
