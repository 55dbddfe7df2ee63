import Mathlib.Data.List.Basic
import VibeSync.Kafka.Idempotency

/-! Which messages the idempotency middleware keeps from the handler. -/

namespace VibeSync.Proofs.KafkaIdempotency
open VibeSync.Kafka

/-- The store after the messages have passed, with no call to it failing. -/
def passed (next : Message → Except Err Unit) (messages : List Message) : KV :=
  messages.foldl (fun kv msg => (idempotencyMiddleware next kv none msg).2) []

def ShortCircuited (kv : KV) (msg : Message) : Prop := (sight kv none msg).1 = .shortCircuit

/-- No topic holds the separator of the store's keys. -/
def PlainTopic (msg : Message) : Prop := ':' ∉ msg.topic.toList

instance : DecidablePred PlainTopic := fun _ => inferInstanceAs (Decidable (¬ _))

instance (kv : KV) (msg : Message) : Decidable (ShortCircuited kv msg) := inferInstanceAs (Decidable (_ = _))

/-- Two texts that agree agree up to their first separator. -/
theorem separated_inj {first second rest rest' : List Char} {separator : Char} (plain : separator ∉ first)
    (plain' : separator ∉ second) (same : first ++ separator :: rest = second ++ separator :: rest') :
    first = second ∧ rest = rest' := by
  obtain ⟨gap, rfl, shift⟩ | ⟨gap, rfl, shift⟩ := List.append_eq_append_iff.mp same
  · cases gap with
    | nil => exact ⟨(List.append_nil first).symm, by simpa using shift⟩
    | cons head tail => simp_all
  · cases gap with
    | nil => exact ⟨List.append_nil second, by simpa using shift.symm⟩
    | cons head tail => simp_all

theorem idempotencyKey_inj {topic topic' id id' : String} (plain : ':' ∉ topic.toList) (plain' : ':' ∉ topic'.toList)
    (same : idempotencyKey topic id = idempotencyKey topic' id') : topic = topic' ∧ id = id' := by
  have chars := congrArg String.toList same
  simp only [idempotencyKey, String.toList_append, List.append_assoc, List.append_right_inj] at chars
  obtain ⟨topics, ids⟩ := separated_inj plain plain' chars
  exact ⟨String.toList_injective topics, String.toList_injective ids⟩

theorem middleware_kv (next : Message → Except Err Unit) (kv : KV) (unavailable : Option Err) (msg : Message) :
    (idempotencyMiddleware next kv unavailable msg).2 = (sight kv unavailable msg).2 := by
  unfold idempotencyMiddleware
  split
  next sighted => rw [sighted]
  next sighted => rw [sighted]

theorem mem_setNX {kv : KV} {key other : String} : other ∈ (kv.setNX key).2 ↔ other = key ∨ other ∈ kv := by
  unfold KV.setNX
  split
  next marked =>
    refine ⟨Or.inr, ?_⟩
    rintro (rfl | known)
    · exact marked
    · exact known
  · exact List.mem_cons

/-- The outcomes of a sighting: the handler is called, with the event newly marked or
not looked up, or a marked event is short-circuited. -/
theorem sight_cases (kv : KV) (unavailable : Option Err) (msg : Message) :
    sight kv unavailable msg = (.call, kv) ∨
      sight kv unavailable msg = (.call, idempotencyKey msg.topic (eventID msg) :: kv) ∨
      sight kv unavailable msg = (.shortCircuit, kv) ∧ idempotencyKey msg.topic (eventID msg) ∈ kv := by
  unfold sight KV.setNX
  split
  · exact Or.inl rfl
  split
  · exact Or.inl rfl
  by_cases marked : idempotencyKey msg.topic (eventID msg) ∈ kv
  · simp [marked]
  · simp [marked]

theorem sight_shortCircuits_iff {kv : KV} {msg : Message} :
    ShortCircuited kv msg ↔ eventID msg ≠ "" ∧ idempotencyKey msg.topic (eventID msg) ∈ kv := by
  unfold ShortCircuited sight KV.setNX
  by_cases anonymous : eventID msg = ""
  · simp [anonymous]
  · by_cases marked : idempotencyKey msg.topic (eventID msg) ∈ kv
    · simp [anonymous, marked]
    · simp [anonymous, marked]

/-- A message with an event id marks its key; a message without one leaves no trace. -/
theorem mem_sight {kv : KV} {msg : Message} {key : String} :
    key ∈ (sight kv none msg).2 ↔ key ∈ kv ∨ (eventID msg ≠ "" ∧ key = idempotencyKey msg.topic (eventID msg)) := by
  have marked := @mem_setNX kv (idempotencyKey msg.topic (eventID msg)) key
  unfold sight
  by_cases anonymous : eventID msg = ""
  · simp [anonymous]
  · dsimp only
    rw [if_neg anonymous, if_neg (by simp)]
    split <;> simp [anonymous, marked, or_comm]

theorem mem_passed {next : Message → Except Err Unit} {messages : List Message} {key : String} :
    key ∈ passed next messages ↔
      ∃ msg ∈ messages, eventID msg ≠ "" ∧ key = idempotencyKey msg.topic (eventID msg) := by
  unfold passed
  have fold : ∀ kv : KV, key ∈ messages.foldl (fun kv msg => (idempotencyMiddleware next kv none msg).2) kv ↔
      key ∈ kv ∨ ∃ msg ∈ messages, eventID msg ≠ "" ∧ key = idempotencyKey msg.topic (eventID msg) := by
    induction messages with
    | nil => simp
    | cons msg rest ih =>
      intro kv
      rw [List.foldl_cons, ih, middleware_kv, mem_sight, or_assoc]
      simp only [List.exists_mem_cons_iff]
  simpa using fold []

/-- A message is kept from the handler exactly when an earlier one of its topic
had its event id, be it a header or a message key. -/
theorem shortCircuited_iff (next : Message → Except Err Unit) {earlier : List Message} {msg : Message}
    (plain : ∀ other ∈ msg :: earlier, PlainTopic other) :
    ShortCircuited (passed next earlier) msg ↔
      eventID msg ≠ "" ∧ ∃ other ∈ earlier, other.topic = msg.topic ∧ eventID other = eventID msg := by
  obtain ⟨here, before⟩ := List.forall_mem_cons.mp plain
  rw [sight_shortCircuits_iff, mem_passed]
  refine and_congr_right fun named => ⟨?_, ?_⟩
  · rintro ⟨other, member, _, same⟩
    obtain ⟨topic, id⟩ := idempotencyKey_inj here (before other member) same
    exact ⟨other, member, topic.symm, id.symm⟩
  · rintro ⟨other, member, topic, id⟩
    exact ⟨other, member, id ▸ named, by rw [topic, id]⟩

/-! Two events of one room whose producer sets no `event-id` header. -/

/-- The same event by the header, or the same place in the topic without one. -/
def SameIdentity (other msg : Message) : Prop :=
  if msg.header headerEventID ≠ "" then other.header headerEventID = msg.header headerEventID
  else other.header headerEventID = "" ∧ other.partition = msg.partition ∧ other.offset = msg.offset

def roomEvent (offset : Nat) : Message := ⟨"room.updated.v1", 0, offset, "room-1", fun _ => none⟩

theorem second_room_event_dropped : ShortCircuited (passed (fun _ => .ok ()) [roomEvent 0]) (roomEvent 1) :=
  (shortCircuited_iff (fun _ => .ok ()) (by decide +kernel)).mpr ⟨by decide, roomEvent 0, by simp, rfl, rfl⟩

theorem different_events_suppress :
    ¬ ∀ (next : Message → Except Err Unit) (earlier : List Message) (msg : Message),
        (∀ other ∈ msg :: earlier, PlainTopic other) → ShortCircuited (passed next earlier) msg →
          ∃ other ∈ earlier, other.topic = msg.topic ∧ SameIdentity other msg := by
  intro claim
  obtain ⟨other, member, _, same⟩ := claim (fun _ => .ok ()) [roomEvent 0] (roomEvent 1) (by decide +kernel) (by decide +kernel)
  obtain rfl := List.mem_singleton.mp member
  rw [SameIdentity, if_neg (by decide)] at same
  exact absurd same.2.2 (by decide)

end VibeSync.Proofs.KafkaIdempotency
