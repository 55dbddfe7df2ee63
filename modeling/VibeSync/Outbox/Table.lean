import Mathlib.Data.List.Sort
import VibeSync.Errors
import VibeSync.JsonObject

/-! The transactional outbox (`libs/outbox`) and its table: events staged beside
a domain write, fetched by a relay and marked once they are published. -/

namespace VibeSync.Outbox

structure Event where
  id : String
  aggregateID : String
  topic : String
  key : String
  payload : JsonObject
  headers : List (String × String)
  occurredAt : Time
  version : String
  deriving DecidableEq, Repr

/-- A row of the table: the columns of its event and the two that a relay sets. -/
structure Row where
  event : Event
  published : Bool
  publishedAt : Option Time
  deriving DecidableEq, Repr

/-- A `timestamptz` column keeps microseconds. -/
def timestamptz (t : Time) : Time := t / 1000 * 1000

def Event.row (e : Event) : Row :=
  { event := { e with key := if e.key = "" then e.aggregateID else e.key, occurredAt := timestamptz e.occurredAt }
    published := false, publishedAt := none }

def appendFrom (i : Nat) (table : List Row) : List Event → Except Err (List Row)
  | [] => .ok table
  | e :: rest =>
    if e.topic = "" then .error (.plain ("outbox: event " ++ toString i ++ " missing topic"))
    else if table.any fun row => row.event.id = e.id then
      .error (.wrapped ("outbox: insert event " ++ toString i) (.uniqueViolation "outbox_pkey"))
    else appendFrom (i + 1) (table ++ [e.row]) rest

def append (table : List Row) (events : List Event) : Except Err (List Row) := appendFrom 0 table events

/-- The order in which one scan finds the rows. -/
structure ScanOrder where
  visit : List Row → List Row
  perm : ∀ rows, (visit rows).Perm rows

def ScanOrder.stored : ScanOrder := ⟨id, List.Perm.refl⟩

/-- `ORDER BY occurred_at LIMIT $1 FOR UPDATE SKIP LOCKED`: rows with the same
time come in the order of the scan. -/
def fetchUnpublished (table : List Row) (order : ScanOrder) (locked : String → Bool) (limit : Nat) : List Event :=
  ((((order.visit table).filter fun row => !row.published && !locked row.event.id).map Row.event).insertionSort
    fun first second => first.occurredAt ≤ second.occurredAt).take limit

def markPublished (table : List Row) (id : String) (now : Time) : List Row :=
  table.map fun row =>
    if row.event.id = id then { row with published := true, publishedAt := some (timestamptz now) } else row

/-! The Kafka message of an event. -/

structure Message where
  topic : String
  key : String
  value : JsonObject
  /-- The first entry of a name counts. -/
  headers : List (String × String)
  timestamp : Time
  deriving DecidableEq, Repr

/-- The event's own headers replace the standard ones. -/
def eventHeaders (e : Event) : List (String × String) :=
  e.headers ++ [("schema-version", e.version), ("event-id", e.id), ("aggregate-id", e.aggregateID)]

/-- The message that `Publish` hands to the producer. -/
def Event.message (e : Event) (now : Time) : Message :=
  { topic := e.topic, key := if e.key = "" then e.aggregateID else e.key, value := e.payload,
    headers := eventHeaders e, timestamp := if e.occurredAt = zeroTime then now else e.occurredAt }

end VibeSync.Outbox
