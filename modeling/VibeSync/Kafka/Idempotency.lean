import VibeSync.Errors

/-! The idempotency middleware of the Kafka consumers (`libs/kafka`). The store
is the set of its keys; what a call to it came to is an argument. -/

namespace VibeSync.Kafka

structure Message where
  topic : String
  partition : Nat
  offset : Nat
  key : String
  headers : String → Option String

def headerEventID : String := "event-id"

/-- A missing header reads as the empty string. -/
def Message.header (msg : Message) (name : String) : String := (msg.headers name).getD ""

def eventID (msg : Message) : String :=
  if msg.header headerEventID ≠ "" then msg.header headerEventID else msg.key

def idempotencyKey (topic eventID : String) : String := "idem:" ++ topic ++ ":" ++ eventID

abbrev KV : Type := List String

/-- `true` when the key was not there before. -/
def KV.setNX (kv : KV) (key : String) : Bool × KV := if key ∈ kv then (false, kv) else (true, key :: kv)

inductive Sighting where
  | call | shortCircuit
  deriving DecidableEq, Repr

/-- Whether the inner handler is called. An unavailable store fails open. -/
def sight (kv : KV) (unavailable : Option Err) (msg : Message) : Sighting × KV :=
  if eventID msg = "" then (.call, kv)
  else if unavailable.isSome then (.call, kv)
  else
    let (first, marked) := kv.setNX (idempotencyKey msg.topic (eventID msg))
    if first then (.call, marked) else (.shortCircuit, marked)

/-- The wrapped handler: its result and the store after it. -/
def idempotencyMiddleware (next : Message → Except Err Unit) (kv : KV) (unavailable : Option Err) (msg : Message) :
    Except Err Unit × KV :=
  match sight kv unavailable msg with
  | (.call, marked) => (next msg, marked)
  | (.shortCircuit, marked) => (.ok (), marked)

end VibeSync.Kafka
