import Mathlib.Logic.Function.Basic
import VibeSync.Kafka.Idempotency

/-! One consumer of a group: the loop of `Consumer.Run` around the middleware,
cut where it waits for others, with the group's offsets and the store it shares
with them. The partitions it reads are fixed lists of messages. -/

namespace VibeSync.Kafka

abbrev Log : Type := Nat → List Message

/-- Where the loop stands with the message it fetched. -/
inductive Phase where
  | idle
  | fetched (partition offset : Nat)
  | calling (partition offset : Nat)
  | returned (partition offset : Nat)
  deriving DecidableEq, Repr

structure Consumer where
  phase : Phase
  /-- The next offset that `FetchMessage` hands out. -/
  position : Nat → Nat
  /-- The group resumes here: every lower offset is covered. -/
  committed : Nat → Nat
  kv : KV
  /-- Deliveries for which the inner handler returned nil. No step reads these records. -/
  handled : List (Nat × Nat)
  /-- Deliveries that the middleware short-circuited. -/
  repeated : List (Nat × Nat)
  /-- Deliveries that first marked their event. -/
  marked : List (Nat × Nat)
  /-- Deliveries that failed since the last restart. -/
  failed : List (Nat × Nat)

namespace Consumer

def start : Consumer := ⟨.idle, fun _ => 0, fun _ => 0, [], [], [], [], []⟩

inductive Event where
  | fetch (partition : Nat)
  | dedupe (unavailable : Option Err)
  | handle (err : Option Err)
  | commit (err : Option Err)
  | restart
  | expire (key : String)

def fetch (log : Log) (c : Consumer) (partition : Nat) : Consumer :=
  if c.position partition < (log partition).length then
    { c with
      phase := .fetched partition (c.position partition)
      position := Function.update c.position partition (c.position partition + 1) }
  else c

def dedupe (log : Log) (c : Consumer) (partition offset : Nat) (unavailable : Option Err) : Consumer :=
  match (log partition)[offset]? with
  | none => c
  | some msg =>
    match sight c.kv unavailable msg with
    | (.call, kv) =>
      { c with
        phase := .calling partition offset, kv
        marked := if kv = c.kv then c.marked else (partition, offset) :: c.marked }
    | (.shortCircuit, kv) =>
      { c with phase := .returned partition offset, kv, repeated := (partition, offset) :: c.repeated }

def step (log : Log) (c : Consumer) : Event → Consumer
  | .fetch partition => match c.phase with
    | .idle => c.fetch log partition
    | _ => c
  | .dedupe unavailable => match c.phase with
    | .fetched partition offset => c.dedupe log partition offset unavailable
    | _ => c
  | .handle err => match c.phase with
    | .calling partition offset =>
      if err.isNone then
        { c with phase := .returned partition offset, handled := (partition, offset) :: c.handled }
      else { c with phase := .idle, failed := (partition, offset) :: c.failed }
    | _ => c
  | .commit err => match c.phase with
    | .returned partition offset =>
      if err.isNone then
        { c with phase := .idle, committed := Function.update c.committed partition (offset + 1) }
      else { c with phase := .idle }
    | _ => c
  | .restart => { c with phase := .idle, position := c.committed, failed := [] }
  | .expire key => { c with kv := c.kv.filter (· ≠ key) }

end Consumer

end VibeSync.Kafka
