import Mathlib.Logic.Function.Basic
import VibeSync.Outbox.Table

/-! The relays that drain one outbox. `Run` and `drainOnce` are cut where they
call Postgres, Redis or the broker; each call may fail, a process may crash
between any two, and the lease may run out at any time. -/

namespace VibeSync.Outbox

structure RelayOptions where
  batchSize : Int := 0

def RelayOptions.limit (opts : RelayOptions) : Nat := if opts.batchSize ≤ 0 then 100 else opts.batchSize.toNat

/-- A transaction of `drainOnce` after its fetch. -/
structure Drain where
  token : Nat
  /-- The fetched rows. -/
  pending : List Event
  /-- Those that are still to be published. -/
  rest : List Event
  /-- The uncommitted updates. -/
  marks : List (String × Time)
  deriving DecidableEq, Repr

/-- Where a relay stands. -/
inductive Phase where
  | idle
  /-- `drainOnce` is called. -/
  | leading (token : Nat)
  | begun (token : Nat)
  | publishing (drain : Drain)
  /-- The broker has acknowledged the event. -/
  | marking (event : Event) (drain : Drain)
  /-- `drainOnce` has returned. -/
  | releasing (token : Nat) (result : Except Err Nat)
  /-- The lock was found to be the relay's own. -/
  | deleting (token : Nat) (result : Except Err Nat)

structure Relays where
  table : List Row
  /-- The value of the Redis key. -/
  lock : Option Nat
  relay : Nat → Phase
  /-- The rows that open transactions hold. -/
  rowLocks : List (Nat × String)
  /-- What the broker acknowledged, oldest first. No step reads it. -/
  acknowledged : List (Event × Message)

namespace Relays

def start : Relays := ⟨[], none, fun _ => .idle, [], []⟩

inductive Action where
  /-- A domain transaction commits with the events it appended. -/
  | stage (events : List Event)
  | acquire (relay : Nat) (token : Nat) (failure : Option Err)
  | begin (relay : Nat) (failure : Option Err)
  | fetch (relay : Nat) (order : ScanOrder) (failure : Option Err)
  | publish (relay : Nat) (now : Time) (failure : Option Err)
  | mark (relay : Nat) (now : Time) (failure : Option Err)
  | commit (relay : Nat) (failure : Option Err)
  | readLock (relay : Nat) (failure : Option Err)
  | deleteLock (relay : Nat) (failure : Option Err)
  | crash (relay : Nat)
  | expire

/-- The relay that takes the step. -/
def Action.relay? : Action → Option Nat
  | .stage _ | .expire => none
  | .acquire relay _ _ | .begin relay _ | .fetch relay _ _ | .publish relay _ _ | .mark relay _ _ | .commit relay _
  | .readLock relay _ | .deleteLock relay _ | .crash relay => some relay

def enter (s : Relays) (r : Nat) (phase : Phase) : Relays := { s with relay := Function.update s.relay r phase }

/-- The end of a transaction frees its rows. -/
def leave (s : Relays) (r : Nat) (phase : Phase) : Relays :=
  { s.enter r phase with rowLocks := s.rowLocks.filter fun held => held.1 ≠ r }

def locked (s : Relays) (id : String) : Bool := s.rowLocks.any fun held => held.2 = id

/-- `SETNX`. -/
def acquire (s : Relays) (r token : Nat) (failure : Option Err) : Relays :=
  if failure.isNone ∧ s.lock.isNone then { s.enter r (.leading token) with lock := some token } else s

def begin (s : Relays) (r token : Nat) : Option Err → Relays
  | some err => s.leave r (.releasing token (.error (.wrapped "relay: begin" err)))
  | none => s.enter r (.begun token)

def fetch (opts : RelayOptions) (s : Relays) (r token : Nat) (order : ScanOrder) : Option Err → Relays
  | some err => s.leave r (.releasing token (.error (.wrapped "relay: fetch" (.wrapped "outbox: fetch unpublished" err))))
  | none =>
    match fetchUnpublished s.table order s.locked opts.limit with
    | [] => s.leave r (.releasing token (.ok 0))
    | first :: more =>
      { s.enter r (.publishing ⟨token, first :: more, first :: more, []⟩) with
        rowLocks := s.rowLocks ++ (first :: more).map fun e => (r, e.id) }

def publish (s : Relays) (r : Nat) (drain : Drain) (e : Event) (rest : List Event) (now : Time) : Option Err → Relays
  | some err => s.leave r (.releasing drain.token (.error (.wrapped ("relay: publish " ++ e.id) err)))
  | none =>
    { s.enter r (.marking e { drain with rest }) with acknowledged := s.acknowledged ++ [(e, e.message now)] }

def mark (s : Relays) (r : Nat) (drain : Drain) (e : Event) (now : Time) : Option Err → Relays
  | some err =>
    s.leave r (.releasing drain.token (.error (.wrapped ("relay: mark " ++ e.id) (.wrapped "outbox: mark published" err))))
  | none => s.enter r (.publishing { drain with marks := drain.marks ++ [(e.id, now)] })

/-- A commit that returns an error has not committed. -/
def commit (s : Relays) (r : Nat) (drain : Drain) : Option Err → Relays
  | some err => s.leave r (.releasing drain.token (.error (.wrapped "relay: commit" err)))
  | none =>
    { s.leave r (.releasing drain.token (.ok drain.pending.length)) with
      table := drain.marks.foldl (fun table mark => markPublished table mark.1 mark.2) s.table }

/-- The `GET` of a release. -/
def readLock (s : Relays) (r token : Nat) (result : Except Err Nat) (failure : Option Err) : Relays :=
  if failure.isNone ∧ s.lock = some token then s.enter r (.deleting token result) else s.enter r .idle

/-- The `DEL` of a release takes whatever the key holds by then. -/
def deleteLock (s : Relays) (r : Nat) : Option Err → Relays
  | some _ => s.enter r .idle
  | none => { s.enter r .idle with lock := none }

def step (opts : RelayOptions) (s : Relays) : Action → Relays
  | .stage events => match append s.table events with
    | .ok table => { s with table }
    | .error _ => s
  | .acquire r token failure => match s.relay r with
    | .idle => s.acquire r token failure
    | _ => s
  | .begin r failure => match s.relay r with
    | .leading token => s.begin r token failure
    | _ => s
  | .fetch r order failure => match s.relay r with
    | .begun token => s.fetch opts r token order failure
    | _ => s
  | .publish r now failure => match s.relay r with
    | .publishing drain => match drain.rest with
      | e :: rest => s.publish r drain e rest now failure
      | [] => s
    | _ => s
  | .mark r now failure => match s.relay r with
    | .marking e drain => s.mark r drain e now failure
    | _ => s
  | .commit r failure => match s.relay r with
    | .publishing drain => match drain.rest with
      | [] => s.commit r drain failure
      | _ :: _ => s
    | _ => s
  | .readLock r failure => match s.relay r with
    | .releasing token result => s.readLock r token result failure
    | _ => s
  | .deleteLock r failure => match s.relay r with
    | .deleting _ _ => s.deleteLock r failure
    | _ => s
  | .crash r => s.leave r .idle
  | .expire => { s with lock := none }

end Relays

end VibeSync.Outbox
