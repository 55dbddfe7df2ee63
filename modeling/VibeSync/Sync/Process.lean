import VibeSync.Sync.Service

/-! The room manager step by step, with rooms as objects that callers keep hold
of. `GetOrCreate` looks under the read lock first and again under the write
lock, and other calls run in between. -/

namespace VibeSync.Sync

/-- Where a call of `GetOrCreate` stands. -/
inductive Lookup where
  | missed (roomID : String)
  | returned (room : Nat)
  deriving DecidableEq, Repr

structure Process where
  cfg : SyncConfig
  /-- Every `RoomSync` constructed so far. A place in the list is a pointer. -/
  objects : List RoomSync
  rooms : String → Option Nat
  table : Table
  saving : Nat → Option SyncState
  lookups : Nat → Option Lookup

namespace Process

def start (cfg : SyncConfig) (table : Table) : Process :=
  { cfg, objects := [], rooms := fun _ => none, table, saving := fun _ => none, lookups := fun _ => none }

inductive Event where
  /-- The first half of `GetOrCreate`, under the read lock. -/
  | lookup (call : Nat) (roomID : String)
  /-- Its second half, under the write lock; `failure` is a failed read. -/
  | create (call : Nat) (failure : Option Err)
  | init (roomID ownerID : String) (now : Time)
  /-- A method of a room, by its loop or by a request that holds the pointer. -/
  | method (room : Nat) (event : RoomSync.Event)
  | copyState (room : Nat)
  | writeState (room : Nat) (updatedAt : Time) (failure : Option Err)

def construct (p : Process) (roomID : String) (state : SyncState) : Process :=
  { p with
    objects := p.objects ++ [newRoomSync p.cfg roomID state]
    rooms := Function.update p.rooms roomID (some p.objects.length) }

def answer (p : Process) (call : Nat) (lookup : Lookup) : Process :=
  { p with lookups := Function.update p.lookups call (some lookup) }

def persisted (p : Process) (roomID : String) (failure : Option Err) : Except Err SyncState :=
  match failure with
  | some err => .error err
  | none => SyncStateRepo.get p.table roomID

/-- The state a room starts with. Any error counts as no row. -/
def initial (p : Process) (roomID : String) (failure : Option Err) : SyncState :=
  match p.persisted roomID failure with
  | .ok row => row
  | .error _ => RoomManager.freshState roomID

def create (p : Process) (call : Nat) (roomID : String) (failure : Option Err) : Process :=
  match p.rooms roomID with
  | some room => p.answer call (.returned room)
  | none => (p.construct roomID (p.initial roomID failure)).answer call (.returned p.objects.length)

def init (p : Process) (roomID ownerID : String) (now : Time) : Process :=
  match p.rooms roomID with
  | some room => { p with objects := p.objects.modify room fun rs => (rs.adoptOwnerIfUnset ownerID now).2 }
  | none => p.construct roomID (RoomManager.initState roomID ownerID)

def writeState (p : Process) (room : Nat) (updatedAt : Time) (failure : Option Err) : Process :=
  match p.saving room, failure with
  | some state, none =>
    { p with table := SyncStateRepo.upsert p.table state updatedAt, saving := Function.update p.saving room none }
  | some _, some _ => { p with saving := Function.update p.saving room none }
  | none, _ => p

def step (p : Process) : Event → Process
  | .lookup call roomID =>
    match p.rooms roomID with
    | some room => p.answer call (.returned room)
    | none => p.answer call (.missed roomID)
  | .create call failure =>
    match p.lookups call with
    | some (.missed roomID) => p.create call roomID failure
    | _ => p
  | .init roomID ownerID now => p.init roomID ownerID now
  | .method room event => { p with objects := p.objects.modify room fun rs => rs.step event }
  | .copyState room =>
    match p.objects[room]?, p.saving room with
    | some rs, none => { p with saving := Function.update p.saving room (some rs.state) }
    | _, _ => p
  | .writeState room updatedAt failure => p.writeState room updatedAt failure

/-- The rooms by their ids, as a caller of the manager sees them. -/
def manager (p : Process) : RoomManager := ⟨p.cfg, fun roomID => (p.rooms roomID).bind fun room => p.objects[room]?⟩

end Process

end VibeSync.Sync
