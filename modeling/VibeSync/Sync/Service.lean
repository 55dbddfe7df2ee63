import VibeSync.JsonObject
import VibeSync.Sync.RoomSync

/-! The room manager of one sync process, the `sync_state` table it checkpoints
to, and what happens to both while rooms run, messages arrive and the process
crashes. -/

namespace VibeSync.Sync

abbrev Table : Type := String → Option SyncState

namespace SyncStateRepo

/-- The row keeps its own write time in place of `EpochStarted`. -/
def upsert (table : Table) (s : SyncState) (updatedAt : Time) : Table :=
  Function.update table s.roomID (some { s with epochStarted := updatedAt })

def get (table : Table) (roomID : String) : Except Err SyncState :=
  match table roomID with
  | some row => .ok row
  | none => .error (.wrapped "sync_state_repo: get" (.plain "no rows in result set"))

end SyncStateRepo

/-- The payload of a `room.created.v1` message. -/
structure RoomCreatedV1 where
  roomID : String
  slug : String
  name : String
  ownerID : String
  visibility : Int
  deriving DecidableEq, Repr

/-- `json.Unmarshal` into the typed fields. -/
def RoomCreatedV1.decode (payload : JsonObject) : Option RoomCreatedV1 := do
  let roomID ← payload.text "room_id"
  let slug ← payload.text "slug"
  let name ← payload.text "name"
  let ownerID ← payload.text "owner_id"
  let visibility ← payload.integer "visibility"
  return { roomID, slug, name, ownerID, visibility }

structure RoomManager where
  cfg : SyncConfig
  rooms : String → Option RoomSync

namespace RoomManager

def freshState (roomID : String) : SyncState :=
  { roomID, mediaID := "", status := .paused, mediaTimeMs := 0, wallTimeMs := 0, playbackRate := 1, epoch := 0,
    hostID := "", fencingToken := 0, epochStarted := zeroTime, ownerID := "" }

def initState (roomID ownerID : String) : SyncState :=
  { roomID, mediaID := "", status := .paused, mediaTimeMs := 0, wallTimeMs := 0, playbackRate := 1, epoch := 0,
    hostID := ownerID, fencingToken := 0, epochStarted := zeroTime, ownerID }

def put (m : RoomManager) (roomID : String) (rs : RoomSync) : RoomManager :=
  { m with rooms := Function.update m.rooms roomID (some rs) }

/-- `persisted` is what reading the row came to. Any error counts as no row. -/
def getOrCreate (m : RoomManager) (roomID : String) (persisted : Except Err SyncState) : RoomSync × RoomManager :=
  match m.rooms roomID with
  | some rs => (rs, m)
  | none =>
    let state := match persisted with
      | .ok row => row
      | .error _ => freshState roomID
    let rs := newRoomSync m.cfg roomID state
    (rs, m.put roomID rs)

def init (m : RoomManager) (roomID ownerID : String) (now : Time) : RoomManager :=
  match m.rooms roomID with
  | some rs => m.put roomID (rs.adoptOwnerIfUnset ownerID now).2
  | none => m.put roomID (newRoomSync m.cfg roomID (initState roomID ownerID))

end RoomManager

/-- One process and its database. `saving` holds the state that a room's loop has
copied and not yet written; `archive` the frames of earlier processes. -/
structure Service where
  manager : RoomManager
  table : Table
  saving : String → Option SyncState
  archive : String → List SubscribeResponse

namespace Service

def start (cfg : SyncConfig) : Service :=
  { manager := ⟨cfg, fun _ => none⟩, table := fun _ => none, saving := fun _ => none, archive := fun _ => [] }

def room (s : Service) (roomID : String) : Option RoomSync := s.manager.rooms roomID

/-- Every frame of the room in broadcast order, earlier processes included. -/
def frames (s : Service) (roomID : String) : List SubscribeResponse :=
  s.archive roomID ++ (match s.room roomID with
    | some rs => rs.broadcasts.map Broadcast.frame
    | none => [])

inductive Event where
  /-- A subscriber, a heartbeat, a command or a recovery asks for the room;
  `failure` is a failed read. -/
  | getOrCreate (roomID : String) (failure : Option Err)
  /-- A `room.created.v1` message reaches its handler. -/
  | roomCreated (roomID ownerID : String) (now : Time)
  | room (roomID : String) (event : RoomSync.Event)
  /-- The two halves of `persistState`: the copy under the mutex and the write. -/
  | copyState (roomID : String)
  | writeState (roomID : String) (updatedAt : Time) (failure : Option Err)
  | crash

def persisted (s : Service) (roomID : String) (failure : Option Err) : Except Err SyncState :=
  match failure with
  | some err => .error err
  | none => SyncStateRepo.get s.table roomID

/-- The handler skips messages without a room or an owner. -/
def handleRoomCreated (s : Service) (roomID ownerID : String) (now : Time) : Service :=
  if roomID = "" ∨ ownerID = "" then s else { s with manager := s.manager.init roomID ownerID now }

/-- A malformed message is skipped. -/
def handleMessage (s : Service) (payload : JsonObject) (now : Time) : Service :=
  match RoomCreatedV1.decode payload with
  | none => s
  | some event => s.handleRoomCreated event.roomID event.ownerID now

def writeState (s : Service) (roomID : String) (updatedAt : Time) (failure : Option Err) : Service :=
  match s.saving roomID, failure with
  | some state, none =>
    { s with table := SyncStateRepo.upsert s.table state updatedAt, saving := Function.update s.saving roomID none }
  | some _, some _ => { s with saving := Function.update s.saving roomID none }
  | none, _ => s

def step (s : Service) : Event → Service
  | .getOrCreate roomID failure =>
    { s with manager := (s.manager.getOrCreate roomID (s.persisted roomID failure)).2 }
  | .roomCreated roomID ownerID now => s.handleRoomCreated roomID ownerID now
  | .room roomID event =>
    match s.room roomID with
    | some rs => { s with manager := s.manager.put roomID (rs.step event) }
    | none => s
  | .copyState roomID =>
    match s.room roomID, s.saving roomID with
    | some rs, none => { s with saving := Function.update s.saving roomID (some rs.state) }
    | _, _ => s
  | .writeState roomID updatedAt failure => s.writeState roomID updatedAt failure
  | .crash =>
    { s with manager := { s.manager with rooms := fun _ => none }, saving := fun _ => none, archive := s.frames }

end Service

end VibeSync.Sync
