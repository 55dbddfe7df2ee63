import Mathlib.Logic.Function.Basic
import VibeSync.Errors
import VibeSync.JsonObject

/-! The playback service's cached copy of a room and the two ways it is brought
up to date. Counters and clock readings are unbounded, those of an event apart. -/

namespace VibeSync.Playback

structure PlaybackRoom where
  roomID : String
  mediaID : String := ""
  status : Int16 := 0
  mediaTimeMs : Int64 := 0
  wallTimeMs : Int := 0
  playbackRate : ℚ := 0
  epoch : Nat := 0
  hostID : String := ""
  fencingToken : Nat := 0
  updatedAt : Time := zeroTime
  deriving DecidableEq, Repr

structure SyncUpdatedV1 where
  roomID : String
  epoch : Nat
  status : Int
  mediaTime : Int64
  wallTime : Int
  rate : ℚ
  hostID : String
  driftMs : Int
  peers : Nat
  deriving DecidableEq, Repr

/-- `json.Unmarshal` into the typed fields. A number that its field cannot hold is
an error. -/
def SyncUpdatedV1.decode (payload : JsonObject) : Option SyncUpdatedV1 := do
  let roomID ← payload.text "room_id"
  let epoch ← payload.unsigned 64 "epoch"
  let status ← payload.signed 64 "status"
  let mediaTime ← payload.int64 "media_time"
  let wallTime ← payload.signed 64 "wall_time"
  let rate ← payload.number "rate"
  let hostID ← payload.text "host_id"
  let driftMs ← payload.signed 32 "drift_ms"
  let peers ← payload.unsigned 32 "peers"
  return { roomID, epoch, status, mediaTime, wallTime, rate, hostID, driftMs, peers }

/-- The arguments of `ApplySyncCommand`. -/
structure SyncCommand where
  mediaID : String
  status : Int16
  mediaTimeMs : Int64
  wallTimeMs : Int
  playbackRate : ℚ
  epoch : Nat
  hostID : String
  fencingToken : Nat
  deriving DecidableEq, Repr

namespace PlaybackRoom

/-- Always applies; `true` if the epoch advanced. The token stays as it was. -/
def applyFromEvent (r : PlaybackRoom) (e : SyncUpdatedV1) (now : Time) : Bool × PlaybackRoom :=
  (e.epoch > r.epoch,
   { r with
     epoch := e.epoch, status := Int16.ofInt e.status, mediaTimeMs := e.mediaTime, wallTimeMs := e.wallTime,
     playbackRate := e.rate, hostID := e.hostID, updatedAt := now })

def applySyncCommand (r : PlaybackRoom) (c : SyncCommand) (now : Time) : Bool × PlaybackRoom :=
  if c.fencingToken < r.fencingToken then (false, r)
  else if c.epoch ≤ r.epoch ∧ c.fencingToken = r.fencingToken then (false, r)
  else
    (true,
     { r with
       mediaID := c.mediaID, status := c.status, mediaTimeMs := c.mediaTimeMs, wallTimeMs := c.wallTimeMs,
       playbackRate := c.playbackRate, epoch := c.epoch, hostID := c.hostID, fencingToken := c.fencingToken,
       updatedAt := now })

def loadMedia (r : PlaybackRoom) (mediaID : String) (now : Time) : PlaybackRoom := { r with mediaID, updatedAt := now }

end PlaybackRoom

abbrev RoomCache : Type := String → Option PlaybackRoom

namespace RoomCache

def new : RoomCache := fun _ => none

/-- The cached room, or the empty one that every entry point starts from. -/
def room (cache : RoomCache) (roomID : String) : PlaybackRoom := (cache roomID).getD { roomID }

def applyFromEvent (cache : RoomCache) (e : SyncUpdatedV1) (now : Time) : RoomCache :=
  Function.update cache e.roomID (some ((cache.room e.roomID).applyFromEvent e now).2)

def applySyncCommand (cache : RoomCache) (roomID : String) (c : SyncCommand) (now : Time) : Bool × RoomCache :=
  let (applied, room) := (cache.room roomID).applySyncCommand c now
  (applied, Function.update cache roomID (some room))

def loadMedia (cache : RoomCache) (roomID mediaID : String) (now : Time) : RoomCache :=
  Function.update cache roomID (some ((cache.room roomID).loadMedia mediaID now))

end RoomCache

end VibeSync.Playback
