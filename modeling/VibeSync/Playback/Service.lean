import VibeSync.Playback.Room
import VibeSync.Sync.RoomSync

/-! The playback service: its handlers, the consumer of `sync.updated.v1`, the
checkpoint it writes and the restart that does not read it. -/

namespace VibeSync.Playback
open VibeSync.Sync

structure Service where
  cache : RoomCache
  /-- The rows of `playback_state`. -/
  table : String → Option PlaybackRoom

namespace Service

/-- A new process starts with an empty cache. -/
def new (table : String → Option PlaybackRoom) : Service := ⟨.new, table⟩

/-- Best effort: `stored` is whether the transaction committed. -/
def persistRoom (s : Service) (roomID : String) (stored : Bool) : Service :=
  match s.cache roomID with
  | some room => if stored then { s with table := Function.update s.table roomID (some room) } else s
  | none => s

def loadMedia (s : Service) (roomID mediaID : String) (now : Time) (stored : Bool) : Except Err Bool × Service :=
  if roomID = "" ∨ mediaID = "" then
    (.error (.invalidArgumentFor "vibesync.playback" "MISSING_TARGET" "room_id and media_id required"), s)
  else (.ok true, persistRoom { s with cache := s.cache.loadMedia roomID mediaID now } roomID stored)

/-- The arguments that the handler takes from the wire state. -/
def commandOf (state : Proto.SyncState) : SyncCommand :=
  { mediaID := state.mediaID.getD "", status := Int16.ofInt state.status.number, mediaTimeMs := state.mediaTimeMs,
    wallTimeMs := state.wallTimeMs, playbackRate := state.playbackRate, epoch := state.epoch,
    hostID := state.hostID.getD "", fencingToken := state.fencingToken }

def applySyncCommand (s : Service) (roomID : String) (state : Option Proto.SyncState) (now : Time) :
    Except Err Bool × Service :=
  match state with
  | some state =>
    if roomID = "" then
      (.error (.invalidArgumentFor "vibesync.playback" "MISSING_STATE" "room_id and state required"), s)
    else
      let (applied, cache) := s.cache.applySyncCommand roomID (commandOf state) now
      (.ok applied, { s with cache })
  | none => (.error (.invalidArgumentFor "vibesync.playback" "MISSING_STATE" "room_id and state required"), s)

/-- Poison messages are skipped: bytes that are no object, fields of a wrong type, no room. -/
def handleSyncUpdated (s : Service) (value : Option JsonObject) (now : Time) : Service :=
  match value.bind SyncUpdatedV1.decode with
  | some event => if event.roomID = "" then s else { s with cache := s.cache.applyFromEvent event now }
  | none => s

inductive Event where
  | loadMedia (roomID mediaID : String) (now : Time) (stored : Bool)
  | applySyncCommand (roomID : String) (state : Option Proto.SyncState) (now : Time)
  | syncUpdated (value : Option JsonObject) (now : Time)
  | restart

def step (s : Service) : Event → Service
  | .loadMedia roomID mediaID now stored => (s.loadMedia roomID mediaID now stored).2
  | .applySyncCommand roomID state now => (s.applySyncCommand roomID state now).2
  | .syncUpdated value now => s.handleSyncUpdated value now
  | .restart => .new s.table

end Service

end VibeSync.Playback
