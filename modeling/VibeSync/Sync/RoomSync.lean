import Mathlib.Data.List.AList
import VibeSync.JsonObject
import VibeSync.Sync.Heartbeat

/-! The per-room owner of the playback state. Every method runs under the room's
mutex; the clock readings it takes and the order in which it visits a map are
arguments. -/

namespace VibeSync.Sync

structure SyncConfig where
  heartbeatInterval : Duration := 0
  hostTimeout : Duration := 0
  controllerKp : ℚ := 0
  controllerKi : ℚ := 0
  controllerIntegralClampMs : ℚ := 0
  recoverRingBufferSize : Int := 0
  discontinuityThresholdMs : ℚ := 0
  driftCorrectionEnabled : Bool := false
  deriving DecidableEq, Repr

namespace SyncConfig

def heartbeatEvery (cfg : SyncConfig) : Duration := if cfg.heartbeatInterval > 0 then cfg.heartbeatInterval else 1000000000

def timeout (cfg : SyncConfig) : Duration := if cfg.hostTimeout > 0 then cfg.hostTimeout else 5000000000

def ringSize (cfg : SyncConfig) : Nat := if cfg.recoverRingBufferSize ≤ 0 then 32 else cfg.recoverRingBufferSize.toNat

end SyncConfig

namespace Proto

/-- The wire state. An absent id message stands for the empty id. -/
structure SyncState where
  roomID : String
  mediaID : Option String
  status : PlaybackStatus
  mediaTimeMs : Int64
  wallTimeMs : Int
  playbackRate : ℚ
  epoch : Nat
  hostID : Option String
  fencingToken : Nat
  epochStartedAt : Time
  deriving DecidableEq, Repr

structure SyncSnapshot where
  state : SyncState
  driftEstimateMs : Int
  confidence : Nat
  activePeers : Nat
  medianRttMs : Int
  capturedAt : Time
  deriving DecidableEq, Repr

structure HostMigration where
  roomID : String
  previousHostID : String
  newHostID : String
  newEpoch : Nat
  newFencingToken : Nat
  at_ : Time
  deriving DecidableEq, Repr

end Proto

inductive SubscribeResponse where
  | update (state : Proto.SyncState)
  | snapshot (snapshot : Proto.SyncSnapshot)
  | hostMigration (migration : Proto.HostMigration)
  deriving DecidableEq, Repr

namespace SubscribeResponse

def epoch : SubscribeResponse → Nat
  | .update state => state.epoch
  | .snapshot full => full.state.epoch
  | .hostMigration migration => migration.newEpoch

/-- The whole state of an update or a snapshot; a migration carries none. -/
def state? : SubscribeResponse → Option Proto.SyncState
  | .update state => some state
  | .snapshot full => some full.state
  | .hostMigration _ => none

end SubscribeResponse

structure FrameEntry where
  epoch : Nat
  frame : SubscribeResponse
  deriving DecidableEq, Repr

def PlaybackStatus.number : PlaybackStatus → Int
  | .unspecified => 0
  | .paused => 1
  | .playing => 2
  | .buffering => 3
  | .ended => 4

structure OutboxEvent where
  id : String
  aggregateID : String
  topic : String
  key : String
  payload : JsonObject
  occurredAt : Time
  version : String
  deriving DecidableEq, Repr

/-- A frame handed to the subscribers and the wire state it was sent in. -/
structure Broadcast where
  frame : SubscribeResponse
  state : Proto.SyncState
  deriving DecidableEq, Repr

/-- The order in which one `range` statement visits the keys of a map. -/
structure MapOrder where
  visit : List String → List String
  perm : ∀ keys, (visit keys).Perm keys

def MapOrder.stored : MapOrder := ⟨id, List.Perm.refl⟩

structure RoomSync where
  cfg : SyncConfig
  roomID : String
  state : SyncState
  heartbeats : AList fun _ : String => ClientHeartbeat
  controller : DriftController
  ringBuffer : List FrameEntry
  /-- The frames waiting in each subscriber's channel, oldest first. -/
  subscribers : Nat → Option (List SubscribeResponse)
  /-- Everything broadcast so far, oldest first. No method reads it. -/
  broadcasts : List Broadcast

def makeController (cfg : SyncConfig) : DriftController :=
  let dc : DriftController := {}
  { dc with
    kp := if cfg.controllerKp > 0 then cfg.controllerKp else dc.kp
    ki := if cfg.controllerKi > 0 then cfg.controllerKi else dc.ki
    integralClampMs := if cfg.controllerIntegralClampMs > 0 then cfg.controllerIntegralClampMs else dc.integralClampMs
    discontinuityThresholdMs :=
      if cfg.discontinuityThresholdMs > 0 then cfg.discontinuityThresholdMs else dc.discontinuityThresholdMs }

def newRoomSync (cfg : SyncConfig) (roomID : String) (initial : SyncState) : RoomSync :=
  { cfg, roomID, state := initial, heartbeats := ∅, controller := makeController cfg, ringBuffer := [],
    subscribers := fun _ => none, broadcasts := [] }

def computeConfidence (activePeers : Nat) (rtts : List ℚ) : Nat :=
  if activePeers = 0 then 0
  else
    let scaled := activePeers * 20 % 4294967296
    let c := if scaled > 100 then 100 else scaled
    if rtts.length > 1 then
      let mean := rtts.sum / rtts.length
      let variance := (rtts.map fun r => r * r).sum / rtts.length - mean * mean
      if variance > 1000 then c / 2 else c
    else c

def clampInt32 (v : ℚ) : Int :=
  if v > 2147483647 then 2147483647 else if v < -2147483647 then -2147483647 else v.num.tdiv v.den

namespace RoomSync

/-! Broadcasting. -/

def idOrNone (id : String) : Option String := if id = "" then none else some id

def stateToProto (roomID : String) (state : SyncState) : Proto.SyncState :=
  { roomID, mediaID := idOrNone state.mediaID, status := state.status, mediaTimeMs := state.mediaTimeMs,
    wallTimeMs := state.wallTimeMs, playbackRate := state.playbackRate, epoch := state.epoch,
    hostID := idOrNone state.hostID, fencingToken := state.fencingToken, epochStartedAt := state.epochStarted }

def wire (rs : RoomSync) : Proto.SyncState := stateToProto rs.roomID rs.state

def channelCapacity : Nat := 16

/-- A send that would block is dropped. -/
def offer (frame : SubscribeResponse) (buffered : List SubscribeResponse) : List SubscribeResponse :=
  if buffered.length < channelCapacity then buffered ++ [frame] else buffered

def broadcastLocked (rs : RoomSync) (frame : SubscribeResponse) : RoomSync :=
  { rs with
    subscribers := fun channel => (rs.subscribers channel).map (offer frame)
    broadcasts := rs.broadcasts ++ [⟨frame, rs.wire⟩] }

def addToRingLocked (rs : RoomSync) (frame : SubscribeResponse) : RoomSync :=
  let buffered := rs.ringBuffer ++ [⟨rs.state.epoch, frame⟩]
  { rs with ringBuffer := buffered.drop (buffered.length - rs.cfg.ringSize) }

/-- An update or a snapshot also enters the ring buffer. -/
def publish (rs : RoomSync) (frame : SubscribeResponse) : RoomSync := (rs.addToRingLocked frame).broadcastLocked frame

def broadcastUpdateLocked (rs : RoomSync) : RoomSync := rs.publish (.update rs.wire)

def alive (rs : RoomSync) (now : Time) : List ClientHeartbeat :=
  (rs.heartbeats.entries.map Sigma.snd).filter fun hb => hb.isAlive now rs.cfg.timeout

def buildSnapshotLocked (rs : RoomSync) (now : Time) : Proto.SyncSnapshot :=
  let measured := (rs.alive now).filter fun hb => hb.smoothedRTT > 0
  { state := rs.wire
    driftEstimateMs := clampInt32 (maxAbsFloats (measured.map ClientHeartbeat.driftMs))
    confidence := computeConfidence (rs.alive now).length (measured.map ClientHeartbeat.smoothedRTT)
    activePeers := (rs.alive now).length
    medianRttMs := clampInt32 (medianFloats (measured.map ClientHeartbeat.smoothedRTT))
    capturedAt := now }

def broadcastSnapshot (rs : RoomSync) (now : Time) : RoomSync := rs.publish (.snapshot (rs.buildSnapshotLocked now))

/-! Host election. -/

def isPresent (rs : RoomSync) (userID : String) (now : Time) : Bool :=
  match rs.heartbeats.lookup userID with
  | some hb => hb.isAlive now rs.cfg.timeout
  | none => false

/-- The body of the election loop: the oldest `LastSeen` so far and its user. -/
def consider (rs : RoomSync) (now : Time) (excludeID : String) (best : Time × String) (userID : String) : Time × String :=
  if userID = excludeID then best
  else match rs.heartbeats.lookup userID with
    | some h => if h.isAlive now rs.cfg.timeout ∧ h.lastSeen < best.1 then (h.lastSeen, userID) else best
    | none => best

def selectSuccessorLocked (rs : RoomSync) (now : Time) (excludeID : String) (order : MapOrder) : String :=
  ((order.visit rs.heartbeats.keys).foldl (rs.consider now excludeID) (now, "")).2

def preferredSuccessorLocked (rs : RoomSync) (now : Time) (excludeID : String) (order : MapOrder) : String :=
  if rs.state.ownerID ≠ "" ∧ rs.state.ownerID ≠ excludeID ∧ rs.isPresent rs.state.ownerID now then rs.state.ownerID
  else rs.selectSuccessorLocked now excludeID order

def migrateHostLocked (rs : RoomSync) (successor : String) (now : Time) : RoomSync :=
  let state := { rs.state with
    hostID := successor, epoch := rs.state.epoch + 1, fencingToken := rs.state.fencingToken + 1, epochStarted := now }
  { rs with state }.broadcastLocked
    (.hostMigration { roomID := rs.roomID, previousHostID := rs.state.hostID, newHostID := successor,
                      newEpoch := state.epoch, newFencingToken := state.fencingToken, at_ := now })

/-- The host departed and nobody can take over. -/
def pauseHostless (rs : RoomSync) : RoomSync :=
  if rs.state.status = .playing then
    { rs with state := { rs.state with status := .paused, playbackRate := 0, epoch := rs.state.epoch + 1 }
      }.broadcastUpdateLocked
  else rs

def checkHostMigrationLocked (rs : RoomSync) (now : Time) (order : MapOrder) : RoomSync :=
  if rs.state.ownerID ≠ "" ∧ rs.state.hostID ≠ rs.state.ownerID ∧ rs.isPresent rs.state.ownerID now then
    rs.migrateHostLocked rs.state.ownerID now
  else if rs.state.hostID = "" then
    let successor := rs.preferredSuccessorLocked now "" order
    if successor = "" then rs else rs.migrateHostLocked successor now
  else if rs.isPresent rs.state.hostID now then rs
  else
    let successor := rs.preferredSuccessorLocked now rs.state.hostID order
    if successor = "" then rs.pauseHostless else rs.migrateHostLocked successor now

/-! Drift correction. -/

/-- The heartbeat of the owner, or of the host while no owner is known. -/
def driftReference (rs : RoomSync) (now : Time) : Option ClientHeartbeat :=
  let refID := if rs.state.ownerID = "" then rs.state.hostID else rs.state.ownerID
  if refID = "" then none
  else match rs.heartbeats.lookup refID with
    | some hb => if hb.isAlive now rs.cfg.timeout ∧ hb.smoothedRTT > 0 then some hb else none
    | none => none

def driftResult (rs : RoomSync) (now : Time) : ControllerResult × DriftController :=
  let reference := (rs.driftReference now).toList
  let activeCount := (rs.alive now).length
  rs.controller.correct (medianFloats (reference.map ClientHeartbeat.driftMs)) rs.cfg.heartbeatEvery activeCount
    (computeConfidence activeCount (reference.map ClientHeartbeat.smoothedRTT))

def nudge (rs : RoomSync) (correctionMs : ℚ) (nowMs : Int) : RoomSync :=
  if correctionMs ≠ 0 ∧ rs.state.status = .playing then
    { rs with state := { rs.state with
        mediaTimeMs := rs.state.mediaTimeMs - int64OfFloat correctionMs
        wallTimeMs := nowMs, epoch := rs.state.epoch + 1 } }.broadcastUpdateLocked
  else rs

def tick (rs : RoomSync) (now : Time) (nowMs : Int) (order : MapOrder) : RoomSync :=
  if rs.cfg.driftCorrectionEnabled then
    let (result, controller) := rs.driftResult now
    if result.forceSnapshot then { rs with controller := controller.reset }.broadcastUpdateLocked
    else ({ rs with controller }.nudge result.correctionMs nowMs).checkHostMigrationLocked now order
  else rs.checkHostMigrationLocked now order

/-! The remaining entry points. -/

def adoptOwnerIfUnset (rs : RoomSync) (ownerID : String) (now : Time) : Bool × RoomSync :=
  if ownerID = "" then (false, rs)
  else
    let known := { rs with state := { rs.state with
      ownerID := if rs.state.ownerID = "" then ownerID else rs.state.ownerID } }
    if known.state.hostID ≠ "" then (false, known)
    else
      (true, { known with state := { known.state with
        hostID := ownerID, epoch := known.state.epoch + 1, epochStarted := now } }.broadcastUpdateLocked)

structure HeartbeatResponse where
  serverWallTimeMs : Int
  serverMediaTimeMs : Int64
  epoch : Nat
  clientDriftMs : Int
  smoothedRttMs : Int
  deriving DecidableEq, Repr

def processHeartbeat (rs : RoomSync) (userID : String) (clientMediaTimeMs clientWallTimeMs : Int64) (t2 t3 : Int)
    (now : Time) : HeartbeatResponse × RoomSync :=
  let seen := ((rs.heartbeats.lookup userID).getD {}).update clientWallTimeMs (Int64.ofInt t2) (Int64.ofInt t3) now
  let serverMediaTime := rs.state.advanceMediaTime t3
  let hb := { seen with driftMs := seen.clientMediaTimeAt clientMediaTimeMs - serverMediaTime.toInt }
  ({ serverWallTimeMs := t3, serverMediaTimeMs := serverMediaTime, epoch := rs.state.epoch,
     clientDriftMs := clampInt32 hb.driftMs, smoothedRttMs := clampInt32 hb.smoothedRTT },
   { rs with heartbeats := rs.heartbeats.insert userID hb })

structure CommandResponse where
  epoch : Nat
  accepted : Bool
  reason : String
  deriving DecidableEq, Repr

def applyCommandLocked (rs : RoomSync) (c : Command) (fencingToken : Nat) (nowMs : Int) (now : Time) :
    CommandResponse × RoomSync :=
  if fencingToken < rs.state.fencingToken then (⟨rs.state.epoch, false, "STALE_FENCING_TOKEN"⟩, rs)
  else
    let state := rs.state.applyCommand c nowMs now
    (⟨state.epoch, true, ""⟩, { rs with state }.broadcastUpdateLocked)

def processCommandAuthorized (rs : RoomSync) (c : Command) (fencingToken : Nat) (nowMs : Int) (now : Time) :
    CommandResponse × RoomSync := rs.applyCommandLocked c fencingToken nowMs now

/-- The difference `current - since` of two `uint64` counters. -/
def epochGap (current since : Nat) : Nat :=
  if since ≤ current then current - since else 18446744073709551616 - (since - current)

inductive RecoverResponse where
  | snapshot (snapshot : Proto.SyncSnapshot)
  | frames (frames : List SubscribeResponse)
  deriving DecidableEq, Repr

def recover (rs : RoomSync) (sinceEpoch : Nat) (now : Time) : RecoverResponse :=
  if epochGap rs.state.epoch sinceEpoch ≤ rs.cfg.ringSize ∧ sinceEpoch > 0 then
    .frames ((rs.ringBuffer.filter fun fe => fe.epoch > sinceEpoch).map FrameEntry.frame)
  else .snapshot (rs.buildSnapshotLocked now)

def registerSubscriber (rs : RoomSync) (channel : Nat) : RoomSync :=
  { rs with subscribers := Function.update rs.subscribers channel (some []) }

def unregisterSubscriber (rs : RoomSync) (channel : Nat) : RoomSync :=
  { rs with subscribers := Function.update rs.subscribers channel none }

/-! One transition of a room. -/

inductive Action where
  | command (c : Command) (fencingToken : Nat)
  | heartbeat (userID : String) (clientMediaTimeMs clientWallTimeMs : Int64) (t2 : Int)
  | tick (order : MapOrder)
  | adoptOwner (ownerID : String)
  | snapshot
  | register (channel : Nat)
  | unregister (channel : Nat)

/-- An entry point with the readings it takes of the clock. -/
structure Event where
  action : Action
  nowMs : Int
  now : Time

def step (rs : RoomSync) (event : Event) : RoomSync :=
  match event.action with
  | .command c fencingToken => (rs.processCommandAuthorized c fencingToken event.nowMs event.now).2
  | .heartbeat userID mediaTime wallTime t2 =>
    (rs.processHeartbeat userID mediaTime wallTime t2 event.nowMs event.now).2
  | .tick order => rs.tick event.now event.nowMs order
  | .adoptOwner ownerID => (rs.adoptOwnerIfUnset ownerID event.now).2
  | .snapshot => rs.broadcastSnapshot event.now
  | .register channel => rs.registerSubscriber channel
  | .unregister channel => rs.unregisterSubscriber channel

/-! The `sync.updated.v1` event that a room stages for the other services. -/

def syncUpdatedPayload (rs : RoomSync) (snapshot : Proto.SyncSnapshot) : JsonObject :=
  [("room_id", .text rs.roomID), ("epoch", .number snapshot.state.epoch), ("status", .number snapshot.state.status.number),
    ("media_time", .number snapshot.state.mediaTimeMs.toInt), ("wall_time", .number snapshot.state.wallTimeMs),
    ("rate", .number snapshot.state.playbackRate), ("host_id", .text (snapshot.state.hostID.getD "")),
    ("drift_ms", .number snapshot.driftEstimateMs), ("peers", .number snapshot.activePeers)]

def stageOutbox (rs : RoomSync) (eventID : String) (now occurredAt : Time) : OutboxEvent :=
  { id := eventID, aggregateID := rs.roomID, topic := "sync.updated.v1", key := rs.roomID,
    payload := rs.syncUpdatedPayload (rs.buildSnapshotLocked now), occurredAt, version := "v1" }

end RoomSync

end VibeSync.Sync
