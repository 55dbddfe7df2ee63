import VibeSync.Machine
import VibeSync.PairedTables
import VibeSync.Proofs.SyncSteps
import VibeSync.Sync.Service

/-! What a client reports in a heartbeat, its clock and its position, does not
reach the state of the room unless the client is the drift reference. -/

namespace VibeSync.Proofs.SyncNoninterference
open VibeSync.Sync VibeSync.Sync.RoomSync Machine PairedTables SyncSteps

variable {tampered : String → Prop}

/-- The owner, or the host while no owner is known. -/
def reference (s : SyncState) : String := if s.ownerID = "" then s.hostID else s.ownerID

/-- The same event, up to what a tampered client reports in a heartbeat. -/
inductive Alike (tampered : String → Prop) : Event → Event → Prop where
  | same (event : Event) : Alike tampered event event
  | reported (userID : String) (theirs : tampered userID) (mediaTime wallTime mediaTime' wallTime' : Int64) (t2 nowMs : Int)
      (now : Time) : Alike tampered ⟨.heartbeat userID mediaTime wallTime t2, nowMs, now⟩
        ⟨.heartbeat userID mediaTime' wallTime' t2, nowMs, now⟩

/-- The sequence of states a room goes through. -/
def stateHistory (rs : RoomSync) (events : List Event) : List SyncState := (states RoomSync.step rs events).map RoomSync.state

/-- Two estimates of one client: last seen together, and equal unless the client tampers. -/
structure Similar (tampered : String → Prop) (userID : String) (hb other : ClientHeartbeat) : Prop where
  lastSeen : hb.lastSeen = other.lastSeen
  honest : ¬ tampered userID → hb = other

theorem Similar.refl (userID : String) (hb : ClientHeartbeat) : Similar tampered userID hb hb := ⟨rfl, fun _ => rfl⟩

/-- Two rooms that differ only in the estimates of tampered clients and in what was sent. -/
structure Agrees (tampered : String → Prop) (rs other : RoomSync) : Prop where
  cfg : rs.cfg = other.cfg
  state : rs.state = other.state
  controller : rs.controller = other.controller
  heartbeats : Paired (Similar tampered) rs.heartbeats other.heartbeats

theorem Agrees.refl (rs : RoomSync) : Agrees tampered rs rs := ⟨rfl, rfl, rfl, .refl Similar.refl _⟩

namespace Agrees
variable {rs other : RoomSync} (agrees : Agrees tampered rs other)
include agrees

theorem aliveness {userID : String} {hb hb' : ClientHeartbeat} (similar : Similar tampered userID hb hb') (now : Time) :
    hb.isAlive now rs.cfg.timeout = hb'.isAlive now other.cfg.timeout := by
  unfold ClientHeartbeat.isAlive
  rw [similar.lastSeen, agrees.cfg]

theorem isPresent (userID : String) (now : Time) : rs.isPresent userID now = other.isPresent userID now := by
  unfold RoomSync.isPresent
  obtain ⟨absent, absent'⟩ | ⟨hb, hb', found, found', similar⟩ := agrees.heartbeats.lookup userID
  · rw [absent, absent']
  · rw [found, found']
    exact agrees.aliveness similar now

theorem lookup_honest {userID : String} (honest : ¬ tampered userID) :
    rs.heartbeats.lookup userID = other.heartbeats.lookup userID := by
  obtain ⟨absent, absent'⟩ | ⟨hb, hb', found, found', similar⟩ := agrees.heartbeats.lookup userID
  · rw [absent, absent']
  · rw [found, found', similar.honest honest]

theorem alive_length (now : Time) : (rs.alive now).length = (other.alive now).length := by
  have seen := agrees.heartbeats.map ClientHeartbeat.lastSeen fun _ _ _ similar => similar.lastSeen
  have counted : ∀ room : RoomSync, (room.alive now).length =
      ((room.heartbeats.entries.map Sigma.snd).map ClientHeartbeat.lastSeen).countP fun t => now - t < room.cfg.timeout := by
    intro room
    rw [List.countP_map, List.countP_eq_length_filter]
    rfl
  rw [counted, counted, seen, agrees.cfg]

theorem consider (now : Time) (excludeID : String) : rs.consider now excludeID = other.consider now excludeID := by
  funext best userID
  unfold RoomSync.consider
  obtain ⟨absent, absent'⟩ | ⟨hb, hb', found, found', similar⟩ := agrees.heartbeats.lookup userID
  · rw [absent, absent']
  · rw [found, found']
    simp only [agrees.aliveness similar now, similar.lastSeen]

theorem preferredSuccessor (now : Time) (excludeID : String) (order : MapOrder) :
    rs.preferredSuccessorLocked now excludeID order = other.preferredSuccessorLocked now excludeID order := by
  unfold preferredSuccessorLocked selectSuccessorLocked
  rw [agrees.state, agrees.isPresent, agrees.heartbeats.keys, agrees.consider]

theorem migrate (successor : String) (now : Time) :
    Agrees tampered (rs.migrateHostLocked successor now) (other.migrateHostLocked successor now) := by
  refine ⟨agrees.cfg, ?_, agrees.controller, agrees.heartbeats⟩
  simp only [migrateHostLocked, broadcastLocked, agrees.state]

theorem pauseHostless : Agrees tampered rs.pauseHostless other.pauseHostless := by
  unfold RoomSync.pauseHostless
  rw [agrees.state]
  split
  · exact ⟨agrees.cfg, rfl, agrees.controller, agrees.heartbeats⟩
  · exact agrees

theorem checkHostMigration (now : Time) (order : MapOrder) :
    Agrees tampered (rs.checkHostMigrationLocked now order) (other.checkHostMigrationLocked now order) := by
  unfold checkHostMigrationLocked
  simp only [agrees.state, agrees.isPresent, agrees.preferredSuccessor]
  split
  · exact agrees.migrate _ now
  split
  · split
    · exact agrees
    · exact agrees.migrate _ now
  split
  · exact agrees
  split
  · exact agrees.pauseHostless
  · exact agrees.migrate _ now

theorem nudge (correctionMs : ℚ) (nowMs : Int) :
    Agrees tampered (rs.nudge correctionMs nowMs) (other.nudge correctionMs nowMs) := by
  unfold RoomSync.nudge
  rw [agrees.state]
  split
  · exact ⟨agrees.cfg, rfl, agrees.controller, agrees.heartbeats⟩
  · exact agrees

theorem driftReference (now : Time) (honest : ¬ tampered (reference rs.state)) :
    rs.driftReference now = other.driftReference now := by
  have known := agrees.lookup_honest honest
  unfold reference at known
  unfold RoomSync.driftReference
  rw [agrees.state] at known ⊢
  simp only [known, agrees.cfg]

theorem driftResult (now : Time) (honest : ¬ tampered (reference rs.state)) :
    rs.driftResult now = other.driftResult now := by
  unfold RoomSync.driftResult
  rw [agrees.driftReference now honest, agrees.alive_length, agrees.controller, agrees.cfg]

theorem tick (now : Time) (nowMs : Int) (order : MapOrder)
    (unheeded : rs.cfg.driftCorrectionEnabled = false ∨ ¬ tampered (reference rs.state)) :
    Agrees tampered (rs.tick now nowMs order) (other.tick now nowMs order) := by
  have setting : other.cfg.driftCorrectionEnabled = rs.cfg.driftCorrectionEnabled := by rw [agrees.cfg]
  unfold RoomSync.tick
  rw [setting]
  split
  next enabled =>
    have honest := unheeded.resolve_left (by rw [enabled]; decide)
    rw [← agrees.driftResult now honest]
    generalize rs.driftResult now = result
    have corrected : ∀ controller, Agrees tampered { rs with controller } { other with controller } :=
      fun controller => ⟨agrees.cfg, agrees.state, rfl, agrees.heartbeats⟩
    dsimp only
    split
    · exact ⟨agrees.cfg, agrees.state, rfl, agrees.heartbeats⟩
    · exact ((corrected result.2).nudge result.1.correctionMs nowMs).checkHostMigration now order
  · exact agrees.checkHostMigration now order

theorem command (c : Command) (fencingToken : Nat) (nowMs : Int) (now : Time) :
    Agrees tampered (rs.processCommandAuthorized c fencingToken nowMs now).2
      (other.processCommandAuthorized c fencingToken nowMs now).2 := by
  unfold processCommandAuthorized applyCommandLocked
  rw [agrees.state]
  split
  · exact agrees
  · exact ⟨agrees.cfg, rfl, agrees.controller, agrees.heartbeats⟩

theorem adoptOwner (ownerID : String) (now : Time) :
    Agrees tampered (rs.adoptOwnerIfUnset ownerID now).2 (other.adoptOwnerIfUnset ownerID now).2 := by
  unfold adoptOwnerIfUnset
  dsimp only
  rw [agrees.state]
  split
  · exact agrees
  split
  · exact ⟨agrees.cfg, rfl, agrees.controller, agrees.heartbeats⟩
  · exact ⟨agrees.cfg, rfl, agrees.controller, agrees.heartbeats⟩

end Agrees

/-- A heartbeat of the same client at the same moment, with the reports of a tampered one free. -/
theorem heartbeat_agrees {rs other : RoomSync} (agrees : Agrees tampered rs other) (userID : String)
    {mediaTime wallTime mediaTime' wallTime' : Int64} (t2 t3 : Int) (now : Time)
    (reports : ¬ tampered userID → mediaTime = mediaTime' ∧ wallTime = wallTime') :
    Agrees tampered (rs.processHeartbeat userID mediaTime wallTime t2 t3 now).2
      (other.processHeartbeat userID mediaTime' wallTime' t2 t3 now).2 := by
  refine ⟨agrees.cfg, agrees.state, agrees.controller, agrees.heartbeats.insert ⟨?_, ?_⟩⟩
  · exact (update_lastSeen ..).trans (update_lastSeen ..).symm
  · intro honest
    obtain ⟨rfl, rfl⟩ := reports honest
    rw [agrees.lookup_honest honest, agrees.state]

theorem step_agrees {rs other : RoomSync} (agrees : Agrees tampered rs other) {event like : Event}
    (alike : Alike tampered event like)
    (unheeded : rs.cfg.driftCorrectionEnabled = false ∨ ¬ tampered (reference rs.state)) :
    Agrees tampered (rs.step event) (other.step like) := by
  cases alike with
  | reported userID theirs mediaTime wallTime mediaTime' wallTime' t2 nowMs now =>
    exact heartbeat_agrees agrees userID t2 nowMs now fun honest => absurd theirs honest
  | same =>
    obtain ⟨action, nowMs, now⟩ := event
    cases action with
    | command c fencingToken => exact agrees.command c fencingToken nowMs now
    | heartbeat userID mediaTime wallTime t2 => exact heartbeat_agrees agrees userID t2 nowMs now fun _ => ⟨rfl, rfl⟩
    | tick order => exact agrees.tick now nowMs order unheeded
    | adoptOwner ownerID => exact agrees.adoptOwner ownerID now
    | snapshot => exact ⟨agrees.cfg, agrees.state, agrees.controller, agrees.heartbeats⟩
    | register channel => exact ⟨agrees.cfg, agrees.state, agrees.controller, agrees.heartbeats⟩
    | unregister channel => exact ⟨agrees.cfg, agrees.state, agrees.controller, agrees.heartbeats⟩

/-- With drift correction off no report of any client matters; with it on, no
report of a client that is never the reference does. -/
theorem reports_cannot_steer (tampered : String → Prop) (rs : RoomSync) {events likes : List Event}
    (alike : List.Forall₂ (Alike tampered) events likes)
    (unheeded : rs.cfg.driftCorrectionEnabled = false ∨
      ∀ room ∈ states RoomSync.step rs events, ¬ tampered (reference room.state)) :
    stateHistory rs events = stateHistory rs likes := by
  have related : List.Forall₂ (fun room other => Agrees tampered room other ∧ room.cfg = rs.cfg)
      (states RoomSync.step rs events) (states RoomSync.step rs likes) := by
    refine states_related _ (Alike tampered)
      (fun room => rs.cfg.driftCorrectionEnabled = false ∨ ¬ tampered (reference room.state)) ?_ ⟨.refl rs, rfl⟩ alike ?_
    · intro room other event like related allowed same
      refine ⟨step_agrees related.1 same ?_, (step_config room event).trans related.2⟩
      rw [related.2]
      exact allowed
    · intro room visited
      exact unheeded.imp id fun never => never room visited
  unfold stateHistory
  rw [← List.forall₂_eq_eq_eq, List.forall₂_map_left_iff, List.forall₂_map_right_iff]
  exact related.imp fun _ _ pair => pair.1.state

/-! A guest who reports an arbitrary position in a room with drift correction. -/

def lounge : RoomSync := newRoomSync { driftCorrectionEnabled := true } "r1" (RoomManager.initState "r1" "alice")

def evening (mediaTime wallTime : Int64) : List Event :=
  [⟨.heartbeat "alice" 0 1000 1000, 1001, 1001000000⟩, ⟨.heartbeat "bob" mediaTime wallTime 1002, 1003, 1003000000⟩,
    ⟨.heartbeat "alice" 1000 2000 2000, 2001, 2001000000⟩, ⟨.tick .stored, 2002, 2002000000⟩]

theorem guest_cannot_rewind : stateHistory lounge (evening 1000 1002) = stateHistory lounge (evening (-90000) 77) := by
  refine reports_cannot_steer (· = "bob") lounge ?_ (Or.inr (by decide +kernel))
  refine .cons (.same _) (.cons ?_ (.cons (.same _) (.cons (.same _) .nil)))
  exact .reported "bob" (by decide) 1000 1002 (-90000) 77 1002 1003 1003000000

end VibeSync.Proofs.SyncNoninterference
