import VibeSync.Proofs.SyncFeed
import VibeSync.Proofs.SyncService
import VibeSync.Sync.Client

/-! Recovery after a disconnect. Host migrations never enter the ring buffer, a
restart empties it, and a snapshot below the client's epoch is refused; the
replay is complete exactly where none of these gets in the way. -/

namespace VibeSync.Proofs.SyncRecovery
open VibeSync.Sync VibeSync.Sync.RoomSync VibeSync.Proofs.SyncSteps VibeSync.Proofs.SyncFeed VibeSync.Proofs.SyncService

/-- The part of a wire state that a player renders. -/
structure Playback where
  mediaID : Option String
  status : PlaybackStatus
  mediaTimeMs : Int64
  wallTimeMs : Int
  playbackRate : ℚ
  deriving DecidableEq

structure View where
  playback : Playback
  epoch : Nat
  hostID : Option String
  fencingToken : Nat
  deriving DecidableEq

def playback (s : Proto.SyncState) : Playback :=
  ⟨s.mediaID, s.status, s.mediaTimeMs, s.wallTimeMs, s.playbackRate⟩

def view (s : Proto.SyncState) : View := ⟨playback s, s.epoch, s.hostID, s.fencingToken⟩

def Shows (c : Client) (rs : RoomSync) : Prop := c.state.map view = some (view rs.wire)

instance (c : Client) (rs : RoomSync) : Decidable (Shows c rs) := inferInstanceAs (Decidable (_ = _))

/-! What a client holds. -/

/-- The epoch that a client fences by is the one of its state. -/
def Tagged (c : Client) : Prop :=
  match c.state with
  | none => c.lastEpoch = 0
  | some state => state.epoch = c.lastEpoch

/-- A frame is ignored, replaces the state, or restamps it. -/
theorem handleFrame_cases (c : Client) (frame : SubscribeResponse) :
    c.handleFrame frame = c ∨ (∃ state, frame.state? = some state ∧ c.handleFrame frame = ⟨state.epoch, some state⟩) ∨
      ∃ migration prev, frame = .hostMigration migration ∧ c.state = some prev ∧ prev.epoch ≤ migration.newEpoch ∧
        c.handleFrame frame = ⟨migration.newEpoch, some (Client.restamp prev migration)⟩ := by
  have applied : ∀ state, c.applyState state = c ∨ c.applyState state = ⟨state.epoch, some state⟩ := by
    intro state
    unfold Client.applyState
    split
    · exact Or.inr rfl
    · exact Or.inl rfl
  cases frame with
  | update state =>
    rcases applied state with same | taken
    · exact Or.inl same
    · exact Or.inr (Or.inl ⟨state, rfl, taken⟩)
  | snapshot full =>
    rcases applied full.state with same | taken
    · exact Or.inl same
    · exact Or.inr (Or.inl ⟨full.state, rfl, taken⟩)
  | hostMigration migration =>
    cases held : c.state with
    | none => exact Or.inl (by simp [Client.handleFrame, Client.applyMigration, held])
    | some prev =>
      by_cases stale : migration.newEpoch < prev.epoch
      · exact Or.inl (by simp [Client.handleFrame, Client.applyMigration, held, stale])
      · refine Or.inr (Or.inr ⟨migration, prev, rfl, rfl, Nat.le_of_not_lt stale, ?_⟩)
        simp [Client.handleFrame, Client.applyMigration, held, stale]

theorem tagged_handleFrame {c : Client} (tagged : Tagged c) (frame : SubscribeResponse) : Tagged (c.handleFrame frame) := by
  rcases handleFrame_cases c frame with same | ⟨state, _, taken⟩ | ⟨migration, prev, _, _, _, stamped⟩
  · rw [same]
    exact tagged
  · rw [taken]
    rfl
  · rw [stamped]
    rfl

theorem tagged_start : Tagged .start := rfl

theorem tagged_frames (frames : List SubscribeResponse) : Tagged (frames.foldl Client.handleFrame .start) :=
  Machine.run_invariant Tagged (fun _ frame tagged => tagged_handleFrame tagged frame) tagged_start frames

theorem handleFrame_whole {c : Client} {frame : SubscribeResponse} {state : Proto.SyncState}
    (full : frame.state? = some state) (newer : c.lastEpoch ≤ state.epoch) :
    c.handleFrame frame = ⟨state.epoch, some state⟩ := by
  cases frame with
  | update inner =>
    cases full
    exact if_pos newer
  | snapshot inner =>
    cases full
    exact if_pos newer
  | hostMigration migration => cases full

theorem handleFrame_lastEpoch_le {c : Client} {frame : SubscribeResponse} {bound : Nat} (below : c.lastEpoch ≤ bound)
    (within : frame.epoch ≤ bound) : (c.handleFrame frame).lastEpoch ≤ bound := by
  rcases handleFrame_cases c frame with same | ⟨state, full, taken⟩ | ⟨migration, prev, rfl, _, _, stamped⟩
  · rw [same]
    exact below
  · rw [taken]
    rwa [(reports_of_whole full).epoch] at within
  · rw [stamped]
    exact within

theorem frames_lastEpoch_le {frames : List SubscribeResponse} {c : Client} {bound : Nat} (below : c.lastEpoch ≤ bound)
    (within : ∀ frame ∈ frames, frame.epoch ≤ bound) : (frames.foldl Client.handleFrame c).lastEpoch ≤ bound := by
  induction frames generalizing c with
  | nil => exact below
  | cons frame rest ih =>
    rw [List.forall_mem_cons] at within
    exact ih (handleFrame_lastEpoch_le below within.1) within.2

theorem not_shows_of_epoch {c : Client} {rs : RoomSync} (tagged : Tagged c) (different : c.lastEpoch ≠ rs.state.epoch) :
    ¬ Shows c rs := by
  intro shows_
  unfold Tagged at tagged
  unfold Shows at shows_
  cases held : c.state with
  | none => simp [held] at shows_
  | some state =>
    simp only [held, Option.map_some, Option.some.injEq] at tagged shows_
    have same : state.epoch = rs.state.epoch := congrArg View.epoch shows_
    omega

/-! The replay. -/

def replay (rs : RoomSync) (since : Nat) : List SubscribeResponse :=
  (rs.ringBuffer.filter fun fe => fe.epoch > since).map FrameEntry.frame

theorem replay_nothing {rs : RoomSync} {since : Nat} (old : ∀ entry ∈ rs.ringBuffer, entry.epoch ≤ since) :
    replay rs since = [] := by
  have none : (rs.ringBuffer.filter fun fe => fe.epoch > since) = [] := by
    rw [List.filter_eq_nil_iff]
    intro entry member
    have less := old entry member
    simp only [gt_iff_lt, decide_eq_true_eq]
    omega
  rw [replay, none, List.map_nil]

/-- Replaying up to a newest entry above the client leaves that entry's state. -/
theorem replay_newest {initial : Proto.SyncState} {rs : RoomSync} (recorded : Recorded initial rs) {c : Client}
    {older : List FrameEntry} {newest : FrameEntry} {state : Proto.SyncState}
    (ring : rs.ringBuffer = older ++ [newest]) (full : newest.frame.state? = some state)
    (tag : newest.epoch = state.epoch) (above : c.lastEpoch < newest.epoch) :
    (replay rs c.lastEpoch).foldl Client.handleFrame c = ⟨state.epoch, some state⟩ := by
  have split : replay rs c.lastEpoch =
      ((older.filter fun fe => fe.epoch > c.lastEpoch).map FrameEntry.frame) ++ [newest.frame] := by
    simp [replay, ring, above]
  rw [split, List.foldl_append]
  apply handleFrame_whole full
  rw [← tag]
  refine frames_lastEpoch_le above.le ?_
  intro frame member
  obtain ⟨entry, kept, rfl⟩ := List.mem_map.mp member
  have here : entry ∈ older := List.mem_of_mem_filter kept
  obtain ⟨held, _, whole, tagged⟩ := recorded.entry_state (ring ▸ List.mem_append_left _ here)
  have ordered := recorded.ring_ordered
  rw [ring, List.pairwise_append] at ordered
  have less := ordered.2.2 entry here newest (List.mem_singleton_self _)
  rw [(reports_of_whole whole).epoch, ← tagged]
  exact less

/-- The client reaches the current state by replay: the newest ring entry that it
has not seen carries the current epoch, or there is none and it is there already. -/
def Replays (rs : RoomSync) (c : Client) : Prop :=
  match rs.ringBuffer.getLast? with
  | some newest => if c.lastEpoch < newest.epoch then newest.epoch = rs.state.epoch else Shows c rs
  | none => Shows c rs

theorem shows_replay_iff {initial : Proto.SyncState} {rs : RoomSync} (recorded : Recorded initial rs) (c : Client) :
    Shows ((replay rs c.lastEpoch).foldl Client.handleFrame c) rs ↔ Replays rs c := by
  rcases List.eq_nil_or_concat rs.ringBuffer with empty | ⟨older, newest, ring⟩
  · have nothing : replay rs c.lastEpoch = [] := replay_nothing (by simp [empty])
    simp [Replays, nothing, empty]
  rw [List.concat_eq_append] at ring
  have last : rs.ringBuffer.getLast? = some newest := by simp [ring]
  have member : newest ∈ rs.ringBuffer := by simp [ring]
  simp only [Replays, last]
  split
  next above =>
    obtain ⟨state, known, full, tag⟩ := recorded.entry_state member
    rw [replay_newest recorded ring full tag above]
    constructor
    · intro shows_
      have same : view state = view rs.wire := Option.some.inj shows_
      rw [tag]
      exact congrArg View.epoch same
    · intro current
      have same : state = rs.wire := recorded.chronicle.eq_current known (tag.symm.trans current)
      rw [same]
      rfl
  next seen =>
    have nothing : replay rs c.lastEpoch = [] := by
      apply replay_nothing
      intro entry held
      have ordered := recorded.ring_ordered
      rw [ring] at held ordered
      rcases List.mem_append.mp held with old | new
      · have less := (List.pairwise_append.mp ordered).2.2 entry old newest (List.mem_singleton_self _)
        omega
      · rw [List.mem_singleton.mp new]
        omega
    rw [nothing, List.foldl_nil]

/-! The whole call. -/

/-- The client is not ahead of the room, and it is new, too far behind for the
ring, or reaches the current state by replay. -/
def CatchesUp (rs : RoomSync) (c : Client) : Prop :=
  c.lastEpoch ≤ rs.state.epoch ∧
    (c.lastEpoch = 0 ∨ rs.cfg.ringSize < rs.state.epoch - c.lastEpoch ∨ Replays rs c)

theorem applyRecovery_snapshot {rs : RoomSync} {c : Client} {now : Time} (behind : c.lastEpoch ≤ rs.state.epoch) :
    Shows (c.applyRecovery (.snapshot (rs.buildSnapshotLocked now))) rs := by
  have accepted : c.applyState rs.wire = ⟨rs.wire.epoch, some rs.wire⟩ := if_pos behind
  change Shows (c.applyState rs.wire) rs
  rw [accepted]
  rfl

theorem recovery_unchanged {initial : Proto.SyncState} {rs : RoomSync} (recorded : Recorded initial rs) {c : Client}
    {now : Time} (ahead : rs.state.epoch < c.lastEpoch) : c.applyRecovery (rs.recover c.lastEpoch now) = c := by
  unfold recover
  split
  · have nothing : replay rs c.lastEpoch = [] :=
      replay_nothing fun entry member => (recorded.entry_epoch_le member).trans ahead.le
    change (replay rs c.lastEpoch).foldl Client.handleFrame c = c
    rw [nothing, List.foldl_nil]
  · exact if_neg (by change ¬ c.lastEpoch ≤ rs.state.epoch; omega)

theorem shows_recovery_iff {initial : Proto.SyncState} {rs : RoomSync} (recorded : Recorded initial rs) {c : Client}
    (tagged : Tagged c) (now : Time) :
    Shows (c.applyRecovery (rs.recover c.lastEpoch now)) rs ↔ CatchesUp rs c := by
  by_cases behind : c.lastEpoch ≤ rs.state.epoch
  · by_cases replayed : epochGap rs.state.epoch c.lastEpoch ≤ rs.cfg.ringSize ∧ c.lastEpoch > 0
    · have gap : rs.state.epoch - c.lastEpoch ≤ rs.cfg.ringSize := by
        have small := replayed.1
        rwa [epochGap, if_pos behind] at small
      have frames : rs.recover c.lastEpoch now = .frames (replay rs c.lastEpoch) := if_pos replayed
      rw [frames]
      refine (shows_replay_iff recorded c).trans ⟨fun replays => ⟨behind, Or.inr (Or.inr replays)⟩, ?_⟩
      rintro ⟨_, zero | far | replays⟩
      · omega
      · omega
      · exact replays
    · have snapshot : rs.recover c.lastEpoch now = .snapshot (rs.buildSnapshotLocked now) := if_neg replayed
      rw [epochGap, if_pos behind] at replayed
      rw [snapshot]
      refine ⟨fun _ => ⟨behind, ?_⟩, fun _ => applyRecovery_snapshot behind⟩
      omega
  · rw [recovery_unchanged recorded (by omega)]
    refine ⟨fun shows_ => ?_, fun catches => absurd catches.1 behind⟩
    exact absurd shows_ (not_shows_of_epoch tagged (by omega))

/-! Rooms of a running service. -/

def AllRecorded (s : Service) : Prop := ∀ roomID rs, s.room roomID = some rs → ∃ initial, Recorded initial rs

theorem allRecorded_step {s : Service} (event : Service.Event) (all : AllRecorded s) : AllRecorded (s.step event) := by
  intro roomID rs found
  cases step_moves found with
  | same loaded => exact all roomID rs loaded
  | materialised missing made => exact ⟨_, recorded_start _ _ _⟩
  | adopted loaded ownerID now =>
    obtain ⟨initial, recorded⟩ := all roomID _ loaded
    exact ⟨initial, recorded.changes (@adoptOwner_changes Anywhere _ ownerID now)⟩
  | stepped loaded same =>
    obtain ⟨initial, recorded⟩ := all roomID _ loaded
    exact ⟨initial, recorded.step _⟩

theorem allRecorded_start (cfg : SyncConfig) : AllRecorded (Service.start cfg) := by
  intro roomID rs found
  cases found

/-- A client that has applied any frames, of this process or an earlier one,
shows the current state after recovery exactly when it catches up. -/
theorem recover_complete_iff (cfg : SyncConfig) (events : List Service.Event) (roomID : String) (rs : RoomSync)
    (seen : List SubscribeResponse) (now : Time)
    (loaded : (Machine.run Service.step (Service.start cfg) events).room roomID = some rs) :
    Shows ((seen.foldl Client.handleFrame .start).applyRecovery
        (rs.recover (seen.foldl Client.handleFrame .start).lastEpoch now)) rs ↔
      CatchesUp rs (seen.foldl Client.handleFrame .start) := by
  have all := Machine.run_invariant AllRecorded (fun _ event all => allRecorded_step event all)
    (allRecorded_start cfg) events
  obtain ⟨initial, recorded⟩ := all roomID rs loaded
  exact shows_recovery_iff recorded (tagged_frames seen) now

/-! Alice presses play, her heartbeats stop and Bob takes over. -/

def handover : List Service.Event :=
  [.roomCreated "r1" "alice" 0, .room "r1" ⟨.heartbeat "alice" 0 0 0, 0, 0⟩,
    .room "r1" ⟨.command ⟨.play, none, none, ""⟩ 0, 1000, 1000000000⟩,
    .room "r1" ⟨.heartbeat "bob" 0 6000 6000, 6000, 6000000000⟩, .room "r1" ⟨.tick .stored, 7000, 7000000000⟩]

def handedOver : Service := Machine.run Service.step (Service.start {}) handover

/-- A client that saw alice press play and then lost its stream. -/
def disconnected : Client := ((handedOver.frames "r1").take 1).foldl Client.handleFrame .start

/-- Bob presses pause as well. -/
def resumed : List Service.Event := handover ++ [.room "r1" ⟨.command ⟨.pause, none, none, ""⟩ 1, 7500, 7500000000⟩]

def paused : Service := Machine.run Service.step (Service.start {}) resumed

/-- The client that saw alice press play is told of the handover with the pause. -/
theorem new_client_recovers :
    disconnected.lastEpoch = 1 ∧
      ∃ rs, paused.room "r1" = some rs ∧ Shows (disconnected.applyRecovery (rs.recover disconnected.lastEpoch 8000000000)) rs := by
  have catches : (paused.room "r1").map (fun rs => (decide (disconnected.lastEpoch ≤ rs.state.epoch),
      rs.ringBuffer.getLast?.map (fun newest => decide (disconnected.lastEpoch < newest.epoch ∧ newest.epoch = rs.state.epoch)))) =
        some (true, some true) := by
    decide +kernel
  obtain ⟨rs, loaded, right⟩ := Option.map_eq_some_iff.mp catches
  obtain ⟨behind, last⟩ := Prod.mk.inj right
  obtain ⟨newest, found, new⟩ := Option.map_eq_some_iff.mp last
  obtain ⟨unseen, current⟩ := of_decide_eq_true new
  have replays : Replays rs disconnected := by
    rw [Replays, found]
    exact (if_pos unseen).mpr current
  refine ⟨by decide +kernel, rs, loaded, ?_⟩
  exact (recover_complete_iff {} resumed "r1" rs ((handedOver.frames "r1").take 1) 8000000000 loaded).mpr
    ⟨of_decide_eq_true behind, Or.inr (Or.inr replays)⟩

/-- The disconnected client is told nothing of the handover. -/
theorem handover_not_recovered :
    ¬ ∀ (cfg : SyncConfig) (events : List Service.Event) (roomID : String) (rs : RoomSync)
        (seen : List SubscribeResponse) (now : Time),
        (Machine.run Service.step (Service.start cfg) events).room roomID = some rs →
        seen <+: (Machine.run Service.step (Service.start cfg) events).frames roomID →
        Shows ((seen.foldl Client.handleFrame .start).applyRecovery
          (rs.recover (seen.foldl Client.handleFrame .start).lastEpoch now)) rs := by
  intro claim
  have misses : (handedOver.room "r1").map (fun rs =>
      decide (Shows (disconnected.applyRecovery (rs.recover disconnected.lastEpoch 8000000000)) rs)) = some false := by
    decide +kernel
  obtain ⟨rs, loaded, wrong⟩ := Option.map_eq_some_iff.mp misses
  have part : (handedOver.frames "r1").take 1 <+: handedOver.frames "r1" := List.take_prefix 1 _
  exact of_decide_eq_false wrong (claim {} handover "r1" rs _ 8000000000 loaded part)

end VibeSync.Proofs.SyncRecovery
