import VibeSync.Proofs.SyncFeed
import VibeSync.Sync.Service

/-! The choice between a replay and a snapshot. The epochs are subtracted as
unsigned numbers, so a client that is ahead of the room by nearly all of the
range passes for one that is a little behind. -/

namespace VibeSync.Proofs.SyncRing
open VibeSync.Sync VibeSync.Sync.RoomSync VibeSync.Proofs.SyncSteps VibeSync.Proofs.SyncFeed

/-! The size of the ring. -/

def Bounded (rs : RoomSync) : Prop := rs.ringBuffer.length ≤ rs.cfg.ringSize

theorem publish_bounded (rs : RoomSync) (frame : SubscribeResponse) : Bounded (rs.publish frame) := by
  change ((rs.ringBuffer ++ [_]).drop _).length ≤ rs.cfg.ringSize
  rw [List.length_drop]
  omega

theorem Bounded.change {mine : Nat → Prop} {before after : RoomSync} (bounded : Bounded before)
    (change : Change mine before after) : Bounded after := by
  cases change with
  | quiet quiet =>
    unfold Bounded
    rw [quiet.ring, quiet.cfg]
    exact bounded
  | update state room epoch token host => exact publish_bounded _ _
  | migrate successor now named => exact bounded
  | republish frame full => exact publish_bounded _ _

theorem Bounded.step {rs : RoomSync} (bounded : Bounded rs) (event : Event) : Bounded (rs.step event) := by
  have changes := step_changes rs event (spares_anywhere event)
  generalize rs.step event = after at changes
  induction changes with
  | refl => exact bounded
  | tail _ change ih => exact ih.change change

theorem run_bounded (cfg : SyncConfig) (roomID : String) (initial : SyncState) (events : List Event) :
    Bounded (Machine.run RoomSync.step (newRoomSync cfg roomID initial) events) :=
  Machine.run_invariant Bounded (fun _ event bounded => bounded.step event) (Nat.zero_le _) events

/-! The choice. -/

/-- What a replay may answer with, in the order of the broadcasts. -/
def replayed (rs : RoomSync) (since : Nat) : List SubscribeResponse :=
  (rs.ringBuffer.filter fun entry => entry.epoch > since).map FrameEntry.frame

/-- The choice with the epochs subtracted as integers. -/
def choice (rs : RoomSync) (since : Nat) (now : Time) : RecoverResponse :=
  if since = 0 ∨ rs.state.epoch < since ∨ (rs.cfg.ringSize : Int) < (rs.state.epoch : Int) - since then
    .snapshot (rs.buildSnapshotLocked now)
  else .frames (replayed rs since)

/-- The client is ahead of the room, by so much that the difference wraps around
to no more than the ring holds. -/
def WrapsAround (rs : RoomSync) (since : Nat) : Prop :=
  rs.state.epoch < since ∧ 2 ^ 64 ≤ (since - rs.state.epoch) + rs.cfg.ringSize

theorem epochGap_behind {current since : Nat} (behind : since ≤ current) : epochGap current since = current - since :=
  if_pos behind

theorem epochGap_ahead {current since : Nat} (ahead : current < since) : epochGap current since = 2 ^ 64 - (since - current) :=
  if_neg (Nat.not_le.mpr ahead)

theorem recover_behind {rs : RoomSync} {since : Nat} (behind : since ≤ rs.state.epoch) (now : Time) :
    rs.recover since now = choice rs since now := by
  unfold recover choice
  rw [epochGap_behind behind]
  by_cases near : rs.state.epoch - since ≤ rs.cfg.ringSize ∧ since > 0
  · rw [if_pos near, if_neg (by omega)]
    rfl
  · rw [if_neg near, if_pos (by omega)]

theorem recover_ahead_iff {rs : RoomSync} {since : Nat} (ahead : rs.state.epoch < since) (now : Time) :
    rs.recover since now = choice rs since now ↔ 2 ^ 64 - (since - rs.state.epoch) > rs.cfg.ringSize := by
  have full : choice rs since now = .snapshot (rs.buildSnapshotLocked now) := if_pos (Or.inr (Or.inl ahead))
  unfold recover
  rw [full, epochGap_ahead ahead]
  split
  next near => exact iff_of_false (by simp) (by omega)
  next far => exact iff_of_true rfl (by omega)

theorem recover_iff {rs : RoomSync} {since : Nat} (unsigned : since < 2 ^ 64) (now : Time) :
    rs.recover since now = choice rs since now ↔ ¬ WrapsAround rs since := by
  unfold WrapsAround
  rcases Nat.lt_or_ge rs.state.epoch since with ahead | behind
  · rw [recover_ahead_iff ahead]
    omega
  · exact iff_of_true (recover_behind behind now) (by omega)

/-- What the ring is at any time: no larger than its size, in the order of the
broadcasts, with epochs that do not decrease and were reached. -/
structure Buffered (rs : RoomSync) : Prop where
  size : rs.ringBuffer.length ≤ rs.cfg.ringSize
  broadcast : (rs.ringBuffer.map FrameEntry.frame).Sublist (rs.broadcasts.map Broadcast.frame)
  ordered : rs.ringBuffer.Pairwise fun earlier later => earlier.epoch ≤ later.epoch
  reached : ∀ entry ∈ rs.ringBuffer, entry.epoch ≤ rs.state.epoch

/-- In every state that a room can reach the ring is as it should be, and the
choice is the right one exactly if the difference does not wrap around. The
room's own epoch is taken to be below `2 ^ 64`. -/
theorem recover_exact_iff (cfg : SyncConfig) (roomID : String) (initial : SyncState) (events : List Event) (rs : RoomSync)
    (reached : Machine.run RoomSync.step (newRoomSync cfg roomID initial) events = rs) (since : Nat) (unsigned : since < 2 ^ 64)
    (now : Time) :
    Buffered rs ∧ (rs.recover since now = choice rs since now ↔ ¬ WrapsAround rs since) := by
  have recorded := run_recorded (recorded_start cfg roomID initial) events
  have bounded := run_bounded cfg roomID initial events
  rw [reached] at recorded bounded
  exact ⟨⟨bounded, recorded.ring, recorded.ring_ordered, fun entry held => recorded.entry_epoch_le held⟩,
    recover_iff unsigned now⟩

/-! A room that alice has just created. -/

def created : RoomSync := newRoomSync {} "r1" (RoomManager.initState "r1" "alice")

/-- She presses play and pause, and a client has seen the first. -/
def toggled : List Event :=
  [⟨.command ⟨.play, none, none, ""⟩ 0, 1000, 1000000000⟩, ⟨.command ⟨.pause, none, none, ""⟩ 0, 2000, 2000000000⟩]

theorem created_behind :
    (Machine.run RoomSync.step created toggled).state.epoch = 2 ∧
      (Machine.run RoomSync.step created toggled).recover 1 0 = choice (Machine.run RoomSync.step created toggled) 1 0 := by
  have behind := recover_exact_iff {} "r1" (RoomManager.initState "r1" "alice") toggled _ rfl 1 (by decide) 0
  exact ⟨by decide +kernel, behind.2.mpr fun wraps => absurd wraps.1 (by decide +kernel)⟩

/-- A client with the largest epoch is answered with nothing. -/
theorem largest_epoch_misses :
    created.recover 18446744073709551615 0 = .frames [] ∧
      ¬ ∀ (cfg : SyncConfig) (roomID : String) (initial : SyncState) (events : List Event) (since : Nat), since < 2 ^ 64 →
        ∀ now : Time, (Machine.run RoomSync.step (newRoomSync cfg roomID initial) events).recover since now =
          choice (Machine.run RoomSync.step (newRoomSync cfg roomID initial) events) since now := by
  refine ⟨by decide, fun claim => ?_⟩
  have chosen := claim {} "r1" (RoomManager.initState "r1" "alice") [] 18446744073709551615 (by decide) 0
  exact absurd chosen (by decide +kernel)

end VibeSync.Proofs.SyncRing
