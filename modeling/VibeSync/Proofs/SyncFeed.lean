import VibeSync.Chronicle
import VibeSync.Machine
import VibeSync.Proofs.SyncSteps

/-! What a room has broadcast: its epochs name its wire states, and its ring
buffer holds some of the updates and snapshots in the order they were sent. -/

namespace VibeSync.Proofs.SyncFeed
open VibeSync.Sync VibeSync.Sync.RoomSync VibeSync.Proofs.SyncSteps VersionedState

/-- The wire states of a process lifetime that began in `initial`. -/
def states (initial : Proto.SyncState) (rs : RoomSync) : List Proto.SyncState :=
  initial :: rs.broadcasts.map Broadcast.state

/-- What a frame says about the state it was sent in. -/
def Reports (frame : SubscribeResponse) (state : Proto.SyncState) : Prop :=
  match frame with
  | .update sent => sent = state
  | .snapshot full => full.state = state
  | .hostMigration migration =>
    migration.newEpoch = state.epoch ∧ some migration.newHostID = state.hostID ∧
      migration.newFencingToken = state.fencingToken

theorem Reports.epoch {frame : SubscribeResponse} {state : Proto.SyncState} (reports : Reports frame state) :
    frame.epoch = state.epoch := by
  cases frame with
  | update sent => exact congrArg Proto.SyncState.epoch reports
  | snapshot full => exact congrArg Proto.SyncState.epoch reports
  | hostMigration migration => exact reports.1

theorem Reports.whole {frame : SubscribeResponse} {state sent : Proto.SyncState} (reports : Reports frame state)
    (full : frame.state? = some sent) : sent = state := by
  cases frame with
  | update inner =>
    cases full
    exact reports
  | snapshot inner =>
    cases full
    exact reports
  | hostMigration migration => cases full

theorem reports_of_whole {frame : SubscribeResponse} {state : Proto.SyncState} (full : frame.state? = some state) :
    Reports frame state := by
  cases frame with
  | update inner =>
    cases full
    rfl
  | snapshot inner =>
    cases full
    rfl
  | hostMigration migration => cases full

structure Recorded (initial : Proto.SyncState) (rs : RoomSync) : Prop where
  reports : ∀ sent ∈ rs.broadcasts, Reports sent.frame sent.state
  chronicle : Chronicle Proto.SyncState.epoch (states initial rs) rs.wire
  ring : (rs.ringBuffer.map FrameEntry.frame).Sublist (rs.broadcasts.map Broadcast.frame)
  tagged : ∀ entry ∈ rs.ringBuffer, ∃ state, entry.frame.state? = some state ∧ entry.epoch = state.epoch

theorem recorded_start (cfg : SyncConfig) (roomID : String) (initial : SyncState) :
    Recorded (stateToProto roomID initial) (newRoomSync cfg roomID initial) :=
  ⟨by simp [newRoomSync], .start _, by simp [newRoomSync], by simp [newRoomSync]⟩

theorem states_broadcast (initial : Proto.SyncState) (rs : RoomSync) (frame : SubscribeResponse) :
    states initial (rs.broadcastLocked frame) = states initial rs ++ [rs.wire] := by
  simp [states, broadcastLocked]

theorem publish_ring (rs : RoomSync) (frame : SubscribeResponse) :
    (rs.publish frame).ringBuffer.Sublist (rs.ringBuffer ++ [⟨rs.state.epoch, frame⟩]) :=
  List.drop_sublist _ _

/-- A published frame that carries the current state, once the chronicle has
caught up with that state. -/
theorem Recorded.publish {initial : Proto.SyncState} {before rs : RoomSync} {frame : SubscribeResponse}
    (recorded : Recorded initial before) (ring : rs.ringBuffer = before.ringBuffer)
    (broadcasts : rs.broadcasts = before.broadcasts) (full : frame.state? = some rs.wire)
    (chronicle : Chronicle Proto.SyncState.epoch (states initial before ++ [rs.wire]) rs.wire) :
    Recorded initial (rs.publish frame) := by
  refine ⟨?_, ?_, ?_, ?_⟩
  · intro sent member
    rw [publish_broadcasts, broadcasts] at member
    rcases List.mem_append.mp member with old | new
    · exact recorded.reports sent old
    · rw [List.mem_singleton.mp new]
      exact reports_of_whole full
  · have same : states initial (rs.publish frame) = states initial before ++ [rs.wire] := by
      simp [states, broadcasts]
    rw [same]
    exact chronicle
  · have trimmed := (publish_ring rs frame).map FrameEntry.frame
    rw [ring, List.map_append] at trimmed
    rw [publish_broadcasts, broadcasts, List.map_append]
    exact trimmed.trans (recorded.ring.append (List.Sublist.refl _))
  · intro entry member
    have within := (publish_ring rs frame).subset member
    rw [ring] at within
    rcases List.mem_append.mp within with old | new
    · exact recorded.tagged entry old
    · rw [List.mem_singleton.mp new]
      exact ⟨rs.wire, full, rfl⟩

theorem Recorded.quiet {mine : Nat → Prop} {initial : Proto.SyncState} {before after : RoomSync}
    (recorded : Recorded initial before) (quiet : Quiet mine before after) : Recorded initial after := by
  have same : states initial after = states initial before := by rw [states, states, quiet.broadcasts]
  refine ⟨?_, ?_, ?_, ?_⟩
  · rw [quiet.broadcasts]
    exact recorded.reports
  · rw [same, quiet.wire]
    exact recorded.chronicle
  · rw [quiet.ring, quiet.broadcasts]
    exact recorded.ring
  · rw [quiet.ring]
    exact recorded.tagged

theorem Recorded.migrate {initial : Proto.SyncState} {rs : RoomSync} (recorded : Recorded initial rs)
    {successor : String} (named : successor ≠ "") (now : Time) : Recorded initial (rs.migrateHostLocked successor now) := by
  have newer : rs.wire.epoch < (rs.migrateHostLocked successor now).wire.epoch := Nat.lt_succ_self _
  refine ⟨?_, ?_, ?_, recorded.tagged⟩
  · intro sent member
    rcases List.mem_append.mp member with old | new
    · exact recorded.reports sent old
    · rw [List.mem_singleton.mp new]
      exact ⟨rfl, by simp [wire, stateToProto, idOrNone, named], rfl⟩
  · have grown : states initial (rs.migrateHostLocked successor now) =
        states initial rs ++ [(rs.migrateHostLocked successor now).wire] := states_broadcast _ _ _
    rw [grown]
    exact recorded.chronicle.advance newer
  · have grown : (rs.broadcasts.map Broadcast.frame).Sublist
        ((rs.migrateHostLocked successor now).broadcasts.map Broadcast.frame) :=
      (List.sublist_append_left _ _).map _
    exact recorded.ring.trans grown

theorem Recorded.change {mine : Nat → Prop} {initial : Proto.SyncState} {before after : RoomSync}
    (recorded : Recorded initial before) (change : Change mine before after) : Recorded initial after := by
  cases change with
  | quiet quiet => exact recorded.quiet quiet
  | update state room epoch token host =>
    have newer : before.wire.epoch < (stateToProto before.roomID state).epoch := by
      change before.state.epoch < state.epoch
      omega
    exact @Recorded.publish initial before { before with state } _ recorded rfl rfl rfl
      (recorded.chronicle.advance newer)
  | migrate successor now named => exact recorded.migrate named now
  | republish frame full => exact recorded.publish rfl rfl full recorded.chronicle.again

theorem Recorded.changes {mine : Nat → Prop} {initial : Proto.SyncState} {before after : RoomSync}
    (recorded : Recorded initial before) (changes : Changes mine before after) : Recorded initial after := by
  induction changes with
  | refl => exact recorded
  | tail _ change ih => exact ih.change change

theorem Recorded.step {initial : Proto.SyncState} {rs : RoomSync} (recorded : Recorded initial rs) (event : Event) :
    Recorded initial (rs.step event) :=
  recorded.changes (step_changes rs event (spares_anywhere event))

theorem run_recorded {initial : Proto.SyncState} {rs : RoomSync} (recorded : Recorded initial rs) (events : List Event) :
    Recorded initial (Machine.run RoomSync.step rs events) :=
  Machine.run_invariant (Recorded initial) (fun _ event kept => Recorded.step kept event) recorded events

theorem Recorded.frames_ordered {initial : Proto.SyncState} {rs : RoomSync} (recorded : Recorded initial rs) :
    rs.broadcasts.Pairwise fun earlier later => earlier.frame.epoch ≤ later.frame.epoch := by
  have ordered := recorded.chronicle.ordered
  rw [states, List.pairwise_cons, List.pairwise_map] at ordered
  refine ordered.2.imp_of_mem ?_
  intro earlier later before after less
  rw [(recorded.reports earlier before).epoch, (recorded.reports later after).epoch]
  exact less

theorem Recorded.sent_state {initial : Proto.SyncState} {rs : RoomSync} (recorded : Recorded initial rs)
    {sent : Broadcast} (member : sent ∈ rs.broadcasts) {state : Proto.SyncState}
    (full : sent.frame.state? = some state) : state ∈ states initial rs := by
  rw [(recorded.reports sent member).whole full]
  exact List.mem_cons_of_mem _ (List.mem_map_of_mem member)

/-! Epochs name states. -/

/-- The counters are `uint64` in the source. Here they are natural numbers, which
is the same as long as they start low enough for the number of transitions. -/
theorem counters_fit (rs : RoomSync) (events : List Event) :
    (Machine.run RoomSync.step rs events).state.epoch ≤ rs.state.epoch + 2 * events.length ∧
      (Machine.run RoomSync.step rs events).state.fencingToken ≤ rs.state.fencingToken + events.length := by
  induction events generalizing rs with
  | nil => exact ⟨le_rfl, le_rfl⟩
  | cons event rest ih =>
    have first := step_paced rs event
    have later := ih (rs.step event)
    rw [Machine.run_cons, List.length_cons]
    omega

/-- Within one process the epochs of the broadcast frames never decrease, and
updates and snapshots of one epoch carry one state. The epoch is taken not to
wrap around (`counters_fit`), here and in the theorems on streams and recovery. -/
theorem epochs_name_states (cfg : SyncConfig) (roomID : String) (initial : SyncState) (events : List Event) :
    ((Machine.run RoomSync.step (newRoomSync cfg roomID initial) events).broadcasts.Pairwise
        fun earlier later => earlier.frame.epoch ≤ later.frame.epoch) ∧
      ∀ first ∈ (Machine.run RoomSync.step (newRoomSync cfg roomID initial) events).broadcasts,
        ∀ second ∈ (Machine.run RoomSync.step (newRoomSync cfg roomID initial) events).broadcasts,
          ∀ left right, first.frame.state? = some left → second.frame.state? = some right →
            left.epoch = right.epoch → left = right := by
  have recorded := run_recorded (recorded_start cfg roomID initial) events
  generalize Machine.run RoomSync.step (newRoomSync cfg roomID initial) events = rs at recorded
  refine ⟨recorded.frames_ordered, ?_⟩
  intro first here second there left right full whole same
  exact recorded.chronicle.named left (recorded.sent_state here full) right (recorded.sent_state there whole) same

/-! The ring buffer. -/

section Ring
variable {initial : Proto.SyncState} {rs : RoomSync}

/-- A ring entry was broadcast with its whole state. -/
theorem Recorded.entry_state (recorded : Recorded initial rs) {entry : FrameEntry} (member : entry ∈ rs.ringBuffer) :
    ∃ state ∈ states initial rs, entry.frame.state? = some state ∧ entry.epoch = state.epoch := by
  obtain ⟨state, full, tag⟩ := recorded.tagged entry member
  obtain ⟨sent, broadcast, same⟩ := List.mem_map.mp (recorded.ring.subset (List.mem_map_of_mem member))
  rw [← same] at full
  exact ⟨state, recorded.sent_state broadcast full, same ▸ full, tag⟩

theorem Recorded.entry_epoch_le (recorded : Recorded initial rs) {entry : FrameEntry}
    (member : entry ∈ rs.ringBuffer) : entry.epoch ≤ rs.state.epoch := by
  obtain ⟨state, known, _, tag⟩ := recorded.entry_state member
  rw [tag]
  exact recorded.chronicle.reached state known

theorem Recorded.ring_ordered (recorded : Recorded initial rs) :
    rs.ringBuffer.Pairwise fun earlier later => earlier.epoch ≤ later.epoch := by
  have frames : (rs.broadcasts.map Broadcast.frame).Pairwise fun earlier later => earlier.epoch ≤ later.epoch :=
    List.pairwise_map.mpr recorded.frames_ordered
  have entries := List.pairwise_map.mp (frames.sublist recorded.ring)
  refine entries.imp_of_mem ?_
  intro earlier later before after less
  have tag : ∀ entry ∈ rs.ringBuffer, entry.epoch = entry.frame.epoch := by
    intro entry member
    obtain ⟨state, _, full, tag⟩ := recorded.entry_state member
    rw [tag, (reports_of_whole full).epoch]
  rw [tag earlier before, tag later after]
  exact less

end Ring

end VibeSync.Proofs.SyncFeed
