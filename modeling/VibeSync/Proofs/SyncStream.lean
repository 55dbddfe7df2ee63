import VibeSync.Proofs.SyncRecovery
import VibeSync.Sync.Stream

/-! A client on a live stream. Updates and snapshots carry a whole state; a host
migration is stamped onto what the client has, so it is right exactly when the
playback did not change since then. -/

namespace VibeSync.Proofs.SyncStream
open VibeSync.Sync VibeSync.Sync.RoomSync VibeSync.Proofs.SyncSteps VibeSync.Proofs.SyncFeed VibeSync.Proofs.SyncRecovery

/-- The frame was sent in one of the states of the room. -/
def Genuine (initial : Proto.SyncState) (rs : RoomSync) (frame : SubscribeResponse) : Prop :=
  ∃ state ∈ states initial rs, Reports frame state

def Fed (initial : Proto.SyncState) (channel : Nat) (rs : RoomSync) : Prop :=
  ∀ buffer, rs.subscribers channel = some buffer → ∀ frame ∈ buffer, Genuine initial rs frame

theorem Genuine.grow {initial : Proto.SyncState} {before after : RoomSync} {frame : SubscribeResponse}
    (genuine : Genuine initial before frame) (grown : states initial before ⊆ states initial after) :
    Genuine initial after frame := by
  obtain ⟨state, member, reports⟩ := genuine
  exact ⟨state, grown member, reports⟩

theorem mem_offer {frame other : SubscribeResponse} {buffer : List SubscribeResponse}
    (member : other ∈ offer frame buffer) : other ∈ buffer ∨ other = frame := by
  unfold offer at member
  split at member
  · rcases List.mem_append.mp member with old | new
    · exact Or.inl old
    · exact Or.inr (List.mem_singleton.mp new)
  · exact Or.inl member

/-- A broadcast reaches a channel or is dropped. -/
theorem fed_broadcast {initial : Proto.SyncState} {channel : Nat} {before rs : RoomSync} {frame : SubscribeResponse}
    (fed : Fed initial channel before) (channels : rs.subscribers = before.subscribers)
    (broadcasts : rs.broadcasts = before.broadcasts) (reports : Reports frame rs.wire) :
    Fed initial channel (rs.broadcastLocked frame) ∧
      states initial before ⊆ states initial (rs.broadcastLocked frame) := by
  have grown : states initial (rs.broadcastLocked frame) = states initial before ++ [rs.wire] := by
    rw [states_broadcast, states, broadcasts]
    rfl
  have wider : states initial before ⊆ states initial (rs.broadcastLocked frame) := by
    rw [grown]
    exact List.subset_append_left _ _
  refine ⟨?_, wider⟩
  intro buffer held other member
  simp only [broadcastLocked, channels, Option.map_eq_some_iff] at held
  obtain ⟨old, registered, rfl⟩ := held
  rcases mem_offer member with kept | rfl
  · exact (fed old registered other kept).grow wider
  · exact ⟨rs.wire, by simp [grown], reports⟩

theorem fed_publish {initial : Proto.SyncState} {channel : Nat} {before rs : RoomSync} {frame : SubscribeResponse}
    (fed : Fed initial channel before) (channels : rs.subscribers = before.subscribers)
    (broadcasts : rs.broadcasts = before.broadcasts) (full : frame.state? = some rs.wire) :
    Fed initial channel (rs.publish frame) ∧ states initial before ⊆ states initial (rs.publish frame) :=
  @fed_broadcast initial channel before (rs.addToRingLocked frame) frame fed channels broadcasts (reports_of_whole full)

theorem Change.fed {initial : Proto.SyncState} {channel : Nat} {before after : RoomSync}
    (change : Change (· = channel) before after) (fed : Fed initial channel before) :
    Fed initial channel after ∧ states initial before ⊆ states initial after := by
  cases change with
  | quiet quiet =>
    have same : states initial after = states initial before := by rw [states, states, quiet.broadcasts]
    refine ⟨?_, by rw [same]; exact List.Subset.refl _⟩
    intro buffer held frame member
    rw [quiet.channels channel rfl] at held
    exact (fed buffer held frame member).grow (by rw [same]; exact List.Subset.refl _)
  | update state room epoch token host =>
    exact @fed_publish initial channel before { before with state } _ fed rfl rfl rfl
  | migrate successor now named =>
    refine @fed_broadcast initial channel before _ _ fed rfl rfl ⟨rfl, ?_, rfl⟩
    simp [wire, stateToProto, idOrNone, named]
  | republish frame full => exact fed_publish fed rfl rfl full

theorem Changes.fed {initial : Proto.SyncState} {channel : Nat} {before after : RoomSync}
    (changes : Changes (· = channel) before after) (fed : Fed initial channel before) :
    Fed initial channel after ∧ states initial before ⊆ states initial after := by
  induction changes with
  | refl => exact ⟨fed, List.Subset.refl _⟩
  | tail _ change ih =>
    obtain ⟨middle, grown⟩ := ih
    obtain ⟨last, wider⟩ := Change.fed change middle
    exact ⟨last, List.Subset.trans grown wider⟩

theorem step_fed {initial : Proto.SyncState} {channel : Nat} {rs : RoomSync} (event : Event)
    (fed : Fed initial channel rs) :
    Fed initial channel (rs.step event) ∧ states initial rs ⊆ states initial (rs.step event) := by
  by_cases spares : Spares (· = channel) event
  · exact Changes.fed (step_changes rs event spares) fed
  obtain ⟨action, nowMs, now⟩ := event
  cases action with
  | register other =>
    have same : other = channel := not_not.mp spares
    subst same
    refine ⟨?_, List.Subset.refl _⟩
    intro buffer held frame member
    simp only [RoomSync.step, registerSubscriber, Function.update_self, Option.some.injEq] at held
    rw [← held] at member
    cases member
  | unregister other =>
    have same : other = channel := not_not.mp spares
    subst same
    refine ⟨?_, List.Subset.refl _⟩
    intro buffer held frame member
    simp [RoomSync.step, unregisterSubscriber] at held
  | _ => exact absurd trivial spares

/-! One subscription. -/

structure Carried (initial : Proto.SyncState) (s : Stream) : Prop where
  recorded : Recorded initial s.room
  buffered : Fed initial s.channel s.room
  flying : ∀ frame ∈ s.inFlight, Genuine initial s.room frame

theorem carried_subscribe {initial : Proto.SyncState} {rs : RoomSync} (recorded : Recorded initial rs) (channel : Nat) :
    Carried initial (.subscribe rs channel) := by
  refine ⟨recorded.step ⟨.register channel, 0, 0⟩, ?_, ?_⟩
  · intro buffer held frame member
    simp only [Stream.subscribe, registerSubscriber, Function.update_self, Option.some.injEq] at held
    rw [← held] at member
    cases member
  · intro frame member
    cases member

/-- The client shows what the room was at the client's epoch. -/
def Coherent (initial : Proto.SyncState) (s : Stream) : Prop :=
  ∀ state, s.client.state = some state → ∃ was ∈ states initial s.room, view was = view state

/-- A migration is handled only on top of a state with the playback that the room
had at the migration. -/
def Rebased (initial : Proto.SyncState) (s : Stream) : Stream.Event → Prop
  | .receive => ∀ migration rest prev, s.inFlight = .hostMigration migration :: rest → s.client.state = some prev →
      prev.epoch ≤ migration.newEpoch → ∀ base ∈ states initial s.room, ∀ next ∈ states initial s.room,
        base.epoch = prev.epoch → next.epoch = migration.newEpoch → playback base = playback next
  | _ => True

theorem carried_step {initial : Proto.SyncState} {s : Stream} (event : Stream.Event) (carried : Carried initial s) :
    Carried initial (s.step event) ∧ states initial s.room ⊆ states initial (s.step event).room := by
  cases event with
  | room event =>
    obtain ⟨fed, grown⟩ := step_fed event carried.buffered
    exact ⟨⟨carried.recorded.step event, fed, fun frame member => (carried.flying frame member).grow grown⟩, grown⟩
  | greet now =>
    simp only [Stream.step]
    split
    · exact ⟨carried, List.Subset.refl _⟩
    · refine ⟨⟨carried.recorded, carried.buffered, ?_⟩, List.Subset.refl _⟩
      intro frame member
      rcases List.mem_append.mp member with old | new
      · exact carried.flying frame old
      · rw [List.mem_singleton.mp new]
        exact ⟨s.room.wire, carried.recorded.chronicle.recorded, rfl⟩
  | forward =>
    simp only [Stream.step, Stream.forward]
    split
    next frame rest _ held =>
      refine ⟨⟨?_, ?_, ?_⟩, List.Subset.refl _⟩
      · exact @Recorded.quiet Anywhere _ _ _ carried.recorded
          ⟨rfl, rfl, rfl, rfl, rfl, fun _ impossible => impossible.elim⟩
      · intro buffer kept other member
        simp only [Function.update_self, Option.some.injEq] at kept
        rw [← kept] at member
        exact carried.buffered _ held other (List.mem_cons_of_mem _ member)
      · intro other member
        rcases List.mem_append.mp member with old | new
        · exact carried.flying other old
        · rw [List.mem_singleton.mp new]
          exact carried.buffered _ held frame (List.mem_cons_self ..)
    · exact ⟨carried, List.Subset.refl _⟩
  | receive =>
    simp only [Stream.step, Stream.receive]
    split
    · exact ⟨carried, List.Subset.refl _⟩
    next frame rest flying =>
      refine ⟨⟨carried.recorded, carried.buffered, ?_⟩, List.Subset.refl _⟩
      intro other member
      exact carried.flying other (by rw [flying]; exact List.mem_cons_of_mem _ member)

/-! What receiving a frame does to the client. -/

/-- A migration that fits gives the state of the room at the migration. -/
theorem restamp_view {base next prev : Proto.SyncState} {migration : Proto.HostMigration}
    (coherent : view base = view prev) (reports : Reports (.hostMigration migration) next)
    (same : playback base = playback next) : view next = view (Client.restamp prev migration) := by
  obtain ⟨epoch, host, token⟩ := reports
  have kept : playback prev = playback base := (congrArg View.playback coherent).symm
  have stamped : playback (Client.restamp prev migration) = playback next := kept.trans same
  simp only [view, stamped, View.mk.injEq, true_and]
  exact ⟨epoch.symm, host.symm, token.symm⟩

section Receive
variable {initial : Proto.SyncState} {s : Stream} {frame : SubscribeResponse} {rest : List SubscribeResponse}

theorem receive_eq (flying : s.inFlight = frame :: rest) :
    s.receive = { s with inFlight := rest, client := s.client.handleFrame frame } := by
  simp only [Stream.receive, flying]

theorem coherent_receive_whole (carried : Carried initial s) (coherent : Coherent initial s)
    (flying : s.inFlight = frame :: rest)
    (whole : ∀ migration prev, frame = .hostMigration migration → s.client.state = some prev →
      ¬ prev.epoch ≤ migration.newEpoch) : Coherent initial s.receive := by
  rw [receive_eq flying]
  intro state held
  obtain ⟨next, known, reports⟩ := carried.flying frame (by simp [flying])
  rcases handleFrame_cases s.client frame with same | ⟨sent, full, taken⟩ | ⟨migration, prev, kind, had, newer, _⟩
  · rw [same] at held
    exact coherent state held
  · rw [taken] at held
    cases held
    exact ⟨next, known, congrArg view (reports.whole full).symm⟩
  · exact absurd newer (whole migration prev kind had)

theorem coherent_receive_migration {migration : Proto.HostMigration} {prev : Proto.SyncState}
    (carried : Carried initial s) (coherent : Coherent initial s) (flying : s.inFlight = .hostMigration migration :: rest)
    (held : s.client.state = some prev) (newer : prev.epoch ≤ migration.newEpoch) :
    Coherent initial s.receive ↔ Rebased initial s .receive := by
  obtain ⟨next, known, reports⟩ := carried.flying (.hostMigration migration) (by simp [flying])
  obtain ⟨base, member, shown⟩ := coherent prev held
  have named := carried.recorded.chronicle.named
  have stamped : s.receive.client.state = some (Client.restamp prev migration) := by
    rw [receive_eq flying]
    simp [Client.handleFrame, Client.applyMigration, held, Nat.not_lt.mpr newer]
  have unmoved : s.receive.room = s.room := by rw [receive_eq flying]
  constructor
  · intro after
    obtain ⟨was, present, same⟩ := after _ stamped
    rw [unmoved] at present
    intro other tail first sent had _ old oldKnown new newKnown oldEpoch newEpoch
    rw [flying] at sent
    rw [held] at had
    cases sent
    cases had
    have oldBase : old = base :=
      named old oldKnown base member (oldEpoch.trans (congrArg View.epoch shown).symm)
    have newWas : new = was := named new newKnown was present (newEpoch.trans (congrArg View.epoch same).symm)
    calc playback old = playback prev := by rw [oldBase]; exact congrArg View.playback shown
      _ = playback was := (congrArg View.playback same).symm
      _ = playback new := by rw [newWas]
  · intro fits state taken
    rw [stamped] at taken
    cases taken
    have same := fits migration rest prev flying held newer base member next known (congrArg View.epoch shown)
      reports.1.symm
    exact ⟨next, by rw [unmoved]; exact known, restamp_view shown reports same⟩

theorem coherent_receive_iff (carried : Carried initial s) (coherent : Coherent initial s) :
    Coherent initial s.receive ↔ Rebased initial s .receive := by
  cases flying : s.inFlight with
  | nil =>
    have unchanged : s.receive = s := by simp only [Stream.receive, flying]
    rw [unchanged]
    exact ⟨fun _ _ _ _ impossible => by simp [flying] at impossible, fun _ => coherent⟩
  | cons frame rest =>
    by_cases accepted : ∃ migration prev, frame = .hostMigration migration ∧ s.client.state = some prev ∧
        prev.epoch ≤ migration.newEpoch
    · obtain ⟨migration, prev, rfl, held, newer⟩ := accepted
      exact coherent_receive_migration carried coherent flying held newer
    · have whole : ∀ migration prev, frame = .hostMigration migration → s.client.state = some prev →
          ¬ prev.epoch ≤ migration.newEpoch := fun migration prev kind held newer =>
        accepted ⟨migration, prev, kind, held, newer⟩
      refine ⟨fun _ migration tail prev sent held newer => ?_, fun _ => coherent_receive_whole carried coherent flying whole⟩
      rw [flying] at sent
      cases sent
      exact absurd newer (whole migration prev rfl held)

end Receive

/-! Whole streams. -/

theorem coherent_step_iff {initial : Proto.SyncState} {s : Stream} (event : Stream.Event) (carried : Carried initial s)
    (coherent : Coherent initial s) : Coherent initial (s.step event) ↔ Rebased initial s event := by
  have survives : (s.step event).client = s.client → Coherent initial (s.step event) := by
    intro same state held
    rw [same] at held
    obtain ⟨was, member, shown⟩ := coherent state held
    exact ⟨was, (carried_step event carried).2 member, shown⟩
  cases event with
  | room event => exact ⟨fun _ => trivial, fun _ => survives rfl⟩
  | greet now =>
    refine ⟨fun _ => trivial, fun _ => survives ?_⟩
    simp only [Stream.step]
    split <;> rfl
  | forward =>
    refine ⟨fun _ => trivial, fun _ => survives ?_⟩
    simp only [Stream.step, Stream.forward]
    split <;> rfl
  | receive => exact coherent_receive_iff carried coherent

/-- On a stream of one process the client stays coherent exactly as long as every
host migration it handles finds it with the playback of that moment. -/
theorem stream_coherent_iff (cfg : SyncConfig) (roomID : String) (initial : SyncState) (earlier : List Event)
    (channel : Nat) (events : List Stream.Event) :
    (∀ visit ∈ Machine.trace Stream.step
        (.subscribe (Machine.run RoomSync.step (newRoomSync cfg roomID initial) earlier) channel) events,
      Coherent (stateToProto roomID initial) (visit.1.step visit.2)) ↔
    ∀ visit ∈ Machine.trace Stream.step
        (.subscribe (Machine.run RoomSync.step (newRoomSync cfg roomID initial) earlier) channel) events,
      Rebased (stateToProto roomID initial) visit.1 visit.2 := by
  have recorded := run_recorded (recorded_start cfg roomID initial) earlier
  refine Machine.good_iff_guarded
    (fun s => Carried (stateToProto roomID initial) s ∧ Coherent (stateToProto roomID initial) s)
    (fun s event => Coherent (stateToProto roomID initial) (s.step event)) (Rebased (stateToProto roomID initial))
    ?_ ?_ ?_ events
  · exact fun s event kept => coherent_step_iff event kept.1 kept.2
  · exact fun s event kept fits => ⟨(carried_step event kept.1).1, (coherent_step_iff event kept.1 kept.2).mpr fits⟩
  · exact ⟨carried_subscribe recorded channel, fun _ nothing => by cases nothing⟩

theorem Coherent.not_diverged {initial : Proto.SyncState} {s : Stream} (coherent : Coherent initial s) :
    (s.client.state.map fun state => decide (∃ was ∈ states initial s.room, view was = view state)) ≠ some false := by
  intro diverged
  obtain ⟨state, held, wrong⟩ := Option.map_eq_some_iff.mp diverged
  exact of_decide_eq_false wrong (coherent state held)

/-! Sixteen snapshots fill the channel, the play command is dropped and the
handover to bob gets through. -/

def crowded : List Stream.Event :=
  [.greet 0, .receive, .room ⟨.heartbeat "bob" 0 6000 6000, 6000, 6000000000⟩] ++
    List.replicate 16 (.room ⟨.snapshot, 6000, 6000000000⟩) ++
    [.room ⟨.command ⟨.play, none, none, ""⟩ 0, 6500, 6500000000⟩, .forward,
      .room ⟨.tick .stored, 7000, 7000000000⟩] ++
    List.replicate 16 .forward ++ List.replicate 16 .receive

def abandoned : RoomSync := newRoomSync {} "r1" (RoomManager.initState "r1" "alice")

def crowdedStream : Stream := Machine.run Stream.step (.subscribe abandoned 0) crowded

theorem dropped_play_diverges :
    ¬ ∀ (cfg : SyncConfig) (roomID : String) (initial : SyncState) (earlier : List Event) (channel : Nat)
        (events : List Stream.Event), ∀ visit ∈ Machine.trace Stream.step
          (.subscribe (Machine.run RoomSync.step (newRoomSync cfg roomID initial) earlier) channel) events,
        Coherent (stateToProto roomID initial) (visit.1.step visit.2) := by
  intro claim
  have member : (crowdedStream, Stream.Event.receive) ∈
      Machine.trace Stream.step (.subscribe abandoned 0) (crowded ++ [.receive]) := by
    simp [Machine.trace_append, Machine.trace, crowdedStream]
  have coherent := claim {} "r1" (RoomManager.initState "r1" "alice") [] 0 (crowded ++ [.receive]) _ member
  exact coherent.not_diverged (by decide +kernel)

end VibeSync.Proofs.SyncStream
