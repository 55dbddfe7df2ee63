import VibeSync.Proofs.SyncStream
import VibeSync.Sync.Connection

/-! A browser that stays connected. Once everything on its way is handled the
client shows the room, from the last new stream or snapshot on that reached its
channel and for as long as the channel takes every frame. After a restart below
the client's epoch nothing reaches it until the room has caught up. -/

namespace VibeSync.Proofs.SyncConnection
open VibeSync.Sync VibeSync.Sync.RoomSync VibeSync.Proofs.SyncSteps VibeSync.Proofs.SyncFeed VibeSync.Proofs.SyncRecovery
  VibeSync.Proofs.SyncStream Machine

/-! What a step does to the stream. -/

/-- No stream is open and no reply on its way. -/
def Resting : Loop → Prop
  | .subscribing | .recovering none | .waiting _ | .cancelled => True
  | .streaming | .recovering (some _) => False

inductive Moves (c : Connection) (event : Connection.Event) : Connection → Prop where
  | idle {after : Connection} (stream : after.stream = c.stream) (loop : after.loop = c.loop ∨ Resting after.loop) :
      Moves c event after
  | room {after : Connection} (inner : RoomSync.Event) (same : event = .room inner)
      (stream : after.stream = c.stream.step (.room inner)) (loop : after.loop = c.loop) : Moves c event after
  | read {after : Connection} (inner : Stream.Event) (kind : ∀ change, inner ≠ .room change)
      (stream : after.stream = c.stream.step inner) (streaming : c.loop = .streaming) (loop : after.loop = .streaming) :
      Moves c event after
  | subscribed {after : Connection} (channel : Nat) (ready : c.loop = .subscribing)
      (stream : after.stream = { Stream.subscribe c.stream.room channel with client := c.stream.client })
      (loop : after.loop = .streaming) : Moves c event after
  | closed {after : Connection}
      (stream : after.stream = { c.stream with
        room := c.stream.room.unregisterSubscriber c.stream.channel, greeted := false, inFlight := [] })
      (loop : Resting after.loop) : Moves c event after
  | answered {after : Connection} (now : Time) (stream : after.stream = c.stream)
      (loop : after.loop = .recovering (some (c.stream.room.recover c.stream.client.lastEpoch now))) : Moves c event after
  | recovered {after : Connection} (reply : RecoverResponse) (waited : c.loop = .recovering (some reply))
      (stream : after.stream = { c.stream with client := c.stream.client.applyRecovery reply })
      (loop : Resting after.loop) : Moves c event after
  | restarted {after : Connection} (row : SyncState) (same : event = .restart row)
      (stream : after.stream = { c.stream with
        room := newRoomSync c.stream.room.cfg c.stream.room.roomID row, greeted := true, inFlight := [] })
      (loop : after.loop = c.loop ∧ c.loop = .streaming ∨ Resting after.loop) : Moves c event after

theorem step_moves (c : Connection) (event : Connection.Event) : Moves c event (c.step event) := by
  have still : Moves c event c := .idle rfl (Or.inl rfl)
  cases event with
  | room inner => exact .room inner rfl rfl rfl
  | subscribe channel =>
    simp only [Connection.step]
    split
    next ready => exact .subscribed channel ready rfl rfl
    · exact still
  | greet now =>
    simp only [Connection.step]
    split
    next streaming => exact .read (.greet now) (fun _ impossible => by cases impossible) rfl streaming streaming
    · exact still
  | forward =>
    simp only [Connection.step]
    split
    next streaming => exact .read .forward (fun _ impossible => by cases impossible) rfl streaming streaming
    · exact still
  | receive =>
    simp only [Connection.step, Connection.receive]
    split
    next streaming =>
      split
      · exact still
      · exact .read .receive (fun _ impossible => by cases impossible) rfl streaming streaming
    · exact still
  | fail =>
    simp only [Connection.step]
    split
    · exact .closed rfl trivial
    · exact .closed rfl trivial
    · exact still
  | answer now =>
    simp only [Connection.step]
    split
    · exact .answered now rfl rfl
    · exact still
  | recovered =>
    simp only [Connection.step]
    split
    next reply waited => exact .recovered reply waited rfl trivial
    · exact still
  | recoverFails =>
    simp only [Connection.step]
    split
    · exact .idle rfl (Or.inr trivial)
    · exact still
  | timeout =>
    simp only [Connection.step]
    split
    · exact .idle rfl (Or.inr trivial)
    · exact still
  | cancel => exact .closed rfl trivial
  | restart row =>
    refine .restarted row rfl rfl ?_
    simp only [Connection.step, Connection.restart]
    cases c.loop with
    | streaming => exact Or.inl ⟨rfl, rfl⟩
    | _ => exact Or.inr trivial

/-! Everything on its way comes from the room as it is or was. -/

def contents : RecoverResponse → List SubscribeResponse
  | .snapshot full => [.snapshot full]
  | .frames frames => frames

theorem applyRecovery_contents (c : Client) (reply : RecoverResponse) :
    c.applyRecovery reply = (contents reply).foldl Client.handleFrame c := by
  cases reply <;> rfl

structure Sound (c : Connection) : Prop where
  carried : ∃ initial, Carried initial c.stream
  tagged : Tagged c.stream.client
  replied : ∀ reply, c.loop = .recovering (some reply) → ∀ frame ∈ contents reply, frame.epoch ≤ c.stream.room.state.epoch
  first : c.loop = .streaming → c.stream.greeted = false → c.stream.inFlight = []

theorem Genuine.epoch_le {initial : Proto.SyncState} {rs : RoomSync} {frame : SubscribeResponse} (recorded : Recorded initial rs)
    (genuine : Genuine initial rs frame) : frame.epoch ≤ rs.state.epoch := by
  obtain ⟨state, known, reports⟩ := genuine
  rw [reports.epoch]
  exact recorded.chronicle.reached state known

theorem recover_epoch_le {initial : Proto.SyncState} {rs : RoomSync} (recorded : Recorded initial rs) (since : Nat) (now : Time) :
    ∀ frame ∈ contents (rs.recover since now), frame.epoch ≤ rs.state.epoch := by
  unfold RoomSync.recover
  split
  · intro frame member
    simp only [contents, List.mem_map, List.mem_filter] at member
    obtain ⟨entry, ⟨member, _⟩, rfl⟩ := member
    obtain ⟨state, known, full, _⟩ := recorded.entry_state member
    rw [(reports_of_whole full).epoch]
    exact recorded.chronicle.reached state known
  · intro frame member
    rw [List.mem_singleton.mp member]
    exact le_rfl

theorem tagged_fold {c : Client} (tagged : Tagged c) (frames : List SubscribeResponse) :
    Tagged (frames.foldl Client.handleFrame c) :=
  run_invariant Tagged (fun _ frame kept => tagged_handleFrame kept frame) tagged frames

/-- A step hands the client some frames that are no newer than the room. -/
theorem step_handles {c : Connection} (sound : Sound c) (event : Connection.Event) :
    ∃ frames : List SubscribeResponse, (∀ frame ∈ frames, frame.epoch ≤ c.stream.room.state.epoch) ∧
      (c.step event).stream.client = frames.foldl Client.handleFrame c.stream.client := by
  have nothing : ∀ frame ∈ ([] : List SubscribeResponse), frame.epoch ≤ c.stream.room.state.epoch := by simp
  have moves := step_moves c event
  generalize c.step event = after at moves
  cases moves with
  | idle stream loop => exact ⟨[], nothing, by rw [stream]; rfl⟩
  | room inner same stream loop => exact ⟨[], nothing, by rw [stream]; rfl⟩
  | read inner kind stream streaming loop =>
    rw [stream]
    cases inner with
    | room change => exact absurd rfl (kind change)
    | greet now =>
      refine ⟨[], nothing, ?_⟩
      simp only [Stream.step]
      split <;> rfl
    | forward =>
      refine ⟨[], nothing, ?_⟩
      simp only [Stream.step, Stream.forward]
      split <;> rfl
    | receive =>
      simp only [Stream.step, Stream.receive]
      split
      · exact ⟨[], nothing, rfl⟩
      next frame rest flying =>
        obtain ⟨initial, carried⟩ := sound.carried
        have genuine := carried.flying frame (by rw [flying]; exact List.mem_cons_self)
        refine ⟨[frame], ?_, rfl⟩
        intro other member
        rw [List.mem_singleton.mp member]
        exact Genuine.epoch_le carried.recorded genuine
  | subscribed channel ready stream loop => exact ⟨[], nothing, by rw [stream]; rfl⟩
  | closed stream loop => exact ⟨[], nothing, by rw [stream]; rfl⟩
  | answered now stream loop => exact ⟨[], nothing, by rw [stream]; rfl⟩
  | recovered reply waited stream loop =>
    exact ⟨contents reply, sound.replied reply waited, by rw [stream]; exact applyRecovery_contents _ reply⟩
  | restarted row same stream loop => exact ⟨[], nothing, by rw [stream]; rfl⟩

/-- Only a restart takes the room back. -/
theorem step_epoch (c : Connection) {event : Connection.Event} (running : ∀ row, event ≠ .restart row) :
    c.stream.room.state.epoch ≤ (c.step event).stream.room.state.epoch := by
  have moves := step_moves c event
  generalize c.step event = after at moves
  cases moves with
  | idle stream loop => rw [stream]
  | room inner same stream loop =>
    rw [stream]
    exact (step_grows c.stream.room inner).epoch
  | read inner kind stream streaming loop =>
    rw [stream]
    cases inner with
    | room change => exact absurd rfl (kind change)
    | greet now =>
      simp only [Stream.step]
      split <;> exact le_rfl
    | forward =>
      simp only [Stream.step, Stream.forward]
      split <;> exact le_rfl
    | receive =>
      simp only [Stream.step, Stream.receive]
      split <;> exact le_rfl
  | subscribed channel ready stream loop => rw [stream]; exact le_rfl
  | closed stream loop => rw [stream]; exact le_rfl
  | answered now stream loop => rw [stream]
  | recovered reply waited stream loop => rw [stream]
  | restarted row same stream loop => exact absurd same (running row)

theorem step_carried {c : Connection} (sound : Sound c) (event : Connection.Event) :
    ∃ initial, Carried initial (c.step event).stream := by
  obtain ⟨initial, carried⟩ := sound.carried
  have moves := step_moves c event
  generalize c.step event = after at moves
  cases moves with
  | idle stream loop => exact ⟨initial, stream ▸ carried⟩
  | room inner same stream loop => exact ⟨initial, stream ▸ (carried_step (.room inner) carried).1⟩
  | read inner kind stream streaming loop => exact ⟨initial, stream ▸ (carried_step inner carried).1⟩
  | subscribed channel ready stream loop =>
    have opened := carried_subscribe carried.recorded channel
    exact ⟨initial, stream ▸ ⟨opened.recorded, opened.buffered, opened.flying⟩⟩
  | closed stream loop =>
    refine ⟨initial, stream ▸ ⟨?_, ?_, ?_⟩⟩
    · exact carried.recorded.step ⟨.unregister c.stream.channel, 0, 0⟩
    · exact (step_fed ⟨.unregister c.stream.channel, 0, 0⟩ carried.buffered).1
    · simp
  | answered now stream loop => exact ⟨initial, stream ▸ carried⟩
  | recovered reply waited stream loop => exact ⟨initial, stream ▸ ⟨carried.recorded, carried.buffered, carried.flying⟩⟩
  | restarted row same stream loop =>
    refine ⟨stateToProto c.stream.room.roomID row, ?_⟩
    rw [stream]
    refine ⟨recorded_start _ _ row, ?_, ?_⟩
    · intro buffer held
      cases held
    · simp

theorem resting_reply {loop : Loop} (resting : Resting loop) (reply : RecoverResponse) : loop ≠ .recovering (some reply) := by
  rintro rfl
  exact resting

theorem resting_streaming {loop : Loop} (resting : Resting loop) : loop ≠ .streaming := by
  rintro rfl
  exact resting

theorem step_replied {c : Connection} (sound : Sound c) (event : Connection.Event) (reply : RecoverResponse)
    (waiting : (c.step event).loop = .recovering (some reply)) :
    ∀ frame ∈ contents reply, frame.epoch ≤ (c.step event).stream.room.state.epoch := by
  obtain ⟨initial, carried⟩ := sound.carried
  have moves := step_moves c event
  generalize c.step event = after at moves waiting
  cases moves with
  | idle stream loop =>
    rcases loop with same | resting
    · rw [stream]
      exact sound.replied reply (same ▸ waiting)
    · exact absurd waiting (resting_reply resting reply)
  | room inner same stream loop =>
    intro frame member
    rw [stream]
    exact (sound.replied reply (loop ▸ waiting) frame member).trans (step_grows c.stream.room inner).epoch
  | read inner kind stream streaming loop => simp [loop] at waiting
  | subscribed channel ready stream loop => simp [loop] at waiting
  | closed stream loop => exact absurd waiting (resting_reply loop reply)
  | answered now stream loop =>
    rw [loop] at waiting
    cases waiting
    rw [stream]
    exact recover_epoch_le carried.recorded _ now
  | recovered reply waited stream loop => exact absurd waiting (resting_reply loop _)
  | restarted row same stream loop =>
    rcases loop with ⟨kept, streaming⟩ | resting
    · rw [kept, streaming] at waiting
      cases waiting
    · exact absurd waiting (resting_reply resting reply)

/-- The greeting is the first frame of a stream. -/
theorem step_first {c : Connection} (sound : Sound c) (event : Connection.Event) (streaming : (c.step event).loop = .streaming)
    (silent : (c.step event).stream.greeted = false) : (c.step event).stream.inFlight = [] := by
  have moves := step_moves c event
  generalize c.step event = after at moves streaming silent
  cases moves with
  | idle stream loop =>
    rw [stream] at silent ⊢
    rcases loop with same | resting
    · exact sound.first (same ▸ streaming) silent
    · exact absurd streaming (resting_streaming resting)
  | room inner same stream loop =>
    rw [stream] at silent ⊢
    exact sound.first (loop ▸ streaming) silent
  | read inner kind stream was loop =>
    rw [stream] at silent ⊢
    cases inner with
    | room change => exact absurd rfl (kind change)
    | greet now =>
      simp only [Stream.step] at silent ⊢
      split at silent
      next greeted => simp [greeted] at silent
      · cases silent
    | forward =>
      simp only [Stream.step, Stream.forward] at silent ⊢
      split at silent
      next greeted _ => simp [greeted] at silent
      · exact sound.first was silent
    | receive =>
      simp only [Stream.step, Stream.receive] at silent ⊢
      split at silent
      next nothing => exact nothing
      next flying => simp [sound.first was silent] at flying
  | subscribed channel ready stream loop =>
    rw [stream]
    rfl
  | closed stream loop => exact absurd streaming (resting_streaming loop)
  | answered now stream loop => simp [loop] at streaming
  | recovered reply waited stream loop => exact absurd streaming (resting_streaming loop)
  | restarted row same stream loop =>
    rw [stream]

theorem Sound.step {c : Connection} (sound : Sound c) (event : Connection.Event) : Sound (c.step event) := by
  refine ⟨step_carried sound event, ?_, step_replied sound event, step_first sound event⟩
  obtain ⟨frames, _, handled⟩ := step_handles sound event
  rw [handled]
  exact tagged_fold sound.tagged frames

theorem sound_mount (cfg : SyncConfig) (roomID : String) (initial : SyncState) :
    Sound (.mount (newRoomSync cfg roomID initial)) := by
  refine ⟨⟨_, recorded_start cfg roomID initial, ?_, ?_⟩, tagged_start, ?_, ?_⟩
  · intro buffer held
    cases held
  · intro frame member
    cases member
  · intro reply waiting
    cases waiting
  · intro streaming
    cases streaming

theorem sound_run {c : Connection} (sound : Sound c) (events : List Connection.Event) : Sound (run Connection.step c events) :=
  run_invariant Sound (fun _ event kept => kept.step event) sound events

/-! Epochs. -/

theorem handleFrame_stale {c : Client} (tagged : Tagged c) {frame : SubscribeResponse} (old : frame.epoch < c.lastEpoch) :
    c.handleFrame frame = c := by
  cases frame with
  | update state => exact if_neg (Nat.not_le.mpr old)
  | snapshot full => exact if_neg (Nat.not_le.mpr old)
  | hostMigration migration =>
    simp only [Client.handleFrame, Client.applyMigration]
    cases held : c.state with
    | none => rfl
    | some prev =>
      simp only [Tagged, held] at tagged
      exact if_pos (tagged ▸ old)

/-- The client is no newer than the room. -/
def Behind (c : Connection) : Prop := c.stream.client.lastEpoch ≤ c.stream.room.state.epoch

def Running : Connection.Event → Prop
  | .restart _ => False
  | _ => True

theorem Running.ne {event : Connection.Event} (running : Running event) (row : SyncState) : event ≠ .restart row := by
  rintro rfl
  exact running

theorem Behind.step {c : Connection} (sound : Sound c) (behind : Behind c) {event : Connection.Event}
    (running : Running event) : Behind (c.step event) := by
  obtain ⟨frames, within, handled⟩ := step_handles sound event
  have handled_le := frames_lastEpoch_le behind within
  rw [← handled] at handled_le
  exact handled_le.trans (step_epoch c running.ne)

theorem behind_run {c : Connection} (sound : Sound c) (behind : Behind c) {events : List Connection.Event}
    (running : ∀ event ∈ events, Running event) : Behind (run Connection.step c events) := by
  refine (run_of_guarded (fun c => Sound c ∧ Behind c) (fun _ => Running) ?_ ⟨sound, behind⟩ ?_).2
  · intro c event kept guarded
    exact ⟨kept.1.step event, kept.2.step kept.1 guarded⟩
  · intro visit visited
    exact running visit.2 (trace_event visited)

/-- A room whose row is four epochs behind what the client has seen. -/
def early : SyncState := { RoomManager.initState "r1" "alice" with epoch := 3 }

def seen : List Connection.Event := [.subscribe 0, .greet 0, .receive]

/-- As many frames entered the channel as were broadcast. -/
def Kept (channel : Nat) (before after : RoomSync) : Prop :=
  ∃ old new, before.subscribers channel = some old ∧ after.subscribers channel = some new ∧
    new.length + before.broadcasts.length = old.length + after.broadcasts.length

theorem length_offer_le (frame : SubscribeResponse) (buffer : List SubscribeResponse) :
    (offer frame buffer).length ≤ buffer.length + 1 := by
  unfold offer
  split <;> simp

theorem offer_of_length {frame : SubscribeResponse} {buffer : List SubscribeResponse}
    (grown : (offer frame buffer).length = buffer.length + 1) : offer frame buffer = buffer ++ [frame] := by
  unfold offer at grown ⊢
  split at grown
  next space => rw [if_pos space]
  · omega

section Shown
variable {initial : Proto.SyncState} {rs after : RoomSync} {c : Client} {frame : SubscribeResponse}

/-- What a client that shows the room holds. -/
theorem shown_state (tagged : Tagged c) (shown : Shows c rs) :
    ∃ prev, c.state = some prev ∧ view rs.wire = view prev ∧ prev.epoch = c.lastEpoch ∧ c.lastEpoch = rs.state.epoch := by
  unfold Shows at shown
  unfold Tagged at tagged
  cases held : c.state with
  | none => simp [held] at shown
  | some prev =>
    simp only [held, Option.map_some, Option.some.injEq] at tagged shown
    have same : prev.epoch = rs.state.epoch := congrArg View.epoch shown
    exact ⟨prev, rfl, shown.symm, tagged, tagged ▸ same⟩

theorem shows_whole (full : frame.state? = some rs.wire) (newer : c.lastEpoch ≤ rs.state.epoch) : Shows (c.handleFrame frame) rs := by
  rw [handleFrame_whole full newer]
  rfl

/-- A migration on top of the state that it started from. -/
theorem shows_migration {migration : Proto.HostMigration} (tagged : Tagged c) (shown : Shows c rs)
    (reports : Reports (.hostMigration migration) after.wire) (newer : rs.state.epoch ≤ after.state.epoch)
    (same : playback rs.wire = playback after.wire) : Shows (c.handleFrame (.hostMigration migration)) after := by
  obtain ⟨prev, held, coherent, tag, current⟩ := shown_state tagged shown
  have epoch : migration.newEpoch = after.state.epoch := reports.1
  have accepted : ¬ migration.newEpoch < prev.epoch := by omega
  simp only [Shows, Client.handleFrame, Client.applyMigration, held, if_neg accepted, Option.map_some, Option.some.injEq]
  exact (restamp_view coherent reports same).symm

/-- A client that shows a room still does after any frame the room has sent. -/
theorem shows_genuine (recorded : Recorded initial rs) (genuine : Genuine initial rs frame) (tagged : Tagged c)
    (shown : Shows c rs) : Shows (c.handleFrame frame) rs := by
  obtain ⟨prev, held, coherent, tag, current⟩ := shown_state tagged shown
  by_cases old : frame.epoch < c.lastEpoch
  · rw [handleFrame_stale tagged old]
    exact shown
  have reached := Genuine.epoch_le recorded genuine
  obtain ⟨state, known, reports⟩ := genuine
  have same : state = rs.wire := by
    refine recorded.chronicle.named state known rs.wire recorded.chronicle.recorded ?_
    have epoch := reports.epoch
    change state.epoch = rs.state.epoch
    omega
  subst same
  cases frame with
  | update sent => exact shows_whole (congrArg some reports) (by omega)
  | snapshot full => exact shows_whole (congrArg some reports) (by omega)
  | hostMigration migration => exact shows_migration tagged shown reports le_rfl rfl

theorem shows_genuine_fold (recorded : Recorded initial rs) {frames : List SubscribeResponse}
    (genuine : ∀ frame ∈ frames, Genuine initial rs frame) (tagged : Tagged c) (shown : Shows c rs) :
    Shows (frames.foldl Client.handleFrame c) rs := by
  induction frames generalizing c with
  | nil => exact shown
  | cons frame rest ih =>
    obtain ⟨here, later⟩ := List.forall_mem_cons.mp genuine
    exact ih later (tagged_handleFrame tagged frame) (shows_genuine recorded here tagged shown)

end Shown

/-- A frame that takes a client from the room before it to the room after it. -/
def Carries (frame : SubscribeResponse) (before after : RoomSync) : Prop :=
  ∀ c : Client, Tagged c → Shows c before → Shows (c.handleFrame frame) after

section Channel
variable {channel : Nat} {before after : RoomSync} {old : List SubscribeResponse}

/-- A change says nothing and leaves the wire state, or offers the channel one
frame that carries a client over it. -/
theorem change_offers (change : Change (· = channel) before after) (held : before.subscribers channel = some old) :
    (after.subscribers channel = some old ∧ after.broadcasts.length = before.broadcasts.length ∧ after.wire = before.wire) ∨
      ∃ frame, after.subscribers channel = some (offer frame old) ∧
        after.broadcasts.length = before.broadcasts.length + 1 ∧ Carries frame before after := by
  cases change with
  | quiet quiet => exact Or.inl ⟨(quiet.channels channel rfl).trans held, congrArg List.length quiet.broadcasts, quiet.wire⟩
  | update state room epoch token host =>
    refine Or.inr ⟨.update (stateToProto before.roomID state), ?_, ?_, ?_⟩
    · simp [broadcastUpdateLocked, RoomSync.publish, broadcastLocked, addToRingLocked, held, wire]
    · simp [broadcastUpdateLocked, RoomSync.publish, broadcastLocked, addToRingLocked]
    · intro c tagged shown
      obtain ⟨_, _, _, _, current⟩ := shown_state tagged shown
      refine shows_whole rfl ?_
      change c.lastEpoch ≤ state.epoch
      omega
  | migrate successor now named =>
    refine Or.inr ⟨.hostMigration ⟨before.roomID, before.state.hostID, successor, before.state.epoch + 1,
      before.state.fencingToken + 1, now⟩, ?_, ?_, ?_⟩
    · simp [migrateHostLocked, broadcastLocked, held]
    · simp [migrateHostLocked, broadcastLocked]
    · intro c tagged shown
      refine shows_migration tagged shown ⟨rfl, ?_, rfl⟩ (Nat.le_succ _) rfl
      simp [migrateHostLocked, broadcastLocked, wire, stateToProto, idOrNone, named]
  | republish frame full =>
    refine Or.inr ⟨frame, ?_, ?_, ?_⟩
    · simp [RoomSync.publish, broadcastLocked, addToRingLocked, held]
    · simp [RoomSync.publish, broadcastLocked, addToRingLocked]
    · intro c tagged shown
      obtain ⟨_, _, _, _, current⟩ := shown_state tagged shown
      exact @shows_whole (before.publish frame) c frame full current.le

theorem changes_settle {base : Client} (changes : Changes (· = channel) before after) (tagged : Tagged base)
    (held : before.subscribers channel = some old) (shown : Shows (old.foldl Client.handleFrame base) before) :
    ∃ new, after.subscribers channel = some new ∧
      new.length + before.broadcasts.length ≤ old.length + after.broadcasts.length ∧
      (new.length + before.broadcasts.length = old.length + after.broadcasts.length →
        Shows (new.foldl Client.handleFrame base) after) := by
  induction changes with
  | refl => exact ⟨old, held, le_rfl, fun _ => shown⟩
  | tail _ change ih =>
    obtain ⟨middle, registered, most, settled⟩ := ih
    rcases change_offers change registered with ⟨same, broadcasts, wire⟩ | ⟨frame, offered, broadcasts, carries⟩
    · refine ⟨middle, same, by omega, fun all => ?_⟩
      unfold Shows at settled ⊢
      rw [wire]
      exact settled (by omega)
    · have short := length_offer_le frame middle
      refine ⟨offer frame middle, offered, by omega, fun all => ?_⟩
      rw [offer_of_length (by omega), List.foldl_append]
      exact carries _ (tagged_fold tagged middle) (settled (by omega))

end Channel

/-- While the stream is open its channel is registered, and once all that is on
its way is handled the client shows the room. -/
def Settling (c : Connection) : Prop :=
  c.loop = .streaming → ∃ buffer, c.stream.room.subscribers c.stream.channel = some buffer ∧
    (c.stream.greeted = true → Shows ((c.stream.inFlight ++ buffer).foldl Client.handleFrame c.stream.client) c.stream.room)

/-- Nobody else touches the channel, and it takes every frame once the client is
greeted. -/
def Lossless (c : Connection) : Connection.Event → Prop
  | .room event => c.loop = .streaming → Spares (· = c.stream.channel) event ∧
      (c.stream.greeted = true → Kept c.stream.channel c.stream.room (c.stream.room.step event))
  | .restart _ => False
  | _ => True

theorem Lossless.running {c : Connection} {event : Connection.Event} (lossless : Lossless c event) : Running event := by
  cases event with
  | restart row => exact lossless
  | _ => trivial

section Settling
variable {c : Connection}

theorem changes_registered {channel : Nat} {before after : RoomSync} {old : List SubscribeResponse}
    (changes : Changes (· = channel) before after) (held : before.subscribers channel = some old) :
    ∃ new, after.subscribers channel = some new := by
  induction changes with
  | refl => exact ⟨old, held⟩
  | tail _ change ih =>
    obtain ⟨middle, registered⟩ := ih
    rcases change_offers change registered with ⟨same, _⟩ | ⟨frame, offered, _⟩
    · exact ⟨middle, same⟩
    · exact ⟨_, offered⟩

theorem settling_room (sound : Sound c) (settling : Settling c) {event : RoomSync.Event} (lossless : Lossless c (.room event)) :
    Settling (c.step (.room event)) := by
  intro streaming
  obtain ⟨old, held, shown⟩ := settling streaming
  obtain ⟨spares, kept⟩ := lossless streaming
  have changes := step_changes c.stream.room event spares
  obtain ⟨new, registered⟩ := changes_registered changes held
  refine ⟨new, registered, fun greeted => ?_⟩
  obtain ⟨first, last, before, after, all⟩ := kept greeted
  cases held.symm.trans before
  cases registered.symm.trans after
  have base := shown greeted
  rw [List.foldl_append] at base
  obtain ⟨last, found, _, settled⟩ := changes_settle changes (tagged_fold sound.tagged c.stream.inFlight) held base
  cases registered.symm.trans found
  change Shows ((c.stream.inFlight ++ new).foldl Client.handleFrame c.stream.client) (c.stream.room.step event)
  rw [List.foldl_append]
  exact settled all

/-- The greeting is newer than all that waits in the channel. -/
theorem settling_greet (sound : Sound c) (behind : Behind c) (settling : Settling c) (now : Time) :
    Settling (c.step (.greet now)) := by
  by_cases open_ : c.loop = .streaming
  swap
  · simp only [Connection.step]
    exact settling
  obtain ⟨buffer, held, shown⟩ := settling open_
  have opened : c.step (.greet now) = { c with stream := c.stream.step (.greet now) } := by simp only [Connection.step, open_]
  rw [opened]
  cases silent : c.stream.greeted with
  | true =>
    simp only [Stream.step, silent, ↓reduceIte]
    exact settling
  | false =>
    obtain ⟨initial, carried⟩ := sound.carried
    simp only [Stream.step, silent, Bool.false_eq_true, ↓reduceIte, sound.first open_ silent, List.nil_append]
    intro _
    refine ⟨buffer, held, fun _ => ?_⟩
    simp only [List.singleton_append, List.foldl_cons]
    refine shows_genuine_fold carried.recorded (carried.buffered buffer held) (tagged_handleFrame sound.tagged _) ?_
    exact shows_whole rfl behind

theorem settling_forward (settling : Settling c) : Settling (c.step .forward) := by
  simp only [Connection.step]
  split
  next streaming =>
    obtain ⟨buffer, held, shown⟩ := settling streaming
    simp only [Stream.forward]
    split
    next frame rest greeted found =>
      cases held.symm.trans found
      refine fun _ => ⟨rest, by simp, fun _ => ?_⟩
      have same := shown greeted
      simp only [List.append_assoc, List.singleton_append]
      exact same
    · exact settling
  · exact settling

theorem settling_receive (settling : Settling c) : Settling (c.step .receive) := by
  simp only [Connection.step, Connection.receive]
  split
  next streaming =>
    split
    · exact settling
    next frame rest flying =>
      obtain ⟨buffer, held, shown⟩ := settling streaming
      simp only [Stream.receive, flying]
      refine fun _ => ⟨buffer, held, fun greeted => ?_⟩
      have same := shown greeted
      rw [flying] at same
      exact same
  · exact settling

theorem settling_subscribe {channel : Nat} (ready : c.loop = .subscribing) : Settling (c.step (.subscribe channel)) := by
  simp only [Connection.step, ready]
  refine fun _ => ⟨[], by simp [Connection.subscribe, Stream.subscribe, registerSubscriber], fun greeted => ?_⟩
  cases greeted

theorem Settling.step (sound : Sound c) (behind : Behind c) (settling : Settling c) {event : Connection.Event}
    (lossless : Lossless c event) : Settling (c.step event) := by
  cases event with
  | room event => exact settling_room sound settling lossless
  | subscribe channel =>
    by_cases ready : c.loop = .subscribing
    · exact settling_subscribe ready
    · simp only [Connection.step]
      exact settling
  | greet now => exact settling_greet sound behind settling now
  | forward => exact settling_forward settling
  | receive => exact settling_receive settling
  | fail =>
    simp only [Connection.step]
    split
    · exact fun streaming => by cases streaming
    · exact fun streaming => by cases streaming
    · exact settling
  | answer now =>
    simp only [Connection.step]
    split
    · exact fun streaming => by cases streaming
    · exact settling
  | recovered =>
    simp only [Connection.step]
    split
    · exact fun streaming => by cases streaming
    · exact settling
  | recoverFails =>
    simp only [Connection.step]
    split
    · exact fun streaming => by cases streaming
    · exact settling
  | timeout =>
    simp only [Connection.step]
    split
    · exact fun streaming => by cases streaming
    · exact settling
  | cancel => exact fun streaming => by cases streaming
  | restart row => exact lossless.elim

/-- What makes up for all that was lost before: a new stream, or a snapshot that
enters the channel. -/
inductive Heals (c : Connection) : Connection.Event → Prop where
  | subscribe (channel : Nat) (ready : c.loop = .subscribing) : Heals c (.subscribe channel)
  | snapshot (nowMs : Int) (now : Time)
      (kept : Kept c.stream.channel c.stream.room (c.stream.room.step ⟨.snapshot, nowMs, now⟩)) :
      Heals c (.room ⟨.snapshot, nowMs, now⟩)

theorem Heals.settling (sound : Sound c) (behind : Behind c) {event : Connection.Event} (heals : Heals c event) :
    Settling (c.step event) := by
  cases heals with
  | subscribe channel ready => exact settling_subscribe ready
  | snapshot nowMs now kept =>
    intro _
    obtain ⟨initial, carried⟩ := sound.carried
    obtain ⟨old, new, held, registered, all⟩ := kept
    refine ⟨new, registered, fun _ => ?_⟩
    have offered : (c.stream.room.step ⟨.snapshot, nowMs, now⟩).subscribers c.stream.channel =
        some (offer (.snapshot (c.stream.room.buildSnapshotLocked now)) old) := by
      simp [RoomSync.step, broadcastSnapshot, RoomSync.publish, broadcastLocked, addToRingLocked, held]
    have broadcasts : (c.stream.room.step ⟨.snapshot, nowMs, now⟩).broadcasts.length = c.stream.room.broadcasts.length + 1 := by
      simp [RoomSync.step, broadcastSnapshot, RoomSync.publish, broadcastLocked, addToRingLocked]
    cases offered.symm.trans registered
    rw [offer_of_length (by omega), ← List.append_assoc, List.foldl_append, List.foldl_cons, List.foldl_nil]
    refine @shows_whole (c.stream.room.step ⟨.snapshot, nowMs, now⟩) _ _ rfl ?_
    -- Nothing on its way is newer than the room.
    change _ ≤ c.stream.room.state.epoch
    refine frames_lastEpoch_le behind ?_
    intro frame member
    rcases List.mem_append.mp member with flying | waiting
    · exact Genuine.epoch_le carried.recorded (carried.flying frame flying)
    · exact Genuine.epoch_le carried.recorded (carried.buffered old held frame waiting)

end Settling

/-- Whatever happened before, from a new stream or a snapshot on, and for as long
as the channel takes every frame: once all that is on its way to the client is
handled, the client shows the room. A client that has seen a newer epoch than the
room's is excepted, which takes a restart. -/
theorem viewer_settles (cfg : SyncConfig) (roomID : String) (initial : SyncState) (before after : List Connection.Event)
    (reached : (∀ event ∈ before, Running event) ∨ Behind (run Connection.step (.mount (newRoomSync cfg roomID initial)) before))
    {healing : Connection.Event} (heals : Heals (run Connection.step (.mount (newRoomSync cfg roomID initial)) before) healing)
    (lossless : ∀ visit ∈ trace Connection.step
      ((run Connection.step (.mount (newRoomSync cfg roomID initial)) before).step healing) after, Lossless visit.1 visit.2) :
    Settling (run Connection.step ((run Connection.step (.mount (newRoomSync cfg roomID initial)) before).step healing) after) := by
  have sound := sound_run (sound_mount cfg roomID initial) before
  have behind : Behind (run Connection.step (.mount (newRoomSync cfg roomID initial)) before) := by
    rcases reached with running | behind
    · exact behind_run (sound_mount cfg roomID initial) (Nat.zero_le _) running
    · exact behind
  generalize run Connection.step (.mount (newRoomSync cfg roomID initial)) before = c at sound behind heals lossless ⊢
  have running : Running healing := by cases heals <;> trivial
  refine (run_of_guarded (fun c => Sound c ∧ Behind c ∧ Settling c) Lossless ?_
    ⟨sound.step healing, behind.step sound running, heals.settling sound behind⟩ lossless).2.2
  intro c event kept guarded
  exact ⟨kept.1.step event, kept.2.1.step kept.1 guarded.running, kept.2.2.step kept.1 kept.2.1 guarded⟩

def lounge : RoomSync := newRoomSync {} "r1" early

def playing : RoomSync.Event := ⟨.command ⟨.play, none, none, ""⟩ 0, 0, 0⟩

/-- A stream breaks, and the client comes back while the room goes on. -/
theorem second_stream_settles :
    Settling (run Connection.step ((run Connection.step (.mount lounge) (seen ++ [.fail, .recoverFails, .timeout])).step
      (.subscribe 1)) [.room playing, .greet 0, .forward, .receive, .room playing]) := by
  refine viewer_settles {} "r1" early _ _ (Or.inl (by simp [seen, Running])) (.subscribe 1 rfl) ?_
  simp only [trace, List.forall_mem_cons, List.not_mem_nil, Lossless, false_imp_iff, implies_true, and_true, true_and]
  refine ⟨fun _ => ⟨trivial, fun greeted => by cases greeted⟩, fun _ => ⟨trivial, fun _ => ?_⟩⟩
  exact ⟨_, _, rfl, rfl, rfl⟩

end VibeSync.Proofs.SyncConnection
