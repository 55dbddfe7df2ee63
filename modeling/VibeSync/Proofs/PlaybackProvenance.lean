import VibeSync.Proofs.PlaybackEvents
import VibeSync.Proofs.PlaybackOrder
import VibeSync.Proofs.SyncProvenance

/-! Where the Playback service's copies of rooms come from. On the way from a room's
outbox to the consumer an event may be late, repeated or overtaken; a copy still
shows a state that the room has had. -/

namespace VibeSync.Proofs.PlaybackProvenance
open VibeSync.Playback Machine VibeSync.Proofs.PlaybackEvents VibeSync.Proofs.PlaybackOrder
open VibeSync.Proofs.SyncProvenance (Sourced)

structure World where
  sync : Sync.Service
  /-- What the rooms have staged. -/
  staged : List Sync.OutboxEvent
  playback : Service

inductive Event where
  | sync (event : Sync.Service.Event)
  /-- The loop of a room stages an event. -/
  | stage (roomID id : String) (now occurredAt : Time)
  /-- The consumer handles a staged event, for the first time or again. -/
  | deliver (place : Nat) (now : Time)
  | playback (event : Service.Event)

namespace World

def start (cfg : Sync.SyncConfig) : World := ⟨.start cfg, [], .new fun _ => none⟩

def stage (w : World) (roomID id : String) (now occurredAt : Time) : World :=
  match w.sync.room roomID with
  | some rs => { w with staged := w.staged ++ [rs.stageOutbox id now occurredAt] }
  | none => w

def deliver (w : World) (place : Nat) (now : Time) : World :=
  match w.staged[place]? with
  | some event => { w with playback := w.playback.step (.syncUpdated (some event.payload) now) }
  | none => w

/-- Messages come by delivery only. -/
def call (w : World) : Service.Event → World
  | .syncUpdated _ _ => w
  | event => { w with playback := w.playback.step event }

def step (w : World) : Event → World
  | .sync event => { w with sync := w.sync.step event }
  | .stage roomID id now occurredAt => w.stage roomID id now occurredAt
  | .deliver place now => w.deliver place now
  | .playback event => w.call event

end World

abbrev Visits : Type := List (World × Event)

section Copies
variable (visits : Visits) (roomID : String)

/-- The room has been like this. -/
def Was (claim : Sync.RoomSync → Prop) : Prop := ∃ visit ∈ visits, ∃ rs, visit.1.sync.room roomID = some rs ∧ claim rs

/-- The copy has heard of nothing but media. -/
def Blank (r : PlaybackRoom) : Prop := ∃ mediaID updatedAt, r = { roomID, mediaID, updatedAt }

/-- Status, position, rate, epoch and host come from one state of the room, the
token from one, and the media from one or from a `LoadMedia`. -/
structure Copied (r : PlaybackRoom) : Prop where
  shown : Blank roomID r ∨ Was visits roomID fun rs => Carried rs.state r
  token : r.fencingToken = 0 ∨ Was visits roomID fun rs => rs.state.fencingToken = r.fencingToken
  media : r.mediaID = "" ∨ (∃ visit ∈ visits, ∃ now stored, visit.2 = .playback (.loadMedia roomID r.mediaID now stored)) ∨
    Was visits roomID fun rs => rs.state.mediaID = r.mediaID

theorem copied_new : Copied visits roomID { roomID } := ⟨Or.inl ⟨_, _, rfl⟩, Or.inl rfl, Or.inl rfl⟩

variable {visits roomID} {r : PlaybackRoom} {now : Time}

theorem Was.imp {claim other : Sync.RoomSync → Prop} (was : Was visits roomID claim) (implies : ∀ rs, claim rs → other rs) :
    Was visits roomID other := by
  obtain ⟨visit, visited, rs, found, holds⟩ := was
  exact ⟨visit, visited, rs, found, implies rs holds⟩

theorem Copied.loadMedia (copied : Copied visits roomID r) {w : World} {mediaID : String} {stored : Bool}
    (asked : (w, .playback (.loadMedia roomID mediaID now stored)) ∈ visits) : Copied visits roomID (r.loadMedia mediaID now) := by
  refine ⟨?_, copied.token, Or.inr (Or.inl ⟨_, asked, now, stored, rfl⟩)⟩
  rcases copied.shown with ⟨_, _, blank⟩ | was
  · exact Or.inl ⟨mediaID, now, by rw [blank]; rfl⟩
  · exact Or.inr (was.imp fun rs carried => ⟨carried.status, carried.mediaTime, carried.wallTime, carried.rate, carried.epoch,
      carried.host⟩)

theorem Copied.applySyncCommand (copied : Copied visits roomID r) {state : Sync.Proto.SyncState}
    (was : Was visits roomID fun rs => state = rs.wire) :
    Copied visits roomID (r.applySyncCommand (Service.commandOf state) now).2 := by
  unfold PlaybackRoom.applySyncCommand
  split
  · exact copied
  split
  · exact copied
  · refine ⟨Or.inr (was.imp ?_), Or.inr (was.imp ?_), Or.inr (Or.inr (was.imp ?_))⟩
    · rintro rs rfl
      exact ⟨rfl, rfl, rfl, rfl, rfl, idOrNone_getD rs.state.hostID⟩
    · rintro rs rfl
      rfl
    · rintro rs rfl
      exact (idOrNone_getD rs.state.mediaID).symm

/-- The token and the media, which an event does not carry, stay as they were. -/
theorem Copied.applyFromEvent (copied : Copied visits roomID r) {e : SyncUpdatedV1}
    (was : Was visits roomID fun rs => ∃ snapshotAt, e = received rs (rs.buildSnapshotLocked snapshotAt)) :
    Copied visits roomID (r.applyFromEvent e now).2 := by
  refine ⟨Or.inr (was.imp ?_), copied.token, copied.media⟩
  rintro rs ⟨snapshotAt, rfl⟩
  exact ⟨rfl, rfl, rfl, rfl, rfl, idOrNone_getD rs.state.hostID⟩

end Copies

/-- A call of `ApplySyncCommand` passes on a state that the room has. -/
def Honest (visits : Visits) (event : Event) : Prop :=
  ∀ roomID state now, event = .playback (.applySyncCommand roomID (some state) now) → Was visits roomID fun rs => state = rs.wire

/-- Nothing is asked of who creates rooms and who sends heartbeats. -/
abbrev Anyone : String → String → Prop := fun _ _ => True

structure Traced (visits : Visits) (w : World) : Prop where
  sync : Sourced Anyone Anyone w.sync
  staged : ∀ event ∈ w.staged, ∃ roomID, Was visits roomID fun rs =>
    rs.roomID = roomID ∧ ∃ id now occurredAt, event = rs.stageOutbox id now occurredAt
  cache : ∀ roomID, Copied visits roomID (w.playback.cache.room roomID)
  table : ∀ roomID r, w.playback.table roomID = some r → Copied visits roomID r

/-- A row of the table is kept or written from the cache. -/
theorem step_table {s : Service} {event : Service.Event} {roomID : String} {r : PlaybackRoom}
    (found : (s.step event).table roomID = some r) : s.table roomID = some r ∨ (s.step event).cache.room roomID = r := by
  cases event with
  | loadMedia name mediaID now stored =>
    dsimp only [Service.step, Service.loadMedia] at found ⊢
    split at found
    next invalid => exact Or.inl found
    next valid =>
      rw [if_neg valid, persistRoom_cache]
      unfold Service.persistRoom at found
      split at found
      next room cached =>
        split at found
        · dsimp only at found cached
          rw [Function.update_apply] at found
          split at found
          next here =>
            obtain rfl := Option.some.inj found
            rw [here]
            exact Or.inr (congrArg (Option.getD · _) cached)
          · exact Or.inl found
        · exact Or.inl found
      · exact Or.inl found
  | applySyncCommand name state now =>
    refine Or.inl ?_
    dsimp only [Service.step, Service.applySyncCommand] at found
    split at found
    · split at found <;> exact found
    · exact found
  | syncUpdated value now =>
    refine Or.inl ?_
    dsimp only [Service.step, Service.handleSyncUpdated] at found
    split at found
    · split at found <;> exact found
    · exact found
  | restart => exact Or.inl found

section Step
variable {visits : Visits} {w : World} (traced : Traced visits w)
include traced

/-- A step of the service that leaves good copies in the cache leaves good rows too. -/
theorem Traced.playback {event : Service.Event} (cache : ∀ roomID, Copied visits roomID ((w.playback.step event).cache.room roomID)) :
    Traced visits { w with playback := w.playback.step event } := by
  refine ⟨traced.sync, traced.staged, cache, fun roomID r found => ?_⟩
  rcases step_table found with kept | rfl
  · exact traced.table roomID r kept
  · exact cache roomID

theorem Traced.stage {roomID id : String} {now occurredAt : Time} (here : (w, .stage roomID id now occurredAt) ∈ visits) :
    Traced visits (w.stage roomID id now occurredAt) := by
  unfold World.stage
  split
  next rs found =>
    refine ⟨traced.sync, fun event member => ?_, traced.cache, traced.table⟩
    rcases List.mem_append.mp member with old | new
    · exact traced.staged event old
    · rw [List.mem_singleton.mp new]
      exact ⟨roomID, _, here, rs, found, (traced.sync.memory roomID rs found).room, id, now, occurredAt, rfl⟩
  · exact traced

theorem Traced.deliver (place : Nat) (now : Time) : Traced visits (w.deliver place now) := by
  unfold World.deliver
  split
  next event found =>
    refine traced.playback fun roomID => ?_
    have copied := traced.cache roomID
    obtain ⟨origin, was⟩ := traced.staged event (List.mem_of_getElem? found)
    have told := step_told roomID w.playback (.syncUpdated (some event.payload) now)
    generalize (w.playback.step (.syncUpdated (some event.payload) now)).cache.room roomID = after at told
    cases told with
    | other => exact copied
    | @updated _ e decoded =>
      refine copied.applyFromEvent ?_
      obtain ⟨visit, visited, rs, there, named, id, snapshotAt, occurredAt, rfl⟩ := was
      obtain ⟨reads, _, same⟩ := Option.filter_eq_some_iff.mp decoded |>.imp_right of_decide_eq_true
      obtain ⟨_, rfl⟩ := decode_received reads
      obtain rfl : rs.roomID = roomID := same
      exact ⟨visit, visited, rs, named ▸ there, snapshotAt, rfl⟩
  · exact traced

theorem Traced.call {event : Service.Event} (here : (w, .playback event) ∈ visits) (honest : Honest visits (.playback event)) :
    Traced visits (w.call event) := by
  have heard : ∀ roomID, (∀ value now, event ≠ .syncUpdated value now) →
      Copied visits roomID ((w.playback.step event).cache.room roomID) := by
    intro roomID unannounced
    have copied := traced.cache roomID
    have told := step_told roomID w.playback event
    generalize (w.playback.step event).cache.room roomID = after at told
    cases told with
    | other => exact copied
    | loaded mediaID now stored => exact copied.loadMedia here
    | command state now => exact copied.applySyncCommand (honest roomID state now rfl)
    | updated => exact absurd rfl (unannounced _ _)
    | restarted => exact copied_new visits roomID
  cases event with
  | syncUpdated value now => exact traced
  | _ => exact traced.playback fun roomID => heard roomID fun _ _ same => by cases same

theorem Traced.step {event : Event} (here : (w, event) ∈ visits) (honest : Honest visits event) : Traced visits (w.step event) := by
  cases event with
  | sync event =>
    refine ⟨traced.sync.step ?_, traced.staged, traced.cache, traced.table⟩
    cases event with
    | room roomID event =>
      dsimp only [SyncProvenance.Founded, SyncProvenance.Honest]
      split <;> trivial
    | _ => trivial
  | stage => exact traced.stage here
  | deliver place now => exact traced.deliver place now
  | playback event => exact traced.call here honest

end Step

theorem start_traced (visits : Visits) (cfg : Sync.SyncConfig) : Traced visits (.start cfg) := by
  refine ⟨⟨fun _ _ found => ?_, fun _ _ found => ?_, fun _ _ found => ?_⟩, fun _ found => ?_,
    fun roomID => copied_new visits roomID, fun _ _ found => ?_⟩ <;> cases found

/-- Whatever the sync service goes through, crashes included, and however its
events reach the Playback service, every copy there, in the cache and in the
table, is made of what the room has been. -/
theorem copies_are_past_states (cfg : Sync.SyncConfig) (events : List Event)
    (honest : ∀ event ∈ events, Honest (trace World.step (.start cfg) events) event) (roomID : String) :
    (∀ r, (run World.step (.start cfg) events).playback.cache roomID = some r →
        Copied (trace World.step (.start cfg) events) roomID r) ∧
      ∀ r, (run World.step (.start cfg) events).playback.table roomID = some r →
        Copied (trace World.step (.start cfg) events) roomID r := by
  have traced : Traced (trace World.step (.start cfg) events) (run World.step (.start cfg) events) := by
    exact run_of_guarded _ (fun w event => (w, event) ∈ trace World.step (.start cfg) events)
      (fun w event traced here => traced.step here (honest event (trace_event here))) (start_traced _ cfg) fun visit visited => visited
  refine ⟨fun r found => ?_, traced.table roomID⟩
  have copied := traced.cache roomID
  rwa [RoomCache.room, found] at copied

/-- The event of the play overtakes that of the pause, and somebody loads media. -/
def overtaking : List Event :=
  [.sync (.roomCreated "r1" "alice" 0), .sync (.room "r1" ⟨.command ⟨.play, none, none, ""⟩ 0, 1000, 1000000000⟩),
    .stage "r1" "e1" 0 0, .sync (.room "r1" ⟨.command ⟨.pause, none, none, ""⟩ 0, 2000, 2000000000⟩), .stage "r1" "e2" 0 0,
    .deliver 1 0, .deliver 0 0, .playback (.loadMedia "r1" "m1" 0 true)]

theorem overtaken_copy_was_played : ∃ r, (run World.step (.start {}) overtaking).playback.table "r1" = some r ∧
    r.status = 2 ∧ Copied (trace World.step (.start {}) overtaking) "r1" r := by
  have honest : ∀ event ∈ overtaking, Honest (trace World.step (.start {}) overtaking) event := by
    simp [overtaking, Honest]
  have stored : ((run World.step (.start {}) overtaking).playback.table "r1").map PlaybackRoom.status = some 2 := by
    decide +kernel
  obtain ⟨r, found, playing⟩ := Option.map_eq_some_iff.mp stored
  exact ⟨r, found, playing, (copies_are_past_states {} overtaking honest "r1").2 r found⟩

end VibeSync.Proofs.PlaybackProvenance
