import VibeSync.Machine
import VibeSync.Proofs.SyncClock
import VibeSync.Sync.RoomPage

/-! Switching media from the room page: what the service makes of the requests,
in whichever order they arrive. -/

namespace VibeSync.Proofs.SyncSwitching
open VibeSync.Sync VibeSync.Sync.RoomSync VibeSync.Proofs.SyncSteps VibeSync.Proofs.SyncClock

/-! What the page sends. -/

theorem sendCommand_seeks {page : RoomPage} {kind : CommandKind} {opts : CommandOptions} {request : CommandRequest}
    (sent : request ∈ page.sendCommand kind opts) : ∀ target, request.seekToMs = some target → 0 ≤ target := by
  unfold RoomPage.sendCommand at sent
  split at sent
  · cases sent
  · obtain rfl := List.mem_singleton.mp sent
    intro target given
    obtain ⟨asked, -, rfl⟩ := Option.map_eq_some_iff.mp given
    exact le_max_left _ _

theorem loadMedia_seeks {page : RoomPage} {mediaID : String} {keepPlaying : Bool} {request : CommandRequest}
    (sent : request ∈ page.loadMedia mediaID keepPlaying) : ∀ target, request.seekToMs = some target → 0 ≤ target := by
  rcases List.mem_append.mp sent with load | play
  · exact sendCommand_seeks load
  · split at play
    · exact sendCommand_seeks play
    · cases play

/-- The page never asks for a position before the start. -/
theorem dispatchCommand_seeks {page : RoomPage} {kind : CommandKind} {opts : CommandOptions} {request : CommandRequest}
    (sent : request ∈ page.dispatchCommand kind opts) : ∀ target, request.seekToMs = some target → 0 ≤ target := by
  have skips : ∀ dir, request ∈ page.skip dir → ∀ target, request.seekToMs = some target → 0 ≤ target := by
    intro dir skipped
    unfold RoomPage.skip at skipped
    dsimp only at skipped
    split at skipped
    · cases skipped
    · split at skipped
      · split at skipped
        · exact loadMedia_seeks skipped
        · cases skipped
      · split at skipped
        · exact loadMedia_seeks skipped
        · exact sendCommand_seeks skipped
  unfold RoomPage.dispatchCommand at sent
  split at sent
  · exact skips _ sent
  · exact skips _ sent
  · exact sendCommand_seeks sent

/-- The two requests of a switch, told apart by their kinds. -/
structure Switch (mediaID : String) (load play : CommandRequest) : Prop where
  loads : load.kind = .loadMedia
  media : load.mediaID = some mediaID
  plays : play.kind = .play
  token : load.fencingToken = play.fencingToken

theorem switch_of_sent {page : RoomPage} {mediaID : String} {first second : CommandRequest}
    (sent : [first, second].Perm (page.loadMedia mediaID true)) : Switch mediaID first second ∨ Switch mediaID second first := by
  unfold RoomPage.loadMedia RoomPage.sendCommand at sent
  split at sent
  · cases sent.length_eq
  · simp only [↓reduceIte, List.cons_append, List.nil_append] at sent
    rcases List.mem_cons.mp (sent.subset (List.mem_cons_self ..)) with same | other
    · rw [same] at sent ⊢
      obtain rfl := List.singleton_inj.mp (List.perm_singleton.mp sent.cons_inv)
      exact Or.inl ⟨rfl, rfl, rfl, rfl⟩
    · rw [List.mem_singleton.mp other] at sent ⊢
      obtain rfl := List.singleton_inj.mp (List.perm_singleton.mp (sent.trans (.swap ..)).cons_inv)
      exact Or.inr ⟨rfl, rfl, rfl, rfl⟩

/-! What the service makes of them. -/

def deliver (request : CommandRequest) (nowMs : Int) (now : Time) : Event :=
  ⟨.command request.command request.fencingToken, nowMs, now⟩

theorem step_deliver {rs : RoomSync} {request : CommandRequest} {nowMs : Int} {now : Time}
    (fresh : ¬ request.fencingToken < rs.state.fencingToken) :
    (rs.step (deliver request nowMs now)).state = rs.state.applyCommand request.command nowMs now := by
  simp only [deliver, step, processCommandAuthorized, applyCommandLocked, if_neg fresh]
  rfl

/-- Anything that is not a command. -/
def Silent (event : Event) : Prop := ∀ c fencingToken, event.action ≠ .command c fencingToken

/-- Loaded and waiting to be played from the start. -/
structure Cued (mediaID : String) (s : SyncState) : Prop where
  media : s.mediaID = mediaID
  still : s.status ≠ .playing
  start : s.mediaTimeMs = 0

theorem Cued.tick {mediaID : String} {rs : RoomSync} (cued : Cued mediaID rs.state) (now : Time) (nowMs : Int)
    (order : MapOrder) : Cued mediaID (rs.tick now nowMs order).state := by
  have ticks := tick_ticks rs now nowMs order
  generalize rs.tick now nowMs order = after at ticks
  cases ticks with
  | resync controller => exact ⟨cued.media, cued.still, cued.start⟩
  | elect controller correctionMs elects =>
    have idle := @nudge_idle { rs with controller } correctionMs nowMs fun moves => cued.still moves.2
    rw [idle] at elects
    cases elects with
    | keep => exact ⟨cued.media, cued.still, cued.start⟩
    | migrate successor named new => exact ⟨cued.media, cued.still, cued.start⟩
    | pause =>
      rw [show ({ rs with controller } : RoomSync).pauseHostless = { rs with controller } from if_neg cued.still]
      exact ⟨cued.media, cued.still, cued.start⟩

theorem Cued.step {mediaID : String} {rs : RoomSync} {event : Event} (cued : Cued mediaID rs.state) (silent : Silent event) :
    Cued mediaID (rs.step event).state := by
  obtain ⟨action, nowMs, now⟩ := event
  cases action with
  | command c fencingToken => exact absurd rfl (silent c fencingToken)
  | tick order => exact cued.tick now nowMs order
  | adoptOwner ownerID =>
    dsimp only [RoomSync.step, adoptOwnerIfUnset]
    split
    · exact cued
    · split <;> exact ⟨cued.media, cued.still, cued.start⟩
  | _ => exact ⟨cued.media, cued.still, cued.start⟩

theorem Cued.run {mediaID : String} {rs : RoomSync} {events : List Event} (cued : Cued mediaID rs.state)
    (silent : ∀ event ∈ events, Silent event) : Cued mediaID (Machine.run RoomSync.step rs events).state := by
  induction events generalizing rs with
  | nil => exact cued
  | cons event rest ih =>
    obtain ⟨here, later⟩ := List.forall_mem_cons.mp silent
    exact ih (cued.step here) later

theorem load_cues {s : SyncState} {request : CommandRequest} {mediaID : String} {nowMs : Int} {now : Time}
    (load : request.kind = .loadMedia) (media : request.mediaID = some mediaID) :
    Cued mediaID (s.applyCommand request.command nowMs now) := by
  simp only [SyncState.applyCommand, SyncState.perform, CommandRequest.command, load, media]
  exact ⟨rfl, by simp, rfl⟩

/-- The media plays from its start at `nowMs`. -/
structure Started (mediaID : String) (nowMs : Int) (s : SyncState) : Prop where
  media : s.mediaID = mediaID
  playing : s.status = .playing
  start : s.advanceMediaTime nowMs = 0

theorem Cued.play {mediaID : String} {s : SyncState} (cued : Cued mediaID s) {request : CommandRequest}
    (play : request.kind = .play) (nowMs : Int) (now : Time) :
    Started mediaID nowMs (s.applyCommand request.command nowMs now) := by
  have start : (s.applyCommand request.command nowMs now).mediaTimeMs = 0 := by
    simp only [SyncState.applyCommand, SyncState.perform, CommandRequest.command, play, SyncState.resample,
      if_neg cued.still, cued.start]
  refine ⟨?_, ?_, ?_⟩
  · simp only [SyncState.applyCommand, SyncState.perform, CommandRequest.command, play, SyncState.resample, cued.media]
  · simp only [SyncState.applyCommand, SyncState.perform, CommandRequest.command, play]
  · rw [advance_at_sample (applyCommand_wallTimeMs ..), start]

theorem load_stops {s : SyncState} {request : CommandRequest} (load : request.kind = .loadMedia) (nowMs : Int) (now : Time) :
    (s.applyCommand request.command nowMs now).status ≠ .playing := by
  simp [SyncState.applyCommand, SyncState.perform, CommandRequest.command, load]

/-- One delivery of the page's two requests, with anything but commands between
them. -/
structure Delivery (page : RoomPage) (mediaID : String) (rs : RoomSync) where
  first : CommandRequest
  second : CommandRequest
  sent : [first, second].Perm (page.loadMedia mediaID true)
  firstMs : Int
  firstAt : Time
  between : List Event
  silent : ∀ event ∈ between, Silent event
  secondMs : Int
  secondAt : Time

namespace Delivery

variable {page : RoomPage} {mediaID : String} {rs : RoomSync}

/-- The room when the later request arrives. -/
def before (delivery : Delivery page mediaID rs) : RoomSync :=
  Machine.run RoomSync.step rs (deliver delivery.first delivery.firstMs delivery.firstAt :: delivery.between)

/-- The room when the later request has been applied. -/
def after (delivery : Delivery page mediaID rs) : RoomSync :=
  delivery.before.step (deliver delivery.second delivery.secondMs delivery.secondAt)

/-- The token that both requests carry is still good when the later one arrives. -/
def Fresh (delivery : Delivery page mediaID rs) : Prop :=
  ¬ delivery.second.fencingToken < delivery.before.state.fencingToken

instance (delivery : Delivery page mediaID rs) : Decidable delivery.Fresh := inferInstanceAs (Decidable (¬ _))

theorem token_le_before (delivery : Delivery page mediaID rs) :
    rs.state.fencingToken ≤ delivery.before.state.fencingToken :=
  (Machine.run_invariant (fun now => Grows rs.state now.state) (fun now event grows => grows.trans (step_grows now event))
    (Grows.refl rs.state) _).token

/-- If the load comes first, the media is cued until the play comes. -/
theorem cued (delivery : Delivery page mediaID rs) (switch : Switch mediaID delivery.first delivery.second)
    (fresh : delivery.Fresh) : Cued mediaID delivery.before.state := by
  have accepted : ¬ delivery.first.fencingToken < rs.state.fencingToken := by
    have grows := delivery.token_le_before
    unfold Fresh at fresh
    rw [switch.token]
    omega
  rw [before, Machine.run_cons]
  apply Cued.run _ delivery.silent
  rw [step_deliver accepted]
  exact load_cues switch.loads switch.media

end Delivery

/-- A switch goes on playing exactly if the load reaches the service before the
play. -/
theorem switching_plays_iff (page : RoomPage) (mediaID : String) (rs : RoomSync) (delivery : Delivery page mediaID rs)
    (fresh : delivery.Fresh) :
    Started mediaID delivery.secondMs delivery.after.state ↔ delivery.first.kind = .loadMedia := by
  have applied : delivery.after.state = delivery.before.state.applyCommand delivery.second.command delivery.secondMs
      delivery.secondAt := step_deliver fresh
  rw [applied]
  rcases switch_of_sent delivery.sent with switch | switch
  · have cued := delivery.cued switch fresh
    exact ⟨fun _ => switch.loads, fun _ => cued.play switch.plays delivery.secondMs delivery.secondAt⟩
  · constructor
    · intro started
      exact absurd started.playing (load_stops switch.loads delivery.secondMs delivery.secondAt)
    · intro loads
      rw [switch.plays] at loads
      cases loads

/-! A host switches from the page that shows its own room. -/

def roomPage : RoomPage := ⟨"r1", ⟨watching.state.epoch, some watching.wire⟩, ["m1", "m2"]⟩

def loadRequest : CommandRequest := ⟨"r1", .loadMedia, 0, none, none, some "m2"⟩

def playRequest : CommandRequest := ⟨"r1", .play, 0, none, none, none⟩

def inOrder : Delivery roomPage "m2" watching where
  first := loadRequest
  second := playRequest
  sent := by decide
  firstMs := 2000
  firstAt := 2000000000
  between := []
  silent := List.forall_mem_nil _
  secondMs := 2010
  secondAt := 2010000000

def swapped : Delivery roomPage "m2" watching where
  first := playRequest
  second := loadRequest
  sent := by decide
  firstMs := 2000
  firstAt := 2000000000
  between := []
  silent := List.forall_mem_nil _
  secondMs := 2010
  secondAt := 2010000000

theorem inOrder_plays : Started "m2" 2010 inOrder.after.state :=
  (switching_plays_iff roomPage "m2" watching inOrder (by decide +kernel)).mpr rfl

/-- The play is applied to the old media and the load stops the new one. -/
theorem swapped_stops :
    ¬ ∀ (page : RoomPage) (mediaID : String) (rs : RoomSync) (delivery : Delivery page mediaID rs), delivery.Fresh →
        Started mediaID delivery.secondMs delivery.after.state := by
  intro claim
  have started := claim roomPage "m2" watching swapped (by decide +kernel)
  exact absurd started.playing (by decide +kernel)

end VibeSync.Proofs.SyncSwitching
