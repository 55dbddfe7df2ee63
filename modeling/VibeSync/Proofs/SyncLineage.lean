import VibeSync.Proofs.SyncService

/-! The rooms that a sync service can hold: created fresh or by a message,
restored from a row that such a room wrote, and moved by any transition under a
clock that does not run backwards. -/

namespace VibeSync.Proofs.SyncLineage
open VibeSync.Sync VibeSync.Sync.RoomSync VibeSync.Proofs.SyncSteps VibeSync.Proofs.SyncService

/-- The command that the transition applies, if any. -/
def applied (rs : RoomSync) (event : Event) : List Command :=
  match event.action with
  | .command c fencingToken => if fencingToken < rs.state.fencingToken then [] else [c]
  | _ => []

/-- `Lineage cfg commands rs clock`: the room is reachable at `clock`, and
`commands` were applied on the way, restarts included. -/
inductive Lineage (cfg : SyncConfig) : List Command → RoomSync → Int → Prop where
  | fresh (roomID : String) {clock : Int} (started : 0 ≤ clock) :
      Lineage cfg [] (newRoomSync cfg roomID (RoomManager.freshState roomID)) clock
  | init (roomID ownerID : String) {clock : Int} (started : 0 ≤ clock) :
      Lineage cfg [] (newRoomSync cfg roomID (RoomManager.initState roomID ownerID)) clock
  | restore {commands : List Command} {rs : RoomSync} {clock later : Int} (lineage : Lineage cfg commands rs clock)
      (roomID : String) (updatedAt : Time) (elapsed : clock ≤ later) :
      Lineage cfg commands (newRoomSync cfg roomID { rs.state with epochStarted := updatedAt }) later
  | step {commands : List Command} {rs : RoomSync} {clock : Int} (lineage : Lineage cfg commands rs clock)
      (event : Event) (elapsed : clock ≤ event.nowMs) :
      Lineage cfg (commands ++ applied rs event) (rs.step event) event.nowMs

/-! How a transition moves the sample, the status and the rate. -/

section Playback
variable (rs : RoomSync)

/-- Either playback is untouched or a playing room is paused. -/
def Halts (before after : SyncState) : Prop :=
  (after.status = before.status ∧ after.playbackRate = before.playbackRate) ∨
    (before.status = .playing ∧ after.status = .paused ∧ after.playbackRate = 0)

theorem pauseHostless_halts : Halts rs.state rs.pauseHostless.state := by
  unfold pauseHostless
  split
  next playing => exact Or.inr ⟨playing, rfl, rfl⟩
  · exact Or.inl ⟨rfl, rfl⟩

theorem elects_halts {now : Time} {rs after : RoomSync} (elects : Elects now rs after) :
    Halts rs.state after.state ∧ after.state.wallTimeMs = rs.state.wallTimeMs := by
  cases elects with
  | keep => exact ⟨Or.inl ⟨rfl, rfl⟩, rfl⟩
  | migrate successor named new => exact ⟨Or.inl ⟨rfl, rfl⟩, rfl⟩
  | pause =>
    refine ⟨pauseHostless_halts rs, ?_⟩
    unfold pauseHostless
    split <;> rfl

theorem tick_halts (now : Time) (nowMs : Int) (order : MapOrder) :
    Halts rs.state (rs.tick now nowMs order).state ∧
      ((rs.tick now nowMs order).state.wallTimeMs = rs.state.wallTimeMs ∨
        (rs.tick now nowMs order).state.wallTimeMs = nowMs) := by
  have ticks := tick_ticks rs now nowMs order
  generalize rs.tick now nowMs order = after at ticks
  cases ticks with
  | resync controller => exact ⟨Or.inl ⟨rfl, rfl⟩, Or.inl rfl⟩
  | elect controller correctionMs elects =>
    have nudged := nudge_nudged { rs with controller } correctionMs nowMs
    obtain ⟨halts, sampled⟩ := elects_halts elects
    rw [Halts, nudged.status, nudged.rate] at halts
    rw [sampled]
    exact ⟨halts, nudged.sampled⟩

/-- A transition applies one command, or at most pauses a playing room. -/
theorem step_playback (event : Event) :
    (∃ c, applied rs event = [c] ∧ (rs.step event).state = rs.state.applyCommand c event.nowMs event.now) ∨
      (applied rs event = [] ∧ Halts rs.state (rs.step event).state ∧
        ((rs.step event).state.wallTimeMs = rs.state.wallTimeMs ∨ (rs.step event).state.wallTimeMs = event.nowMs)) := by
  obtain ⟨action, nowMs, now⟩ := event
  cases action with
  | command c fencingToken =>
    by_cases stale : fencingToken < rs.state.fencingToken
    · have same : rs.step ⟨.command c fencingToken, nowMs, now⟩ = rs := by
        simp only [step, processCommandAuthorized, applyCommandLocked, if_pos stale]
      rw [same]
      exact Or.inr ⟨if_pos stale, Or.inl ⟨rfl, rfl⟩, Or.inl rfl⟩
    · refine Or.inl ⟨c, if_neg stale, ?_⟩
      simp only [step, processCommandAuthorized, applyCommandLocked, if_neg stale, broadcastUpdateLocked_state]
  | tick order => exact Or.inr ⟨rfl, tick_halts rs now nowMs order⟩
  | adoptOwner ownerID =>
    refine Or.inr ⟨rfl, ?_⟩
    dsimp only [step, adoptOwnerIfUnset]
    split
    · exact ⟨Or.inl ⟨rfl, rfl⟩, Or.inl rfl⟩
    · split <;> exact ⟨Or.inl ⟨rfl, rfl⟩, Or.inl rfl⟩
  | heartbeat userID mediaTime wallTime t2 => exact Or.inr ⟨rfl, Or.inl ⟨rfl, rfl⟩, Or.inl rfl⟩
  | snapshot => exact Or.inr ⟨rfl, Or.inl ⟨rfl, rfl⟩, Or.inl rfl⟩
  | register channel => exact Or.inr ⟨rfl, Or.inl ⟨rfl, rfl⟩, Or.inl rfl⟩
  | unregister channel => exact Or.inr ⟨rfl, Or.inl ⟨rfl, rfl⟩, Or.inl rfl⟩

end Playback

/-- The sample is never younger than the clock. -/
theorem Lineage.sampled {cfg : SyncConfig} {commands : List Command} {rs : RoomSync} {clock : Int}
    (lineage : Lineage cfg commands rs clock) : rs.state.wallTimeMs ≤ clock := by
  induction lineage with
  | fresh roomID started => exact started
  | init roomID ownerID started => exact started
  | restore lineage roomID updatedAt elapsed ih => exact ih.trans elapsed
  | @step commands rs clock lineage event elapsed ih =>
    rcases step_playback rs event with ⟨c, _, same⟩ | ⟨_, _, same | same⟩
    · rw [same, applyCommand_wallTimeMs]
    · rw [same]
      exact ih.trans elapsed
    · rw [same]

/-! The rooms of a running service have lineages. -/

/-- What the clock shows at an event; only transitions of rooms read it. -/
def reading (clock : Int) : Service.Event → Int
  | .room _ event => event.nowMs
  | _ => clock

/-- The clock does not run backwards. -/
def Ordered (clock : Int) : List Service.Event → Prop
  | [] => True
  | event :: rest => clock ≤ reading clock event ∧ Ordered (reading clock event) rest

def Born (cfg : SyncConfig) (clock : Int) (rs : RoomSync) : Prop :=
  ∃ commands earlier, Lineage cfg commands rs earlier ∧ earlier ≤ clock

/-- The rooms, the saved states and the rows of a service all come from lineages. -/
structure Descends (cfg : SyncConfig) (clock : Int) (s : Service) : Prop where
  config : s.manager.cfg = cfg
  rooms : ∀ roomID rs, s.room roomID = some rs → Born cfg clock rs
  saved : ∀ roomID state, s.saving roomID = some state → ∃ rs, Born cfg clock rs ∧ state = rs.state
  rows : ∀ roomID row, s.table roomID = some row →
    ∃ rs updatedAt, Born cfg clock rs ∧ row = { rs.state with epochStarted := updatedAt }

section Descent
variable {cfg : SyncConfig} {clock later : Int} {s : Service}

theorem Born.wait {rs : RoomSync} (born : Born cfg clock rs) (elapsed : clock ≤ later) : Born cfg later rs := by
  obtain ⟨commands, earlier, lineage, before⟩ := born
  exact ⟨commands, earlier, lineage, before.trans elapsed⟩

theorem descends_start (cfg : SyncConfig) (clock : Int) : Descends cfg clock (Service.start cfg) := by
  refine ⟨rfl, ?_, ?_, ?_⟩
  · intro roomID rs loaded
    cases loaded
  · intro roomID state saving
    cases saving
  · intro roomID row found
    cases found

theorem Descends.materialised (descends : Descends cfg clock s) (started : 0 ≤ clock) {roomID : String}
    {event : Service.Event} {state : SyncState} (made : Materialises s roomID event state) :
    Born cfg clock (newRoomSync s.manager.cfg roomID state) := by
  rw [descends.config]
  cases made with
  | restored found =>
    obtain ⟨rs, updatedAt, ⟨commands, earlier, lineage, before⟩, rfl⟩ := descends.rows roomID state found
    exact ⟨commands, earlier, lineage.restore roomID updatedAt le_rfl, before⟩
  | absent missing => exact ⟨[], 0, .fresh roomID le_rfl, started⟩
  | unread err => exact ⟨[], 0, .fresh roomID le_rfl, started⟩
  | created valid => exact ⟨[], 0, .init roomID _ le_rfl, started⟩

theorem Descends.room_born (descends : Descends cfg clock s) (started : 0 ≤ clock) {event : Service.Event}
    (elapsed : clock ≤ reading clock event) {roomID : String} {rs : RoomSync}
    (moves : RoomMoves s event roomID rs) : Born cfg (reading clock event) rs := by
  cases moves with
  | same found => exact (descends.rooms roomID rs found).wait elapsed
  | materialised missing made => exact (descends.materialised started made).wait elapsed
  | @adopted before found ownerID now =>
    obtain ⟨commands, earlier, lineage, past⟩ := descends.rooms roomID before found
    exact ⟨_, earlier, lineage.step ⟨.adoptOwner ownerID, earlier, now⟩ le_rfl, past.trans elapsed⟩
  | @stepped before found inner same =>
    obtain ⟨commands, earlier, lineage, past⟩ := descends.rooms roomID before found
    subst same
    exact ⟨_, inner.nowMs, lineage.step inner (past.trans elapsed), le_rfl⟩

theorem Descends.step (descends : Descends cfg clock s) (started : 0 ≤ clock) {event : Service.Event}
    (elapsed : clock ≤ reading clock event) : Descends cfg (reading clock event) (s.step event) := by
  refine ⟨(step_cfg s event).trans descends.config, ?_, ?_, ?_⟩
  · intro roomID rs found
    exact descends.room_born started elapsed (step_moves found)
  · intro roomID state saving
    rcases (step_saving saving).2 with kept | ⟨rs, loaded, same⟩
    · obtain ⟨rs, born, same⟩ := descends.saved roomID state kept
      exact ⟨rs, born.wait elapsed, same⟩
    · exact ⟨rs, (descends.rooms roomID rs loaded).wait elapsed, same⟩
  · intro roomID row found
    rcases step_row found with kept | ⟨asked, state, updatedAt, saving, _, _, written⟩
    · obtain ⟨rs, earlier, born, same⟩ := descends.rows roomID row kept
      exact ⟨rs, earlier, born.wait elapsed, same⟩
    · obtain ⟨rs, born, rfl⟩ := descends.saved asked state saving
      exact ⟨rs, updatedAt, born.wait elapsed, written⟩

theorem Descends.run (descends : Descends cfg clock s) (started : 0 ≤ clock) {events : List Service.Event}
    (ordered : Ordered clock events) : ∃ later, Descends cfg later (Machine.run Service.step s events) := by
  induction events generalizing clock s with
  | nil => exact ⟨clock, descends⟩
  | cons event rest ih => exact ih (descends.step started ordered.1) (started.trans ordered.1) ordered.2

end Descent

/-- Whatever a service has been through, the rooms it holds are reachable. -/
theorem service_lineage {cfg : SyncConfig} {clock : Int} {events : List Service.Event} (started : 0 ≤ clock)
    (ordered : Ordered clock events) {roomID : String} {rs : RoomSync}
    (loaded : (Machine.run Service.step (Service.start cfg) events).room roomID = some rs) :
    ∃ commands time, Lineage cfg commands rs time := by
  obtain ⟨later, descends⟩ := (descends_start cfg clock).run started ordered
  obtain ⟨commands, time, lineage, _⟩ := descends.rooms roomID rs loaded
  exact ⟨commands, time, lineage⟩

end VibeSync.Proofs.SyncLineage
