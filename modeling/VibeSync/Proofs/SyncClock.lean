import VibeSync.Proofs.SyncLineage

/-! The position that viewers see, across every transition of a room. -/

namespace VibeSync.Proofs.SyncClock
open VibeSync.Sync VibeSync.Sync.RoomSync VibeSync.Proofs.SyncSteps VibeSync.Proofs.SyncLineage

/-- What has been played since the last sample. -/
def played (s : SyncState) (t : Int) : Int64 := int64OfFloat ((t - s.wallTimeMs : Int) * s.playbackRate)

/-- The position that viewers see at `t`. -/
def position (s : SyncState) (t : Int) : Int64 :=
  if s.status = .playing then s.mediaTimeMs + played s t else s.mediaTimeMs

@[simp] theorem int64OfFloat_zero : int64OfFloat 0 = 0 := by decide +kernel

theorem played_at_sample {s : SyncState} {t : Int} (sampled : s.wallTimeMs = t) : played s t = 0 := by
  simp [played, sampled]

theorem position_at_sample {s : SyncState} {t : Int} (sampled : s.wallTimeMs = t) : position s t = s.mediaTimeMs := by
  simp [position, played_at_sample sampled]

theorem advance_eq_played {s : SyncState} {t : Int} (ordered : s.wallTimeMs ≤ t) :
    s.advanceMediaTime t = s.mediaTimeMs + played s t := by
  have forward : ¬ t - s.wallTimeMs < 0 := by omega
  by_cases still : s.playbackRate = 0
  · simp [SyncState.advanceMediaTime, played, still]
  · simp only [SyncState.advanceMediaTime, played, if_neg still, if_neg forward]

theorem advance_at_sample {s : SyncState} {t : Int} (sampled : s.wallTimeMs = t) : s.advanceMediaTime t = s.mediaTimeMs := by
  rw [advance_eq_played sampled.le, played_at_sample sampled, Int64.add_zero]

theorem resample_mediaTimeMs {s : SyncState} {t : Int} (ordered : s.wallTimeMs ≤ t) :
    (s.resample t).mediaTimeMs = position s t := by
  simp only [SyncState.resample, position, advance_eq_played ordered]

/-- A command that sets the position. -/
def Repositions (c : Command) : Prop := (c.kind = .seek ∧ c.seekToMs ≠ none) ∨ c.kind = .loadMedia

theorem perform_mediaTimeMs (s : SyncState) {c : Command} (stays : ¬ Repositions c) :
    (s.perform c).mediaTimeMs = s.mediaTimeMs := by
  unfold SyncState.perform
  split
  · rfl
  · rfl
  · next seek =>
    split
    · next target given => exact absurd (Or.inl ⟨seek, by simp [given]⟩) stays
    · rfl
  · split
    · split <;> rfl
    · rfl
  · next load => exact absurd (Or.inr load) stays
  all_goals rfl

theorem position_applyCommand {s : SyncState} {c : Command} {t : Int} {now : Time} (ordered : s.wallTimeMs ≤ t)
    (stays : ¬ Repositions c) : position (s.applyCommand c t now) t = position s t := by
  rw [position_at_sample (applyCommand_wallTimeMs ..), ← resample_mediaTimeMs ordered]
  exact perform_mediaTimeMs (s.resample t) stays

/-! Ticks. -/

/-- The host is gone and nobody can take over. -/
def Departed (rs : RoomSync) (now : Time) (order : MapOrder) : Prop :=
  ¬ (rs.state.ownerID ≠ "" ∧ rs.state.hostID ≠ rs.state.ownerID ∧ rs.isPresent rs.state.ownerID now) ∧
    rs.state.hostID ≠ "" ∧ ¬ rs.isPresent rs.state.hostID now ∧
    rs.preferredSuccessorLocked now rs.state.hostID order = ""

theorem check_departed {rs : RoomSync} {now : Time} {order : MapOrder} (departed : Departed rs now order) :
    rs.checkHostMigrationLocked now order = rs.pauseHostless := by
  obtain ⟨away, hosted, gone, nobody⟩ := departed
  simp only [checkHostMigrationLocked, if_neg away, if_neg hosted, if_neg gone, nobody, ↓reduceIte]

/-- With a host to be had, the check touches only the host and its counters. -/
theorem check_hosted {rs : RoomSync} {now : Time} {order : MapOrder} (hosted : ¬ Departed rs now order) :
    ∃ hostID epoch fencingToken epochStarted, (rs.checkHostMigrationLocked now order).state =
      { rs.state with hostID, epoch, fencingToken, epochStarted } := by
  unfold checkHostMigrationLocked
  split
  · exact ⟨_, _, _, _, rfl⟩
  next away =>
    split
    · dsimp only
      split <;> exact ⟨_, _, _, _, rfl⟩
    next named =>
      split
      · exact ⟨_, _, _, _, rfl⟩
      next gone =>
        dsimp only
        split
        next nobody => exact absurd ⟨away, named, gone, nobody⟩ hosted
        · exact ⟨_, _, _, _, rfl⟩

theorem position_check_hosted {rs : RoomSync} {now : Time} {order : MapOrder} (hosted : ¬ Departed rs now order)
    (t : Int) : position (rs.checkHostMigrationLocked now order).state t = position rs.state t := by
  obtain ⟨hostID, epoch, fencingToken, epochStarted, same⟩ := check_hosted hosted
  rw [same]
  rfl

theorem pauseHostless_mediaTimeMs (rs : RoomSync) : rs.pauseHostless.state.mediaTimeMs = rs.state.mediaTimeMs := by
  unfold pauseHostless
  split <;> rfl

theorem position_pauseHostless (rs : RoomSync) (t : Int) :
    position rs.pauseHostless.state t = rs.state.mediaTimeMs := by
  have still : rs.pauseHostless.state.status ≠ .playing := by
    unfold pauseHostless
    split
    · simp
    next paused => exact paused
  rw [position, if_neg still, pauseHostless_mediaTimeMs]

/-- The tick subtracts a drift correction from the position. -/
def Corrects (rs : RoomSync) (now : Time) : Prop :=
  rs.cfg.driftCorrectionEnabled ∧ ¬ (rs.driftResult now).1.forceSnapshot ∧
    (rs.driftResult now).1.correctionMs ≠ 0 ∧ rs.state.status = .playing

/-- The tick pauses the room for want of a host. -/
def Abandons (rs : RoomSync) (now : Time) (order : MapOrder) : Prop :=
  ¬ (rs.cfg.driftCorrectionEnabled ∧ (rs.driftResult now).1.forceSnapshot) ∧ Departed rs now order ∧
    rs.state.status = .playing

instance (rs : RoomSync) (now : Time) : Decidable (Corrects rs now) := inferInstanceAs (Decidable (_ ∧ _))

theorem nudge_idle {rs : RoomSync} {correctionMs : ℚ} {t : Int}
    (idle : ¬ (correctionMs ≠ 0 ∧ rs.state.status = .playing)) : rs.nudge correctionMs t = rs := if_neg idle

theorem nudge_state {rs : RoomSync} {correctionMs : ℚ} {t : Int}
    (moves : correctionMs ≠ 0 ∧ rs.state.status = .playing) :
    (rs.nudge correctionMs t).state = { rs.state with
      mediaTimeMs := rs.state.mediaTimeMs - int64OfFloat correctionMs
      wallTimeMs := t, epoch := rs.state.epoch + 1 } := by
  rw [nudge, if_pos moves]
  rfl

/-- A tick that corrects leaves the corrected sample as the position, whether or
not an election follows. -/
theorem position_tick_corrects {rs : RoomSync} {now : Time} {t : Int} (order : MapOrder) (corrects : Corrects rs now) :
    position (rs.tick now t order).state t =
      rs.state.mediaTimeMs - int64OfFloat (rs.driftResult now).1.correctionMs := by
  obtain ⟨enabled, small, moves⟩ := corrects
  have nudged := @nudge_state { rs with controller := (rs.driftResult now).2 } _ t moves
  simp only [tick, enabled, small, ↓reduceIte, Bool.false_eq_true]
  by_cases departed : Departed ({ rs with controller := (rs.driftResult now).2 }.nudge
      (rs.driftResult now).1.correctionMs t) now order
  · rw [check_departed departed, position_pauseHostless, nudged]
  · rw [position_check_hosted departed, position_at_sample (by rw [nudged]), nudged]

theorem tick_without_correction {rs : RoomSync} {now : Time} {t : Int} {order : MapOrder} (plain : ¬ Corrects rs now)
    (quiet : ¬ (rs.cfg.driftCorrectionEnabled ∧ (rs.driftResult now).1.forceSnapshot)) :
    ∃ controller, rs.tick now t order = { rs with controller }.checkHostMigrationLocked now order := by
  by_cases enabled : rs.cfg.driftCorrectionEnabled
  · have small : ¬ (rs.driftResult now).1.forceSnapshot := fun force => quiet ⟨enabled, force⟩
    have idle := @nudge_idle { rs with controller := (rs.driftResult now).2 } _ t
      fun moves => plain ⟨enabled, small, moves⟩
    refine ⟨(rs.driftResult now).2, ?_⟩
    simp only [tick, enabled, small, ↓reduceIte, Bool.false_eq_true, idle]
  · exact ⟨rs.controller, by simp only [tick, enabled, ↓reduceIte, Bool.false_eq_true]⟩

theorem position_tick_abandons {rs : RoomSync} {now : Time} {t : Int} {order : MapOrder} (plain : ¬ Corrects rs now)
    (abandons : Abandons rs now order) : position (rs.tick now t order).state t = rs.state.mediaTimeMs := by
  obtain ⟨quiet, departed, _⟩ := abandons
  obtain ⟨controller, same⟩ := tick_without_correction plain quiet
  have still : Departed { rs with controller } now order := departed
  rw [same, check_departed still, position_pauseHostless]

theorem position_tick_plain {rs : RoomSync} {now : Time} {t : Int} {order : MapOrder} (plain : ¬ Corrects rs now)
    (stays : ¬ Abandons rs now order) : position (rs.tick now t order).state t = position rs.state t := by
  by_cases force : rs.cfg.driftCorrectionEnabled ∧ (rs.driftResult now).1.forceSnapshot
  · simp only [tick, force.1, force.2, ↓reduceIte]
    rfl
  obtain ⟨controller, same⟩ := tick_without_correction plain force
  rw [same]
  by_cases departed : Departed { rs with controller } now order
  · have paused : rs.state.status ≠ .playing := fun playing => stays ⟨force, departed, playing⟩
    rw [check_departed departed, position_pauseHostless, position, if_neg paused]
  · rw [position_check_hosted departed]

/-! Whole transitions. -/

/-- An applied seek with a target or an applied load. -/
def Jumps (rs : RoomSync) (event : Event) : Prop :=
  match event.action with
  | .command c fencingToken => ¬ fencingToken < rs.state.fencingToken ∧ Repositions c
  | _ => False

/-- What the transition takes off the position: the drift correction of a tick. -/
def correction (rs : RoomSync) (event : Event) : Int64 :=
  match event.action with
  | .tick _ => if Corrects rs event.now then int64OfFloat (rs.driftResult event.now).1.correctionMs else 0
  | _ => 0

def Continuous (rs : RoomSync) (event : Event) : Prop :=
  position (rs.step event).state event.nowMs = position rs.state event.nowMs - correction rs event

/-- The transition replaces the sample or the rate without playing on to `now`
first. -/
def Unsampled (rs : RoomSync) (event : Event) : Prop :=
  match event.action with
  | .tick order => Corrects rs event.now ∨ Abandons rs event.now order
  | _ => False

theorem unchanged_continuous {rs : RoomSync} {event : Event} (whole : correction rs event = 0)
    (same : position (rs.step event).state event.nowMs = position rs.state event.nowMs) : Continuous rs event := by
  rw [Continuous, whole, same]
  grind

theorem continuous_of_sampled {rs : RoomSync} {event : Event} (ordered : rs.state.wallTimeMs ≤ event.nowMs)
    (stays : ¬ Jumps rs event) (sampled : ¬ Unsampled rs event) : Continuous rs event := by
  obtain ⟨action, t, now⟩ := event
  cases action with
  | command c fencingToken =>
    apply unchanged_continuous rfl
    dsimp only [step, processCommandAuthorized, applyCommandLocked]
    split
    · rfl
    next fresh => exact position_applyCommand ordered fun repositions => stays ⟨fresh, repositions⟩
  | tick order =>
    have plain : ¬ Corrects rs now := fun corrects => sampled (Or.inl corrects)
    have kept : ¬ Abandons rs now order := fun abandons => sampled (Or.inr abandons)
    apply unchanged_continuous
    · exact if_neg plain
    · exact position_tick_plain plain kept
  | adoptOwner ownerID =>
    apply unchanged_continuous rfl
    dsimp only [step, adoptOwnerIfUnset]
    split
    · rfl
    · split <;> rfl
  | heartbeat userID mediaTime wallTime t2 => exact unchanged_continuous rfl rfl
  | snapshot => exact unchanged_continuous rfl rfl
  | register channel => exact unchanged_continuous rfl rfl
  | unregister channel => exact unchanged_continuous rfl rfl

theorem continuous_of_unsampled {rs : RoomSync} {event : Event} (skips : Unsampled rs event) :
    Continuous rs event ↔ played rs.state event.nowMs = 0 := by
  obtain ⟨action, t, now⟩ := event
  cases action with
  | tick order =>
    by_cases corrects : Corrects rs now
    · have before : position rs.state t = rs.state.mediaTimeMs + played rs.state t := if_pos corrects.2.2.2
      have after : position (rs.tick now t order).state t = _ := position_tick_corrects order corrects
      simp only [Continuous, correction, step, after, before, if_pos corrects]
      grind
    · have abandons := skips.resolve_left corrects
      have before : position rs.state t = rs.state.mediaTimeMs + played rs.state t := if_pos abandons.2.2
      have after : position (rs.tick now t order).state t = _ := position_tick_abandons corrects abandons
      simp only [Continuous, correction, step, after, before, if_neg corrects]
      grind
  | _ => exact skips.elim

/-- The clock is continuous except where a tick corrects the drift or gives up on
a departed host: there it loses what was played since the last sample. -/
theorem position_continuous_iff {cfg : SyncConfig} {commands : List Command} {rs : RoomSync} {clock : Int}
    (lineage : Lineage cfg commands rs clock) (event : Event) (elapsed : clock ≤ event.nowMs)
    (stays : ¬ Jumps rs event) :
    Continuous rs event ↔ (Unsampled rs event → played rs.state event.nowMs = 0) := by
  by_cases skips : Unsampled rs event
  · rw [continuous_of_unsampled skips]
    exact ⟨fun nothing _ => nothing, fun nothing => nothing skips⟩
  · have continuous := continuous_of_sampled (lineage.sampled.trans elapsed) stays skips
    exact ⟨fun _ impossible => absurd impossible skips, fun _ => continuous⟩

/-! A room whose host presses play and never sends a heartbeat. -/

def play : Command := { kind := .play, seekToMs := none, rate := none, mediaID := "" }

def pause : Command := { play with kind := .pause }

def watching : RoomSync :=
  (newRoomSync {} "r1" (RoomManager.initState "r1" "alice")).step ⟨.command play 0, 1000, 1000000000⟩

theorem watching_lineage : Lineage {} [play] watching 1000 :=
  .step (.init "r1" "alice" le_rfl) ⟨.command play 0, 1000, 1000000000⟩ (by decide)

theorem pause_continuous : Continuous watching ⟨.command pause 0, 11000, 11000000000⟩ :=
  (position_continuous_iff watching_lineage ⟨.command pause 0, 11000, 11000000000⟩ (by decide)
    (by simp [Jumps, Repositions, pause])).mpr fun skips => skips.elim

/-- Ten seconds into playback the next tick takes everybody back to the start. -/
theorem departed_host_rewinds :
    ¬ ∀ (cfg : SyncConfig) (commands : List Command) (rs : RoomSync) (clock : Int), Lineage cfg commands rs clock →
        ∀ event : Event, clock ≤ event.nowMs → ¬ Jumps rs event → Continuous rs event := by
  intro claim
  have continuous := claim {} [play] watching 1000 watching_lineage ⟨.tick .stored, 11000, 11000000000⟩ (by decide)
    (by simp [Jumps])
  have before : position watching.state 11000 = 10000 := by decide +kernel
  have after : position (watching.step ⟨.tick .stored, 11000, 11000000000⟩).state 11000 = 0 := by decide +kernel
  have whole : correction watching ⟨.tick .stored, 11000, 11000000000⟩ = 0 := by decide +kernel
  rw [Continuous, before, after, whole] at continuous
  exact absurd continuous (by decide)

end VibeSync.Proofs.SyncClock
