import VibeSync.Machine
import VibeSync.Proofs.SyncAgreement
import VibeSync.Sync.Player

/-! How far a viewer's player is from the room. A tick that is not excused brings
the player near the room's clock, and until the next one the two move apart only
as fast as the rates allow. -/

namespace VibeSync.Proofs.SyncPlayer
open VibeSync.Sync Machine VibeSync.Proofs.SyncLineage VibeSync.Proofs.SyncAgreement

/-! The rate that the player is given. -/

def effectiveRate (s : Proto.SyncState) : ℚ := if s.status = .playing then s.playbackRate else 0

theorem advance_eq (s : Proto.SyncState) (now : ℚ) :
    Client.advance (some s) now = s.mediaTimeMs.toInt + max 0 (now - s.wallTimeMs) * effectiveRate s := by
  change Client.advanceMediaTime s.mediaTimeMs.toInt s.wallTimeMs (effectiveRate s) now = _
  unfold Client.advanceMediaTime
  split
  next still => rw [still, mul_zero, add_zero]
  · rfl

theorem advance_between (s : Proto.SyncState) (rate : 0 ≤ effectiveRate s) {now later : ℚ} (forward : now ≤ later) :
    Client.advance (some s) now ≤ Client.advance (some s) later ∧
      Client.advance (some s) later ≤ Client.advance (some s) now + (later - now) * effectiveRate s := by
  have grows : max 0 (now - s.wallTimeMs) ≤ max 0 (later - s.wallTimeMs) := max_le_max_left 0 (by linarith)
  have slow : max 0 (later - s.wallTimeMs) ≤ max 0 (now - s.wallTimeMs) + (later - now) := by
    refine max_le ?_ ?_
    · linarith [le_max_left 0 (now - (s.wallTimeMs : ℚ))]
    · linarith [le_max_right 0 (now - (s.wallTimeMs : ℚ))]
  rw [advance_eq, advance_eq]
  exact ⟨by linarith [mul_le_mul_of_nonneg_right grows rate], by linarith [mul_le_mul_of_nonneg_right slow rate]⟩

/-- The player's position relative to the room's, in milliseconds. -/
def drift (s : Proto.SyncState) (v : Viewer) : ℚ := v.iframe.currentTime * 1000 - Client.advance (some s) v.clock

theorem drift_measured (s : Proto.SyncState) (v : Viewer) :
    (v.iframe.currentTime - YouTubePlayer.targetTimeSec s v.clock) * 1000 = drift s v := by
  rw [YouTubePlayer.targetTimeSec, drift]
  ring

/-! One tick. -/

/-- The tick gets past its early returns. -/
structure Reconciles (s : Proto.SyncState) (v : Viewer) : Prop where
  shown : v.player.syncState = some s
  chasing : ¬ (v.iframe.state = .ended ∧ ¬ v.player.reanchors s)
  allowed : ¬ (s.status = .playing ∧ YouTubePlayer.blocked v.iframe.state ∧ ¬ v.player.gestureConsumed)

def needsSeek (s : Proto.SyncState) (v : Viewer) : Bool :=
  YouTubePlayer.needsSeek v.player.settings (v.player.reanchors s) (drift s v)

/-- The position in seconds and the rate. -/
def reading (iframe : Iframe) : ℚ × ℚ := (iframe.currentTime, iframe.playbackRate)

/-- What is used of the embedded player: a seek and a new rate take effect at once,
and starting, stopping and the sound leave both as they are. Nothing is said of the
state that it reports, nor of a new video. -/
structure Obeys (api : IframeApi) : Prop where
  seekTo : ∀ iframe seconds, reading (api iframe (.seekTo seconds)) = (seconds, iframe.playbackRate)
  setPlaybackRate : ∀ iframe rate, reading (api iframe (.setPlaybackRate rate)) = (iframe.currentTime, rate)
  playVideo : ∀ iframe, reading (api iframe .playVideo) = reading iframe
  pauseVideo : ∀ iframe, reading (api iframe .pauseVideo) = reading iframe
  unMute : ∀ iframe, reading (api iframe .unMute) = reading iframe
  setVolume : ∀ iframe volume, reading (api iframe (.setVolume volume)) = reading iframe

section Reading
variable {api : IframeApi} (obeys : Obeys api)
include obeys

theorem transport_reading (playing : Bool) (localState : PlayerState) (iframe : Iframe) :
    reading ((YouTubePlayer.transport playing localState).foldl api iframe) = reading iframe := by
  unfold YouTubePlayer.transport
  split
  · split
    · exact obeys.playVideo iframe
    · rfl
  · split
    · exact obeys.pauseVideo iframe
    · rfl

theorem rate_reading (wanted : ℚ) {rate : ℚ} {iframe : Iframe} (measured : iframe.playbackRate = rate) :
    reading ((if rate ≠ wanted then [PlayerOperation.setPlaybackRate wanted] else []).foldl api iframe) =
      (iframe.currentTime, wanted) := by
  split
  · exact obeys.setPlaybackRate iframe wanted
  next same => exact Prod.ext rfl (measured.trans (not_not.mp same))

theorem seek_reading (needed : Bool) (target : ℚ) (iframe : Iframe) :
    reading ((if needed then [PlayerOperation.seekTo target] else []).foldl api iframe) =
      (if needed then target else iframe.currentTime, iframe.playbackRate) := by
  cases needed with
  | true => exact obeys.seekTo iframe target
  | false => rfl

theorem join_reading (v : Viewer) : reading (v.step api .join).iframe = reading v.iframe := by
  simp only [Viewer.step, Viewer.react, Viewer.disturb, YouTubePlayer.joinPlayback]
  split
  · exact (obeys.playVideo _).trans ((obeys.setVolume _ _).trans (obeys.unMute _))
  · exact (obeys.setVolume _ _).trans (obeys.unMute _)

end Reading

theorem reading_inj {iframe : Iframe} {time rate : ℚ} (read : reading iframe = (time, rate)) :
    iframe.currentTime = time ∧ iframe.playbackRate = rate := Prod.mk.inj read

section Tick
variable {api : IframeApi} (obeys : Obeys api) {s : Proto.SyncState} {v : Viewer}

/-- A tick that is not excused sets the rate and seeks when it has to. -/
structure Reconciled (api : IframeApi) (s : Proto.SyncState) (v : Viewer) : Prop where
  position : (v.step api .tick).iframe.currentTime =
    if needsSeek s v then YouTubePlayer.targetTimeSec s v.clock else v.iframe.currentTime
  rate : (v.step api .tick).iframe.playbackRate = snapRate s.playbackRate
  player : (v.step api .tick).player = { v.player with lastAppliedEpoch := some s.epoch }

theorem tick_clock (api : IframeApi) (v : Viewer) : (v.step api .tick).clock = v.clock := add_zero _

theorem tick_reconcile (reconciles : Reconciles s v) : v.player.tick v.iframe v.clock =
    ({ v.player with lastAppliedEpoch := some s.epoch }, v.player.reconcile s v.iframe v.clock) := by
  simp only [YouTubePlayer.tick, reconciles.shown, if_neg reconciles.chasing, if_neg reconciles.allowed]

include obeys

theorem tick_reconciled (reconciles : Reconciles s v) : Reconciled api s v := by
  have ticked := tick_reconcile reconciles
  have started := reading_inj (transport_reading obeys (s.status = .playing) v.iframe.state v.iframe)
  -- The operations one after the other: the transport, the rate, the seek.
  have read : reading (v.step api .tick).iframe =
      (if needsSeek s v then YouTubePlayer.targetTimeSec s v.clock else v.iframe.currentTime, snapRate s.playbackRate) := by
    have paced := reading_inj (rate_reading obeys (snapRate s.playbackRate) started.2)
    simp only [Viewer.step, Viewer.react, ticked, Viewer.disturb, YouTubePlayer.reconcile, drift_measured, List.foldl_append]
    rw [seek_reading obeys, paced.1, paced.2, started.1]
    rfl
  obtain ⟨position, rate⟩ := reading_inj read
  exact ⟨position, rate, by simp only [Viewer.step, Viewer.react, ticked]⟩

theorem tick_drift (reconciles : Reconciles s v) : drift s (v.step api .tick) = if needsSeek s v then 0 else drift s v := by
  rw [drift, (tick_reconciled obeys reconciles).position, tick_clock]
  split
  · rw [YouTubePlayer.targetTimeSec]
    ring
  · rfl

/-- After the tick the drift is within the tolerance, and within the smaller one
when the epoch was new. -/
theorem tick_close (reconciles : Reconciles s v) (ignore : 0 ≤ v.player.settings.driftIgnoreMs)
    (resync : 0 ≤ v.player.settings.driftResyncMs) :
    |drift s (v.step api .tick)| ≤ v.player.settings.driftResyncMs ∧
      (v.player.reanchors s → |drift s (v.step api .tick)| ≤ v.player.settings.driftIgnoreMs) := by
  rw [tick_drift obeys reconciles]
  split
  · rw [abs_zero]
    exact ⟨resync, fun _ => ignore⟩
  next within =>
    simp only [needsSeek, YouTubePlayer.needsSeek, decide_eq_true_eq, not_or, not_and, not_lt] at within
    exact within

end Tick

/-! Between two ticks. -/

/-- The iframe plays no faster than its rate; it may stall. Nobody moves it by
hand. -/
def Unhurried (v : Viewer) : Viewer.Event → Prop
  | .pass elapsed progress => 0 ≤ elapsed ∧ 0 ≤ progress ∧ progress ≤ elapsed * v.iframe.playbackRate
  | .deliver _ | .stateChange _ | .join => True
  | .tick | .swap _ | .control _ => False

/-- The greater of the two rates: how fast the player and the room can part. -/
def parting (s : Proto.SyncState) : ℚ := max (effectiveRate s) (snapRate s.playbackRate)

structure Near (s : Proto.SyncState) (since within : ℚ) (v : Viewer) : Prop where
  rate : v.iframe.playbackRate = snapRate s.playbackRate
  later : since ≤ v.clock
  close : |drift s v| ≤ within + (v.clock - since) * parting s

theorem elapsed_nonneg {v : Viewer} {event : Viewer.Event} (unhurried : Unhurried v event) : 0 ≤ Viewer.elapsed event := by
  cases event with
  | pass elapsed progress => exact unhurried.1
  | _ => exact le_rfl

section Between
variable {api : IframeApi} (obeys : Obeys api) {s : Proto.SyncState} {since within : ℚ}
include obeys

theorem step_iframe {v : Viewer} {event : Viewer.Event} (unhurried : Unhurried v event) :
    (v.step api event).iframe.playbackRate = v.iframe.playbackRate ∧
      ∃ progress, (v.step api event).iframe.currentTime = v.iframe.currentTime + progress / 1000 ∧ 0 ≤ progress ∧
        progress ≤ Viewer.elapsed event * v.iframe.playbackRate := by
  cases event with
  | deliver state => exact ⟨rfl, 0, by simp [Viewer.step, Viewer.react, Viewer.disturb], le_rfl, by simp [Viewer.elapsed]⟩
  | tick => exact unhurried.elim
  | join =>
    obtain ⟨position, rate⟩ := reading_inj (join_reading obeys v)
    exact ⟨rate, 0, by simp [position], le_rfl, by simp [Viewer.elapsed]⟩
  | swap videoId => exact unhurried.elim
  | stateChange state => exact ⟨rfl, 0, by simp [Viewer.step, Viewer.react, Viewer.disturb], le_rfl, by simp [Viewer.elapsed]⟩
  | pass elapsed progress => exact ⟨rfl, progress, rfl, unhurried.2.1, unhurried.2.2⟩
  | control iframe => exact unhurried.elim

theorem Near.step (rate : 0 ≤ effectiveRate s) (v : Viewer) (event : Viewer.Event) (near : Near s since within v)
    (unhurried : Unhurried v event) : Near s since within (v.step api event) := by
  obtain ⟨kept, progress, moved, forward, slow⟩ := step_iframe obeys unhurried
  have passed := elapsed_nonneg unhurried
  have clock : (v.step api event).clock = v.clock + Viewer.elapsed event := rfl
  refine ⟨kept.trans near.rate, by linarith [near.later], ?_⟩
  -- Both positions move forward, neither faster than `parting`.
  obtain ⟨least, most⟩ := advance_between s rate (show v.clock ≤ (v.step api event).clock by linarith)
  have own : Viewer.elapsed event * v.iframe.playbackRate ≤ Viewer.elapsed event * parting s := by
    rw [near.rate]
    exact mul_le_mul_of_nonneg_left (le_max_right _ _) passed
  have room : Viewer.elapsed event * effectiveRate s ≤ Viewer.elapsed event * parting s :=
    mul_le_mul_of_nonneg_left (le_max_left _ _) passed
  obtain ⟨below, above⟩ := abs_le.mp near.close
  rw [clock, add_sub_cancel_left] at most
  rw [clock] at least
  simp only [drift] at below above
  rw [drift, clock, moved, abs_le]
  constructor <;> linarith

theorem Near.run (rate : 0 ≤ effectiveRate s) {v : Viewer} (near : Near s since within v) {events : List Viewer.Event}
    (unhurried : ∀ visit ∈ trace (Viewer.step api) v events, Unhurried visit.1 visit.2) :
    Near s since within (Machine.run (Viewer.step api) v events) :=
  run_of_guarded (Near s since within) Unhurried (Near.step obeys rate) near unhurried

theorem tick_near {v : Viewer} (reconciles : Reconciles s v) (ignore : 0 ≤ v.player.settings.driftIgnoreMs)
    (resync : 0 ≤ v.player.settings.driftResyncMs) : Near s v.clock v.player.settings.driftResyncMs (v.step api .tick) := by
  have close := (tick_close obeys reconciles ignore resync).1
  refine ⟨(tick_reconciled obeys reconciles).rate, (tick_clock api v).ge, ?_⟩
  rw [tick_clock, sub_self, zero_mul, add_zero]
  exact close

end Between

/-- A viewer some time after a tick that was not excused, with the next tick not
yet overdue. -/
def Follows (api : IframeApi) (s : Proto.SyncState) (settings : SyncPlayerSettings) (v : Viewer) : Prop :=
  ∃ (earlier : Viewer) (events : List Viewer.Event), earlier.player.settings = settings ∧ Reconciles s earlier ∧
    (∀ visit ∈ trace (Viewer.step api) (earlier.step api .tick) events, Unhurried visit.1 visit.2) ∧
    v = run (Viewer.step api) (earlier.step api .tick) events ∧ v.clock ≤ earlier.clock + settings.syncTickMs

theorem Follows.close {api : IframeApi} (obeys : Obeys api) {s : Proto.SyncState} {settings : SyncPlayerSettings} {v : Viewer}
    (follows : Follows api s settings v) (rate : 0 ≤ effectiveRate s) (ignore : 0 ≤ settings.driftIgnoreMs)
    (resync : 0 ≤ settings.driftResyncMs) : |drift s v| ≤ settings.driftResyncMs + settings.syncTickMs * parting s := by
  obtain ⟨earlier, events, rfl, reconciles, unhurried, rfl, inTime⟩ := follows
  have near := (tick_near obeys reconciles ignore resync).run obeys rate unhurried
  have apart : 0 ≤ parting s := rate.trans (le_max_left _ _)
  have passed := mul_le_mul_of_nonneg_right (sub_le_iff_le_add'.mpr inTime) apart
  exact near.close.trans (add_le_add_right passed _)

/-! Two viewers, and a viewer and the room. -/

section Together
variable {api : IframeApi} {cfg : SyncConfig} {commands : List Command} {rs : RoomSync} {now : Int} {settings : SyncPlayerSettings}

end Together

/-- An embedded player that does what it is told at once. -/
def prompt (iframe : Iframe) : PlayerOperation → Iframe
  | .playVideo => { iframe with state := .playing }
  | .pauseVideo => { iframe with state := .paused }
  | .setPlaybackRate rate => { iframe with playbackRate := rate }
  | .seekTo seconds => { iframe with currentTime := seconds }
  | .cueVideoById _ => { iframe with state := .cued, currentTime := 0 }
  | .unMute | .setVolume _ => iframe

/-- A viewer whose video plays at `position` seconds when the clock shows `clock`. -/
def watching (clock position : ℚ) : Viewer := ⟨clock, ⟨.playing, position, 1⟩, ⟨defaultSettings, some playing.wire, true, none, false⟩⟩

/-- A tick that is excused at most asks the iframe to play. -/
theorem tick_excused {s : Proto.SyncState} {v : Viewer} (shown : v.player.syncState = some s) (excused : ¬ Reconciles s v) :
    v.player.tick v.iframe v.clock = ({ v.player with lastAppliedEpoch := some s.epoch }, []) ∨
      v.player.tick v.iframe v.clock = ({ v.player with lastAppliedEpoch := some s.epoch, needsGesture := true }, [.playVideo]) := by
  simp only [YouTubePlayer.tick, shown]
  split
  · exact Or.inl rfl
  next chasing =>
    split
    · exact Or.inr rfl
    next allowed => exact absurd ⟨shown, chasing, allowed⟩ excused

/-- The iframe plays at its rate and only the tick moves it. -/
def Steady (s : Proto.SyncState) (v : Viewer) : Viewer.Event → Prop
  | .pass elapsed progress => 0 ≤ elapsed ∧ progress = elapsed * v.iframe.playbackRate
  | .deliver state => state = some s
  | .tick | .stateChange _ | .join => True
  | .swap _ | .control _ => False

/-- The drift since a seek at `since` is what the two rates differ by. -/
structure Holds (s : Proto.SyncState) (settings : SyncPlayerSettings) (since : ℚ) (v : Viewer) : Prop where
  configured : v.player.settings = settings
  shown : v.player.syncState = some s
  applied : v.player.lastAppliedEpoch = some s.epoch
  rate : v.iframe.playbackRate = snapRate s.playbackRate
  later : since ≤ v.clock
  close : |drift s v| ≤ |snapRate s.playbackRate - s.playbackRate| * (v.clock - since)

section Steady
variable {api : IframeApi} {s : Proto.SyncState} {settings : SyncPlayerSettings} {since : ℚ} {v : Viewer}

theorem Holds.bound_nonneg (holds : Holds s settings since v) :
    0 ≤ |snapRate s.playbackRate - s.playbackRate| * (v.clock - since) :=
  mul_nonneg (abs_nonneg _) (sub_nonneg.mpr holds.later)

/-- An event that leaves the position and the component's view of the room alone. -/
theorem Holds.still {after : Viewer} (holds : Holds s settings since v) (configured : after.player.settings = v.player.settings)
    (shown : after.player.syncState = some s) (applied : after.player.lastAppliedEpoch = some s.epoch)
    (read : reading after.iframe = reading v.iframe) (clock : after.clock = v.clock) : Holds s settings since after := by
  obtain ⟨position, rate⟩ := reading_inj read
  refine ⟨configured.trans holds.configured, shown, applied, rate.trans holds.rate, ?_, ?_⟩
  · rw [clock]
    exact holds.later
  · rw [drift, position, clock]
    exact holds.close

theorem Holds.tick (obeys : Obeys api) (holds : Holds s settings since v) : Holds s settings since (v.step api .tick) := by
  by_cases reconciles : Reconciles s v
  · have reconciled := tick_reconciled obeys reconciles
    have clock := tick_clock api v
    refine ⟨?_, ?_, ?_, reconciled.rate, holds.later.trans clock.ge, ?_⟩
    · rw [reconciled.player]
      exact holds.configured
    · rw [reconciled.player]
      exact holds.shown
    · rw [reconciled.player]
    · rw [tick_drift obeys reconciles, clock]
      split
      · rw [abs_zero]
        exact holds.bound_nonneg
      · exact holds.close
  · have stepped : v.step api .tick = ⟨v.clock + 0, (v.react .tick).2.foldl api v.iframe, (v.react .tick).1⟩ := rfl
    rw [stepped, Viewer.react]
    rcases tick_excused holds.shown reconciles with same | asked
    · rw [same]
      exact holds.still rfl holds.shown rfl rfl (add_zero _)
    · rw [asked]
      exact holds.still rfl holds.shown rfl (obeys.playVideo _) (add_zero _)

/-- While the room plays, the drift grows by the difference of the rates. -/
theorem drift_pass (playing : s.status = .playing) {elapsed : ℚ} (started : s.wallTimeMs ≤ v.clock) (forward : 0 ≤ elapsed) :
    drift s (v.step api (.pass elapsed (elapsed * v.iframe.playbackRate))) =
      drift s v + elapsed * (v.iframe.playbackRate - s.playbackRate) := by
  have now : max 0 (v.clock - s.wallTimeMs) = v.clock - s.wallTimeMs := max_eq_right (by linarith)
  have later : max 0 (v.clock + elapsed - s.wallTimeMs) = v.clock + elapsed - s.wallTimeMs := max_eq_right (by linarith)
  simp only [drift, advance_eq, Viewer.step, Viewer.react, Viewer.disturb, Viewer.elapsed, List.foldl_nil, now, later,
    effectiveRate, playing, ↓reduceIte]
  ring

theorem Holds.pass (playing : s.status = .playing) (started : s.wallTimeMs ≤ since) (holds : Holds s settings since v)
    {elapsed : ℚ} (forward : 0 ≤ elapsed) :
    Holds s settings since (v.step api (.pass elapsed (elapsed * v.iframe.playbackRate))) := by
  have clock : (v.step api (.pass elapsed (elapsed * v.iframe.playbackRate))).clock = v.clock + elapsed := rfl
  refine ⟨holds.configured, holds.shown, holds.applied, holds.rate, by linarith [holds.later], ?_⟩
  rw [drift_pass playing (started.trans holds.later) forward, clock, holds.rate]
  calc |drift s v + elapsed * (snapRate s.playbackRate - s.playbackRate)|
      ≤ |drift s v| + |elapsed * (snapRate s.playbackRate - s.playbackRate)| := abs_add_le _ _
    _ = |drift s v| + |snapRate s.playbackRate - s.playbackRate| * elapsed := by
        rw [abs_mul, abs_of_nonneg forward, mul_comm elapsed]
    _ ≤ |snapRate s.playbackRate - s.playbackRate| * (v.clock + elapsed - since) := by linarith [holds.close]

theorem onStateChange_frame (p : YouTubePlayer) (state : PlayerState) :
    (p.onStateChange state).settings = p.settings ∧ (p.onStateChange state).syncState = p.syncState ∧
      (p.onStateChange state).lastAppliedEpoch = p.lastAppliedEpoch := by
  unfold YouTubePlayer.onStateChange
  split <;> exact ⟨rfl, rfl, rfl⟩

theorem Holds.step (obeys : Obeys api) (playing : s.status = .playing) (started : s.wallTimeMs ≤ since) (v : Viewer)
    (event : Viewer.Event) (holds : Holds s settings since v) (steady : Steady s v event) : Holds s settings since (v.step api event) := by
  cases event with
  | deliver state => exact holds.still rfl steady holds.applied rfl (add_zero _)
  | tick => exact holds.tick obeys
  | join => exact holds.still rfl holds.shown holds.applied (join_reading obeys v) (add_zero _)
  | swap videoId => exact steady.elim
  | stateChange state =>
    obtain ⟨configured, shown, applied⟩ := onStateChange_frame v.player state
    exact holds.still configured (shown.trans holds.shown) (applied.trans holds.applied) rfl (add_zero _)
  | pass elapsed progress =>
    obtain ⟨forward, rfl⟩ := steady
    exact holds.pass playing started forward
  | control iframe => exact steady.elim

theorem Holds.run (obeys : Obeys api) (playing : s.status = .playing) (started : s.wallTimeMs ≤ since)
    (holds : Holds s settings since v) {events : List Viewer.Event}
    (steady : ∀ visit ∈ trace (Viewer.step api) v events, Steady s visit.1 visit.2) :
    Holds s settings since (run (Viewer.step api) v events) :=
  run_of_guarded (Holds s settings since) (Steady s) (Holds.step obeys playing started) holds steady

end Steady

end VibeSync.Proofs.SyncPlayer
