import Mathlib.Algebra.Order.Floor.Ring
import VibeSync.Machine
import VibeSync.Proofs.SyncClock
import VibeSync.Proofs.SyncController

/-! Positions as whole milliseconds. Each resampling drops a fraction, and
nothing but the callers keeps a position from becoming negative. -/

namespace VibeSync.Proofs.SyncPositions
open VibeSync.Sync VibeSync.Sync.RoomSync VibeSync.Proofs.SyncSteps VibeSync.Proofs.SyncClock

/-! Whole milliseconds. -/

/-- What `int64(x)` keeps. -/
def trunc (x : ℚ) : Int := x.num.tdiv x.den

theorem trunc_floor {x : ℚ} (nonneg : 0 ≤ x) : trunc x = ⌊x⌋ := by
  rw [trunc, Int.tdiv_eq_ediv_of_nonneg (Rat.num_nonneg.mpr nonneg)]
  exact (Rat.floor_def x).symm

theorem trunc_neg (x : ℚ) : trunc (-x) = -trunc x := by
  rw [trunc, Rat.num_neg_eq_neg_num, Rat.den_neg_eq_den, Int.neg_tdiv]
  rfl

theorem abs_trunc_le (x : ℚ) : |(trunc x : ℚ)| ≤ |x| := by
  have small : ∀ y : ℚ, 0 ≤ y → |(trunc y : ℚ)| ≤ |y| := by
    intro y nonneg
    rw [trunc_floor nonneg, abs_of_nonneg nonneg, abs_of_nonneg (Int.cast_nonneg (Int.floor_nonneg.mpr nonneg))]
    exact Int.floor_le y
  rcases le_total 0 x with nonneg | nonpos
  · exact small x nonneg
  · have flipped := small (-x) (neg_nonneg.mpr nonpos)
    rw [trunc_neg, Int.cast_neg, abs_neg, abs_neg] at flipped
    exact flipped

/-- The milliseconds played from the sample to `t`. -/
def whole (s : SyncState) (t : Int) : Int := ⌊((t - s.wallTimeMs : Int) : ℚ) * s.playbackRate⌋

theorem played_whole {s : SyncState} {t : Int} (ordered : s.wallTimeMs ≤ t) (forwards : 0 ≤ s.playbackRate) :
    played s t = Int64.ofInt (whole s t) :=
  congrArg Int64.ofInt (trunc_floor (mul_nonneg (Int.cast_nonneg (Int.sub_nonneg.mpr ordered)) forwards))

theorem whole_nonneg {s : SyncState} {t : Int} (ordered : s.wallTimeMs ≤ t) (forwards : 0 ≤ s.playbackRate) : 0 ≤ whole s t :=
  Int.floor_nonneg.mpr (mul_nonneg (Int.cast_nonneg (Int.sub_nonneg.mpr ordered)) forwards)

theorem advance_whole {s : SyncState} {t : Int} (ordered : s.wallTimeMs ≤ t) (forwards : 0 ≤ s.playbackRate) :
    s.advanceMediaTime t = Int64.ofInt (s.mediaTimeMs.toInt + whole s t) := by
  rw [advance_eq_played ordered, played_whole ordered forwards, Int64.ofInt_add, Int64.ofInt_toInt]

/-! Resampling. -/

/-- A command that sets neither the position nor another rate, and goes on playing. -/
def Resamples (rate : ℚ) (c : Command) : Prop :=
  match c.kind with
  | .play | .next | .previous | .unspecified | .unknown _ => True
  | .seek => c.seekToMs = none
  | .setRate => ∀ asked, c.rate = some asked → RateInRange asked → asked = rate
  | .pause | .loadMedia => False

structure Sent where
  command : Command
  nowMs : Int
  now : Time

def apply (s : SyncState) (sent : Sent) : SyncState := s.applyCommand sent.command sent.nowMs sent.now

/-- The room plays on from a new sample. -/
structure Resampled (before : SyncState) (t : Int) (after : SyncState) : Prop where
  playing : after.status = .playing
  rate : after.playbackRate = before.playbackRate
  sampled : after.wallTimeMs = t
  position : after.mediaTimeMs = before.advanceMediaTime t

theorem perform_resamples {s : SyncState} {c : Command} (playing : s.status = .playing) (moving : s.playbackRate ≠ 0)
    (resamples : Resamples s.playbackRate c) :
    (s.perform c).status = .playing ∧ (s.perform c).playbackRate = s.playbackRate ∧
      (s.perform c).wallTimeMs = s.wallTimeMs ∧ (s.perform c).mediaTimeMs = s.mediaTimeMs := by
  obtain ⟨kind, seekToMs, rate, mediaID⟩ := c
  cases kind with
  | play => exact ⟨rfl, if_neg moving, rfl, rfl⟩
  | pause => exact resamples.elim
  | loadMedia => exact resamples.elim
  | seek =>
    obtain rfl : seekToMs = none := resamples
    exact ⟨playing, rfl, rfl, rfl⟩
  | setRate =>
    cases rate with
    | none => exact ⟨playing, rfl, rfl, rfl⟩
    | some asked =>
      simp only [SyncState.perform]
      split
      next inRange =>
        have positive : asked > 0 := lt_of_lt_of_le (by norm_num) inRange.1
        exact ⟨if_pos positive, resamples asked rfl inRange, rfl, rfl⟩
      · exact ⟨playing, rfl, rfl, rfl⟩
  | _ => exact ⟨playing, rfl, rfl, rfl⟩

theorem apply_resampled {s : SyncState} {sent : Sent} (playing : s.status = .playing) (moving : s.playbackRate ≠ 0)
    (resamples : Resamples s.playbackRate sent.command) : Resampled s sent.nowMs (apply s sent) := by
  obtain ⟨still, rate, sampled, position⟩ := @perform_resamples (s.resample sent.nowMs) sent.command playing moving resamples
  exact ⟨still, rate, sampled, position.trans (if_pos playing)⟩

/-- Two roundings lose at most one millisecond against one. -/
theorem Resampled.loses {before after : SyncState} {middle t : Int} (resampled : Resampled before middle after)
    (ordered : before.wallTimeMs ≤ middle) (later : middle ≤ t) (forwards : 0 ≤ before.playbackRate) :
    ∃ lost : Nat, lost ≤ 1 ∧ after.advanceMediaTime t = before.advanceMediaTime t - Int64.ofInt lost := by
  have still : 0 ≤ after.playbackRate := by
    rw [resampled.rate]
    exact forwards
  have afterwards : whole after t = ⌊((t - middle : Int) : ℚ) * before.playbackRate⌋ := by
    rw [whole, resampled.sampled, resampled.rate]
  have split : ((t - before.wallTimeMs : Int) : ℚ) * before.playbackRate =
      ((middle - before.wallTimeMs : Int) : ℚ) * before.playbackRate + ((t - middle : Int) : ℚ) * before.playbackRate := by
    push_cast
    ring
  have least : whole before middle + whole after t ≤ whole before t := by
    rw [afterwards, whole, whole, split]
    exact Int.le_floor_add _ _
  have most : whole before t - 1 ≤ whole before middle + whole after t := by
    rw [afterwards, whole, whole, split]
    exact Int.le_floor_add_floor _ _
  refine ⟨(whole before t - (whole before middle + whole after t)).toNat, by omega, ?_⟩
  rw [Int.toNat_of_nonneg (by omega), advance_eq_played (by rw [resampled.sampled]; exact later), resampled.position,
    advance_whole ordered forwards, advance_whole (ordered.trans later) forwards,
    played_whole (by rw [resampled.sampled]; exact later) still, ← Int64.ofInt_add, ← Int64.ofInt_sub]
  congr 1
  omega

/-- The readings do not run backwards, the first is not before `clock` and the last not after `t`. -/
def Timed (clock t : Int) : List Int → Prop
  | [] => clock ≤ t
  | reading :: rest => clock ≤ reading ∧ Timed reading t rest

theorem Timed.reaches {clock t : Int} {readings : List Int} (timed : Timed clock t readings) : clock ≤ t := by
  induction readings generalizing clock with
  | nil => exact timed
  | cons reading rest ih => exact timed.1.trans (ih timed.2)

theorem resampling_loses {s : SyncState} (playing : s.status = .playing) (inRange : RateInRange s.playbackRate)
    {commands : List Sent} {t : Int} (timed : Timed s.wallTimeMs t (commands.map Sent.nowMs))
    (resamples : ∀ sent ∈ commands, Resamples s.playbackRate sent.command) :
    ∃ lost : Nat, lost ≤ commands.length ∧
      (Machine.run apply s commands).advanceMediaTime t = s.advanceMediaTime t - Int64.ofInt lost := by
  have positive : 0 < s.playbackRate := lt_of_lt_of_le (by norm_num) inRange.1
  induction commands generalizing s with
  | nil => exact ⟨0, le_rfl, (Int64.sub_zero _).symm⟩
  | cons sent rest ih =>
    obtain ⟨here, later⟩ := List.forall_mem_cons.mp resamples
    have resampled := apply_resampled playing positive.ne' here
    obtain ⟨first, most, moved⟩ := resampled.loses timed.1 timed.2.reaches positive.le
    rw [← resampled.rate] at inRange positive later
    obtain ⟨others, fewer, same⟩ := ih resampled.playing inRange (by rw [resampled.sampled]; exact timed.2) later positive
    refine ⟨first + others, by rw [List.length_cons]; omega, ?_⟩
    rw [Machine.run_cons, same, moved, Nat.cast_add, Int64.ofInt_add]
    grind

/-- Over any resampling commands the position stays within one millisecond for
each of them: as `int64` values always, and as numbers if the bound is one. -/
theorem resampling_loses_little (s : SyncState) (playing : s.status = .playing) (inRange : RateInRange s.playbackRate)
    (commands : List Sent) (t : Int) (timed : Timed s.wallTimeMs t (commands.map Sent.nowMs))
    (resamples : ∀ sent ∈ commands, Resamples s.playbackRate sent.command) :
    (∃ lost : Nat, lost ≤ commands.length ∧
        (Machine.run apply s commands).advanceMediaTime t = s.advanceMediaTime t - Int64.ofInt lost) ∧
      (-2 ^ 63 ≤ (s.advanceMediaTime t).toInt - commands.length →
        (s.advanceMediaTime t).toInt - commands.length ≤ ((Machine.run apply s commands).advanceMediaTime t).toInt ∧
          ((Machine.run apply s commands).advanceMediaTime t).toInt ≤ (s.advanceMediaTime t).toInt) := by
  obtain ⟨lost, most, same⟩ := resampling_loses playing inRange timed resamples
  refine ⟨⟨lost, most, same⟩, fun representable => ?_⟩
  have bound := (s.advanceMediaTime t).toInt_lt
  have exact_ : ((Machine.run apply s commands).advanceMediaTime t).toInt = (s.advanceMediaTime t).toInt - lost := by
    rw [same, ← Int64.ofInt_toInt (s.advanceMediaTime t), ← Int64.ofInt_sub, Int64.ofInt_toInt]
    exact Int64.toInt_ofInt_of_le (by omega) (by omega)
  omega

/-- Three quarters of the time, cut to milliseconds twice. -/
def slowed : SyncState := { watching.state with playbackRate := 3 / 4 }

theorem watching_resampled :
    (Machine.run apply slowed [⟨play, 1501, 0⟩]).advanceMediaTime 2000 = slowed.advanceMediaTime 2000 - 1 ∧
      ∃ lost : Nat, lost ≤ 1 ∧
        (Machine.run apply slowed [⟨play, 1501, 0⟩]).advanceMediaTime 2000 = slowed.advanceMediaTime 2000 - Int64.ofInt lost :=
  ⟨by decide +kernel, (resampling_loses_little slowed (by decide) (by decide +kernel) [⟨play, 1501, 0⟩] 2000
    (by simp [Timed]; decide) (by simp [Resamples, play])).1⟩

/-! The sign of a position. -/

/-- The position at `t` is an `int64`. -/
def Fits (s : SyncState) (t : Int) : Prop := s.mediaTimeMs.toInt + whole s t < 2 ^ 63

theorem advance_toInt {s : SyncState} {t : Int} (ordered : s.wallTimeMs ≤ t) (forwards : 0 ≤ s.playbackRate)
    (fits : Fits s t) : (s.advanceMediaTime t).toInt = s.mediaTimeMs.toInt + whole s t := by
  have more := whole_nonneg ordered forwards
  have least := s.mediaTimeMs.le_toInt
  rw [advance_whole ordered forwards]
  exact Int64.toInt_ofInt_of_le (by omega) fits

/-- What a room owes its callers: seeks to positions that exist, corrections that
the position can bear, and no position beyond `int64`. -/
def Careful (rs : RoomSync) (event : Event) : Prop :=
  match event.action with
  | .command c fencingToken => ¬ fencingToken < rs.state.fencingToken →
      (c.kind = .seek → ∀ target, c.seekToMs = some target → 0 ≤ target.toInt) ∧
        (rs.state.status = .playing → Fits rs.state event.nowMs)
  | .tick _ => rs.cfg.driftCorrectionEnabled →
      SyncController.reach (makeController rs.cfg) ≤ rs.state.mediaTimeMs.toInt ∧
        rs.state.mediaTimeMs.toInt + SyncController.reach (makeController rs.cfg) < 2 ^ 63
  | _ => True

structure Forward (rs : RoomSync) (clock : Int) : Prop where
  position : 0 ≤ rs.state.mediaTimeMs.toInt
  sampled : rs.state.wallTimeMs ≤ clock
  forwards : 0 ≤ rs.state.playbackRate
  controller : SyncController.Clamped (makeController rs.cfg) rs.controller

theorem Forward.wait {rs : RoomSync} {clock later : Int} (forward : Forward rs clock) (elapsed : clock ≤ later) :
    Forward rs later := ⟨forward.position, forward.sampled.trans elapsed, forward.forwards, forward.controller⟩

theorem perform_forward {s : SyncState} {c : Command} (position : 0 ≤ s.mediaTimeMs.toInt) (forwards : 0 ≤ s.playbackRate)
    (ahead : c.kind = .seek → ∀ target, c.seekToMs = some target → 0 ≤ target.toInt) :
    0 ≤ (s.perform c).mediaTimeMs.toInt ∧ 0 ≤ (s.perform c).playbackRate := by
  unfold SyncState.perform
  split
  · refine ⟨position, ?_⟩
    dsimp only
    split
    · exact zero_le_one
    · exact forwards
  · exact ⟨position, le_rfl⟩
  next seek =>
    split
    next target given => exact ⟨ahead seek target given, forwards⟩
    · exact ⟨position, forwards⟩
  · split
    next rate _ =>
      split
      next inRange => exact ⟨position, le_trans (by norm_num) inRange.1⟩
      · exact ⟨position, forwards⟩
    · exact ⟨position, forwards⟩
  · exact ⟨le_rfl, le_rfl⟩
  all_goals exact ⟨position, forwards⟩

theorem resample_forward {s : SyncState} {t : Int} (position : 0 ≤ s.mediaTimeMs.toInt) (forwards : 0 ≤ s.playbackRate)
    (ordered : s.wallTimeMs ≤ t) (fits : s.status = .playing → Fits s t) : 0 ≤ (s.resample t).mediaTimeMs.toInt := by
  dsimp only [SyncState.resample]
  split
  next playing =>
    have more := whole_nonneg ordered forwards
    rw [advance_toInt ordered forwards (fits playing)]
    omega
  · exact position

theorem elects_sample {now : Time} {rs after : RoomSync} (elects : Elects now rs after) :
    after.state.mediaTimeMs = rs.state.mediaTimeMs ∧ after.state.wallTimeMs = rs.state.wallTimeMs ∧
      after.controller = rs.controller ∧ after.cfg = rs.cfg := by
  cases elects with
  | keep => exact ⟨rfl, rfl, rfl, rfl⟩
  | migrate successor named new => exact ⟨rfl, rfl, rfl, rfl⟩
  | pause =>
    unfold pauseHostless
    split <;> exact ⟨rfl, rfl, rfl, rfl⟩

theorem sub_int64OfFloat (position : Int64) (x : ℚ) :
    position - int64OfFloat x = Int64.ofInt (position.toInt - trunc x) := by
  rw [Int64.ofInt_sub, Int64.ofInt_toInt]
  rfl

/-- A correction within reach leaves a position that is not negative. -/
theorem nudge_position {rs : RoomSync} {correctionMs reach : ℚ} {t : Int} (small : |correctionMs| ≤ reach)
    (bears : reach ≤ rs.state.mediaTimeMs.toInt) (fits : rs.state.mediaTimeMs.toInt + reach < 2 ^ 63) :
    0 ≤ (rs.nudge correctionMs t).state.mediaTimeMs.toInt := by
  have bounds := abs_le.mp ((abs_trunc_le correctionMs).trans small)
  have below : trunc correctionMs ≤ rs.state.mediaTimeMs.toInt := by
    exact_mod_cast bounds.2.trans bears
  have above : rs.state.mediaTimeMs.toInt - trunc correctionMs < 2 ^ 63 := by
    have : (rs.state.mediaTimeMs.toInt - trunc correctionMs : ℚ) < 2 ^ 63 := by linarith [bounds.1]
    exact_mod_cast this
  unfold nudge
  split
  · change 0 ≤ (rs.state.mediaTimeMs - int64OfFloat correctionMs).toInt
    rw [sub_int64OfFloat, Int64.toInt_ofInt_of_le (by omega) above]
    omega
  · have nonneg : 0 ≤ reach := (abs_nonneg _).trans small
    exact_mod_cast nonneg.trans bears

theorem tick_forward {rs : RoomSync} {clock t : Int} {now : Time} {order : MapOrder} (forward : Forward rs clock)
    (elapsed : clock ≤ t) (careful : Careful rs ⟨.tick order, t, now⟩) : Forward (rs.tick now t order) t := by
  obtain ⟨halts, sampled⟩ := SyncLineage.tick_halts rs now t order
  have settings := SyncController.makeController_settings rs.cfg
  have forwards : 0 ≤ (rs.tick now t order).state.playbackRate := by
    rcases halts with ⟨_, same⟩ | ⟨_, _, still⟩
    · rw [same]
      exact forward.forwards
    · rw [still]
  have before : (rs.tick now t order).state.wallTimeMs ≤ t := by
    rcases sampled with same | same
    · rw [same]
      exact forward.sampled.trans elapsed
    · rw [same]
  suffices kept : 0 ≤ (rs.tick now t order).state.mediaTimeMs.toInt ∧
      SyncController.Clamped (makeController (rs.tick now t order).cfg) (rs.tick now t order).controller from
    ⟨kept.1, before, forwards, kept.2⟩
  unfold tick
  split
  next enabled =>
    obtain ⟨bears, fits⟩ := careful enabled
    have corrected : SyncController.Corrected rs.controller _ _ _ _ (rs.driftResult now) := SyncController.correct_corrected ..
    have clamped := forward.controller.corrected settings corrected
    have small := corrected.correction_le (forward.controller.settings settings)
    rw [forward.controller.reach] at small
    dsimp only
    split
    · exact ⟨forward.position, clamped.step settings .reset⟩
    · obtain ⟨position, -, controller, cfg⟩ := elects_sample (checkHostMigration_elects
        ({ rs with controller := (rs.driftResult now).2 }.nudge (rs.driftResult now).1.correctionMs t) now order)
      have nudged := nudge_frame { rs with controller := (rs.driftResult now).2 } (rs.driftResult now).1.correctionMs t
      have kept : ({ rs with controller := (rs.driftResult now).2 }.nudge (rs.driftResult now).1.correctionMs t).controller =
          (rs.driftResult now).2 := by
        unfold nudge
        split <;> rfl
      rw [position, controller, cfg, nudged.cfg, kept]
      exact ⟨@nudge_position { rs with controller := (rs.driftResult now).2 } _ _ t small bears fits, clamped⟩
  · obtain ⟨position, -, controller, cfg⟩ := elects_sample (checkHostMigration_elects rs now order)
    rw [position, controller, cfg]
    exact ⟨forward.position, forward.controller⟩

theorem Forward.step {rs : RoomSync} {clock : Int} {event : Event} (forward : Forward rs clock)
    (elapsed : clock ≤ event.nowMs) (careful : Careful rs event) : Forward (rs.step event) event.nowMs := by
  have later := forward.wait elapsed
  obtain ⟨action, t, now⟩ := event
  cases action with
  | command c fencingToken =>
    dsimp only [RoomSync.step, processCommandAuthorized, applyCommandLocked]
    split
    · exact later
    next fresh =>
      obtain ⟨ahead, fits⟩ := careful fresh
      have resampled := resample_forward forward.position forward.forwards later.sampled fits
      obtain ⟨position, forwards⟩ := @perform_forward (rs.state.resample t) c resampled forward.forwards ahead
      exact ⟨position, (applyCommand_wallTimeMs rs.state c t now).le, forwards, forward.controller⟩
  | tick order => exact tick_forward forward elapsed careful
  | adoptOwner ownerID =>
    dsimp only [RoomSync.step, adoptOwnerIfUnset]
    split
    · exact later
    · split <;> exact ⟨later.position, later.sampled, later.forwards, later.controller⟩
  | _ => exact ⟨later.position, later.sampled, later.forwards, later.controller⟩

theorem Forward.run {rs : RoomSync} {clock t : Int} {events : List Event} (forward : Forward rs clock)
    (timed : Timed clock t (events.map Event.nowMs))
    (careful : ∀ visit ∈ Machine.trace RoomSync.step rs events, Careful visit.1 visit.2) :
    Forward (Machine.run RoomSync.step rs events) t := by
  induction events generalizing rs clock with
  | nil => exact forward.wait timed
  | cons event rest ih =>
    obtain ⟨here, later⟩ := List.forall_mem_cons.mp careful
    exact ih (forward.step timed.1 here) timed.2 later

/-- A state that a room may begin with: a fresh one, one of a message or a row. -/
structure Begins (initial : SyncState) (clock : Int) : Prop where
  position : 0 ≤ initial.mediaTimeMs.toInt
  sampled : initial.wallTimeMs ≤ clock
  forwards : 0 ≤ initial.playbackRate

theorem begins_init (roomID ownerID : String) {clock : Int} (started : 0 ≤ clock) :
    Begins (RoomManager.initState roomID ownerID) clock := ⟨le_rfl, started, zero_le_one⟩

theorem Begins.forward {initial : SyncState} {clock : Int} (begins : Begins initial clock) (cfg : SyncConfig)
    (roomID : String) : Forward (newRoomSync cfg roomID initial) clock :=
  ⟨begins.position, begins.sampled, begins.forwards, rfl, rfl, rfl, rfl, by
    change |(0 : ℚ)| ≤ _
    rw [abs_zero]
    exact (SyncController.makeController_settings cfg).clamp⟩

/-- In every run of careful steps no position is negative, now or later. -/
theorem positions_nonneg_of_careful (cfg : SyncConfig) (roomID : String) (initial : SyncState) (clock t : Int)
    (begins : Begins initial clock) (events : List Event) (timed : Timed clock t (events.map Event.nowMs))
    (careful : ∀ visit ∈ Machine.trace RoomSync.step (newRoomSync cfg roomID initial) events, Careful visit.1 visit.2) :
    0 ≤ (Machine.run RoomSync.step (newRoomSync cfg roomID initial) events).state.mediaTimeMs.toInt ∧
      ∀ later, t ≤ later → Fits (Machine.run RoomSync.step (newRoomSync cfg roomID initial) events).state later →
        0 ≤ ((Machine.run RoomSync.step (newRoomSync cfg roomID initial) events).state.advanceMediaTime later).toInt := by
  have forward := (begins.forward cfg roomID).run timed careful
  refine ⟨forward.position, fun later elapsed fits => ?_⟩
  have ordered := forward.sampled.trans elapsed
  have more := whole_nonneg ordered forward.forwards
  have position := forward.position
  rw [advance_toInt ordered forward.forwards fits]
  omega

def seekTo (target : Int64) : Event := ⟨.command { play with kind := .seek, seekToMs := some target } 0, 1000, 0⟩

/-- A seek, two clients of whom one is ahead, and a tick that corrects for it. -/
def caughtUp : List Event :=
  [seekTo 60000, ⟨.command play 0, 1000, 0⟩, ⟨.heartbeat "bob" 60000 1000 1000, 1001, 1001000000⟩,
    ⟨.heartbeat "alice" 60000 1000 1000, 1001, 1001000000⟩, ⟨.heartbeat "alice" 61400 2000 2000, 2001, 2001000000⟩,
    ⟨.tick .stored, 2500, 2500000000⟩]

def tuned : RoomSync := newRoomSync { driftCorrectionEnabled := true } "r1" (RoomManager.initState "r1" "alice")

theorem caughtUp_careful : ∀ visit ∈ Machine.trace RoomSync.step tuned caughtUp, Careful visit.1 visit.2 := by
  simp only [Machine.trace, caughtUp, List.forall_mem_cons]
  refine ⟨fun _ => ⟨fun _ target given => ?_, fun playing => ?_⟩, fun _ => ⟨fun seeks => ?_, fun playing => ?_⟩, trivial, trivial, trivial,
    fun _ => ⟨?_, ?_⟩, List.forall_mem_nil _⟩
  · cases given
    decide
  · cases playing
  · cases seeks
  · exact absurd playing (by decide +kernel)
  · decide +kernel
  · decide +kernel

theorem seek_forwards :
    (Machine.run RoomSync.step tuned caughtUp).state.wallTimeMs = 2500 ∧
      0 ≤ (Machine.run RoomSync.step tuned caughtUp).state.mediaTimeMs.toInt :=
  ⟨by decide +kernel, (positions_nonneg_of_careful { driftCorrectionEnabled := true } "r1" (RoomManager.initState "r1" "alice") 0 2500
    (begins_init "r1" "alice" le_rfl) caughtUp (by simp [Timed, caughtUp, seekTo]) caughtUp_careful).1⟩

/-- A seek goes wherever the caller says. -/
theorem seek_before_start :
    ¬ ∀ (cfg : SyncConfig) (roomID : String) (initial : SyncState) (clock t : Int), Begins initial clock →
        ∀ events : List Event, Timed clock t (events.map Event.nowMs) →
          0 ≤ (Machine.run RoomSync.step (newRoomSync cfg roomID initial) events).state.mediaTimeMs.toInt := by
  intro claim
  have position := claim {} "r1" (RoomManager.initState "r1" "alice") 0 1000 (begins_init "r1" "alice" le_rfl) [seekTo (-5)]
    (by simp [Timed, seekTo])
  exact absurd position (by decide +kernel)

end VibeSync.Proofs.SyncPositions
