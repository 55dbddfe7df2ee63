import VibeSync.Proofs.SyncElection
import VibeSync.Proofs.SyncPositions

/-! One drift correction against the peer it is measured on. The tick subtracts
the correction from a sample that it does not bring up to date first, so it
moves the room towards the peer only in a narrow band of drifts. -/

namespace VibeSync.Proofs.SyncCorrection
open VibeSync.Sync VibeSync.Sync.RoomSync VibeSync.Proofs.SyncClock VibeSync.Proofs.SyncPositions

/-- The peer that drifts are measured against. -/
def referenceID (rs : RoomSync) : String := if rs.state.ownerID = "" then rs.state.hostID else rs.state.ownerID

structure Reference (rs : RoomSync) (now : Time) (hb : ClientHeartbeat) : Prop where
  named : referenceID rs ≠ ""
  known : rs.heartbeats.lookup (referenceID rs) = some hb
  alive : hb.isAlive now rs.cfg.timeout

theorem Reference.present {rs : RoomSync} {now : Time} {hb : ClientHeartbeat} (reference : Reference rs now hb) :
    rs.isPresent (referenceID rs) now := by
  rw [isPresent, reference.known]
  exact reference.alive

/-- A live reference is a host or takes over from one. -/
theorem Reference.hosted {rs : RoomSync} {now : Time} {hb : ClientHeartbeat} (reference : Reference rs now hb)
    (order : MapOrder) : ¬ Departed rs now order := by
  rintro ⟨away, hosted, gone, -⟩
  have present := reference.present
  unfold referenceID at present
  split at present
  · exact gone present
  next owned =>
    by_cases hosting : rs.state.hostID = rs.state.ownerID
    · exact gone (hosting ▸ present)
    · exact away ⟨owned, hosting, present⟩

theorem Reference.driftReference {rs : RoomSync} {now : Time} {hb : ClientHeartbeat} (reference : Reference rs now hb) :
    rs.driftReference now = if hb.smoothedRTT > 0 then some hb else none := by
  have known := reference.known
  have named := reference.named
  unfold referenceID at known named
  simp only [RoomSync.driftReference, if_neg named, known, reference.alive, true_and]

/-! The correction. -/

/-- The default gains, and nothing accumulated. -/
structure Tuned (dc : DriftController) : Prop where
  kp : dc.kp = 15 / 100
  ki : dc.ki = 2 / 100
  integral : dc.integral = 0
  clamp : 0 ≤ dc.integralClampMs

theorem Tuned.settings {dc : DriftController} (tuned : Tuned dc) (threshold : 0 ≤ dc.discontinuityThresholdMs) :
    SyncController.Settings dc := by
  refine ⟨?_, ?_, tuned.clamp, threshold⟩
  · rw [tuned.kp]
    norm_num
  · rw [tuned.ki]
    norm_num

/-- The controller's answer to a first drift. -/
def answer (rs : RoomSync) (drift : ℚ) : ℚ :=
  rs.controller.kp * drift + rs.controller.ki * rs.controller.clampIntegral (drift * (rs.cfg.heartbeatEvery / 1000000000))

theorem clampIntegral_nonneg {dc : DriftController} (clamp : 0 ≤ dc.integralClampMs) {value : ℚ} (nonneg : 0 ≤ value) :
    0 ≤ dc.clampIntegral value := by
  unfold DriftController.clampIntegral
  split
  · exact clamp
  · rw [if_neg (by linarith)]
    exact nonneg

theorem clampIntegral_nonpos {dc : DriftController} (clamp : 0 ≤ dc.integralClampMs) {value : ℚ} (nonpos : value ≤ 0) :
    dc.clampIntegral value ≤ 0 := by
  unfold DriftController.clampIntegral
  rw [if_neg (by linarith)]
  split
  · exact neg_nonpos.mpr clamp
  · exact nonpos

theorem heartbeatEvery_pos (cfg : SyncConfig) : 0 < cfg.heartbeatEvery := by
  unfold SyncConfig.heartbeatEvery
  split
  next positive => exact positive
  · norm_num

/-- The correction has the sign of the drift. -/
theorem answer_ne_zero {rs : RoomSync} (tuned : Tuned rs.controller) {drift : ℚ} (drifts : drift ≠ 0) : answer rs drift ≠ 0 := by
  have interval : (0 : ℚ) < rs.cfg.heartbeatEvery / 1000000000 :=
    div_pos (by exact_mod_cast heartbeatEvery_pos rs.cfg) (by norm_num)
  unfold answer
  rw [tuned.kp, tuned.ki]
  rcases lt_or_gt_of_ne drifts with behind | ahead
  · have accumulated := clampIntegral_nonpos tuned.clamp (mul_nonpos_of_nonpos_of_nonneg behind.le interval.le)
    linarith
  · have accumulated := clampIntegral_nonneg tuned.clamp (mul_nonneg ahead.le interval.le)
    linarith

theorem answer_zero {rs : RoomSync} (tuned : Tuned rs.controller) : answer rs 0 = 0 := by
  have none : rs.controller.clampIntegral 0 = 0 :=
    le_antisymm (clampIntegral_nonpos tuned.clamp le_rfl) (clampIntegral_nonneg tuned.clamp le_rfl)
  rw [answer, zero_mul, none, mul_zero, mul_zero, add_zero]

/-- The tick corrects: the estimate is there, the peer drifts and enough peers
are about. -/
def Acts (rs : RoomSync) (now : Time) (hb : ClientHeartbeat) : Prop :=
  hb.smoothedRTT > 0 ∧ hb.driftMs ≠ 0 ∧ 2 ≤ (rs.alive now).length ∧
    30 ≤ computeConfidence (rs.alive now).length [hb.smoothedRTT]

instance (rs : RoomSync) (now : Time) (hb : ClientHeartbeat) : Decidable (Acts rs now hb) :=
  inferInstanceAs (Decidable (_ ∧ _))

/-- A room that ticks at `t` with a peer at `peer`, no further away than a
correction may go, and clear of the ends of `int64`. -/
structure Drifts (rs : RoomSync) (now : Time) (t : Int) (hb : ClientHeartbeat) (peer : ℚ) : Prop where
  enabled : rs.cfg.driftCorrectionEnabled
  playing : rs.state.status = .playing
  reference : Reference rs now hb
  measured : hb.driftMs = peer - (rs.state.advanceMediaTime t).toInt
  small : |hb.driftMs| ≤ rs.controller.discontinuityThresholdMs
  tuned : Tuned rs.controller
  clear : |(rs.state.mediaTimeMs.toInt : ℚ)| + SyncController.reach rs.controller < 2 ^ 63

theorem Drifts.settings {rs : RoomSync} {now : Time} {t : Int} {hb : ClientHeartbeat} {peer : ℚ}
    (drifts : Drifts rs now t hb peer) : SyncController.Settings rs.controller :=
  drifts.tuned.settings ((abs_nonneg _).trans drifts.small)

/-- What the controller makes of a drift within its threshold. -/
theorem correct_tuned {rs : RoomSync} (tuned : Tuned rs.controller) {drift : ℚ}
    (small : |drift| ≤ rs.controller.discontinuityThresholdMs) (peers confidence : Nat) :
    (rs.controller.correct drift rs.cfg.heartbeatEvery peers confidence).1.forceSnapshot = false ∧
      (rs.controller.correct drift rs.cfg.heartbeatEvery peers confidence).1.correctionMs =
        if 2 ≤ peers ∧ 30 ≤ confidence then answer rs drift else 0 := by
  have corrected := SyncController.correct_corrected rs.controller drift rs.cfg.heartbeatEvery peers confidence
  generalize rs.controller.correct drift rs.cfg.heartbeatEvery peers confidence = outcome at corrected ⊢
  cases corrected with
  | skipped unsure => exact ⟨rfl, (if_neg (by omega)).symm⟩
  | discontinuous sure large => exact absurd small (not_le.mpr large)
  | @corrected sure small integral accumulated =>
    rw [tuned.integral, zero_add] at accumulated
    rw [if_pos (by omega), accumulated]
    exact ⟨rfl, rfl⟩

/-- What the controller makes of such a room. -/
theorem Drifts.result {rs : RoomSync} {now : Time} {t : Int} {hb : ClientHeartbeat} {peer : ℚ}
    (drifts : Drifts rs now t hb peer) : (rs.driftResult now).1.forceSnapshot = false ∧
      (rs.driftResult now).1.correctionMs = if Acts rs now hb then answer rs hb.driftMs else 0 := by
  by_cases timed : hb.smoothedRTT > 0
  · have measured : rs.driftResult now = rs.controller.correct hb.driftMs rs.cfg.heartbeatEvery (rs.alive now).length
        (computeConfidence (rs.alive now).length [hb.smoothedRTT]) := by
      simp only [driftResult, drifts.reference.driftReference, if_pos timed, Option.toList_some, List.map_cons, List.map_nil,
        SyncElection.medianFloats_single]
    obtain ⟨quiet, correction⟩ := correct_tuned drifts.tuned drifts.small (rs.alive now).length
      (computeConfidence (rs.alive now).length [hb.smoothedRTT])
    rw [measured]
    refine ⟨quiet, correction.trans ?_⟩
    by_cases still : hb.driftMs = 0
    · rw [if_neg fun acts : Acts rs now hb => acts.2.1 still, still, answer_zero drifts.tuned, ite_self]
    · simp only [Acts, timed, still, ne_eq, not_false_eq_true, true_and]
  · have unmeasured : rs.driftResult now = rs.controller.correct 0 rs.cfg.heartbeatEvery (rs.alive now).length
        (computeConfidence (rs.alive now).length []) := by
      simp only [driftResult, drifts.reference.driftReference, if_neg timed, Option.toList_none, List.map_nil]
      rfl
    have settled : |(0 : ℚ)| ≤ rs.controller.discontinuityThresholdMs := by
      rw [abs_zero]
      exact drifts.settings.threshold
    obtain ⟨quiet, correction⟩ := correct_tuned drifts.tuned settled (rs.alive now).length
      (computeConfidence (rs.alive now).length [])
    rw [unmeasured, if_neg fun acts : Acts rs now hb => timed acts.1]
    refine ⟨quiet, correction.trans ?_⟩
    rw [answer_zero drifts.tuned, ite_self]

/-- The position after the tick is the one after the correction. -/
theorem Drifts.advance_tick {rs : RoomSync} {now : Time} {t : Int} {hb : ClientHeartbeat} {peer : ℚ}
    (drifts : Drifts rs now t hb peer) (order : MapOrder) : (rs.tick now t order).state.advanceMediaTime t =
      if Acts rs now hb then rs.state.mediaTimeMs - int64OfFloat (answer rs hb.driftMs) else rs.state.advanceMediaTime t := by
  obtain ⟨quiet, correction⟩ := drifts.result
  simp only [tick, drifts.enabled, quiet, ↓reduceIte, Bool.false_eq_true]
  by_cases acts : Acts rs now hb
  · rw [if_pos acts] at correction
    have moves : (rs.driftResult now).1.correctionMs ≠ 0 ∧ rs.state.status = .playing := by
      rw [correction]
      exact ⟨answer_ne_zero drifts.tuned acts.2.1, drifts.playing⟩
    have nudged := @nudge_state { rs with controller := (rs.driftResult now).2 } _ t moves
    obtain ⟨position, sampled, -⟩ := elects_sample (SyncSteps.checkHostMigration_elects
      ({ rs with controller := (rs.driftResult now).2 }.nudge (rs.driftResult now).1.correctionMs t) now order)
    rw [nudged] at position sampled
    rw [advance_at_sample sampled, position, if_pos acts, ← correction]
  · rw [if_neg acts] at correction
    have idle := @nudge_idle { rs with controller := (rs.driftResult now).2 } 0 t (fun moves => moves.1 rfl)
    rw [if_neg acts, correction, idle]
    obtain ⟨hostID, epoch, fencingToken, epochStarted, same⟩ :=
      @check_hosted { rs with controller := (rs.driftResult now).2 } now order (drifts.reference.hosted order)
    rw [same]
    rfl

theorem Drifts.answer_le {rs : RoomSync} {now : Time} {t : Int} {hb : ClientHeartbeat} {peer : ℚ}
    (drifts : Drifts rs now t hb peer) (acts : Acts rs now hb) :
    |answer rs hb.driftMs| ≤ SyncController.reach rs.controller := by
  have corrected : SyncController.Corrected rs.controller _ _ _ _ (rs.driftResult now) := SyncController.correct_corrected ..
  have small := corrected.correction_le drifts.settings
  rwa [drifts.result.2, if_pos acts] at small

/-- What has been played since the sample, and what the correction takes off. -/
def shift (rs : RoomSync) (t : Int) (hb : ClientHeartbeat) : Int :=
  (rs.state.advanceMediaTime t).toInt - rs.state.mediaTimeMs.toInt + trunc (answer rs hb.driftMs)

/-- The new drift of the peer: a correction falls back by what it subtracts and by
what was played since the sample. -/
theorem Drifts.drift_tick {rs : RoomSync} {now : Time} {t : Int} {hb : ClientHeartbeat} {peer : ℚ}
    (drifts : Drifts rs now t hb peer) (order : MapOrder) : peer - ((rs.tick now t order).state.advanceMediaTime t).toInt =
      if Acts rs now hb then hb.driftMs + shift rs t hb else hb.driftMs := by
  rw [drifts.advance_tick order]
  by_cases acts : Acts rs now hb
  · have bounds := abs_le.mp ((abs_trunc_le (answer rs hb.driftMs)).trans (drifts.answer_le acts))
    have clear := drifts.clear
    have position := abs_le.mp (le_refl |(rs.state.mediaTimeMs.toInt : ℚ)|)
    have least : -2 ^ 63 ≤ rs.state.mediaTimeMs.toInt - trunc (answer rs hb.driftMs) := by
      have : (-2 ^ 63 : ℚ) ≤ rs.state.mediaTimeMs.toInt - trunc (answer rs hb.driftMs) := by linarith [bounds.2, position.1]
      exact_mod_cast this
    have most : rs.state.mediaTimeMs.toInt - trunc (answer rs hb.driftMs) < 2 ^ 63 := by
      have : (rs.state.mediaTimeMs.toInt - trunc (answer rs hb.driftMs) : ℚ) < 2 ^ 63 := by linarith [bounds.1, position.2]
      exact_mod_cast this
    rw [if_pos acts, if_pos acts, sub_int64OfFloat, Int64.toInt_ofInt_of_le least most, drifts.measured, shift, drifts.measured]
    push_cast
    ring
  · rw [if_neg acts, if_neg acts, drifts.measured]

/-- The correction and the lost play together bring the room no further from its
peer. A peer ahead bears a millisecond of them; for a peer behind they have to
make up for each other. -/
def Bears (drift : ℚ) (shift : Int) : Prop :=
  if 0 ≤ drift then -(2 * drift + 1) ≤ shift ∧ shift ≤ 1 else -1 ≤ shift ∧ shift ≤ 2 * |drift| + 1

instance (drift : ℚ) (shift : Int) : Decidable (Bears drift shift) := by
  unfold Bears
  infer_instance

theorem bears_iff (drift : ℚ) (shift : Int) : |drift + shift| ≤ |drift| + 1 ↔ Bears drift shift := by
  unfold Bears
  rw [abs_le]
  split
  next ahead =>
    rw [abs_of_nonneg ahead]
    constructor
    · rintro ⟨least, most⟩
      have whole : (shift : ℚ) ≤ 1 := by linarith
      exact ⟨by linarith, by exact_mod_cast whole⟩
    · rintro ⟨least, most⟩
      have whole : (shift : ℚ) ≤ 1 := by exact_mod_cast most
      exact ⟨by linarith, by linarith⟩
  next behind =>
    rw [abs_of_neg (not_le.mp behind)]
    constructor
    · rintro ⟨least, most⟩
      have whole : (-1 : ℚ) ≤ shift := by linarith
      exact ⟨by exact_mod_cast whole, by linarith⟩
    · rintro ⟨least, most⟩
      have whole : (-1 : ℚ) ≤ shift := by exact_mod_cast least
      exact ⟨by linarith, by linarith⟩

/-- A tick leaves a drift no larger than before exactly if it does not act, or if
what it takes off and what it loses are borne by the drift. -/
theorem correction_converges_iff (rs : RoomSync) (now : Time) (t : Int) (order : MapOrder) (hb : ClientHeartbeat) (peer : ℚ)
    (drifts : Drifts rs now t hb peer) :
    |peer - ((rs.tick now t order).state.advanceMediaTime t).toInt| ≤ |hb.driftMs| + 1 ↔
      (Acts rs now hb → Bears hb.driftMs (shift rs t hb)) := by
  rw [drifts.drift_tick order]
  by_cases acts : Acts rs now hb
  · rw [if_pos acts, bears_iff]
    exact ⟨fun bears _ => bears, fun bears => bears acts⟩
  · rw [if_neg acts]
    exact ⟨fun _ impossible => absurd impossible acts, fun _ => by linarith⟩

/-! Alice hosts and Bob watches; Alice's drift is known. -/

def measuredAt (driftMs : ℚ) : ClientHeartbeat := { smoothedRTT := 20, driftMs, lastSeen := 1000000000, hasPrev := true }

def pair (driftMs : ℚ) : RoomSync :=
  { newRoomSync { driftCorrectionEnabled := true } "r1"
      { RoomManager.initState "r1" "alice" with status := .playing, mediaTimeMs := 5000, wallTimeMs := 1000 } with
    heartbeats := (AList.singleton "alice" (measuredAt driftMs)).insert "bob" (measuredAt 0) }

theorem pair_drifts {driftMs : ℚ} {t : Int} {peer : ℚ} (small : |driftMs| ≤ 2000)
    (measured : driftMs = peer - ((pair driftMs).state.advanceMediaTime t).toInt) :
    Drifts (pair driftMs) 1000000000 t (measuredAt driftMs) peer := by
  have alice : referenceID (pair driftMs) = "alice" := rfl
  refine ⟨rfl, rfl, ⟨?_, rfl, rfl⟩, measured, small, ⟨rfl, rfl, rfl, ?_⟩, ?_⟩
  · rw [alice]
    decide
  · change (0 : ℚ) ≤ 200
    norm_num
  · change |((5000 : Int64).toInt : ℚ)| + (15 / 100 * 2000 + 2 / 100 * 200) < 2 ^ 63
    decide +kernel

/-- A peer 100 ms behind, 100 ms after the sample: the play that the tick loses
makes up for the correction in the wrong direction. -/
theorem behind_converges :
    |(5000 : ℚ) - (((pair (-100)).tick 1000000000 1100 MapOrder.stored).state.advanceMediaTime 1100).toInt| ≤ |(-100 : ℚ)| + 1 :=
  (correction_converges_iff (pair (-100)) 1000000000 1100 MapOrder.stored (measuredAt (-100)) 5000
    (pair_drifts (by decide +kernel) (by decide +kernel))).mpr (fun _ => by decide +kernel)

/-- A peer 100 ms ahead of a room that was sampled just now ends 117 ms ahead. -/
theorem ahead_diverges :
    ¬ ∀ (rs : RoomSync) (now : Time) (t : Int) (order : MapOrder) (hb : ClientHeartbeat) (peer : ℚ),
        Drifts rs now t hb peer → |peer - ((rs.tick now t order).state.advanceMediaTime t).toInt| ≤ |hb.driftMs| + 1 := by
  intro claim
  have converges := claim (pair 100) 1000000000 1000 MapOrder.stored (measuredAt 100) 5100
    (pair_drifts (by decide +kernel) (by decide +kernel))
  exact absurd converges (by decide +kernel)

end VibeSync.Proofs.SyncCorrection
