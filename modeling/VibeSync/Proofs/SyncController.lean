import VibeSync.Machine
import VibeSync.Sync.RoomSync

/-! The drift controller over any sequence of its calls. The clamp bounds the
integral, and with it what one correction may do to the position. -/

namespace VibeSync.Proofs.SyncController
open VibeSync.Sync

/-- The three ways through `Correct`. -/
inductive Corrected (dc : DriftController) (drift : ℚ) (dt : Duration) (peers confidence : Nat) :
    ControllerResult × DriftController → Prop where
  | skipped (unsure : peers < 2 ∨ confidence < 30) : Corrected dc drift dt peers confidence ({}, dc)
  | discontinuous (sure : ¬ (peers < 2 ∨ confidence < 30)) (large : |drift| > dc.discontinuityThresholdMs) :
      Corrected dc drift dt peers confidence ({ forceSnapshot := true }, { dc with integral := 0 })
  | corrected (sure : ¬ (peers < 2 ∨ confidence < 30)) (small : |drift| ≤ dc.discontinuityThresholdMs) {integral : ℚ}
      (accumulated : integral = dc.clampIntegral (dc.integral + drift * (dt / 1000000000))) :
      Corrected dc drift dt peers confidence
        ({ correctionMs := dc.kp * drift + dc.ki * integral }, { dc with integral })

theorem correct_corrected (dc : DriftController) (drift : ℚ) (dt : Duration) (peers confidence : Nat) :
    Corrected dc drift dt peers confidence (dc.correct drift dt peers confidence) := by
  unfold DriftController.correct
  split
  next few => exact .skipped (Or.inl few)
  next enough =>
    split
    next low => exact .skipped (Or.inr low)
    next high =>
      have sure : ¬ (peers < 2 ∨ confidence < 30) := not_or.mpr ⟨enough, high⟩
      split
      next large => exact .discontinuous sure large
      next small => exact .corrected sure (not_lt.mp small) rfl

/-- No setting is negative. -/
structure Settings (dc : DriftController) : Prop where
  kp : 0 ≤ dc.kp
  ki : 0 ≤ dc.ki
  clamp : 0 ≤ dc.integralClampMs
  threshold : 0 ≤ dc.discontinuityThresholdMs

theorem clampIntegral_bounded {dc : DriftController} (clamp : 0 ≤ dc.integralClampMs) (value : ℚ) :
    |dc.clampIntegral value| ≤ dc.integralClampMs := by
  unfold DriftController.clampIntegral
  split
  · rw [abs_of_nonneg clamp]
  next below =>
    split
    · rw [abs_neg, abs_of_nonneg clamp]
    next above => exact abs_le.mpr ⟨not_lt.mp above, not_lt.mp below⟩

/-- The largest correction. -/
def reach (dc : DriftController) : ℚ := dc.kp * dc.discontinuityThresholdMs + dc.ki * dc.integralClampMs

theorem reach_nonneg {dc : DriftController} (settings : Settings dc) : 0 ≤ reach dc :=
  add_nonneg (mul_nonneg settings.kp settings.threshold) (mul_nonneg settings.ki settings.clamp)

theorem Corrected.correction_le {dc : DriftController} {drift : ℚ} {dt : Duration} {peers confidence : Nat}
    {outcome : ControllerResult × DriftController} (settings : Settings dc)
    (corrected : Corrected dc drift dt peers confidence outcome) : |outcome.1.correctionMs| ≤ reach dc := by
  cases corrected with
  | skipped unsure =>
    rw [abs_zero]
    exact reach_nonneg settings
  | discontinuous sure large =>
    rw [abs_zero]
    exact reach_nonneg settings
  | @corrected sure small integral accumulated =>
    have bounded : |integral| ≤ dc.integralClampMs := by
      rw [accumulated]
      exact clampIntegral_bounded settings.clamp _
    calc |dc.kp * drift + dc.ki * integral|
      _ ≤ |dc.kp * drift| + |dc.ki * integral| := abs_add_le _ _
      _ = dc.kp * |drift| + dc.ki * |integral| := by
        rw [abs_mul, abs_mul, abs_of_nonneg settings.kp, abs_of_nonneg settings.ki]
      _ ≤ reach dc := add_le_add (mul_le_mul_of_nonneg_left small settings.kp)
        (mul_le_mul_of_nonneg_left bounded settings.ki)

/-! Sequences of calls. -/

inductive Call where
  | correct (medianDriftMs : ℚ) (dt : Duration) (activePeers confidence : Nat)
  | reset

def step (dc : DriftController) : Call → DriftController
  | .correct drift dt peers confidence => (dc.correct drift dt peers confidence).2
  | .reset => dc.reset

/-- The same settings, and an integral within the clamp. -/
structure Clamped (settings dc : DriftController) : Prop where
  kp : dc.kp = settings.kp
  ki : dc.ki = settings.ki
  clamp : dc.integralClampMs = settings.integralClampMs
  threshold : dc.discontinuityThresholdMs = settings.discontinuityThresholdMs
  integral : |dc.integral| ≤ settings.integralClampMs

theorem Clamped.settings {base dc : DriftController} (clamped : Clamped base dc) (settings : Settings base) : Settings dc := by
  refine ⟨?_, ?_, ?_, ?_⟩
  · rw [clamped.kp]
    exact settings.kp
  · rw [clamped.ki]
    exact settings.ki
  · rw [clamped.clamp]
    exact settings.clamp
  · rw [clamped.threshold]
    exact settings.threshold

theorem Clamped.reach {base dc : DriftController} (clamped : Clamped base dc) :
    SyncController.reach dc = SyncController.reach base := by
  rw [SyncController.reach, SyncController.reach, clamped.kp, clamped.ki, clamped.clamp, clamped.threshold]

theorem Clamped.corrected {base dc : DriftController} (clamped : Clamped base dc) (settings : Settings base) {drift : ℚ}
    {dt : Duration} {peers confidence : Nat} {outcome : ControllerResult × DriftController}
    (corrected : Corrected dc drift dt peers confidence outcome) : Clamped base outcome.2 := by
  cases corrected with
  | skipped unsure => exact clamped
  | discontinuous sure large =>
    refine ⟨clamped.kp, clamped.ki, clamped.clamp, clamped.threshold, ?_⟩
    rw [abs_zero]
    exact settings.clamp
  | @corrected sure small integral accumulated =>
    refine ⟨clamped.kp, clamped.ki, clamped.clamp, clamped.threshold, ?_⟩
    rw [accumulated, ← clamped.clamp]
    exact clampIntegral_bounded (clamped.settings settings).clamp _

theorem Clamped.step {base dc : DriftController} (clamped : Clamped base dc) (settings : Settings base) (call : Call) :
    Clamped base (SyncController.step dc call) := by
  cases call with
  | correct drift dt peers confidence => exact clamped.corrected settings (correct_corrected ..)
  | reset =>
    refine ⟨clamped.kp, clamped.ki, clamped.clamp, clamped.threshold, ?_⟩
    rw [SyncController.step, DriftController.reset, abs_zero]
    exact settings.clamp

/-- What one `Correct` may come to. -/
structure Contained (base dc : DriftController) (drift : ℚ) (dt : Duration) (peers confidence : Nat) : Prop where
  correction : |(dc.correct drift dt peers confidence).1.correctionMs| ≤
    base.kp * base.discontinuityThresholdMs + base.ki * base.integralClampMs
  unsure : peers < 2 ∨ confidence < 30 → (dc.correct drift dt peers confidence).1.correctionMs = 0 ∧
    (dc.correct drift dt peers confidence).2.integral = dc.integral
  snapshot : (dc.correct drift dt peers confidence).1.forceSnapshot → (dc.correct drift dt peers confidence).1.correctionMs = 0 ∧
    (dc.correct drift dt peers confidence).2.integral = 0

theorem Clamped.contained {base dc : DriftController} (clamped : Clamped base dc) (settings : Settings base) (drift : ℚ)
    (dt : Duration) (peers confidence : Nat) : Contained base dc drift dt peers confidence := by
  have corrected := correct_corrected dc drift dt peers confidence
  have small := corrected.correction_le (clamped.settings settings)
  rw [clamped.reach] at small
  refine ⟨small, ?_, ?_⟩
  · intro unsure
    generalize dc.correct drift dt peers confidence = outcome at corrected
    cases corrected with
    | skipped _ => exact ⟨rfl, rfl⟩
    | discontinuous sure _ => exact absurd unsure sure
    | corrected sure _ _ => exact absurd unsure sure
  · intro forced
    generalize dc.correct drift dt peers confidence = outcome at corrected forced
    cases corrected with
    | skipped _ => cases forced
    | discontinuous _ _ => exact ⟨rfl, rfl⟩
    | corrected _ _ _ => cases forced

/-- After any calls the integral is within the clamp, and the next call corrects
by a bounded amount. -/
theorem controller_bounded (dc : DriftController) (settings : Settings dc) (start : |dc.integral| ≤ dc.integralClampMs)
    (calls : List Call) : |(Machine.run step dc calls).integral| ≤ dc.integralClampMs ∧
      ∀ drift dt peers confidence, Contained dc (Machine.run step dc calls) drift dt peers confidence := by
  have clamped := Machine.run_invariant (Clamped dc) (fun _ call clamped => clamped.step settings call)
    ⟨rfl, rfl, rfl, rfl, start⟩ calls
  exact ⟨clamped.integral, clamped.contained settings⟩

/-- Every controller of a room has such settings. -/
theorem makeController_settings (cfg : SyncConfig) : Settings (makeController cfg) := by
  constructor <;> simp only [makeController] <;> split <;> first | (exact le_of_lt ‹_›) | norm_num

theorem default_bounded : |(Machine.run step {} [.correct 500 1000000000 3 80, .reset]).integral| ≤ 200 :=
  (controller_bounded {} (makeController_settings {}) (by decide) [.correct 500 1000000000 3 80, .reset]).1

end VibeSync.Proofs.SyncController
