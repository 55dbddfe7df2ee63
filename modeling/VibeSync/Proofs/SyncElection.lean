import VibeSync.Machine
import VibeSync.Proofs.SyncSteps
import VibeSync.Sync.Service

/-! Who holds the host role after a tick, from the outcome of its liveness check
to whole ticks of a room. -/

namespace VibeSync.Proofs.SyncElection
open VibeSync.Sync VibeSync.Sync.RoomSync Machine SyncSteps BestScore

/-- The handler refuses a heartbeat that names no user. -/
def Named (event : Event) : Prop := sender? event ≠ some ""

instance : DecidablePred Named := fun _ => inferInstanceAs (Decidable (_ ≠ _))

/-- A room of one process, made from any state and driven by its entry points. -/
def drive (cfg : SyncConfig) (roomID : String) (initial : SyncState) (events : List Event) : RoomSync :=
  run RoomSync.step (newRoomSync cfg roomID initial) events

structure Attended (rs : RoomSync) : Prop where
  named : rs.heartbeats.lookup "" = none
  threshold : 0 < rs.controller.discontinuityThresholdMs

theorem attended_start (cfg : SyncConfig) (roomID : String) (initial : SyncState) :
    Attended (newRoomSync cfg roomID initial) := by
  refine ⟨rfl, ?_⟩
  dsimp only [newRoomSync, makeController]
  split
  next positive => exact positive
  · decide +kernel

theorem Attended.frame {before after : RoomSync} (attended : Attended before) (frame : Frame before after) :
    Attended after := ⟨frame.heartbeats ▸ attended.named, frame.threshold ▸ attended.threshold⟩

theorem Attended.step {rs : RoomSync} (attended : Attended rs) {event : Event} (named : Named event) :
    Attended (rs.step event) := by
  cases sent : sender? event with
  | none => exact attended.frame (step_frame rs sent)
  | some userID =>
    obtain ⟨hb, _, same⟩ := step_heartbeat rs sent
    rw [same]
    refine ⟨?_, attended.threshold⟩
    rw [AList.lookup_insert_ne]
    · exact attended.named
    · rintro rfl
      exact named sent

theorem attended_drive (cfg : SyncConfig) (roomID : String) (initial : SyncState) {events : List Event}
    (named : ∀ event ∈ events, Named event) : Attended (drive cfg roomID initial events) := by
  apply run_of_guarded Attended fun _ event => Named event
  · exact fun rs event attended => attended.step
  · exact attended_start cfg roomID initial
  · exact fun visit visited => named visit.2 (trace_event visited)

/-! Presence. -/

theorem isPresent_iff {rs : RoomSync} {userID : String} {now : Time} :
    rs.isPresent userID now ↔ ∃ hb, rs.heartbeats.lookup userID = some hb ∧ hb.isAlive now rs.cfg.timeout := by
  unfold isPresent
  cases rs.heartbeats.lookup userID with
  | none => simp
  | some hb => simp

theorem Attended.nobody {rs : RoomSync} (attended : Attended rs) (now : Time) : ¬ rs.isPresent "" now := by
  rw [isPresent_iff, attended.named]
  simp

def SeenBefore (rs : RoomSync) (userID : String) (now : Time) : Prop :=
  ∃ hb, rs.heartbeats.lookup userID = some hb ∧ hb.lastSeen < now

def OwnerPresent (rs : RoomSync) (now : Time) : Prop := rs.state.ownerID ≠ "" ∧ rs.isPresent rs.state.ownerID now

instance (rs : RoomSync) (now : Time) : Decidable (OwnerPresent rs now) := inferInstanceAs (Decidable (_ ∧ _))

theorem isPresent_frame {before after : RoomSync} (frame : Frame before after) : after.isPresent = before.isPresent := by
  funext userID now
  unfold isPresent
  rw [frame.cfg, frame.heartbeats]

/-! The outcome of an election. -/

theorem selectSuccessor_present {rs : RoomSync} {now : Time} {excludeID : String} {order : MapOrder}
    (elected : rs.selectSuccessorLocked now excludeID order ≠ "") :
    rs.isPresent (rs.selectSuccessorLocked now excludeID order) now := by
  have selected := selectSuccessor_selected rs now excludeID order
  generalize rs.selectSuccessorLocked now excludeID order = successor at selected elected ⊢
  cases selected with
  | nobody => exact absurd rfl elected
  | peer _ seen stands =>
    obtain ⟨_, hb, found, alive, _⟩ := candidacy_eq_some.mp stands
    exact isPresent_iff.mpr ⟨hb, found, alive⟩

/-- An election finds somebody when some peer that may take over was seen before
this very moment. -/
theorem selectSuccessor_named_iff {rs : RoomSync} (attended : Attended rs) (now : Time) (excludeID : String)
    (order : MapOrder) : rs.selectSuccessorLocked now excludeID order ≠ "" ↔
      ∃ userID, userID ≠ excludeID ∧ rs.isPresent userID now ∧ SeenBefore rs userID now := by
  have selected := selectSuccessor_selected rs now excludeID order
  generalize rs.selectSuccessorLocked now excludeID order = successor at selected ⊢
  cases selected with
  | nobody late =>
    refine ⟨fun named => absurd rfl named, ?_⟩
    rintro ⟨userID, other, present, hb, found, early⟩
    obtain ⟨hb', found', alive⟩ := isPresent_iff.mp present
    obtain rfl : hb = hb' := Option.some.inj (found.symm.trans found')
    exact absurd (late userID _ (candidacy_eq_some.mpr ⟨other, hb, found, alive, rfl⟩)) (not_le.mpr early)
  | peer _ seen stands early =>
    obtain ⟨other, hb, found, alive, rfl⟩ := candidacy_eq_some.mp stands
    refine ⟨fun _ => ⟨successor, other, isPresent_iff.mpr ⟨hb, found, alive⟩, hb, found, early⟩, ?_⟩
    rintro - rfl
    rw [attended.named] at found
    cases found

/-- The owner, if present; else the host, if present; else a successor, if any. -/
def nextHost (rs : RoomSync) (now : Time) (order : MapOrder) : String :=
  if OwnerPresent rs now then rs.state.ownerID
  else if rs.isPresent rs.state.hostID now then rs.state.hostID
  else
    let successor := rs.selectSuccessorLocked now rs.state.hostID order
    if successor = "" then rs.state.hostID else successor

theorem preferredSuccessor_of_absent {rs : RoomSync} {now : Time} (absent : ¬ OwnerPresent rs now) (excludeID : String)
    (order : MapOrder) : rs.preferredSuccessorLocked now excludeID order = rs.selectSuccessorLocked now excludeID order :=
  if_neg fun owner => absent ⟨owner.1, owner.2.2⟩

theorem pauseHostless_host (rs : RoomSync) : rs.pauseHostless.state.hostID = rs.state.hostID := by
  unfold pauseHostless
  split <;> rfl

/-- The outcomes of a liveness check, each with what led to it. -/
inductive Checks (rs : RoomSync) (now : Time) (order : MapOrder) : RoomSync → Prop where
  | reclaimed (owner : OwnerPresent rs now) (new : rs.state.hostID ≠ rs.state.ownerID) :
      Checks rs now order (rs.migrateHostLocked rs.state.ownerID now)
  | seated (owner : OwnerPresent rs now) (same : rs.state.hostID = rs.state.ownerID) : Checks rs now order rs
  | hosted (absent : ¬ OwnerPresent rs now) (present : rs.isPresent rs.state.hostID now) : Checks rs now order rs
  | succeeded (absent : ¬ OwnerPresent rs now) (gone : ¬ rs.isPresent rs.state.hostID now)
      (somebody : rs.selectSuccessorLocked now rs.state.hostID order ≠ "") :
      Checks rs now order (rs.migrateHostLocked (rs.selectSuccessorLocked now rs.state.hostID order) now)
  | vacant (absent : ¬ OwnerPresent rs now) (hostless : rs.state.hostID = "")
      (nobody : rs.selectSuccessorLocked now rs.state.hostID order = "") : Checks rs now order rs
  | departed (absent : ¬ OwnerPresent rs now) (host : rs.state.hostID ≠ "") (gone : ¬ rs.isPresent rs.state.hostID now)
      (nobody : rs.selectSuccessorLocked now rs.state.hostID order = "") : Checks rs now order rs.pauseHostless

theorem checkHostMigration_checks {rs : RoomSync} (attended : Attended rs) (now : Time) (order : MapOrder) :
    Checks rs now order (rs.checkHostMigrationLocked now order) := by
  unfold checkHostMigrationLocked
  by_cases owner : OwnerPresent rs now
  · by_cases same : rs.state.hostID = rs.state.ownerID
    · rw [if_neg fun moves => moves.2.1 same, if_neg (same ▸ owner.1), if_pos (same ▸ owner.2)]
      exact .seated owner same
    · rw [if_pos ⟨owner.1, same, owner.2⟩]
      exact .reclaimed owner same
  rw [if_neg fun moves => owner ⟨moves.1, moves.2.2⟩]
  simp only [preferredSuccessor_of_absent owner]
  split
  next hostless =>
    have gone : ¬ rs.isPresent rs.state.hostID now := hostless ▸ attended.nobody now
    rw [← hostless]
    split
    next nobody => exact .vacant owner hostless (nobody.trans hostless)
    next somebody => exact .succeeded owner gone (hostless ▸ somebody)
  next host =>
    split
    next present => exact .hosted owner present
    next gone =>
      split
      next nobody => exact .departed owner host gone nobody
      next somebody => exact .succeeded owner gone somebody

theorem check_host {rs : RoomSync} (attended : Attended rs) (now : Time) (order : MapOrder) :
    (rs.checkHostMigrationLocked now order).state.hostID = nextHost rs now order := by
  have checks := checkHostMigration_checks attended now order
  unfold nextHost
  generalize rs.checkHostMigrationLocked now order = after at checks
  cases checks with
  | reclaimed owner new =>
    rw [if_pos owner]
    rfl
  | seated owner same => rw [if_pos owner, same]
  | hosted absent present => rw [if_neg absent, if_pos present]
  | succeeded absent gone somebody =>
    rw [if_neg absent, if_neg gone]
    exact (if_neg somebody).symm
  | vacant absent hostless nobody =>
    rw [if_neg absent, if_neg (hostless ▸ attended.nobody now)]
    exact (if_pos nobody).symm
  | departed absent host gone nobody =>
    rw [if_neg absent, if_neg gone, pauseHostless_host]
    exact (if_pos nobody).symm

/-! Ticks. -/

/-- The drift of a present reference is past the discontinuity threshold, among
enough peers for the controller to trust it. -/
def Forces (rs : RoomSync) (now : Time) : Prop :=
  rs.cfg.driftCorrectionEnabled ∧ ∃ hb, rs.driftReference now = some hb ∧ 2 ≤ (rs.alive now).length ∧
    30 ≤ computeConfidence (rs.alive now).length [hb.smoothedRTT] ∧
    rs.controller.discontinuityThresholdMs < |hb.driftMs|

theorem correct_forces_iff (dc : DriftController) (drift : ℚ) (dt : Duration) (peers confidence : Nat) :
    (dc.correct drift dt peers confidence).1.forceSnapshot ↔
      2 ≤ peers ∧ 30 ≤ confidence ∧ dc.discontinuityThresholdMs < |drift| := by
  unfold DriftController.correct
  split
  next few => simp [few]
  split
  next doubtful => simp [doubtful]
  split
  next far => simp [far]; omega
  next near => simp [not_lt.mp near]

theorem medianFloats_single (value : ℚ) : medianFloats [value] = value := by
  simp [medianFloats, insertionSort, shiftInsert]

theorem forces_iff {rs : RoomSync} (attended : Attended rs) (now : Time) :
    (rs.cfg.driftCorrectionEnabled ∧ (rs.driftResult now).1.forceSnapshot) ↔ Forces rs now := by
  unfold Forces driftResult
  refine and_congr_right fun _ => ?_
  cases rs.driftReference now with
  | none =>
    have calm : ¬ rs.controller.discontinuityThresholdMs < |medianFloats []| := by
      simpa [medianFloats] using attended.threshold.le
    simp [correct_forces_iff, calm]
  | some hb => simp [correct_forces_iff, medianFloats_single]

/-- A forced tick names the reference, which is present. -/
theorem Forces.reference {rs : RoomSync} {now : Time} (forces : Forces rs now) :
    rs.isPresent (if rs.state.ownerID = "" then rs.state.hostID else rs.state.ownerID) now := by
  obtain ⟨_, hb, reference, _⟩ := forces
  dsimp only [driftReference] at reference
  generalize (if rs.state.ownerID = "" then rs.state.hostID else rs.state.ownerID) = refID at reference ⊢
  split at reference
  · cases reference
  split at reference
  next hb' found =>
    split at reference
    next alive => exact isPresent_iff.mpr ⟨hb', found, alive.1⟩
    · cases reference
  · cases reference

/-- What a tick does before it looks at the host. -/
structure Prepares (before after : RoomSync) : Prop where
  frame : Frame before after
  owner : after.state.ownerID = before.state.ownerID
  host : after.state.hostID = before.state.hostID
  status : after.state.status = before.state.status

theorem nudge_prepares (rs : RoomSync) (now : Time) (correctionMs : ℚ) (nowMs : Int) :
    Prepares rs ({ rs with controller := (rs.driftResult now).2 }.nudge correctionMs nowMs) := by
  have corrected : Frame rs { rs with controller := (rs.driftResult now).2 } := ⟨rfl, rfl, correct_threshold ..⟩
  refine ⟨corrected.trans (nudge_frame _ correctionMs nowMs), ?_, ?_, ?_⟩
  all_goals
    unfold nudge
    split <;> rfl

theorem tick_forced {rs : RoomSync} (attended : Attended rs) {now : Time} (forces : Forces rs now) (nowMs : Int)
    (order : MapOrder) : (rs.tick now nowMs order).state = rs.state := by
  obtain ⟨enabled, force⟩ := (forces_iff attended now).mpr forces
  simp only [tick, enabled, force, ↓reduceIte]
  rfl

theorem tick_checks {rs : RoomSync} (attended : Attended rs) {now : Time} (calm : ¬ Forces rs now) (nowMs : Int)
    (order : MapOrder) : ∃ ready, Prepares rs ready ∧ rs.tick now nowMs order = ready.checkHostMigrationLocked now order := by
  rw [← forces_iff attended] at calm
  unfold tick
  split
  next enabled =>
    refine ⟨_, nudge_prepares rs now (rs.driftResult now).1.correctionMs nowMs, ?_⟩
    simp only [show ¬ (rs.driftResult now).1.forceSnapshot from fun force => calm ⟨enabled, force⟩, ↓reduceIte,
      Bool.false_eq_true]
  · exact ⟨rs, ⟨.refl rs, rfl, rfl, rfl⟩, rfl⟩

theorem nextHost_prepared {rs ready : RoomSync} (prepares : Prepares rs ready) (now : Time) (order : MapOrder) :
    nextHost ready now order = nextHost rs now order := by
  have owner : OwnerPresent ready now ↔ OwnerPresent rs now := by
    unfold OwnerPresent
    rw [isPresent_frame prepares.frame, prepares.owner]
  have select : ready.selectSuccessorLocked now = rs.selectSuccessorLocked now := by
    funext excludeID order
    unfold selectSuccessorLocked consider
    rw [prepares.frame.cfg, prepares.frame.heartbeats]
  simp only [nextHost, owner, isPresent_frame prepares.frame, select, prepares.owner, prepares.host]

theorem check_owner (rs : RoomSync) (now : Time) (order : MapOrder) :
    (rs.checkHostMigrationLocked now order).state.ownerID = rs.state.ownerID := by
  have elects := checkHostMigration_elects rs now order
  generalize rs.checkHostMigrationLocked now order = after at elects
  cases elects with
  | keep => rfl
  | migrate successor named new => rfl
  | pause =>
    unfold pauseHostless
    split <;> rfl

/-- Every tick that is not forced seats the next host. -/
theorem tick_seats {rs : RoomSync} (attended : Attended rs) {now : Time} (calm : ¬ Forces rs now) (nowMs : Int)
    (order : MapOrder) : (rs.tick now nowMs order).state.ownerID = rs.state.ownerID ∧
      (rs.tick now nowMs order).state.hostID = nextHost rs now order := by
  obtain ⟨ready, prepares, same⟩ := tick_checks attended calm nowMs order
  rw [same, check_owner, check_host (attended.frame prepares.frame), nextHost_prepared prepares]
  exact ⟨prepares.owner, rfl⟩

/-- A present owner is the host; without one, a present peer is if there is any. -/
def Elected (rs : RoomSync) (now : Time) : Prop :=
  (OwnerPresent rs now → rs.state.hostID = rs.state.ownerID) ∧
    (¬ OwnerPresent rs now → (∃ userID, rs.isPresent userID now) → rs.isPresent rs.state.hostID now)

/-- A forced tick finds the owner in the host's seat already; any other tick has
the owner, the host or somebody seen before this moment to turn to. -/
def Answers (rs : RoomSync) (now : Time) : Prop :=
  (Forces rs now → rs.state.ownerID ≠ "" → rs.state.hostID = rs.state.ownerID) ∧
    (¬ Forces rs now → ¬ OwnerPresent rs now → (∃ userID, rs.isPresent userID now) →
      rs.isPresent rs.state.hostID now ∨ ∃ userID, rs.isPresent userID now ∧ SeenBefore rs userID now)

theorem nextHost_present_iff {rs : RoomSync} (attended : Attended rs) {now : Time} (absent : ¬ OwnerPresent rs now)
    (order : MapOrder) : rs.isPresent (nextHost rs now order) now ↔
      rs.isPresent rs.state.hostID now ∨ ∃ userID, rs.isPresent userID now ∧ SeenBefore rs userID now := by
  rw [nextHost, if_neg absent]
  by_cases stays : rs.isPresent rs.state.hostID now
  · simp only [stays, ↓reduceIte, true_or]
  have replaced := selectSuccessor_named_iff attended now rs.state.hostID order
  simp only [stays, ↓reduceIte, false_or, Bool.false_eq_true]
  split
  next nobody =>
    refine ⟨fun present => absurd present stays, ?_⟩
    rintro ⟨userID, present, before⟩
    refine absurd nobody (replaced.mpr ⟨userID, ?_, present, before⟩)
    rintro rfl
    exact stays present
  next somebody =>
    obtain ⟨userID, _, present, before⟩ := replaced.mp somebody
    exact ⟨fun _ => ⟨userID, present, before⟩, fun _ => selectSuccessor_present somebody⟩

theorem forced_elected_iff {rs : RoomSync} {now : Time} (forces : Forces rs now) :
    Elected rs now ↔ (rs.state.ownerID ≠ "" → rs.state.hostID = rs.state.ownerID) := by
  have present := forces.reference
  by_cases unknown : rs.state.ownerID = ""
  · rw [if_pos unknown] at present
    exact ⟨fun _ known => absurd unknown known, fun _ => ⟨fun owner => absurd unknown owner.1, fun _ _ => present⟩⟩
  · rw [if_neg unknown] at present
    have owner : OwnerPresent rs now := ⟨unknown, present⟩
    exact ⟨fun elected _ => elected.1 owner, fun seated => ⟨fun _ => seated unknown, fun absent => absurd owner absent⟩⟩

/-- A tick leaves the role where it belongs unless it is forced while the owner
waits for it, or the only present peers were seen at this very moment. -/
theorem tick_elects_iff (cfg : SyncConfig) (roomID : String) (initial : SyncState) {events : List Event}
    (named : ∀ event ∈ events, Named event) (now : Time) (nowMs : Int) (order : MapOrder) :
    Elected ((drive cfg roomID initial events).tick now nowMs order) now ↔
      Answers (drive cfg roomID initial events) now := by
  have attended := attended_drive cfg roomID initial named
  generalize drive cfg roomID initial events = rs at attended
  have present := isPresent_frame (tick_frame rs now nowMs order)
  by_cases forces : Forces rs now
  · have kept : Elected (rs.tick now nowMs order) now ↔ Elected rs now := by
      unfold Elected OwnerPresent
      rw [present, tick_forced attended forces]
    rw [kept, forced_elected_iff forces]
    exact ⟨fun seated => ⟨fun _ => seated, fun calm => absurd forces calm⟩, fun answers => answers.1 forces⟩
  · obtain ⟨owner, host⟩ := tick_seats attended forces nowMs order
    unfold Elected OwnerPresent
    rw [present, owner, host]
    change (OwnerPresent rs now → _) ∧ (¬ OwnerPresent rs now → _) ↔ _
    constructor
    · intro elected
      refine ⟨fun forced => absurd forced forces, fun _ absent somebody => ?_⟩
      exact (nextHost_present_iff attended absent order).mp (elected.2 absent somebody)
    · intro answers
      refine ⟨fun known => if_pos known, fun absent somebody => ?_⟩
      exact (nextHost_present_iff attended absent order).mpr (answers.2 forces absent somebody)

/-! The guest `bob` stands in while the owner is away. -/

def standIn : List Event := [⟨.heartbeat "bob" 0 1000 1000, 1000, 1000000000⟩, ⟨.tick .stored, 2000, 2000000000⟩]

theorem guest_takes_over :
    Elected ((drive {} "r1" (RoomManager.initState "r1" "alice") standIn).tick 3000000000 3000 .stored) 3000000000 := by
  refine (tick_elects_iff {} "r1" (RoomManager.initState "r1" "alice") (by decide) 3000000000 3000 .stored).mpr ⟨?_, ?_⟩
  · exact fun forces => absurd forces.1 (by decide)
  · exact fun _ _ _ => Or.inl (by decide +kernel)

/-- The owner is back and reports a position far from the room's. -/
def comeback : List Event :=
  standIn ++ [⟨.heartbeat "alice" 100000 3000 3000, 3000, 3000000000⟩, ⟨.heartbeat "bob" 0 4000 4000, 4000, 4000000000⟩,
    ⟨.heartbeat "alice" 101000 4000 4000, 4000, 4000000000⟩]

theorem forced_tick_keeps_guest :
    ¬ ∀ (cfg : SyncConfig) (roomID : String) (initial : SyncState) (events : List Event),
        (∀ event ∈ events, Named event) → ∀ (now : Time) (nowMs : Int) (order : MapOrder),
          Elected ((drive cfg roomID initial events).tick now nowMs order) now := by
  intro claim
  have elected := claim { driftCorrectionEnabled := true } "r1" (RoomManager.initState "r1" "alice") comeback (by decide)
    4500000000 4500 .stored
  exact absurd (elected.1 (by decide +kernel)) (by decide +kernel)

end VibeSync.Proofs.SyncElection
