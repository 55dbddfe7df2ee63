import Mathlib.Logic.Relation
import VibeSync.BestScore
import VibeSync.Sync.RoomSync

/-! What the transitions of a room can do to its state, its ring buffer and the
frames it broadcasts. -/

namespace VibeSync.Proofs.SyncSteps
open VibeSync.Sync VibeSync.Sync.RoomSync Relation BestScore

section Publish
variable (rs : RoomSync) (frame : SubscribeResponse)

@[simp] theorem publish_broadcasts : (rs.publish frame).broadcasts = rs.broadcasts ++ [⟨frame, rs.wire⟩] := rfl

@[simp] theorem broadcastUpdateLocked_state : rs.broadcastUpdateLocked.state = rs.state := rfl

end Publish

/-! Commands. -/

/-- What no command touches. -/
theorem perform_frame (s : SyncState) (c : Command) :
    (s.perform c).epoch = s.epoch ∧ (s.perform c).fencingToken = s.fencingToken ∧ (s.perform c).hostID = s.hostID ∧
      (s.perform c).ownerID = s.ownerID ∧ (s.perform c).roomID = s.roomID ∧ (s.perform c).wallTimeMs = s.wallTimeMs := by
  unfold SyncState.perform
  split
  · exact ⟨rfl, rfl, rfl, rfl, rfl, rfl⟩
  · exact ⟨rfl, rfl, rfl, rfl, rfl, rfl⟩
  · split <;> exact ⟨rfl, rfl, rfl, rfl, rfl, rfl⟩
  · split
    · split <;> exact ⟨rfl, rfl, rfl, rfl, rfl, rfl⟩
    · exact ⟨rfl, rfl, rfl, rfl, rfl, rfl⟩
  · exact ⟨rfl, rfl, rfl, rfl, rfl, rfl⟩
  all_goals exact ⟨rfl, rfl, rfl, rfl, rfl, rfl⟩

section Apply
variable (s : SyncState) (c : Command) (nowMs : Int) (now : Time)

@[simp] theorem applyCommand_epoch : (s.applyCommand c nowMs now).epoch = s.epoch + 1 :=
  congrArg (· + 1) (perform_frame (s.resample nowMs) c).1

@[simp] theorem applyCommand_fencingToken : (s.applyCommand c nowMs now).fencingToken = s.fencingToken :=
  (perform_frame (s.resample nowMs) c).2.1

@[simp] theorem applyCommand_hostID : (s.applyCommand c nowMs now).hostID = s.hostID :=
  (perform_frame (s.resample nowMs) c).2.2.1

@[simp] theorem applyCommand_roomID : (s.applyCommand c nowMs now).roomID = s.roomID :=
  (perform_frame (s.resample nowMs) c).2.2.2.2.1

@[simp] theorem applyCommand_wallTimeMs : (s.applyCommand c nowMs now).wallTimeMs = nowMs :=
  (perform_frame (s.resample nowMs) c).2.2.2.2.2

end Apply

/-! Elections. -/

/-- The `LastSeen` with which a peer stands for election, if it does. -/
def candidacy (rs : RoomSync) (now : Time) (excludeID userID : String) : Option Time :=
  if userID = excludeID then none
  else match rs.heartbeats.lookup userID with
    | some hb => if hb.isAlive now rs.cfg.timeout then some hb.lastSeen else none
    | none => none

theorem candidacy_eq_some {rs : RoomSync} {now : Time} {excludeID userID : String} {seen : Time} :
    candidacy rs now excludeID userID = some seen ↔
      userID ≠ excludeID ∧ ∃ hb, rs.heartbeats.lookup userID = some hb ∧ hb.isAlive now rs.cfg.timeout ∧
        hb.lastSeen = seen := by
  unfold candidacy
  by_cases excluded : userID = excludeID
  · simp [excluded]
  · cases rs.heartbeats.lookup userID with
    | none => simp [excluded]
    | some hb => simp [excluded]

theorem consider_eq_better (rs : RoomSync) (now : Time) (excludeID : String) :
    rs.consider now excludeID = better (candidacy rs now excludeID) := by
  funext best userID
  unfold consider better candidacy
  by_cases excluded : userID = excludeID
  · simp only [excluded, ↓reduceIte]
  · cases rs.heartbeats.lookup userID with
    | none => simp only [excluded, ↓reduceIte]
    | some hb =>
      by_cases alive : hb.isAlive now rs.cfg.timeout
      · simp only [excluded, alive, ↓reduceIte, true_and]
      · simp only [excluded, alive, ↓reduceIte, false_and, Bool.false_eq_true]

/-- Whom an election can choose: a candidate that nobody precedes, or nobody when
every candidate was last seen at `now` or later. -/
inductive Selected (rs : RoomSync) (now : Time) (excludeID : String) : String → Prop where
  | nobody (late : ∀ userID seen, candidacy rs now excludeID userID = some seen → now ≤ seen) :
      Selected rs now excludeID ""
  | peer (userID : String) (seen : Time) (stands : candidacy rs now excludeID userID = some seen) (early : seen < now)
      (oldest : ∀ other later, candidacy rs now excludeID other = some later → seen ≤ later) :
      Selected rs now excludeID userID

theorem mem_visit {rs : RoomSync} {now : Time} {excludeID userID : String} {seen : Time} (order : MapOrder)
    (stands : candidacy rs now excludeID userID = some seen) : userID ∈ order.visit rs.heartbeats.keys := by
  obtain ⟨_, hb, found, _⟩ := candidacy_eq_some.mp stands
  rw [(order.perm _).mem_iff, ← AList.mem_keys, ← AList.lookup_isSome, found]
  rfl

theorem selectSuccessor_selected (rs : RoomSync) (now : Time) (excludeID : String) (order : MapOrder) :
    Selected rs now excludeID (rs.selectSuccessorLocked now excludeID order) := by
  unfold selectSuccessorLocked
  rw [consider_eq_better]
  have least : ∀ userID seen, candidacy rs now excludeID userID = some seen → _ ≤ seen :=
    fun userID seen stands => scan_le_score (mem_visit order stands) stands (now, "")
  obtain nobody | ⟨seen, userID, _, stands, early, taken⟩ :=
    @scan_cases _ _ _ (candidacy rs now excludeID) (order.visit rs.heartbeats.keys) (now, "")
  · rw [nobody] at least ⊢
    exact .nobody least
  · rw [taken] at least ⊢
    exact .peer userID seen stands early least

theorem selectSuccessor_excludes (rs : RoomSync) (now : Time) (excludeID : String) (order : MapOrder)
    (elected : rs.selectSuccessorLocked now excludeID order ≠ "") :
    rs.selectSuccessorLocked now excludeID order ≠ excludeID := by
  have selected := selectSuccessor_selected rs now excludeID order
  generalize rs.selectSuccessorLocked now excludeID order = successor at selected elected ⊢
  cases selected with
  | nobody => exact absurd rfl elected
  | peer _ seen stands => exact (candidacy_eq_some.mp stands).1

theorem preferredSuccessor_excludes (rs : RoomSync) (now : Time) (excludeID : String) (order : MapOrder)
    (elected : rs.preferredSuccessorLocked now excludeID order ≠ "") :
    rs.preferredSuccessorLocked now excludeID order ≠ excludeID := by
  unfold preferredSuccessorLocked at elected ⊢
  split
  next owner => exact owner.2.1
  next absent =>
    rw [if_neg absent] at elected
    exact selectSuccessor_excludes rs now excludeID order elected

/-- The outcomes of a liveness check. -/
inductive Elects (now : Time) (rs : RoomSync) : RoomSync → Prop where
  | keep : Elects now rs rs
  | migrate (successor : String) (named : successor ≠ "") (new : successor ≠ rs.state.hostID) :
      Elects now rs (rs.migrateHostLocked successor now)
  | pause : Elects now rs rs.pauseHostless

theorem checkHostMigration_elects (rs : RoomSync) (now : Time) (order : MapOrder) :
    Elects now rs (rs.checkHostMigrationLocked now order) := by
  unfold checkHostMigrationLocked
  split
  next owner => exact .migrate _ owner.1 (Ne.symm owner.2.1)
  split
  next hostless =>
    dsimp only
    split
    · exact .keep
    next named => exact .migrate _ named (by rw [hostless]; exact named)
  split
  · exact .keep
  dsimp only
  split
  · exact .pause
  next named => exact .migrate _ named (preferredSuccessor_excludes _ _ _ _ named)

/-- What a drift correction leaves alone. -/
structure Nudged (nowMs : Int) (before after : SyncState) : Prop where
  status : after.status = before.status
  rate : after.playbackRate = before.playbackRate
  host : after.hostID = before.hostID
  token : after.fencingToken = before.fencingToken
  epoch : before.epoch ≤ after.epoch
  paced : after.epoch ≤ before.epoch + 1
  sampled : after.wallTimeMs = before.wallTimeMs ∨ after.wallTimeMs = nowMs

theorem nudge_nudged (rs : RoomSync) (correctionMs : ℚ) (nowMs : Int) :
    Nudged nowMs rs.state (rs.nudge correctionMs nowMs).state := by
  unfold nudge
  split
  · exact ⟨rfl, rfl, rfl, rfl, Nat.le_succ _, le_rfl, Or.inr rfl⟩
  · exact ⟨rfl, rfl, rfl, rfl, le_rfl, Nat.le_succ _, Or.inl rfl⟩

/-- The outcomes of a tick: a forced update, or a correction and a liveness check. -/
inductive Ticks (now : Time) (nowMs : Int) (rs : RoomSync) : RoomSync → Prop where
  | resync (controller : DriftController) : Ticks now nowMs rs { rs with controller }.broadcastUpdateLocked
  | elect (controller : DriftController) (correctionMs : ℚ) {after : RoomSync}
      (elects : Elects now ({ rs with controller }.nudge correctionMs nowMs) after) : Ticks now nowMs rs after

theorem tick_ticks (rs : RoomSync) (now : Time) (nowMs : Int) (order : MapOrder) :
    Ticks now nowMs rs (rs.tick now nowMs order) := by
  unfold tick
  split
  · dsimp only
    split
    · exact .resync _
    · exact .elect _ _ (checkHostMigration_elects _ now order)
  · have idle : { rs with controller := rs.controller }.nudge 0 nowMs = rs := if_neg (by simp)
    apply Ticks.elect rs.controller 0
    rw [idle]
    exact checkHostMigration_elects rs now order

/-! Every transition is a sequence of these changes. -/

/-- Only the heartbeats, the controller, the owner or the channels outside
`mine` may differ. -/
structure Quiet (mine : Nat → Prop) (before after : RoomSync) : Prop where
  cfg : after.cfg = before.cfg
  roomID : after.roomID = before.roomID
  state : after.state = { before.state with ownerID := after.state.ownerID }
  ring : after.ringBuffer = before.ringBuffer
  broadcasts : after.broadcasts = before.broadcasts
  channels : ∀ channel, mine channel → after.subscribers channel = before.subscribers channel

theorem Quiet.wire {mine : Nat → Prop} {before after : RoomSync} (quiet : Quiet mine before after) :
    after.wire = before.wire := by
  unfold RoomSync.wire
  rw [quiet.roomID, quiet.state]
  rfl

inductive Change (mine : Nat → Prop) (rs : RoomSync) : RoomSync → Prop where
  | quiet {after : RoomSync} (quiet : Quiet mine rs after) : Change mine rs after
  | update (state : SyncState) (room : state.roomID = rs.state.roomID) (epoch : state.epoch = rs.state.epoch + 1)
      (token : state.fencingToken = rs.state.fencingToken)
      (host : state.hostID = rs.state.hostID ∨ rs.state.hostID = "") :
      Change mine rs { rs with state }.broadcastUpdateLocked
  | migrate (successor : String) (now : Time) (named : successor ≠ "") :
      Change mine rs (rs.migrateHostLocked successor now)
  | republish (frame : SubscribeResponse) (full : frame.state? = some rs.wire) : Change mine rs (rs.publish frame)

abbrev Changes (mine : Nat → Prop) : RoomSync → RoomSync → Prop := ReflTransGen (Change mine)

theorem quiet_of_controller {mine : Nat → Prop} (rs : RoomSync) (controller : DriftController) :
    Change mine rs { rs with controller } :=
  .quiet ⟨rfl, rfl, rfl, rfl, rfl, fun _ _ => rfl⟩

theorem pauseHostless_changes {mine : Nat → Prop} (rs : RoomSync) : Changes mine rs rs.pauseHostless := by
  unfold pauseHostless
  split
  · exact .single (.update _ rfl rfl rfl (Or.inl rfl))
  · exact .refl

theorem Elects.changes {mine : Nat → Prop} {now : Time} {rs after : RoomSync} (elects : Elects now rs after) :
    Changes mine rs after := by
  cases elects with
  | keep => exact .refl
  | migrate successor named new => exact .single (.migrate successor now named)
  | pause => exact pauseHostless_changes rs

theorem nudge_changes {mine : Nat → Prop} (rs : RoomSync) (correctionMs : ℚ) (nowMs : Int) :
    Changes mine rs (rs.nudge correctionMs nowMs) := by
  unfold nudge
  split
  · exact .single (.update _ rfl rfl rfl (Or.inl rfl))
  · exact .refl

theorem tick_changes {mine : Nat → Prop} (rs : RoomSync) (now : Time) (nowMs : Int) (order : MapOrder) :
    Changes mine rs (rs.tick now nowMs order) := by
  have ticks := tick_ticks rs now nowMs order
  generalize rs.tick now nowMs order = after at ticks
  cases ticks with
  | resync controller => exact .head (quiet_of_controller rs controller) (.single (.republish _ rfl))
  | elect controller correctionMs elects =>
    have nudged : Changes mine rs ({ rs with controller }.nudge correctionMs nowMs) :=
      .head (quiet_of_controller rs controller) (nudge_changes _ _ _)
    exact nudged.trans elects.changes

theorem adoptOwner_changes {mine : Nat → Prop} (rs : RoomSync) (ownerID : String) (now : Time) :
    Changes mine rs (rs.adoptOwnerIfUnset ownerID now).2 := by
  unfold adoptOwnerIfUnset
  split
  · exact .refl
  · have known : Change mine rs { rs with state := { rs.state with
        ownerID := if rs.state.ownerID = "" then ownerID else rs.state.ownerID } } :=
      .quiet ⟨rfl, rfl, rfl, rfl, rfl, fun _ _ => rfl⟩
    dsimp only
    split
    · exact .single known
    next hostless =>
      exact .head known (.single (.update _ rfl rfl rfl (Or.inr (by simpa using hostless))))

theorem command_changes {mine : Nat → Prop} (rs : RoomSync) (c : Command) (fencingToken : Nat) (nowMs : Int) (now : Time) :
    Changes mine rs (rs.processCommandAuthorized c fencingToken nowMs now).2 := by
  unfold processCommandAuthorized applyCommandLocked
  split
  · exact .refl
  · exact .single (.update _ (applyCommand_roomID ..) (applyCommand_epoch ..) (applyCommand_fencingToken ..) (Or.inl (applyCommand_hostID ..)))

/-- The event leaves the channels of `mine` registered as they are. -/
def Spares (mine : Nat → Prop) (event : Event) : Prop :=
  match event.action with
  | .register channel | .unregister channel => ¬ mine channel
  | _ => True

theorem step_changes {mine : Nat → Prop} (rs : RoomSync) (event : Event) (spares : Spares mine event) :
    Changes mine rs (rs.step event) := by
  obtain ⟨action, nowMs, now⟩ := event
  have listening : ∀ channel buffer, ¬ mine channel →
      Changes mine rs { rs with subscribers := Function.update rs.subscribers channel buffer } := by
    intro channel buffer foreign
    refine .single (.quiet ⟨rfl, rfl, rfl, rfl, rfl, ?_⟩)
    intro other held
    apply Function.update_of_ne
    rintro rfl
    exact foreign held
  cases action with
  | command c fencingToken => exact command_changes rs c fencingToken nowMs now
  | heartbeat userID mediaTime wallTime t2 => exact .single (.quiet ⟨rfl, rfl, rfl, rfl, rfl, fun _ _ => rfl⟩)
  | tick order => exact tick_changes rs now nowMs order
  | adoptOwner ownerID => exact adoptOwner_changes rs ownerID now
  | snapshot => exact .single (.republish _ rfl)
  | register channel => exact listening channel _ spares
  | unregister channel => exact listening channel _ spares

/-- No channel in particular. -/
def Anywhere (_ : Nat) : Prop := False

theorem spares_anywhere (event : Event) : Spares Anywhere event := by
  unfold Spares
  split <;> simp [Anywhere]

/-! Counters only grow, and the state stays with its room. -/

structure Grows (before after : SyncState) : Prop where
  room : after.roomID = before.roomID
  epoch : before.epoch ≤ after.epoch
  token : before.fencingToken ≤ after.fencingToken

theorem Grows.refl (state : SyncState) : Grows state state := ⟨rfl, le_rfl, le_rfl⟩

theorem Grows.trans {first middle last : SyncState} (left : Grows first middle) (right : Grows middle last) :
    Grows first last := ⟨right.room.trans left.room, left.epoch.trans right.epoch, left.token.trans right.token⟩

theorem Change.grows {mine : Nat → Prop} {before after : RoomSync} (change : Change mine before after) :
    Grows before.state after.state := by
  cases change with
  | quiet quiet =>
    rw [quiet.state]
    exact ⟨rfl, le_rfl, le_rfl⟩
  | update state room epoch token host => exact ⟨room, epoch ▸ Nat.le_succ _, token ▸ le_rfl⟩
  | migrate successor now named => exact ⟨rfl, Nat.le_succ _, Nat.le_succ _⟩
  | republish frame full => exact .refl _

theorem Changes.grows {mine : Nat → Prop} {before after : RoomSync} (changes : Changes mine before after) :
    Grows before.state after.state := by
  induction changes with
  | refl => exact .refl _
  | tail _ change ih => exact ih.trans change.grows

theorem step_grows (rs : RoomSync) (event : Event) : Grows rs.state (rs.step event).state :=
  Changes.grows (step_changes rs event (spares_anywhere event))

/-! How fast the counters grow. -/

theorem Elects.paced {now : Time} {rs after : RoomSync} (elects : Elects now rs after) :
    after.state.epoch ≤ rs.state.epoch + 1 ∧ after.state.fencingToken ≤ rs.state.fencingToken + 1 := by
  cases elects with
  | keep => exact ⟨Nat.le_succ _, Nat.le_succ _⟩
  | migrate successor named new => exact ⟨le_rfl, le_rfl⟩
  | pause =>
    unfold pauseHostless
    split
    · exact ⟨le_rfl, Nat.le_succ _⟩
    · exact ⟨Nat.le_succ _, Nat.le_succ _⟩

/-- A tick that corrects and elects takes two epochs, every other transition at most one. -/
theorem step_paced (rs : RoomSync) (event : Event) :
    (rs.step event).state.epoch ≤ rs.state.epoch + 2 ∧ (rs.step event).state.fencingToken ≤ rs.state.fencingToken + 1 := by
  have still : ∀ {after : SyncState}, after.epoch ≤ rs.state.epoch + 1 → after.fencingToken = rs.state.fencingToken →
      after.epoch ≤ rs.state.epoch + 2 ∧ after.fencingToken ≤ rs.state.fencingToken + 1 := fun epoch token => by omega
  obtain ⟨action, nowMs, now⟩ := event
  cases action with
  | command c fencingToken =>
    dsimp only [RoomSync.step, processCommandAuthorized, applyCommandLocked]
    split
    · exact still (Nat.le_succ _) rfl
    · exact still (applyCommand_epoch ..).le (applyCommand_fencingToken ..)
  | tick order =>
    have ticks := tick_ticks rs now nowMs order
    dsimp only [RoomSync.step]
    generalize rs.tick now nowMs order = after at ticks
    cases ticks with
    | resync controller => exact still (Nat.le_succ _) rfl
    | elect controller correctionMs elects =>
      have nudged := nudge_nudged { rs with controller } correctionMs nowMs
      have elected := elects.paced
      rw [nudged.token] at elected
      exact ⟨elected.1.trans (Nat.succ_le_succ nudged.paced), elected.2⟩
  | adoptOwner ownerID =>
    dsimp only [RoomSync.step, adoptOwnerIfUnset]
    split
    · exact still (Nat.le_succ _) rfl
    · split
      · exact still (Nat.le_succ _) rfl
      · exact still le_rfl rfl
  | heartbeat _ _ _ _ | snapshot | register _ | unregister _ => exact still (Nat.le_succ _) rfl

/-! What only a heartbeat changes, and what no transition changes. -/

structure Frame (before after : RoomSync) : Prop where
  cfg : after.cfg = before.cfg
  heartbeats : after.heartbeats = before.heartbeats
  threshold : after.controller.discontinuityThresholdMs = before.controller.discontinuityThresholdMs

theorem Frame.refl (rs : RoomSync) : Frame rs rs := ⟨rfl, rfl, rfl⟩

theorem Frame.trans {first middle last : RoomSync} (left : Frame first middle) (right : Frame middle last) :
    Frame first last :=
  ⟨right.cfg.trans left.cfg, right.heartbeats.trans left.heartbeats, right.threshold.trans left.threshold⟩

theorem correct_threshold (dc : DriftController) (drift : ℚ) (dt : Duration) (peers confidence : Nat) :
    (dc.correct drift dt peers confidence).2.discontinuityThresholdMs = dc.discontinuityThresholdMs := by
  unfold DriftController.correct
  split
  · rfl
  split
  · rfl
  split <;> rfl

theorem Elects.frame {now : Time} {rs after : RoomSync} (elects : Elects now rs after) : Frame rs after := by
  cases elects with
  | keep => exact .refl rs
  | migrate successor named new => exact ⟨rfl, rfl, rfl⟩
  | pause =>
    unfold pauseHostless
    split
    · exact ⟨rfl, rfl, rfl⟩
    · exact .refl rs

theorem nudge_frame (rs : RoomSync) (correctionMs : ℚ) (nowMs : Int) : Frame rs (rs.nudge correctionMs nowMs) := by
  unfold nudge
  split
  · exact ⟨rfl, rfl, rfl⟩
  · exact .refl rs

theorem tick_frame (rs : RoomSync) (now : Time) (nowMs : Int) (order : MapOrder) :
    Frame rs (rs.tick now nowMs order) := by
  unfold tick
  split
  · have corrected : Frame rs { rs with controller := (rs.driftResult now).2 } :=
      ⟨rfl, rfl, correct_threshold ..⟩
    dsimp only
    split
    · exact ⟨rfl, rfl, correct_threshold ..⟩
    · exact (corrected.trans (nudge_frame _ _ nowMs)).trans (checkHostMigration_elects _ now order).frame
  · exact (checkHostMigration_elects rs now order).frame

/-- The sender of a heartbeat. -/
def sender? (event : Event) : Option String :=
  match event.action with
  | .heartbeat userID _ _ _ => some userID
  | _ => none

theorem step_frame (rs : RoomSync) {event : Event} (silent : sender? event = none) : Frame rs (rs.step event) := by
  obtain ⟨action, nowMs, now⟩ := event
  cases action with
  | command c fencingToken =>
    dsimp only [step, processCommandAuthorized, applyCommandLocked]
    split
    · exact .refl rs
    · exact ⟨rfl, rfl, rfl⟩
  | heartbeat userID mediaTime wallTime t2 => cases silent
  | tick order => exact tick_frame rs now nowMs order
  | adoptOwner ownerID =>
    dsimp only [step, adoptOwnerIfUnset]
    split
    · exact .refl rs
    · split <;> exact ⟨rfl, rfl, rfl⟩
  | snapshot => exact ⟨rfl, rfl, rfl⟩
  | register channel => exact ⟨rfl, rfl, rfl⟩
  | unregister channel => exact ⟨rfl, rfl, rfl⟩

theorem update_lastSeen (hb : ClientHeartbeat) (t1 t2 t3 : Int64) (now : Time) : (hb.update t1 t2 t3 now).lastSeen = now := by
  unfold ClientHeartbeat.update
  split <;> rfl

/-- A heartbeat renews one entry of the table and leaves the state alone. -/
theorem step_heartbeat (rs : RoomSync) {event : Event} {userID : String} (sent : sender? event = some userID) :
    ∃ hb : ClientHeartbeat, hb.lastSeen = event.now ∧
      rs.step event = { rs with heartbeats := rs.heartbeats.insert userID hb } := by
  obtain ⟨action, nowMs, now⟩ := event
  cases action with
  | heartbeat sender mediaTime wallTime t2 =>
    obtain rfl : sender = userID := Option.some.inj sent
    refine ⟨_, ?_, rfl⟩
    exact update_lastSeen ..
  | _ => cases sent

theorem other_tracks {rs : RoomSync} {userID : String} {event : Event} (foreign : sender? event ≠ some userID) :
    (rs.step event).heartbeats.lookup userID = rs.heartbeats.lookup userID := by
  cases sent : sender? event with
  | none => rw [(step_frame rs sent).heartbeats]
  | some sender =>
    obtain ⟨hb, -, same⟩ := step_heartbeat rs sent
    have other : userID ≠ sender := by
      rintro rfl
      exact foreign sent
    rw [same, AList.lookup_insert_ne other]

theorem step_config (rs : RoomSync) (event : Event) : (rs.step event).cfg = rs.cfg := by
  cases sent : sender? event with
  | none => exact (step_frame rs sent).cfg
  | some userID =>
    obtain ⟨hb, _, same⟩ := step_heartbeat rs sent
    rw [same]

end VibeSync.Proofs.SyncSteps
