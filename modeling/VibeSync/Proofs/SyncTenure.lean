import VibeSync.Proofs.SyncElection

/-! How long a host keeps the role against the ticks of one process: what the
process has heard of its clients and since when the host has been host. -/

namespace VibeSync.Proofs.SyncTenure
open VibeSync.Sync VibeSync.Sync.RoomSync Machine SyncSteps SyncElection

structure Watch where
  room : RoomSync
  /-- When the host took the role, or the room was made with it. -/
  hostSince : Time
  heard : String → Option Time

def Watch.start (cfg : SyncConfig) (roomID : String) (initial : SyncState) (materialised : Time) : Watch :=
  ⟨newRoomSync cfg roomID initial, materialised, fun _ => none⟩

/-- The handler turns away a heartbeat that names no user. -/
def Watch.step (w : Watch) (event : Event) : Watch :=
  if Named event then
    { room := w.room.step event
      hostSince := if (w.room.step event).state.hostID = w.room.state.hostID then w.hostSince else event.now
      heard := match sender? event with
        | some userID => Function.update w.heard userID (some event.now)
        | none => w.heard }
  else w

/-- The host lost the role to somebody other than the owner, or the room was
paused for want of a host. -/
def Deposed (before after : SyncState) : Prop :=
  (before.hostID ≠ "" ∧ after.hostID ≠ before.hostID ∧ after.hostID ≠ before.ownerID) ∨
    (before.status = .playing ∧ after.status = .paused)

def Deposes (w : Watch) (event : Event) : Prop :=
  match event.action with
  | .tick _ => Deposed w.room.state (w.room.step event).state
  | _ => False

def InGoodTime (w : Watch) (event : Event) : Prop :=
  Deposes w event →
    (∀ seen, w.heard w.room.state.hostID = some seen → w.room.cfg.timeout ≤ event.now - seen) ∧
      w.room.cfg.timeout ≤ event.now - w.hostSince

/-- The host is not present, the owner cannot step in, and there is somebody to
take over or a playback to pause. -/
def Abandoned (rs : RoomSync) (now : Time) : Prop :=
  rs.state.hostID ≠ "" ∧ ¬ OwnerPresent rs now ∧ ¬ rs.isPresent rs.state.hostID now ∧
    ((∃ userID, userID ≠ rs.state.hostID ∧ rs.isPresent userID now ∧ SeenBefore rs userID now) ∨
      rs.state.status = .playing)

/-- A host that is about to be deposed was heard since it took the role, or took
it a whole timeout ago. -/
def HadItsChance (w : Watch) (event : Event) : Prop :=
  match event.action with
  | .tick _ => ¬ Forces w.room event.now → Abandoned w.room event.now →
    (∃ seen, w.heard w.room.state.hostID = some seen ∧ w.hostSince ≤ seen) ∨
      w.room.cfg.timeout ≤ event.now - w.hostSince
  | _ => True

/-! What a tick does to the host and the status. -/

theorem pauseHostless_status_iff (rs : RoomSync) :
    Deposed rs.state rs.pauseHostless.state ↔ rs.state.status = .playing := by
  unfold Deposed
  rw [pauseHostless_host]
  unfold pauseHostless
  split
  next playing => simp [playing]
  next still => simp [still]

theorem not_deposed_of_kept {before after : SyncState} (host : after.hostID = before.hostID ∨ after.hostID = before.ownerID)
    (status : after.status = before.status) : ¬ Deposed before after := by
  rintro (⟨_, moved, foreign⟩ | ⟨playing, paused⟩)
  · exact host.elim moved foreign
  · rw [status, playing] at paused
    cases paused

/-- A successor is present, so it is not an absent owner. -/
theorem selectSuccessor_not_owner {rs : RoomSync} {now : Time} {excludeID : String} {order : MapOrder}
    (absent : ¬ OwnerPresent rs now) (somebody : rs.selectSuccessorLocked now excludeID order ≠ "") :
    rs.selectSuccessorLocked now excludeID order ≠ rs.state.ownerID := by
  intro same
  exact absent ⟨same ▸ somebody, same ▸ selectSuccessor_present somebody⟩

theorem check_deposes_iff {rs : RoomSync} (attended : Attended rs) (now : Time) (order : MapOrder) :
    Deposed rs.state (rs.checkHostMigrationLocked now order).state ↔ Abandoned rs now := by
  have found := selectSuccessor_named_iff attended now rs.state.hostID order
  have checks := checkHostMigration_checks attended now order
  generalize rs.checkHostMigrationLocked now order = after at checks
  cases checks with
  | reclaimed owner new =>
    exact iff_of_false (not_deposed_of_kept (Or.inr rfl) rfl) fun abandoned => abandoned.2.1 owner
  | seated owner same =>
    exact iff_of_false (not_deposed_of_kept (Or.inl rfl) rfl) fun abandoned => abandoned.2.1 owner
  | hosted absent present =>
    exact iff_of_false (not_deposed_of_kept (Or.inl rfl) rfl) fun abandoned => abandoned.2.2.1 present
  | succeeded absent gone somebody =>
    by_cases hostless : rs.state.hostID = ""
    · refine iff_of_false ?_ fun abandoned => abandoned.1 hostless
      rintro (⟨hosted, _⟩ | ⟨playing, paused⟩)
      · exact hosted hostless
      · exact absurd (playing.symm.trans paused) (by decide)
    · refine iff_of_true (Or.inl ⟨hostless, selectSuccessor_excludes rs now _ order somebody, ?_⟩)
        ⟨hostless, absent, gone, Or.inl (found.mp somebody)⟩
      exact selectSuccessor_not_owner absent somebody
  | vacant absent hostless nobody =>
    exact iff_of_false (not_deposed_of_kept (Or.inl rfl) rfl) fun abandoned => abandoned.1 hostless
  | departed absent host gone nobody =>
    rw [pauseHostless_status_iff]
    constructor
    · exact fun playing => ⟨host, absent, gone, Or.inr playing⟩
    · rintro ⟨_, _, _, somebody | playing⟩
      · exact absurd nobody (found.mpr somebody)
      · exact playing

theorem abandoned_prepared {rs ready : RoomSync} (prepares : Prepares rs ready) (now : Time) :
    Abandoned ready now ↔ Abandoned rs now := by
  unfold Abandoned OwnerPresent SeenBefore
  rw [isPresent_frame prepares.frame, prepares.frame.heartbeats, prepares.owner, prepares.host, prepares.status]

theorem tick_deposes_iff {rs : RoomSync} (attended : Attended rs) (now : Time) (nowMs : Int) (order : MapOrder) :
    Deposed rs.state (rs.tick now nowMs order).state ↔ ¬ Forces rs now ∧ Abandoned rs now := by
  by_cases forces : Forces rs now
  · rw [tick_forced attended forces]
    exact iff_of_false (not_deposed_of_kept (Or.inl rfl) rfl) fun calm => calm.1 forces
  · obtain ⟨ready, prepares, same⟩ := tick_checks attended forces nowMs order
    have checked := check_deposes_iff (attended.frame prepares.frame) now order
    unfold Deposed at checked ⊢
    rw [prepares.owner, prepares.host, prepares.status, abandoned_prepared prepares] at checked
    rw [same, checked]
    exact ⟨fun abandoned => ⟨forces, abandoned⟩, fun abandoned => abandoned.2⟩

/-! Whole runs. -/

/-- The table holds what was heard. -/
structure Faithful (w : Watch) : Prop where
  attended : Attended w.room
  heard : ∀ userID, w.heard userID = (w.room.heartbeats.lookup userID).map ClientHeartbeat.lastSeen

theorem faithful_start (cfg : SyncConfig) (roomID : String) (initial : SyncState) (materialised : Time) :
    Faithful (.start cfg roomID initial materialised) := ⟨attended_start cfg roomID initial, fun _ => rfl⟩

theorem Faithful.step {w : Watch} (faithful : Faithful w) (event : Event) : Faithful (w.step event) := by
  unfold Watch.step
  split
  next named =>
    refine ⟨faithful.attended.step named, fun userID => ?_⟩
    dsimp only
    cases sent : sender? event with
    | none =>
      rw [(step_frame w.room sent).heartbeats]
      exact faithful.heard userID
    | some sender =>
      obtain ⟨hb, seen, same⟩ := step_heartbeat w.room sent
      rw [same]
      by_cases here : userID = sender
      · subst here
        simp only [Function.update_self, AList.lookup_insert, Option.map_some, seen]
      · simp only [Function.update_of_ne here, AList.lookup_insert_ne here, faithful.heard userID]
  · exact faithful

/-- A host that is not present was last heard a whole timeout ago, if at all. -/
theorem Faithful.expired {w : Watch} (faithful : Faithful w) {userID : String} {now seen : Time}
    (gone : ¬ w.room.isPresent userID now) (heard : w.heard userID = some seen) : w.room.cfg.timeout ≤ now - seen := by
  rw [faithful.heard userID] at heard
  obtain ⟨hb, found, rfl⟩ := Option.map_eq_some_iff.mp heard
  by_contra recent
  exact gone (isPresent_iff.mpr ⟨hb, found, by simpa [ClientHeartbeat.isAlive] using recent⟩)

theorem inGoodTime_iff {w : Watch} (faithful : Faithful w) (event : Event) : InGoodTime w event ↔ HadItsChance w event := by
  obtain ⟨action, nowMs, now⟩ := event
  cases action with
  | tick order =>
    have deposes := tick_deposes_iff faithful.attended now nowMs order
    constructor
    · intro timely calm abandoned
      exact Or.inr (timely (deposes.mpr ⟨calm, abandoned⟩)).2
    · intro chance deposed
      obtain ⟨calm, abandoned⟩ := deposes.mp deposed
      refine ⟨fun seen heard => faithful.expired abandoned.2.2.1 heard, ?_⟩
      obtain ⟨seen, heard, after⟩ | served := chance calm abandoned
      · exact (faithful.expired abandoned.2.2.1 heard).trans (Int.sub_le_sub_left after now)
      · exact served
  | _ => exact ⟨fun _ => trivial, fun _ impossible => impossible.elim⟩

/-- Hosts are deposed in good time exactly in the runs where each one that is
about to be deposed was heard since it took the role, or took it long enough ago. -/
theorem deposed_in_good_time_iff (cfg : SyncConfig) (roomID : String) (initial : SyncState) (materialised : Time)
    (events : List Event) :
    (∀ visit ∈ trace Watch.step (.start cfg roomID initial materialised) events, InGoodTime visit.1 visit.2) ↔
      ∀ visit ∈ trace Watch.step (.start cfg roomID initial materialised) events, HadItsChance visit.1 visit.2 := by
  apply good_iff_guarded Faithful InGoodTime HadItsChance
  · exact fun w event faithful => inGoodTime_iff faithful event
  · exact fun w event faithful _ => faithful.step event
  · exact faithful_start cfg roomID initial materialised

/-- The owner of a new room has not sent a heartbeat when a guest's arrives. -/
def opening : List Event := [⟨.heartbeat "bob" 0 1100 1100, 1100, 1100000000⟩, ⟨.tick .stored, 1200, 1200000000⟩]

theorem new_owner_deposed :
    ¬ ∀ (cfg : SyncConfig) (roomID : String) (initial : SyncState) (materialised : Time) (events : List Event),
        ∀ visit ∈ trace Watch.step (.start cfg roomID initial materialised) events, InGoodTime visit.1 visit.2 := by
  intro claim
  have timely := claim {} "r1" (RoomManager.initState "r1" "alice") 1000000000 opening _ (.tail _ (.head _))
  have deposed := timely (Or.inl ⟨by decide +kernel, by decide +kernel, by decide +kernel⟩)
  exact absurd deposed.2 (by decide +kernel)

end VibeSync.Proofs.SyncTenure
