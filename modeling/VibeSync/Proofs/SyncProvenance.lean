import VibeSync.Proofs.SyncMaterialisation
import VibeSync.Proofs.SyncService

/-! Where the owner and the host of a room come from. An owner is named by the
room's creation alone, and a host is such an owner or somebody who has sent the
room a heartbeat, in memory, on the way to the table and in the table. -/

namespace VibeSync.Proofs.SyncProvenance
open VibeSync.Sync VibeSync.Sync.RoomSync VibeSync.Proofs.SyncSteps VibeSync.Proofs.SyncService

/-! One room. -/

theorem selectSuccessor_seen (rs : RoomSync) (now : Time) (excludeID : String) (order : MapOrder)
    (elected : rs.selectSuccessorLocked now excludeID order ≠ "") :
    (rs.heartbeats.lookup (rs.selectSuccessorLocked now excludeID order)).isSome := by
  have selected := selectSuccessor_selected rs now excludeID order
  generalize rs.selectSuccessorLocked now excludeID order = successor at selected elected ⊢
  cases selected with
  | nobody => exact absurd rfl elected
  | peer _ seen stands =>
    obtain ⟨_, hb, found, _⟩ := candidacy_eq_some.mp stands
    rw [found]
    rfl

theorem preferredSuccessor_known (rs : RoomSync) (now : Time) (excludeID : String) (order : MapOrder)
    (elected : rs.preferredSuccessorLocked now excludeID order ≠ "") :
    rs.preferredSuccessorLocked now excludeID order = rs.state.ownerID ∨
      (rs.heartbeats.lookup (rs.preferredSuccessorLocked now excludeID order)).isSome := by
  unfold preferredSuccessorLocked at elected ⊢
  by_cases owner : rs.state.ownerID ≠ "" ∧ rs.state.ownerID ≠ excludeID ∧ rs.isPresent rs.state.ownerID now
  · rw [if_pos owner]
    exact Or.inl rfl
  · rw [if_neg owner] at elected ⊢
    exact Or.inr (selectSuccessor_seen rs now excludeID order elected)

/-- Whom a transition may leave as the host. -/
def HostOf (rs : RoomSync) (userID : String) : Prop :=
  userID = rs.state.hostID ∨ userID = rs.state.ownerID ∨ (rs.heartbeats.lookup userID).isSome

theorem checkHostMigration_host (rs : RoomSync) (now : Time) (order : MapOrder) :
    HostOf rs (rs.checkHostMigrationLocked now order).state.hostID := by
  unfold checkHostMigrationLocked
  split
  · exact Or.inr (Or.inl rfl)
  split
  · dsimp only
    split
    · exact Or.inl rfl
    next elected => exact Or.inr (preferredSuccessor_known rs now "" order elected)
  split
  · exact Or.inl rfl
  dsimp only
  split
  · unfold pauseHostless
    split <;> exact Or.inl rfl
  next elected => exact Or.inr (preferredSuccessor_known rs now _ order elected)

theorem nudge_owner (rs : RoomSync) (correctionMs : ℚ) (nowMs : Int) :
    (rs.nudge correctionMs nowMs).state.ownerID = rs.state.ownerID := by
  unfold nudge
  split <;> rfl

theorem tick_host (rs : RoomSync) (now : Time) (nowMs : Int) (order : MapOrder) :
    HostOf rs (rs.tick now nowMs order).state.hostID := by
  unfold tick
  split
  · dsimp only
    split
    · exact Or.inl rfl
    · -- The liveness check runs on the corrected room, which has the same host, owner and heartbeats.
      have checked := checkHostMigration_host
        ({ rs with controller := (rs.driftResult now).2 }.nudge (rs.driftResult now).1.correctionMs nowMs) now order
      rw [HostOf, (nudge_nudged _ _ nowMs).host, nudge_owner, (nudge_frame _ _ nowMs).heartbeats] at checked
      exact checked
  · exact checkHostMigration_host rs now order

/-- The media stays, and so do status and rate unless the room is paused. -/
structure Unsteered (before after : SyncState) : Prop where
  media : after.mediaID = before.mediaID
  pace : after.status = before.status ∧ after.playbackRate = before.playbackRate ∨ after.status = .paused ∧ after.playbackRate = 0

theorem Unsteered.refl (s : SyncState) : Unsteered s s := ⟨rfl, Or.inl ⟨rfl, rfl⟩⟩

section Rooms
variable (creator beat : String → String → Prop)

/-- The owner is the room's creator, and the host that or a sender of heartbeats. -/
structure Vouched (roomID : String) (s : SyncState) : Prop where
  named : s.roomID = roomID
  owner : s.ownerID = "" ∨ creator roomID s.ownerID
  host : s.hostID = "" ∨ creator roomID s.hostID ∨ beat roomID s.hostID

structure Backed (roomID : String) (rs : RoomSync) : Prop where
  room : rs.roomID = roomID
  vouched : Vouched creator beat roomID rs.state
  beats : ∀ userID, (rs.heartbeats.lookup userID).isSome → beat roomID userID

/-- Creations and heartbeats are told by those who have made them. -/
def Honest (roomID : String) (event : RoomSync.Event) : Prop :=
  match event.action with
  | .heartbeat userID _ _ _ => beat roomID userID
  | .adoptOwner ownerID => creator roomID ownerID
  | _ => True

end Rooms

section Step
variable {creator beat : String → String → Prop} {roomID : String} {rs : RoomSync}

theorem Backed.host (backed : Backed creator beat roomID rs) {userID : String} (host : HostOf rs userID) :
    userID = "" ∨ creator roomID userID ∨ beat roomID userID := by
  rcases host with rfl | rfl | seen
  · exact backed.vouched.host
  · exact backed.vouched.owner.imp_right Or.inl
  · exact Or.inr (Or.inr (backed.beats userID seen))

theorem adoptOwner_backed (backed : Backed creator beat roomID rs) {ownerID : String} (created : creator roomID ownerID)
    (now : Time) : Backed creator beat roomID (rs.adoptOwnerIfUnset ownerID now).2 := by
  have owner : (if rs.state.ownerID = "" then ownerID else rs.state.ownerID) = "" ∨
      creator roomID (if rs.state.ownerID = "" then ownerID else rs.state.ownerID) := by
    split
    · exact Or.inr created
    · exact backed.vouched.owner
  unfold adoptOwnerIfUnset
  split
  · exact backed
  dsimp only
  split
  · exact ⟨backed.room, ⟨backed.vouched.named, owner, backed.vouched.host⟩, backed.beats⟩
  · exact ⟨backed.room, ⟨backed.vouched.named, owner, Or.inr (Or.inl created)⟩, backed.beats⟩

theorem command_backed (backed : Backed creator beat roomID rs) (c : Command) (fencingToken : Nat) (nowMs : Int) (now : Time) :
    Backed creator beat roomID (rs.processCommandAuthorized c fencingToken nowMs now).2 := by
  unfold processCommandAuthorized applyCommandLocked
  split
  · exact backed
  · obtain ⟨_, _, host, owner, named, _⟩ := perform_frame (rs.state.resample nowMs) c
    refine ⟨backed.room, ⟨named.trans backed.vouched.named, ?_, ?_⟩, backed.beats⟩
    · exact owner.symm ▸ backed.vouched.owner
    · exact host.symm ▸ backed.vouched.host

theorem Backed.step (backed : Backed creator beat roomID rs) {event : RoomSync.Event}
    (honest : Honest creator beat roomID event) : Backed creator beat roomID (rs.step event) := by
  obtain ⟨action, nowMs, now⟩ := event
  cases action with
  | command c fencingToken => exact command_backed backed c fencingToken nowMs now
  | heartbeat userID mediaTime wallTime t2 =>
    refine ⟨backed.room, backed.vouched, fun other seen => ?_⟩
    by_cases same : other = userID
    · rw [same]
      exact honest
    · apply backed.beats other
      rw [← AList.lookup_insert_ne same]
      exact seen
  | tick order =>
    have keeps := SyncMaterialisation.step_keeps rs ⟨.tick order, nowMs, now⟩
    have other : ¬ SyncMaterialisation.Adopts ⟨.tick order, nowMs, now⟩ := by
      rintro ⟨_, same⟩
      cases same
    refine ⟨keeps.room.trans backed.room, ⟨keeps.named.trans backed.vouched.named, ?_, ?_⟩, fun userID seen => ?_⟩
    · rw [SyncMaterialisation.step_owner other]
      exact backed.vouched.owner
    · exact backed.host (tick_host rs now nowMs order)
    · rw [(step_frame rs rfl).heartbeats] at seen
      exact backed.beats userID seen
  | adoptOwner ownerID => exact adoptOwner_backed backed honest now
  | snapshot => exact ⟨backed.room, backed.vouched, backed.beats⟩
  | register channel => exact ⟨backed.room, backed.vouched, backed.beats⟩
  | unregister channel => exact ⟨backed.room, backed.vouched, backed.beats⟩

end Step

/-! The service. -/

theorem put_present {m : RoomManager} {roomID asked : String} {rs next after : RoomSync} (before : m.rooms roomID = some rs)
    (found : (m.put asked next).rooms roomID = some after) :
    m.rooms roomID = some after ∨ asked = roomID ∧ m.rooms asked = some rs ∧ after = next := by
  rw [put_room] at found
  split at found
  next here =>
    subst here
    exact Or.inr ⟨rfl, before, (Option.some.inj found).symm⟩
  · exact Or.inl found

/-- A room after an event is the room before it, a new room, or the room after
what the event has sent to it. -/
theorem step_room {s : Service} {event : Service.Event} {roomID : String} {rs : RoomSync}
    (found : (s.step event).room roomID = some rs) :
    s.room roomID = some rs ∨
      (s.room roomID = none ∧ ∃ state, Materialises s roomID event state ∧ rs = newRoomSync s.manager.cfg roomID state) ∨
      ∃ old, s.room roomID = some old ∧
        ((∃ inner, event = .room roomID inner ∧ rs = old.step inner) ∨
          ∃ ownerID now, event = .roomCreated roomID ownerID now ∧ rs = (old.adoptOwnerIfUnset ownerID now).2) := by
  cases before : s.room roomID with
  | none => exact Or.inr (Or.inl ⟨rfl, (step_moves found).created before⟩)
  | some old =>
    have same {rs : RoomSync} (kept : s.room roomID = some rs) : some old = some rs := before.symm.trans kept
    cases event with
    | getOrCreate asked failure =>
      simp only [Service.step, RoomManager.getOrCreate] at found
      split at found
      · exact Or.inl (same found)
      next missing =>
        rcases put_present before found with kept | ⟨_, present, _⟩
        · exact Or.inl (same kept)
        · rw [missing] at present
          cases present
    | roomCreated asked ownerID now =>
      simp only [Service.step, Service.handleRoomCreated] at found
      split at found
      · exact Or.inl (same found)
      simp only [Service.room, RoomManager.init] at found
      split at found
      next held here =>
        rcases put_present before found with kept | ⟨rfl, present, rfl⟩
        · exact Or.inl (same kept)
        · rw [here] at present
          cases present
          exact Or.inr (Or.inr ⟨old, rfl, Or.inr ⟨ownerID, now, rfl, rfl⟩⟩)
      next missing =>
        rcases put_present before found with kept | ⟨_, present, _⟩
        · exact Or.inl (same kept)
        · rw [missing] at present
          cases present
    | room asked inner =>
      simp only [Service.step] at found
      split at found
      next held here =>
        rcases put_present before found with kept | ⟨rfl, present, rfl⟩
        · exact Or.inl (same kept)
        · cases here.symm.trans present
          exact Or.inr (Or.inr ⟨old, rfl, Or.inl ⟨inner, rfl, rfl⟩⟩)
      · exact Or.inl (same found)
    | copyState asked =>
      simp only [Service.step] at found
      split at found <;> exact Or.inl (same found)
    | writeState asked updatedAt failure =>
      simp only [Service.step, Service.writeState] at found
      split at found <;> exact Or.inl (same found)
    | crash => cases found

section Service
variable (creator beat : String → String → Prop)

structure Sourced (s : Service) : Prop where
  memory : ∀ roomID rs, s.room roomID = some rs → Backed creator beat roomID rs
  saved : ∀ roomID state, s.saving roomID = some state → Vouched creator beat state.roomID state
  rows : ∀ roomID row, s.table roomID = some row → Vouched creator beat roomID row

def Founded : Service.Event → Prop
  | .room roomID event => Honest creator beat roomID event
  | .roomCreated roomID ownerID _ => creator roomID ownerID
  | _ => True

end Service

section Run
variable {creator beat : String → String → Prop} {s : Service}

theorem Sourced.materialised (sourced : Sourced creator beat s) {event : Service.Event} (founded : Founded creator beat event)
    {roomID : String} {state : SyncState} (made : Materialises s roomID event state) : Vouched creator beat roomID state := by
  cases made with
  | restored found => exact sourced.rows roomID state found
  | absent missing => exact ⟨rfl, Or.inl rfl, Or.inl rfl⟩
  | unread err => exact ⟨rfl, Or.inl rfl, Or.inl rfl⟩
  | created valid => exact ⟨rfl, Or.inr founded, Or.inr (Or.inl founded)⟩

theorem Sourced.step (sourced : Sourced creator beat s) {event : Service.Event} (founded : Founded creator beat event) :
    Sourced creator beat (s.step event) := by
  refine ⟨fun roomID rs found => ?_, fun roomID state found => ?_, fun roomID row found => ?_⟩
  · rcases step_room found with kept | ⟨_, state, made, rfl⟩ | ⟨old, present, ⟨inner, rfl, rfl⟩ | ⟨ownerID, now, rfl, rfl⟩⟩
    · exact sourced.memory roomID rs kept
    · exact ⟨rfl, sourced.materialised founded made, fun _ => nofun⟩
    · exact (sourced.memory roomID old present).step founded
    · exact adoptOwner_backed (sourced.memory roomID old present) founded now
  · obtain ⟨_, kept | ⟨rs, present, rfl⟩⟩ := step_saving found
    · exact sourced.saved roomID state kept
    · have vouched := (sourced.memory roomID rs present).vouched
      rw [vouched.named]
      exact vouched
  · rcases step_row found with kept | ⟨asked, state, updatedAt, saved, rfl, _, rfl⟩
    · exact sourced.rows roomID row kept
    · have vouched := sourced.saved asked state saved
      exact ⟨rfl, vouched.owner, vouched.host⟩

theorem Vouched.mono {later seen : String → String → Prop} (creators : ∀ roomID userID, creator roomID userID → later roomID userID)
    (beats : ∀ roomID userID, beat roomID userID → seen roomID userID) {roomID : String} {state : SyncState}
    (vouched : Vouched creator beat roomID state) : Vouched later seen roomID state :=
  ⟨vouched.named, vouched.owner.imp_right (creators _ _), vouched.host.imp_right (Or.imp (creators _ _) (beats _ _))⟩

theorem Sourced.mono {later seen : String → String → Prop} (creators : ∀ roomID userID, creator roomID userID → later roomID userID)
    (beats : ∀ roomID userID, beat roomID userID → seen roomID userID) (sourced : Sourced creator beat s) :
    Sourced later seen s := by
  refine ⟨fun roomID rs found => ?_, fun roomID state found => ?_, fun roomID row found => ?_⟩
  · have backed := sourced.memory roomID rs found
    exact ⟨backed.room, backed.vouched.mono creators beats, fun userID present => beats _ _ (backed.beats userID present)⟩
  · exact (sourced.saved roomID state found).mono creators beats
  · exact (sourced.rows roomID row found).mono creators beats

end Run

end VibeSync.Proofs.SyncProvenance
