import VibeSync.Machine
import VibeSync.Proofs.SyncSteps
import VibeSync.Sync.Service

/-! What one event of the sync service can do to a room, its row and the state on
its way to the row. -/

namespace VibeSync.Proofs.SyncService
open VibeSync.Sync VibeSync.Proofs.SyncSteps

/-- The event creates the room in this state. -/
inductive Materialises (s : Service) (roomID : String) : Service.Event → SyncState → Prop where
  | restored {row : SyncState} (found : s.table roomID = some row) :
      Materialises s roomID (.getOrCreate roomID none) row
  | absent (missing : s.table roomID = none) :
      Materialises s roomID (.getOrCreate roomID none) (RoomManager.freshState roomID)
  | unread (err : Err) : Materialises s roomID (.getOrCreate roomID (some err)) (RoomManager.freshState roomID)
  | created {ownerID : String} {now : Time} (valid : ¬ (roomID = "" ∨ ownerID = "")) :
      Materialises s roomID (.roomCreated roomID ownerID now) (RoomManager.initState roomID ownerID)

/-- A room after an event is the room before it, a new room, or the room after
one of its own transitions. -/
inductive RoomMoves (s : Service) (event : Service.Event) (roomID : String) : RoomSync → Prop where
  | same {rs : RoomSync} (found : s.room roomID = some rs) : RoomMoves s event roomID rs
  | materialised {state : SyncState} (missing : s.room roomID = none) (made : Materialises s roomID event state) :
      RoomMoves s event roomID (newRoomSync s.manager.cfg roomID state)
  | adopted {rs : RoomSync} (found : s.room roomID = some rs) (ownerID : String) (now : Time) :
      RoomMoves s event roomID (rs.adoptOwnerIfUnset ownerID now).2
  | stepped {rs : RoomSync} (found : s.room roomID = some rs) {inner : RoomSync.Event}
      (same : event = .room roomID inner) : RoomMoves s event roomID (rs.step inner)

theorem step_cfg (s : Service) (event : Service.Event) : (s.step event).manager.cfg = s.manager.cfg := by
  cases event with
  | getOrCreate asked failure =>
    simp only [Service.step, RoomManager.getOrCreate]
    split <;> rfl
  | roomCreated asked ownerID now =>
    simp only [Service.step, Service.handleRoomCreated, RoomManager.init]
    split
    · rfl
    · split <;> rfl
  | room asked inner =>
    simp only [Service.step]
    split <;> rfl
  | copyState asked =>
    simp only [Service.step]
    split <;> rfl
  | writeState asked updatedAt failure =>
    simp only [Service.step, Service.writeState]
    split <;> rfl
  | crash => rfl

theorem put_room (m : RoomManager) (roomID other : String) (rs : RoomSync) :
    (m.put roomID rs).rooms other = if other = roomID then some rs else m.rooms other := by
  simp [RoomManager.put, Function.update_apply]

theorem getOrCreate_moves {s : Service} {asked roomID : String} {failure : Option Err} {rs : RoomSync}
    (found : (s.step (.getOrCreate asked failure)).room roomID = some rs) :
    RoomMoves s (.getOrCreate asked failure) roomID rs := by
  simp only [Service.step, Service.room, RoomManager.getOrCreate] at found
  split at found
  · exact .same found
  next missing =>
    rw [put_room] at found
    split at found
    next here =>
      subst here
      cases found
      cases failure with
      | some err => exact .materialised missing (.unread err)
      | none =>
        cases row : s.table roomID with
        | none =>
          simp only [Service.persisted, SyncStateRepo.get, row]
          exact .materialised missing (.absent row)
        | some state =>
          simp only [Service.persisted, SyncStateRepo.get, row]
          exact .materialised missing (.restored row)
    · exact .same found

theorem roomCreated_moves {s : Service} {asked ownerID roomID : String} {now : Time} {rs : RoomSync}
    (found : (s.step (.roomCreated asked ownerID now)).room roomID = some rs) :
    RoomMoves s (.roomCreated asked ownerID now) roomID rs := by
  simp only [Service.step, Service.handleRoomCreated] at found
  split at found
  · exact .same found
  next valid =>
    simp only [Service.room, RoomManager.init] at found
    split at found
    next old present =>
      rw [put_room] at found
      split at found
      next here =>
        subst here
        cases found
        exact .adopted present ownerID now
      · exact .same found
    next missing =>
      rw [put_room] at found
      split at found
      next here =>
        subst here
        cases found
        exact .materialised missing (.created valid)
      · exact .same found

theorem step_moves {s : Service} {event : Service.Event} {roomID : String} {rs : RoomSync}
    (found : (s.step event).room roomID = some rs) : RoomMoves s event roomID rs := by
  cases event with
  | getOrCreate asked failure => exact getOrCreate_moves found
  | roomCreated asked ownerID now => exact roomCreated_moves found
  | room asked inner =>
    simp only [Service.step] at found
    split at found
    next old present =>
      simp only [Service.room] at found
      rw [put_room] at found
      split at found
      next here =>
        subst here
        cases found
        exact .stepped present rfl
      · exact .same found
    · exact .same found
  | copyState asked =>
    simp only [Service.step] at found
    split at found <;> exact .same found
  | writeState asked updatedAt failure =>
    simp only [Service.step, Service.writeState] at found
    split at found <;> exact .same found
  | crash => cases found

theorem RoomMoves.grows {s : Service} {event : Service.Event} {roomID : String} {rs before : RoomSync}
    (moves : RoomMoves s event roomID rs) (found : s.room roomID = some before) : Grows before.state rs.state := by
  cases moves with
  | same here =>
    rw [found] at here
    cases here
    exact .refl _
  | materialised missing made =>
    rw [found] at missing
    cases missing
  | adopted here ownerID now =>
    rw [found] at here
    cases here
    exact Changes.grows (@adoptOwner_changes Anywhere before ownerID now)
  | stepped here same =>
    rw [found] at here
    cases here
    exact step_grows before _

/-- A room that was not there has just been created. -/
theorem RoomMoves.created {s : Service} {event : Service.Event} {roomID : String} {rs : RoomSync}
    (moves : RoomMoves s event roomID rs) (missing : s.room roomID = none) :
    ∃ state, Materialises s roomID event state ∧ rs = newRoomSync s.manager.cfg roomID state := by
  cases moves with
  | materialised _ made => exact ⟨_, made, rfl⟩
  | same found => simp [missing] at found
  | adopted found => simp [missing] at found
  | stepped found => simp [missing] at found

/-- Rows change by writing what was saved. -/
theorem step_row {s : Service} {event : Service.Event} {roomID : String} {row : SyncState}
    (found : (s.step event).table roomID = some row) :
    s.table roomID = some row ∨
      ∃ asked state updatedAt, s.saving asked = some state ∧ state.roomID = roomID ∧
        (s.step event).saving asked = none ∧ row = { state with epochStarted := updatedAt } := by
  cases event with
  | getOrCreate asked failure => exact Or.inl found
  | roomCreated asked ownerID now =>
    simp only [Service.step, Service.handleRoomCreated] at found
    split at found <;> exact Or.inl found
  | room asked inner =>
    simp only [Service.step] at found
    split at found <;> exact Or.inl found
  | copyState asked =>
    simp only [Service.step] at found
    split at found <;> exact Or.inl found
  | writeState asked updatedAt failure =>
    simp only [Service.step, Service.writeState] at found ⊢
    split at found
    next state saved =>
      simp only [SyncStateRepo.upsert, Function.update_apply] at found
      split at found
      next here =>
        cases found
        exact Or.inr ⟨asked, state, updatedAt, saved, here.symm, by simp, rfl⟩
      · exact Or.inl found
    · exact Or.inl found
    · exact Or.inl found
  | crash => exact Or.inl found

/-- What is on its way to the row was so before or is a copy of the room. -/
theorem step_saving {s : Service} {event : Service.Event} {roomID : String} {state : SyncState}
    (found : (s.step event).saving roomID = some state) :
    event ≠ .crash ∧ (s.saving roomID = some state ∨ ∃ rs, s.room roomID = some rs ∧ state = rs.state) := by
  have clears : ∀ asked, Function.update s.saving asked none roomID = some state → s.saving roomID = some state := by
    intro asked kept
    rw [Function.update_apply] at kept
    split at kept
    · cases kept
    · exact kept
  cases event with
  | getOrCreate asked failure => exact ⟨nofun, Or.inl found⟩
  | roomCreated asked ownerID now =>
    simp only [Service.step, Service.handleRoomCreated] at found
    split at found <;> exact ⟨nofun, Or.inl found⟩
  | room asked inner =>
    simp only [Service.step] at found
    split at found <;> exact ⟨nofun, Or.inl found⟩
  | copyState asked =>
    simp only [Service.step] at found
    split at found
    next rs loaded free =>
      simp only [Function.update_apply] at found
      split at found
      next here =>
        subst here
        cases found
        exact ⟨nofun, Or.inr ⟨rs, loaded, rfl⟩⟩
      · exact ⟨nofun, Or.inl found⟩
    · exact ⟨nofun, Or.inl found⟩
  | writeState asked updatedAt failure =>
    simp only [Service.step, Service.writeState] at found
    split at found
    · exact ⟨nofun, Or.inl (clears asked found)⟩
    · exact ⟨nofun, Or.inl (clears asked found)⟩
    · exact ⟨nofun, Or.inl found⟩
  | crash => cases found

end VibeSync.Proofs.SyncService
