import VibeSync.Rooms.Service

/-! What the statements of the Room service write when they succeed, and how the
tables read afterwards. -/

namespace VibeSync.Proofs.RoomTables
open VibeSync.Rooms Transaction

section Lookups
variable (store : Store database) (written : Writes database)

theorem room_write (id : String) :
    Tables.room (store.write written) id = (written (.room id)).getD (Tables.room store id) := rfl

theorem member_write (roomID userID : String) :
    Tables.member (store.write written) roomID userID =
      (written (.member roomID userID)).getD (Tables.member store roomID userID) := rfl

theorem permission_write (roomID userID : String) :
    Tables.permission (store.write written) roomID userID =
      (written (.permission roomID userID)).getD (Tables.permission store roomID userID) := rfl

theorem invite_write (code : String) :
    Tables.invite (store.write written) code = (written (.invite code)).getD (Tables.invite store code) := rfl

end Lookups

/-! Changes to one room. -/

/-- The other rooms and their members are as before. -/
structure Elsewhere (roomID : String) (before after : Store database) : Prop where
  rooms : ∀ id, id ≠ roomID → Tables.room after id = Tables.room before id
  members : ∀ id, id ≠ roomID → Tables.member after id = Tables.member before id

/-- What holds of every room beside its members has to be looked at in one place only. -/
theorem Elsewhere.forall {holds : String → (String → Option Member) → Option Room → Prop} {roomID : String}
    {before after : Store database} (elsewhere : Elsewhere roomID before after)
    (held : ∀ id, holds id (Tables.member before id) (Tables.room before id))
    (here : holds roomID (Tables.member after roomID) (Tables.room after roomID)) (id : String) :
    holds id (Tables.member after id) (Tables.room after id) := by
  by_cases same : id = roomID
  · rw [same]
    exact here
  · rw [elsewhere.rooms id same, elsewhere.members id same]
    exact held id

/-! Statements. -/

section Statements
variable {view : View} {written : Changes}

theorem insertRoom_ok {new : Room} (inserted : Tables.insertRoom view new = .ok ((), written)) :
    Tables.room view new.id = none ∧ written = Tables.putRoom new := by
  simp only [Tables.insertRoom, Tables.encodeInt4, Columns.checkLength, bind, Except.bind] at inserted
  split at inserted
  · cases inserted
  split at inserted
  · cases inserted
  split at inserted
  · cases inserted
  split at inserted
  · cases inserted
  next absent =>
    split at inserted
    · cases inserted
    cases inserted
    exact ⟨by simpa using absent, rfl⟩

theorem updateRoom_ok {given : Room} (updated : Tables.updateRoom view given = .ok ((), written)) :
    (Tables.room view given.id = none ∧ written = Tables.unchanged) ∨
      ∃ row, Tables.room view given.id = some row ∧ written = Tables.replaceRoom row (Tables.overwrite row given) := by
  simp only [Tables.updateRoom, Tables.encodeInt4, Columns.checkLength, bind, Except.bind] at updated
  split at updated
  · cases updated
  cases found : Tables.room view given.id with
  | none =>
    simp only [found] at updated
    cases updated
    exact Or.inl ⟨rfl, rfl⟩
  | some row =>
    simp only [found] at updated
    split at updated
    · cases updated
    split at updated
    · cases updated
    split at updated
    · cases updated
    cases updated
    exact Or.inr ⟨row, rfl, rfl⟩

theorem upsertMember_ok {given : Member} (upserted : Tables.upsertMember view given = .ok ((), written)) :
    (Tables.room view given.roomID).isSome ∧
      ∃ joinedAt, written = Tables.putMember { given with role := Tables.smallint given.role, joinedAt } := by
  simp only [Tables.upsertMember] at upserted
  split at upserted
  · cases upserted
  next present =>
    refine ⟨by simpa [Option.isSome_iff_ne_none] using present, ?_⟩
    split at upserted
    · next old found =>
      cases upserted
      exact ⟨old.joinedAt, rfl⟩
    · cases upserted
      exact ⟨given.joinedAt, rfl⟩

theorem incrementCount_ok {roomID : String} {delta : Int}
    (incremented : Tables.incrementCount view roomID delta = .ok ((), written)) :
    (Tables.room view roomID = none ∧ written = Tables.unchanged) ∨
      ∃ row, Tables.room view roomID = some row ∧ written = Tables.setRoom roomID (Tables.countedRoom row delta) := by
  simp only [Tables.incrementCount] at incremented
  split at incremented
  · next absent =>
    cases incremented
    exact Or.inl ⟨absent, rfl⟩
  · next row found =>
    split at incremented
    · cases incremented
    cases incremented
    exact Or.inr ⟨row, found, rfl⟩

theorem insertInvite_ok {code roomID : String} {expiresAt : Option Time}
    (inserted : Tables.insertInvite view code roomID expiresAt = .ok ((), written)) :
    Tables.invite view code = none ∧ written = Tables.putInvite code ⟨roomID, expiresAt⟩ := by
  simp only [Tables.insertInvite] at inserted
  split at inserted
  · cases inserted
  next absent =>
    split at inserted
    · cases inserted
    cases inserted
    exact ⟨by simpa using absent, rfl⟩

theorem setPermission_ok {roomID userID : String} {perms : Permissions}
    (set : Tables.setPermission view roomID userID perms = .ok ((), written)) :
    written = Tables.putPermission roomID userID perms := by
  simp only [Tables.setPermission] at set
  split at set
  · cases set
  cases set
  rfl

theorem insertOutbox_ok {event : Outbox.Event} (inserted : Tables.insertOutbox view event = .ok ((), written)) :
    written = Tables.putOutbox event.id event.row := by
  simp only [Tables.insertOutbox] at inserted
  split at inserted
  · cases inserted
  cases inserted
  rfl

end Statements

end VibeSync.Proofs.RoomTables
