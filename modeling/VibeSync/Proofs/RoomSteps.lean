import VibeSync.Proofs.RoomTables

/-! What each request of the Room service can do to the rooms, members and
invites when it has the store to itself. -/

namespace VibeSync.Proofs.RoomSteps
open VibeSync.Rooms Transaction VibeSync.Proofs.RoomTables

/-- A room is stored under its id. -/
def Keyed (store : Store database) : Prop := ∀ id row, Tables.room store id = some row → row.id = id

/-- Nothing but permissions and the outbox has changed. -/
structure Same (before after : Store database) : Prop where
  rooms : Tables.room after = Tables.room before
  members : Tables.member after = Tables.member before
  invites : Tables.invite after = Tables.invite before

/-- The members with one place filled or emptied. -/
def seat (members : String → String → Option Member) (roomID userID : String) (row : Option Member) :
    String → String → Option Member :=
  Function.update members roomID (Function.update (members roomID) userID row)

theorem seat_apply (members : String → String → Option Member) (roomID userID : String) (row : Option Member)
    (id user : String) :
    seat members roomID userID row id user = if id = roomID ∧ user = userID then row else members id user := by
  by_cases here : id = roomID
  · subst here
    simp [seat, Function.update_apply]
  · simp [seat, here]

theorem seat_same (members : String → String → Option Member) (roomID userID : String) (row : Option Member) :
    seat members roomID userID row roomID = Function.update (members roomID) userID row := Function.update_self ..

/-! Single statements. -/

section Statements
variable {α : Type} {store after : Store database} {value : Unit}

theorem exec_roomByID (id : String) (next : Option Room → Tx α) :
    (Repo.roomByID id >>= next).exec store = (next (Tables.room store id)).exec store := rfl

theorem exec_memberGet (roomID userID : String) (next : Option Member → Tx α) :
    (Repo.memberGet roomID userID >>= next).exec store = (next (Tables.member store roomID userID)).exec store := rfl

theorem exec_permissionGet (roomID userID : String) (next : Option Int16 → Tx α) :
    (Repo.permissionGet roomID userID >>= next).exec store = (next (Tables.permission store roomID userID)).exec store := rfl

theorem roomCreate_ok {new : Room} (executed : (Repo.roomCreate new).exec store = (.ok value, after)) :
    Tables.room store new.id = none ∧
      Tables.room after = Function.update (Tables.room store) new.id (some new) ∧
      Tables.member after = Tables.member store ∧ Tables.invite after = Tables.invite store := by
  obtain ⟨_, inserted, same⟩ := Program.exec_query_ok executed
  obtain ⟨absent, written⟩ := insertRoom_ok inserted
  subst written same
  refine ⟨absent, funext fun id => ?_, rfl, rfl⟩
  rw [room_write, Tables.putRoom, Function.update_apply]
  split <;> rfl

theorem roomUpdate_ok {given row : Room} (found : Tables.room store given.id = some row) (key : row.id = given.id)
    (executed : (Repo.roomUpdate given).exec store = (.ok value, after)) :
    Tables.room after = Function.update (Tables.room store) given.id (some (Tables.overwrite row given)) ∧
      Tables.member after = Tables.member store ∧ Tables.invite after = Tables.invite store := by
  obtain ⟨_, updated, same⟩ := Program.exec_query_ok executed
  rcases updateRoom_ok updated with ⟨absent, _⟩ | ⟨_, present, written⟩
  · cases found.symm.trans absent
  · cases found.symm.trans present
    subst written same
    refine ⟨funext fun id => ?_, rfl, rfl⟩
    rw [room_write, Tables.replaceRoom, Tables.overwrite, key, Function.update_apply]
    split <;> rfl

theorem roomDelete_ok {roomID : String} {row : Room} (found : Tables.room store roomID = some row)
    (executed : (Repo.roomDelete roomID).exec store = (.ok value, after)) :
    Tables.room after = Function.update (Tables.room store) roomID none ∧
      Tables.member after = Function.update (Tables.member store) roomID (fun _ => none) ∧
      ∀ code row, Tables.invite store code = some row → row.roomID ≠ roomID → Tables.invite after code = some row := by
  obtain ⟨_, deleted, same⟩ := Program.exec_query_ok executed
  cases deleted
  subst same
  refine ⟨funext fun id => ?_, funext fun id => funext fun user => ?_, fun code invite held other => ?_⟩
  · simp only [room_write, Tables.deleteRoom, found, Function.update_apply]
    split <;> rfl
  · simp only [member_write, Tables.deleteRoom, found, Function.update_apply]
    split
    · cases Tables.member store id user <;> rfl
    · rfl
  · simp [invite_write, Tables.deleteRoom, found, held, other]

theorem memberUpsert_ok {given : Member} (executed : (Repo.memberUpsert given).exec store = (.ok value, after)) :
    Tables.room after = Tables.room store ∧
      (∃ joinedAt, Tables.member after = seat (Tables.member store) given.roomID given.userID
        (some { given with role := Tables.smallint given.role, joinedAt })) ∧
      Tables.invite after = Tables.invite store := by
  obtain ⟨_, upserted, same⟩ := Program.exec_query_ok executed
  obtain ⟨_, joinedAt, written⟩ := upsertMember_ok upserted
  subst written same
  refine ⟨rfl, ⟨joinedAt, funext fun id => funext fun user => ?_⟩, rfl⟩
  rw [member_write, Tables.putMember, seat_apply]
  split <;> rfl

theorem memberDelete_ok {roomID userID : String}
    (executed : (Repo.memberDelete roomID userID).exec store = (.ok value, after)) :
    Tables.room after = Tables.room store ∧
      Tables.member after = seat (Tables.member store) roomID userID none ∧
      Tables.invite after = Tables.invite store := by
  obtain ⟨_, deleted, same⟩ := Program.exec_query_ok executed
  cases deleted
  subst same
  refine ⟨rfl, funext fun id => funext fun user => ?_, rfl⟩
  rw [member_write, Tables.deleteMember, seat_apply]
  split
  · cases Tables.member store id user <;> rfl
  · rfl

theorem memberUpdateRole_ok {roomID userID : String} {role : RoomRole} {row : Member}
    (found : Tables.member store roomID userID = some row)
    (executed : (Repo.memberUpdateRole roomID userID role).exec store = (.ok value, after)) :
    Tables.room after = Tables.room store ∧
      Tables.member after = seat (Tables.member store) roomID userID (some { row with role := Tables.smallint role }) ∧
      Tables.invite after = Tables.invite store := by
  obtain ⟨_, updated, same⟩ := Program.exec_query_ok executed
  cases updated
  subst same
  refine ⟨rfl, funext fun id => funext fun user => ?_, rfl⟩
  rw [member_write, Tables.updateRole, seat_apply]
  split
  · next here =>
    rw [here.1, here.2, found]
    rfl
  · rfl

theorem increment_ok {roomID : String} {delta : Int}
    (executed : (Repo.incrementRoomMemberCount roomID delta).exec store = (.ok value, after)) :
    Tables.room after =
        Function.update (Tables.room store) roomID ((Tables.room store roomID).map (Tables.countedRoom · delta)) ∧
      Tables.member after = Tables.member store ∧ Tables.invite after = Tables.invite store := by
  obtain ⟨_, incremented, same⟩ := Program.exec_query_ok executed
  rcases incrementCount_ok incremented with ⟨absent, written⟩ | ⟨row, present, written⟩
  · subst written same
    refine ⟨?_, rfl, rfl⟩
    rw [absent, Option.map_none, ← absent, Function.update_eq_self]
    rfl
  · subst written same
    refine ⟨funext fun id => ?_, rfl, rfl⟩
    rw [room_write, present, Tables.setRoom, Function.update_apply]
    split <;> rfl

/-- The room got an invite code with its creation. -/
def Invited (room : Room) : Prop := room.requiresInvite ∨ room.visibility = visibilityUnlisted

instance (room : Room) : Decidable (Invited room) := inferInstanceAs (Decidable (_ ∨ _))

theorem issueInvite_ok {env : Env} {room : Room} (executed : (issueInvite env room).exec store = (.ok value, after)) :
    (Invited room → Tables.invite store env.inviteCode = none) ∧ Tables.room after = Tables.room store ∧
      Tables.member after = Tables.member store ∧
      ∀ code, Tables.invite after code =
        if Invited room ∧ code = env.inviteCode then some ⟨room.id, none⟩ else Tables.invite store code := by
  change (if Invited room then Repo.inviteCreate env.inviteCode room.id none else pure ()).exec store = _ at executed
  split at executed
  · next invited =>
    obtain ⟨_, inserted, same⟩ := Program.exec_query_ok executed
    obtain ⟨absent, written⟩ := insertInvite_ok inserted
    subst written same
    refine ⟨fun _ => absent, rfl, rfl, fun code => ?_⟩
    rw [invite_write, Tables.putInvite]
    simp only [invited, true_and]
    split <;> rfl
  · next uninvited =>
    cases executed
    exact ⟨fun asked => absurd asked uninvited, rfl, rfl, fun code => by simp [uninvited]⟩

theorem permissionDelete_ok {roomID userID : String}
    (executed : (Repo.permissionDelete roomID userID).exec store = (.ok value, after)) : Same store after := by
  obtain ⟨_, deleted, same⟩ := Program.exec_query_ok executed
  cases deleted
  subst same
  exact ⟨rfl, rfl, rfl⟩

theorem permissionSet_ok {roomID userID : String} {perms : Permissions}
    (executed : (Repo.permissionSet roomID userID perms).exec store = (.ok value, after)) :
    after = store.write (Tables.putPermission roomID userID perms) := by
  obtain ⟨_, set, same⟩ := Program.exec_query_ok executed
  rwa [setPermission_ok set] at same

theorem outboxAppend_ok {event : Outbox.Event} (executed : (Repo.outboxAppend event).exec store = (.ok value, after)) :
    Same store after := by
  rw [Repo.outboxAppend] at executed
  split at executed
  · cases executed
  · obtain ⟨_, inserted, same⟩ := Program.exec_query_ok executed
    rw [insertOutbox_ok inserted] at same
    subst same
    exact ⟨rfl, rfl, rfl⟩

/-- The owner-level check reads one row and changes nothing. -/
theorem exec_requireRoomRole (roomID : String) (subject : Subject) (minRole : RoomRole) (store : Store database) :
    (requireRoomRole roomID subject minRole).exec store =
      if subject.atLeast .administrator then (.ok (), store)
      else match Tables.member store roomID subject.userID with
        | none => (.error (.permissionDenied "manage_room" ("room:" ++ roomID)), store)
        | some member =>
          if member.role < minRole then (.error (.permissionDenied "manage_room" ("room:" ++ roomID)), store)
          else (.ok (), store) := by
  rw [requireRoomRole]
  split
  · rfl
  rw [exec_memberGet]
  cases Tables.member store roomID subject.userID with
  | none => rfl
  | some member =>
    dsimp only
    split <;> rfl

theorem requireRoomRole_ok {roomID : String} {subject : Subject} {minRole : RoomRole}
    (executed : (requireRoomRole roomID subject minRole).exec store = (.ok value, after)) : after = store := by
  rw [exec_requireRoomRole] at executed
  split at executed
  · cases executed
    rfl
  split at executed
  · cases executed
  split at executed
  · cases executed
  · cases executed
    rfl

theorem checkInvite_ok {env : Env} {room : Room} {roomID inviteCode : String}
    (executed : (checkInvite env room roomID inviteCode).exec store = (.ok value, after)) : after = store := by
  rw [checkInvite] at executed
  split at executed
  · split at executed
    · cases executed
    obtain ⟨reply, middle, looked, rest⟩ := Program.exec_bind_ok executed
    cases looked
    split at rest
    · cases rest
    split at rest
    · cases rest
      rfl
    · cases rest
  · cases executed
    rfl

end Statements

/-! Whole requests. -/

structure Created (env : Env) (room : Room) (before after : Store database) : Prop where
  fresh : Tables.room before room.id = none
  elsewhere : Elsewhere room.id before after
  here : Tables.room after room.id = some (Tables.countedRoom room 1)
  members : ∃ joinedAt, Tables.member after room.id =
    Function.update (Tables.member before room.id) room.ownerID (some ⟨room.id, room.ownerID, roleOwner, joinedAt⟩)
  unused : Invited room → Tables.invite before env.inviteCode = none
  invites : ∀ code, Tables.invite after code =
    if Invited room ∧ code = env.inviteCode then some ⟨room.id, none⟩ else Tables.invite before code

structure Joined (roomID userID : String) (row : Room) (before after : Store database) : Prop where
  found : Tables.room before roomID = some row
  absent : Tables.member before roomID userID = none
  elsewhere : Elsewhere roomID before after
  here : Tables.room after roomID = some (Tables.countedRoom row 1)
  members : ∃ joinedAt, Tables.member after roomID =
    Function.update (Tables.member before roomID) userID (some ⟨roomID, userID, roleMember, joinedAt⟩)
  invites : Tables.invite after = Tables.invite before

structure Removed (roomID userID : String) (before after : Store database) : Prop where
  elsewhere : Elsewhere roomID before after
  here : Tables.room after roomID = (Tables.room before roomID).map (Tables.countedRoom · (-1))
  members : Tables.member after roomID = Function.update (Tables.member before roomID) userID none
  invites : Tables.invite after = Tables.invite before

structure Promoted (roomID userID : String) (role : RoomRole) (row : Member) (before after : Store database) : Prop where
  found : Tables.member before roomID userID = some row
  elsewhere : Elsewhere roomID before after
  here : Tables.room after roomID = Tables.room before roomID
  members : Tables.member after roomID =
    Function.update (Tables.member before roomID) userID (some { row with role := Tables.smallint role })
  invites : Tables.invite after = Tables.invite before

structure Rewritten (roomID : String) (row new : Room) (before after : Store database) : Prop where
  found : Tables.room before roomID = some row
  elsewhere : Elsewhere roomID before after
  here : Tables.room after roomID = some new
  members : Tables.member after roomID = Tables.member before roomID
  invites : Tables.invite after = Tables.invite before

structure Deleted (roomID : String) (before after : Store database) : Prop where
  elsewhere : Elsewhere roomID before after
  here : Tables.room after roomID = none
  members : ∀ user, Tables.member after roomID user = none
  invites : ∀ code row, Tables.invite before code = some row → row.roomID ≠ roomID →
    Tables.invite after code = some row

section Requests
variable {env : Env} {subject : Subject} {store after : Store database}

theorem elsewhere_of_update {roomID userID : String} {row : Option Room} {member : Option Member}
    (rooms : Tables.room after = Function.update (Tables.room store) roomID row)
    (members : Tables.member after = seat (Tables.member store) roomID userID member) : Elsewhere roomID store after := by
  constructor
  · intro id other
    rw [rooms, Function.update_of_ne other]
  · intro id other
    rw [members, seat, Function.update_of_ne other]

theorem newRoom_fields {now : Time} {id ownerID : String} {random : List UInt8} {p : NewRoomParams} {room : Room}
    (made : newRoom now id ownerID random p = .ok room) : room.id = id ∧ room.ownerID = ownerID ∧ room.memberCount = 0 := by
  simp only [newRoom] at made
  split at made
  · cases made
  split at made
  · cases made
  · cases made
    exact ⟨rfl, rfl, rfl⟩

theorem createRoomBody_ok {room : Room} {value : Unit} (owner : room.ownerID = subject.userID)
    (executed : (createRoomBody env subject room).exec store = (.ok value, after)) : Created env room store after := by
  obtain ⟨_, inserted, created, rest⟩ := Program.exec_bind_ok executed
  obtain ⟨fresh, newRooms, oldMembers, oldInvites⟩ := roomCreate_ok created
  obtain ⟨_, occupied, seated, rest⟩ := Program.exec_bind_ok rest
  obtain ⟨sameRooms, ⟨joinedAt, newMembers⟩, sameInvites⟩ := memberUpsert_ok seated
  obtain ⟨_, counted, incremented, rest⟩ := Program.exec_bind_ok rest
  obtain ⟨counts, sameMembers, laterInvites⟩ := increment_ok incremented
  obtain ⟨_, opened, issued, rest⟩ := Program.exec_bind_ok rest
  obtain ⟨unused, lastRooms, lastMembers, newInvites⟩ := issueInvite_ok issued
  have same := outboxAppend_ok rest
  have rooms : Tables.room after = Function.update (Tables.room store) room.id (some (Tables.countedRoom room 1)) := by
    rw [same.rooms, lastRooms, counts, sameRooms, newRooms, Function.update_self, Function.update_idem]
    rfl
  have members : Tables.member after = seat (Tables.member store) room.id room.ownerID
      (some ⟨room.id, room.ownerID, roleOwner, joinedAt⟩) := by
    rw [same.members, lastMembers, sameMembers, newMembers, oldMembers, owner]
    rfl
  have invites : Tables.invite counted = Tables.invite store := laterInvites.trans (sameInvites.trans oldInvites)
  refine ⟨fresh, elsewhere_of_update rooms members, ?_, ⟨joinedAt, ?_⟩, fun asked => ?_, fun code => ?_⟩
  · rw [rooms, Function.update_self]
  · rw [members, seat_same]
  · rw [← invites]
    exact unused asked
  · rw [same.invites, newInvites, invites]

theorem createRoom_cases (env : Env) (subject : Subject) (req : CreateRoomRequest) (store : Store database) :
    (∃ err, createRoom env subject req store = (.error err, store)) ∨
      ∃ room message after, newRoom (env.now 0) (env.idgen 0) subject.userID env.slugBytes req.params = .ok room ∧
        createRoom env subject req store = (.ok message, after) ∧ Created env room store after := by
  unfold createRoom
  split
  · split
    · exact Or.inl ⟨_, rfl⟩
    next room made =>
      rcases Program.withTx_cases (createRoomBody env subject room) store with ⟨_, same⟩ | ⟨_, after, same, executed⟩
      · rw [same]
        exact Or.inl ⟨_, rfl⟩
      · rw [same]
        exact Or.inr ⟨room, _, after, made, rfl, createRoomBody_ok (newRoom_fields made).2.1 executed⟩
  · exact Or.inl ⟨_, rfl⟩

theorem joinRoomBody_ok {roomID inviteCode : String} {value : Room × RoomRole}
    (executed : (joinRoomBody env subject roomID inviteCode).exec store = (.ok value, after)) :
    Same store after ∨ ∃ row, Joined roomID subject.userID row store after := by
  rw [joinRoomBody, exec_roomByID] at executed
  cases found : Tables.room store roomID with
  | none =>
    rw [found] at executed
    cases executed
  | some row =>
    rw [found] at executed
    obtain ⟨_, middle, checked, rest⟩ := Program.exec_bind_ok executed
    cases checkInvite_ok checked
    split at rest
    · cases rest
    rw [exec_memberGet] at rest
    cases known : Tables.member store roomID subject.userID with
    | some existing =>
      rw [known] at rest
      cases rest
      exact Or.inl ⟨rfl, rfl, rfl⟩
    | none =>
      rw [known] at rest
      obtain ⟨_, occupied, seated, rest⟩ := Program.exec_bind_ok rest
      obtain ⟨sameRooms, ⟨joinedAt, newMembers⟩, sameInvites⟩ := memberUpsert_ok seated
      obtain ⟨_, counted, incremented, rest⟩ := Program.exec_bind_ok rest
      obtain ⟨counts, sameMembers, laterInvites⟩ := increment_ok incremented
      obtain ⟨_, last, appended, rest⟩ := Program.exec_bind_ok rest
      have same := outboxAppend_ok appended
      cases rest
      have rooms : Tables.room after = Function.update (Tables.room store) roomID (some (Tables.countedRoom row 1)) := by
        rw [same.rooms, counts, sameRooms, found]
        rfl
      have members : Tables.member after = seat (Tables.member store) roomID subject.userID
          (some ⟨roomID, subject.userID, roleMember, joinedAt⟩) := by
        rw [same.members, sameMembers, newMembers]
        rfl
      refine Or.inr ⟨row, found, known, elsewhere_of_update rooms members, ?_, ⟨joinedAt, ?_⟩, ?_⟩
      · rw [rooms, Function.update_self]
      · rw [members, seat_same]
      · rw [same.invites, laterInvites, sameInvites]

theorem joinRoom_cases (env : Env) (subject : Subject) (roomID inviteCode : String) (store : Store database) :
    Same store (joinRoom env subject roomID inviteCode store).2 ∨
      ∃ row, Joined roomID subject.userID row store (joinRoom env subject roomID inviteCode store).2 := by
  unfold joinRoom
  split
  · split
    · exact Or.inl ⟨rfl, rfl, rfl⟩
    rcases Program.withTx_cases (joinRoomBody env subject roomID inviteCode) store with ⟨_, same⟩ | ⟨_, after, same, executed⟩
    · rw [same]
      exact Or.inl ⟨rfl, rfl, rfl⟩
    · rw [same]
      exact joinRoomBody_ok executed
  · exact Or.inl ⟨rfl, rfl, rfl⟩

theorem removeMember_ok {roomID userID : String} {value : Unit}
    (executed : (removeMember roomID userID).exec store = (.ok value, after)) : Removed roomID userID store after := by
  obtain ⟨_, vacated, deleted, rest⟩ := Program.exec_bind_ok executed
  obtain ⟨sameRooms, newMembers, sameInvites⟩ := memberDelete_ok deleted
  obtain ⟨_, revoked, cleared, rest⟩ := Program.exec_bind_ok rest
  have same := permissionDelete_ok cleared
  obtain ⟨counts, sameMembers, laterInvites⟩ := increment_ok rest
  have rooms : Tables.room after =
      Function.update (Tables.room store) roomID ((Tables.room store roomID).map (Tables.countedRoom · (-1))) := by
    rw [counts, same.rooms, sameRooms]
  have members : Tables.member after = seat (Tables.member store) roomID userID none := by
    rw [sameMembers, same.members, newMembers]
  refine ⟨elsewhere_of_update rooms members, ?_, ?_, ?_⟩
  · rw [rooms, Function.update_self]
  · rw [members, seat_same]
  · rw [laterInvites, same.invites, sameInvites]

theorem leaveRoom_cases (subject : Subject) (roomID : String) (store : Store database) :
    Same store (leaveRoom subject roomID store).2 ∨
      ∃ row, Tables.room store roomID = some row ∧ row.ownerID ≠ subject.userID ∧
        Removed roomID subject.userID store (leaveRoom subject roomID store).2 := by
  unfold leaveRoom
  rcases Program.withTx_cases (leaveRoomBody subject roomID) store with ⟨_, same⟩ | ⟨_, after, same, executed⟩
  · rw [same]
    exact Or.inl ⟨rfl, rfl, rfl⟩
  rw [same]
  rw [leaveRoomBody, exec_roomByID] at executed
  cases found : Tables.room store roomID with
  | none =>
    rw [found] at executed
    cases executed
  | some row =>
    rw [found] at executed
    dsimp only at executed
    split at executed
    · cases executed
    next guest =>
      rw [exec_memberGet] at executed
      split at executed
      · cases executed
        exact Or.inl ⟨rfl, rfl, rfl⟩
      · exact Or.inr ⟨row, rfl, guest, removeMember_ok executed⟩

theorem kickMember_cases (subject : Subject) (roomID targetID : String) (store : Store database) :
    Same store (kickMember subject roomID targetID store).2 ∨
      ∃ byMember target, Tables.member store roomID subject.userID = some byMember ∧
        Tables.member store roomID targetID = some target ∧ canKick byMember.role target.role ∧
        Removed roomID targetID store (kickMember subject roomID targetID store).2 := by
  unfold kickMember
  rcases Program.withTx_cases (kickMemberBody subject roomID targetID) store with ⟨_, same⟩ | ⟨_, after, same, executed⟩
  · rw [same]
    exact Or.inl ⟨rfl, rfl, rfl⟩
  rw [same]
  rw [kickMemberBody, exec_memberGet] at executed
  cases caller : Tables.member store roomID subject.userID with
  | none =>
    rw [caller] at executed
    cases executed
  | some byMember =>
    rw [caller] at executed
    dsimp only at executed
    rw [exec_memberGet] at executed
    cases found : Tables.member store roomID targetID with
    | none =>
      rw [found] at executed
      cases executed
    | some target =>
      rw [found] at executed
      dsimp only at executed
      split at executed
      · next able => exact Or.inr ⟨byMember, target, rfl, rfl, able, removeMember_ok executed⟩
      · cases executed

theorem updateMemberRole_cases (subject : Subject) (roomID targetID : String) (role : RoomRole) (store : Store database) :
    Same store (updateMemberRole subject roomID targetID role store).2 ∨
      ∃ byMember row, Tables.member store roomID subject.userID = some byMember ∧ canPromote byMember.role role ∧
        Promoted roomID targetID role row store (updateMemberRole subject roomID targetID role store).2 := by
  unfold updateMemberRole
  rcases Program.withTx_cases (updateMemberRoleBody subject roomID targetID role) store with
    ⟨_, same⟩ | ⟨_, after, same, executed⟩
  · rw [same]
    exact Or.inl ⟨rfl, rfl, rfl⟩
  rw [same]
  rw [updateMemberRoleBody, exec_memberGet] at executed
  cases caller : Tables.member store roomID subject.userID with
  | none =>
    rw [caller] at executed
    cases executed
  | some byMember =>
    rw [caller] at executed
    dsimp only at executed
    split at executed
    · next able =>
      rw [exec_memberGet] at executed
      cases found : Tables.member store roomID targetID with
      | none =>
        rw [found] at executed
        cases executed
      | some row =>
        rw [found] at executed
        obtain ⟨_, middle, updated, rest⟩ := Program.exec_bind_ok executed
        cases rest
        obtain ⟨sameRooms, newMembers, sameInvites⟩ := memberUpdateRole_ok found updated
        refine Or.inr ⟨byMember, row, rfl, able, found, ⟨fun id _ => by rw [sameRooms], fun id other => ?_⟩, ?_, ?_,
          sameInvites⟩
        · rw [newMembers, seat, Function.update_of_ne other]
        · rw [sameRooms]
        · rw [newMembers, seat_same]
    · cases executed

/-- An update keeps the columns that `Update` does not set. -/
theorem overwrite_apply (req : UpdateRoomRequest) (env : Env) (row : Room) :
    Tables.overwrite row (req.apply env row) = req.apply env row := by
  obtain ⟨name, slug, renamed⟩ := row.renamed_fields env.slugBytes req.name
  simp only [UpdateRoomRequest.apply, Room.applyUpdate, renamed]
  rfl

theorem apply_id (req : UpdateRoomRequest) (env : Env) (row : Room) : (req.apply env row).id = row.id := by
  rw [← overwrite_apply]
  rfl

theorem updateRoom_cases (keyed : Keyed store) (env : Env) (subject : Subject) (req : UpdateRoomRequest) :
    (∃ err, updateRoom env subject req store = (.error err, store)) ∨
      ∃ row message after, updateRoom env subject req store = (.ok message, after) ∧
        Rewritten req.id row (req.apply env row) store after := by
  unfold updateRoom
  rcases Program.withTx_cases (updateRoomBody env subject req) store with ⟨_, same⟩ | ⟨_, after, same, executed⟩
  · rw [same]
    exact Or.inl ⟨_, rfl⟩
  rw [same]
  rw [updateRoomBody, exec_roomByID] at executed
  cases found : Tables.room store req.id with
  | none =>
    rw [found] at executed
    cases executed
  | some row =>
    rw [found] at executed
    obtain ⟨_, middle, checked, rest⟩ := Program.exec_bind_ok executed
    cases requireRoomRole_ok checked
    obtain ⟨_, last, updated, rest⟩ := Program.exec_bind_ok rest
    cases rest
    have key : (req.apply env row).id = req.id := (apply_id req env row).trans (keyed _ _ found)
    obtain ⟨rooms, members, invites⟩ := roomUpdate_ok (by rw [key]; exact found) (apply_id req env row).symm updated
    rw [overwrite_apply, key] at rooms
    refine Or.inr ⟨row, _, after, rfl, found, ⟨fun id other => ?_, fun id _ => by rw [members]⟩, ?_, by rw [members], invites⟩
    · rw [rooms, Function.update_of_ne other]
    · rw [rooms, Function.update_self]

theorem deleteRoom_cases (env : Env) (subject : Subject) (roomID : String) (store : Store database) :
    Same store (deleteRoom env subject roomID store).2 ∨ Deleted roomID store (deleteRoom env subject roomID store).2 := by
  unfold deleteRoom
  rcases Program.withTx_cases (deleteRoomBody env subject roomID) store with ⟨_, same⟩ | ⟨_, after, same, executed⟩
  · rw [same]
    exact Or.inl ⟨rfl, rfl, rfl⟩
  rw [same]
  obtain ⟨_, middle, checked, rest⟩ := Program.exec_bind_ok executed
  cases requireRoomRole_ok checked
  obtain ⟨_, emptied, deleted, rest⟩ := Program.exec_bind_ok rest
  have unchanged := outboxAppend_ok rest
  cases found : Tables.room store roomID with
  | none =>
    obtain ⟨_, ran, written⟩ := Program.exec_query_ok deleted
    cases ran
    simp only [Tables.deleteRoom, found] at written
    cases written
    exact Or.inl unchanged
  | some row =>
    obtain ⟨rooms, members, invites⟩ := roomDelete_ok found deleted
    refine Or.inr ⟨⟨fun id other => ?_, fun id other => ?_⟩, ?_, fun user => ?_, fun code row held other => ?_⟩
    · rw [unchanged.rooms, rooms, Function.update_of_ne other]
    · rw [unchanged.members, members, Function.update_of_ne other]
    · rw [unchanged.rooms, rooms, Function.update_self]
    · rw [unchanged.members, members, Function.update_self]
    · rw [unchanged.invites]
      exact invites code row held other

theorem grantPermissions_cases (subject : Subject) (roomID targetID : String) (permissions : List Int32)
    (store : Store database) :
    (∃ err, grantPermissions subject roomID targetID permissions store = (.error err, store)) ∨
      grantPermissions subject roomID targetID permissions store = (.ok (permissionsFromProto permissions).toProto,
        store.write (Tables.putPermission roomID targetID (permissionsFromProto permissions))) := by
  unfold grantPermissions
  dsimp only
  rcases Program.withTx_cases (grantPermissionsBody subject roomID targetID (permissionsFromProto permissions)) store with
    ⟨_, same⟩ | ⟨_, after, same, executed⟩
  · rw [same]
    exact Or.inl ⟨_, rfl⟩
  rw [same]
  rw [grantPermissionsBody, exec_roomByID] at executed
  split at executed
  · cases executed
  split at executed
  · cases executed
  split at executed
  · cases executed
  rw [exec_memberGet] at executed
  split at executed
  · cases executed
  · rw [permissionSet_ok executed]
    exact Or.inr rfl

end Requests

/-- What one request can do. -/
inductive Moves (env : Env) (store : Store database) : Request → Store database → Prop where
  | same {request after} (unchanged : Same store after) : Moves env store request after
  | created {subject req room after}
      (made : newRoom (env.now 0) (env.idgen 0) subject.userID env.slugBytes req.params = .ok room)
      (effect : Created env room store after) : Moves env store (.createRoom subject req) after
  | joined {subject roomID inviteCode row after} (effect : Joined roomID subject.userID row store after) :
      Moves env store (.joinRoom subject roomID inviteCode) after
  | left {subject roomID row after} (found : Tables.room store roomID = some row) (guest : row.ownerID ≠ subject.userID)
      (effect : Removed roomID subject.userID store after) : Moves env store (.leaveRoom subject roomID) after
  | kicked {subject roomID targetID byMember target after}
      (caller : Tables.member store roomID subject.userID = some byMember)
      (found : Tables.member store roomID targetID = some target) (able : canKick byMember.role target.role)
      (effect : Removed roomID targetID store after) : Moves env store (.kickMember subject roomID targetID) after
  | promoted {subject roomID targetID role byMember row after}
      (caller : Tables.member store roomID subject.userID = some byMember) (able : canPromote byMember.role role)
      (effect : Promoted roomID targetID role row store after) :
      Moves env store (.updateMemberRole subject roomID targetID role) after
  | rewritten {subject req row after} (effect : Rewritten req.id row (req.apply env row) store after) :
      Moves env store (.updateRoom subject req) after
  | deleted {subject roomID after} (effect : Deleted roomID store after) :
      Moves env store (.deleteRoom subject roomID) after

theorem serve_moves {store : Store database} (keyed : Keyed store) (env : Env) (request : Request) :
    Moves env store request (serve store (env, request)) := by
  have idle : Same store store := ⟨rfl, rfl, rfl⟩
  cases request with
  | createRoom subject req =>
    rcases createRoom_cases env subject req store with ⟨_, same⟩ | ⟨room, _, after, made, same, effect⟩
    · simp only [serve, same]
      exact .same idle
    · simp only [serve, same]
      exact .created made effect
  | joinRoom subject roomID inviteCode =>
    rcases joinRoom_cases env subject roomID inviteCode store with same | ⟨row, effect⟩
    · exact .same same
    · exact .joined effect
  | updateRoom subject req =>
    rcases updateRoom_cases keyed env subject req with ⟨_, same⟩ | ⟨row, _, after, same, effect⟩
    · simp only [serve, same]
      exact .same idle
    · simp only [serve, same]
      exact .rewritten effect
  | deleteRoom subject roomID =>
    rcases deleteRoom_cases env subject roomID store with same | effect
    · exact .same same
    · exact .deleted effect
  | leaveRoom subject roomID =>
    rcases leaveRoom_cases subject roomID store with same | ⟨row, found, guest, effect⟩
    · exact .same same
    · exact .left found guest effect
  | kickMember subject roomID targetID =>
    rcases kickMember_cases subject roomID targetID store with same | ⟨byMember, target, caller, found, able, effect⟩
    · exact .same same
    · exact .kicked caller found able effect
  | updateMemberRole subject roomID targetID role =>
    rcases updateMemberRole_cases subject roomID targetID role store with same | ⟨byMember, row, caller, able, effect⟩
    · exact .same same
    · exact .promoted caller able effect
  | grantPermissions subject roomID targetID permissions =>
    rcases grantPermissions_cases subject roomID targetID permissions store with ⟨_, same⟩ | same
    · simp only [serve, same]
      exact .same idle
    · simp only [serve, same]
      exact .same ⟨rfl, rfl, rfl⟩

/-! Where a room comes from, and what becomes of an invite. -/

section Origin
variable {env : Env} {store after : Store database} {request : Request}

theorem counted_zero (row : Room) : Tables.countedRoom row 0 = row := by
  simp [Tables.countedRoom]

/-- A room that was there before, up to its counter. -/
def Stood (store : Store database) (id : String) (row : Room) : Prop :=
  ∃ old delta, Tables.room store id = some old ∧ row = Tables.countedRoom old delta

theorem Stood.of_same {id : String} {row : Room} (found : Tables.room store id = some row) : Stood store id row :=
  ⟨row, 0, found, (counted_zero row).symm⟩

theorem Stood.of_elsewhere {roomID id : String} {row : Room} (elsewhere : Elsewhere roomID store after) (other : id ≠ roomID)
    (found : Tables.room after id = some row) : Stood store id row := by
  rw [elsewhere.rooms id other] at found
  exact Stood.of_same found

theorem Removed.stood {roomID userID id : String} {row : Room} (effect : Removed roomID userID store after)
    (found : Tables.room after id = some row) : Stood store id row := by
  by_cases here : id = roomID
  · rw [here, effect.here] at found
    obtain ⟨old, there, same⟩ := Option.map_eq_some_iff.mp found
    rw [here]
    exact ⟨old, -1, there, same.symm⟩
  · exact Stood.of_elsewhere effect.elsewhere here found

/-- A room that a request leaves was there before, up to its counter, or was
just created or updated. -/
theorem Moves.origin (moves : Moves env store request after) {id : String} {row : Room}
    (found : Tables.room after id = some row) :
    Stood store id row ∨
      (∃ subject req room, request = .createRoom subject req ∧
        newRoom (env.now 0) (env.idgen 0) subject.userID env.slugBytes req.params = .ok room ∧
        Created env room store after ∧ id = room.id ∧ row = Tables.countedRoom room 1) ∨
      ∃ subject req old, request = .updateRoom subject req ∧ Rewritten req.id old (req.apply env old) store after ∧
        id = req.id ∧ row = req.apply env old := by
  cases moves with
  | same unchanged =>
    rw [unchanged.rooms] at found
    exact Or.inl (Stood.of_same found)
  | @created subject req room _ made effect =>
    by_cases here : id = room.id
    · rw [here, effect.here] at found
      cases found
      exact Or.inr (Or.inl ⟨subject, req, room, rfl, made, effect, here, rfl⟩)
    · exact Or.inl (Stood.of_elsewhere effect.elsewhere here found)
  | @joined subject roomID inviteCode old _ effect =>
    by_cases here : id = roomID
    · rw [here, effect.here] at found
      cases found
      rw [here]
      exact Or.inl ⟨old, 1, effect.found, rfl⟩
    · exact Or.inl (Stood.of_elsewhere effect.elsewhere here found)
  | left _ guest effect => exact Or.inl (effect.stood found)
  | kicked caller _ able effect => exact Or.inl (effect.stood found)
  | @promoted subject roomID targetID role byMember target _ caller able effect =>
    by_cases here : id = roomID
    · rw [here, effect.here] at found
      rw [here]
      exact Or.inl (Stood.of_same found)
    · exact Or.inl (Stood.of_elsewhere effect.elsewhere here found)
  | @rewritten subject req old _ effect =>
    by_cases here : id = req.id
    · rw [here, effect.here] at found
      cases found
      exact Or.inr (Or.inr ⟨subject, req, old, rfl, effect, here, rfl⟩)
    · exact Or.inl (Stood.of_elsewhere effect.elsewhere here found)
  | @deleted subject roomID _ effect =>
    by_cases here : id = roomID
    · rw [here, effect.here] at found
      cases found
    · exact Or.inl (Stood.of_elsewhere effect.elsewhere here found)

/-- An invite stays as long as its room. -/
theorem Moves.invite (moves : Moves env store request after) {code : String} {row : Invite}
    (held : Tables.invite store code = some row) (there : (Tables.room after row.roomID).isSome) :
    Tables.invite after code = some row := by
  cases moves with
  | same unchanged => rwa [unchanged.invites]
  | created made effect =>
    rw [effect.invites, if_neg]
    · exact held
    · intro new
      rw [new.2, effect.unused new.1] at held
      cases held
  | joined effect => rwa [effect.invites]
  | left found guest effect => rwa [effect.invites]
  | kicked caller found able effect => rwa [effect.invites]
  | promoted caller able effect => rwa [effect.invites]
  | rewritten effect => rwa [effect.invites]
  | deleted effect =>
    apply effect.invites code row held
    intro gone
    rw [gone, effect.here] at there
    cases there

end Origin

/-- Fixed draws for concrete runs. -/
def draws (ids : List String) : Env :=
  { now := fun _ => 0, databaseNow := 0, idgen := fun n => ids.getD n "", slugBytes := [0, 1, 2, 3, 4, 5],
    inviteCode := "code", rfc3339 := fun _ => "1970-01-01T00:00:00Z" }

end VibeSync.Proofs.RoomSteps
