import VibeSync.Proofs.RoomOwnership
import VibeSync.Proofs.RoomValidity
import VibeSync.Proofs.TransactionLogic

/-! Where the rows of the Room service come from: who owns a room, who holds a
permission in it, and what is told about its creation. -/

namespace VibeSync.Proofs.RoomProvenance
open VibeSync.Rooms Transaction VibeSync.Proofs.RoomTables VibeSync.Proofs.RoomSteps

def roomCreated : String := "room.created.v1"

/-- No permission is granted, and no creation is told but those of `births`. -/
structure Ordinary (births : Outbox.Row → Prop) (written : Writes database) : Prop where
  grants : ∀ roomID userID bits, written (.permission roomID userID) ≠ some (some bits)
  tells : ∀ id row, written (.outbox id) = some (some row) → row.event.topic = roomCreated → births row

namespace Ordinary
variable {births : Outbox.Row → Prop} {first second : Writes database}

theorem silent {written : Writes database} (grants : ∀ roomID userID bits, written (.permission roomID userID) ≠ some (some bits))
    (outbox : ∀ id, written (.outbox id) = none) : Ordinary births written :=
  ⟨grants, fun id row wrote => by rw [outbox id] at wrote; cases wrote⟩

theorem empty : Ordinary births Writes.empty := silent (fun _ _ _ => unwritten) fun _ => rfl

theorem andThen (left : Ordinary births first) (right : Ordinary births second) : Ordinary births (first.andThen second) := by
  refine ⟨fun roomID userID bits wrote => ?_, fun id row wrote => ?_⟩
  · rcases Option.or_eq_some_iff.mp wrote with new | ⟨_, old⟩
    · exact right.grants roomID userID bits new
    · exact left.grants roomID userID bits old
  · rcases Option.or_eq_some_iff.mp wrote with new | ⟨_, old⟩
    · exact right.tells id row new
    · exact left.tells id row old

end Ordinary

/-- The statements that grant nothing and tell no creation but those of `births`. -/
def Quiet (births : Outbox.Row → Prop) : Statement → Prop
  | .permissionSet _ _ _ => False
  | .outboxInsert event => event.topic = roomCreated → births event.row
  | _ => True

theorem ordinary_of_quiet {births : Outbox.Row → Prop} {sql : Statement} (quiet : Quiet births sql) {view : View} {reply : Reply sql}
    {written : Changes} (executed : Tables.execute sql view = .ok (reply, written)) : Ordinary births written := by
  cases sql with
  | roomCreate room =>
    obtain ⟨_, rfl⟩ := insertRoom_ok executed
    exact .silent (fun _ _ _ => unwritten) fun _ => rfl
  | roomUpdate given =>
    rcases updateRoom_ok executed with ⟨_, rfl⟩ | ⟨_, _, rfl⟩ <;> exact .silent (fun _ _ _ => unwritten) fun _ => rfl
  | roomDelete id =>
    cases executed
    cases found : Tables.room view id with
    | none =>
      rw [Tables.deleteRoom, found]
      exact .empty
    | some row =>
      refine .silent (fun roomID userID bits => ?_) fun other => ?_
      · simp only [Tables.deleteRoom, found]
        split
        · cases Tables.permission view roomID userID <;> intro wrote <;> cases wrote
        · exact unwritten
      · simp only [Tables.deleteRoom, found]
  | memberUpsert given =>
    obtain ⟨_, _, rfl⟩ := upsertMember_ok executed
    exact .silent (fun _ _ _ => unwritten) fun _ => rfl
  | incrementRoomMemberCount roomID delta =>
    rcases incrementCount_ok executed with ⟨_, rfl⟩ | ⟨_, _, rfl⟩ <;> exact .silent (fun _ _ _ => unwritten) fun _ => rfl
  | inviteCreate code roomID expiresAt =>
    obtain ⟨_, rfl⟩ := insertInvite_ok executed
    exact .silent (fun _ _ _ => unwritten) fun _ => rfl
  | permissionSet => exact quiet.elim
  | permissionDelete roomID userID =>
    cases executed
    refine .silent (fun room user bits => ?_) fun _ => rfl
    simp only [Tables.deletePermission]
    split
    · cases Tables.permission view room user <;> intro wrote <;> cases wrote
    · exact unwritten
  | outboxInsert event =>
    obtain rfl := insertOutbox_ok executed
    refine ⟨fun _ _ _ => unwritten, fun id row wrote told => ?_⟩
    simp only [Tables.putOutbox] at wrote
    split at wrote
    · obtain rfl := Option.some.inj (Option.some.inj wrote)
      exact quiet told
    · cases wrote
  | _ =>
    cases executed
    exact .silent (fun _ _ _ => unwritten) fun _ => rfl

section Bodies
variable {births : Outbox.Row → Prop}

theorem quiet_within {sql : Statement} (quiet : Quiet births sql) {failed : Err → Err} :
    (@Program.query database Err sql failed).Within (Ordinary births) :=
  ⟨fun _ _ _ executed => ordinary_of_quiet quiet executed, fun _ => trivial⟩

theorem outboxAppend_within {event : Outbox.Event} (quiet : event.topic = roomCreated → births event.row) :
    (Repo.outboxAppend event).Within (Ordinary births) := by
  unfold Repo.outboxAppend
  split
  · trivial
  · exact @quiet_within births (.outboxInsert event) quiet _

theorem requireRoomRole_within (roomID : String) (subject : Subject) (minRole : RoomRole) :
    (requireRoomRole roomID subject minRole).Within (Ordinary births) := by
  unfold requireRoomRole
  split
  · trivial
  refine Program.Within.bind (quiet_within (by trivial)) fun member => ?_
  cases member with
  | none => trivial
  | some member =>
    dsimp only
    split <;> trivial

theorem removeMember_within (roomID userID : String) : (removeMember roomID userID).Within (Ordinary births) :=
  Program.Within.bind (quiet_within (by trivial)) fun _ => Program.Within.bind (quiet_within (by trivial)) fun _ =>
    quiet_within (by trivial)

theorem createRoomBody_within (env : Env) (subject : Subject) (room : Room) :
    (createRoomBody env subject room).Within (Ordinary (· = (createdEvent env room).row)) := by
  refine Program.Within.bind (quiet_within (by trivial)) fun _ => Program.Within.bind (quiet_within (by trivial)) fun _ =>
    Program.Within.bind (quiet_within (by trivial)) fun _ => Program.Within.bind ?_ fun _ => outboxAppend_within fun _ => rfl
  unfold issueInvite
  split
  · exact quiet_within (by trivial)
  · trivial

theorem checkInvite_within (env : Env) (room : Room) (roomID inviteCode : String) :
    (checkInvite env room roomID inviteCode).Within (Ordinary births) := by
  unfold checkInvite
  split
  · split
    · trivial
    refine Program.Within.bind (quiet_within (by trivial)) fun code => ?_
    cases code with
    | none => trivial
    | some room =>
      dsimp only
      split <;> trivial
  · trivial

theorem joinRoomBody_within (env : Env) (subject : Subject) (roomID inviteCode : String) :
    (joinRoomBody env subject roomID inviteCode).Within (Ordinary births) := by
  refine Program.Within.bind (quiet_within (by trivial)) fun found => ?_
  cases found with
  | none => trivial
  | some room =>
    refine Program.Within.bind (checkInvite_within ..) fun _ => ?_
    split
    · trivial
    refine Program.Within.bind (quiet_within (by trivial)) fun existing => ?_
    cases existing with
    | some existing => trivial
    | none =>
      refine Program.Within.bind (quiet_within (by trivial)) fun _ => Program.Within.bind (quiet_within (by trivial)) fun _ =>
        Program.Within.bind (outboxAppend_within fun told => ?_) fun _ => trivial
      exact absurd told (by decide : "room.joined.v1" ≠ roomCreated)

theorem updateRoomBody_within (env : Env) (subject : Subject) (req : UpdateRoomRequest) :
    (updateRoomBody env subject req).Within (Ordinary births) := by
  refine Program.Within.bind (quiet_within (by trivial)) fun found => ?_
  cases found with
  | none => trivial
  | some room =>
    exact Program.Within.bind (requireRoomRole_within ..) fun _ => Program.Within.bind (quiet_within (by trivial)) fun _ => trivial

theorem deleteRoomBody_within (env : Env) (subject : Subject) (roomID : String) :
    (deleteRoomBody env subject roomID).Within (Ordinary births) :=
  Program.Within.bind (requireRoomRole_within ..) fun _ => Program.Within.bind (quiet_within (by trivial)) fun _ =>
    outboxAppend_within fun told => absurd told (by decide : "room.deleted.v1" ≠ roomCreated)

theorem leaveRoomBody_within (subject : Subject) (roomID : String) : (leaveRoomBody subject roomID).Within (Ordinary births) := by
  refine Program.Within.bind (quiet_within (by trivial)) fun found => ?_
  cases found with
  | none => trivial
  | some room =>
    dsimp only
    split
    · trivial
    refine Program.Within.bind (quiet_within (by trivial)) fun member => ?_
    cases member with
    | none => trivial
    | some member => exact removeMember_within ..

theorem kickMemberBody_within (subject : Subject) (roomID targetID : String) :
    (kickMemberBody subject roomID targetID).Within (Ordinary births) := by
  refine Program.Within.bind (quiet_within (by trivial)) fun caller => ?_
  cases caller with
  | none => trivial
  | some caller =>
    refine Program.Within.bind (quiet_within (by trivial)) fun target => ?_
    cases target with
    | none => trivial
    | some target =>
      dsimp only
      split
      · exact removeMember_within ..
      · trivial

theorem updateMemberRoleBody_within (subject : Subject) (roomID targetID : String) (role : RoomRole) :
    (updateMemberRoleBody subject roomID targetID role).Within (Ordinary births) := by
  refine Program.Within.bind (quiet_within (by trivial)) fun caller => ?_
  cases caller with
  | none => trivial
  | some caller =>
    dsimp only
    split
    · refine Program.Within.bind (quiet_within (by trivial)) fun target => ?_
      cases target with
      | none => trivial
      | some target => exact Program.Within.bind (quiet_within (by trivial)) fun _ => trivial
    · trivial

end Bodies

/-! The store after a request is the one that its transaction leaves. -/

section Transactions
variable (env : Env) (subject : Subject) (store : Store database) (roomID targetID : String)

theorem updateRoom_store (req : UpdateRoomRequest) :
    (updateRoom env subject req store).2 = ((updateRoomBody env subject req).withTx store).2 := by
  unfold updateRoom
  split
  next same => rw [same]
  next same => rw [same]

theorem leaveRoom_store : (leaveRoom subject roomID store).2 = ((leaveRoomBody subject roomID).withTx store).2 := by
  unfold leaveRoom
  split
  next same => rw [same]
  next same => rw [same]

theorem kickMember_store :
    (kickMember subject roomID targetID store).2 = ((kickMemberBody subject roomID targetID).withTx store).2 := by
  unfold kickMember
  split
  next same => rw [same]
  next same => rw [same]

theorem grantPermissions_store (permissions : List Int32) :
    (grantPermissions subject roomID targetID permissions store).2 =
      ((grantPermissionsBody subject roomID targetID (permissionsFromProto permissions)).withTx store).2 := by
  unfold grantPermissions
  dsimp only
  split
  next same => rw [same]
  next same => rw [same]

theorem joinRoom_store (inviteCode : String) :
    (joinRoom env subject roomID inviteCode store).2 = store ∨
      (joinRoom env subject roomID inviteCode store).2 = ((joinRoomBody env subject roomID inviteCode).withTx store).2 := by
  unfold joinRoom
  split
  · split
    · exact Or.inl rfl
    · right
      split
      next same => rw [same]
      next same => rw [same]
  · exact Or.inl rfl

theorem createRoom_store (req : CreateRoomRequest) :
    (createRoom env subject req store).2 = store ∨
      ∃ room, newRoom (env.now 0) (env.idgen 0) subject.userID env.slugBytes req.params = .ok room ∧
        (createRoom env subject req store).2 = ((createRoomBody env subject room).withTx store).2 := by
  unfold createRoom
  split
  · split
    · exact Or.inl rfl
    next room made =>
      refine Or.inr ⟨room, made, ?_⟩
      split
      next same => rw [same]
      next same => rw [same]
  · exact Or.inl rfl

end Transactions

/-- What one request adds to the permissions and the outbox. -/
inductive Adds (env : Env) (store : Store database) : Request → Store database → Prop where
  | nothing {request : Request} {written : Writes database} (ordinary : Ordinary (fun _ => False) written) :
      Adds env store request (store.write written)
  | room {subject : Subject} {req : CreateRoomRequest} {room : Room} {written : Writes database}
      (made : newRoom (env.now 0) (env.idgen 0) subject.userID env.slugBytes req.params = .ok room)
      (created : (createRoom env subject req store).1.isOk = true)
      (ordinary : Ordinary (· = (createdEvent env room).row) written) : Adds env store (.createRoom subject req) (store.write written)
  | permission {subject : Subject} {roomID targetID : String} {permissions : List Int32} {row : Room}
      (found : Tables.room store roomID = some row) (owner : row.ownerID = subject.userID)
      (granted : (grantPermissions subject roomID targetID permissions store).1.isOk = true) :
      Adds env store (.grantPermissions subject roomID targetID permissions)
        (store.write (Tables.putPermission roomID targetID (permissionsFromProto permissions)))

theorem adds_idle {env : Env} {store : Store database} {request : Request} : Adds env store request store :=
  .nothing Ordinary.empty

theorem adds_withTx {α : Type} {env : Env} {store : Store database} {request : Request} {program : Tx α}
    (within : program.Within (Ordinary fun _ => False)) : Adds env store request (program.withTx store).2 := by
  obtain ⟨written, ordinary, same⟩ := within.withTx Ordinary.empty (fun _ _ => Ordinary.andThen) store
  rw [same]
  exact .nothing ordinary

theorem createRoom_adds (env : Env) (subject : Subject) (req : CreateRoomRequest) (store : Store database) :
    Adds env store (.createRoom subject req) (createRoom env subject req store).2 := by
  rcases createRoom_cases env subject req store with ⟨_, failed⟩ | ⟨_, _, _, _, done, _⟩
  · rw [failed]
    exact adds_idle
  have created : (createRoom env subject req store).1.isOk = true := by
    rw [done]
    rfl
  rcases createRoom_store env subject store req with same | ⟨room, made, same⟩
  · rw [same]
    exact adds_idle
  · obtain ⟨written, ordinary, wrote⟩ :=
      (createRoomBody_within env subject room).withTx Ordinary.empty (fun _ _ => Ordinary.andThen) store
    rw [same, wrote]
    exact .room made created ordinary

theorem joinRoom_adds (env : Env) (subject : Subject) (roomID inviteCode : String) (store : Store database) :
    Adds env store (.joinRoom subject roomID inviteCode) (joinRoom env subject roomID inviteCode store).2 := by
  rcases joinRoom_store env subject store roomID inviteCode with same | same
  · rw [same]
    exact adds_idle
  · rw [same]
    exact adds_withTx (joinRoomBody_within env subject roomID inviteCode)

theorem grantPermissions_adds (env : Env) (subject : Subject) (roomID targetID : String) (permissions : List Int32)
    (store : Store database) :
    Adds env store (.grantPermissions subject roomID targetID permissions)
      (grantPermissions subject roomID targetID permissions store).2 := by
  rcases Program.withTx_cases (grantPermissionsBody subject roomID targetID (permissionsFromProto permissions)) store with
    ⟨_, failed⟩ | ⟨_, after, done, executed⟩
  · rw [grantPermissions, failed]
    exact adds_idle
  have granted : (grantPermissions subject roomID targetID permissions store).1.isOk = true := by
    rw [grantPermissions, done]
    rfl
  rw [show (grantPermissions subject roomID targetID permissions store).2 = after by rw [grantPermissions, done]]
  rw [grantPermissionsBody, exec_roomByID] at executed
  split at executed
  · cases executed
  next row found =>
    split at executed
    · cases executed
    next owner =>
      split at executed
      · cases executed
      rw [exec_memberGet] at executed
      split at executed
      · cases executed
      · rw [permissionSet_ok executed]
        exact .permission found (not_not.mp owner) granted

theorem serve_adds (env : Env) (request : Request) (store : Store database) :
    Adds env store request (serve store (env, request)) := by
  cases request with
  | createRoom subject req => exact createRoom_adds env subject req store
  | joinRoom subject roomID inviteCode => exact joinRoom_adds env subject roomID inviteCode store
  | updateRoom subject req =>
    rw [serve, updateRoom_store]
    exact adds_withTx (updateRoomBody_within env subject req)
  | deleteRoom subject roomID => exact adds_withTx (deleteRoomBody_within env subject roomID)
  | leaveRoom subject roomID =>
    rw [serve, leaveRoom_store]
    exact adds_withTx (leaveRoomBody_within subject roomID)
  | kickMember subject roomID targetID =>
    rw [serve, kickMember_store]
    exact adds_withTx (kickMemberBody_within subject roomID targetID)
  | updateMemberRole subject roomID targetID role => exact adds_withTx (updateMemberRoleBody_within subject roomID targetID role)
  | grantPermissions subject roomID targetID permissions => exact grantPermissions_adds env subject roomID targetID permissions store

/-! Where a row was written. -/

section Origin
variable {env : Env} {store after : Store database} {request : Request}

/-- A permission was there before, or the owner of the room has just granted it. -/
theorem Adds.permission_origin (adds : Adds env store request after) {roomID userID : String} {bits : Int16}
    (found : Tables.permission after roomID userID = some bits) :
    Tables.permission store roomID userID = some bits ∨
      ∃ subject permissions row, request = .grantPermissions subject roomID userID permissions ∧
        (grantPermissions subject roomID userID permissions store).1.isOk = true ∧ Tables.room store roomID = some row ∧
        row.ownerID = subject.userID ∧ bits = (permissionsFromProto permissions).toInt16 := by
  have old : ∀ {births written}, Ordinary births written →
      Tables.permission (store.write written) roomID userID = some bits → Tables.permission store roomID userID = some bits := by
    intro births written ordinary found
    exact (Store.write_origin found).resolve_left (ordinary.grants roomID userID bits)
  cases adds with
  | nothing ordinary => exact Or.inl (old ordinary found)
  | room _ _ ordinary => exact Or.inl (old ordinary found)
  | @permission subject asked targetID permissions row there owner granted =>
    rw [permission_write, Tables.putPermission] at found
    split at found
    next here =>
      obtain ⟨rfl, rfl⟩ := here
      exact Or.inr ⟨subject, permissions, row, rfl, granted, there, owner, (Option.some.inj found).symm⟩
    · exact Or.inl found

/-- What the outbox tells of a creation was told before, or the room has just been created. -/
theorem Adds.outbox_origin (adds : Adds env store request after) {id : String} {row : Outbox.Row}
    (found : after (.outbox id) = some row) (told : row.event.topic = roomCreated) :
    store (.outbox id) = some row ∨
      ∃ subject req room, request = .createRoom subject req ∧ (createRoom env subject req store).1.isOk = true ∧
        newRoom (env.now 0) (env.idgen 0) subject.userID env.slugBytes req.params = .ok room ∧ row = (createdEvent env room).row := by
  have old : ∀ {births written}, Ordinary births written → store.write written (.outbox id) = some row →
      store (.outbox id) = some row ∨ births row := by
    intro births written ordinary found
    exact (Store.write_origin found).symm.imp_right fun wrote => ordinary.tells id row wrote told
  cases adds with
  | nothing ordinary => exact (old ordinary found).imp_right False.elim
  | room made created ordinary => exact (old ordinary found).imp_right fun same => ⟨_, _, _, rfl, created, made, same⟩
  | permission => exact Or.inl found

/-- A room was there before with the same owner, or has just been created. -/
theorem room_origin (keyed : Keyed store) {id : String} {row : Room} (found : Tables.room (serve store (env, request)) id = some row) :
    (∃ old, Tables.room store id = some old ∧ old.ownerID = row.ownerID) ∨
      ∃ subject req, request = .createRoom subject req ∧ (createRoom env subject req store).1.isOk = true ∧ env.idgen 0 = id ∧
        subject.userID = row.ownerID := by
  rcases (serve_moves keyed env request).origin found with
    ⟨old, delta, there, same⟩ | ⟨subject, req, room, rfl, made, effect, here, same⟩ | ⟨_, req, old, _, effect, here, same⟩
  · exact Or.inl ⟨old, there, by rw [same]; rfl⟩
  · refine Or.inr ⟨subject, req, rfl, ?_, ?_, ?_⟩
    · rcases createRoom_cases env subject req store with ⟨_, failed⟩ | ⟨_, _, _, _, done, _⟩
      · have fresh := effect.here
        rw [serve, failed] at fresh
        rw [effect.fresh] at fresh
        cases fresh
      · rw [done]
        rfl
    · rw [here, (newRoom_fields made).1]
    · rw [same]
      exact (newRoom_fields made).2.1.symm
  · rw [here]
    exact Or.inl ⟨old, effect.found, by rw [same, RoomOwnership.apply_ownerID]⟩

end Origin

end VibeSync.Proofs.RoomProvenance
