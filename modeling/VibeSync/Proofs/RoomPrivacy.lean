import VibeSync.Machine
import VibeSync.Proofs.RoomSteps
import VibeSync.Proofs.TransactionPairs
import VibeSync.Rooms.Reads

/-! A private room and those outside of it. Whatever a number of outsiders ask of
the service, they cannot change the room, and the answers they get are those that
any other private room in its place would have given them. -/

namespace VibeSync.Proofs.RoomPrivacy
open VibeSync.Rooms Transaction VibeSync.Proofs.RoomTables VibeSync.Proofs.RoomSteps

/-! A dialogue with the service. -/

inductive Call where
  | request (env : Env) (request : Request)
  | getRoom (subject : Subject) (lookup : Lookup)
  | listRooms (catalogue : Catalogue) (subject : Subject) (page : Option PageRequest) (search : String)
  | getMembers (scan : List String) (subject : Subject) (roomID : String)
  | getMemberPermissions (roomID userID : String)

inductive Answer where
  | room (result : Except Err RoomMessage)
  | joined (result : Except Err (RoomMessage × RoomRole))
  | unit (result : Except Err Unit)
  | flag (result : Except Err Bool)
  | member (result : Except Err Member)
  | grants (result : Except Err (List Int32))
  | rooms (response : ListRoomsResponse)
  | members (result : Except Err (List MemberMessage))
  | permissions (result : Except Err GetMemberPermissionsResponse)

def respond (store : Store database) : Call → Answer × Store database
  | .request env (.createRoom subject req) => (createRoom env subject req store).map .room id
  | .request env (.joinRoom subject roomID inviteCode) => (joinRoom env subject roomID inviteCode store).map .joined id
  | .request env (.updateRoom subject req) => (updateRoom env subject req store).map .room id
  | .request env (.deleteRoom subject roomID) => (deleteRoom env subject roomID store).map .unit id
  | .request _ (.leaveRoom subject roomID) => (leaveRoom subject roomID store).map .flag id
  | .request _ (.kickMember subject roomID targetID) => (kickMember subject roomID targetID store).map .flag id
  | .request _ (.updateMemberRole subject roomID targetID role) => (updateMemberRole subject roomID targetID role store).map .member id
  | .request _ (.grantPermissions subject roomID targetID permissions) =>
    (grantPermissions subject roomID targetID permissions store).map .grants id
  | .getRoom subject lookup => (.room (getRoom subject lookup store store), store)
  | .listRooms catalogue subject page search => (.rooms (listRooms catalogue subject page search store), store)
  | .getMembers scan subject roomID => (.members (getMembers scan subject roomID store), store)
  | .getMemberPermissions roomID userID => (.permissions (getMemberPermissions roomID userID store), store)

def step (store : Store database) (call : Call) : Store database := (respond store call).2

/-- The requests do what the service does. -/
theorem step_request (store : Store database) (env : Env) (request : Request) : step store (.request env request) = serve store (env, request) := by
  cases request <;> rfl

def answers (store : Store database) : List Call → List Answer
  | [] => []
  | call :: rest => (respond store call).1 :: answers (step store call) rest

/-! The room, and two stores that differ in it. -/

section Room
variable (roomID : String) (outsiders codes : Set String)

/-- The rows that are the room's own. -/
def Secret : Key → Prop
  | .room id | .member id _ | .permission id _ => id = roomID
  | _ => False

/-- The room is private, and none of the outsiders is in it or owns it. -/
structure Closed (store : Store database) : Prop where
  room : ∃ row, Tables.room store roomID = some row ∧ row.visibility = visibilityPrivate ∧ ∀ user ∈ outsiders, row.ownerID ≠ user
  members : ∀ user ∈ outsiders, Tables.member store roomID user = none

/-- Two stores that differ in nothing but the room. -/
structure Twins (first second : Store database) : Prop where
  same : ∀ key, ¬ Secret roomID key → first key = second key
  left : Closed roomID outsiders first
  right : Closed roomID outsiders second
  keyed : Keyed first ∧ Keyed second
  codes : ∀ code row, Tables.invite first code = some row → row.roomID = roomID → code ∈ codes

/-- The room in the first of them is still as it was, and so are its invites. -/
structure Alike (base first second : Store database) : Prop extends Twins roomID outsiders codes first second where
  kept : ∀ key, Secret roomID key → first key = base key
  invites : ∀ code row, row.roomID = roomID → (Tables.invite first code = some row ↔ Tables.invite base code = some row)

/-- Statements about other rooms. A room that is created is another one. -/
def Clear : Statement → Prop
  | .roomCreate _ | .inviteGet _ _ | .outboxInsert _ => True
  | .roomByID id | .roomDelete id | .memberGet id _ | .memberDelete id _ | .memberUpdateRole id _ _
  | .incrementRoomMemberCount id _ | .inviteCreate _ id _ | .permissionSet id _ _ | .permissionGet id _
  | .permissionDelete id _ => id ≠ roomID
  | .roomUpdate given => given.id ≠ roomID
  | .memberUpsert given => given.roomID ≠ roomID

def Answers : (sql : Statement) → Reply sql → Prop
  | .roomCreate new, _ => new.id ≠ roomID
  | .roomByID id, (reply : Option Rooms.Room) => ∀ row, reply = some row → row.id = id
  | _, _ => True

end Room

section Statements
variable {roomID : String} {outsiders codes : Set String} {base first second : Store database}

theorem Alike.room (alike : Alike roomID outsiders codes base first second) {id : String} (other : id ≠ roomID) :
    Tables.room first id = Tables.room second id := alike.same (.room id) other

theorem Alike.member (alike : Alike roomID outsiders codes base first second) {id : String} (other : id ≠ roomID) (user : String) :
    Tables.member first id user = Tables.member second id user := alike.same (.member id user) other

theorem Alike.permission (alike : Alike roomID outsiders codes base first second) {id : String} (other : id ≠ roomID) (user : String) :
    Tables.permission first id user = Tables.permission second id user := alike.same (.permission id user) other

theorem Alike.invite (alike : Alike roomID outsiders codes base first second) (code : String) :
    Tables.invite first code = Tables.invite second code := alike.same (.invite code) id

theorem Alike.slug (alike : Alike roomID outsiders codes base first second) (slug : String) :
    first (.slug slug) = second (.slug slug) := alike.same (.slug slug) id

/-- A room of any id is in both stores or in neither. -/
theorem Alike.present (alike : Alike roomID outsiders codes base first second) (id : String) :
    (Tables.room first id).isSome = (Tables.room second id).isSome := by
  by_cases here : id = roomID
  · subst here
    obtain ⟨_, found, _⟩ := alike.left.room
    obtain ⟨_, there, _⟩ := alike.right.room
    rw [found, there]
    rfl
  · rw [alike.room here]

theorem deleteRoom_agree (alike : Alike roomID outsiders codes base first second) {id : String} (other : id ≠ roomID) :
    Tables.deleteRoom first id = Tables.deleteRoom second id := by
  unfold Tables.deleteRoom
  rw [alike.room other]
  cases Tables.room second id with
  | none => rfl
  | some row =>
    funext key
    cases key with
    | member room user =>
      dsimp only
      split
      next here => rw [here, alike.member other]
      · rfl
    | permission room user =>
      dsimp only
      split
      next here => rw [here, alike.permission other]
      · rfl
    | invite code =>
      dsimp only
      rw [alike.invite]
    | _ => rfl

/-- Both stores answer the statement alike. -/
theorem execute_agree (alike : Alike roomID outsiders codes base first second) {sql : Statement} (clear : Clear roomID sql) :
    Tables.execute sql first = Tables.execute sql second := by
  cases sql with
  | roomCreate new => simp only [Tables.execute, Tables.insertRoom, alike.present, alike.slug]
  | roomByID id => simp only [Tables.execute, alike.room clear]
  | roomUpdate given => simp only [Tables.execute, Tables.updateRoom, alike.room clear, alike.slug]
  | roomDelete id => simp only [Tables.execute, deleteRoom_agree alike clear]
  | memberUpsert given => simp only [Tables.execute, Tables.upsertMember, alike.room clear, alike.member clear]
  | memberGet id user => simp only [Tables.execute, alike.member clear]
  | memberDelete id user =>
    refine congrArg (fun written => Except.ok ((), written)) (funext fun key => ?_)
    cases key with
    | member room person =>
      simp only [Tables.deleteMember]
      split
      next here => rw [here.1, alike.member clear]
      · rfl
    | _ => rfl
  | memberUpdateRole id user role =>
    refine congrArg (fun written => Except.ok ((), written)) (funext fun key => ?_)
    cases key with
    | member room person =>
      simp only [Tables.updateRole]
      split
      next here => rw [here.1, alike.member clear]
      · rfl
    | _ => rfl
  | incrementRoomMemberCount id delta => simp only [Tables.execute, Tables.incrementCount, alike.room clear]
  | inviteCreate code id expiresAt => simp only [Tables.execute, Tables.insertInvite, alike.invite, alike.room clear]
  | inviteGet code now => simp only [Tables.execute, Tables.getInvite, alike.invite]
  | permissionSet id user perms => simp only [Tables.execute, Tables.setPermission, alike.room clear]
  | permissionGet id user => simp only [Tables.execute, alike.permission clear]
  | permissionDelete id user =>
    refine congrArg (fun written => Except.ok ((), written)) (funext fun key => ?_)
    cases key with
    | permission room person =>
      simp only [Tables.deletePermission]
      split
      next here => rw [here.1, alike.permission clear]
      · rfl
    | _ => rfl
  | outboxInsert event =>
    have same : first (.outbox event.id) = second (.outbox event.id) := alike.same (.outbox event.id) id
    simp only [Tables.execute, Tables.insertOutbox, same]

end Statements

/-- What a statement about other rooms writes. -/
structure Spares (roomID : String) (view : Store database) (written : Changes) : Prop where
  room : written (.room roomID) = none
  members : ∀ user, written (.member roomID user) = none
  permissions : ∀ user, written (.permission roomID user) = none
  keyed : ∀ id row, written (.room id) = some (some row) → row.id = id
  invites : ∀ code row, written (.invite code) = some (some row) → row.roomID ≠ roomID
  codes : ∀ code row, Tables.invite view code = some row → row.roomID = roomID → written (.invite code) = none

section Spares
variable {roomID id : String} {view : Store database}

theorem Spares.secret {written : Changes} (spares : Spares roomID view written) {key : Key} (secret : Secret roomID key) : written key = none := by
  cases key with
  | room id =>
    obtain rfl : id = roomID := secret
    exact spares.room
  | member id user =>
    obtain rfl : id = roomID := secret
    exact spares.members user
  | permission id user =>
    obtain rfl : id = roomID := secret
    exact spares.permissions user
  | _ => exact secret.elim

theorem spares_unchanged (roomID : String) (view : Store database) : Spares roomID view Tables.unchanged :=
  ⟨rfl, fun _ => rfl, fun _ => rfl, fun _ _ => unwritten, fun _ _ => unwritten, fun _ _ _ _ => rfl⟩

/-- A write of one other room. -/
theorem Spares.of_room {written : Changes} {row : Rooms.Room} (other : row.id ≠ roomID)
    (rooms : ∀ key, written (.room key) = if key = row.id then some (some row) else none)
    (members : ∀ key user, written (.member key user) = none) (permissions : ∀ key user, written (.permission key user) = none)
    (invites : ∀ code, written (.invite code) = none) : Spares roomID view written := by
  refine ⟨(rooms roomID).trans (if_neg other.symm), members roomID, permissions roomID, fun key found wrote => ?_,
    fun code _ wrote => ?_, fun code _ _ _ => invites code⟩
  · rw [rooms] at wrote
    split at wrote
    next here =>
      cases wrote
      exact here.symm
    · cases wrote
  · rw [invites] at wrote
    cases wrote

theorem spares_deleteRoom (store : Store database) (other : id ≠ roomID) : Spares roomID store (Tables.deleteRoom store id) := by
  unfold Tables.deleteRoom
  cases Tables.room store id with
  | none => exact spares_unchanged roomID store
  | some row =>
    refine ⟨if_neg other.symm, fun _ => if_neg other.symm, fun _ => if_neg other.symm, ?_, ?_, ?_⟩
    · intro key row written
      dsimp only at written
      split at written <;> cases written
    · intro code row written
      dsimp only at written
      cases found : Tables.invite store code with
      | none =>
        rw [found] at written
        cases written
      | some invite =>
        rw [found] at written
        dsimp only [Option.bind_some] at written
        split at written <;> cases written
    · intro code invite found own
      dsimp only
      rw [found, Option.bind_some, if_neg (own ▸ other.symm)]

theorem execute_spares {store : Store database} (keyed : Keyed store) (present : (Tables.room store roomID).isSome) {sql : Statement}
    (clear : Clear roomID sql) {reply : Reply sql} {written : Changes} (executed : Tables.execute sql store = .ok (reply, written)) :
    Answers roomID sql reply ∧ Spares roomID store written := by
  have elsewhere : ∀ {other user person : String}, other ≠ roomID → ¬ (roomID = other ∧ person = user) :=
    fun other both => other both.1.symm
  cases sql with
  | roomCreate new =>
    obtain ⟨absent, rfl⟩ := insertRoom_ok executed
    have other : new.id ≠ roomID := by
      rintro rfl
      rw [absent] at present
      cases present
    exact ⟨other, .of_room other (fun _ => rfl) (fun _ _ => rfl) (fun _ _ => rfl) fun _ => rfl⟩
  | roomByID id =>
    cases executed
    exact ⟨fun row found => keyed id row found, spares_unchanged roomID store⟩
  | roomUpdate given =>
    refine ⟨trivial, ?_⟩
    rcases updateRoom_ok executed with ⟨_, rfl⟩ | ⟨row, found, rfl⟩
    · exact spares_unchanged roomID store
    · have own : (Tables.overwrite row given).id = given.id := keyed given.id row found
      exact .of_room (own ▸ clear) (fun _ => rfl) (fun _ _ => rfl) (fun _ _ => rfl) fun _ => rfl
  | roomDelete id =>
    cases executed
    exact ⟨trivial, spares_deleteRoom store clear⟩
  | memberUpsert given =>
    obtain ⟨_, joinedAt, rfl⟩ := upsertMember_ok executed
    exact ⟨trivial, rfl, fun _ => if_neg (elsewhere clear), fun _ => rfl, fun _ _ => unwritten, fun _ _ => unwritten,
      fun _ _ _ _ => rfl⟩
  | memberGet id user =>
    cases executed
    exact ⟨trivial, spares_unchanged roomID store⟩
  | memberDelete id user | memberUpdateRole id user role =>
    cases executed
    exact ⟨trivial, rfl, fun _ => if_neg (elsewhere clear), fun _ => rfl, fun _ _ => unwritten, fun _ _ => unwritten,
      fun _ _ _ _ => rfl⟩
  | incrementRoomMemberCount id delta =>
    refine ⟨trivial, ?_⟩
    rcases incrementCount_ok executed with ⟨_, rfl⟩ | ⟨row, found, rfl⟩
    · exact spares_unchanged roomID store
    · have own : (Tables.countedRoom row delta).id = id := keyed id row found
      exact .of_room (own ▸ clear) (fun _ => by rw [own]; rfl) (fun _ _ => rfl) (fun _ _ => rfl) fun _ => rfl
  | inviteCreate code id expiresAt =>
    obtain ⟨unused, rfl⟩ := insertInvite_ok executed
    refine ⟨trivial, rfl, fun _ => rfl, fun _ => rfl, fun _ _ => unwritten, fun key row written => ?_, fun key row found _ => ?_⟩
    · simp only [Tables.putInvite] at written
      split at written
      · cases written
        exact clear
      · cases written
    · refine if_neg ?_
      rintro rfl
      rw [unused] at found
      cases found
  | inviteGet code now =>
    cases executed
    exact ⟨trivial, spares_unchanged roomID store⟩
  | permissionSet id user perms =>
    obtain rfl := setPermission_ok executed
    exact ⟨trivial, rfl, fun _ => rfl, fun _ => if_neg (elsewhere clear), fun _ _ => unwritten, fun _ _ => unwritten,
      fun _ _ _ _ => rfl⟩
  | permissionGet id user =>
    cases executed
    exact ⟨trivial, spares_unchanged roomID store⟩
  | permissionDelete id user =>
    cases executed
    exact ⟨trivial, rfl, fun _ => rfl, fun _ => if_neg (elsewhere clear), fun _ _ => unwritten, fun _ _ => unwritten,
      fun _ _ _ _ => rfl⟩
  | outboxInsert event =>
    obtain rfl := insertOutbox_ok executed
    exact ⟨trivial, rfl, fun _ => rfl, fun _ => rfl, fun _ _ => unwritten, fun _ _ => unwritten,
      fun _ _ _ _ => rfl⟩

end Spares

section Pairs
variable {roomID : String} {outsiders codes : Set String} {base first second : Store database}

theorem Closed.write {store view : Store database} (closed : Closed roomID outsiders store) {written : Changes}
    (spares : Spares roomID view written) :
    Closed roomID outsiders (store.write written) := by
  obtain ⟨row, found, hidden⟩ := closed.room
  refine ⟨⟨row, ?_, hidden⟩, fun user outside => ?_⟩
  · rw [← found]
    exact Store.write_of_none spares.room store
  · rw [← closed.members user outside]
    exact Store.write_of_none (spares.members user) store

theorem Keyed.write {store view : Store database} (keyed : Keyed store) {written : Changes} (spares : Spares roomID view written) :
    Keyed (store.write written) := by
  intro id row found
  rw [room_write] at found
  cases new : written (.room id) with
  | none =>
    rw [new] at found
    exact keyed id row found
  | some written =>
    rw [new, Option.getD_some] at found
    exact spares.keyed id row (new.trans (congrArg some found))

theorem Alike.write (alike : Alike roomID outsiders codes base first second) {written : Changes} (spares : Spares roomID first written) :
    Alike roomID outsiders codes base (first.write written) (second.write written) := by
  have keyed : Keyed (first.write written) ∧ Keyed (second.write written) :=
    ⟨Keyed.write alike.keyed.1 spares, Keyed.write alike.keyed.2 spares⟩
  refine ⟨⟨?_, alike.left.write spares, alike.right.write spares, keyed, ?_⟩, ?_, ?_⟩
  · intro key open_
    simp only [Store.write, alike.same key open_]
  · intro code row found own
    rw [invite_write] at found
    cases new : written (.invite code) with
    | none =>
      rw [new] at found
      exact alike.codes code row found own
    | some written =>
      rw [new, Option.getD_some] at found
      exact absurd own (spares.invites code row (new.trans (congrArg some found)))
  · intro key secret
    rw [Store.write_of_none (spares.secret secret)]
    exact alike.kept key secret
  · intro code row own
    rw [← alike.invites code row own, invite_write]
    cases new : written (.invite code) with
    | none => rfl
    | some value =>
      rw [Option.getD_some]
      constructor
      · rintro rfl
        exact absurd own (spares.invites code row new)
      · intro found
        rw [spares.codes code row found own] at new
        cases new

def pairs (roomID : String) (outsiders codes : Set String) (base : Store database) : Pairs database where
  alike := Alike roomID outsiders codes base
  allowed := Clear roomID
  answers := Answers roomID
  agree _ _ _ alike clear := execute_agree alike clear
  answered first second sql reply written alike clear executed := by
    obtain ⟨row, found, _⟩ := alike.left.room
    have present : (Tables.room first roomID).isSome := by
      rw [found]
      rfl
    obtain ⟨known, spares⟩ := execute_spares alike.keyed.1 present clear executed
    exact ⟨known, alike.write spares⟩

end Pairs

/-! Requests about other rooms. -/

section Elsewhere
variable {roomID : String} {outsiders codes : Set String} {base : Store database} {id : String} (other : id ≠ roomID)
include other

theorem requireRoomRole_confined (subject : Subject) (minRole : RoomRole) :
    (requireRoomRole id subject minRole).Confined (pairs roomID outsiders codes base) := by
  unfold requireRoomRole
  split
  · trivial
  refine Program.Confined.query other fun reply _ => ?_
  split
  · trivial
  · split <;> trivial

omit other in
theorem checkInvite_confined (env : Env) (room : Rooms.Room) (inviteCode : String) :
    (checkInvite env room id inviteCode).Confined (pairs roomID outsiders codes base) := by
  unfold checkInvite
  split
  · split
    · trivial
    refine Program.Confined.query trivial fun reply _ => ?_
    split
    · trivial
    · split <;> trivial
  · trivial

theorem removeMember_confined (userID : String) : (removeMember id userID).Confined (pairs roomID outsiders codes base) :=
  Program.Confined.query other fun _ _ => Program.Confined.query other fun _ _ => Program.Confined.last other

theorem joinRoomBody_confined (env : Env) (subject : Subject) (inviteCode : String) :
    (joinRoomBody env subject id inviteCode).Confined (pairs roomID outsiders codes base) := by
  unfold joinRoomBody
  refine Program.Confined.query other fun reply _ => ?_
  split
  · trivial
  refine Program.Confined.bind (checkInvite_confined env _ inviteCode) fun _ => ?_
  split
  · trivial
  refine Program.Confined.query other fun known _ => ?_
  split
  · trivial
  · exact Program.Confined.query other fun _ _ => Program.Confined.query other fun _ _ => Program.Confined.query trivial fun _ _ => trivial

theorem updateRoomBody_confined {req : UpdateRoomRequest} (env : Env) (subject : Subject) (here : req.id = id) :
    (updateRoomBody env subject req).Confined (pairs roomID outsiders codes base) := by
  subst here
  unfold updateRoomBody
  refine Program.Confined.query other fun (reply : Option Rooms.Room) known => ?_
  cases reply with
  | none => trivial
  | some room =>
    have own : (req.apply env room).id = req.id := (apply_id req env room).trans (known room rfl)
    refine Program.Confined.bind (requireRoomRole_confined other subject roleOwner) fun _ => ?_
    exact Program.Confined.query (own ▸ other : (req.apply env room).id ≠ roomID) fun _ _ => trivial

theorem deleteRoomBody_confined (env : Env) (subject : Subject) :
    (deleteRoomBody env subject id).Confined (pairs roomID outsiders codes base) := by
  refine Program.Confined.bind (requireRoomRole_confined other subject roleOwner) fun _ => ?_
  exact Program.Confined.query other fun _ _ => Program.Confined.last trivial

theorem leaveRoomBody_confined (subject : Subject) : (leaveRoomBody subject id).Confined (pairs roomID outsiders codes base) := by
  unfold leaveRoomBody
  refine Program.Confined.query other fun reply _ => ?_
  split
  · trivial
  split
  · trivial
  refine Program.Confined.query other fun known _ => ?_
  split
  · trivial
  · exact removeMember_confined other subject.userID

theorem kickMemberBody_confined (subject : Subject) (targetID : String) :
    (kickMemberBody subject id targetID).Confined (pairs roomID outsiders codes base) := by
  unfold kickMemberBody
  refine Program.Confined.query other fun byMember _ => ?_
  split
  · trivial
  refine Program.Confined.query other fun target _ => ?_
  split
  · trivial
  split
  · exact removeMember_confined other targetID
  · trivial

theorem updateMemberRoleBody_confined (subject : Subject) (targetID : String) (role : RoomRole) :
    (updateMemberRoleBody subject id targetID role).Confined (pairs roomID outsiders codes base) := by
  unfold updateMemberRoleBody
  refine Program.Confined.query other fun byMember _ => ?_
  split
  · trivial
  split
  · refine Program.Confined.query other fun target _ => ?_
    split
    · trivial
    · exact Program.Confined.query other fun _ _ => trivial
  · trivial

theorem grantPermissionsBody_confined (subject : Subject) (targetID : String) (perms : Permissions) :
    (grantPermissionsBody subject id targetID perms).Confined (pairs roomID outsiders codes base) := by
  unfold grantPermissionsBody
  refine Program.Confined.query other fun reply _ => ?_
  split
  · trivial
  split
  · trivial
  split
  · trivial
  refine Program.Confined.query other fun target _ => ?_
  split
  · trivial
  · exact Program.Confined.last other

end Elsewhere

/-- A room that is created is another one. -/
theorem createRoomBody_confined {roomID : String} {outsiders codes : Set String} {base : Store database} (env : Env) (subject : Subject)
    (room : Rooms.Room) : (createRoomBody env subject room).Confined (pairs roomID outsiders codes base) := by
  unfold createRoomBody
  refine Program.Confined.query trivial fun _ (other : room.id ≠ roomID) => ?_
  refine Program.Confined.query other fun _ _ => Program.Confined.query other fun _ _ => ?_
  refine Program.Confined.bind ?_ fun _ => Program.Confined.last trivial
  unfold issueInvite
  split
  · exact Program.Confined.last other
  · trivial

/-! Requests about the room itself. -/

section Denied
variable {roomID : String} {outsiders : Set String} {store : Store database} {subject : Subject}

/-- A code of another room opens no door. -/
theorem checkInvite_denied {row : Rooms.Room} (hidden : row.visibility = visibilityPrivate) (env : Env) {inviteCode : String}
    (uninvited : ∀ invite, Tables.invite store inviteCode = some invite → invite.roomID ≠ roomID) :
    (checkInvite env row roomID inviteCode).exec store = (.error (.permissionDenied "room.join" ("room:" ++ roomID)), store) := by
  have required : row.requiresInvite = true := by simp [Room.requiresInvite, hidden]
  rw [checkInvite, if_pos required]
  split
  · rfl
  have read : (Repo.inviteGet inviteCode env.databaseNow).exec store = (.ok (Tables.getInvite store inviteCode env.databaseNow), store) := rfl
  rw [Program.exec_bind read]
  cases looked : Tables.getInvite store inviteCode env.databaseNow with
  | none => rfl
  | some other =>
    obtain ⟨invite, found, unexpired⟩ := Option.bind_eq_some_iff.mp looked
    have different : other ≠ roomID := by
      split at unexpired
      · exact Option.some.inj unexpired ▸ uninvited invite found
      · split at unexpired
        · exact Option.some.inj unexpired ▸ uninvited invite found
        · cases unexpired
    dsimp only
    rw [if_neg different]
    rfl

variable (closed : Closed roomID outsiders store) (outside : subject.userID ∈ outsiders)
include closed outside

omit outside in
theorem joinRoom_denied (env : Env) {inviteCode : String}
    (uninvited : ∀ invite, Tables.invite store inviteCode = some invite → invite.roomID ≠ roomID) :
    (joinRoomBody env subject roomID inviteCode).withTx store = (.error (.permissionDenied "room.join" ("room:" ++ roomID)), store) := by
  obtain ⟨row, found, hidden, _⟩ := closed.room
  refine Program.withTx_of_error (?_ : _ = (_, store))
  rw [joinRoomBody, exec_roomByID, found]
  exact Program.exec_bind_error (checkInvite_denied hidden env uninvited)

theorem requireRoomRole_denied (ordinary : ¬ subject.atLeast .administrator) (minRole : RoomRole) :
    (requireRoomRole roomID subject minRole).exec store =
      (.error (.permissionDenied "manage_room" ("room:" ++ roomID)), store) := by
  rw [exec_requireRoomRole, if_neg ordinary, closed.members _ outside]

theorem updateRoom_denied (ordinary : ¬ subject.atLeast .administrator) (env : Env) {req : UpdateRoomRequest} (here : req.id = roomID) :
    (updateRoomBody env subject req).withTx store = (.error (.permissionDenied "manage_room" ("room:" ++ roomID)), store) := by
  obtain ⟨row, found, _⟩ := closed.room
  refine Program.withTx_of_error (?_ : _ = (_, store))
  rw [updateRoomBody, exec_roomByID, here, found]
  exact Program.exec_bind_error (requireRoomRole_denied closed outside ordinary roleOwner)

theorem deleteRoom_denied (ordinary : ¬ subject.atLeast .administrator) (env : Env) :
    (deleteRoomBody env subject roomID).withTx store = (.error (.permissionDenied "manage_room" ("room:" ++ roomID)), store) :=
  Program.withTx_of_error (Program.exec_bind_error (requireRoomRole_denied closed outside ordinary roleOwner))

/-- An outsider who leaves is told so. -/
theorem leaveRoom_idle : (leaveRoomBody subject roomID).withTx store = (.ok (), store) := by
  obtain ⟨row, found, _, foreign⟩ := closed.room
  refine Program.withTx_of_ok ?_
  rw [leaveRoomBody, exec_roomByID, found]
  dsimp only
  rw [if_neg (foreign _ outside), exec_memberGet, closed.members _ outside]
  rfl

theorem kickMember_denied (targetID : String) :
    (kickMemberBody subject roomID targetID).withTx store = (.error (.permissionDenied "kick_member" ("room:" ++ roomID)), store) := by
  refine Program.withTx_of_error (?_ : _ = (_, store))
  rw [kickMemberBody, exec_memberGet, closed.members _ outside]
  rfl

theorem updateMemberRole_denied (targetID : String) (role : RoomRole) : (updateMemberRoleBody subject roomID targetID role).withTx store =
    (.error (.permissionDenied "update_member_role" ("room:" ++ roomID)), store) := by
  refine Program.withTx_of_error (?_ : _ = (_, store))
  rw [updateMemberRoleBody, exec_memberGet, closed.members _ outside]
  rfl

theorem grantPermissions_denied (targetID : String) (perms : Permissions) : (grantPermissionsBody subject roomID targetID perms).withTx store =
    (.error (.permissionDenied "grant_permissions" ("room:" ++ roomID)), store) := by
  obtain ⟨row, found, _, foreign⟩ := closed.room
  refine Program.withTx_of_error (?_ : _ = (_, store))
  rw [grantPermissionsBody, exec_roomByID, found]
  dsimp only
  rw [if_pos (foreign _ outside)]
  rfl

end Denied

/-! Whole calls. -/

def caller : Request → Subject
  | .createRoom subject _ | .joinRoom subject _ _ | .updateRoom subject _ | .deleteRoom subject _ | .leaveRoom subject _
  | .kickMember subject _ _ | .updateMemberRole subject _ _ _ | .grantPermissions subject _ _ _ => subject

/-- The call is an outsider's, who joins with no code of the room. `GetMemberPermissions`
asks no one who they are. -/
def Outside (roomID : String) (outsiders codes : Set String) : Call → Prop
  | .request _ (.joinRoom subject id inviteCode) => subject.userID ∈ outsiders ∧ (id = roomID → inviteCode ∉ codes)
  | .request _ request => (caller request).userID ∈ outsiders ∧ ¬ (caller request).atLeast .administrator
  | .getRoom subject _ => subject.userID ∈ outsiders
  | .listRooms _ subject _ _ | .getMembers _ subject _ => subject.userID ∈ outsiders ∧ ¬ subject.atLeast .administrator
  | .getMemberPermissions id _ => id ≠ roomID

section Calls
variable {roomID : String} {outsiders codes : Set String} {base first second : Store database} {subject : Subject}

/-- The outcomes are the same and the stores are still alike. -/
def Agree (roomID : String) (outsiders codes : Set String) (base : Store database) {α : Type} (left right : α × Store database) : Prop :=
  left.1 = right.1 ∧ Alike roomID outsiders codes base left.2 right.2

theorem Agree.map {α β : Type} {left right : α × Store database} (agree : Agree roomID outsiders codes base left right) (f : α → β) :
    Agree roomID outsiders codes base (left.map f id) (right.map f id) := ⟨congrArg f agree.1, agree.2⟩

theorem Agree.outcomes {α : Type} {left right : α × Store database} (agree : Agree roomID outsiders codes base left right) :
    ∃ value after other, left = (value, after) ∧ right = (value, other) ∧ Alike roomID outsiders codes base after other :=
  ⟨left.1, left.2, right.2, rfl, Prod.ext agree.1.symm rfl, agree.2⟩

variable (alike : Alike roomID outsiders codes base first second)
include alike

theorem agree_of_confined {α : Type} {body : Tx α} (confined : body.Confined (pairs roomID outsiders codes base)) :
    Agree roomID outsiders codes base (body.withTx first) (body.withTx second) := confined.withTx alike

theorem agree_of_const {α : Type} {body : Tx α} {result : Except Err α} (left : body.withTx first = (result, first))
    (right : body.withTx second = (result, second)) : Agree roomID outsiders codes base (body.withTx first) (body.withTx second) := by
  rw [left, right]
  exact ⟨rfl, alike⟩

theorem createRoom_agree (env : Env) (req : CreateRoomRequest) :
    Agree roomID outsiders codes base (createRoom env subject req first) (createRoom env subject req second) := by
  unfold createRoom
  split
  · split
    · exact ⟨rfl, alike⟩
    next room _ =>
      obtain ⟨result, _, _, left, right, later⟩ := (agree_of_confined alike (createRoomBody_confined env subject room)).outcomes
      rw [left, right]
      cases result <;> exact ⟨rfl, later⟩
  · exact ⟨rfl, alike⟩

theorem joinRoom_agree (env : Env) {id inviteCode : String} (uninvited : id = roomID → inviteCode ∉ codes) :
    Agree roomID outsiders codes base (joinRoom env subject id inviteCode first) (joinRoom env subject id inviteCode second) := by
  have agree : Agree roomID outsiders codes base ((joinRoomBody env subject id inviteCode).withTx first)
      ((joinRoomBody env subject id inviteCode).withTx second) := by
    by_cases here : id = roomID
    · subst here
      have closed : ∀ invite, Tables.invite first inviteCode = some invite → invite.roomID ≠ id :=
        fun invite found own => uninvited rfl (alike.codes inviteCode invite found own)
      refine agree_of_const alike (joinRoom_denied alike.left env closed) (joinRoom_denied alike.right env fun invite found => ?_)
      exact closed invite ((alike.invite inviteCode).trans found)
    · exact agree_of_confined alike (joinRoomBody_confined here env subject inviteCode)
  unfold joinRoom
  split
  · split
    · exact ⟨rfl, alike⟩
    · obtain ⟨result, _, _, left, right, later⟩ := agree.outcomes
      rw [left, right]
      cases result <;> exact ⟨rfl, later⟩
  · exact ⟨rfl, alike⟩

theorem updateRoom_agree (outside : subject.userID ∈ outsiders) (ordinary : ¬ subject.atLeast .administrator) (env : Env)
    (req : UpdateRoomRequest) : Agree roomID outsiders codes base (updateRoom env subject req first) (updateRoom env subject req second) := by
  have agree : Agree roomID outsiders codes base ((updateRoomBody env subject req).withTx first)
      ((updateRoomBody env subject req).withTx second) := by
    by_cases here : req.id = roomID
    · exact agree_of_const alike (updateRoom_denied alike.left outside ordinary env here)
        (updateRoom_denied alike.right outside ordinary env here)
    · exact agree_of_confined alike (updateRoomBody_confined here env subject rfl)
  obtain ⟨result, _, _, left, right, later⟩ := agree.outcomes
  rw [updateRoom, updateRoom, left, right]
  cases result <;> exact ⟨rfl, later⟩

theorem deleteRoom_same (outside : subject.userID ∈ outsiders) (ordinary : ¬ subject.atLeast .administrator) (env : Env) (id : String) :
    Agree roomID outsiders codes base (deleteRoom env subject id first) (deleteRoom env subject id second) := by
  by_cases here : id = roomID
  · subst here
    exact agree_of_const alike (deleteRoom_denied alike.left outside ordinary env) (deleteRoom_denied alike.right outside ordinary env)
  · exact agree_of_confined alike (deleteRoomBody_confined here env subject)

theorem leaveRoom_agree (outside : subject.userID ∈ outsiders) (id : String) :
    Agree roomID outsiders codes base (leaveRoom subject id first) (leaveRoom subject id second) := by
  have agree : Agree roomID outsiders codes base ((leaveRoomBody subject id).withTx first) ((leaveRoomBody subject id).withTx second) := by
    by_cases here : id = roomID
    · subst here
      exact agree_of_const alike (leaveRoom_idle alike.left outside) (leaveRoom_idle alike.right outside)
    · exact agree_of_confined alike (leaveRoomBody_confined here subject)
  obtain ⟨result, _, _, left, right, later⟩ := agree.outcomes
  rw [leaveRoom, leaveRoom, left, right]
  cases result <;> exact ⟨rfl, later⟩

theorem kickMember_agree (outside : subject.userID ∈ outsiders) (id targetID : String) :
    Agree roomID outsiders codes base (kickMember subject id targetID first) (kickMember subject id targetID second) := by
  have agree : Agree roomID outsiders codes base ((kickMemberBody subject id targetID).withTx first)
      ((kickMemberBody subject id targetID).withTx second) := by
    by_cases here : id = roomID
    · subst here
      exact agree_of_const alike (kickMember_denied alike.left outside targetID) (kickMember_denied alike.right outside targetID)
    · exact agree_of_confined alike (kickMemberBody_confined here subject targetID)
  obtain ⟨result, _, _, left, right, later⟩ := agree.outcomes
  rw [kickMember, kickMember, left, right]
  cases result <;> exact ⟨rfl, later⟩

theorem updateMemberRole_agree (outside : subject.userID ∈ outsiders) (id targetID : String) (role : RoomRole) :
    Agree roomID outsiders codes base (updateMemberRole subject id targetID role first) (updateMemberRole subject id targetID role second) := by
  by_cases here : id = roomID
  · subst here
    exact agree_of_const alike (updateMemberRole_denied alike.left outside targetID role)
      (updateMemberRole_denied alike.right outside targetID role)
  · exact agree_of_confined alike (updateMemberRoleBody_confined here subject targetID role)

theorem grantPermissions_agree (outside : subject.userID ∈ outsiders) (id targetID : String) (permissions : List Int32) :
    Agree roomID outsiders codes base (grantPermissions subject id targetID permissions first)
      (grantPermissions subject id targetID permissions second) := by
  have agree : Agree roomID outsiders codes base ((grantPermissionsBody subject id targetID (permissionsFromProto permissions)).withTx first)
      ((grantPermissionsBody subject id targetID (permissionsFromProto permissions)).withTx second) := by
    by_cases here : id = roomID
    · subst here
      exact agree_of_const alike (grantPermissions_denied alike.left outside targetID _) (grantPermissions_denied alike.right outside targetID _)
    · exact agree_of_confined alike (grantPermissionsBody_confined here subject targetID _)
  obtain ⟨result, _, _, left, right, later⟩ := agree.outcomes
  rw [grantPermissions, grantPermissions, left, right]
  cases result <;> exact ⟨rfl, later⟩

end Calls

/-! What is read. -/

/-- What `GetRoom` makes of a room it found. -/
def shown (subject : Subject) (store : Store database) (room : Rooms.Room) : Except Err RoomMessage :=
  if room.visibility = visibilityPrivate ∧ (Tables.member store room.id subject.userID).isNone then
    .error (.permissionDenied "get_room" ("room:" ++ room.id))
  else .ok (roomToProto room)

theorem getRoom_id (subject : Subject) (id : String) (store : Store database) : getRoom subject (.id id) store store =
    (Tables.room store id).elim (.error (.notFound "room" "")) (shown subject store) := by
  simp only [getRoom, lookUp]
  cases Tables.room store id <;> rfl

theorem getRoom_slug (subject : Subject) (slug : String) (store : Store database) : getRoom subject (.slug slug) store store =
    (store (.slug slug)).elim (.error (.notFound "room" "")) fun id => getRoom subject (.id id) store store := by
  simp only [getRoom_id]
  simp only [getRoom, lookUp, Tables.roomBySlug]
  cases store (.slug slug) with
  | none => rfl
  | some id =>
    rw [Option.bind_some, Option.elim_some]
    cases Tables.room store id <;> rfl

section Reads
variable {roomID : String} {outsiders codes : Set String} {base first second : Store database} {subject : Subject}

/-- An outsider is shown nothing of the room but its id. -/
theorem Closed.shown {store : Store database} (closed : Closed roomID outsiders store) (keyed : Keyed store)
    (outside : subject.userID ∈ outsiders) :
    getRoom subject (.id roomID) store store = .error (.permissionDenied "get_room" ("room:" ++ roomID)) := by
  obtain ⟨row, found, hidden, _⟩ := closed.room
  have own := keyed roomID row found
  rw [getRoom_id, found, Option.elim_some, RoomPrivacy.shown, own, closed.members _ outside, if_pos ⟨hidden, rfl⟩]

theorem Closed.unlisted {store : Store database} (closed : Closed roomID outsiders store) (ordinary : ¬ subject.atLeast .administrator)
    (lower fold : Char → Char) (search : String) :
    (Tables.room store roomID).filter (RoomRepo.listConds lower fold search (visibilitiesFor subject)) = none := by
  obtain ⟨row, found, hidden, _⟩ := closed.room
  have public_ : visibilitiesFor subject = [visibilityPublic] := if_neg ordinary
  rw [found, public_, Option.filter_some, if_neg]
  simp only [RoomRepo.listConds, hidden, Bool.and_eq_true, not_and]
  exact fun _ => by decide

variable (alike : Alike roomID outsiders codes base first second)
include alike

theorem getRoom_agree (outside : subject.userID ∈ outsiders) (lookup : Lookup) :
    getRoom subject lookup first first = getRoom subject lookup second second := by
  have byID : ∀ id, getRoom subject (.id id) first first = getRoom subject (.id id) second second := by
    intro id
    by_cases here : id = roomID
    · subst here
      rw [alike.left.shown alike.keyed.1 outside, alike.right.shown alike.keyed.2 outside]
    · rw [getRoom_id, getRoom_id, alike.room here]
      cases found : Tables.room second id with
      | none => rfl
      | some room =>
        have own := alike.keyed.2 id room found
        simp only [Option.elim_some, shown, own, alike.member here]
  cases lookup with
  | id id => exact byID id
  | slug slug =>
    rw [getRoom_slug, getRoom_slug, alike.slug]
    simp only [byID]
  | unset => rfl

theorem listRooms_agree (ordinary : ¬ subject.atLeast .administrator) (catalogue : Catalogue) (page : Option PageRequest) (search : String) :
    listRooms catalogue subject page search first = listRooms catalogue subject page search second := by
  have each : ∀ id, (Tables.room first id).filter (RoomRepo.listConds catalogue.lower catalogue.fold search (visibilitiesFor subject)) =
      (Tables.room second id).filter (RoomRepo.listConds catalogue.lower catalogue.fold search (visibilitiesFor subject)) := by
    intro id
    by_cases here : id = roomID
    · subst here
      rw [alike.left.unlisted ordinary, alike.right.unlisted ordinary]
    · rw [alike.room here]
  have rows : (catalogue.scan.filterMap (Tables.room first)).filter
        (RoomRepo.listConds catalogue.lower catalogue.fold search (visibilitiesFor subject)) =
      (catalogue.scan.filterMap (Tables.room second)).filter
        (RoomRepo.listConds catalogue.lower catalogue.fold search (visibilitiesFor subject)) := by
    rw [List.filter_filterMap, List.filter_filterMap]
    exact List.filterMap_congr fun id _ => each id
  simp only [listRooms, RoomRepo.list, Listings.list, rows]

theorem getMembers_agree (outside : subject.userID ∈ outsiders) (ordinary : ¬ subject.atLeast .administrator) (scan : List String) (id : String) :
    getMembers scan subject id first = getMembers scan subject id second := by
  by_cases here : id = roomID
  · subst here
    rw [getMembers, getMembers, alike.left.members _ outside, alike.right.members _ outside, if_pos ⟨ordinary, rfl⟩, if_pos ⟨ordinary, rfl⟩]
  · have members : Tables.member first id = Tables.member second id := funext (alike.member here)
    simp only [getMembers, Tables.membersOf, members, alike.permission here]

theorem getMemberPermissions_agree {id : String} (other : id ≠ roomID) (userID : String) :
    getMemberPermissions id userID first = getMemberPermissions id userID second := by
  have confined : (getMemberPermissionsBody id userID).Confined (pairs roomID outsiders codes base) := by
    unfold getMemberPermissionsBody
    refine Program.Confined.query other fun reply _ => ?_
    split
    · trivial
    refine Program.Confined.query other fun perms _ => ?_
    split <;> trivial
  rw [getMemberPermissions, getMemberPermissions, (confined.withTx alike).1]

/-! A whole dialogue. -/

theorem respond_agree {call : Call} (outside : Outside roomID outsiders codes call) :
    Agree roomID outsiders codes base (respond first call) (respond second call) := by
  cases call with
  | request env request =>
    cases request with
    | createRoom subject req => exact (createRoom_agree alike env req).map Answer.room
    | joinRoom subject id inviteCode => exact (joinRoom_agree alike env outside.2).map Answer.joined
    | updateRoom subject req => exact (updateRoom_agree alike outside.1 outside.2 env req).map Answer.room
    | deleteRoom subject id => exact (deleteRoom_same alike outside.1 outside.2 env id).map Answer.unit
    | leaveRoom subject id => exact (leaveRoom_agree alike outside.1 id).map Answer.flag
    | kickMember subject id targetID => exact (kickMember_agree alike outside.1 id targetID).map Answer.flag
    | updateMemberRole subject id targetID role => exact (updateMemberRole_agree alike outside.1 id targetID role).map Answer.member
    | grantPermissions subject id targetID permissions =>
      exact (grantPermissions_agree alike outside.1 id targetID permissions).map Answer.grants
  | getRoom subject lookup => exact ⟨congrArg Answer.room (getRoom_agree alike outside lookup), alike⟩
  | listRooms catalogue subject page search =>
    exact ⟨congrArg Answer.rooms (listRooms_agree alike outside.2 catalogue page search), alike⟩
  | getMembers scan subject id => exact ⟨congrArg Answer.members (getMembers_agree alike outside.1 outside.2 scan id), alike⟩
  | getMemberPermissions id userID => exact ⟨congrArg Answer.permissions (getMemberPermissions_agree alike outside userID), alike⟩

theorem dialogue_agree {calls : List Call} (outside : ∀ call ∈ calls, Outside roomID outsiders codes call) :
    answers first calls = answers second calls ∧
      Alike roomID outsiders codes base (Machine.run step first calls) (Machine.run step second calls) := by
  induction calls generalizing first second with
  | nil => exact ⟨rfl, alike⟩
  | cons call rest ih =>
    obtain ⟨here, later⟩ := List.forall_mem_cons.mp outside
    obtain ⟨same, next⟩ := respond_agree alike here
    obtain ⟨sames, last⟩ := ih next later
    exact ⟨by rw [answers, answers, same, step, step, sames], last⟩

end Reads

/-- Whatever the outsiders ask, one after another and together, the answers tell
them nothing of what is in the room. -/
theorem outsiders_learn_nothing {roomID : String} {outsiders codes : Set String} {first second : Store database}
    (twins : Twins roomID outsiders codes first second) {calls : List Call}
    (outside : ∀ call ∈ calls, Outside roomID outsiders codes call) : answers first calls = answers second calls :=
  (dialogue_agree ⟨twins, fun _ _ => rfl, fun _ _ _ => Iff.rfl⟩ outside).1

/-- And the room, its members, their grants and its invites are as before. -/
theorem outsiders_change_nothing {roomID : String} {outsiders codes : Set String} {store : Store database}
    (closed : Closed roomID outsiders store) (keyed : Keyed store)
    (known : ∀ code row, Tables.invite store code = some row → row.roomID = roomID → code ∈ codes) {calls : List Call}
    (outside : ∀ call ∈ calls, Outside roomID outsiders codes call) :
    (∀ key, Secret roomID key → Machine.run step store calls key = store key) ∧
      ∀ code row, row.roomID = roomID →
        (Tables.invite (Machine.run step store calls) code = some row ↔ Tables.invite store code = some row) := by
  have start : Alike roomID outsiders codes store store store :=
    ⟨⟨fun _ _ => rfl, closed, closed, ⟨keyed, keyed⟩, known⟩, fun _ _ => rfl, fun _ _ _ => Iff.rfl⟩
  have last := (dialogue_agree start outside).2
  exact ⟨last.kept, last.invites⟩

/-! A den and someone who knows its address. -/

def denRow (name ownerID : String) : Rooms.Room := ⟨"r1", "den-1", name, "", visibilityPrivate, ownerID, 10, 1, 0, 0⟩

def den (name ownerID : String) : Store database
  | .room id => if id = "r1" then some (denRow name ownerID) else none
  | .slug slug => if slug = "den-1" then some "r1" else none
  | .member id user => if id = "r1" ∧ user = ownerID then some ⟨"r1", ownerID, roleOwner, 0⟩ else none
  | .invite code => if code = "open" then some ⟨"r1", none⟩ else none
  | _ => none

theorem den_keyed (name ownerID : String) : Keyed (den name ownerID) := by
  intro id row found
  simp only [Tables.room, den] at found
  split at found
  next here =>
    cases found
    exact here.symm
  · cases found

theorem den_closed (name : String) {ownerID : String} (other : ownerID ≠ "eve") : Closed "r1" {"eve"} (den name ownerID) := by
  refine ⟨⟨denRow name ownerID, by simp [Tables.room, den], rfl, ?_⟩, ?_⟩
  · rintro user rfl
    exact other
  · rintro user rfl
    exact if_neg fun both => other both.2.symm

theorem den_codes (name ownerID code : String) (row : Invite) (found : Tables.invite (den name ownerID) code = some row) :
    row.roomID = "r1" → code ∈ ({"open"} : Set String) := by
  intro _
  simp only [Tables.invite, den] at found
  split at found
  next here => exact here
  · cases found

theorem dens_twins : Twins "r1" {"eve"} {"open"} (den "chess" "ann") (den "poker" "bob") := by
  refine ⟨?_, den_closed "chess" (by decide), den_closed "poker" (by decide), ⟨den_keyed _ _, den_keyed _ _⟩, den_codes _ _⟩
  intro key open_
  cases key with
  | room id | member id user => simp_all [den, Secret]
  | _ => rfl

def eve : Subject := ⟨"eve", .user⟩

def prying : List Call :=
  [.getRoom eve (.slug "den-1"), .request (draws []) (.joinRoom eve "r1" "sesame"), .getMembers ["ann", "bob", "eve"] eve "r1",
    .request (draws []) (.kickMember eve "r1" "ann"), .request (draws []) (.deleteRoom eve "r1")]

theorem prying_outside : ∀ call ∈ prying, Outside "r1" {"eve"} {"open"} call := by
  have ordinary : eve.atLeast .administrator = false := by decide
  simp [prying, Outside, caller, ordinary, show eve.userID = "eve" from rfl]

theorem eve_learns_nothing : answers (den "chess" "ann") prying = answers (den "poker" "bob") prying :=
  outsiders_learn_nothing dens_twins prying_outside

theorem eve_changes_nothing :
    Machine.run step (den "chess" "ann") prying (.member "r1" "ann") = some ⟨"r1", "ann", roleOwner, 0⟩ ∧
      Tables.invite (Machine.run step (den "chess" "ann") prying) "open" = some ⟨"r1", none⟩ := by
  have closed : Closed "r1" {"eve"} (den "chess" "ann") := den_closed "chess" (by decide)
  obtain ⟨rows, invites⟩ := outsiders_change_nothing closed (den_keyed _ _) (den_codes _ _) prying_outside
  exact ⟨rows (.member "r1" "ann") rfl, (invites "open" ⟨"r1", none⟩ rfl).mpr rfl⟩

end VibeSync.Proofs.RoomPrivacy
