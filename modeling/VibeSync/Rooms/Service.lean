import VibeSync.Auth.Domain
import VibeSync.Rooms.Tables

/-! The use cases of the Room service that write, and the permission lookup of
the other services. Each body is the function passed to `withTx`. -/

namespace VibeSync.Rooms
open Transaction

structure Subject where
  userID : String
  systemRole : Auth.SystemRole

def Subject.atLeast (subject : Subject) (role : Auth.SystemRole) : Bool := role.number ≤ subject.systemRole.number

/-- What one call draws from its ports. Readings of the clock and ids are
numbered in the order in which the call takes them; `databaseNow` is `now()`. -/
structure Env where
  now : Nat → Time
  databaseNow : Time
  idgen : Nat → String
  slugBytes : List UInt8
  inviteCode : String
  rfc3339 : Time → String

structure CreateRoomRequest where
  name : String
  description : Option String
  visibility : Int32
  maxMembers : Option UInt32

structure UpdateRoomRequest where
  id : String
  name : Option String
  description : Option String
  visibility : Option Int32
  maxMembers : Option UInt32

/-- `roomv1.Room`. -/
structure RoomMessage where
  id : String
  slug : String
  name : String
  description : String
  visibility : Int32
  ownerID : String
  maxMembers : UInt32
  memberCount : UInt32
  createdAt : Time
  updatedAt : Time

def roomToProto (r : Room) : RoomMessage :=
  { id := r.id, slug := r.slug, name := r.name, description := r.description, visibility := r.visibility.toInt32
    ownerID := r.ownerID, maxMembers := .ofInt r.maxMembers, memberCount := .ofInt r.memberCount
    createdAt := r.createdAt, updatedAt := r.updatedAt }

abbrev Tx (α : Type) : Type := Program database Err α

namespace Repo

def sql (statement : Statement) (context : String) : Tx (Reply statement) :=
  @Program.query database Err statement (Err.wrapped context)

def roomCreate (room : Room) : Tx Unit := (sql (.roomCreate room) "room_repo: create" :)

def roomByID (id : String) : Tx (Option Room) := (sql (.roomByID id) "room" :)

def roomUpdate (room : Room) : Tx Unit := (sql (.roomUpdate room) "room_repo: update" :)

def roomDelete (id : String) : Tx Unit := (sql (.roomDelete id) "room_repo: delete" :)

def memberUpsert (member : Member) : Tx Unit := (sql (.memberUpsert member) "member_repo: upsert" :)

def memberGet (roomID userID : String) : Tx (Option Member) := (sql (.memberGet roomID userID) "member" :)

def memberDelete (roomID userID : String) : Tx Unit := (sql (.memberDelete roomID userID) "member_repo: delete" :)

def memberUpdateRole (roomID userID : String) (role : RoomRole) : Tx Unit :=
  (sql (.memberUpdateRole roomID userID role) "member_repo: update_role" :)

def incrementRoomMemberCount (roomID : String) (delta : Int) : Tx Unit :=
  (sql (.incrementRoomMemberCount roomID delta) "member_repo: increment_count" :)

def inviteCreate (code roomID : String) (expiresAt : Option Time) : Tx Unit :=
  (sql (.inviteCreate code roomID expiresAt) "invite_repo: create" :)

def inviteGet (code : String) (now : Time) : Tx (Option String) := (sql (.inviteGet code now) "invite_code" :)

def permissionSet (roomID userID : String) (perms : Permissions) : Tx Unit :=
  (sql (.permissionSet roomID userID perms) "permission_repo: set" :)

def permissionGet (roomID userID : String) : Tx (Option Int16) :=
  (sql (.permissionGet roomID userID) "permission_repo: get" :)

def permissionDelete (roomID userID : String) : Tx Unit :=
  (sql (.permissionDelete roomID userID) "permission_repo: delete" :)

def outboxAppend (event : Outbox.Event) : Tx Unit :=
  if event.topic = "" then Program.fail (.plain "outbox: event 0 missing topic")
  else (sql (.outboxInsert event) "outbox: insert event 0" :)

end Repo

/-! Events. -/

def createdEvent (env : Env) (room : Room) : Outbox.Event :=
  { id := env.idgen 1, aggregateID := room.id, topic := "room.created.v1", key := room.id
    payload := [("name", .text room.name), ("owner_id", .text room.ownerID), ("room_id", .text room.id),
      ("slug", .text room.slug), ("visibility", .number room.visibility.toInt)]
    headers := [], occurredAt := env.now 2, version := "v1" }

def joinedEvent (env : Env) (roomID userID : String) (role : RoomRole) : Outbox.Event :=
  { id := env.idgen 0, aggregateID := roomID, topic := "room.joined.v1", key := roomID
    payload := [("joined_at", .text (env.rfc3339 (env.now 0))), ("role", .number role.toInt), ("room_id", .text roomID),
      ("user_id", .text userID)]
    headers := [], occurredAt := env.now 0, version := "v1" }

def deletedEvent (env : Env) (roomID : String) : Outbox.Event :=
  { id := env.idgen 0, aggregateID := roomID, topic := "room.deleted.v1", key := roomID
    payload := [("deleted_at", .text (env.rfc3339 (env.now 0))), ("room_id", .text roomID)]
    headers := [], occurredAt := env.now 1, version := "v1" }

/-! Rooms. -/

/-- Private and unlisted rooms get an invite code that does not expire. -/
def issueInvite (env : Env) (room : Room) : Tx Unit :=
  if room.requiresInvite ∨ room.visibility = visibilityUnlisted then Repo.inviteCreate env.inviteCode room.id none
  else pure ()

def createRoomBody (env : Env) (subject : Subject) (room : Room) : Tx Unit := do
  Repo.roomCreate room
  Repo.memberUpsert { roomID := room.id, userID := subject.userID, role := roleOwner, joinedAt := env.now 1 }
  Repo.incrementRoomMemberCount room.id 1
  issueInvite env room
  Repo.outboxAppend (createdEvent env room)

def CreateRoomRequest.params (req : CreateRoomRequest) : NewRoomParams :=
  { name := req.name, description := req.description.getD "", visibility := req.visibility.toInt8
    maxMembers := req.maxMembers.map fun m => (m.toNat : Int) }

def createRoom (env : Env) (subject : Subject) (req : CreateRoomRequest) (store : Store database) :
    Except Err RoomMessage × Store database :=
  if subject.atLeast .user then
    match newRoom (env.now 0) (env.idgen 0) subject.userID env.slugBytes req.params with
    | .error err =>
      (.error ((Err.invalidArgumentFor "vibesync.room" "INVALID_ROOM" err.text).withCause (some err)), store)
    | .ok room =>
      match (createRoomBody env subject room).withTx store with
      | (.error err, after) => (.error ((Err.internal "CREATE_ROOM_FAILED" err.text).withCause (some err)), after)
      | (.ok _, after) => (.ok (roomToProto { room with memberCount := 1 }), after)
  else (.error (.permissionDenied "room.create" "rooms"), store)

/-- A private room is joined with a code of its own. -/
def checkInvite (env : Env) (room : Room) (roomID inviteCode : String) : Tx Unit :=
  if room.requiresInvite then
    if inviteCode = "" then Program.fail (.permissionDenied "room.join" ("room:" ++ roomID))
    else do
      match ← Repo.inviteGet inviteCode env.databaseNow with
      | none => Program.fail (.permissionDenied "room.join" ("room:" ++ roomID))
      | some inviteRoomID =>
        if inviteRoomID = roomID then pure ()
        else Program.fail (.permissionDenied "room.join" ("room:" ++ roomID))
  else pure ()

def joinRoomBody (env : Env) (subject : Subject) (roomID inviteCode : String) : Tx (Room × RoomRole) := do
  match ← Repo.roomByID roomID with
  | none => Program.fail (.missing "room" roomID)
  | some room =>
    checkInvite env room roomID inviteCode
    if room.isFull then Program.fail (.resourceExhausted "vibesync.room" "ROOM_FULL" "room is at capacity")
    else
      match ← Repo.memberGet roomID subject.userID with
      | some existing => return (room, existing.role)
      | none =>
        Repo.memberUpsert { roomID, userID := subject.userID, role := roleMember, joinedAt := env.now 0 }
        Repo.incrementRoomMemberCount roomID 1
        Repo.outboxAppend (joinedEvent env roomID subject.userID roleMember)
        return ({ room with memberCount := room.memberCount + 1 }, roleMember)

def joinRoom (env : Env) (subject : Subject) (roomID inviteCode : String) (store : Store database) :
    Except Err (RoomMessage × RoomRole) × Store database :=
  if subject.atLeast .user then
    if roomID = "" then
      (.error (.invalidArgumentFor "vibesync.room" "MISSING_ROOM_ID" "room_id required"), store)
    else
      match (joinRoomBody env subject roomID inviteCode).withTx store with
      | (.error err, after) => (.error err, after)
      | (.ok (room, role), after) => (.ok (roomToProto room, role), after)
  else (.error (.permissionDenied "room.join" "rooms"), store)

/-- Administrators pass without a membership. -/
def requireRoomRole (roomID : String) (subject : Subject) (minRole : RoomRole) : Tx Unit :=
  if subject.atLeast .administrator then pure ()
  else do
    match ← Repo.memberGet roomID subject.userID with
    | none => Program.fail (.permissionDenied "manage_room" ("room:" ++ roomID))
    | some member =>
      if member.role < minRole then Program.fail (.permissionDenied "manage_room" ("room:" ++ roomID))
      else pure ()

def UpdateRoomRequest.apply (req : UpdateRoomRequest) (env : Env) (room : Room) : Room :=
  room.applyUpdate (env.now 0) env.slugBytes req.name req.description (req.visibility.map Int32.toInt8) req.maxMembers

def updateRoomBody (env : Env) (subject : Subject) (req : UpdateRoomRequest) : Tx Room := do
  match ← Repo.roomByID req.id with
  | none => Program.fail (.missing "room" req.id)
  | some room =>
    requireRoomRole req.id subject roleOwner
    Repo.roomUpdate (req.apply env room)
    return req.apply env room

def updateRoom (env : Env) (subject : Subject) (req : UpdateRoomRequest) (store : Store database) :
    Except Err RoomMessage × Store database :=
  match (updateRoomBody env subject req).withTx store with
  | (.error err, after) => (.error err, after)
  | (.ok room, after) => (.ok (roomToProto room), after)

def deleteRoomBody (env : Env) (subject : Subject) (roomID : String) : Tx Unit := do
  requireRoomRole roomID subject roleOwner
  Repo.roomDelete roomID
  Repo.outboxAppend (deletedEvent env roomID)

def deleteRoom (env : Env) (subject : Subject) (roomID : String) (store : Store database) :
    Except Err Unit × Store database :=
  (deleteRoomBody env subject roomID).withTx store

/-! Members. -/

/-- The rows that go with a membership. -/
def removeMember (roomID userID : String) : Tx Unit := do
  Repo.memberDelete roomID userID
  Repo.permissionDelete roomID userID
  Repo.incrementRoomMemberCount roomID (-1)

def leaveRoomBody (subject : Subject) (roomID : String) : Tx Unit := do
  match ← Repo.roomByID roomID with
  | none => Program.fail (.missing "room" roomID)
  | some room =>
    if room.ownerID = subject.userID then
      Program.fail (.failedPrecondition "vibesync.room" "OWNER_CANNOT_LEAVE"
        "room owner must delete or transfer the room before leaving")
    else
      match ← Repo.memberGet roomID subject.userID with
      | none => pure ()
      | some _ => removeMember roomID subject.userID

/-- The answer's `left` flag is never set. -/
def leaveRoom (subject : Subject) (roomID : String) (store : Store database) : Except Err Bool × Store database :=
  match (leaveRoomBody subject roomID).withTx store with
  | (.error err, after) => (.error err, after)
  | (.ok _, after) => (.ok false, after)

def kickMemberBody (subject : Subject) (roomID targetID : String) : Tx Unit := do
  match ← Repo.memberGet roomID subject.userID with
  | none => Program.fail (.permissionDenied "kick_member" ("room:" ++ roomID))
  | some byMember =>
    match ← Repo.memberGet roomID targetID with
    | none => Program.fail (.notFound "member" targetID)
    | some target =>
      if canKick byMember.role target.role then removeMember roomID targetID
      else Program.fail (.permissionDenied "kick_member" ("user:" ++ targetID))

def kickMember (subject : Subject) (roomID targetID : String) (store : Store database) :
    Except Err Bool × Store database :=
  match (kickMemberBody subject roomID targetID).withTx store with
  | (.error err, after) => (.error err, after)
  | (.ok _, after) => (.ok true, after)

def updateMemberRoleBody (subject : Subject) (roomID targetID : String) (newRole : RoomRole) : Tx Member := do
  match ← Repo.memberGet roomID subject.userID with
  | none => Program.fail (.permissionDenied "update_member_role" ("room:" ++ roomID))
  | some byMember =>
    if canPromote byMember.role newRole then
      match ← Repo.memberGet roomID targetID with
      | none => Program.fail (.notFound "member" targetID)
      | some target =>
        Repo.memberUpdateRole roomID targetID newRole
        return { target with role := newRole }
    else Program.fail (.permissionDenied "update_member_role" ("user:" ++ targetID))

def updateMemberRole (subject : Subject) (roomID targetID : String) (newRole : RoomRole) (store : Store database) :
    Except Err Member × Store database :=
  (updateMemberRoleBody subject roomID targetID newRole).withTx store

/-! Permissions. -/

def grantPermissionsBody (subject : Subject) (roomID targetID : String) (perms : Permissions) : Tx Unit := do
  match ← Repo.roomByID roomID with
  | none => Program.fail (.missing "room" roomID)
  | some room =>
    if room.ownerID ≠ subject.userID then Program.fail (.permissionDenied "grant_permissions" ("room:" ++ roomID))
    else if targetID = subject.userID then
      Program.fail (.invalidArgumentFor "vibesync.room" "GRANT_SELF" "the owner already holds every permission")
    else
      match ← Repo.memberGet roomID targetID with
      | none => Program.fail (.notFound "member" targetID)
      | some _ => Repo.permissionSet roomID targetID perms

def grantPermissions (subject : Subject) (roomID targetID : String) (permissions : List Int32)
    (store : Store database) : Except Err (List Int32) × Store database :=
  let perms := permissionsFromProto permissions
  match (grantPermissionsBody subject roomID targetID perms).withTx store with
  | (.error err, after) => (.error err, after)
  | (.ok _, after) => (.ok perms.toProto, after)

structure GetMemberPermissionsResponse where
  permissions : List Int32
  isOwner : Bool

/-- No answer stands for a missing room. -/
def getMemberPermissionsBody (roomID userID : String) : Tx (Option (Permissions × Bool)) := do
  match ← Repo.roomByID roomID with
  | none => return none
  | some room =>
    match ← Repo.permissionGet roomID userID with
    | none => return some (0, room.ownerID = userID)
    | some perms => return some (perms.toUInt16, room.ownerID = userID)

def getMemberPermissions (roomID userID : String) (store : Store database) : Except Err GetMemberPermissionsResponse :=
  match ((getMemberPermissionsBody roomID userID).withTx store).1 with
  | .error err => .error err
  | .ok none => .error (.notFound "room" roomID)
  | .ok (some (perms, isOwner)) => .ok ⟨perms.toProto, isOwner⟩

/-! The service as a machine. -/

inductive Request where
  | createRoom (subject : Subject) (req : CreateRoomRequest)
  | joinRoom (subject : Subject) (roomID inviteCode : String)
  | updateRoom (subject : Subject) (req : UpdateRoomRequest)
  | deleteRoom (subject : Subject) (roomID : String)
  | leaveRoom (subject : Subject) (roomID : String)
  | kickMember (subject : Subject) (roomID targetID : String)
  | updateMemberRole (subject : Subject) (roomID targetID : String) (role : RoomRole)
  | grantPermissions (subject : Subject) (roomID targetID : String) (permissions : List Int32)

/-- The store after one request, with what its call draws. -/
def serve (store : Store database) : Env × Request → Store database
  | (env, .createRoom subject req) => (createRoom env subject req store).2
  | (env, .joinRoom subject roomID inviteCode) => (joinRoom env subject roomID inviteCode store).2
  | (env, .updateRoom subject req) => (updateRoom env subject req store).2
  | (env, .deleteRoom subject roomID) => (deleteRoom env subject roomID store).2
  | (_, .leaveRoom subject roomID) => (leaveRoom subject roomID store).2
  | (_, .kickMember subject roomID targetID) => (kickMember subject roomID targetID store).2
  | (_, .updateMemberRole subject roomID targetID role) => (updateMemberRole subject roomID targetID role store).2
  | (_, .grantPermissions subject roomID targetID permissions) =>
    (grantPermissions subject roomID targetID permissions store).2

end VibeSync.Rooms
