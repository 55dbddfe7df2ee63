import VibeSync.Columns
import VibeSync.Transaction
import VibeSync.Outbox.Table
import VibeSync.Rooms.Domain

/-! The tables of the Room service and the statements of its Postgres
repositories. A unique column is a key of its own that leads to the primary key,
as its index does. -/

namespace VibeSync.Rooms
open Transaction Columns

inductive Key where
  | room (id : String)
  | slug (value : String)
  | member (roomID userID : String)
  | invite (code : String)
  | permission (roomID userID : String)
  | outbox (id : String)
  deriving DecidableEq

structure Invite where
  roomID : String
  expiresAt : Option Time
  deriving DecidableEq, Repr

@[reducible] def Row : Key → Type
  | .room _ => Room
  | .slug _ => String
  | .member _ _ => Member
  | .invite _ => Invite
  | .permission _ _ => Int16
  | .outbox _ => Outbox.Row

inductive Statement where
  | roomCreate (room : Room)
  | roomByID (id : String)
  | roomUpdate (room : Room)
  | roomDelete (id : String)
  | memberUpsert (member : Member)
  | memberGet (roomID userID : String)
  | memberDelete (roomID userID : String)
  | memberUpdateRole (roomID userID : String) (role : RoomRole)
  | incrementRoomMemberCount (roomID : String) (delta : Int)
  | inviteCreate (code roomID : String) (expiresAt : Option Time)
  | inviteGet (code : String) (now : Time)
  | permissionSet (roomID userID : String) (perms : Permissions)
  | permissionGet (roomID userID : String)
  | permissionDelete (roomID userID : String)
  | outboxInsert (event : Outbox.Event)

@[reducible] def Reply : Statement → Type
  | .roomByID _ => Option Room
  | .memberGet _ _ => Option Member
  | .inviteGet _ _ => Option String
  | .permissionGet _ _ => Option Int16
  | _ => Unit

abbrev View : Type := (key : Key) → Option (Row key)

abbrev Changes : Type := (key : Key) → Option (Option (Row key))

namespace Tables

def room (view : View) (id : String) : Option Room := view (.room id)

def member (view : View) (roomID userID : String) : Option Member := view (.member roomID userID)

def permission (view : View) (roomID userID : String) : Option Int16 := view (.permission roomID userID)

def invite (view : View) (code : String) : Option Invite := view (.invite code)

def unchanged : Changes := fun _ => none

/-- A `SMALLINT` column takes the low 16 bits of a role. -/
def smallint (role : RoomRole) : RoomRole := role.toInt16.toInt32

def maxInt4 : Int := 2147483647

def encodeInt4 (n : Int) : Except Err Unit :=
  if n > maxInt4 then .error (.plain (toString n ++ " is greater than maximum value for int4")) else .ok ()

def putRoom (new : Room) : Changes
  | .room id => if id = new.id then some (some new) else none
  | .slug value => if value = new.slug then some (some new.id) else none
  | _ => none

def insertRoom (view : View) (new : Room) : Except Err (Unit × Changes) := do
  encodeInt4 new.maxMembers
  checkLength maxSlugLen new.slug
  checkLength maxRoomName new.name
  if (room view new.id).isSome then .error (.uniqueViolation "rooms_pkey")
  else if (view (.slug new.slug)).isSome then .error (.uniqueViolation "rooms_slug_key")
  else .ok ((), putRoom new)

/-- A changed slug leaves its place in the index. -/
def replaceRoom (old new : Room) : Changes
  | .room id => if id = new.id then some (some new) else none
  | .slug value =>
    if new.slug = old.slug then none
    else if value = new.slug then some (some new.id)
    else if value = old.slug then some none
    else none
  | _ => none

/-- The columns that `Update` sets. -/
def overwrite (row given : Room) : Room :=
  { row with
    slug := given.slug, name := given.name, description := given.description, visibility := given.visibility
    maxMembers := given.maxMembers, memberCount := given.memberCount, updatedAt := given.updatedAt }

def updateRoom (view : View) (given : Room) : Except Err (Unit × Changes) := do
  encodeInt4 given.maxMembers
  match room view given.id with
  | none => .ok ((), unchanged)
  | some row =>
    checkLength maxSlugLen given.slug
    checkLength maxRoomName given.name
    if given.slug ≠ row.slug ∧ (view (.slug given.slug)).isSome then .error (.uniqueViolation "rooms_slug_key")
    else .ok ((), replaceRoom row (overwrite row given))

/-- The rows that refer to the room go with it. -/
def deleteRoom (view : View) (id : String) : Changes :=
  match room view id with
  | none => unchanged
  | some row => fun
    | .room key => if key = id then some none else none
    | .slug value => if value = row.slug then some none else none
    | .member roomID userID => if roomID = id then (member view roomID userID).map fun _ => none else none
    | .permission roomID userID => if roomID = id then (permission view roomID userID).map fun _ => none else none
    | .invite code => (invite view code).bind fun row => if row.roomID = id then some none else none
    | .outbox _ => none

def putMember (new : Member) : Changes
  | .member roomID userID => if roomID = new.roomID ∧ userID = new.userID then some (some new) else none
  | _ => none

/-- On a conflict only the role is set. -/
def upsertMember (view : View) (given : Member) : Except Err (Unit × Changes) :=
  if (room view given.roomID).isNone then .error (.foreignKeyViolation "room_members" "room_members_room_id_fkey")
  else match member view given.roomID given.userID with
    | some old => .ok ((), putMember { given with role := smallint given.role, joinedAt := old.joinedAt })
    | none => .ok ((), putMember { given with role := smallint given.role })

def deleteMember (view : View) (roomID userID : String) : Changes
  | .member room user => if room = roomID ∧ user = userID then (member view room user).map fun _ => none else none
  | _ => none

def updateRole (view : View) (roomID userID : String) (role : RoomRole) : Changes
  | .member room user =>
    if room = roomID ∧ user = userID then (member view room user).map fun row => some { row with role := smallint role }
    else none
  | _ => none

def countedRoom (row : Room) (delta : Int) : Room := { row with memberCount := row.memberCount + delta }

def setRoom (id : String) (row : Room) : Changes
  | .room key => if key = id then some (some row) else none
  | _ => none

def incrementCount (view : View) (roomID : String) (delta : Int) : Except Err (Unit × Changes) :=
  match room view roomID with
  | none => .ok ((), unchanged)
  | some row =>
    if row.memberCount + delta > maxInt4 ∨ row.memberCount + delta < -maxInt4 - 1 then
      .error (.plain "ERROR: integer out of range (SQLSTATE 22003)")
    else .ok ((), setRoom roomID (countedRoom row delta))

def putInvite (code : String) (row : Invite) : Changes
  | .invite key => if key = code then some (some row) else none
  | _ => none

def insertInvite (view : View) (code roomID : String) (expiresAt : Option Time) : Except Err (Unit × Changes) :=
  if (invite view code).isSome then .error (.uniqueViolation "room_invite_pkey")
  else if (room view roomID).isNone then .error (.foreignKeyViolation "room_invite" "room_invite_room_id_fkey")
  else .ok ((), putInvite code ⟨roomID, expiresAt⟩)

def getInvite (view : View) (code : String) (now : Time) : Option String :=
  (invite view code).bind fun row =>
    match row.expiresAt with
    | none => some row.roomID
    | some expiresAt => if expiresAt > now then some row.roomID else none

def putPermission (roomID userID : String) (perms : Permissions) : Changes
  | .permission room user => if room = roomID ∧ user = userID then some (some perms.toInt16) else none
  | _ => none

def setPermission (view : View) (roomID userID : String) (perms : Permissions) : Except Err (Unit × Changes) :=
  if (room view roomID).isNone then .error (.foreignKeyViolation "room_permissions" "room_permissions_room_id_fkey")
  else .ok ((), putPermission roomID userID perms)

def deletePermission (view : View) (roomID userID : String) : Changes
  | .permission room user =>
    if room = roomID ∧ user = userID then (permission view room user).map fun _ => none else none
  | _ => none

def putOutbox (id : String) (row : Outbox.Row) : Changes
  | .outbox key => if key = id then some (some row) else none
  | _ => none

def insertOutbox (view : View) (event : Outbox.Event) : Except Err (Unit × Changes) :=
  if (view (.outbox event.id)).isSome then .error (.uniqueViolation "outbox_pkey")
  else .ok ((), putOutbox event.id event.row)

def execute : (statement : Statement) → View → Except Err (Reply statement × Changes)
  | .roomCreate new, view => insertRoom view new
  | .roomByID id, view => .ok (room view id, unchanged)
  | .roomUpdate given, view => updateRoom view given
  | .roomDelete id, view => .ok ((), deleteRoom view id)
  | .memberUpsert given, view => upsertMember view given
  | .memberGet roomID userID, view => .ok (member view roomID userID, unchanged)
  | .memberDelete roomID userID, view => .ok ((), deleteMember view roomID userID)
  | .memberUpdateRole roomID userID role, view => .ok ((), updateRole view roomID userID role)
  | .incrementRoomMemberCount roomID delta, view => incrementCount view roomID delta
  | .inviteCreate code roomID expiresAt, view => insertInvite view code roomID expiresAt
  | .inviteGet code now, view => .ok (getInvite view code now, unchanged)
  | .permissionSet roomID userID perms, view => setPermission view roomID userID perms
  | .permissionGet roomID userID, view => .ok (permission view roomID userID, unchanged)
  | .permissionDelete roomID userID, view => .ok ((), deletePermission view roomID userID)
  | .outboxInsert event, view => insertOutbox view event

end Tables

abbrev database : Database where
  Key := Key
  Row := Row
  Error := Err
  Statement := Statement
  Reply := Reply
  execute := Tables.execute

end VibeSync.Rooms
