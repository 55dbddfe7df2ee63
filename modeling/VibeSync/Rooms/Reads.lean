import Mathlib.Data.List.Sort
import VibeSync.Listings
import VibeSync.Rooms.Service

/-! The calls of the Room service that only read. The order in which a scan finds
its rows is the database's: it is given as the ids that the scan comes to. -/

namespace VibeSync.Rooms
open Transaction

namespace Tables

def roomBySlug (view : View) (slug : String) : Option Room := (view (.slug slug)).bind (room view)

/-- The rows of the room by `joined_at`. -/
def membersOf (view : View) (scan : List String) (roomID : String) : List Member :=
  (scan.filterMap (member view roomID)).insertionSort fun first second => first.joinedAt ≤ second.joinedAt

end Tables

inductive Lookup where
  | id (id : String)
  | slug (slug : String)
  | unset
  deriving DecidableEq, Repr

def lookUp (view : View) : Lookup → Except Err Room
  | .id id => (Tables.room view id).elim (.error (.missing "room" id)) .ok
  | .slug slug => (Tables.roomBySlug view slug).elim (.error (.missing "room" slug)) .ok
  | .unset => .error (.invalidArgumentFor "vibesync.room" "MISSING_LOOKUP" "id or slug required")

/-- The room and the membership are read in two transactions. -/
def getRoom (subject : Subject) (lookup : Lookup) (first second : Store database) : Except Err RoomMessage :=
  match lookUp first lookup with
  | .error (.missing _ _) => .error (.notFound "room" "")
  | .error err => .error ((Err.internal "GET_ROOM_FAILED" err.text).withCause (some err))
  | .ok room =>
    if room.visibility = visibilityPrivate ∧ (Tables.member second room.id subject.userID).isNone then
      .error (.permissionDenied "get_room" ("room:" ++ room.id))
    else .ok (roomToProto room)

structure PageRequest where
  cursor : String
  limit : UInt32

structure ListRoomsResponse where
  rooms : List RoomMessage
  nextCursor : String
  total : Nat

/-- What the caller may see in a listing. -/
def visibilitiesFor (subject : Subject) : List RoomVisibility :=
  if subject.atLeast .administrator then [visibilityPublic, visibilityUnlisted, visibilityPrivate] else [visibilityPublic]

/-- What the database brings to a listing. -/
structure Catalogue where
  plan : Keyset.Plan String Room.createdAt
  lower : Char → Char
  fold : Char → Char
  scan : List String

def listRooms (catalogue : Catalogue) (subject : Subject) (page : Option PageRequest) (search : String) (store : Store database) :
    ListRoomsResponse :=
  let cursor := page.elim "" PageRequest.cursor
  let limit : Int := page.elim 50 fun page => if page.limit > 0 then page.limit.toNat else 50
  let (rooms, nextCursor) := RoomRepo.list catalogue.plan catalogue.lower catalogue.fold
    (catalogue.scan.filterMap (Tables.room store)) limit search (visibilitiesFor subject) cursor
  ⟨rooms.map roomToProto, nextCursor, rooms.length⟩

structure MemberMessage where
  userID : String
  role : RoomRole
  joinedAt : Time
  permissions : List Int32
  deriving DecidableEq, Repr

/-- A member without a row of grants has none. -/
def getMembers (scan : List String) (subject : Subject) (roomID : String) (store : Store database) :
    Except Err (List MemberMessage) :=
  if ¬ subject.atLeast .administrator ∧ (Tables.member store roomID subject.userID).isNone then
    .error (.permissionDenied "get_members" ("room:" ++ roomID))
  else
    .ok ((Tables.membersOf store scan roomID).map fun m =>
      ⟨m.userID, m.role, m.joinedAt, Permissions.toProto ((Tables.permission store roomID m.userID).elim 0 Int16.toUInt16)⟩)

end VibeSync.Rooms
