import VibeSync.Rooms.Service
import VibeSync.Sync.Handlers

/-! Command authorization across the two services: the kind on the wire, the
permission it needs, and the question to the Room service. -/

namespace VibeSync.Sync
open Transaction

/-- A kind is narrowed from 32 to 8 bits. -/
def CommandKind.ofWire (value : Int32) : CommandKind :=
  match value.toInt8.toInt with
  | 0 => .unspecified
  | 1 => .play
  | 2 => .pause
  | 3 => .seek
  | 4 => .setRate
  | 5 => .loadMedia
  | 6 => .next
  | 7 => .previous
  | other => .unknown other

def RoomPermission.number : RoomPermission → Int32
  | .unspecified => 0
  | .seek => 1
  | .pausePlay => 2
  | .switchQueue => 3
  | .addQueue => 4
  | .removeQueue => 5

/-- `Has` of the room client, with the Room service's store behind the call. -/
def has (store : Store Rooms.database) (roomID userID : String) (perm : RoomPermission) : Except Err Bool :=
  if roomID = "" ∨ userID = "" then .error (.plain "roomclient: room_id and user_id are required")
  else
    match Rooms.getMemberPermissions roomID userID store with
    | .error err => .error (.wrapped "roomclient: get member permissions" err)
    | .ok resp => if resp.isOwner then .ok true else .ok (resp.permissions.contains perm.number)

/-- The whole decision on a room that stays as it is meanwhile. -/
def authorizeCommand (perms : String → String → RoomPermission → Except Err Bool) (room : RoomSync) (userID : String)
    (kind : CommandKind) : Except Err Unit :=
  if userID = room.state.hostID ∨ userID = room.state.ownerID then .ok ()
  else
    match commandPermission kind with
    | none => .error (Call.denied room)
    | some perm =>
      match perms room.roomID userID perm with
      | .error err => .error ((Err.internal "PERMISSION_CHECK_FAILED" err.text).withCause (some err))
      | .ok false => .error (Call.denied room)
      | .ok true => .ok ()

end VibeSync.Sync
