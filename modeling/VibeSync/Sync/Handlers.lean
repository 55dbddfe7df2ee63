import VibeSync.Sync.RoomSync

/-! The `Command` handler. Its steps take the room's mutex one by one, so other
requests and the room's own loop run between them. -/

namespace VibeSync.Sync

inductive RoomPermission where
  | unspecified | seek | pausePlay | switchQueue | addQueue | removeQueue
  deriving DecidableEq, Repr

/-- What a guest needs for a command. -/
def commandPermission : CommandKind → Option RoomPermission
  | .seek => some .seek
  | .play | .pause | .setRate => some .pausePlay
  | .loadMedia | .next | .previous => some .switchQueue
  | .unspecified | .unknown _ => none

/-- Why `authorizeCommand` let a caller through. The host's ground keeps the
fencing token of that moment, which the handler itself does not look at. -/
inductive Ground where
  | host (fence : Nat)
  | owner
  | grant
  deriving DecidableEq, Repr

/-- Where a call to the handler stands. -/
inductive Phase where
  | readHost
  | readOwner
  | askPermission (permission : RoomPermission)
  | authorized (ground : Ground)
  | finished (result : Except Err RoomSync.CommandResponse)

structure Call where
  userID : String
  command : Command
  fencingToken : Nat
  phase : Phase

namespace Call

def fail (call : Call) (err : Err) : Call := { call with phase := .finished (.error err) }

def denied (rs : RoomSync) : Err := .permissionDenied "command" ("room:" ++ rs.roomID)

/-- One step of a call. `answer` is what the room service says, if it is asked. -/
def step (call : Call) (rs : RoomSync) (answer : Except Err Bool) (nowMs : Int) (now : Time) : Call × RoomSync :=
  match call.phase with
  | .readHost =>
    if call.userID = rs.state.hostID then ({ call with phase := .authorized (.host rs.state.fencingToken) }, rs)
    else ({ call with phase := .readOwner }, rs)
  | .readOwner =>
    if call.userID = rs.state.ownerID then ({ call with phase := .authorized .owner }, rs)
    else match commandPermission call.command.kind with
      | some permission => ({ call with phase := .askPermission permission }, rs)
      | none => (call.fail (denied rs), rs)
  | .askPermission _ =>
    match answer with
    | .ok true => ({ call with phase := .authorized .grant }, rs)
    | .ok false => (call.fail (denied rs), rs)
    | .error err => (call.fail ((Err.internal "PERMISSION_CHECK_FAILED" err.text).withCause (some err)), rs)
  | .authorized _ =>
    let (response, after) := rs.processCommandAuthorized call.command call.fencingToken nowMs now
    ({ call with phase := .finished (.ok response) }, after)
  | .finished _ => (call, rs)

end Call

/-- A room and the calls in progress. -/
structure Handlers where
  room : RoomSync
  calls : Nat → Option Call

namespace Handlers

inductive Event where
  | request (id : Nat) (userID : String) (command : Command) (fencingToken : Nat)
  | advance (id : Nat) (answer : Except Err Bool) (nowMs : Int) (now : Time)
  | room (event : RoomSync.Event)

def start (rs : RoomSync) : Handlers := ⟨rs, fun _ => none⟩

/-- A request without a user is refused before the room is looked at. -/
def accept (userID : String) (command : Command) (fencingToken : Nat) : Call :=
  let call : Call := { userID, command, fencingToken, phase := .readHost }
  if userID = "" then call.fail (.unauthenticated "MISSING_USER_ID") else call

def step (s : Handlers) : Event → Handlers
  | .request id userID command fencingToken =>
    { s with calls := Function.update s.calls id (some (accept userID command fencingToken)) }
  | .advance id answer nowMs now =>
    match s.calls id with
    | some call =>
      let (next, room) := call.step s.room answer nowMs now
      { room, calls := Function.update s.calls id (some next) }
    | none => s
  | .room event => { s with room := s.room.step event }

end Handlers

end VibeSync.Sync
