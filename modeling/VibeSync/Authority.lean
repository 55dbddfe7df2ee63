import VibeSync.Media.Queue
import VibeSync.Sync.Service

/-! The Room, the Media and the Sync service together, as far as it matters who may
do what in a room. The Media and the Sync service ask the Room service for the
permissions of a caller and act on the answer later, and the Sync service hears
from it who has created a room. Each database transaction runs whole. -/

namespace VibeSync.Authority
open Transaction

inductive QueueEdit where
  | addToQueue (mediaID : String)
  | removeFromQueue (position : UInt32)

def QueueEdit.permission : QueueEdit → Sync.RoomPermission
  | .addToQueue _ => .addQueue
  | .removeFromQueue _ => .removeQueue

/-- A request to edit a queue, with what the Room service has answered to it. -/
structure QueueCall where
  subject : Rooms.Subject
  roomID : String
  edit : QueueEdit
  answer : Except Err Bool

/-- The handler after the question: its transaction sees the queue as it is by then. -/
def QueueCall.finish (call : QueueCall) (databaseNow : Time) (store : Store Media.database) : Store Media.database :=
  match call.edit with
  | .addToQueue mediaID => (Media.addToQueue (fun _ _ _ => call.answer) databaseNow call.subject call.roomID mediaID store).2
  | .removeFromQueue position => (Media.removeFromQueue (fun _ _ _ => call.answer) call.subject call.roomID position store).2

structure World where
  rooms : Store Rooms.database
  media : Store Media.database
  sync : Sync.Service
  /-- The commands in progress, each with its room. -/
  calls : Nat → Option (String × Sync.Call)
  /-- The requests to the Media service that have been answered by the Room service. -/
  edits : Nat → Option QueueCall

inductive Event where
  | rooms (env : Rooms.Env) (request : Rooms.Request)
  /-- A message of the Room service's outbox reaches the Sync service, for the first time or again. -/
  | deliver (id : String) (now : Time)
  | sync (event : Sync.Service.Event)
  | command (id : Nat) (roomID userID : String) (command : Sync.Command) (fencingToken : Nat) (failure : Option Err)
  /-- The next step of a command; `failure` is a failed question to the Room service. -/
  | advance (id : Nat) (failure : Option Err) (nowMs : Int) (now : Time)
  /-- A request to edit a queue comes in, and the Room service is asked about it. -/
  | edit (id : Nat) (failure : Option Err) (subject : Rooms.Subject) (roomID : String) (edit : QueueEdit)
  | finish (id : Nat) (databaseNow : Time)

/-- Commands and owners reach a room by the events above only. -/
def ofItsOwn : Sync.Service.Event → Bool
  | .roomCreated _ _ _ => false
  | .room _ ⟨.command _ _, _, _⟩ | .room _ ⟨.adoptOwner _, _, _⟩ => false
  | _ => true

namespace World

def start (cfg : Sync.SyncConfig) (media : Store Media.database) : World :=
  ⟨fun _ => none, media, .start cfg, fun _ => none, fun _ => none⟩

/-- A question to the Room service, which may fail on its way. -/
def ask (w : World) (failure : Option Err) (roomID userID : String) (permission : Sync.RoomPermission) : Except Err Bool :=
  match failure with
  | some err => .error err
  | none => Sync.has w.rooms roomID userID permission

/-- What a call hears at its present step; only one of its steps asks. -/
def answer (w : World) (call : Sync.Call) (room : Sync.RoomSync) (failure : Option Err) : Except Err Bool :=
  match call.phase with
  | .askPermission permission => w.ask failure room.roomID call.userID permission
  | _ => .ok false

/-- The handler refuses a command without a room or a user, and looks the room up. -/
def command (w : World) (id : Nat) (roomID userID : String) (command : Sync.Command) (fencingToken : Nat)
    (failure : Option Err) : World :=
  if roomID = "" ∨ userID = "" then w
  else { w with
    sync := w.sync.step (.getOrCreate roomID failure)
    calls := Function.update w.calls id (some (roomID, Sync.Handlers.accept userID command fencingToken)) }

def advance (w : World) (id : Nat) (failure : Option Err) (nowMs : Int) (now : Time) : World :=
  match w.calls id with
  | none => w
  | some (roomID, call) => match w.sync.room roomID with
    | none => w
    | some room =>
      let (next, after) := call.step room (w.answer call room failure) nowMs now
      { w with
        sync := { w.sync with manager := w.sync.manager.put roomID after }
        calls := Function.update w.calls id (some (roomID, next)) }

def edit (w : World) (id : Nat) (failure : Option Err) (subject : Rooms.Subject) (roomID : String) (edit : QueueEdit) : World :=
  let answer := w.ask failure roomID subject.userID edit.permission
  { w with edits := Function.update w.edits id (some ⟨subject, roomID, edit, answer⟩) }

def finish (w : World) (id : Nat) (databaseNow : Time) : World :=
  match w.edits id with
  | none => w
  | some call => { w with media := call.finish databaseNow w.media, edits := Function.update w.edits id none }

def deliver (w : World) (id : String) (now : Time) : World :=
  match w.rooms (.outbox id) with
  | none => w
  | some row => if row.event.topic = "room.created.v1" then { w with sync := w.sync.handleMessage row.event.payload now } else w

/-- A crash of the Sync service ends the commands in progress. -/
def own (w : World) (event : Sync.Service.Event) : World :=
  if ofItsOwn event then
    { w with
      sync := w.sync.step event
      calls := match event with
        | .crash => fun _ => none
        | _ => w.calls }
  else w

def step (w : World) : Event → World
  | .rooms env request => { w with rooms := Rooms.serve w.rooms (env, request) }
  | .deliver id now => w.deliver id now
  | .sync event => w.own event
  | .command id roomID userID command fencingToken failure => w.command id roomID userID command fencingToken failure
  | .advance id failure nowMs now => w.advance id failure nowMs now
  | .edit id failure subject roomID edit => w.edit id failure subject roomID edit
  | .finish id databaseNow => w.finish id databaseNow

end World

end VibeSync.Authority
