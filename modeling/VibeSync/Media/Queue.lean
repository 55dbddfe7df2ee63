import VibeSync.PartialMap
import VibeSync.Sync.RoomClient

/-! The queue of the Media service: its table, the statements of the Postgres
repository and the use cases over it. `INSERT ... SELECT MAX(position)` runs as
two statements, because the row is inserted after the maximum has been read. -/

namespace VibeSync.Media
open Transaction

inductive Key where
  | item (id : String)
  | queue (roomID : String) (position : Nat)
  deriving DecidableEq

structure QueueRow where
  mediaID : String
  addedAt : Time
  deriving DecidableEq, Repr

structure QueueItem where
  roomID : String
  position : Nat
  mediaID : String
  addedAt : Time
  deriving DecidableEq, Repr

/-- Of a catalogue item only its presence is looked at. -/
@[reducible] def Row : Key → Type
  | .item _ => Unit
  | .queue _ _ => QueueRow

inductive Statement where
  | mediaByID (id : String)
  | maxPosition (roomID : String)
  | queueInsert (roomID : String) (position : Nat) (mediaID : String) (addedAt : Time)
  | queueList (roomID : String)
  | queueDelete (roomID : String) (position : Nat)
  | queueShift (roomID : String) (position : Nat)

@[reducible] def Reply : Statement → Type
  | .mediaByID _ => Option Unit
  | .maxPosition _ => Option Nat
  | .queueInsert _ _ _ _ => QueueItem
  | .queueList _ => List QueueItem
  | .queueDelete _ _ => Nat
  | .queueShift _ _ => Unit

abbrev View : Type := (key : Key) → Option (Row key)

abbrev Changes : Type := (key : Key) → Option (Option (Row key))

namespace Tables

def item (view : View) (id : String) : Option Unit := view (.item id)

def queue (view : View) (roomID : String) (position : Nat) : Option QueueRow := view (.queue roomID position)

def unchanged : Changes := fun _ => none

/-- Positions from here on do not fit into an `INTEGER` column. -/
def positions : Nat := 2147483648

def maxPosition (view : View) (roomID : String) : Option Nat := PartialMap.lastBelow (queue view roomID) positions

def putQueue (roomID : String) (position : Nat) (row : QueueRow) : Changes
  | .queue room key => if room = roomID ∧ key = position then some (some row) else none
  | _ => none

def insertAt (view : View) (roomID : String) (position : Nat) (mediaID : String) (addedAt : Time) :
    Except Err (QueueItem × Changes) :=
  if positions ≤ position then .error (.plain "ERROR: integer out of range (SQLSTATE 22003)")
  else if (queue view roomID position).isSome then .error (.uniqueViolation "media_queue_pkey")
  else if (item view mediaID).isNone then .error (.foreignKeyViolation "media_queue" "media_queue_media_id_fkey")
  else .ok (⟨roomID, position, mediaID, addedAt⟩, putQueue roomID position ⟨mediaID, addedAt⟩)

def list (view : View) (roomID : String) : List QueueItem :=
  (List.range positions).filterMap fun position =>
    (queue view roomID position).map fun row => ⟨roomID, position, row.mediaID, row.addedAt⟩

def deleteQueue (view : View) (roomID : String) (position : Nat) : Changes
  | .queue room key => if room = roomID ∧ key = position then (queue view room key).map fun _ => none else none
  | _ => none

/-- The rows affected, and the deletion. -/
def deleteAt (view : View) (roomID : String) (position : Nat) : Except Err (Nat × Changes) := do
  Rooms.Tables.encodeInt4 position
  .ok (if (queue view roomID position).isSome then 1 else 0, deleteQueue view roomID position)

/-- Each later row takes the place before it, and the last place becomes free. -/
def shiftQueue (view : View) (roomID : String) (position : Nat) : Changes
  | .queue room key =>
    if room = roomID ∧ position ≤ key then
      match queue view room (key + 1) with
      | some row => some (some row)
      | none => if position < key then (queue view room key).map fun _ => none else none
    else none
  | _ => none

def shiftAfter (view : View) (roomID : String) (position : Nat) : Except Err (Unit × Changes) := do
  Rooms.Tables.encodeInt4 position
  .ok ((), shiftQueue view roomID position)

/-- The rows behind a position. -/
def rowsAfter (view : View) (roomID : String) (position : Nat) : List Nat :=
  (List.range positions).filter fun key => position < key ∧ (queue view roomID key).isSome

def moveDown (view : View) (roomID : String) (position : Nat) : View
  | .item id => view (.item id)
  | .queue room key =>
    if room = roomID then PartialMap.stepDown (queue view roomID) position key else view (.queue room key)

/-- The same UPDATE row by row: each row takes the place before it, and the
primary key is checked at once. -/
def renumber (roomID : String) : List Nat → View → Except Err View
  | [], view => .ok view
  | position :: rest, view =>
    if (queue view roomID (position - 1)).isSome then .error (.uniqueViolation "media_queue_pkey")
    else renumber roomID rest (moveDown view roomID position)

def execute : (statement : Statement) → View → Except Err (Reply statement × Changes)
  | .mediaByID id, view => .ok (item view id, unchanged)
  | .maxPosition roomID, view => .ok (maxPosition view roomID, unchanged)
  | .queueInsert roomID position mediaID addedAt, view => insertAt view roomID position mediaID addedAt
  | .queueList roomID, view => .ok (list view roomID, unchanged)
  | .queueDelete roomID position, view => deleteAt view roomID position
  | .queueShift roomID position, view => shiftAfter view roomID position

end Tables

abbrev database : Database where
  Key := Key
  Row := Row
  Error := Err
  Statement := Statement
  Reply := Reply
  execute := Tables.execute

abbrev Tx (α : Type) : Type := Program database Err α

namespace Repo

def sql (statement : Statement) (context : String) : Tx (Reply statement) :=
  @Program.query database Err statement (Err.wrapped context)

def mediaByID (id : String) : Tx (Option Unit) := (sql (.mediaByID id) "media" :)

/-- `COALESCE(MAX(position), -1) + 1`. -/
def nextPosition : Option Nat → Nat
  | none => 0
  | some position => position + 1

def queueAdd (databaseNow : Time) (roomID mediaID : String) : Tx QueueItem := do
  let last ← (sql (.maxPosition roomID) "queue_repo: add" :)
  (sql (.queueInsert roomID (nextPosition last) mediaID databaseNow) "queue_repo: add" :)

def queueList (roomID : String) : Tx (List QueueItem) := (sql (.queueList roomID) "queue_repo: list" :)

def queueRemove (roomID : String) (position : Nat) : Tx Unit := do
  let affected ← (sql (.queueDelete roomID position) "queue_repo: delete" :)
  if affected = 0 then Program.fail (.missing "queue" (roomID ++ "/" ++ toString position))
  else (sql (.queueShift roomID position) "queue_repo: renumber" :)

end Repo

/-- The order in which an UPDATE visits its rows. -/
structure VisitOrder where
  visit : List Nat → List Nat
  perm : ∀ rows, (visit rows).Perm rows

/-- `Remove` in a transaction of its own, renumbering row by row. No row has a
negative position. -/
def removeVisiting (order : VisitOrder) (roomID : String) (position : Int32) (store : Store database) :
    Except Err Unit × Store database :=
  let absent : Err := .missing "queue" (roomID ++ "/" ++ toString position.toInt)
  match position.toInt with
  | .negSucc _ => (.error absent, store)
  | .ofNat key =>
    match Tables.deleteAt store roomID key with
    | .error problem => (.error (.wrapped "queue_repo: delete" problem), store)
    | .ok (affected, written) =>
      if affected = 0 then (.error absent, store)
      else
        let deleted := store.write written
        match Tables.renumber roomID (order.visit (Tables.rowsAfter deleted roomID key)) deleted with
        | .error problem => (.error (.wrapped "queue_repo: renumber" problem), store)
        | .ok after => (.ok (), after)

/-! Use cases. -/

abbrev Perms : Type := String → String → Sync.RoomPermission → Except Err Bool

structure QueueItemMessage where
  mediaID : String
  position : UInt32
  addedAt : Time

def queueItemToProto (item : QueueItem) : QueueItemMessage := ⟨item.mediaID, .ofNat item.position, item.addedAt⟩

/-- `errors.Is` with the sentinel of the ports. -/
def isNotFound : Err → Bool
  | .missing _ _ => true
  | .wrapped _ cause => isNotFound cause
  | .vibe _ _ _ _ _ (some cause) => isNotFound cause
  | _ => false

def requireQueuePermission (perms : Perms) (userID roomID : String) (perm : Sync.RoomPermission) (action : String) :
    Except Err Unit :=
  if userID = "" then .error (.unauthenticated "MISSING_USER_ID")
  else
    match perms roomID userID perm with
    | .error err => .error ((Err.internal "PERMISSION_CHECK_FAILED" err.text).withCause (some err))
    | .ok false => .error (.permissionDenied action ("room:" ++ roomID))
    | .ok true => .ok ()

def addToQueueBody (databaseNow : Time) (roomID mediaID : String) : Tx QueueItem := do
  match ← Repo.mediaByID mediaID with
  | none => Program.fail (.missing "media" mediaID)
  | some _ => Repo.queueAdd databaseNow roomID mediaID

def addToQueue (perms : Perms) (databaseNow : Time) (subject : Rooms.Subject) (roomID mediaID : String)
    (store : Store database) : Except Err QueueItemMessage × Store database :=
  if subject.atLeast .user then
    if roomID = "" ∨ mediaID = "" then
      (.error (.invalidArgumentFor "vibesync.media" "MISSING_ID" "room_id and media_id required"), store)
    else
      match requireQueuePermission perms subject.userID roomID .addQueue "media.queue.add" with
      | .error err => (.error err, store)
      | .ok _ =>
        match (addToQueueBody databaseNow roomID mediaID).withTx store with
        | (.error err, after) =>
          if isNotFound err then (.error (.notFound "media" mediaID), after)
          else (.error ((Err.internal "ADD_TO_QUEUE_FAILED" err.text).withCause (some err)), after)
        | (.ok item, after) => (.ok (queueItemToProto item), after)
  else (.error (.permissionDenied "media.queue.add" "media-queue"), store)

def getQueue (roomID : String) (store : Store database) : Except Err (List QueueItemMessage) :=
  match ((Repo.queueList roomID).withTx store).1 with
  | .error err => .error ((Err.internal "GET_QUEUE_FAILED" err.text).withCause (some err))
  | .ok items => .ok (items.map queueItemToProto)

def removeFromQueue (perms : Perms) (subject : Rooms.Subject) (roomID : String) (position : UInt32)
    (store : Store database) : Except Err Bool × Store database :=
  if subject.atLeast .user then
    match requireQueuePermission perms subject.userID roomID .removeQueue "media.queue.remove" with
    | .error err => (.error err, store)
    | .ok _ =>
      match (Repo.queueRemove roomID position.toNat).withTx store with
      | (.error err, after) =>
        if isNotFound err then (.error (.notFound "queue" (roomID ++ ":" ++ toString position)), after)
        else (.error ((Err.internal "REMOVE_FROM_QUEUE_FAILED" err.text).withCause (some err)), after)
      | (.ok _, after) => (.ok true, after)
  else (.error (.permissionDenied "media.queue.remove" "media-queue"), store)

end VibeSync.Media
