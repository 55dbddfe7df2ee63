import VibeSync.Media.Queue
import VibeSync.Proofs.TransactionLogic

/-! The positions of the media queue under any interleaving of `AddToQueue` and
`RemoveFromQueue`. They stay dense as long as the calls on one room take turns
with their writes and no insert uses a maximum that has become stale. -/

namespace VibeSync.Proofs.MediaQueue
open VibeSync.Media Transaction PartialMap

/-! Statements. -/

section Statements
variable {view : View} {written : Changes}

theorem execute_mediaByID (view : View) (id : String) :
    database.execute (.mediaByID id) view = .ok (Tables.item view id, Writes.empty) := rfl

theorem insertAt_ok {roomID mediaID : String} {position : Nat} {addedAt : Time} {item : QueueItem}
    (inserted : Tables.insertAt view roomID position mediaID addedAt = .ok (item, written)) :
    position < Tables.positions ∧ written = Tables.putQueue roomID position ⟨mediaID, addedAt⟩ := by
  rw [Tables.insertAt] at inserted
  split at inserted
  · cases inserted
  next fits =>
    split at inserted
    · cases inserted
    split at inserted
    · cases inserted
    cases inserted
    exact ⟨Nat.lt_of_not_le fits, rfl⟩

theorem insertAt_free {roomID mediaID : String} {position : Nat} (addedAt : Time) (fits : position < Tables.positions)
    (free : Tables.queue view roomID position = none) (known : (Tables.item view mediaID).isSome) :
    Tables.insertAt view roomID position mediaID addedAt =
      .ok (⟨roomID, position, mediaID, addedAt⟩, Tables.putQueue roomID position ⟨mediaID, addedAt⟩) := by
  have open_ : ¬ (Tables.queue view roomID position).isSome := by
    rw [free]
    exact Bool.false_ne_true
  have listed : ¬ (Tables.item view mediaID).isNone := by
    rw [← Option.not_isSome, known]
    exact Bool.false_ne_true
  rw [Tables.insertAt, if_neg (Nat.not_le_of_lt fits), if_neg open_, if_neg listed]

theorem deleteAt_ok {roomID : String} {position affected : Nat}
    (deleted : Tables.deleteAt view roomID position = .ok (affected, written)) :
    written = Tables.deleteQueue view roomID position ∧ (affected ≠ 0 → (Tables.queue view roomID position).isSome) := by
  simp only [Tables.deleteAt, Rooms.Tables.encodeInt4, bind, Except.bind] at deleted
  split at deleted
  · cases deleted
  · cases deleted
    refine ⟨rfl, fun some_rows => ?_⟩
    by_contra absent
    exact some_rows (if_neg absent)

theorem shiftAfter_ok {roomID : String} {position : Nat}
    (shifted : Tables.shiftAfter view roomID position = .ok ((), written)) :
    written = Tables.shiftQueue view roomID position := by
  simp only [Tables.shiftAfter, Rooms.Tables.encodeInt4, bind, Except.bind] at shifted
  split at shifted
  · cases shifted
  · cases shifted
    rfl

end Statements

theorem queue_write (store : Store database) (written : Writes database) (roomID : String) (position : Nat) :
    Tables.queue (store.write written) roomID position =
      (written (.queue roomID position)).getD (Tables.queue store roomID position) := rfl

theorem item_write (store : Store database) (written : Writes database) (id : String) :
    Tables.item (store.write written) id = (written (.item id)).getD (Tables.item store id) := rfl

theorem putQueue_write (store : Store database) (roomID : String) (position : Nat) (row : QueueRow) :
    Tables.queue (store.write (Tables.putQueue roomID position row)) roomID =
      Function.update (Tables.queue store roomID) position (some row) := by
  funext key
  rw [queue_write, Tables.putQueue]
  by_cases same : key = position
  · rw [if_pos ⟨rfl, same⟩, same, Function.update_self]
    rfl
  · rw [if_neg (fun both => same both.2), Function.update_of_ne same]
    rfl

theorem deleteQueue_write (store : Store database) (roomID : String) (position : Nat) :
    Tables.queue (store.write (Tables.deleteQueue store roomID position)) roomID =
      Function.update (Tables.queue store roomID) position none := by
  funext key
  rw [queue_write, Tables.deleteQueue]
  by_cases same : key = position
  · rw [if_pos ⟨rfl, same⟩, same, Function.update_self]
    cases Tables.queue store roomID position <;> rfl
  · rw [if_neg (fun both => same both.2), Function.update_of_ne same]
    rfl

/-- Once its row is gone, the position is closed by the shift. -/
theorem shiftQueue_write (view : View) (roomID : String) (position : Nat) (gone : Tables.queue view roomID position = none) :
    Tables.queue (Store.write view (Tables.shiftQueue view roomID position) : Store database) roomID =
      closeGap (Tables.queue view roomID) position := by
  funext key
  rw [queue_write, Tables.shiftQueue, closeGap]
  by_cases earlier : key < position
  · rw [if_neg (fun both => Nat.not_le_of_lt earlier both.2), if_pos earlier]
    rfl
  · rw [if_pos ⟨rfl, Nat.le_of_not_lt earlier⟩, if_neg earlier]
    cases later : Tables.queue view roomID (key + 1) with
    | some row => rfl
    | none =>
      dsimp only
      by_cases beyond : position < key
      · rw [if_pos beyond]
        cases Tables.queue view roomID key <;> rfl
      · have same : key = position := by omega
        rw [if_neg beyond, same]
        exact gone

/-! The queue of a room. -/

def Queued (store : Store database) : Prop :=
  ∀ roomID, ∃ count, count ≤ Tables.positions ∧ Dense (Tables.queue store roomID) count

theorem nextPosition_dense {store : Store database} {roomID : String} {count : Nat}
    (dense : Dense (Tables.queue store roomID) count) (fits : count ≤ Tables.positions) :
    Repo.nextPosition (Tables.maxPosition store roomID) = count := by
  rw [Tables.maxPosition]
  cases count with
  | zero =>
    rw [dense.last_none]
    rfl
  | succ count =>
    rw [dense.last (by omega)]
    rfl

theorem queueList_withTx (store : Store database) (roomID : String) :
    (Repo.queueList roomID).withTx store = (.ok (Tables.list store roomID), store) := by
  have executed : database.execute (.queueList roomID) (store.write Writes.empty) =
      .ok (Tables.list store roomID, Writes.empty) := rfl
  have answered : (Repo.queueList roomID).run store Writes.empty = (.ok (Tables.list store roomID), Writes.empty) := by
    rw [← Program.bind_pure (Repo.queueList roomID)]
    exact Program.run_query executed
  rw [Program.withTx, answered]
  rfl

/-- `GetQueue` answers with the positions in order. -/
theorem getQueue_positions {store : Store database} {roomID : String} {count : Nat}
    (dense : Dense (Tables.queue store roomID) count) (fits : count ≤ Tables.positions) :
    ∃ items, getQueue roomID store = .ok items ∧ items.map QueueItemMessage.position = (List.range count).map UInt32.ofNat := by
  refine ⟨(Tables.list store roomID).map queueItemToProto, ?_, ?_⟩
  · rw [getQueue, queueList_withTx]
  · have listed := dense.keys_below Tables.positions
    rw [Nat.min_eq_left fits] at listed
    rw [← listed, List.map_map, Tables.list, List.map_filterMap, List.map_filterMap]
    apply List.filterMap_congr
    intro position _
    cases Tables.queue store roomID position <;> rfl

/-- What one call does to a queue: nothing, one row behind the last, or one row less. -/
inductive Edit (before after : Nat → Option QueueRow) : Prop where
  | keep (same : after = before)
  | append (count : Nat) (row : QueueRow) (dense : Dense before count) (added : after = Function.update before count (some row))
  | remove (position : Nat) (present : (before position).isSome) (closed : after = closeGap before position)

/-! The handlers: an error leaves the store as it was, and an answer comes from the
call's transaction, once the permission it needs is confirmed. -/

theorem requireQueuePermission_ok {perms : Perms} {roomID userID : String} {permission : Sync.RoomPermission} {action : String} {done : Unit}
    (passed : requireQueuePermission perms userID roomID permission action = .ok done) :
    perms roomID userID permission = .ok true := by
  unfold requireQueuePermission at passed
  split at passed
  · cases passed
  split at passed
  · cases passed
  · cases passed
  · assumption

theorem addToQueue_cases (perms : Perms) (databaseNow : Time) (subject : Rooms.Subject) (roomID mediaID : String)
    (store : Store database) :
    (∃ err, addToQueue perms databaseNow subject roomID mediaID store = (.error err, store)) ∨
      perms roomID subject.userID .addQueue = .ok true ∧
        ∃ item after, addToQueue perms databaseNow subject roomID mediaID store = (.ok (queueItemToProto item), after) ∧
          (addToQueueBody databaseNow roomID mediaID).withTx store = (.ok item, after) := by
  rw [addToQueue]
  split
  · split
    · exact Or.inl ⟨_, rfl⟩
    split
    · exact Or.inl ⟨_, rfl⟩
    next passed =>
      rcases Program.withTx_cases (addToQueueBody databaseNow roomID mediaID) store with ⟨err, failed⟩ | ⟨item, after, done, _⟩
      · rw [failed]
        dsimp only
        split
        · exact Or.inl ⟨_, rfl⟩
        · exact Or.inl ⟨_, rfl⟩
      · rw [done]
        exact Or.inr ⟨requireQueuePermission_ok passed, item, after, rfl, rfl⟩
  · exact Or.inl ⟨_, rfl⟩

theorem removeFromQueue_cases (perms : Perms) (subject : Rooms.Subject) (roomID : String) (position : UInt32)
    (store : Store database) :
    (∃ err, removeFromQueue perms subject roomID position store = (.error err, store)) ∨
      perms roomID subject.userID .removeQueue = .ok true ∧
        ∃ after, removeFromQueue perms subject roomID position store = (.ok true, after) ∧
          (Repo.queueRemove roomID position.toNat).withTx store = (.ok (), after) := by
  rw [removeFromQueue]
  split
  · split
    · exact Or.inl ⟨_, rfl⟩
    next passed =>
      rcases Program.withTx_cases (Repo.queueRemove roomID position.toNat) store with ⟨err, failed⟩ | ⟨_, after, done, _⟩
      · rw [failed]
        dsimp only
        split
        · exact Or.inl ⟨_, rfl⟩
        · exact Or.inl ⟨_, rfl⟩
      · rw [done]
        exact Or.inr ⟨requireQueuePermission_ok passed, after, rfl, rfl⟩
  · exact Or.inl ⟨_, rfl⟩

/-! The discipline. -/

/-- The maximum that an insert has been computed from is still the committed one,
and the column has room for the next position. -/
def Current (store : Store database) : Statement → Prop
  | .queueInsert roomID position _ _ =>
    position = Repo.nextPosition (Tables.maxPosition store roomID) ∧ position < Tables.positions
  | _ => True

/-- The queue of a room has uncommitted writes of one transaction at a time. -/
def Turns (first second : Writes database) : Prop :=
  ∀ roomID, (∀ position, first (.queue roomID position) = none) ∨ ∀ position, second (.queue roomID position) = none

inductive Call : Program database Err Unit → Prop where
  | add (databaseNow : Time) (roomID mediaID : String) : Call (addToQueueBody databaseNow roomID mediaID).discard
  | remove (roomID : String) (position : Nat) : Call (Repo.queueRemove roomID position)

structure Serves (before after : Store database) : Prop where
  items : ∀ id, Tables.item after id = Tables.item before id
  queues : ∀ roomID, Edit (Tables.queue before roomID) (Tables.queue after roomID)

/-- When an insert is next, its call has written nothing and its media item is there. -/
def Ready (store : Store database) (own : Writes database) : Statement → Prop
  | .queueInsert _ _ mediaID _ => own = Writes.empty ∧ (Tables.item store mediaID).isSome
  | _ => True

def queueing : Discipline database where
  invariant := Queued
  guarantee store own := Serves store (store.write own)
  allowed := Current
  compatible := Turns
  expects := Ready

/-! Assertions. -/

structure Catalogued (mediaID : String) (store : Store database) (own : Writes database) : Prop where
  silent : own = Writes.empty
  known : (Tables.item store mediaID).isSome

theorem catalogued_stable (mediaID : String) : queueing.Stable (Catalogued mediaID) := by
  intro store own other _ within _ _ catalogued
  refine ⟨catalogued.silent, ?_⟩
  rw [within.items mediaID]
  exact catalogued.known

/-- The call has its turn: one queue is about to change. -/
structure Editing (roomID : String) (before after : Nat → Option QueueRow) (store : Store database)
    (own : Writes database) : Prop where
  found : Tables.queue store roomID = before
  edited : Tables.queue (store.write own) roomID = after
  turn : ∃ position row, own (.queue roomID position) = some row
  elsewhere : ∀ other, other ≠ roomID → ∀ position, own (.queue other position) = none
  items : ∀ id, own (.item id) = none

theorem editing_stable (roomID : String) (before after : Nat → Option QueueRow) :
    queueing.Stable (Editing roomID before after) := by
  intro store own other _ _ _ turns editing
  obtain ⟨position, row, held⟩ := editing.turn
  have free : ∀ position, other (.queue roomID position) = none := by
    rcases turns roomID with mine | theirs
    · rw [mine position] at held
      cases held
    · exact theirs
  have same : Tables.queue (store.write other) roomID = Tables.queue store roomID := by
    funext key
    rw [queue_write, free key]
    rfl
  refine ⟨same.trans editing.found, ?_, editing.turn, editing.elsewhere, editing.items⟩
  rw [← editing.edited]
  funext key
  rw [queue_write, congrFun same key]
  rfl

theorem Editing.commit {roomID : String} {before after : Nat → Option QueueRow} {store : Store database}
    {own : Writes database} (editing : Editing roomID before after store own) (edit : Edit before after)
    (queued : Queued store) (dense : ∃ count, count ≤ Tables.positions ∧ Dense after count) :
    Serves store (store.write own) ∧ Queued (store.write own) := by
  have others : ∀ other, other ≠ roomID → Tables.queue (store.write own) other = Tables.queue store other := by
    intro other different
    funext key
    rw [queue_write, editing.elsewhere other different key]
    rfl
  refine ⟨⟨fun id => ?_, fun other => ?_⟩, fun other => ?_⟩
  · rw [item_write, editing.items id]
    rfl
  · by_cases same : other = roomID
    · rw [same, editing.found, editing.edited]
      exact edit
    · exact .keep (others other same)
  · by_cases same : other = roomID
    · rw [same, editing.edited]
      exact dense
    · rw [others other same]
      exact queued other

theorem editing_put (store : Store database) (roomID : String) (position : Nat) (row : QueueRow) :
    Editing roomID (Tables.queue store roomID) (Function.update (Tables.queue store roomID) position (some row)) store
      (Tables.putQueue roomID position row) :=
  ⟨rfl, putQueue_write store roomID position row, ⟨position, some row, if_pos ⟨rfl, rfl⟩⟩,
    fun _ different _ => if_neg fun both => different both.1, fun _ => rfl⟩

theorem editing_delete {store : Store database} {roomID : String} {position : Nat}
    (present : (Tables.queue store roomID position).isSome) :
    Editing roomID (Tables.queue store roomID) (Function.update (Tables.queue store roomID) position none) store
      (Tables.deleteQueue store roomID position) := by
  obtain ⟨row, found⟩ := Option.isSome_iff_exists.mp present
  refine ⟨rfl, deleteQueue_write store roomID position, ⟨position, none, ?_⟩,
    fun _ different _ => if_neg fun both => different both.1, fun _ => rfl⟩
  rw [Tables.deleteQueue, if_pos ⟨rfl, rfl⟩, found]
  rfl

theorem Editing.shift {roomID : String} {position : Nat} {before : Nat → Option QueueRow} {store : Store database}
    {own : Writes database} (editing : Editing roomID before (Function.update before position none) store own) :
    Editing roomID before (closeGap before position) store
      (own.andThen (Tables.shiftQueue (store.write own) roomID position)) := by
  have gone : Tables.queue (store.write own) roomID position = none := by
    rw [editing.edited, Function.update_self]
  obtain ⟨held, row, locked⟩ := editing.turn
  refine ⟨editing.found, ?_, ⟨held, ?_⟩, fun other different key => ?_, fun id => ?_⟩
  · rw [Store.write_andThen, shiftQueue_write _ _ _ gone, editing.edited, closeGap_update]
  · rw [Writes.andThen, locked]
    cases Tables.shiftQueue (store.write own) roomID position (.queue roomID held) with
    | none => exact ⟨row, rfl⟩
    | some new => exact ⟨new, rfl⟩
  · rw [Writes.andThen, editing.elsewhere other different key, Tables.shiftQueue, if_neg (fun both => different both.1)]
    rfl
  · rw [Writes.andThen, editing.items id]
    rfl

/-! The calls keep the discipline. -/

theorem outline_add (databaseNow : Time) (roomID mediaID : String) :
    queueing.Outline (addToQueueBody databaseNow roomID mediaID) Rules.Untouched := by
  refine Discipline.Outline.query _ (fun _ _ _ _ => trivial) ?_
  intro store own reply written _ untouched _ executed
  cases untouched
  have found : Tables.item store mediaID = reply ∧ written = Writes.empty := by
    cases executed
    exact ⟨rfl, rfl⟩
  cases reply with
  | none => exact Discipline.Outline.fail queueing _
  | some _ =>
    refine ⟨Catalogued mediaID, catalogued_stable mediaID, ⟨?_, ?_⟩, ?_⟩
    · rw [found.2, Writes.andThen_empty]
    · rw [found.1]
      rfl
    refine Discipline.Outline.query _ (fun _ _ _ _ => trivial) ?_
    intro store own last written _ catalogued _ executed
    refine ⟨Catalogued mediaID, catalogued_stable mediaID, ?_, ?_⟩
    · have silent : written = Writes.empty := by
        cases executed
        rfl
      rw [silent, Writes.andThen_empty]
      exact catalogued
    refine ⟨fun _ _ _ catalogued => ⟨catalogued.silent, catalogued.known⟩, ?_⟩
    intro store own item written queued catalogued current executed
    cases catalogued.silent
    obtain ⟨fits, same⟩ := insertAt_ok executed
    obtain ⟨count, _, dense⟩ := queued roomID
    have place : Repo.nextPosition last = count := current.1.trans (nextPosition_dense dense (by assumption))
    rw [place] at same fits
    rw [same, Writes.empty_andThen]
    refine ⟨_, editing_stable _ _ _, editing_put store roomID count ⟨mediaID, databaseNow⟩, ?_⟩
    intro store own queued editing
    exact editing.commit (.append count _ dense rfl) queued ⟨count + 1, fits, dense.push _⟩

theorem outline_remove (roomID : String) (position : Nat) :
    queueing.Outline (Repo.queueRemove roomID position) Rules.Untouched := by
  refine Discipline.Outline.query _ (fun _ _ _ _ => trivial) ?_
  intro store own affected written queued untouched _ executed
  cases untouched
  obtain ⟨same, present⟩ := deleteAt_ok executed
  obtain ⟨count, fits, dense⟩ := queued roomID
  by_cases nothing : affected = 0
  · rw [if_pos nothing]
    exact Discipline.Outline.fail queueing _
  · have there := present nothing
    have inside := (dense position).mp there
    obtain ⟨fewer, rfl⟩ : ∃ fewer, count = fewer + 1 := ⟨count - 1, by omega⟩
    rw [same, Writes.empty_andThen, if_neg nothing]
    refine ⟨_, editing_stable _ _ _, editing_delete there, fun _ _ _ _ => trivial, ?_⟩
    intro later own _ written _ editing _ executed
    rw [shiftAfter_ok executed]
    refine ⟨_, editing_stable _ _ _, editing.shift, ?_⟩
    intro last final queued editing
    exact editing.commit (.remove position there rfl) queued ⟨fewer, by omega, dense.closeGap (by omega)⟩

theorem call_outline (program : Program database Err Unit) (started : Call program) :
    queueing.Outline program Rules.Untouched := by
  cases started with
  | add databaseNow roomID mediaID => exact Discipline.Outline.discard _ (outline_add databaseNow roomID mediaID)
  | remove roomID position => exact outline_remove roomID position

/-- If the calls on a room take turns with their writes and no insert is stale,
the committed positions of every room are `0..n-1`, every commit leaves a queue as
it was, adds a row behind its last or takes one out, and no insert fails. -/
theorem queue_dense_in_turns (store : Store database) (system : System database Err Unit) (queued : Queued store)
    (run : DisciplinedRun Call Current Turns (System.idle store) system) :
    (∀ roomID, ∃ count, ∀ position, (Tables.queue system.committed roomID position).isSome ↔ position < count) ∧
    (∀ after, Step Call Current system after → ∀ roomID,
      Edit (Tables.queue system.committed roomID) (Tables.queue after.committed roomID)) ∧
    ∀ tx roomID position mediaID addedAt failed next writes,
      system.active tx = some ⟨.statement (.queueInsert roomID position mediaID addedAt) failed next, writes⟩ →
      Current system.committed (.queueInsert roomID position mediaID addedAt) →
      database.execute (.queueInsert roomID position mediaID addedAt) (system.committed.write writes) =
        .ok (⟨roomID, position, mediaID, addedAt⟩, Tables.putQueue roomID position ⟨mediaID, addedAt⟩) := by
  obtain ⟨safe, turns⟩ := Discipline.safe_of_run call_outline queued run
  have kept : Queued system.committed := safe.store
  refine ⟨fun roomID => ?_, fun after step roomID => ?_, ?_⟩
  · obtain ⟨count, _, dense⟩ := kept roomID
    exact ⟨count, dense⟩
  · obtain ⟨moves, _⟩ := safe.step call_outline step turns
    rcases moves with same | ⟨writes, within, same⟩
    · exact .keep (by rw [same])
    · rw [same]
      exact within.queues roomID
  · intro tx roomID position mediaID addedAt failed next writes found current
    obtain ⟨silent, known⟩ := safe.expects found
    obtain ⟨count, fits, dense⟩ := kept roomID
    have last : position = count := current.1.trans (nextPosition_dense dense fits)
    rw [silent, Store.write_empty]
    exact insertAt_free addedAt current.2 (dense.absent (Nat.le_of_eq last.symm)) known

/-! Concrete calls, in a room with two items in its queue. -/

section AddAlone
variable {store : Store database} {roomID mediaID : String} {count : Nat}

theorem mediaByID_known (known : Tables.item store mediaID = some ()) :
    database.execute (.mediaByID mediaID) (store.write Writes.empty) = .ok (some (), Writes.empty) := by
  rw [execute_mediaByID, Store.write_empty, known]

/-- The two statements of an insertion, undisturbed, append. -/
theorem queueAdd_run (databaseNow : Time) (dense : Dense (Tables.queue store roomID) count) (fits : count < Tables.positions)
    (known : Tables.item store mediaID = some ()) :
    (Repo.queueAdd databaseNow roomID mediaID).run store Writes.empty =
      (.ok ⟨roomID, count, mediaID, databaseNow⟩, Tables.putQueue roomID count ⟨mediaID, databaseNow⟩) := by
  have inserted : database.execute (.queueInsert roomID (Repo.nextPosition (Tables.maxPosition store roomID)) mediaID databaseNow)
      (store.write Writes.empty) =
        .ok (⟨roomID, count, mediaID, databaseNow⟩, Tables.putQueue roomID count ⟨mediaID, databaseNow⟩) := by
    rw [nextPosition_dense dense (Nat.le_of_lt fits)]
    exact insertAt_free databaseNow fits (dense.absent (Nat.le_refl count)) (by rw [Store.write_empty, known]; rfl)
  refine (Program.run_query rfl).trans ?_
  rw [← Program.bind_pure (Repo.sql _ _)]
  refine (Program.run_query inserted).trans ?_
  exact congrArg (Prod.mk _) (Writes.empty_andThen _)

/-- An `AddToQueue` that runs alone appends. -/
theorem add_run (databaseNow : Time) (dense : Dense (Tables.queue store roomID) count) (fits : count < Tables.positions)
    (known : Tables.item store mediaID = some ()) :
    (addToQueueBody databaseNow roomID mediaID).run store Writes.empty =
      (.ok ⟨roomID, count, mediaID, databaseNow⟩, Tables.putQueue roomID count ⟨mediaID, databaseNow⟩) :=
  (Program.run_query (mediaByID_known known)).trans (queueAdd_run databaseNow dense fits known)

theorem queueAdd_permitted (databaseNow : Time) (mediaID : String) (dense : Dense (Tables.queue store roomID) count)
    (fits : count < Tables.positions) : (Repo.queueAdd databaseNow roomID mediaID).Permitted Current store Writes.empty := by
  apply Program.permitted_query trivial
  intro last written executed
  cases executed
  rw [← Program.bind_pure (Repo.sql _ _)]
  apply Program.permitted_query
  · refine ⟨rfl, ?_⟩
    change Repo.nextPosition (Tables.maxPosition store roomID) < _
    rw [nextPosition_dense dense (Nat.le_of_lt fits)]
    exact fits
  · intro item written executed
    trivial

theorem add_permitted (databaseNow : Time) (dense : Dense (Tables.queue store roomID) count) (fits : count < Tables.positions)
    (known : Tables.item store mediaID = some ()) :
    (addToQueueBody databaseNow roomID mediaID).Permitted Current store Writes.empty := by
  apply Program.permitted_query trivial
  intro reply written executed
  rw [mediaByID_known known] at executed
  cases executed
  exact queueAdd_permitted databaseNow mediaID dense fits

end AddAlone

def pair : Store database
  | .item id => if id = "m1" then some () else none
  | .queue roomID position => if roomID = "r1" ∧ position < 2 then some ⟨"m1", 0⟩ else none

theorem pair_dense : Dense (Tables.queue pair "r1") 2 := by
  intro key
  by_cases inside : key < 2
  · simp [Tables.queue, pair, inside]
  · simp [Tables.queue, pair, inside]

theorem pair_queued : Queued pair := by
  intro roomID
  by_cases same : roomID = "r1"
  · rw [same]
    exact ⟨2, by decide, pair_dense⟩
  · exact ⟨0, by decide, fun key => by simp [Tables.queue, pair, same]⟩

theorem turns_empty (writes : Writes database) : Turns Writes.empty writes ∧ Turns writes Writes.empty :=
  ⟨fun _ => Or.inl fun _ => rfl, fun _ => Or.inr fun _ => rfl⟩

def append : Program database Err Unit := (addToQueueBody 0 "r1" "m1").discard

theorem append_started : Call append := .add ..

theorem append_run : append.run pair Writes.empty = (.ok (), Tables.putQueue "r1" 2 ⟨"m1", 0⟩) :=
  Program.run_discard (add_run 0 pair_dense (by decide) (by decide : Tables.item pair "m1" = some ()))

/-- One more item is appended between the look at the media and the insertion. -/
theorem queue_dense_appended :
    ∃ system, DisciplinedRun Call Current Turns (System.idle pair) system ∧ (Tables.queue system.committed "r1" 3).isSome ∧
      ∃ count, ∀ position, (Tables.queue system.committed "r1" position).isSome ↔ position < count := by
  let triple : Store database := pair.write (Tables.putQueue "r1" 2 ⟨"m1", 0⟩)
  have dense : Dense (Tables.queue triple "r1") 3 := by
    rw [putQueue_write]
    exact pair_dense.push _
  have reads : Reads pair append (Repo.queueAdd 0 "r1" "m1").discard := .read rfl .here
  have permitted : append.Permitted Current pair Writes.empty :=
    (add_permitted 0 pair_dense (by decide) (by decide : Tables.item pair "m1" = some ())).discard
  have overtaking : Overtaking Call Current pair append _ append () () _ _ :=
    ⟨⟨append_started, append_started⟩, reads, permitted, append_run, permitted,
      Program.run_discard (queueAdd_run 0 dense (by decide) (by decide : Tables.item triple "m1" = some ())),
      (queueAdd_permitted 0 "m1" dense (by decide)).discard⟩
  have run := overtaking.disciplined turns_empty
  exact ⟨_, run, by decide +kernel, (queue_dense_in_turns pair _ pair_queued run).1 "r1"⟩

/-- The first item is taken out while the insertion of a third is not yet
committed: the renumbering does not see the new row, which stays where it is. -/
theorem append_leaves_gap :
    ¬ ∀ (store : Store database) (system : System database Err Unit), Queued store →
        Run Call (fun _ _ => True) (System.idle store) system →
        ∀ roomID, ∃ count, ∀ position, (Tables.queue system.committed roomID position).isSome ↔ position < count := by
  intro claim
  have always : ∀ (_ : Store database) (_ : Statement), True := fun _ _ => trivial
  obtain ⟨removal, removed, untouched, gone⟩ : ∃ removal, (Repo.queueRemove "r1" 0).run pair Writes.empty = (.ok (), removal) ∧
      removal (.queue "r1" 2) = none ∧ removal (.queue "r1" 1) = some none :=
    ⟨_, Program.outcome_of_isOk (by decide +kernel), by decide +kernel, by decide +kernel⟩
  have apart : Writes.Apart removal (Tables.putQueue "r1" 2 ⟨"m1", 0⟩) := by
    intro key
    cases key with
    | item id => exact Or.inr rfl
    | queue roomID position =>
      by_cases same : roomID = "r1" ∧ position = 2
      · rw [same.1, same.2]
        exact Or.inl untouched
      · exact Or.inr (if_neg same)
  have beside : Run Call (fun _ _ => True) (System.idle pair)
      (System.idle ((pair.write removal).write (Tables.putQueue "r1" 2 ⟨"m1", 0⟩))) :=
    run_beside append_started (.remove "r1" 0) (Program.permitted_of_always always ..) (Program.permitted_of_always always ..)
      append_run removed apart
  obtain ⟨count, dense⟩ := claim pair _ pair_queued beside "r1"
  have inside := (dense 2).mp rfl
  have present := (dense 1).mpr (by omega)
  have absent : Tables.queue ((pair.write removal).write (Tables.putQueue "r1" 2 ⟨"m1", 0⟩)) "r1" 1 = none := by
    rw [queue_write, queue_write, gone]
    rfl
  rw [System.idle, absent] at present
  cases present

end VibeSync.Proofs.MediaQueue
