import VibeSync.Machine
import VibeSync.Proofs.MediaQueue

/-! The media queue as a list of media ids. Calls that run one after another
refine appending, erasing by index and reading; whether a removal goes through
depends on the order in which its renumbering visits the rows. -/

namespace VibeSync.Proofs.MediaList
open VibeSync.Media VibeSync.Proofs.MediaQueue Transaction PartialMap

/-! The list. -/

structure Represents (store : Store database) (roomID : String) (items : List String) : Prop where
  fits : items.length ≤ Tables.positions
  rows : ∀ position, (Tables.queue store roomID position).map QueueRow.mediaID = items[position]?

inductive Call where
  | add (databaseNow : Time) (mediaID : String)
  | remove (order : VisitOrder) (position : Int32)
  | list

inductive Outcome where
  | added (position : Nat)
  | removed
  | listed (items : List String)
  | notFound
  deriving DecidableEq

/-- What a call means for the list. -/
def edit (known : String → Bool) (items : List String) : Call → Outcome × List String
  | .add _ mediaID => if known mediaID then (.added items.length, items ++ [mediaID]) else (.notFound, items)
  | .remove _ position =>
    if 0 ≤ position.toInt ∧ position.toInt < items.length then (.removed, items.eraseIdx position.toInt.toNat)
    else (.notFound, items)
  | .list => (.listed items, items)

/-! The calls. -/

inductive Answer where
  | added (item : QueueItem)
  | removed
  | listed (items : List QueueItem)

def Call.run (roomID : String) (store : Store database) : Call → Except Err Answer × Store database
  | .add databaseNow mediaID => ((addToQueueBody databaseNow roomID mediaID).withTx store).map (Except.map .added) id
  | .remove order position => (removeVisiting order roomID position store).map (Except.map fun _ => .removed) id
  | .list => ((Repo.queueList roomID).withTx store).map (Except.map .listed) id

/-- An error of the database is no outcome. -/
def observe : Except Err Answer → Option Outcome
  | .ok (.added item) => some (.added item.position)
  | .ok .removed => some .removed
  | .ok (.listed items) => some (.listed (items.map QueueItem.mediaID))
  | .error err => if isNotFound err then some .notFound else none

def after (roomID : String) (store : Store database) (call : Call) : Store database := (call.run roomID store).2

/-- The call does to the rows what it means for the list, or fails and does nothing. -/
def Refines (roomID : String) (store : Store database) (items : List String) (call : Call) : Prop :=
  (observe (call.run roomID store).1 = none ∧ after roomID store call = store) ∨
    observe (call.run roomID store).1 = some (edit (fun id => (Tables.item store id).isSome) items call).1 ∧
      Represents (after roomID store call) roomID (edit (fun id => (Tables.item store id).isSome) items call).2

theorem isSome_getElem? (items : List String) (position : Nat) : (items[position]?).isSome ↔ position < items.length := by
  simp

section Represents
variable {store : Store database} {roomID : String} {items : List String}

theorem Represents.dense (represents : Represents store roomID items) : Dense (Tables.queue store roomID) items.length := by
  intro position
  have row := congrArg Option.isSome (represents.rows position)
  rw [Option.isSome_map] at row
  rw [row]
  exact isSome_getElem? items position

theorem Represents.push (represents : Represents store roomID items) (fits : items.length < Tables.positions)
    (mediaID : String) (addedAt : Time) :
    Represents (store.write (Tables.putQueue roomID items.length ⟨mediaID, addedAt⟩)) roomID (items ++ [mediaID]) := by
  refine ⟨?_, fun position => ?_⟩
  · rw [List.length_append]
    exact fits
  · rw [putQueue_write]
    by_cases last : position = items.length
    · rw [last, Function.update_self, List.getElem?_concat_length]
      rfl
    · rw [Function.update_of_ne last, represents.rows position]
      by_cases inside : position < items.length
      · rw [List.getElem?_append_left inside]
      · rw [List.getElem?_eq_none (Nat.le_of_not_lt inside), List.getElem?_eq_none]
        rw [List.length_append, List.length_singleton]
        omega

theorem Represents.erase (represents : Represents store roomID items) {later : Store database} {key : Nat}
    (closed : Tables.queue later roomID = closeGap (Tables.queue store roomID) key) :
    Represents later roomID (items.eraseIdx key) := by
  refine ⟨Nat.le_trans (List.length_eraseIdx_le ..) represents.fits, fun position => ?_⟩
  rw [closed, closeGap, List.getElem?_eraseIdx]
  split
  · exact represents.rows position
  · exact represents.rows (position + 1)

end Represents

/-! Reading. -/

theorem filterMap_getElem? {α : Type} (items : List α) (bound : Nat) :
    (List.range bound).filterMap (fun position => items[position]?) = items.take bound := by
  induction bound with
  | zero => rfl
  | succ bound ih =>
    rw [List.range_succ, List.filterMap_append, ih, List.take_add_one]
    cases found : items[bound]? with
    | none => simp [found]
    | some item => simp [found]

theorem list_items {store : Store database} {roomID : String} {items : List String}
    (represents : Represents store roomID items) : (Tables.list store roomID).map QueueItem.mediaID = items := by
  have whole := filterMap_getElem? items Tables.positions
  rw [List.take_of_length_le represents.fits] at whole
  rw [Tables.list, List.map_filterMap, ← whole]
  apply List.filterMap_congr
  intro position _
  rw [← represents.rows position]
  cases Tables.queue store roomID position <;> rfl

theorem refines_list {store : Store database} {roomID : String} {items : List String}
    (represents : Represents store roomID items) : Refines roomID store items .list := by
  have ran : Call.run roomID store .list = (.ok (.listed (Tables.list store roomID)), store) := by
    rw [Call.run, queueList_withTx]
    rfl
  refine Or.inr ⟨?_, ?_⟩
  · rw [ran, observe, list_items represents]
    rfl
  · rw [after, ran]
    exact represents

/-! Adding. -/

section Add
variable {store : Store database} {roomID mediaID : String}

theorem add_unknown (databaseNow : Time) (unknown : Tables.item store mediaID = none) :
    (addToQueueBody databaseNow roomID mediaID).withTx store = (.error (.missing "media" mediaID), store) := by
  have absent : database.execute (.mediaByID mediaID) (store.write Writes.empty) = .ok (none, Writes.empty) := by
    rw [execute_mediaByID, Store.write_empty, unknown]
  apply Program.withTx_error
  exact congrArg Prod.fst (Program.run_query absent)

theorem insertAt_full (view : View) (roomID mediaID : String) (addedAt : Time) :
    Tables.insertAt view roomID Tables.positions mediaID addedAt =
      .error (.plain "ERROR: integer out of range (SQLSTATE 22003)") := by
  rw [Tables.insertAt, if_pos (Nat.le_refl _)]

theorem add_full (databaseNow : Time) (dense : Dense (Tables.queue store roomID) Tables.positions)
    (known : Tables.item store mediaID = some ()) :
    (addToQueueBody databaseNow roomID mediaID).withTx store =
      (.error (.wrapped "queue_repo: add" (.plain "ERROR: integer out of range (SQLSTATE 22003)")), store) := by
  have refused : database.execute (.queueInsert roomID (Repo.nextPosition (Tables.maxPosition store roomID)) mediaID databaseNow)
      (store.write Writes.empty) = .error (.plain "ERROR: integer out of range (SQLSTATE 22003)") := by
    rw [nextPosition_dense dense (Nat.le_refl _)]
    exact insertAt_full (store.write Writes.empty) roomID mediaID databaseNow
  apply Program.withTx_error
  refine (congrArg Prod.fst (Program.run_query (mediaByID_known known))).trans ?_
  refine (congrArg Prod.fst (Program.run_query rfl)).trans ?_
  rw [← Program.bind_pure (Repo.sql _ _)]
  exact congrArg Prod.fst (Program.run_query_error refused)

theorem refines_add {items : List String} (represents : Represents store roomID items) (databaseNow : Time) :
    Refines roomID store items (.add databaseNow mediaID) := by
  cases known : Tables.item store mediaID with
  | none =>
    have ran : Call.run roomID store (.add databaseNow mediaID) = (.error (.missing "media" mediaID), store) := by
      rw [Call.run, add_unknown databaseNow known]
      rfl
    refine Or.inr ⟨?_, ?_⟩
    · rw [ran, edit, known]
      rfl
    · rw [after, ran, edit, known]
      exact represents
  | some row =>
    rcases Nat.lt_or_eq_of_le represents.fits with fits | full
    · have ran : Call.run roomID store (.add databaseNow mediaID) =
          (.ok (.added ⟨roomID, items.length, mediaID, databaseNow⟩),
            store.write (Tables.putQueue roomID items.length ⟨mediaID, databaseNow⟩)) := by
        rw [Call.run, Program.withTx, add_run databaseNow represents.dense fits known]
        rfl
      refine Or.inr ⟨?_, ?_⟩
      · rw [ran, edit, known]
        rfl
      · rw [after, ran, edit, known]
        exact represents.push fits mediaID databaseNow
    · have dense := represents.dense
      rw [full] at dense
      refine Or.inl ⟨?_, ?_⟩
      · rw [Call.run, add_full databaseNow dense known]
        rfl
      · rw [after, Call.run, add_full databaseNow dense known]
        rfl

end Add

/-! Removing. -/

theorem moveDown_queue (view : View) (roomID : String) (position : Nat) :
    Tables.queue (Tables.moveDown view roomID position) roomID = stepDown (Tables.queue view roomID) position := by
  funext key
  exact if_pos rfl

/-- The rows of the room move as the keys of a map. -/
theorem renumber_stepsDown (roomID : String) (keys : List Nat) (view : View) :
    match stepsDown (Tables.queue view roomID) keys with
    | none => Tables.renumber roomID keys view = .error (.uniqueViolation "media_queue_pkey")
    | some rows => ∃ later, Tables.renumber roomID keys view = .ok later ∧ Tables.queue later roomID = rows := by
  induction keys generalizing view with
  | nil => exact ⟨view, rfl, rfl⟩
  | cons key rest ih =>
    rw [stepsDown, Tables.renumber]
    by_cases taken : (Tables.queue view roomID (key - 1)).isSome
    · rw [if_pos taken, if_pos taken]
    · rw [if_neg taken, if_neg taken, ← moveDown_queue]
      exact ih (Tables.moveDown view roomID key)

section Remove
variable {store : Store database} {roomID : String} {count key : Nat}

theorem rowsAfter_dense (dense : Dense (Tables.queue store roomID) count) (fits : count ≤ Tables.positions) (key : Nat) :
    Tables.rowsAfter (store.write (Tables.deleteQueue store roomID key)) roomID key =
      List.range' (key + 1) (count - (key + 1)) := by
  have ascending : (List.range' (key + 1) (count - (key + 1))).Pairwise (· < ·) := List.pairwise_lt_range'
  refine List.Perm.eq_of_pairwise' ?_ ascending ?_
  · exact List.pairwise_lt_range.filter _
  · refine (List.perm_ext_iff_of_nodup (List.nodup_range.filter _) List.nodup_range').mpr fun position => ?_
    rw [List.mem_filter, List.mem_range, deleteQueue_write, List.mem_range'_1]
    by_cases later : key < position
    · rw [Function.update_of_ne (Nat.ne_of_gt later), decide_eq_true_iff, dense position]
      omega
    · refine iff_of_false (fun found => ?_) (by omega)
      exact later (of_decide_eq_true found.2).1

theorem deleteAt_int32 {position : Int32} (at_ : position.toInt = key) :
    Tables.deleteAt store roomID key =
      .ok (if (Tables.queue store roomID key).isSome then 1 else 0, Tables.deleteQueue store roomID key) := by
  have bound := position.toInt_lt
  rw [at_] at bound
  have encoded : Rooms.Tables.encodeInt4 key = .ok () := if_neg (by simp only [Rooms.Tables.maxInt4]; omega)
  rw [Tables.deleteAt, encoded]
  rfl

/-- One entry of one room is gone and the gap is closed. -/
structure Removed (roomID : String) (key : Nat) (before later : Store database) : Prop where
  rows : Tables.queue later roomID = closeGap (Tables.queue before roomID) key
  items : ∀ id, later (.item id) = before (.item id)
  others : ∀ other, other ≠ roomID → ∀ position, later (.queue other position) = before (.queue other position)

theorem Removed.unique {first second : Store database} (left : Removed roomID key store first)
    (right : Removed roomID key store second) : first = second := by
  funext place
  cases place with
  | item id => rw [left.items, right.items]
  | queue room position =>
    by_cases same : room = roomID
    · rw [same]
      exact congrFun (left.rows.trans right.rows.symm) position
    · rw [left.others room same, right.others room same]

theorem removed_statements (store : Store database) (roomID : String) (key : Nat) :
    Removed roomID key store (Store.write (store.write (Tables.deleteQueue store roomID key))
      (Tables.shiftQueue (store.write (Tables.deleteQueue store roomID key)) roomID key) : Store database) := by
  have gone : Tables.queue (store.write (Tables.deleteQueue store roomID key)) roomID key = none := by
    rw [deleteQueue_write, Function.update_self]
  refine ⟨?_, fun _ => rfl, fun other different position => ?_⟩
  · rw [shiftQueue_write _ _ _ gone, deleteQueue_write, closeGap_update]
  · rw [Store.write_of_none (if_neg fun both => different both.1), Store.write_of_none (if_neg fun both => different both.1)]

theorem queueRemove_removed (dense : Dense (Tables.queue store roomID) count) (fits : count ≤ Tables.positions)
    (inside : key < count) :
    ∃ later, (Repo.queueRemove roomID key).withTx store = (.ok (), later) ∧ Removed roomID key store later := by
  have encoded : Rooms.Tables.encodeInt4 key = .ok () := if_neg (by
    simp only [Tables.positions] at fits
    simp only [Rooms.Tables.maxInt4]
    omega)
  have present : (Tables.queue store roomID key).isSome := (dense key).mpr inside
  have deleted : database.execute (.queueDelete roomID key) store = .ok (1, Tables.deleteQueue store roomID key) := by
    change Tables.deleteAt store roomID key = _
    rw [Tables.deleteAt, encoded, if_pos present]
    rfl
  have shifted : database.execute (.queueShift roomID key) (store.write (Tables.deleteQueue store roomID key)) =
      .ok ((), Tables.shiftQueue (store.write (Tables.deleteQueue store roomID key)) roomID key) := by
    change Tables.shiftAfter _ roomID key = _
    rw [Tables.shiftAfter, encoded]
    rfl
  refine ⟨_, ?_, removed_statements store roomID key⟩
  rw [Program.withTx_exec, Repo.queueRemove, Repo.sql, Program.exec_query deleted, if_neg Nat.one_ne_zero,
    ← Program.bind_pure (Repo.sql _ _), Repo.sql, Program.exec_query shifted]
  rfl

theorem renumber_elsewhere {keys : List Nat} {view later : View}
    (renumbered : Tables.renumber roomID keys view = .ok later) :
    (∀ id, later (.item id) = view (.item id)) ∧
      ∀ other, other ≠ roomID → ∀ position, later (.queue other position) = view (.queue other position) := by
  induction keys generalizing view with
  | nil =>
    cases renumbered
    exact ⟨fun _ => rfl, fun _ _ _ => rfl⟩
  | cons key rest ih =>
    rw [Tables.renumber] at renumbered
    split at renumbered
    · cases renumbered
    obtain ⟨items, queues⟩ := ih renumbered
    refine ⟨items, fun other different position => (queues other different position).trans ?_⟩
    exact if_neg different

theorem visited_within (order : VisitOrder) {position : Nat}
    (visited : position ∈ order.visit (List.range' (key + 1) (count - (key + 1)))) : key < position ∧ position < count := by
  rw [(order.perm _).mem_iff, List.mem_range'_1] at visited
  omega

theorem stepsDown_closes {map : Nat → Option QueueRow} (order : VisitOrder) (dense : Dense map count) (inside : key < count)
    {rows : Nat → Option QueueRow}
    (done : stepsDown (Function.update map key none) (order.visit (List.range' (key + 1) (count - (key + 1)))) = some rows) :
    rows = closeGap map key := by
  have gapped := dense.oneGap key
  have ascending := gapped.ascending_of_stepsDown (fun _ visited => visited_within order visited)
    ((order.perm _).nodup_iff.mpr List.nodup_range') (by rw [done]; rfl)
  rw [(order.perm _).length_eq, List.length_range'] at ascending
  rw [show count = key + 1 + (count - (key + 1)) by omega] at gapped
  rw [ascending, gapped.stepsDown_ascending, closeGap_update] at done
  exact (Option.some.inj done).symm

/-- How a removal ends once its renumbering has. -/
def renumbered (store : Store database) : Except Err (Store database) → Except Err Unit × Store database
  | .error problem => (.error (.wrapped "queue_repo: renumber" problem), store)
  | .ok later => (.ok (), later)

theorem removeVisiting_renumbered {position : Int32} (order : VisitOrder) (at_ : position.toInt = key)
    (dense : Dense (Tables.queue store roomID) count) (fits : count ≤ Tables.positions) (inside : key < count) :
    removeVisiting order roomID position store =
      renumbered store (Tables.renumber roomID (order.visit (List.range' (key + 1) (count - (key + 1))))
        (store.write (Tables.deleteQueue store roomID key))) := by
  have present : (Tables.queue store roomID key).isSome := (dense key).mpr inside
  simp only [removeVisiting, at_, deleteAt_int32 at_, present, if_true, Nat.one_ne_zero, if_false,
    rowsAfter_dense dense fits key]
  rfl

/-- A removal goes through exactly if its rows can move down one by one. -/
theorem removeVisiting_present {position : Int32} (order : VisitOrder) (at_ : position.toInt = key)
    (dense : Dense (Tables.queue store roomID) count) (fits : count ≤ Tables.positions) (inside : key < count) :
    match stepsDown (Function.update (Tables.queue store roomID) key none)
        (order.visit (List.range' (key + 1) (count - (key + 1)))) with
    | none => removeVisiting order roomID position store =
        (.error (.wrapped "queue_repo: renumber" (.uniqueViolation "media_queue_pkey")), store)
    | some _ => ∃ later, removeVisiting order roomID position store = (.ok (), later) ∧ Removed roomID key store later := by
  have moved := renumber_stepsDown roomID (order.visit (List.range' (key + 1) (count - (key + 1))))
    (store.write (Tables.deleteQueue store roomID key))
  rw [deleteQueue_write] at moved
  rw [removeVisiting_renumbered order at_ dense fits inside]
  split at moved
  · rw [moved]
    rfl
  · next rows done =>
    obtain ⟨later, ran, queue⟩ := moved
    obtain ⟨items, others⟩ := renumber_elsewhere ran
    rw [ran]
    refine ⟨later, rfl, queue.trans (stepsDown_closes order dense inside done), items, fun other different position => ?_⟩
    rw [others other different]
    exact Store.write_of_none (if_neg fun both => different both.1) store

/-- A removal that goes through does what the two statements say. -/
theorem removeVisiting_eq_queueRemove {position : Int32} {order : VisitOrder} {later : Store database}
    (at_ : position.toInt = key) (dense : Dense (Tables.queue store roomID) count) (fits : count ≤ Tables.positions)
    (inside : key < count) (done : removeVisiting order roomID position store = (.ok (), later)) :
    (Repo.queueRemove roomID key).withTx store = (.ok (), later) := by
  obtain ⟨whole, ran, result⟩ := queueRemove_removed dense fits inside
  have removed := removeVisiting_present order at_ dense fits inside
  split at removed
  · rw [removed] at done
    cases done
  · obtain ⟨after, visited, same⟩ := removed
    rw [visited] at done
    cases done
    rw [ran, result.unique same]

theorem removeVisiting_absent {position : Int32} (order : VisitOrder) (dense : Dense (Tables.queue store roomID) count)
    (outside : ¬ (0 ≤ position.toInt ∧ position.toInt < count)) :
    removeVisiting order roomID position store =
      (.error (.missing "queue" (roomID ++ "/" ++ toString position.toInt)), store) := by
  rw [removeVisiting]
  cases place : position.toInt with
  | negSucc _ => rfl
  | ofNat key =>
    have absent : Tables.queue store roomID key = none := dense.absent (by
      rw [place] at outside
      simp only [Int.ofNat_eq_natCast] at outside
      omega)
    simp only [deleteAt_int32 place, absent, Option.isSome_none, Bool.false_eq_true, if_false, if_true]

end Remove

theorem refines_remove {store : Store database} {roomID : String} {items : List String}
    (represents : Represents store roomID items) (order : VisitOrder) (position : Int32) :
    Refines roomID store items (.remove order position) := by
  have dense := represents.dense
  by_cases inside : 0 ≤ position.toInt ∧ position.toInt < items.length
  · obtain ⟨key, at_⟩ : ∃ key : Nat, position.toInt = key := ⟨_, (Int.toNat_of_nonneg inside.1).symm⟩
    have within : key < items.length := by
      have upper := inside.2
      rw [at_] at upper
      exact Int.ofNat_lt.mp upper
    have removed := removeVisiting_present order at_ dense represents.fits within
    split at removed
    · refine Or.inl ⟨?_, ?_⟩
      · rw [Call.run, removed]
        rfl
      · rw [after, Call.run, removed]
        rfl
    · obtain ⟨later, ran, removed⟩ := removed
      refine Or.inr ⟨?_, ?_⟩
      · rw [Call.run, ran, edit, if_pos inside]
        rfl
      · rw [after, Call.run, ran, edit, if_pos inside, at_]
        exact represents.erase removed.rows
  · refine Or.inr ⟨?_, ?_⟩
    · rw [Call.run, removeVisiting_absent order dense inside, edit, if_neg inside]
      rfl
    · rw [after, Call.run, removeVisiting_absent order dense inside, edit, if_neg inside]
      exact represents

theorem refines_call {store : Store database} {roomID : String} {items : List String}
    (represents : Represents store roomID items) (call : Call) : Refines roomID store items call := by
  cases call with
  | add databaseNow mediaID => exact refines_add represents databaseNow
  | remove order position => exact refines_remove represents order position
  | list => exact refines_list represents

theorem Refines.represented {store : Store database} {roomID : String} {items : List String} {call : Call}
    (refines : Refines roomID store items call) (represents : Represents store roomID items) :
    ∃ later, Represents (after roomID store call) roomID later := by
  rcases refines with ⟨_, same⟩ | ⟨_, later⟩
  · rw [same]
    exact ⟨items, represents⟩
  · exact ⟨_, later⟩

/-- In every run of calls on one room each call finds the rows of a list and
does to them what it means for the list, unless it ends with an error of the
database, which changes nothing. -/
theorem queue_refines_list (store : Store database) (roomID : String) (items : List String) (calls : List Call)
    (start : Represents store roomID items) :
    ∀ visit ∈ Machine.trace (after roomID) store calls,
      ∃ items, Represents visit.1 roomID items ∧ Refines roomID visit.1 items visit.2 := by
  have represented : ∀ visit ∈ Machine.trace (after roomID) store calls, ∃ items, Represents visit.1 roomID items := by
    refine Machine.trace_of_guarded (fun store => ∃ items, Represents store roomID items) (fun _ _ => True)
      (fun before call found _ => ?_) ⟨items, start⟩ (fun _ _ => trivial)
    obtain ⟨items, represents⟩ := found
    exact (refines_call represents call).represented represents
  intro visit visited
  obtain ⟨items, represents⟩ := represented visit visited
  exact ⟨items, represents, refines_call represents visit.2⟩

/-! A queue of three. -/

def VisitOrder.forwards : VisitOrder := ⟨id, List.Perm.refl⟩

def VisitOrder.backwards : VisitOrder := ⟨List.reverse, List.reverse_perm⟩

def trio : Store database
  | .item id => if id = "m4" then some () else none
  | .queue roomID position =>
    if roomID = "r1" then (["m1", "m2", "m3"][position]?).map fun mediaID => ⟨mediaID, 0⟩ else none

theorem trio_represents : Represents trio "r1" ["m1", "m2", "m3"] := by
  refine ⟨by decide, fun position => ?_⟩
  change ((["m1", "m2", "m3"][position]?).map fun mediaID => (⟨mediaID, 0⟩ : QueueRow)).map QueueRow.mediaID = _
  rw [Option.map_map]
  exact Option.map_id'

theorem queue_refines_list_trio : ∃ items, Represents trio "r1" items ∧ Refines "r1" trio items (.remove VisitOrder.forwards 1) :=
  queue_refines_list trio "r1" ["m1", "m2", "m3"] [.remove VisitOrder.forwards 1] trio_represents _ (.head _)

/-- Removing an entry goes through exactly if the renumbering visits the later
rows from the front to the back; otherwise it violates the primary key and
nothing changes. -/
theorem remove_completes_iff_ascending (store : Store database) (roomID : String) (count key : Nat) (position : Int32)
    (order : VisitOrder) (dense : Dense (Tables.queue store roomID) count) (fits : count ≤ Tables.positions)
    (inside : key < count) (at_ : position.toInt = key) :
    ((removeVisiting order roomID position store).1 = .ok () ↔
        (order.visit (List.range' (key + 1) (count - (key + 1)))).Pairwise (· < ·)) ∧
      ((removeVisiting order roomID position store).1 ≠ .ok () → removeVisiting order roomID position store =
        (.error (.wrapped "queue_repo: renumber" (.uniqueViolation "media_queue_pkey")), store)) := by
  have gapped := dense.oneGap key
  have removed := removeVisiting_present order at_ dense fits inside
  split at removed
  · next failed =>
    refine ⟨⟨fun done => ?_, fun ascending => ?_⟩, fun _ => removed⟩
    · rw [removed] at done
      cases done
    · have same : order.visit (List.range' (key + 1) (count - (key + 1))) = List.range' (key + 1) (count - (key + 1)) :=
        (order.perm _).eq_of_pairwise' ascending List.pairwise_lt_range'
      rw [show count = key + 1 + (count - (key + 1)) by omega] at gapped
      rw [same, gapped.stepsDown_ascending] at failed
      cases failed
  · next rows done =>
    obtain ⟨later, ran, _⟩ := removed
    have ascending := gapped.ascending_of_stepsDown (fun _ visited => visited_within order visited)
      ((order.perm _).nodup_iff.mpr List.nodup_range') (by rw [done]; rfl)
    rw [ran, ascending]
    exact ⟨⟨fun _ => List.pairwise_lt_range', fun _ => rfl⟩, fun failed => absurd rfl failed⟩

theorem remove_first_forwards : (removeVisiting VisitOrder.forwards "r1" 0 trio).1 = .ok () :=
  (remove_completes_iff_ascending trio "r1" 3 0 0 VisitOrder.forwards trio_represents.dense (by decide) (by decide)
    (by decide)).1.mpr (by decide)

/-- The last row comes first and finds its new place taken. -/
theorem remove_first_backwards_fails :
    ¬ ∀ (store : Store database) (roomID : String) (count key : Nat) (position : Int32) (order : VisitOrder),
        Dense (Tables.queue store roomID) count → count ≤ Tables.positions → key < count → position.toInt = key →
        (removeVisiting order roomID position store).1 = .ok () := by
  intro claim
  have done := claim trio "r1" 3 0 0 VisitOrder.backwards trio_represents.dense (by decide) (by decide) (by decide)
  have removed := removeVisiting_present VisitOrder.backwards (by decide : (0 : Int32).toInt = (0 : Nat)) trio_represents.dense
    (by decide) (by decide)
  have blocked : stepsDown (Function.update (Tables.queue trio "r1") 0 none)
      (VisitOrder.backwards.visit (List.range' (0 + 1) (3 - (0 + 1)))) = none := rfl
  rw [show ["m1", "m2", "m3"].length = 3 from rfl, blocked] at removed
  rw [removed] at done
  cases done

end VibeSync.Proofs.MediaList
