import VibeSync.Machine
import VibeSync.Outbox.Relay

/-! The outbox loses nothing. What one step of one relay can do is said once;
every result about runs with any number of relays comes from it. -/

namespace VibeSync.Proofs.OutboxSafety
open VibeSync.Outbox Machine
open VibeSync.Outbox.Relays (Action)

def events (table : List Row) : List Event := table.map Row.event

/-- The transaction of a relay that has fetched its rows. -/
def drain? : Phase → Option Drain
  | .publishing drain | .marking _ drain => some drain
  | _ => none

/-- The relay has a transaction open. -/
def Open : Phase → Prop
  | .begun _ | .publishing _ | .marking _ _ => True
  | _ => False

theorem drain_of_not_open {phase : Phase} (closed : ¬ Open phase) : drain? phase = none := by
  cases phase <;> first | rfl | exact absurd trivial closed

inductive Moves (opts : RelayOptions) (s : Relays) (a : Action) : Relays → Prop where
  | locked (lock : Option Nat) : Moves opts s a { s with lock }
  | staged {staged : List Event} {table : List Row} (by_ : a = .stage staged) (appended : append s.table staged = .ok table) :
      Moves opts s a { s with table }
  | turned {r : Nat} {phase : Phase} {lock : Option Nat} (acts : a.relay? = some r) (before : drain? (s.relay r) = none)
      (after : drain? phase = none) (opened : Open phase → a = .begin r none) : Moves opts s a { s.enter r phase with lock }
  | left {r : Nat} {phase : Phase} (acts : a.relay? = some r) (closed : ¬ Open phase) : Moves opts s a (s.leave r phase)
  | fetched {r token : Nat} {order : ScanOrder} (acts : a.relay? = some r) (begun : s.relay r = .begun token)
      {batch : List Event} (found : fetchUnpublished s.table order s.locked opts.limit = batch) :
      Moves opts s a { s.enter r (.publishing ⟨token, batch, batch, []⟩) with
        rowLocks := s.rowLocks ++ batch.map fun e => (r, e.id) }
  | published {r : Nat} {drain : Drain} {e : Event} {rest : List Event} {now : Time} (acts : a.relay? = some r)
      (publishing : s.relay r = .publishing drain) (next : drain.rest = e :: rest) :
      Moves opts s a { s.enter r (.marking e { drain with rest }) with
        acknowledged := s.acknowledged ++ [(e, e.message now)] }
  | marked {r : Nat} {drain : Drain} {e : Event} {now : Time} (acts : a.relay? = some r)
      (marking : s.relay r = .marking e drain) :
      Moves opts s a (s.enter r (.publishing { drain with marks := drain.marks ++ [(e.id, now)] }))
  | committed {r : Nat} {drain : Drain} (acts : a.relay? = some r) (publishing : s.relay r = .publishing drain) :
      Moves opts s a { s.leave r (.releasing drain.token (.ok drain.pending.length)) with
        table := drain.marks.foldl (fun table mark => markPublished table mark.1 mark.2) s.table }

theorem Moves.stays {opts : RelayOptions} {s : Relays} {a : Action} : Moves opts s a s := .locked s.lock

theorem acquire_moves (opts : RelayOptions) (s : Relays) (r token : Nat) (failure : Option Err) :
    Moves opts s (.acquire r token failure) (s.step opts (.acquire r token failure)) := by
  simp only [Relays.step]
  split
  next idle =>
    unfold Relays.acquire
    split
    · exact .turned rfl (by rw [idle]; rfl) rfl (fun opened => False.elim opened)
    · exact .stays
  next => exact .stays

theorem begin_moves (opts : RelayOptions) (s : Relays) (r : Nat) (failure : Option Err) :
    Moves opts s (.begin r failure) (s.step opts (.begin r failure)) := by
  simp only [Relays.step]
  split
  next token leading =>
    cases failure with
    | none => exact .turned rfl (by rw [leading]; rfl) rfl (fun _ => rfl)
    | some err => exact .left rfl id
  next => exact .stays

theorem fetch_moves (opts : RelayOptions) (s : Relays) (r : Nat) (order : ScanOrder) (failure : Option Err) :
    Moves opts s (.fetch r order failure) (s.step opts (.fetch r order failure)) := by
  simp only [Relays.step]
  split
  next token begun =>
    cases failure with
    | some err => exact .left rfl id
    | none =>
      simp only [Relays.fetch]
      split
      next => exact .left rfl id
      next first more found => exact .fetched rfl begun found
  next => exact .stays

theorem publish_moves (opts : RelayOptions) (s : Relays) (r : Nat) (now : Time) (failure : Option Err) :
    Moves opts s (.publish r now failure) (s.step opts (.publish r now failure)) := by
  simp only [Relays.step]
  split
  next drain publishing =>
    split
    next e rest next =>
      cases failure with
      | none => exact .published rfl publishing next
      | some err => exact .left rfl id
    next => exact .stays
  next => exact .stays

theorem mark_moves (opts : RelayOptions) (s : Relays) (r : Nat) (now : Time) (failure : Option Err) :
    Moves opts s (.mark r now failure) (s.step opts (.mark r now failure)) := by
  simp only [Relays.step]
  split
  next e drain marking =>
    cases failure with
    | none => exact .marked rfl marking
    | some err => exact .left rfl id
  next => exact .stays

theorem commit_moves (opts : RelayOptions) (s : Relays) (r : Nat) (failure : Option Err) :
    Moves opts s (.commit r failure) (s.step opts (.commit r failure)) := by
  simp only [Relays.step]
  split
  next drain publishing =>
    split
    next =>
      cases failure with
      | none => exact .committed rfl publishing
      | some err => exact .left rfl id
    next => exact .stays
  next => exact .stays

theorem readLock_moves (opts : RelayOptions) (s : Relays) (r : Nat) (failure : Option Err) :
    Moves opts s (.readLock r failure) (s.step opts (.readLock r failure)) := by
  simp only [Relays.step]
  split
  next token result releasing =>
    have quiet : drain? (s.relay r) = none := by rw [releasing]; rfl
    unfold Relays.readLock
    split
    · exact .turned rfl quiet rfl (fun opened => False.elim opened)
    · exact .turned rfl quiet rfl (fun opened => False.elim opened)
  next => exact .stays

theorem deleteLock_moves (opts : RelayOptions) (s : Relays) (r : Nat) (failure : Option Err) :
    Moves opts s (.deleteLock r failure) (s.step opts (.deleteLock r failure)) := by
  simp only [Relays.step]
  split
  next token result deleting =>
    have quiet : drain? (s.relay r) = none := by rw [deleting]; rfl
    cases failure with
    | none => exact .turned rfl quiet rfl (fun opened => False.elim opened)
    | some err => exact .turned rfl quiet rfl (fun opened => False.elim opened)
  next => exact .stays

theorem step_moves (opts : RelayOptions) (s : Relays) (a : Action) : Moves opts s a (s.step opts a) := by
  cases a with
  | stage staged =>
    simp only [Relays.step]
    split
    next table appended => exact .staged rfl appended
    next => exact .stays
  | acquire r token failure => exact acquire_moves opts s r token failure
  | begin r failure => exact begin_moves opts s r failure
  | fetch r order failure => exact fetch_moves opts s r order failure
  | publish r now failure => exact publish_moves opts s r now failure
  | mark r now failure => exact mark_moves opts s r now failure
  | commit r failure => exact commit_moves opts s r failure
  | readLock r failure => exact readLock_moves opts s r failure
  | deleteLock r failure => exact deleteLock_moves opts s r failure
  | crash r => exact .left rfl id
  | expire => exact .locked none

/-- A relay moves by its own steps only. -/
theorem Moves.others {opts : RelayOptions} {before after : Relays} {a : Action} {other : Nat}
    (moves : Moves opts before a after) (idle : a.relay? ≠ some other) : after.relay other = before.relay other := by
  have different : ∀ r, a.relay? = some r → other ≠ r := by
    rintro r acts rfl
    exact idle acts
  cases moves with
  | locked | staged => rfl
  | turned acts | left acts | fetched acts | published acts | marked acts | committed acts =>
    exact Function.update_of_ne (different _ acts) ..

/-! What the statements do to the table. -/

theorem appendFrom_ok {i : Nat} {table after : List Row} {staged : List Event}
    (appended : appendFrom i table staged = .ok after) :
    ∃ added, after = table ++ added ∧ (∀ row ∈ added, row.published = false) ∧
      (((events table).map Event.id).Nodup → ((events after).map Event.id).Nodup) := by
  induction staged generalizing i table with
  | nil =>
    cases appended
    exact ⟨[], by simp, by simp, fun unique => unique⟩
  | cons e rest ih =>
    simp only [appendFrom] at appended
    split at appended
    · cases appended
    split at appended
    · cases appended
    next fresh =>
      obtain ⟨added, rfl, unpublished, distinct⟩ := ih appended
      refine ⟨e.row :: added, by simp, ?_, ?_⟩
      · intro row member
        rcases List.mem_cons.mp member with rfl | later
        · rfl
        · exact unpublished row later
      · intro unique
        apply distinct
        simp only [events, List.map_append, List.map_map, List.map_cons, List.map_nil] at unique ⊢
        rw [List.nodup_append_comm, List.singleton_append, List.nodup_cons]
        refine ⟨?_, unique⟩
        simpa [Event.row] using fresh

theorem events_markPublished (table : List Row) (id : String) (now : Time) :
    events (markPublished table id now) = events table := by
  simp only [events, markPublished, List.map_map]
  apply List.map_congr_left
  intro row _
  simp only [Function.comp_apply]
  split <;> rfl

theorem mem_markPublished {table : List Row} {id : String} {now : Time} {row : Row}
    (member : row ∈ markPublished table id now) : row.event.id = id ∨ row ∈ table := by
  obtain ⟨old, found, same⟩ := List.mem_map.mp member
  split at same
  next marked =>
    rw [← same]
    exact Or.inl marked
  next =>
    rw [← same]
    exact Or.inr found

theorem events_marks (marks : List (String × Time)) (table : List Row) :
    events (marks.foldl (fun table mark => markPublished table mark.1 mark.2) table) = events table := by
  induction marks generalizing table with
  | nil => rfl
  | cons mark rest ih => rw [List.foldl_cons, ih, events_markPublished]

theorem mem_marks {marks : List (String × Time)} {table : List Row} {row : Row}
    (member : row ∈ marks.foldl (fun table mark => markPublished table mark.1 mark.2) table) :
    (∃ mark ∈ marks, row.event.id = mark.1) ∨ row ∈ table := by
  induction marks generalizing table with
  | nil => exact Or.inr member
  | cons mark rest ih =>
    obtain ⟨later, marked, same⟩ | before := ih member
    · exact Or.inl ⟨later, List.mem_cons_of_mem mark marked, same⟩
    · exact (mem_markPublished before).imp_left fun same => ⟨mark, List.mem_cons_self, same⟩

theorem mem_fetchUnpublished {table : List Row} {order : ScanOrder} {locked : String → Bool} {limit : Nat} {e : Event}
    (fetched : e ∈ fetchUnpublished table order locked limit) : e ∈ events table := by
  have sorted := (List.perm_insertionSort _ _).mem_iff.mp (List.mem_of_mem_take fetched)
  obtain ⟨row, kept, rfl⟩ := List.mem_map.mp sorted
  exact List.mem_map_of_mem ((order.perm table).mem_iff.mp (List.mem_filter.mp kept).1)

/-! Rows and acknowledgements are never taken back. -/

structure Grows (before after : Relays) : Prop where
  rows : events before.table <+: events after.table
  acknowledged : before.acknowledged <+: after.acknowledged

theorem Grows.refl (s : Relays) : Grows s s := ⟨List.prefix_rfl, List.prefix_rfl⟩

theorem Grows.trans {first middle last : Relays} (left : Grows first middle) (right : Grows middle last) :
    Grows first last :=
  ⟨left.rows.trans right.rows, left.acknowledged.trans right.acknowledged⟩

theorem Moves.grows {opts : RelayOptions} {before after : Relays} {a : Action} (moves : Moves opts before a after) :
    Grows before after := by
  cases moves with
  | staged _ appended =>
    obtain ⟨added, rfl, _⟩ := appendFrom_ok appended
    exact ⟨⟨events added, by simp [events]⟩, List.prefix_rfl⟩
  | published => exact ⟨List.prefix_rfl, List.prefix_append _ _⟩
  | @committed r drain =>
    have same := events_marks drain.marks before.table
    exact ⟨⟨[], by rw [List.append_nil, same]⟩, List.prefix_rfl⟩
  | locked | turned | left | fetched | marked => exact ⟨List.prefix_rfl, List.prefix_rfl⟩

theorem run_grows (opts : RelayOptions) (s : Relays) (actions : List Action) :
    Grows s (run (Relays.step opts) s actions) :=
  run_invariant (Grows s) (fun state a growth => growth.trans (step_moves opts state a).grows) (Grows.refl s) actions

def Acknowledged (s : Relays) (e : Event) : Prop := ∃ now, (e, e.message now) ∈ s.acknowledged

def Delivered (s : Relays) (id : String) : Prop := ∃ e ∈ events s.table, e.id = id ∧ Acknowledged s e

section Grows
variable {before after : Relays} (growth : Grows before after)
include growth

theorem Acknowledged.grow {e : Event} (known : Acknowledged before e) : Acknowledged after e := by
  obtain ⟨now, member⟩ := known
  exact ⟨now, growth.acknowledged.subset member⟩

theorem Delivered.grow {id : String} (delivered : Delivered before id) : Delivered after id := by
  obtain ⟨e, member, same, known⟩ := delivered
  exact ⟨e, growth.rows.subset member, same, known.grow growth⟩

end Grows

/-! What a relay holds between its fetch and its commit. -/

structure Sound (s : Relays) (phase : Phase) : Prop where
  rest : ∀ drain, drain? phase = some drain → ∀ e ∈ drain.rest, e ∈ events s.table
  marks : ∀ drain, drain? phase = some drain → ∀ mark ∈ drain.marks, Delivered s mark.1
  marking : ∀ e drain, phase = .marking e drain → Delivered s e.id

theorem Sound.grow {before after : Relays} {phase : Phase} (sound : Sound before phase) (growth : Grows before after) :
    Sound after phase :=
  ⟨fun drain held e member => growth.rows.subset (sound.rest drain held e member),
    fun drain held mark member => (sound.marks drain held mark member).grow growth,
    fun e drain same => (sound.marking e drain same).grow growth⟩

theorem Sound.of_quiet {s : Relays} {phase : Phase} (quiet : drain? phase = none) : Sound s phase := by
  refine ⟨?_, ?_, ?_⟩
  · intro drain held
    rw [quiet] at held
    cases held
  · intro drain held
    rw [quiet] at held
    cases held
  · rintro e drain rfl
    cases quiet

theorem Sound.publish {before after : Relays} {drain : Drain} {e : Event} {rest : List Event}
    (sound : Sound before (.publishing drain)) (growth : Grows before after) (next : drain.rest = e :: rest)
    (known : Acknowledged after e) : Sound after (.marking e { drain with rest }) := by
  have staged : ∀ other ∈ e :: rest, other ∈ events after.table := by
    rw [← next]
    exact (sound.grow growth).rest drain rfl
  refine ⟨?_, ?_, ?_⟩
  · rintro _ ⟨⟩ other member
    exact staged other (List.mem_cons_of_mem e member)
  · rintro _ ⟨⟩ mark member
    exact (sound.marks drain rfl mark member).grow growth
  · rintro _ _ ⟨⟩
    exact ⟨e, staged e List.mem_cons_self, rfl, known⟩

theorem Sound.mark {s : Relays} {drain : Drain} {e : Event} (sound : Sound s (.marking e drain)) (now : Time) :
    Sound s (.publishing { drain with marks := drain.marks ++ [(e.id, now)] }) := by
  refine ⟨?_, ?_, ?_⟩
  · rintro _ ⟨⟩ other member
    exact sound.rest drain rfl other member
  · rintro _ ⟨⟩ mark member
    rcases List.mem_append.mp member with old | new
    · exact sound.marks drain rfl mark old
    · rw [List.mem_singleton.mp new]
      exact sound.marking e drain rfl
  · rintro _ _ ⟨⟩

structure Consistent (s : Relays) : Prop where
  unique : ((events s.table).map Event.id).Nodup
  published : ∀ row ∈ s.table, row.published = true → Acknowledged s row.event
  relays : ∀ r, Sound s (s.relay r)

theorem consistent_start : Consistent Relays.start :=
  ⟨List.nodup_nil, by simp [Relays.start], fun _ => Sound.of_quiet rfl⟩

namespace Consistent
variable {before after : Relays} (consistent : Consistent before) (growth : Grows before after)
include consistent growth

/-- Only the relay that moved has a new phase to account for. -/
theorem enter {r : Nat} {phase : Phase} (moved : after.relay = Function.update before.relay r phase)
    (sound : Sound after phase) : ∀ other, Sound after (after.relay other) := by
  rw [moved, Function.forall_update_iff before.relay fun _ phase => Sound after phase]
  exact ⟨sound, fun other _ => (consistent.relays other).grow growth⟩

theorem turn {r : Nat} {phase : Phase} (same : after.table = before.table)
    (moved : after.relay = Function.update before.relay r phase) (sound : Sound after phase) : Consistent after := by
  refine ⟨by rw [same]; exact consistent.unique, ?_, consistent.enter growth moved sound⟩
  intro row member published
  rw [same] at member
  exact (consistent.published row member published).grow growth

end Consistent

/-- The id of a row names its event. -/
theorem Consistent.event_eq {s : Relays} (consistent : Consistent s) {first second : Event}
    (left : first ∈ events s.table) (right : second ∈ events s.table) (same : first.id = second.id) : first = second :=
  List.inj_on_of_nodup_map consistent.unique left right same

theorem Moves.consistent {opts : RelayOptions} {before after : Relays} {a : Action} (moves : Moves opts before a after)
    (consistent : Consistent before) : Consistent after := by
  have growth := moves.grows
  cases moves with
  | locked => exact ⟨consistent.unique, consistent.published, fun r => (consistent.relays r).grow growth⟩
  | staged _ appended =>
    obtain ⟨added, rfl, unpublished, distinct⟩ := appendFrom_ok appended
    refine ⟨distinct consistent.unique, ?_, fun r => (consistent.relays r).grow growth⟩
    intro row member published
    rcases List.mem_append.mp member with old | new
    · exact consistent.published row old published
    · rw [unpublished row new] at published
      cases published
  | turned _ _ quiet _ => exact consistent.turn growth rfl rfl (Sound.of_quiet quiet)
  | left _ closed => exact consistent.turn growth rfl rfl (Sound.of_quiet (drain_of_not_open closed))
  | fetched _ _ found =>
    refine consistent.turn growth rfl rfl ⟨?_, ?_, ?_⟩
    · rintro _ ⟨⟩ e member
      rw [← found] at member
      exact mem_fetchUnpublished member
    · rintro _ ⟨⟩ mark member
      cases member
    · rintro _ _ ⟨⟩
  | @published r drain e rest now _ publishing next =>
    have sound := consistent.relays r
    rw [publishing] at sound
    have known : (e, e.message now) ∈ before.acknowledged ++ [(e, e.message now)] :=
      List.mem_append_right _ (List.mem_singleton_self _)
    exact consistent.turn growth rfl rfl (sound.publish growth next ⟨now, known⟩)
  | @marked r drain e now _ marking =>
    have sound := consistent.relays r
    rw [marking] at sound
    exact consistent.turn growth rfl rfl ((sound.mark now).grow growth)
  | @committed r drain _ publishing =>
    have sound := consistent.relays r
    rw [publishing] at sound
    have rows : events (drain.marks.foldl (fun table mark => markPublished table mark.1 mark.2) before.table) =
        events before.table := events_marks drain.marks before.table
    refine ⟨by rw [rows]; exact consistent.unique, ?_, consistent.enter growth rfl (Sound.of_quiet rfl)⟩
    intro row member published
    rcases mem_marks member with ⟨mark, marked, same⟩ | old
    · obtain ⟨e, known, named, acknowledged⟩ := sound.marks drain rfl mark marked
      have staged : row.event ∈ events before.table := by
        rw [← rows]
        exact List.mem_map_of_mem member
      rw [consistent.event_eq staged known (same.trans named.symm)]
      exact acknowledged
    · exact consistent.published row old published

theorem run_consistent (opts : RelayOptions) (actions : List Action) :
    Consistent (run (Relays.step opts) Relays.start actions) :=
  run_invariant Consistent (fun state a => (step_moves opts state a).consistent) consistent_start actions

/-! A drain that fails. -/

/-- `drainOnce` has been called and has not returned. -/
def Draining : Phase → Prop
  | .leading _ | .begun _ | .publishing _ | .marking _ _ => True
  | _ => False

/-- A relay changes the table only where its drain returns without an error. -/
theorem Moves.returns {opts : RelayOptions} {before after : Relays} {a : Action} {r : Nat}
    (moves : Moves opts before a after) (acts : a.relay? = some r) (changed : after.table ≠ before.table) :
    ∃ token count, after.relay r = .releasing token (.ok count) := by
  cases moves with
  | staged by_ =>
    rw [by_] at acts
    cases acts
  | committed owner =>
    rw [owner] at acts
    cases acts
    exact ⟨_, _, Function.update_self ..⟩
  | locked | turned | left | fetched | published | marked => exact absurd rfl changed

/-- Along a call of `drainOnce` that comes to an error no step of the relay changes the table. -/
theorem failed_drain_silent {opts : RelayOptions} {r token : Nat} {err : Err} {s : Relays} {call : List Action}
    (inside : ∀ visit ∈ trace (Relays.step opts) s call, Draining (visit.1.relay r))
    (failed : (run (Relays.step opts) s call).relay r = .releasing token (.error err)) :
    ∀ visit ∈ trace (Relays.step opts) s call, visit.2.relay? = some r →
      (visit.1.step opts visit.2).table = visit.1.table := by
  induction call generalizing s with
  | nil => simp [trace]
  | cons a rest ih =>
    obtain ⟨_, later⟩ := List.forall_mem_cons.mp inside
    refine List.forall_mem_cons.mpr ⟨?_, ih later failed⟩
    intro acts
    by_contra changed
    obtain ⟨released, count, returned⟩ := (step_moves opts s a).returns acts changed
    cases rest with
    | nil =>
      rw [run_cons, run, List.foldl_nil, returned] at failed
      cases failed
    | cons next more =>
      have still := later (s.step opts a, next) List.mem_cons_self
      rw [returned] at still
      exact still

/-- A published row was acknowledged, rows stay and keep the columns of their
event, and a drain that fails writes nothing. -/
structure LosesNothing (opts : RelayOptions) (early late : Relays) : Prop where
  acknowledged : ∀ row ∈ late.table, row.published = true → ∃ now, (row.event, row.event.message now) ∈ late.acknowledged
  kept : early.table.map Row.event <+: late.table.map Row.event
  silent : ∀ r token err call, (∀ visit ∈ trace (Relays.step opts) late call, Draining (visit.1.relay r)) →
    (run (Relays.step opts) late call).relay r = .releasing token (.error err) →
    ∀ visit ∈ trace (Relays.step opts) late call, visit.2.relay? = some r →
      (visit.1.step opts visit.2).table = visit.1.table

theorem outbox_loses_nothing (opts : RelayOptions) (before between : List Action) :
    LosesNothing opts (run (Relays.step opts) Relays.start before)
      (run (Relays.step opts) Relays.start (before ++ between)) := by
  refine ⟨(run_consistent opts _).published, ?_, fun _ _ _ _ inside failed => failed_drain_silent inside failed⟩
  rw [run_append]
  exact (run_grows opts (run (Relays.step opts) Relays.start before) between).rows

end VibeSync.Proofs.OutboxSafety
