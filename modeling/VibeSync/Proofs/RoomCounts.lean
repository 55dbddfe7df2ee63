import VibeSync.PartialMap
import VibeSync.Proofs.RoomOutlines
import VibeSync.Proofs.RoomSteps

/-! `rooms.member_count` under any interleaving of the calls that touch it. The
counter is right, and the capacity kept, as long as each statement finds the
committed rows as its transaction has read them. -/

namespace VibeSync.Proofs.RoomCounts
open VibeSync.Rooms Transaction PartialMap VibeSync.Proofs.RoomTables VibeSync.Proofs.RoomOutlines

def Tallied (id : String) (members : String → Option Member) : Option Room → Prop
  | none => ∀ user, members user = none
  | some row => row.id = id ∧ Tally members row.memberCount

def Counted (store : Store database) : Prop := ∀ id, Tallied id (Tables.member store id) (Tables.room store id)

theorem Counted.hosted {store : Store database} (counted : Counted store) {id user : String}
    (present : (Tables.member store id user).isSome) : (Tables.room store id).isSome := by
  have here := counted id
  cases found : Tables.room store id with
  | some row => rfl
  | none =>
    rw [found] at here
    rw [here user] at present
    cases present

theorem Counted.tallied {store : Store database} (counted : Counted store) {id : String} {row : Room}
    (found : Tables.room store id = some row) : row.id = id ∧ Tally (Tables.member store id) row.memberCount := by
  have here := counted id
  rw [found] at here
  exact here

/-- The statement finds the committed rows as its transaction has read them: no
member row to insert, one to delete, and the counter that is about to be written back. -/
def Consistent (store : Store database) : Statement → Prop
  | .memberUpsert given => Tables.member store given.roomID given.userID = none
  | .memberDelete roomID userID => (Tables.member store roomID userID).isSome
  | .roomUpdate given => ∀ row ∈ Tables.room store given.id, row.memberCount = given.memberCount
  | _ => True

instance (store : Store database) : (sql : Statement) → Decidable (Consistent store sql)
  | .memberUpsert given => decEq (Tables.member store given.roomID given.userID) none
  | .memberDelete roomID userID => decEq (Tables.member store roomID userID).isSome true
  | .roomUpdate given =>
    inferInstanceAs (Decidable (∀ row ∈ Tables.room store given.id, row.memberCount = given.memberCount))
  | .roomCreate _ | .roomByID _ | .roomDelete _ | .memberGet _ _ | .memberUpdateRole _ _ _
  | .incrementRoomMemberCount _ _ | .inviteCreate _ _ _ | .inviteGet _ _ | .permissionSet _ _ _ | .permissionGet _ _
  | .permissionDelete _ _ | .outboxInsert _ => isTrue trivial

/-- One more member is counted in a room that has a place left. -/
def Vacant (store : Store database) : Statement → Prop
  | .incrementRoomMemberCount roomID delta => delta = 1 → ∀ row ∈ Tables.room store roomID, row.isFull = false
  | _ => True

instance (store : Store database) : (sql : Statement) → Decidable (Vacant store sql)
  | .incrementRoomMemberCount roomID delta =>
    inferInstanceAs (Decidable (delta = 1 → ∀ row ∈ Tables.room store roomID, row.isFull = false))
  | .roomCreate _ | .roomByID _ | .roomUpdate _ | .roomDelete _ | .memberUpsert _ | .memberGet _ _ | .memberDelete _ _
  | .memberUpdateRole _ _ _ | .inviteCreate _ _ _ | .inviteGet _ _ | .permissionSet _ _ _ | .permissionGet _ _
  | .permissionDelete _ _ | .outboxInsert _ => isTrue trivial

inductive Call : Program database Err Unit → Prop where
  | create {env : Env} {subject : Subject} {req : CreateRoomRequest} {room : Room}
      (made : newRoom (env.now 0) (env.idgen 0) subject.userID env.slugBytes req.params = .ok room) :
      Call (createRoomBody env subject room)
  | join (env : Env) (subject : Subject) (roomID inviteCode : String) :
      Call (joinRoomBody env subject roomID inviteCode).discard
  | leave (subject : Subject) (roomID : String) : Call (leaveRoomBody subject roomID)
  | kick (subject : Subject) (roomID targetID : String) : Call (kickMemberBody subject roomID targetID)
  | update (env : Env) (subject : Subject) (req : UpdateRoomRequest) : Call (updateRoomBody env subject req).discard

/-! What a commit does to the tables. -/

/-- Members come in one at a time, into a room of which `R` held. -/
structure Grows (R : Room → Prop) (before after : Store database) : Prop where
  rooms : ∀ id, (Tables.room before id).isSome → (Tables.room after id).isSome
  permissions : ∀ id user, Tables.permission before id user = none → Tables.permission after id user = none
  admits : ∀ id user, Tables.member before id user = none → (Tables.member after id user).isSome →
    ∃ row, Tables.room after id = some (Tables.countedRoom row 1) ∧ R row

theorem Grows.refl (R : Room → Prop) (store : Store database) : Grows R store store := by
  refine ⟨fun _ present => present, fun _ _ absent => absent, fun id user absent present => ?_⟩
  rw [absent] at present
  cases present

theorem grows_of_pending {R : Room → Prop} {id user : String} {new : Room} {member : Option (Option Member)}
    {permission : Option (Option Int16)} {store : Store database} {own : Writes database}
    (pending : Pending id user (some (some new)) member permission own) (revoked : permission = none ∨ permission = some none)
    (admits : Tables.member store id user = none → (member.getD (Tables.member store id user)).isSome →
      ∃ row, new = Tables.countedRoom row 1 ∧ R row) :
    Grows R store (store.write own) := by
  have here : Tables.room (store.write own) id = some new := pending.room_write store
  have elsewhere := pending.elsewhere store
  refine ⟨fun other present => ?_, fun other person absent => ?_, fun other person absent present => ?_⟩
  · by_cases same : other = id
    · rw [same, here]
      rfl
    · rw [elsewhere.rooms other same]
      exact present
  · exact pending.permission_none revoked absent
  · by_cases same : other = id ∧ person = user
    · obtain ⟨rfl, rfl⟩ := same
      rw [pending.member_write store] at present
      obtain ⟨row, counted, held⟩ := admits absent present
      refine ⟨row, ?_, held⟩
      rw [here, counted]
    · rw [pending.member_other store same, absent] at present
      cases present

section Commits
variable {R : Room → Prop} {id user : String} {row : Room} {store : Store database} {own : Writes database}

theorem Counted.admission (counted : Counted store) (admitted : Admitted (· = none) R id user row store own) :
    Grows R store (store.write own) ∧ Counted (store.write own) := by
  obtain ⟨member, pending⟩ := admitted.pending
  obtain ⟨key, tally⟩ := counted.tallied admitted.found
  refine ⟨grows_of_pending pending (Or.inl rfl) fun _ _ => ⟨row, rfl, admitted.vacant⟩, ?_⟩
  apply (pending.elsewhere store).forall counted
  rw [pending.members_write store, pending.room_write store]
  exact ⟨key, tally.insert admitted.seen member⟩

theorem Counted.depart (counted : Counted store) (departed : Departed (·.isSome) id user row store own) :
    Grows R store (store.write own) ∧ Counted (store.write own) := by
  obtain ⟨found, permission, revoked, erased⟩ := departed
  obtain ⟨key, tally⟩ := counted.tallied found
  rcases erased with ⟨pending, present, _⟩ | ⟨_, impossible⟩
  · refine ⟨grows_of_pending pending revoked fun _ impossible => (by cases impossible), ?_⟩
    apply (pending.elsewhere store).forall counted
    rw [pending.members_write store, pending.room_write store]
    exact ⟨key, tally.erase present⟩
  · cases impossible

/-- A room that nobody else can see yet. -/
structure Founded (user : String) (new : Room) (member : Option (Option Member)) (store : Store database)
    (own : Writes database) : Prop where
  absent : Tables.room store new.id = none
  pending : Pending new.id user (some (some new)) member none own

theorem Founded.write {new : Room} {member : Option (Option Member)} {written : Writes database}
    (founded : Founded user new member store own) (later : Pending new.id user none none none written) :
    Founded user new member store (own.andThen written) := by
  have pending := founded.pending.andThen later
  rw [Option.none_or, Option.none_or, Option.none_or] at pending
  exact ⟨founded.absent, pending⟩

theorem Founded.seat {new : Room} {role : RoomRole} {joinedAt : Time} {written : Writes database}
    (founded : Founded user new none store own)
    (executed : Tables.execute (.memberUpsert ⟨new.id, user, role, joinedAt⟩) (store.write own) = .ok ((), written)) :
    ∃ member, Founded user new (some (some member)) store (own.andThen written) := by
  obtain ⟨_, since, same⟩ := upsertMember_ok executed
  rw [same]
  exact ⟨_, founded.absent, founded.pending.andThen (pending_putMember ⟨new.id, user, Tables.smallint role, since⟩)⟩

theorem Founded.count {new : Room} {member : Option (Option Member)} {written : Writes database}
    (founded : Founded user new member store own)
    (executed : Tables.execute (.incrementRoomMemberCount new.id 1) (store.write own) = .ok ((), written)) :
    Founded user (Tables.countedRoom new 1) member store (own.andThen written) := by
  have seen : Tables.room (store.write own) new.id = some new := founded.pending.room_write store
  rcases incrementCount_ok executed with ⟨gone, _⟩ | ⟨row, found, same⟩
  · rw [seen] at gone
    cases gone
  · rw [seen] at found
    cases found
    refine ⟨founded.absent, ?_⟩
    rw [same]
    have pending := founded.pending.andThen (pending_setRoom new.id user (Tables.countedRoom new 1))
    rw [Option.none_or, Option.none_or] at pending
    exact pending

theorem Counted.found {new : Room} {member : Member} (counted : Counted store) (held : R new) (zero : new.memberCount = 0)
    (founded : Founded user (Tables.countedRoom new 1) (some (some member)) store own) :
    Grows R store (store.write own) ∧ Counted (store.write own) := by
  refine ⟨grows_of_pending founded.pending (Or.inl rfl) fun _ _ => ⟨new, rfl, held⟩, ?_⟩
  apply (founded.pending.elsewhere store).forall counted
  have empty := counted (Tables.countedRoom new 1).id
  rw [founded.absent] at empty
  rw [founded.pending.members_write store, founded.pending.room_write store]
  refine ⟨rfl, ?_⟩
  have tally := (Tally.of_none empty).insert (empty user) member
  rw [← zero] at tally
  exact tally

/-- The room's columns have been written over the row that was found. -/
structure Revised (id : String) (row new : Room) (store : Store database) (own : Writes database) : Prop where
  found : Tables.room store id = some row
  key : new.id = row.id
  count : new.memberCount = row.memberCount
  pending : Pending id "" (some (some new)) none none own

theorem Counted.revise {new : Room} (counted : Counted store) (revised : Revised id row new store own) :
    Grows R store (store.write own) ∧ Counted (store.write own) := by
  have pending := revised.pending
  obtain ⟨key, tally⟩ := counted.tallied revised.found
  refine ⟨grows_of_pending pending (Or.inl rfl) fun absent present => ?_, ?_⟩
  · rw [absent] at present
    cases present
  · apply (pending.elsewhere store).forall counted
    rw [pending.members_write store, pending.room_write store, Option.getD_none, Function.update_eq_self]
    refine ⟨revised.key.trans key, ?_⟩
    rw [revised.count]
    exact tally

end Commits

/-! The calls keep the discipline. -/

def counting (R : Room → Prop) (allowed : Store database → Statement → Prop) : Discipline database where
  invariant := Counted
  guarantee store own := Grows R store (store.write own)
  allowed := allowed
  compatible _ _ := True

section Outlines
variable {R : Room → Prop} {allowed : Store database → Statement → Prop}
  (consistent : ∀ store sql, allowed store sql → Consistent store sql)
  (vacant : ∀ store id row, allowed store (.incrementRoomMemberCount id 1) → Tables.room store id = some row → R row)

theorem counting_lenient : (counting R allowed).Lenient := fun _ _ _ => trivial

include consistent vacant in
theorem counting_setting : Setting (counting R allowed) (· = none) (·.isSome) R := by
  refine ⟨counting_lenient, ?_, ?_, ?_, ?_, ?_, ?_, vacant⟩
  · intro store _
    exact Grows.refl R store
  · intro store other id _ within
    exact within.rooms id
  · intro store id user counted present
    exact Counted.hosted counted present
  · intro store own other id user _ within _ _ absent
    exact within.permissions id user absent
  · intro store given permitted
    exact consistent _ _ permitted
  · intro store id user permitted
    exact consistent _ _ permitted

theorem founded_stable (user : String) (new : Room) (member : Option (Option Member)) :
    (counting R allowed).Stable (Founded user new member) := by
  refine Discipline.stable_of_locked _ ?_
  intro store later own locked founded
  have same : Tables.room later new.id = Tables.room store new.id := locked _ _ founded.pending.here
  refine ⟨?_, founded.pending⟩
  rw [same]
  exact founded.absent

theorem revised_stable (id : String) (row new : Room) : (counting R allowed).Stable (Revised id row new) := by
  refine Discipline.stable_of_locked _ ?_
  intro store later own locked revised
  have same : Tables.room later id = Tables.room store id := locked _ _ revised.pending.here
  refine ⟨?_, revised.key, revised.count, revised.pending⟩
  rw [same]
  exact revised.found

theorem outline_issueInvite {env : Env} {room : Room} {user : String} {member : Option (Option Member)} {next : Unit → Tx Unit}
    (rest : (counting R allowed).Outline (next ()) (Founded user (Tables.countedRoom room 1) member)) :
    (counting R allowed).Outline (issueInvite env room >>= next) (Founded user (Tables.countedRoom room 1) member) := by
  rw [issueInvite]
  split
  · apply counting_lenient.query
    intro store own _ written _ founded _ executed
    obtain ⟨_, same⟩ := insertInvite_ok executed
    refine ⟨_, founded_stable _ _ _, ?_, rest⟩
    rw [same]
    exact founded.write (pending_putInvite _ _ _ _)
  · exact rest

include consistent vacant in
theorem outline_create (env : Env) (subject : Subject) {room : Room} (held : R room) (zero : room.memberCount = 0) :
    (counting R allowed).Outline (createRoomBody env subject room) Rules.Untouched := by
  apply counting_lenient.query
  intro store own _ written _ untouched _ executed
  cases untouched
  obtain ⟨absent, same⟩ := insertRoom_ok executed
  refine ⟨Founded subject.userID room none, founded_stable _ _ _, ⟨absent, ?_⟩, ?_⟩
  · rw [same, Writes.empty_andThen]
    exact pending_putRoom room subject.userID
  apply counting_lenient.query
  intro store own _ written _ founded _ executed
  obtain ⟨member, seated⟩ := founded.seat executed
  refine ⟨_, founded_stable _ _ _, seated, ?_⟩
  apply counting_lenient.query
  intro store own _ written _ founded _ executed
  refine ⟨_, founded_stable _ _ _, founded.count executed, ?_⟩
  apply outline_issueInvite
  rw [← Program.bind_pure (Repo.outboxAppend _)]
  apply outline_outbox (counting_setting consistent vacant) (founded_stable _ _ _)
  · intro store own entry founded
    exact founded.write (pending_putOutbox _ _ _ entry)
  · intro last final counted founded
    exact Counted.found counted held zero founded

include consistent vacant in
theorem outline_update (env : Env) (subject : Subject) (req : UpdateRoomRequest) :
    (counting R allowed).Outline (updateRoomBody env subject req) Rules.Untouched := by
  have setting := counting_setting consistent vacant
  apply outline_roomByID setting rfl
  intro store row counted found
  have key : (req.apply env row).id = req.id := (RoomSteps.apply_id req env row).trans (Counted.tallied counted found).1
  apply counting_lenient.reads (requireRoomRole_readOnly req.id subject roleOwner) (knows_stable setting req.id)
  intro _
  apply counting_lenient.query
  intro store own _ written counted knows permitted executed
  cases knows.silent
  rcases updateRoom_ok executed with ⟨gone, _⟩ | ⟨row', found', same⟩
  · rw [Store.write_empty, key] at gone
    have hosted := knows.hosted
    rw [gone] at hosted
    cases hosted
  rw [Store.write_empty, key] at found'
  refine ⟨Revised req.id row' (Tables.overwrite row' (req.apply env row)), revised_stable _ _ _, ⟨found', rfl, ?_, ?_⟩, ?_⟩
  · have expected := consistent _ _ permitted row' (by rw [key]; exact found')
    exact expected.symm
  · have pending := pending_replaceRoom row' (Tables.overwrite row' (req.apply env row)) ""
    rw [show (Tables.overwrite row' (req.apply env row)).id = req.id from (Counted.tallied counted found').1] at pending
    rw [same, Writes.empty_andThen]
    exact pending
  intro last final counted revised
  exact Counted.revise counted revised

include consistent vacant in
theorem call_outline (fresh : ∀ now id owner random params room, newRoom now id owner random params = .ok room → R room)
    (program : Program database Err Unit) (started : Call program) :
    (counting R allowed).Outline program Rules.Untouched := by
  have setting := counting_setting consistent vacant
  cases started with
  | create made => exact outline_create consistent vacant _ _ (fresh _ _ _ _ _ _ made) (RoomSteps.newRoom_fields made).2.2
  | join env subject roomID inviteCode =>
    apply Discipline.Outline.discard
    exact outline_join setting env subject roomID inviteCode fun store own row counted admitted => counted.admission admitted
  | leave subject roomID =>
    exact outline_leave setting subject roomID fun store own row counted departed => counted.depart departed
  | kick subject roomID targetID =>
    exact outline_kick setting subject roomID targetID fun store own row counted departed => counted.depart departed
  | update env subject req =>
    apply Discipline.Outline.discard
    exact outline_update consistent vacant env subject req

include consistent vacant in
theorem counting_run (fresh : ∀ now id owner random params room, newRoom now id owner random params = .ok room → R room)
    {store : Store database} {after : System database Err Unit} (counted : Counted store)
    (run : Run Call allowed (System.idle store) after) : (counting R allowed).Safe after := by
  have always : ∀ first second, (counting R allowed).compatible first second := fun _ _ => trivial
  exact (Discipline.safe_of_run (call_outline consistent vacant fresh) counted (Run.disciplined always run)).1

end Outlines

/-! The counter. -/

/-- As long as every statement finds the committed rows as its transaction has
read them, `member_count` is the number of member rows in every committed state. -/
theorem member_count_right (store : Store database) (after : System database Err Unit) (counted : Counted store)
    (run : Run Call Consistent (System.idle store) after) :
    ∀ id row, Tables.room after.committed id = some row → Tally (Tables.member after.committed id) row.memberCount := by
  have safe := @counting_run (fun _ => True) Consistent (fun _ _ permitted => permitted) (fun _ _ _ _ _ => trivial)
    (fun _ _ _ _ _ _ _ => trivial) store after counted run
  intro id row found
  exact (Counted.tallied safe.store found).2

/-! Concrete calls: a room of the first user for two members. -/

def request : CreateRoomRequest := { name := "den", description := none, visibility := 1, maxMembers := some 2 }

def den : Room :=
  { id := "r1", slug := "den-abcdef", name := "den", description := "", visibility := visibilityPublic, ownerID := "u1"
    maxMembers := 2, memberCount := 0, createdAt := 0, updatedAt := 0 }

def opening : Program database Err Unit := createRoomBody (RoomSteps.draws ["r1", "e1"]) ⟨"u1", .user⟩ den

def joinAs (user event : String) : Program database Err Unit :=
  (joinRoomBody (RoomSteps.draws [event]) ⟨user, .user⟩ "r1" "").discard

def redescribe : Program database Err Unit :=
  (updateRoomBody (RoomSteps.draws []) ⟨"u1", .user⟩
    { id := "r1", name := none, description := some "quiet", visibility := none, maxMembers := none }).discard

theorem opening_started : Call opening := by
  have made : (newRoom 0 "r1" "u1" (RoomSteps.draws []).slugBytes request.params).toOption = some den := by decide +kernel
  cases outcome : newRoom 0 "r1" "u1" (RoomSteps.draws []).slugBytes request.params with
  | error err =>
    rw [outcome] at made
    cases made
  | ok room =>
    rw [outcome] at made
    cases made
    exact @Call.create (RoomSteps.draws ["r1", "e1"]) ⟨"u1", .user⟩ request den outcome

theorem joinAs_started (user event : String) : Call (joinAs user event) := .join ..

def empty : Store database := fun _ => none

theorem empty_counted : Counted empty := fun _ _ => rfl

def opened : Store database := (opening.withTx empty).2

theorem opening_runs {allowed : Store database → Statement → Prop} (permitted : opening.Permitted allowed empty Writes.empty) :
    Run Call allowed (System.idle empty) (System.idle opened) :=
  withTx_runs opening_started permitted (Program.outcome_of_isOk (by decide +kernel))

/-- The third user joins while the second has read the room and not yet counted itself. -/
theorem member_count_right_joined :
    ∃ after, Run Call Consistent (System.idle empty) after ∧ (Tables.room after.committed "r1").map Room.memberCount = some 3 ∧
      Tally (Tables.member after.committed "r1") 3 := by
  have overtaking : Overtaking Call Consistent opened (joinAs "u2" "e2") _ (joinAs "u3" "e3") () () _ _ :=
    ⟨⟨joinAs_started .., joinAs_started ..⟩, .read rfl .here, by decide +kernel, Program.outcome_of_isOk (by decide +kernel),
      by decide +kernel, Program.outcome_of_isOk (by decide +kernel), by decide +kernel⟩
  obtain ⟨middle, early, _, step⟩ := overtaking.step
  obtain ⟨after, run, counter⟩ : ∃ after, Run Call Consistent (System.idle empty) after ∧
      (Tables.room after.committed "r1").map Room.memberCount = some 3 :=
    ⟨_, ((opening_runs (by decide +kernel)).trans early).tail step, by decide +kernel⟩
  obtain ⟨row, found, count⟩ := Option.map_eq_some_iff.mp counter
  have tally := member_count_right empty after empty_counted run "r1" row found
  rw [count] at tally
  exact ⟨after, run, counter, tally⟩

/-- An update that has read the room before a join commits writes the old counter back. -/
theorem update_loses_member :
    ¬ ∀ (store : Store database) (after : System database Err Unit), Counted store →
        Run Call (fun _ _ => True) (System.idle store) after →
        ∀ id row, Tables.room after.committed id = some row → Tally (Tables.member after.committed id) row.memberCount := by
  intro claim
  have always : ∀ (_ : Store database) (_ : Statement), True := fun _ _ => trivial
  have overtaken := @run_overtaken database Err Unit Call (fun _ _ => True) opened redescribe _ (joinAs "u2" "e2")
    () () _ _ always (.update ..) (joinAs_started ..) (.read rfl .here)
    (Program.outcome_of_isOk (by decide +kernel)) (Program.outcome_of_isOk (by decide +kernel))
  obtain ⟨after, run, count, present⟩ : ∃ after, Run Call (fun _ _ => True) (System.idle empty) after ∧
      (Tables.room after.committed "r1").map Room.memberCount = some 1 ∧
      ∀ user ∈ ({"u1", "u2"} : Finset String), (Tables.member after.committed "r1" user).isSome :=
    ⟨_, (opening_runs (Program.permitted_of_always always ..)).trans overtaken, by decide +kernel, by decide +kernel⟩
  obtain ⟨row, found, one⟩ := Option.map_eq_some_iff.mp count
  have two := (claim empty after empty_counted run "r1" row found).card_le present
  rw [one] at two
  exact absurd two (by decide)

/-! The capacity. -/

theorem newRoom_vacant {now : Time} {id ownerID : String} {random : List UInt8} {p : NewRoomParams} {room : Room}
    (made : newRoom now id ownerID random p = .ok room) : room.isFull = false := by
  simp only [newRoom] at made
  split at made
  · cases made
  split at made
  · cases made
  · cases made
    apply decide_eq_false
    simp only [defaultMaxMembers]
    split
    · split
      · omega
      · omega
    · omega

/-- If in addition every new member is counted in a room that has a place left,
a commit that brings one in leaves no more members than the committed capacity. -/
theorem capacity_kept (store : Store database) (middle after : System database Err Unit) (counted : Counted store)
    (run : Run Call (fun committed sql => Consistent committed sql ∧ Vacant committed sql) (System.idle store) middle)
    (step : Step Call (fun committed sql => Consistent committed sql ∧ Vacant committed sql) middle after) :
    ∀ id user, Tables.member middle.committed id user = none → (Tables.member after.committed id user).isSome →
      ∃ row count, Tables.room after.committed id = some row ∧ Tally (Tables.member after.committed id) count ∧
        count ≤ row.maxMembers := by
  have consistent : ∀ store sql, Consistent store sql ∧ Vacant store sql → Consistent store sql := fun _ _ both => both.1
  have vacant : ∀ store id row, Consistent store (.incrementRoomMemberCount id 1) ∧ Vacant store (.incrementRoomMemberCount id 1) →
      Tables.room store id = some row → row.isFull = false := fun _ _ row both found => both.2 rfl row found
  have fresh : ∀ now id owner random params room, newRoom now id owner random params = .ok room → room.isFull = false :=
    fun _ _ _ _ _ _ made => newRoom_vacant made
  have safe := counting_run consistent vacant fresh counted run
  obtain ⟨moves, last⟩ := safe.step (call_outline consistent vacant fresh) step (disciplined_of_always (fun _ _ => trivial) _)
  intro id user absent present
  rcases moves with same | ⟨writes, within, same⟩
  · rw [same, absent] at present
    cases present
  · rw [same] at present
    obtain ⟨row, found, notFull⟩ := within.admits id user absent present
    rw [← same] at found
    refine ⟨_, _, found, (Counted.tallied last.store found).2, ?_⟩
    simp only [Room.isFull, decide_eq_false_iff_not] at notFull
    simp only [Tables.countedRoom]
    omega

/-- The owner writes a new description while the second user has read the room and not yet joined it. -/
theorem capacity_kept_joined :
    ∃ after row count, Run Call (fun committed sql => Consistent committed sql ∧ Vacant committed sql) (System.idle empty) after ∧
      (Tables.member after.committed "r1" "u2").isSome ∧ Tables.room after.committed "r1" = some row ∧ row.description = "quiet" ∧
      Tally (Tables.member after.committed "r1") count ∧ count ≤ row.maxMembers := by
  have calls : Run Call (fun committed sql => Consistent committed sql ∧ Vacant committed sql) (System.idle empty)
      (System.idle opened) := opening_runs (by decide +kernel)
  have overtaking : Overtaking Call (fun committed sql => Consistent committed sql ∧ Vacant committed sql) opened
      (joinAs "u2" "e2") _ redescribe () () _ _ :=
    ⟨⟨joinAs_started .., .update ..⟩, .read rfl .here, by decide +kernel, Program.outcome_of_isOk (by decide +kernel),
      by decide +kernel, Program.outcome_of_isOk (by decide +kernel), by decide +kernel⟩
  obtain ⟨middle, early, same, step⟩ := overtaking.step
  obtain ⟨after, last, present, quiet⟩ : ∃ after, Step Call (fun committed sql => Consistent committed sql ∧ Vacant committed sql)
      middle after ∧ (Tables.member after.committed "r1" "u2").isSome ∧
        (Tables.room after.committed "r1").map Room.description = some "quiet" :=
    ⟨_, step, by decide +kernel, by decide +kernel⟩
  obtain ⟨row, count, found, tally, fits⟩ := capacity_kept empty middle after empty_counted (calls.trans early) last "r1" "u2"
    (by rw [same]; decide +kernel) present
  rw [found] at quiet
  exact ⟨after, row, count, (calls.trans early).tail last, present, found, Option.some.inj quiet, tally, fits⟩

/-- Two users who both see the last place take it. -/
theorem last_place_taken_twice :
    ¬ ∀ (store : Store database) (middle after : System database Err Unit), Counted store →
        Run Call (fun _ _ => True) (System.idle store) middle → Step Call (fun _ _ => True) middle after →
        ∀ id user, Tables.member middle.committed id user = none → (Tables.member after.committed id user).isSome →
          ∃ row count, Tables.room after.committed id = some row ∧ Tally (Tables.member after.committed id) count ∧
            count ≤ row.maxMembers := by
  intro claim
  have always : ∀ (_ : Store database) (_ : Statement), True := fun _ _ => trivial
  have overtaking : Overtaking Call (fun _ _ => True) opened (joinAs "u2" "e2") _ (joinAs "u3" "e3") () () _ _ :=
    .of_always always (joinAs_started ..) (joinAs_started ..) (.read rfl .here)
      (Program.outcome_of_isOk (by decide +kernel)) (Program.outcome_of_isOk (by decide +kernel))
  obtain ⟨middle, run, same, step⟩ := overtaking.step
  obtain ⟨row, count, found, tally, fits⟩ := claim empty middle _ empty_counted
    ((opening_runs (Program.permitted_of_always always ..)).trans run) step "r1" "u2" (by rw [same]; decide +kernel)
    (by decide +kernel)
  have three := tally.card_le (show ∀ user ∈ ({"u1", "u2", "u3"} : Finset String), _ by decide +kernel)
  have limit : row.maxMembers = 2 := by
    have seen := congrArg (Option.map Room.maxMembers) found
    exact (Option.some.inj (seen.symm.trans (by decide +kernel)))
  rw [limit] at fits
  exact absurd (three.trans fits) (by decide)

end VibeSync.Proofs.RoomCounts
