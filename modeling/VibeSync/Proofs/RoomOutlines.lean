import VibeSync.Proofs.RoomTables
import VibeSync.Proofs.TransactionLogic

/-! Proof outlines of `JoinRoom`, `LeaveRoom` and `KickMember` under any
discipline that keeps rooms in place. What a discipline asks of a statement goes
into the assertions through `P`, `Q` and `R`. -/

namespace VibeSync.Proofs.RoomOutlines
open VibeSync.Rooms Transaction VibeSync.Proofs.RoomTables

/-! The writes of one call: it touches one room and one member of it. -/

structure Pending (id user : String) (room : Option (Option Room)) (member : Option (Option Member))
    (permission : Option (Option Int16)) (own : Writes database) : Prop where
  here : own (.room id) = room
  seat : own (.member id user) = member
  grant : own (.permission id user) = permission
  rooms : ∀ other, other ≠ id → own (.room other) = none
  members : ∀ other person, ¬ (other = id ∧ person = user) → own (.member other person) = none
  permissions : ∀ other person, ¬ (other = id ∧ person = user) → own (.permission other person) = none

section Pending
variable {id user : String} {room : Option (Option Room)} {member : Option (Option Member)}
  {permission : Option (Option Int16)} {own : Writes database}

theorem Pending.andThen {room' : Option (Option Room)} {member' : Option (Option Member)}
    {permission' : Option (Option Int16)} {written : Writes database} (pending : Pending id user room member permission own)
    (later : Pending id user room' member' permission' written) :
    Pending id user (room'.or room) (member'.or member) (permission'.or permission) (own.andThen written) := by
  refine ⟨?_, ?_, ?_, fun other different => ?_, fun other person different => ?_, fun other person different => ?_⟩
  · rw [Writes.andThen, later.here, pending.here]
  · rw [Writes.andThen, later.seat, pending.seat]
  · rw [Writes.andThen, later.grant, pending.grant]
  · rw [Writes.andThen, later.rooms other different, pending.rooms other different]
    rfl
  · rw [Writes.andThen, later.members other person different, pending.members other person different]
    rfl
  · rw [Writes.andThen, later.permissions other person different, pending.permissions other person different]
    rfl

theorem pending_putMember (given : Member) :
    Pending given.roomID given.userID none (some (some given)) none (Tables.putMember given) :=
  ⟨rfl, if_pos ⟨rfl, rfl⟩, rfl, fun _ _ => rfl, fun _ _ different => if_neg different, fun _ _ _ => rfl⟩

theorem pending_setRoom (id user : String) (row : Room) :
    Pending id user (some (some row)) none none (Tables.setRoom id row) :=
  ⟨if_pos rfl, rfl, rfl, fun _ different => if_neg different, fun _ _ _ => rfl, fun _ _ _ => rfl⟩

theorem pending_deleteMember (view : View) (id user : String) :
    Pending id user none ((Tables.member view id user).map fun _ => none) none (Tables.deleteMember view id user) :=
  ⟨rfl, if_pos ⟨rfl, rfl⟩, rfl, fun _ _ => rfl, fun _ _ different => if_neg different, fun _ _ _ => rfl⟩

theorem pending_deletePermission (view : View) (id user : String) :
    Pending id user none none ((Tables.permission view id user).map fun _ => none) (Tables.deletePermission view id user) :=
  ⟨rfl, rfl, if_pos ⟨rfl, rfl⟩, fun _ _ => rfl, fun _ _ _ => rfl, fun _ _ different => if_neg different⟩

theorem pending_putOutbox (id user event : String) (row : Outbox.Row) :
    Pending id user none none none (Tables.putOutbox event row) :=
  ⟨rfl, rfl, rfl, fun _ _ => rfl, fun _ _ _ => rfl, fun _ _ _ => rfl⟩

theorem pending_putInvite (id user code : String) (row : Invite) :
    Pending id user none none none (Tables.putInvite code row) :=
  ⟨rfl, rfl, rfl, fun _ _ => rfl, fun _ _ _ => rfl, fun _ _ _ => rfl⟩

theorem pending_putPermission (id user : String) (perms : Permissions) :
    Pending id user none none (some (some perms.toInt16)) (Tables.putPermission id user perms) :=
  ⟨rfl, rfl, if_pos ⟨rfl, rfl⟩, fun _ _ => rfl, fun _ _ _ => rfl, fun _ _ different => if_neg different⟩

theorem pending_putRoom (new : Room) (user : String) :
    Pending new.id user (some (some new)) none none (Tables.putRoom new) :=
  ⟨if_pos rfl, rfl, rfl, fun _ different => if_neg different, fun _ _ _ => rfl, fun _ _ _ => rfl⟩

theorem pending_replaceRoom (old new : Room) (user : String) :
    Pending new.id user (some (some new)) none none (Tables.replaceRoom old new) :=
  ⟨if_pos rfl, rfl, rfl, fun _ different => if_neg different, fun _ _ _ => rfl, fun _ _ _ => rfl⟩

theorem Pending.room_write (pending : Pending id user room member permission own) (store : Store database) :
    Tables.room (store.write own) id = room.getD (Tables.room store id) := by
  rw [RoomTables.room_write, pending.here]

theorem Pending.member_write (pending : Pending id user room member permission own) (store : Store database) :
    Tables.member (store.write own) id user = member.getD (Tables.member store id user) := by
  rw [RoomTables.member_write, pending.seat]

theorem Pending.member_other (pending : Pending id user room member permission own) (store : Store database)
    {other person : String} (different : ¬ (other = id ∧ person = user)) :
    Tables.member (store.write own) other person = Tables.member store other person := by
  rw [RoomTables.member_write, pending.members other person different]
  rfl

theorem Pending.members_write (pending : Pending id user room member permission own) (store : Store database) :
    Tables.member (store.write own) id =
      Function.update (Tables.member store id) user (member.getD (Tables.member store id user)) := by
  funext person
  by_cases same : person = user
  · subst person
    rw [Function.update_self]
    exact pending.member_write store
  · rw [Function.update_of_ne same]
    exact pending.member_other store fun both => same both.2

theorem Pending.elsewhere (pending : Pending id user room member permission own) (store : Store database) :
    Elsewhere id store (store.write own) := by
  refine ⟨fun other different => ?_, fun other different => funext fun person => ?_⟩
  · rw [RoomTables.room_write, pending.rooms other different]
    rfl
  · exact pending.member_other store fun both => different both.1

theorem Pending.permission_write (pending : Pending id user room member permission own) (store : Store database) :
    Tables.permission (store.write own) id user = permission.getD (Tables.permission store id user) := by
  rw [RoomTables.permission_write, pending.grant]

theorem Pending.permission_other (pending : Pending id user room member permission own) (store : Store database)
    {other person : String} (different : ¬ (other = id ∧ person = user)) :
    Tables.permission (store.write own) other person = Tables.permission store other person := by
  rw [RoomTables.permission_write, pending.permissions other person different]
  rfl

/-- A call that grants nothing leaves missing permissions missing. -/
theorem Pending.permission_none (pending : Pending id user room member permission own)
    (revoked : permission = none ∨ permission = some none) {store : Store database} {other person : String}
    (absent : Tables.permission store other person = none) : Tables.permission (store.write own) other person = none := by
  by_cases same : other = id ∧ person = user
  · obtain ⟨rfl, rfl⟩ := same
    rw [pending.permission_write store, absent]
    rcases revoked with untouched | deleted
    · rw [untouched]
      rfl
    · rw [deleted]
      rfl
  · rw [pending.permission_other store same]
    exact absent

/-- Deleting the permission row that the call sees. -/
theorem Pending.revoke (pending : Pending id user none member none own) (store : Store database) :
    ∃ permission, (permission = none ∨ permission = some none) ∧
      Pending id user none member permission (own.andThen (Tables.deletePermission (store.write own) id user)) ∧
      (permission = none → Tables.permission store id user = none) := by
  have cleared := pending_deletePermission (store.write own) id user
  rw [pending.permission_write store] at cleared
  have both := pending.andThen cleared
  cases found : Tables.permission store id user with
  | none =>
    rw [found] at both
    exact ⟨none, Or.inl rfl, both, fun _ => rfl⟩
  | some mask =>
    rw [found] at both
    exact ⟨some none, Or.inr rfl, both, fun impossible => by cases impossible⟩

end Pending

/-! What the outlines need of a discipline. -/

structure Setting (d : Discipline database) (P Q : Option Member → Prop) (R : Room → Prop) : Prop where
  lenient : d.Lenient
  idle : ∀ store, d.invariant store → d.guarantee store Writes.empty
  rooms : ∀ store other id, d.invariant store → d.guarantee store other →
    (Tables.room store id).isSome → (Tables.room (store.write other) id).isSome
  hosted : ∀ store id user, d.invariant store → (Tables.member store id user).isSome → (Tables.room store id).isSome
  /-- No permission appears for a member whose row is being deleted. -/
  quiet : ∀ store own other id user, d.invariant store → d.guarantee store other → d.compatible own other →
    own (.member id user) = some none → Tables.permission store id user = none →
    Tables.permission (store.write other) id user = none
  upsert : ∀ store given, d.allowed store (.memberUpsert given) → P (Tables.member store given.roomID given.userID)
  delete : ∀ store id user, d.allowed store (.memberDelete id user) → Q (Tables.member store id user)
  increment : ∀ store id row, d.allowed store (.incrementRoomMemberCount id 1) → Tables.room store id = some row → R row

section Outlines
variable {d : Discipline database} {P Q : Option Member → Prop} {R : Room → Prop} {α : Type}

/-- The room has been seen; the call has written nothing. -/
structure Knows (id : String) (store : Store database) (own : Writes database) : Prop where
  silent : own = Writes.empty
  hosted : (Tables.room store id).isSome

theorem knows_stable (setting : Setting d P Q R) (id : String) : d.Stable (Knows id) := by
  intro store own other kept within _ _ knows
  exact ⟨knows.silent, setting.rooms store other id kept within knows.hosted⟩

/-- The member row has been inserted. -/
structure Seated (P : Option Member → Prop) (id user : String) (store : Store database) (own : Writes database) : Prop where
  hosted : (Tables.room store id).isSome
  seen : P (Tables.member store id user)
  pending : ∃ member, Pending id user none (some (some member)) none own

theorem seated_stable (setting : Setting d P Q R) (id user : String) : d.Stable (Seated P id user) := by
  intro store own other kept within apart _ seated
  obtain ⟨member, pending⟩ := seated.pending
  refine ⟨setting.rooms store other id kept within seated.hosted, ?_, member, pending⟩
  have same : Tables.member (store.write other) id user = Tables.member store id user :=
    Store.write_locked apart pending.seat store
  rw [same]
  exact seated.seen

/-- The counter has been moved as well. -/
structure Admitted (P : Option Member → Prop) (R : Room → Prop) (id user : String) (row : Room)
    (store : Store database) (own : Writes database) : Prop where
  found : Tables.room store id = some row
  vacant : R row
  seen : P (Tables.member store id user)
  pending : ∃ member, Pending id user (some (some (Tables.countedRoom row 1))) (some (some member)) none own

theorem admitted_stable (id user : String) (row : Room) : d.Stable (Admitted P R id user row) := by
  refine d.stable_of_locked ?_
  intro store later own locked admitted
  obtain ⟨member, pending⟩ := admitted.pending
  have sameRoom : Tables.room later id = Tables.room store id := locked _ _ pending.here
  have sameMember : Tables.member later id user = Tables.member store id user := locked _ _ pending.seat
  refine ⟨?_, admitted.vacant, ?_, member, pending⟩
  · rw [sameRoom]
    exact admitted.found
  · rw [sameMember]
    exact admitted.seen

/-- Appending to the outbox leaves the other tables alone. -/
theorem outline_outbox (setting : Setting d P Q R) {assertion : Store database → Writes database → Prop}
    {event : Outbox.Event} {next : Unit → Tx α} (stable : d.Stable assertion)
    (undisturbed : ∀ store own row, assertion store own → assertion store (own.andThen (Tables.putOutbox event.id row)))
    (rest : d.Outline (next ()) assertion) : d.Outline (Repo.outboxAppend event >>= next) assertion := by
  rw [Repo.outboxAppend]
  split
  · trivial
  · apply setting.lenient.query
    intro store own reply written _ holds _ executed
    refine ⟨assertion, stable, ?_, rest⟩
    rw [insertOutbox_ok executed]
    exact undisturbed store own _ holds

theorem memberGet_readOnly (roomID userID : String) : (Repo.memberGet roomID userID).ReadOnly := by
  refine ⟨fun store reply written executed => ?_, fun _ => trivial⟩
  cases executed
  rfl

theorem checkInvite_readOnly (env : Env) (room : Room) (roomID inviteCode : String) :
    (checkInvite env room roomID inviteCode).ReadOnly := by
  rw [checkInvite]
  split
  · split
    · trivial
    · refine ⟨fun store reply written executed => ?_, fun reply => ?_⟩
      · cases executed
        rfl
      · cases reply with
        | none => trivial
        | some inviteRoomID =>
          change (if inviteRoomID = roomID then pure () else Program.fail _ : Tx Unit).ReadOnly
          split <;> trivial
  · trivial

theorem requireRoomRole_readOnly (roomID : String) (subject : Subject) (minRole : RoomRole) :
    (requireRoomRole roomID subject minRole).ReadOnly := by
  rw [requireRoomRole]
  split
  · trivial
  · refine ⟨fun store reply written executed => ?_, fun reply => ?_⟩
    · cases executed
      rfl
    · cases reply with
      | none => trivial
      | some member =>
        change (if member.role < minRole then Program.fail _ else pure () : Tx Unit).ReadOnly
        split <;> trivial

/-- The first statement of most calls: the room is there, or the call fails. -/
theorem outline_roomByID (setting : Setting d P Q R) {roomID : String} {next : Option Room → Tx α} {problem : Err}
    (missing : next none = Program.fail problem)
    (rest : ∀ store row, d.invariant store → Tables.room store roomID = some row →
      d.Outline (next (some row)) (Knows roomID)) :
    d.Outline (Repo.roomByID roomID >>= next) Rules.Untouched := by
  apply setting.lenient.query
  intro store own reply written kept untouched _ executed
  cases untouched
  have found : Tables.room store roomID = reply ∧ written = Writes.empty := by
    cases executed
    exact ⟨rfl, rfl⟩
  cases reply with
  | none =>
    rw [missing]
    exact Discipline.Outline.fail d problem
  | some row =>
    refine ⟨Knows roomID, knows_stable setting roomID, ⟨?_, ?_⟩, rest store row kept found.1⟩
    · rw [found.2, Writes.andThen_empty]
    · rw [found.1]
      rfl

theorem outline_idle (setting : Setting d P Q R) {roomID : String} (value : α) :
    d.Outline (pure value : Tx α) (Knows roomID) := by
  intro store own kept knows
  cases knows.silent
  exact ⟨setting.idle store kept, kept⟩

/-- The counter of a room in place moves in the latest committed row. -/
theorem increment_found {store : Store database} {own written : Writes database} {id user : String} {delta : Int}
    {member : Option (Option Member)} {permission : Option (Option Int16)}
    (pending : Pending id user none member permission own) (hosted : (Tables.room store id).isSome)
    (executed : Tables.execute (.incrementRoomMemberCount id delta) (store.write own) = .ok ((), written)) :
    ∃ row, Tables.room store id = some row ∧
      Pending id user (some (some (Tables.countedRoom row delta))) member permission (own.andThen written) := by
  have seen : Tables.room (store.write own) id = Tables.room store id := pending.room_write store
  rcases incrementCount_ok executed with ⟨absent, _⟩ | ⟨row, found, same⟩
  · rw [seen] at absent
    rw [absent] at hosted
    cases hosted
  · rw [seen] at found
    rw [same]
    exact ⟨row, found, pending.andThen (pending_setRoom id user _)⟩

theorem outline_join (setting : Setting d P Q R) (env : Env) (subject : Subject) (roomID inviteCode : String)
    (commit : ∀ store own row, d.invariant store → Admitted P R roomID subject.userID row store own →
      d.guarantee store own ∧ d.invariant (store.write own)) :
    d.Outline (joinRoomBody env subject roomID inviteCode) Rules.Untouched := by
  apply outline_roomByID setting rfl
  intro _ room _ _
  apply setting.lenient.reads (checkInvite_readOnly env room roomID inviteCode) (knows_stable setting roomID)
  intro _
  split
  · trivial
  apply setting.lenient.reads (memberGet_readOnly roomID subject.userID) (knows_stable setting roomID)
  intro existing
  cases existing with
  | some member => exact outline_idle setting _
  | none =>
    apply setting.lenient.query
    intro store own _ written _ knows permitted executed
    obtain ⟨_, joinedAt, same⟩ := upsertMember_ok executed
    cases knows.silent
    refine ⟨Seated P roomID subject.userID, seated_stable setting _ _,
      ⟨knows.hosted, setting.upsert _ _ permitted, ?_⟩, ?_⟩
    · rw [same, Writes.empty_andThen]
      exact ⟨_, pending_putMember ⟨roomID, subject.userID, _, joinedAt⟩⟩
    apply setting.lenient.query
    intro store own _ written _ seated permitted executed
    obtain ⟨member, pending⟩ := seated.pending
    obtain ⟨row, found, moved⟩ := increment_found pending seated.hosted executed
    refine ⟨Admitted P R roomID subject.userID row, admitted_stable _ _ _,
      ⟨found, setting.increment _ _ row permitted found, seated.seen, member, moved⟩, ?_⟩
    apply outline_outbox setting (admitted_stable _ _ _)
    · intro store own entry admitted
      obtain ⟨member, pending⟩ := admitted.pending
      exact ⟨admitted.found, admitted.vacant, admitted.seen, member, pending.andThen (pending_putOutbox _ _ _ entry)⟩
    · intro last final kept admitted
      exact commit last final row kept admitted

/-! Leaving and kicking. -/

/-- The member row is deleted, or it was gone already. -/
structure Unseated (Q : Option Member → Prop) (id user : String) (store : Store database) (own : Writes database) : Prop where
  hosted : (Tables.room store id).isSome
  erased : (Pending id user none (some none) none own ∧ (Tables.member store id user).isSome) ∨
    (Pending id user none none none own ∧ Q none)

theorem unseated_stable (setting : Setting d P Q R) (id user : String) : d.Stable (Unseated Q id user) := by
  intro store own other kept within apart _ unseated
  refine ⟨setting.rooms store other id kept within unseated.hosted, ?_⟩
  rcases unseated.erased with ⟨pending, present⟩ | gone
  · have same : Tables.member (store.write other) id user = Tables.member store id user :=
      Store.write_locked apart pending.seat store
    exact Or.inl ⟨pending, by rw [same]; exact present⟩
  · exact Or.inr gone

/-- The permission row goes with the member row. -/
def Removing (Q : Option Member → Prop) (id user : String) (room : Option (Option Room)) (store : Store database)
    (own : Writes database) : Prop :=
  ∃ permission, (permission = none ∨ permission = some none) ∧
    ((Pending id user room (some none) permission own ∧ (Tables.member store id user).isSome ∧
        (permission = none → Tables.permission store id user = none)) ∨
      (Pending id user room none permission own ∧ Q none))

theorem removing_stable (setting : Setting d P Q R) (id user : String) (room : Option (Option Room)) :
    d.Stable (Removing Q id user room) := by
  intro store own other kept within apart compatible removing
  obtain ⟨permission, form, cases⟩ := removing
  refine ⟨permission, form, ?_⟩
  rcases cases with ⟨pending, present, cleared⟩ | gone
  · have same : Tables.member (store.write other) id user = Tables.member store id user :=
      Store.write_locked apart pending.seat store
    refine Or.inl ⟨pending, by rw [same]; exact present, fun untouched => ?_⟩
    exact setting.quiet store own other id user kept within compatible pending.seat (cleared untouched)
  · exact Or.inr gone

structure Departed (Q : Option Member → Prop) (id user : String) (row : Room) (store : Store database)
    (own : Writes database) : Prop where
  found : Tables.room store id = some row
  removing : Removing Q id user (some (some (Tables.countedRoom row (-1)))) store own

theorem Removing.here {id user : String} {room : Option (Option Room)} {store : Store database} {own : Writes database}
    (removing : Removing Q id user room store own) : own (.room id) = room := by
  obtain ⟨_, _, cases⟩ := removing
  rcases cases with ⟨pending, _⟩ | ⟨pending, _⟩
  · exact pending.here
  · exact pending.here

theorem departed_stable (setting : Setting d P Q R) (id user : String) (row : Room) : d.Stable (Departed Q id user row) := by
  intro store own other kept within apart compatible departed
  have same : Tables.room (store.write other) id = Tables.room store id :=
    Store.write_locked apart departed.removing.here store
  exact ⟨by rw [same]; exact departed.found, removing_stable setting id user _ store own other kept within apart compatible
    departed.removing⟩

theorem Unseated.revoke {id user : String} {store : Store database} {own : Writes database}
    (unseated : Unseated Q id user store own) :
    Removing Q id user none store (own.andThen (Tables.deletePermission (store.write own) id user)) := by
  rcases unseated.erased with ⟨pending, present⟩ | ⟨pending, gone⟩
  · obtain ⟨permission, revoked, both, cleared⟩ := pending.revoke store
    exact ⟨permission, revoked, Or.inl ⟨both, present, cleared⟩⟩
  · obtain ⟨permission, revoked, both, _⟩ := pending.revoke store
    exact ⟨permission, revoked, Or.inr ⟨both, gone⟩⟩

theorem Removing.depart {id user : String} {store : Store database} {own written : Writes database}
    (removing : Removing Q id user none store own) (hosted : (Tables.room store id).isSome)
    (executed : Tables.execute (.incrementRoomMemberCount id (-1)) (store.write own) = .ok ((), written)) :
    ∃ row, Departed Q id user row store (own.andThen written) := by
  obtain ⟨permission, form, cases⟩ := removing
  rcases cases with ⟨pending, present, cleared⟩ | ⟨pending, gone⟩
  · obtain ⟨row, found, moved⟩ := increment_found pending hosted executed
    exact ⟨row, found, permission, form, Or.inl ⟨moved, present, cleared⟩⟩
  · obtain ⟨row, found, moved⟩ := increment_found pending hosted executed
    exact ⟨row, found, permission, form, Or.inr ⟨moved, gone⟩⟩

theorem outline_removeMember (setting : Setting d P Q R) (roomID userID : String)
    (commit : ∀ store own row, d.invariant store → Departed Q roomID userID row store own →
      d.guarantee store own ∧ d.invariant (store.write own)) :
    d.Outline (removeMember roomID userID) (Knows roomID) := by
  apply setting.lenient.query
  intro store own _ written _ knows permitted executed
  cases knows.silent
  cases executed
  refine ⟨Unseated Q roomID userID, unseated_stable setting _ _, ⟨knows.hosted, ?_⟩, ?_⟩
  · have seen := setting.delete _ _ _ permitted
    have pending := pending_deleteMember store roomID userID
    rw [Writes.empty_andThen, Store.write_empty]
    cases found : Tables.member store roomID userID with
    | none =>
      rw [found] at seen pending
      exact Or.inr ⟨pending, seen⟩
    | some member =>
      rw [found] at pending
      exact Or.inl ⟨pending, rfl⟩
  apply setting.lenient.query
  intro store own _ written _ unseated _ executed
  cases executed
  refine ⟨fun store own => (Tables.room store roomID).isSome ∧ Removing Q roomID userID none store own,
    Discipline.Stable.and d ?_ (removing_stable setting _ _ _), ⟨unseated.hosted, unseated.revoke⟩, ?_⟩
  · intro store own other kept within _ _ hosted
    exact setting.rooms store other roomID kept within hosted
  refine ⟨fun store own _ _ => setting.lenient store own _, ?_⟩
  intro store own _ written _ removed _ executed
  obtain ⟨row, departed⟩ := removed.2.depart removed.1 executed
  refine ⟨Departed Q roomID userID row, departed_stable setting _ _ _, departed, ?_⟩
  intro last final kept departed
  exact commit last final row kept departed

theorem outline_leave (setting : Setting d P Q R) (subject : Subject) (roomID : String)
    (commit : ∀ store own row, d.invariant store → Departed Q roomID subject.userID row store own →
      d.guarantee store own ∧ d.invariant (store.write own)) :
    d.Outline (leaveRoomBody subject roomID) Rules.Untouched := by
  apply outline_roomByID setting rfl
  intro _ room _ _
  dsimp only
  split
  · trivial
  apply setting.lenient.reads (memberGet_readOnly roomID subject.userID) (knows_stable setting roomID)
  intro existing
  cases existing with
  | none => exact outline_idle setting _
  | some member => exact outline_removeMember setting roomID subject.userID commit

theorem outline_kick (setting : Setting d P Q R) (subject : Subject) (roomID targetID : String)
    (commit : ∀ store own row, d.invariant store → Departed Q roomID targetID row store own →
      d.guarantee store own ∧ d.invariant (store.write own)) :
    d.Outline (kickMemberBody subject roomID targetID) Rules.Untouched := by
  apply setting.lenient.query
  intro store own reply written kept untouched _ executed
  cases untouched
  have found : Tables.member store roomID subject.userID = reply ∧ written = Writes.empty := by
    cases executed
    exact ⟨rfl, rfl⟩
  cases reply with
  | none => exact Discipline.Outline.fail d _
  | some byMember =>
    refine ⟨Knows roomID, knows_stable setting roomID, ⟨?_, ?_⟩, ?_⟩
    · rw [found.2, Writes.andThen_empty]
    · exact setting.hosted store roomID subject.userID kept (by rw [found.1]; rfl)
    apply setting.lenient.reads (memberGet_readOnly roomID targetID) (knows_stable setting roomID)
    intro target
    cases target with
    | none => trivial
    | some target =>
      dsimp only
      split
      · exact outline_removeMember setting roomID targetID commit
      · trivial

end Outlines

end VibeSync.Proofs.RoomOutlines
