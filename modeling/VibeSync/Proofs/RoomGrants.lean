import VibeSync.Proofs.RoomCommands
import VibeSync.Proofs.RoomOutlines

/-! Grants and memberships under any interleaving of `GrantPermissions`,
`JoinRoom`, `LeaveRoom` and `KickMember`. A grant has no lock on the membership
that it has seen, so it may outlive it. -/

namespace VibeSync.Proofs.RoomGrants
open VibeSync.Rooms Transaction VibeSync.Proofs.RoomTables VibeSync.Proofs.RoomOutlines

/-- Every permission row belongs to a member of its room who is not the owner. -/
structure Granted (store : Store database) : Prop where
  hosted : ∀ id user, (Tables.member store id user).isSome → (Tables.room store id).isSome
  seated : ∀ id user, (Tables.permission store id user).isSome → (Tables.member store id user).isSome
  guests : ∀ id user row, (Tables.permission store id user).isSome → Tables.room store id = some row → user ≠ row.ownerID

/-- The member of a grant is still there when the grant is written. -/
def Checked (store : Store database) : Statement → Prop
  | .permissionSet roomID userID _ => (Tables.member store roomID userID).isSome
  | _ => True

instance (store : Store database) : (sql : Statement) → Decidable (Checked store sql)
  | .permissionSet roomID userID _ => decEq (Tables.member store roomID userID).isSome true
  | .roomCreate _ | .roomByID _ | .roomUpdate _ | .roomDelete _ | .memberUpsert _ | .memberGet _ _ | .memberDelete _ _
  | .memberUpdateRole _ _ _ | .incrementRoomMemberCount _ _ | .inviteCreate _ _ _ | .inviteGet _ _ | .permissionGet _ _
  | .permissionDelete _ _ | .outboxInsert _ => isTrue trivial

def Clear (own other : Writes database) : Prop :=
  ∀ id user, own (.member id user) = some none → ∀ mask, other (.permission id user) ≠ some (some mask)

/-- A grant and the deletion of the membership it is for are not uncommitted at the same time. -/
def Separate (first second : Writes database) : Prop := Clear first second ∧ Clear second first

inductive Call : Program database Err Unit → Prop where
  | grant (subject : Subject) (roomID targetID : String) (perms : Permissions) :
      Call (grantPermissionsBody subject roomID targetID perms)
  | join (env : Env) (subject : Subject) (roomID inviteCode : String) :
      Call (joinRoomBody env subject roomID inviteCode).discard
  | leave (subject : Subject) (roomID : String) : Call (leaveRoomBody subject roomID)
  | kick (subject : Subject) (roomID targetID : String) : Call (kickMemberBody subject roomID targetID)

/-! What a commit does to the tables. -/

/-- Rooms keep their owners, and newcomers start without permissions. -/
structure Keeps (before after : Store database) : Prop where
  rooms : ∀ id row, Tables.room before id = some row → ∃ new, Tables.room after id = some new ∧ new.ownerID = row.ownerID
  newcomers : ∀ id user, Tables.member before id user = none → (Tables.member after id user).isSome →
    Tables.permission after id user = none

theorem Keeps.refl (store : Store database) : Keeps store store := by
  refine ⟨fun _ row found => ⟨row, found, rfl⟩, fun id user absent present => ?_⟩
  rw [absent] at present
  cases present

section Commits
variable {id user : String} {row : Room} {store : Store database} {own : Writes database}

theorem Granted.without (granted : Granted store) (absent : Tables.member store id user = none) :
    Tables.permission store id user = none := by
  cases found : Tables.permission store id user with
  | none => rfl
  | some mask =>
    have present := granted.seated id user (by rw [found]; rfl)
    rw [absent] at present
    cases present

section Counted
variable {delta : Int} {member : Option (Option Member)} {permission : Option (Option Int16)}
  (pending : Pending id user (some (some (Tables.countedRoom row delta))) member permission own)
include pending

theorem counted_owner (found : Tables.room store id = some row) (other : String) :
    (Tables.room (store.write own) other).map Room.ownerID = (Tables.room store other).map Room.ownerID := by
  by_cases same : other = id
  · have here : Tables.room (store.write own) id = some (Tables.countedRoom row delta) := pending.room_write store
    rw [same, here, found]
    rfl
  · rw [(pending.elsewhere store).rooms other same]

theorem counted_fewer (revoked : permission = none ∨ permission = some none) (other person : String)
    (present : (Tables.permission (store.write own) other person).isSome) : (Tables.permission store other person).isSome := by
  cases before : Tables.permission store other person with
  | some mask => rfl
  | none =>
    rw [pending.permission_none revoked before] at present
    cases present

end Counted

/-- Joining and leaving: the counter moves, and nobody keeps a permission without a member row. -/
theorem Granted.counted {delta : Int} {member : Option (Option Member)} {permission : Option (Option Int16)}
    (granted : Granted store) (found : Tables.room store id = some row)
    (pending : Pending id user (some (some (Tables.countedRoom row delta))) member permission own)
    (revoked : permission = none ∨ permission = some none)
    (cleared : member.getD (Tables.member store id user) = none →
      permission.getD (Tables.permission store id user) = none) :
    Keeps store (store.write own) ∧ Granted (store.write own) := by
  have owners := counted_owner pending found
  refine ⟨⟨fun other old was => ?_, fun other person absent _ => ?_⟩, ⟨?_, ?_, ?_⟩⟩
  · have owner := owners other
    rw [was] at owner
    exact Option.map_eq_some_iff.mp owner
  · exact pending.permission_none revoked (granted.without absent)
  · intro other person present
    rw [← Option.isSome_map, owners other, Option.isSome_map]
    by_cases same : other = id
    · rw [same, found]
      rfl
    · rw [(pending.elsewhere store).members other same] at present
      exact granted.hosted other person present
  · intro other person present
    by_cases same : other = id ∧ person = user
    · obtain ⟨rfl, rfl⟩ := same
      rw [pending.permission_write store] at present
      rw [pending.member_write store]
      cases gone : member.getD (Tables.member store other person) with
      | some member => rfl
      | none =>
        rw [cleared gone] at present
        cases present
    · rw [pending.member_other store same]
      exact granted.seated other person (counted_fewer pending revoked other person present)
  · intro other person new present was
    have owner := owners other
    rw [was] at owner
    obtain ⟨old, before, same⟩ := Option.map_eq_some_iff.mp owner.symm
    rw [← same]
    exact granted.guests other person old (counted_fewer pending revoked other person present) before

theorem Granted.admission (granted : Granted store)
    (admitted : Admitted (fun _ => True) (fun _ => True) id user row store own) :
    Keeps store (store.write own) ∧ Granted (store.write own) := by
  obtain ⟨member, pending⟩ := admitted.pending
  exact granted.counted admitted.found pending (Or.inl rfl) fun impossible => by cases impossible

theorem Granted.depart (granted : Granted store) (departed : Departed (fun _ => True) id user row store own) :
    Keeps store (store.write own) ∧ Granted (store.write own) := by
  obtain ⟨found, permission, revoked, erased⟩ := departed
  rcases erased with ⟨pending, _, cleared⟩ | ⟨pending, _⟩
  · refine granted.counted found pending revoked fun _ => ?_
    rcases revoked with untouched | deleted
    · rw [untouched]
      exact cleared untouched
    · rw [deleted]
      rfl
  · refine granted.counted found pending revoked fun gone => ?_
    rcases revoked with untouched | deleted
    · rw [untouched]
      exact granted.without gone
    · rw [deleted]
      rfl

/-- A grant that waits for its commit, with the room and the member still there. -/
structure Granting (id user owner : String) (store : Store database) (own : Writes database) : Prop where
  pending : ∃ mask, Pending id user none none (some (some mask)) own
  room : ∃ row, Tables.room store id = some row ∧ row.ownerID = owner
  seated : (Tables.member store id user).isSome

theorem Granted.grant {owner : String} (granted : Granted store) (guest : user ≠ owner)
    (granting : Granting id user owner store own) : Keeps store (store.write own) ∧ Granted (store.write own) := by
  obtain ⟨mask, pending⟩ := granting.pending
  obtain ⟨row, found, owned⟩ := granting.room
  have rooms : Tables.room (store.write own) = Tables.room store := by
    funext other
    by_cases same : other = id
    · rw [same]
      exact pending.room_write store
    · exact (pending.elsewhere store).rooms other same
  have members : ∀ other person, Tables.member (store.write own) other person = Tables.member store other person := by
    intro other person
    by_cases same : other = id ∧ person = user
    · obtain ⟨rfl, rfl⟩ := same
      exact pending.member_write store
    · exact pending.member_other store same
  refine ⟨⟨fun other row was => ⟨row, by rw [rooms]; exact was, rfl⟩, fun other person absent present => ?_⟩, ⟨?_, ?_, ?_⟩⟩
  · rw [members, absent] at present
    cases present
  · intro other person present
    rw [members] at present
    rw [rooms]
    exact granted.hosted other person present
  · intro other person present
    rw [members]
    by_cases same : other = id ∧ person = user
    · obtain ⟨rfl, rfl⟩ := same
      exact granting.seated
    · rw [pending.permission_other store same] at present
      exact granted.seated other person present
  · intro other person old present was
    rw [rooms] at was
    by_cases same : other = id ∧ person = user
    · obtain ⟨rfl, rfl⟩ := same
      rw [found] at was
      cases was
      rw [owned]
      exact guest
    · rw [pending.permission_other store same] at present
      exact granted.guests other person old present was

end Commits

/-! The calls keep the discipline. -/

def granting : Discipline database where
  invariant := Granted
  guarantee store own := Keeps store (store.write own)
  allowed := Checked
  compatible := Separate

theorem granting_lenient : granting.Lenient := fun _ _ _ => trivial

theorem granting_setting : Setting granting (fun _ => True) (fun _ => True) (fun _ => True) := by
  refine ⟨granting_lenient, ?_, ?_, ?_, ?_, fun _ _ _ => trivial, fun _ _ _ _ => trivial, fun _ _ _ _ _ => trivial⟩
  · intro store _
    exact Keeps.refl store
  · intro store other id _ within present
    obtain ⟨row, found⟩ := Option.isSome_iff_exists.mp present
    obtain ⟨new, later, _⟩ := within.rooms id row found
    rw [later]
    rfl
  · intro store id user granted
    exact granted.hosted id user
  · intro store own other id user _ _ separate deleted absent
    rw [permission_write, absent]
    cases written : other (.permission id user) with
    | none => rfl
    | some row =>
      cases row with
      | none => rfl
      | some mask => exact absurd written (separate.1 id user deleted mask)

/-- The room has been seen with its owner; the call has written nothing. -/
structure Hosts (id owner : String) (store : Store database) (own : Writes database) : Prop where
  silent : own = Writes.empty
  room : ∃ row, Tables.room store id = some row ∧ row.ownerID = owner

theorem Keeps.owned {id owner : String} {before after : Store database} (keeps : Keeps before after)
    (owned : ∃ row, Tables.room before id = some row ∧ row.ownerID = owner) :
    ∃ row, Tables.room after id = some row ∧ row.ownerID = owner := by
  obtain ⟨row, found, same⟩ := owned
  obtain ⟨new, later, kept⟩ := keeps.rooms id row found
  exact ⟨new, later, kept.trans same⟩

theorem hosts_stable (id owner : String) : granting.Stable (Hosts id owner) := by
  intro store own other _ within _ _ hosts
  exact ⟨hosts.silent, Keeps.owned within hosts.room⟩

theorem granting_stable (id user owner : String) : granting.Stable (Granting id user owner) := by
  intro store own other _ within _ separate holds
  obtain ⟨mask, pending⟩ := holds.pending
  refine ⟨⟨mask, pending⟩, Keeps.owned within holds.room, ?_⟩
  rw [member_write]
  cases written : other (.member id user) with
  | none => exact holds.seated
  | some row =>
    cases row with
    | some member => rfl
    | none => exact absurd pending.grant (separate.2 id user written mask)

theorem outline_grant (subject : Subject) (roomID targetID : String) (perms : Permissions) :
    granting.Outline (grantPermissionsBody subject roomID targetID perms) Rules.Untouched := by
  apply granting_lenient.query
  intro store own reply written _ untouched _ executed
  cases untouched
  have found : Tables.room store roomID = reply ∧ written = Writes.empty := by
    cases executed
    exact ⟨rfl, rfl⟩
  cases reply with
  | none => exact Discipline.Outline.fail granting _
  | some row =>
    refine ⟨Hosts roomID row.ownerID, hosts_stable _ _, ⟨?_, row, found.1, rfl⟩, ?_⟩
    · rw [found.2, Writes.andThen_empty]
    dsimp only
    split
    · trivial
    next same =>
      split
      · trivial
      next guest =>
        apply granting_lenient.reads (memberGet_readOnly roomID targetID) (hosts_stable _ _)
        intro existing
        cases existing with
        | none => trivial
        | some member =>
          refine ⟨fun store own _ _ => granting_lenient store own _, ?_⟩
          intro store own _ written _ hosts permitted executed
          cases hosts.silent
          refine ⟨Granting roomID targetID row.ownerID, granting_stable _ _ _, ⟨?_, hosts.room, permitted⟩, ?_⟩
          · rw [setPermission_ok executed, Writes.empty_andThen]
            exact ⟨_, pending_putPermission _ _ _⟩
          · intro last final granted holds
            exact granted.grant (fun owner => guest (owner.trans (not_not.mp same))) holds

theorem call_outline (program : Program database Err Unit) (started : Call program) :
    granting.Outline program Rules.Untouched := by
  cases started with
  | grant subject roomID targetID perms => exact outline_grant subject roomID targetID perms
  | join env subject roomID inviteCode =>
    apply Discipline.Outline.discard
    exact outline_join granting_setting env subject roomID inviteCode fun _ _ _ granted admitted => granted.admission admitted
  | leave subject roomID =>
    exact outline_leave granting_setting subject roomID fun _ _ _ granted departed => granted.depart departed
  | kick subject roomID targetID =>
    exact outline_kick granting_setting subject roomID targetID fun _ _ _ granted departed => granted.depart departed

end VibeSync.Proofs.RoomGrants
