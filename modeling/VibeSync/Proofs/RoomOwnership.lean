import VibeSync.Machine
import VibeSync.Proofs.RoomSteps

/-! Ownership is stored twice: as `owner_id` of the room and as a number in the
owner's membership row. The two agree as long as `UpdateMemberRole` writes a
number from OWNER upwards to the owner's row and to no other. -/

namespace VibeSync.Proofs.RoomOwnership
open VibeSync.Rooms Transaction VibeSync.Proofs.RoomTables VibeSync.Proofs.RoomSteps

/-- The owner-level check in front of `UpdateRoom` and `DeleteRoom` lets the caller pass. -/
def Passes (store : Store database) (roomID : String) (subject : Subject) : Prop :=
  ((requireRoomRole roomID subject roleOwner).withTx store).1 = .ok ()

structure Coincide (store : Store database) : Prop where
  rights : ∀ id row (subject : Subject), Tables.room store id = some row → ¬ subject.atLeast .administrator →
    (Passes store id subject ↔ subject.userID = row.ownerID)
  seated : ∀ id row, Tables.room store id = some row → (Tables.member store id row.ownerID).isSome

/-- While a room exists its owner stays the same and keeps a membership row. -/
def Kept (before after : Store database) : Prop :=
  ∀ id row later, Tables.room before id = some row → Tables.room after id = some later →
    later.ownerID = row.ownerID ∧ (Tables.member after id row.ownerID).isSome

/-- A role that passes the checks of `UpdateMemberRole` is stored with its low 16
bits: as a number from OWNER upwards exactly for the owner. -/
def KeepsRights (store : Store database) : Env × Request → Prop
  | (_, .updateMemberRole subject roomID targetID role) => ∀ row byMember target, Tables.room store roomID = some row →
      Tables.member store roomID subject.userID = some byMember → byMember.role = roleOwner →
      role ≠ roleOwner → role ≠ roleUnspecified → Tables.member store roomID targetID = some target →
      (roleOwner ≤ Tables.smallint role ↔ targetID = row.ownerID)
  | _ => True

/-- A room and its members in step. Rows of members never outlive their room. -/
def InStep (id : String) (members : String → Option Member) : Option Room → Prop
  | none => ∀ user, members user = none
  | some row => row.id = id ∧ (∃ member, members row.ownerID = some member ∧ roleOwner ≤ member.role) ∧
      ∀ user member, members user = some member → roleOwner ≤ member.role → user = row.ownerID

def Owned (store : Store database) : Prop := ∀ id, InStep id (Tables.member store id) (Tables.room store id)

section Owned
variable {store before after : Store database}

theorem Owned.keyed (owned : Owned store) : Keyed store := by
  intro id row found
  have step := owned id
  rw [found] at step
  exact step.1

theorem passes_iff {roomID : String} {subject : Subject} (ordinary : ¬ subject.atLeast .administrator) :
    Passes store roomID subject ↔
      ∃ member, Tables.member store roomID subject.userID = some member ∧ roleOwner ≤ member.role := by
  rw [Passes, Program.withTx_exec, exec_requireRoomRole, if_neg ordinary]
  cases Tables.member store roomID subject.userID with
  | none => simp
  | some member =>
    by_cases low : member.role < roleOwner
    · simp [low, Int32.not_le.mpr low]
    · simp [low, Int32.not_lt.mp low]

theorem Owned.coincide (owned : Owned store) : Coincide store := by
  constructor
  · intro id row subject found ordinary
    have step := owned id
    rw [found] at step
    rw [passes_iff ordinary]
    constructor
    · intro passed
      obtain ⟨member, held, high⟩ := passed
      exact step.2.2 _ member held high
    · intro same
      rw [same]
      exact step.2.1
  · intro id row found
    have step := owned id
    rw [found] at step
    obtain ⟨member, held, _⟩ := step.2.1
    rw [held]
    rfl

theorem Owned.created {env : Env} {room : Room} (owned : Owned before) (effect : Created env room before after) :
    Owned after := by
  obtain ⟨joinedAt, members⟩ := effect.members
  have none : ∀ user, Tables.member before room.id user = none := by
    have step := owned room.id
    rwa [effect.fresh] at step
  apply effect.elsewhere.forall owned
  rw [effect.here, members]
  refine ⟨rfl, ⟨_, Function.update_self .., Int32.le_refl roleOwner⟩, ?_⟩
  intro user member held high
  by_cases owner : user = room.ownerID
  · exact owner
  · rw [Function.update_of_ne owner, none] at held
    cases held

theorem Owned.joined {roomID userID : String} {row : Room} (owned : Owned before)
    (effect : Joined roomID userID row before after) : Owned after := by
  obtain ⟨joinedAt, members⟩ := effect.members
  have step := owned roomID
  rw [effect.found] at step
  obtain ⟨key, ⟨owner, seated, high⟩, others⟩ := step
  have guest : row.ownerID ≠ userID := by
    intro same
    rw [same, effect.absent] at seated
    cases seated
  apply effect.elsewhere.forall owned
  rw [effect.here, members]
  refine ⟨key, ⟨owner, by rw [← seated]; exact Function.update_of_ne guest .., high⟩, ?_⟩
  intro user member held high
  by_cases newcomer : user = userID
  · subst newcomer
    rw [Function.update_self] at held
    cases held
    exact absurd high (by decide : ¬ roleOwner ≤ roleMember)
  · rw [Function.update_of_ne newcomer] at held
    exact others user member held high

theorem Owned.removed {roomID userID : String} (owned : Owned before) (effect : Removed roomID userID before after)
    (guest : ∀ row, Tables.room before roomID = some row → row.ownerID ≠ userID) : Owned after := by
  have step := owned roomID
  apply effect.elsewhere.forall owned
  rw [effect.here, effect.members]
  have removed : ∀ user member, Function.update (Tables.member before roomID) userID none user = some member →
      Tables.member before roomID user = some member := by
    intro user member held
    by_cases gone : user = userID
    · rw [gone, Function.update_self] at held
      cases held
    · rwa [Function.update_of_ne gone] at held
  cases found : Tables.room before roomID with
  | none =>
    rw [found] at step
    intro user
    apply Option.eq_none_iff_forall_ne_some.mpr
    intro member held
    have there := removed user member held
    rw [step user] at there
    cases there
  | some row =>
    rw [found] at step
    obtain ⟨key, ⟨owner, seated, high⟩, others⟩ := step
    refine ⟨key, ⟨owner, by rw [← seated]; exact Function.update_of_ne (guest row found) .., high⟩, ?_⟩
    intro user member held high
    exact others user member (removed user member held) high

theorem Owned.promoted {roomID userID : String} {role : RoomRole} {target : Member} (owned : Owned before)
    (effect : Promoted roomID userID role target before after)
    (guarded : ∀ row, Tables.room before roomID = some row →
      (roleOwner ≤ Tables.smallint role ↔ userID = row.ownerID)) : Owned after := by
  have step := owned roomID
  apply effect.elsewhere.forall owned
  rw [effect.here, effect.members]
  cases found : Tables.room before roomID with
  | none =>
    rw [found] at step
    have there := effect.found
    rw [step userID] at there
    cases there
  | some row =>
    rw [found] at step
    obtain ⟨key, ⟨owner, seated, high⟩, others⟩ := step
    have rights := guarded row found
    refine ⟨key, ?_, ?_⟩
    · by_cases same : row.ownerID = userID
      · rw [same]
        exact ⟨_, Function.update_self .., rights.mpr same.symm⟩
      · exact ⟨owner, by rw [← seated]; exact Function.update_of_ne same .., high⟩
    · intro user member held high
      by_cases same : user = userID
      · rw [same, Function.update_self] at held
        cases held
        rw [same]
        exact rights.mp high
      · rw [Function.update_of_ne same] at held
        exact others user member held high

theorem apply_ownerID (req : UpdateRoomRequest) (env : Env) (row : Room) :
    (req.apply env row).ownerID = row.ownerID := by
  rw [← overwrite_apply]
  rfl

theorem Owned.rewritten {req : UpdateRoomRequest} {env : Env} {row : Room} (owned : Owned before)
    (effect : Rewritten req.id row (req.apply env row) before after) : Owned after := by
  have step := owned req.id
  rw [effect.found] at step
  apply effect.elsewhere.forall owned
  rw [effect.here, effect.members, InStep, apply_id, apply_ownerID]
  exact step

theorem Owned.deleted {roomID : String} (owned : Owned before) (effect : Deleted roomID before after) : Owned after := by
  apply effect.elsewhere.forall owned
  rw [effect.here]
  exact effect.members

theorem canPromote_iff (byRole newRole : RoomRole) :
    canPromote byRole newRole ↔ byRole = roleOwner ∧ newRole ≠ roleOwner ∧ newRole ≠ roleUnspecified := by
  rw [canPromote]
  split
  · next other => simp [other]
  next owner =>
    split
    · next refused => simp [imp_iff_not_or, refused]
    · next accepted => simp_all

/-- Nobody can be kicked by someone else's hand from a role of OWNER upwards but
by a holder of OWNER, and never from OWNER itself. -/
theorem canKick_owner {byRole targetRole : RoomRole} (able : canKick byRole targetRole) (high : roleOwner ≤ targetRole) :
    byRole = roleOwner ∧ targetRole ≠ roleOwner := by
  rw [canKick] at able
  split at able
  · cases able
  next other =>
    split at able
    · next owner => exact ⟨owner, other⟩
    split at able
    · have low : targetRole < roleModerator := by simpa using able
      exact absurd (Int32.lt_of_lt_of_le low (by decide : roleModerator ≤ roleOwner)) (Int32.not_lt.mpr high)
    · cases able

theorem Owned.step (owned : Owned store) {env : Env} {request : Request} (guarded : KeepsRights store (env, request))
    (moves : Moves env store request after) : Owned after := by
  cases moves with
  | same unchanged =>
    intro id
    rw [unchanged.rooms, unchanged.members]
    exact owned id
  | created made effect => exact owned.created effect
  | joined effect => exact owned.joined effect
  | @left subject roomID row after found guest effect =>
    apply owned.removed effect
    intro other there
    cases found.symm.trans there
    exact guest
  | @kicked subject roomID targetID byMember target after caller found able effect =>
    apply owned.removed effect
    intro row there same
    have step := owned roomID
    rw [there] at step
    obtain ⟨_, ⟨owner, seated, high⟩, others⟩ := step
    rw [same, found] at seated
    cases seated
    obtain ⟨holder, other⟩ := canKick_owner able high
    have owns := others _ byMember caller (by rw [holder]; exact Int32.le_refl _)
    rw [owns, same, found] at caller
    cases caller
    exact other holder
  | promoted caller able effect =>
    obtain ⟨holder, notOwner, specified⟩ := (canPromote_iff _ _).mp able
    apply owned.promoted effect
    intro row found
    exact guarded row _ _ found caller holder notOwner specified effect.found
  | rewritten effect => exact owned.rewritten effect
  | deleted effect => exact owned.deleted effect

/-- No request gives a room another owner. -/
theorem owner_kept {env : Env} {request : Request} (moves : Moves env store request after) {id : String} {row later : Room}
    (found : Tables.room store id = some row) (there : Tables.room after id = some later) :
    later.ownerID = row.ownerID := by
  rcases moves.origin there with ⟨old, _, before, same⟩ | ⟨_, _, room, _, _, effect, here, _⟩ |
    ⟨_, req, old, _, effect, here, same⟩
  · rw [before] at found
    cases found
    rw [same]
    rfl
  · rw [here, effect.fresh] at found
    cases found
  · rw [here, effect.found] at found
    cases found
    rw [same, apply_ownerID]

theorem Owned.kept (owned : Owned after) {env : Env} {request : Request} (moves : Moves env store request after) :
    Kept store after := by
  intro id row later found there
  have same := owner_kept moves found there
  refine ⟨same, ?_⟩
  rw [← same]
  exact owned.coincide.seated id later there

end Owned

/-! A role that breaks the condition is really written. -/

theorem updateMemberRole_promotes {store : Store database} {subject : Subject} {roomID targetID : String} {role : RoomRole}
    {byMember target : Member} (caller : Tables.member store roomID subject.userID = some byMember)
    (able : canPromote byMember.role role) (found : Tables.member store roomID targetID = some target) :
    Tables.room (updateMemberRole subject roomID targetID role store).2 = Tables.room store ∧
      Tables.member (updateMemberRole subject roomID targetID role store).2 roomID targetID =
        some { target with role := Tables.smallint role } := by
  rw [updateMemberRole, Program.withTx_exec, updateMemberRoleBody, exec_memberGet, caller]
  simp only [able, ↓reduceIte]
  rw [exec_memberGet, found]
  refine ⟨rfl, ?_⟩
  change Tables.member (store.write (Tables.updateRole store roomID targetID role)) roomID targetID = _
  simp [member_write, Tables.updateRole, found]

theorem user_ordinary (userID : String) : ¬ (Subject.mk userID .user).atLeast .administrator := by
  simp [Subject.atLeast, Auth.SystemRole.number]

structure Good (store : Store database) (event : Env × Request) : Prop where
  coincide : Coincide (serve store event)
  kept : Kept store (serve store event)

theorem good_iff {store : Store database} (owned : Owned store) (event : Env × Request) :
    Good store event ↔ KeepsRights store event := by
  obtain ⟨env, request⟩ := event
  have moves := serve_moves owned.keyed env request
  constructor
  · intro good
    cases request with
    | updateMemberRole subject roomID targetID role =>
      intro row byMember target found caller holder notOwner specified there
      obtain ⟨rooms, written⟩ := updateMemberRole_promotes caller
        ((canPromote_iff _ _).mpr ⟨holder, notOwner, specified⟩) there
      have rights := good.coincide.rights roomID row ⟨targetID, .user⟩ (by rw [← found]; exact congrFun rooms roomID)
        (user_ordinary targetID)
      rw [passes_iff (user_ordinary targetID)] at rights
      rw [← rights]
      constructor
      · intro high
        exact ⟨_, written, high⟩
      · intro passed
        obtain ⟨member, held, high⟩ := passed
        rw [serve, written] at held
        cases held
        exact high
    | _ => trivial
  · intro guarded
    have next := owned.step guarded moves
    exact ⟨next.coincide, next.kept moves⟩

/-- Ownership and owner rights coincide after every request of a sequence exactly
if every request of the sequence meets the condition. -/
theorem ownership_coincides_iff (events : List (Env × Request)) :
    (∀ visit ∈ Machine.trace serve (fun _ => none) events, Good visit.1 visit.2) ↔
      ∀ visit ∈ Machine.trace serve (fun _ => none) events, KeepsRights visit.1 visit.2 := by
  apply Machine.good_iff_guarded Owned Good KeepsRights
  · intro store event owned
    exact good_iff owned event
  · intro store event owned guarded
    exact owned.step guarded (serve_moves owned.keyed event.1 event.2)
  · intro id user
    rfl

/-! A room of two, and a role one above OWNER for the guest. -/

def openRoom : CreateRoomRequest := { name := "den", description := none, visibility := 1, maxMembers := none }

def promotion : List (Env × Request) :=
  [(draws ["r1", "e1"], .createRoom ⟨"u1", .user⟩ openRoom), (draws ["e2"], .joinRoom ⟨"u2", .user⟩ "r1" ""),
    (draws [], .updateMemberRole ⟨"u1", .user⟩ "r1" "u2" 5)]

/-- A role outside the enumeration gives a guest the rights of the owner. -/
theorem unknown_role_owns :
    ¬ ∀ (events : List (Env × Request)), ∀ visit ∈ Machine.trace serve (fun _ => none) events, Good visit.1 visit.2 := by
  intro claim
  have good := claim promotion _ (List.mem_cons_of_mem _ (List.mem_cons_of_mem _ List.mem_cons_self))
  have owner : (Tables.room (Machine.run serve (fun _ => none) promotion) "r1").map Room.ownerID = some "u1" := by
    decide +kernel
  have guest : (Tables.member (Machine.run serve (fun _ => none) promotion) "r1" "u2").map Member.role = some 5 := by
    decide +kernel
  obtain ⟨row, found, owns⟩ := Option.map_eq_some_iff.mp owner
  obtain ⟨member, held, role⟩ := Option.map_eq_some_iff.mp guest
  have rights := good.coincide.rights "r1" row ⟨"u2", .user⟩ found (user_ordinary "u2")
  rw [owns] at rights
  have same : "u2" = "u1" := rights.mp ((passes_iff (user_ordinary "u2")).mpr ⟨member, held, by rw [role]; decide⟩)
  exact absurd same (by decide)

end VibeSync.Proofs.RoomOwnership
