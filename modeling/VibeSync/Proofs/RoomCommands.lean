import VibeSync.Machine
import VibeSync.Proofs.RoomSteps
import VibeSync.Sync.RoomClient
import VibeSync.Sync.Service

/-! Guest commands follow the owner's grants, from the list in a grant to the
decision about a command. -/

namespace VibeSync.Proofs.RoomCommands
open VibeSync.Rooms Transaction VibeSync.Sync VibeSync.Proofs.RoomTables VibeSync.Proofs.RoomSteps

/-! Bitmasks. -/

/-- The wire values that have a bit. -/
def KnownPermission (value : Int32) : Prop := value ∈ ([1, 2, 3, 4, 5] : List Int32)

theorem or_and_ne_zero (a b c : UInt16) : (a ||| b) &&& c ≠ 0 ↔ a &&& c ≠ 0 ∨ b &&& c ≠ 0 := by
  simp only [ne_eq, ← UInt16.toNat_inj, UInt16.toNat_and, UInt16.toNat_or, UInt16.toNat_zero, Nat.and_or_distrib_right,
    Nat.or_eq_zero_iff, not_and_or]

theorem permByProto_unknown {value : Int32} (unknown : ¬ KnownPermission value) : permByProto value = 0 := by
  simp only [KnownPermission, List.mem_cons, List.not_mem_nil, or_false, not_or] at unknown
  simp [permByProto, unknown]

/-- Different values have different bits. -/
theorem permByProto_and {value : Int32} (known : KnownPermission value) (other : Int32) :
    permByProto other &&& permByProto value ≠ 0 ↔ other = value := by
  by_cases listed : KnownPermission other
  · simp only [KnownPermission, List.mem_cons, List.not_mem_nil, or_false] at known listed
    rcases known with rfl | rfl | rfl | rfl | rfl <;> rcases listed with rfl | rfl | rfl | rfl | rfl <;> decide
  · rw [permByProto_unknown listed]
    constructor
    · intro impossible
      exact absurd UInt16.zero_and impossible
    · intro same
      rw [same] at listed
      exact absurd known listed

theorem foldl_and {value : Int32} (known : KnownPermission value) (values : List Int32) (mask : Permissions) :
    values.foldl (fun out value => out ||| permByProto value) mask &&& permByProto value ≠ 0 ↔
      mask &&& permByProto value ≠ 0 ∨ value ∈ values := by
  induction values generalizing mask with
  | nil => simp
  | cons first rest ih =>
    rw [List.foldl_cons, ih, or_and_ne_zero, permByProto_and known, List.mem_cons, or_assoc, eq_comm]

theorem mem_toProto (mask : Permissions) (value : Int32) :
    value ∈ mask.toProto ↔ KnownPermission value ∧ mask &&& permByProto value ≠ 0 := by
  simp only [Permissions.toProto, List.mem_filter, KnownPermission, decide_eq_true_eq]

/-- Through the bitmask and back: the known values of the list. -/
theorem mem_roundTrip (values : List Int32) (value : Int32) :
    value ∈ (permissionsFromProto values).toProto ↔ value ∈ values ∧ KnownPermission value := by
  rw [mem_toProto, and_comm]
  refine and_congr_left fun known => ?_
  rw [permissionsFromProto, foldl_and known]
  simp

theorem toProto_increasing (mask : Permissions) : mask.toProto.Pairwise (· < ·) :=
  List.Pairwise.filter _ (by decide)

/-! Grants. -/

structure Grant where
  subject : Subject
  roomID : String
  targetID : String
  permissions : List Int32

namespace Grant

def call (grant : Grant) (store : Store database) : Except Err (List Int32) × Store database :=
  grantPermissions grant.subject grant.roomID grant.targetID grant.permissions store

def apply (store : Store database) (grant : Grant) : Store database := (grant.call store).2

end Grant

/-- The list of the last grant to the user that was committed, or the one before them all. -/
def lastGrant (roomID userID : String) : Store database → List Int32 → List Grant → List Int32
  | _, current, [] => current
  | store, current, grant :: rest =>
    lastGrant roomID userID (Grant.apply store grant)
      (if (grant.call store).1.isOk ∧ grant.roomID = roomID ∧ grant.targetID = userID then grant.permissions else current)
      rest

/-- The mask that `Get` reads. -/
def mask (store : Store database) (roomID userID : String) : Permissions :=
  (Tables.permission store roomID userID).elim 0 Int16.toUInt16

/-- The stored mask stands for the known values of the list. -/
def Reflects (store : Store database) (roomID userID : String) (list : List Int32) : Prop :=
  ∀ value, KnownPermission value → (value ∈ (mask store roomID userID).toProto ↔ value ∈ list)

section Grants
variable {store : Store database} {roomID userID : String} {list : List Int32}

theorem Reflects.same {after : Store database} (reflects : Reflects store roomID userID list)
    (same : Tables.permission after roomID userID = Tables.permission store roomID userID) :
    Reflects after roomID userID list := by
  intro value known
  rw [mask, same]
  exact reflects value known

theorem reflects_put (store : Store database) (roomID userID : String) (values : List Int32) :
    Reflects (store.write (Tables.putPermission roomID userID (permissionsFromProto values))) roomID userID values := by
  intro value known
  have written : mask (store.write (Tables.putPermission roomID userID (permissionsFromProto values))) roomID userID =
      permissionsFromProto values := by
    simp [mask, permission_write, Tables.putPermission]
  rw [written, mem_roundTrip]
  simp [known]

theorem Reflects.grant (reflects : Reflects store roomID userID list) (grant : Grant) :
    Reflects (grant.apply store) roomID userID
      (if (grant.call store).1.isOk ∧ grant.roomID = roomID ∧ grant.targetID = userID then grant.permissions else list) := by
  have cases := grantPermissions_cases grant.subject grant.roomID grant.targetID grant.permissions store
  rw [Grant.apply]
  rcases cases with ⟨err, refused⟩ | granted
  · rw [Grant.call, refused, if_neg (fun ok => Bool.noConfusion ok.1)]
    exact reflects
  · rw [Grant.call, granted]
    by_cases here : grant.roomID = roomID ∧ grant.targetID = userID
    · rw [if_pos ⟨rfl, here⟩, here.1, here.2]
      exact reflects_put store roomID userID grant.permissions
    · rw [if_neg (fun ok => here ok.2)]
      apply reflects.same
      rw [permission_write, Tables.putPermission, if_neg]
      · rfl
      · intro same
        exact here ⟨same.1.symm, same.2.symm⟩

theorem grant_rooms (store : Store database) (grant : Grant) : Tables.room (grant.apply store) = Tables.room store := by
  rw [Grant.apply, Grant.call]
  rcases grantPermissions_cases grant.subject grant.roomID grant.targetID grant.permissions store with ⟨err, refused⟩ | granted
  · rw [refused]
  · rw [granted]
    rfl

theorem grants_rooms (store : Store database) (grants : List Grant) :
    Tables.room (Machine.run Grant.apply store grants) = Tables.room store :=
  Machine.run_invariant (fun after => Tables.room after = Tables.room store)
    (fun after grant same => (grant_rooms after grant).trans same) rfl grants

theorem Reflects.grants (reflects : Reflects store roomID userID list) (grants : List Grant) :
    Reflects (Machine.run Grant.apply store grants) roomID userID (lastGrant roomID userID store list grants) := by
  induction grants generalizing store list with
  | nil => exact reflects
  | cons grant rest ih => exact ih (reflects.grant grant)

theorem getMemberPermissions_found {row : Room} (found : Tables.room store roomID = some row) (userID : String) :
    getMemberPermissions roomID userID store = .ok ⟨(mask store roomID userID).toProto, row.ownerID = userID⟩ := by
  rw [getMemberPermissions, Program.withTx_exec, getMemberPermissionsBody, exec_roomByID, found]
  dsimp only
  rw [exec_permissionGet, mask]
  cases Tables.permission store roomID userID <;> rfl

end Grants

/-! Commands. -/

theorem commandPermission_known {kind : CommandKind} {permission : RoomPermission}
    (needed : commandPermission kind = some permission) : KnownPermission permission.number := by
  cases kind <;> cases needed <;> simp [KnownPermission, RoomPermission.number]

/-- The decision is the one that the steps of a call come to. -/
theorem authorizeCommand_call (perms : String → String → RoomPermission → Except Err Bool) (rs : RoomSync) (call : Call)
    (answer : Except Err Bool) (nowMs : Int) (now : Time) (begun : call.phase = .readHost)
    (asked : ∀ permission, commandPermission call.command.kind = some permission →
      answer = perms rs.roomID call.userID permission) :
    match authorizeCommand perms rs call.userID call.command.kind with
    | .ok _ => ∃ steps ground, ((fun c => (Call.step c rs answer nowMs now).1)^[steps] call).phase = .authorized ground
    | .error err => ∃ steps, ((fun c => (Call.step c rs answer nowMs now).1)^[steps] call).phase = .finished (.error err) := by
  rw [authorizeCommand]
  by_cases host : call.userID = rs.state.hostID
  · rw [if_pos (Or.inl host)]
    exact ⟨1, .host rs.state.fencingToken, by simp [Call.step, begun, host]⟩
  by_cases owner : call.userID = rs.state.ownerID
  · rw [if_pos (Or.inr owner)]
    rw [owner] at host
    exact ⟨2, .owner, by simp [Call.step, begun, host, owner]⟩
  rw [if_neg (fun either => either.elim host owner)]
  cases needed : commandPermission call.command.kind with
  | none => exact ⟨2, by simp [Call.step, begun, host, owner, needed, Call.fail]⟩
  | some permission =>
    have answered := asked permission needed
    dsimp only
    rw [← answered]
    cases answer with
    | error err => exact ⟨3, by simp [Call.step, begun, host, owner, needed, Call.fail]⟩
    | ok allowed =>
      cases allowed with
      | true => exact ⟨3, .grant, by simp [Call.step, begun, host, owner, needed]⟩
      | false => exact ⟨3, by simp [Call.step, begun, host, owner, needed, Call.fail]⟩

theorem has_iff {store : Store database} {roomID userID : String} {row : Room} (named : roomID ≠ "")
    (identified : userID ≠ "") (found : Tables.room store roomID = some row) (guest : userID ≠ row.ownerID)
    (permission : RoomPermission) :
    has store roomID userID permission = .ok ((mask store roomID userID).toProto.contains permission.number) := by
  rw [has, if_neg (fun either => either.elim named identified), getMemberPermissions_found found]
  simp [Ne.symm guest]

/-- A guest's command passes exactly if the permission it needs is in the list of
the last committed grant, and every grant answers with the known values of its
list in increasing order. -/
theorem guest_commands_follow_grants (store : Store database) (row : Room) (rs : RoomSync) (userID : String)
    (grants : List Grant) (kind : Int32) (named : rs.roomID ≠ "") (identified : userID ≠ "")
    (found : Tables.room store rs.roomID = some row) (guest : userID ≠ row.ownerID) (notHost : userID ≠ rs.state.hostID)
    (notOwner : userID ≠ rs.state.ownerID) :
    (authorizeCommand (has (Machine.run Grant.apply store grants)) rs userID (.ofWire kind) = .ok () ↔
      ∃ permission, commandPermission (.ofWire kind) = some permission ∧
        permission.number ∈ lastGrant rs.roomID userID store (mask store rs.roomID userID).toProto grants) ∧
      ∀ visit ∈ Machine.trace Grant.apply store grants, ∀ response, (visit.2.call visit.1).1 = .ok response →
        response.Pairwise (· < ·) ∧ ∀ value, value ∈ response ↔ value ∈ visit.2.permissions ∧ KnownPermission value := by
  constructor
  · have reflects : Reflects store rs.roomID userID (mask store rs.roomID userID).toProto := fun _ _ => Iff.rfl
    have later := reflects.grants grants
    have there : Tables.room (Machine.run Grant.apply store grants) rs.roomID = some row := by
      rw [grants_rooms]
      exact found
    rw [authorizeCommand, if_neg (fun either => either.elim notHost notOwner)]
    cases needed : commandPermission (.ofWire kind) with
    | none => simp
    | some permission =>
      dsimp only
      rw [has_iff named identified there guest]
      have decided := later _ (commandPermission_known needed)
      simp only [Option.some.injEq, exists_eq_left']
      rw [← decided, ← List.contains_iff_mem]
      cases (mask (Machine.run Grant.apply store grants) rs.roomID userID).toProto.contains permission.number <;> simp
  · intro visit _ response answered
    rw [Grant.call] at answered
    rcases grantPermissions_cases visit.2.subject visit.2.roomID visit.2.targetID visit.2.permissions visit.1 with
      ⟨err, refused⟩ | granted
    · rw [refused] at answered
      cases answered
    · rw [granted] at answered
      cases answered
      exact ⟨toProto_increasing _, mem_roundTrip visit.2.permissions⟩

/-! A guest who may seek. -/

def den : Room :=
  { id := "r1", slug := "den-abcdef", name := "den", description := "", visibility := visibilityPublic, ownerID := "u1",
    maxMembers := 50, memberCount := 2, createdAt := 0, updatedAt := 0 }

def couple : Store database
  | .room id => if id = "r1" then some den else none
  | .member roomID userID =>
    if roomID = "r1" ∧ userID = "u1" then some ⟨"r1", "u1", roleOwner, 0⟩
    else if roomID = "r1" ∧ userID = "u2" then some ⟨"r1", "u2", roleMember, 0⟩
    else none
  | _ => none

def seeker : Grant := { subject := ⟨"u1", .user⟩, roomID := "r1", targetID := "u2", permissions := [3, 99, 1, 1] }

theorem granted_seek_passes :
    authorizeCommand (has (Machine.run Grant.apply couple [seeker])) (newRoomSync {} "r1" (RoomManager.initState "r1" "u1"))
      "u2" (.ofWire 259) = .ok () :=
  (guest_commands_follow_grants couple den (newRoomSync {} "r1" (RoomManager.initState "r1" "u1")) "u2" [seeker] 259
    (by decide) (by decide) (by decide) (by decide) (by decide) (by decide)).1.mpr ⟨.seek, by decide, by decide +kernel⟩

end VibeSync.Proofs.RoomCommands
