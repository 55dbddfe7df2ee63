import VibeSync.Proofs.RoomSteps

/-! A member who joins again, and a caller who leaves: which stores let the
request do what it says, and what it does in the others. -/

namespace VibeSync.Proofs.RoomMembership
open VibeSync.Rooms Transaction VibeSync.Proofs.RoomTables VibeSync.Proofs.RoomSteps

section Join
variable {env : Env} {subject : Subject} {roomID inviteCode : String} {store : Store database} {row : Room} {existing : Member}

/-- The room asks for no invite, or the code given is one of its own. -/
def Admits (env : Env) (store : Store database) (row : Room) (roomID inviteCode : String) : Prop :=
  row.requiresInvite = true → inviteCode ≠ "" ∧ Tables.getInvite store inviteCode env.databaseNow = some roomID

instance : Decidable (Admits env store row roomID inviteCode) := inferInstanceAs (Decidable (_ → _))

theorem exec_inviteGet {α : Type} (code : String) (now : Time) (next : Option String → Tx α) :
    (Repo.inviteGet code now >>= next).exec store = (next (Tables.getInvite store code now)).exec store := rfl

theorem exec_checkInvite (env : Env) (row : Room) (roomID inviteCode : String) (store : Store database) :
    (checkInvite env row roomID inviteCode).exec store =
      if Admits env store row roomID inviteCode then (.ok (), store)
      else (.error (.permissionDenied "room.join" ("room:" ++ roomID)), store) := by
  rw [checkInvite]
  by_cases asked : row.requiresInvite = true
  · rw [if_pos asked]
    by_cases blank : inviteCode = ""
    · rw [if_pos blank, if_neg fun admitted => (admitted asked).1 blank]
      rfl
    · rw [if_neg blank, exec_inviteGet]
      cases looked : Tables.getInvite store inviteCode env.databaseNow with
      | none =>
        rw [if_neg fun admitted => Option.some_ne_none _ ((admitted asked).2.symm.trans looked)]
        rfl
      | some other =>
        dsimp only
        by_cases same : other = roomID
        · have admitted : Admits env store row roomID inviteCode := fun _ => ⟨blank, looked.trans (congrArg some same)⟩
          rw [if_pos same, if_pos admitted]
          rfl
        · rw [if_neg same, if_neg fun admitted => same (Option.some.inj (looked.symm.trans (admitted asked).2))]
          rfl
  · have admitted : Admits env store row roomID inviteCode := fun required => absurd required asked
    rw [if_neg asked, if_pos admitted]
    rfl

theorem isFull_iff (row : Room) : row.isFull = true ↔ ¬ row.memberCount < row.maxMembers := by
  rw [Room.isFull, decide_eq_true_eq, ge_iff_le, not_lt]

theorem joinRoomBody_again (found : Tables.room store roomID = some row)
    (seated : Tables.member store roomID subject.userID = some existing) (space : row.memberCount < row.maxMembers)
    (admitted : Admits env store row roomID inviteCode) :
    (joinRoomBody env subject roomID inviteCode).exec store = (.ok (row, existing.role), store) := by
  have checked := exec_checkInvite env row roomID inviteCode store
  rw [if_pos admitted] at checked
  have vacant : ¬ row.isFull = true := fun full => (isFull_iff row).mp full space
  rw [joinRoomBody, exec_roomByID, found]
  refine (Program.exec_bind checked).trans ?_
  rw [if_neg vacant, exec_memberGet, seated]
  rfl

/-- The membership is looked up only after the invite and the capacity have been checked. -/
theorem joinRoomBody_refused (subject : Subject) (found : Tables.room store roomID = some row)
    (refused : ¬ (row.memberCount < row.maxMembers ∧ Admits env store row roomID inviteCode)) :
    ∃ problem, (joinRoomBody env subject roomID inviteCode).exec store = (.error problem, store) := by
  have checked := exec_checkInvite env row roomID inviteCode store
  rw [joinRoomBody, exec_roomByID, found]
  by_cases admitted : Admits env store row roomID inviteCode
  · rw [if_pos admitted] at checked
    have full : row.isFull = true := (isFull_iff row).mpr fun space => refused ⟨space, admitted⟩
    refine ⟨.resourceExhausted "vibesync.room" "ROOM_FULL" "room is at capacity", (Program.exec_bind checked).trans ?_⟩
    rw [if_pos full]
    rfl
  · rw [if_neg admitted] at checked
    exact ⟨_, Program.exec_bind_error checked⟩

theorem joinRoom_of_body (role : subject.atLeast .user = true) (named : roomID ≠ "") {result : Except Err (Room × RoomRole)}
    (executed : (joinRoomBody env subject roomID inviteCode).exec store = (result, store)) :
    joinRoom env subject roomID inviteCode store =
      (result.map fun joined => (roomToProto joined.1, joined.2), store) := by
  rw [joinRoom, if_pos role, if_neg named]
  cases result with
  | error problem =>
    rw [Program.withTx_of_error executed]
    rfl
  | ok joined =>
    rw [Program.withTx_of_ok executed]
    rfl

/-- A member's second join answers with the role held and leaves the store as it was. -/
def JoinedAgain (existing : Member) (store : Store database)
    (outcome : Except Err (RoomMessage × RoomRole) × Store database) : Prop :=
  ∃ room, outcome = (.ok (room, existing.role), store)

theorem JoinedAgain.not_refused {problem : Err} {after : Store database} : ¬ JoinedAgain existing store (.error problem, after) := by
  rintro ⟨_, answered⟩
  cases answered

theorem join_again_iff (role : subject.atLeast .user = true)
    (seated : Tables.member store roomID subject.userID = some existing) :
    JoinedAgain existing store (joinRoom env subject roomID inviteCode store) ↔
      roomID ≠ "" ∧ ∃ row, Tables.room store roomID = some row ∧ row.memberCount < row.maxMembers ∧
        Admits env store row roomID inviteCode := by
  by_cases named : roomID = ""
  · rw [joinRoom, if_pos role, if_pos named]
    exact ⟨fun again => absurd again JoinedAgain.not_refused, fun asked => absurd named asked.1⟩
  cases found : Tables.room store roomID with
  | none =>
    have executed : (joinRoomBody env subject roomID inviteCode).exec store = (.error (.missing "room" roomID), store) := by
      rw [joinRoomBody, exec_roomByID, found]
      rfl
    rw [joinRoom_of_body role named executed]
    refine ⟨fun again => absurd again JoinedAgain.not_refused, ?_⟩
    rintro ⟨_, _, ⟨⟩, _⟩
  | some row =>
    by_cases welcome : row.memberCount < row.maxMembers ∧ Admits env store row roomID inviteCode
    · rw [joinRoom_of_body role named (joinRoomBody_again found seated welcome.1 welcome.2)]
      exact ⟨fun _ => ⟨named, row, rfl, welcome⟩, fun _ => ⟨_, rfl⟩⟩
    · obtain ⟨problem, executed⟩ := joinRoomBody_refused subject found welcome
      rw [joinRoom_of_body role named executed]
      refine ⟨fun again => absurd again JoinedAgain.not_refused, ?_⟩
      rintro ⟨_, _, ⟨⟩, space, admitted⟩
      exact absurd ⟨space, admitted⟩ welcome

def lounge (memberCount : Int) : Room :=
  { id := "r1", slug := "lounge", name := "lounge", description := "", visibility := visibilityPublic, ownerID := "u1"
    maxMembers := 2, memberCount, createdAt := 0, updatedAt := 0 }

/-- The lounge with its owner and one more member. -/
def occupied (memberCount : Int) : Store database
  | .room "r1" => some (lounge memberCount)
  | .member "r1" "u1" => some ⟨"r1", "u1", roleOwner, 0⟩
  | .member "r1" "u2" => some ⟨"r1", "u2", roleMember, 0⟩
  | _ => none

theorem guest_joins_again :
    JoinedAgain ⟨"r1", "u2", roleMember, 0⟩ (occupied 1) (joinRoom (draws []) ⟨"u2", .user⟩ "r1" "" (occupied 1)) := by
  refine (join_again_iff (by decide) rfl).mpr ⟨by decide, lounge 1, rfl, by decide, ?_⟩
  intro asked
  cases asked

/-- The room is full with the very member who asks. -/
theorem full_room_refuses_its_member :
    Tables.member (occupied 2) "r1" "u2" = some ⟨"r1", "u2", roleMember, 0⟩ ∧ joinRoom (draws []) ⟨"u2", .user⟩ "r1" "" (occupied 2) =
      (.error (.resourceExhausted "vibesync.room" "ROOM_FULL" "room is at capacity"), occupied 2) := ⟨rfl, rfl⟩

end Join

section Leave
variable {subject : Subject} {roomID userID : String} {store : Store database} {row : Room}

/-- A count the column holds. -/
def Fits (count : Int) : Prop := -Tables.maxInt4 - 1 ≤ count ∧ count ≤ Tables.maxInt4

instance (count : Int) : Decidable (Fits count) := inferInstanceAs (Decidable (_ ∧ _))

/-- The store without the rows of a member who has left. -/
def vacate (store : Store database) (roomID userID : String) (row : Room) : Store database :=
  ((store.write (Tables.deleteMember store roomID userID)).write (Tables.deletePermission store roomID userID)).write
    (Tables.setRoom roomID (Tables.countedRoom row (-1)))

theorem exec_increment (found : Tables.room store roomID = some row) (delta : Int) :
    (Repo.incrementRoomMemberCount roomID delta).exec store =
      if Fits (row.memberCount + delta) then (.ok (), store.write (Tables.setRoom roomID (Tables.countedRoom row delta)))
      else (.error (.wrapped "member_repo: increment_count" (.plain "ERROR: integer out of range (SQLSTATE 22003)")), store) := by
  have executed : database.execute (.incrementRoomMemberCount roomID delta) store = Tables.incrementCount store roomID delta := rfl
  rw [Tables.incrementCount, found] at executed
  dsimp only at executed
  by_cases fits : Fits (row.memberCount + delta)
  · have inside : ¬ (row.memberCount + delta > Tables.maxInt4 ∨ row.memberCount + delta < -Tables.maxInt4 - 1) := by
      rw [Fits] at fits
      omega
    rw [if_neg inside] at executed
    rw [if_pos fits]
    simp only [Repo.incrementRoomMemberCount, Repo.sql, Program.query, Program.exec, executed]
  · have outside : row.memberCount + delta > Tables.maxInt4 ∨ row.memberCount + delta < -Tables.maxInt4 - 1 := by
      rw [Fits] at fits
      omega
    rw [if_pos outside] at executed
    rw [if_neg fits]
    exact Program.exec_query_error executed

theorem exec_removeMember (found : Tables.room store roomID = some row) (userID : String) :
    (Fits (row.memberCount - 1) → (removeMember roomID userID).exec store = (.ok (), vacate store roomID userID row)) ∧
      (¬ Fits (row.memberCount - 1) → ∃ problem after, (removeMember roomID userID).exec store = (.error problem, after)) := by
  have counted := @exec_increment roomID
    ((store.write (Tables.deleteMember store roomID userID)).write (Tables.deletePermission store roomID userID)) row found (-1)
  rw [← Int.sub_eq_add_neg] at counted
  refine ⟨fun fits => ?_, fun overflow => ?_⟩
  · rw [if_pos fits] at counted
    exact counted
  · rw [if_neg overflow] at counted
    exact ⟨_, _, counted⟩

theorem vacate_member (id user : String) :
    Tables.member (vacate store roomID userID row) id user =
      if id = roomID ∧ user = userID then none else Tables.member store id user := by
  change Tables.member (store.write (Tables.deleteMember store roomID userID)) id user = _
  rw [member_write, Tables.deleteMember]
  split
  · cases Tables.member store id user <;> rfl
  · rfl

theorem vacate_permission (id user : String) :
    Tables.permission (vacate store roomID userID row) id user =
      if id = roomID ∧ user = userID then none else Tables.permission store id user := by
  change Tables.permission (store.write (Tables.deletePermission store roomID userID)) id user = _
  rw [permission_write, Tables.deletePermission]
  split
  · cases Tables.permission store id user <;> rfl
  · rfl

theorem vacate_room :
    Tables.room (vacate store roomID userID row) roomID = some (Tables.countedRoom row (-1)) := by
  rw [vacate, room_write, Tables.setRoom, if_pos rfl]
  rfl

theorem leaveRoom_stranger (found : Tables.room store roomID = some row) (guest : subject.userID ≠ row.ownerID)
    (absent : Tables.member store roomID subject.userID = none) : leaveRoom subject roomID store = (.ok false, store) := by
  have executed : (leaveRoomBody subject roomID).exec store = (.ok (), store) := by
    rw [leaveRoomBody, exec_roomByID, found]
    dsimp only
    rw [if_neg guest.symm, exec_memberGet, absent]
    rfl
  rw [leaveRoom, Program.withTx_of_ok executed]

theorem leaveRoom_member {existing : Member} (found : Tables.room store roomID = some row) (guest : subject.userID ≠ row.ownerID)
    (seated : Tables.member store roomID subject.userID = some existing) :
    (Fits (row.memberCount - 1) → leaveRoom subject roomID store = (.ok false, vacate store roomID subject.userID row)) ∧
      (¬ Fits (row.memberCount - 1) → ∃ problem, leaveRoom subject roomID store = (.error problem, store)) := by
  have executed : (leaveRoomBody subject roomID).exec store = (removeMember roomID subject.userID).exec store := by
    rw [leaveRoomBody, exec_roomByID, found]
    dsimp only
    rw [if_neg guest.symm, exec_memberGet, seated]
  obtain ⟨removed, failed⟩ := exec_removeMember found subject.userID
  refine ⟨fun fits => ?_, fun overflow => ?_⟩
  · rw [leaveRoom, Program.withTx_of_ok (executed.trans (removed fits))]
  · obtain ⟨problem, after, refused⟩ := failed overflow
    refine ⟨problem, ?_⟩
    rw [leaveRoom, Program.withTx_of_error (executed.trans refused)]

/-- The caller's rows are gone, every other row is as it was, and the count has dropped by the rows removed. -/
structure Vacated (subject : Subject) (roomID : String) (row : Room) (before : Store database)
    (outcome : Except Err Bool × Store database) : Prop where
  succeeds : outcome.1.isOk = true
  gone : Tables.member outcome.2 roomID subject.userID = none
  revoked : Tables.permission outcome.2 roomID subject.userID = none
  members : ∀ id user, ¬ (id = roomID ∧ user = subject.userID) → Tables.member outcome.2 id user = Tables.member before id user
  grants : ∀ id user, ¬ (id = roomID ∧ user = subject.userID) →
    Tables.permission outcome.2 id user = Tables.permission before id user
  count : (Tables.room outcome.2 roomID).map Room.memberCount =
    some (row.memberCount - if (Tables.member before roomID subject.userID).isSome then 1 else 0)

/-- The answer says whether a row was removed. -/
structure Reported (subject : Subject) (roomID : String) (row : Room) (before : Store database)
    (outcome : Except Err Bool × Store database) : Prop extends Vacated subject roomID row before outcome where
  left : outcome.1 = .ok (Tables.member before roomID subject.userID).isSome

/-- The grants of a caller who is not a member stay, since the early return comes before they are deleted. -/
theorem leave_vacates_iff (found : Tables.room store roomID = some row) (guest : subject.userID ≠ row.ownerID) :
    Vacated subject roomID row store (leaveRoom subject roomID store) ↔
      if (Tables.member store roomID subject.userID).isSome then Fits (row.memberCount - 1)
      else Tables.permission store roomID subject.userID = none := by
  cases seated : Tables.member store roomID subject.userID with
  | none =>
    rw [leaveRoom_stranger found guest seated]
    refine ⟨fun vacated => vacated.revoked, fun bare => ⟨rfl, seated, bare, fun _ _ _ => rfl, fun _ _ _ => rfl, ?_⟩⟩
    rw [found, seated]
    simp
  | some existing =>
    obtain ⟨removed, failed⟩ := leaveRoom_member found guest seated
    rw [Option.isSome_some, if_pos rfl]
    refine ⟨fun vacated => ?_, fun fits => ?_⟩
    · by_contra overflow
      obtain ⟨problem, refused⟩ := failed overflow
      have succeeds := vacated.succeeds
      rw [refused] at succeeds
      cases succeeds
    · rw [removed fits]
      refine ⟨rfl, ?_, ?_, fun id user other => ?_, fun id user other => ?_, ?_⟩
      · rw [vacate_member, if_pos ⟨rfl, rfl⟩]
      · rw [vacate_permission, if_pos ⟨rfl, rfl⟩]
      · rw [vacate_member, if_neg other]
      · rw [vacate_permission, if_neg other]
      · rw [vacate_room, seated]
        rfl

theorem leave_reports_iff (found : Tables.room store roomID = some row) (guest : subject.userID ≠ row.ownerID) :
    Reported subject roomID row store (leaveRoom subject roomID store) ↔
      Tables.member store roomID subject.userID = none ∧ Tables.permission store roomID subject.userID = none := by
  have vacates := leave_vacates_iff found guest
  cases seated : Tables.member store roomID subject.userID with
  | none =>
    rw [seated] at vacates
    refine ⟨fun reported => ⟨rfl, vacates.mp reported.toVacated⟩, fun bare => ⟨vacates.mpr bare.2, ?_⟩⟩
    rw [leaveRoom_stranger found guest seated, seated]
    rfl
  | some existing =>
    refine ⟨fun reported => ?_, fun bare => absurd bare.1 (Option.some_ne_none existing)⟩
    rw [seated] at vacates
    have removed := (leaveRoom_member found guest seated).1 (vacates.mp reported.toVacated)
    have left := reported.left
    rw [removed, seated] at left
    cases left

theorem stranger_leaves : Reported ⟨"u3", .user⟩ "r1" (lounge 2) (occupied 2) (leaveRoom ⟨"u3", .user⟩ "r1" (occupied 2)) :=
  (leave_reports_iff rfl (by decide)).mpr ⟨rfl, rfl⟩

/-- The member is gone and the answer says that nobody left. -/
theorem guest_leaves_unreported :
    (leaveRoom ⟨"u2", .user⟩ "r1" (occupied 2)).1 = .ok false ∧
      Tables.member (occupied 2) "r1" "u2" = some ⟨"r1", "u2", roleMember, 0⟩ ∧
      Tables.member (leaveRoom ⟨"u2", .user⟩ "r1" (occupied 2)).2 "r1" "u2" = none := ⟨rfl, rfl, rfl⟩

end Leave

end VibeSync.Proofs.RoomMembership
