import VibeSync.Machine
import VibeSync.Proofs.RoomProvenance
import VibeSync.Proofs.TransactionLogic

/-! A deleted room leaves nothing behind. No statement writes a row that refers to
a missing room, and a missing room comes back by its creation only. -/

namespace VibeSync.Proofs.RoomDeletion
open VibeSync.Rooms Transaction VibeSync.Proofs.RoomTables VibeSync.Proofs.RoomSteps

/-- Every row refers to a room that exists. -/
structure Housed (store : Store database) : Prop where
  members : ∀ id user row, Tables.member store id user = some row → (Tables.room store id).isSome
  permissions : ∀ id user bits, Tables.permission store id user = some bits → (Tables.room store id).isSome
  invites : ∀ code row, Tables.invite store code = some row → (Tables.room store row.roomID).isSome

section Statements
variable {store : Store database} {written : Changes}

theorem insertInvite_room {code roomID : String} {expiresAt : Option Time}
    (inserted : Tables.insertInvite store code roomID expiresAt = .ok ((), written)) : (Tables.room store roomID).isSome := by
  unfold Tables.insertInvite at inserted
  split at inserted
  · cases inserted
  split at inserted
  · cases inserted
  next present => simpa [Option.isSome_iff_ne_none] using present

theorem setPermission_room {roomID userID : String} {perms : Permissions}
    (set : Tables.setPermission store roomID userID perms = .ok ((), written)) : (Tables.room store roomID).isSome := by
  unfold Tables.setPermission at set
  split at set
  · cases set
  next present => simpa [Option.isSome_iff_ne_none] using present

/-- No room is dropped, and what is new refers to a room of before. -/
structure Lodged (store : Store database) (written : Changes) : Prop where
  rooms : ∀ id, written (.room id) ≠ some none
  members : ∀ id user row, written (.member id user) = some (some row) → (Tables.room store id).isSome
  permissions : ∀ id user bits, written (.permission id user) = some (some bits) → (Tables.room store id).isSome
  invites : ∀ code row, written (.invite code) = some (some row) → (Tables.room store row.roomID).isSome

theorem Lodged.room (lodged : Lodged store written) {id : String} (there : (Tables.room store id).isSome) :
    (Tables.room (store.write written) id).isSome := by
  rw [room_write]
  cases wrote : written (.room id) with
  | none => exact there
  | some new =>
    cases new with
    | none => exact absurd wrote (lodged.rooms id)
    | some row => rfl

theorem Housed.write (housed : Housed store) (lodged : Lodged store written) : Housed (store.write written) := by
  refine ⟨fun id user row found => ?_, fun id user bits found => ?_, fun code row found => ?_⟩
  · rcases Store.write_origin found with new | old
    · exact lodged.room (lodged.members id user row new)
    · exact lodged.room (housed.members id user row old)
  · rcases Store.write_origin found with new | old
    · exact lodged.room (lodged.permissions id user bits new)
    · exact lodged.room (housed.permissions id user bits old)
  · rcases Store.write_origin found with new | old
    · exact lodged.room (lodged.invites code row new)
    · exact lodged.room (housed.invites code row old)

/-- What changes neither members nor grants nor codes, and drops no room. -/
theorem Lodged.of_rooms (rooms : ∀ id, written (.room id) ≠ some none) (members : ∀ id user, written (.member id user) = none)
    (permissions : ∀ id user, written (.permission id user) = none) (invites : ∀ code, written (.invite code) = none) :
    Lodged store written := by
  refine ⟨rooms, fun id user row wrote => ?_, fun id user bits wrote => ?_, fun code row wrote => ?_⟩
  · rw [members] at wrote
    cases wrote
  · rw [permissions] at wrote
    cases wrote
  · rw [invites] at wrote
    cases wrote

theorem lodged_empty : Lodged store Tables.unchanged :=
  .of_rooms (fun _ => unwritten) (fun _ _ => rfl) (fun _ _ => rfl) fun _ => rfl

/-- A row that is put somewhere is not dropped there. -/
theorem put_keeps {α : Type} {row : α} {here : Prop} [Decidable here] : (if here then some (some row) else none) ≠ some none := by
  split <;> intro wrote <;> cases wrote

/-- A row that is dropped somewhere is not put there. -/
theorem drop_adds_nothing {α : Type} {row : α} {held : Option α} {here : Prop} [Decidable here] :
    (if here then held.map fun _ => none else none) ≠ some (some row) := by
  split
  · cases held <;> intro wrote <;> cases wrote
  · intro wrote
    cases wrote

theorem execute_lodged {sql : Statement} (kept : ∀ id, sql ≠ .roomDelete id) {reply : Reply sql}
    (executed : Tables.execute sql store = .ok (reply, written)) (housed : Housed store) : Lodged store written := by
  cases sql with
  | roomCreate new =>
    obtain ⟨_, rfl⟩ := insertRoom_ok executed
    exact .of_rooms (fun _ => put_keeps) (fun _ _ => rfl) (fun _ _ => rfl) fun _ => rfl
  | roomUpdate given =>
    rcases updateRoom_ok executed with ⟨_, rfl⟩ | ⟨row, _, rfl⟩
    · exact lodged_empty
    · exact .of_rooms (fun _ => put_keeps) (fun _ _ => rfl) (fun _ _ => rfl) fun _ => rfl
  | roomDelete id => exact absurd rfl (kept id)
  | incrementRoomMemberCount roomID delta =>
    rcases incrementCount_ok executed with ⟨_, rfl⟩ | ⟨row, _, rfl⟩
    · exact lodged_empty
    · exact .of_rooms (fun _ => put_keeps) (fun _ _ => rfl) (fun _ _ => rfl) fun _ => rfl
  | memberUpsert given =>
    obtain ⟨there, joinedAt, rfl⟩ := upsertMember_ok executed
    refine ⟨fun _ => unwritten, fun id user row wrote => ?_, fun _ _ _ => unwritten, fun _ _ => unwritten⟩
    simp only [Tables.putMember] at wrote
    split at wrote
    next same =>
      rw [same.1]
      exact there
    · cases wrote
  | memberDelete roomID userID =>
    cases executed
    exact ⟨fun _ => unwritten, fun _ _ _ wrote => absurd wrote drop_adds_nothing, fun _ _ _ => unwritten, fun _ _ => unwritten⟩
  | memberUpdateRole roomID userID role =>
    cases executed
    refine ⟨fun _ => unwritten, fun id user row wrote => ?_, fun _ _ _ => unwritten, fun _ _ => unwritten⟩
    simp only [Tables.updateRole] at wrote
    split at wrote
    · obtain ⟨old, found, _⟩ := Option.map_eq_some_iff.mp wrote
      exact housed.members id user old found
    · cases wrote
  | inviteCreate code roomID expiresAt =>
    have there := insertInvite_room executed
    obtain ⟨_, rfl⟩ := insertInvite_ok executed
    refine ⟨fun _ => unwritten, fun _ _ _ => unwritten, fun _ _ _ => unwritten, fun key row wrote => ?_⟩
    simp only [Tables.putInvite] at wrote
    split at wrote
    · cases wrote
      exact there
    · cases wrote
  | permissionSet roomID userID perms =>
    have there := setPermission_room executed
    obtain rfl := setPermission_ok executed
    refine ⟨fun _ => unwritten, fun _ _ _ => unwritten, fun id user bits wrote => ?_, fun _ _ => unwritten⟩
    simp only [Tables.putPermission] at wrote
    split at wrote
    next same =>
      rw [same.1]
      exact there
    · cases wrote
  | permissionDelete roomID userID =>
    cases executed
    exact ⟨fun _ => unwritten, fun _ _ _ => unwritten, fun _ _ _ wrote => absurd wrote drop_adds_nothing, fun _ _ => unwritten⟩
  | outboxInsert event =>
    obtain rfl := insertOutbox_ok executed
    exact .of_rooms (fun _ => unwritten) (fun _ _ => rfl) (fun _ _ => rfl) fun _ => rfl
  | _ =>
    cases executed
    exact lodged_empty

theorem delete_adds_nothing (store : Store database) (id : String) (key : Key) (row : Row key) :
    Tables.deleteRoom store id key ≠ some (some row) := by
  intro wrote
  cases found : Tables.room store id with
  | none =>
    rw [Tables.deleteRoom, found] at wrote
    cases wrote
  | some old =>
  simp only [Tables.deleteRoom, found] at wrote
  cases key with
  | room other =>
    dsimp only at wrote
    split at wrote <;> cases wrote
  | slug value =>
    dsimp only at wrote
    split at wrote <;> cases wrote
  | member other user =>
    dsimp only at wrote
    split at wrote
    · obtain ⟨_, _, impossible⟩ := Option.map_eq_some_iff.mp wrote
      cases impossible
    · cases wrote
  | permission other user =>
    dsimp only at wrote
    split at wrote
    · obtain ⟨_, _, impossible⟩ := Option.map_eq_some_iff.mp wrote
      cases impossible
    · cases wrote
  | invite code =>
    obtain ⟨invite, _, chosen⟩ := Option.bind_eq_some_iff.mp wrote
    split at chosen <;> cases chosen
  | outbox event => cases wrote

/-- The rows that refer to the room are gone with it. -/
structure Cleared (id : String) (after : Store database) : Prop where
  room : Tables.room after id = none
  members : ∀ user, Tables.member after id user = none
  permissions : ∀ user, Tables.permission after id user = none
  invites : ∀ code row, Tables.invite after code = some row → row.roomID ≠ id

theorem delete_clears {id : String} {row : Room} (found : Tables.room store id = some row) :
    Cleared id (store.write (Tables.deleteRoom store id)) := by
  refine ⟨?_, fun user => ?_, fun user => ?_, fun code invite held same => ?_⟩
  · simp [room_write, Tables.deleteRoom, found]
  · rw [member_write]
    cases member : Tables.member store id user <;> simp [Tables.deleteRoom, found, member]
  · rw [permission_write]
    cases permission : Tables.permission store id user <;> simp [Tables.deleteRoom, found, permission]
  · have old := (Store.write_origin held).resolve_left (delete_adds_nothing store id (.invite code) invite)
    change Tables.invite store code = some invite at old
    rw [invite_write] at held
    simp [Tables.deleteRoom, found, old, same] at held

theorem Housed.delete (housed : Housed store) (id : String) : Housed (store.write (Tables.deleteRoom store id)) := by
  cases found : Tables.room store id with
  | none =>
    rw [Tables.deleteRoom, found]
    exact housed.write lodged_empty
  | some row =>
    have cleared := delete_clears found
    have stays : ∀ other, other ≠ id → (Tables.room store other).isSome →
        (Tables.room (store.write (Tables.deleteRoom store id)) other).isSome := by
      intro other different there
      rw [room_write, Tables.deleteRoom, found]
      dsimp only
      rw [if_neg different]
      exact there
    refine ⟨fun other user member held => ?_, fun other user bits held => ?_, fun code invite held => ?_⟩
    · have old := (Store.write_origin held).resolve_left (delete_adds_nothing store id (.member other user) member)
      refine stays other ?_ (housed.members other user member old)
      rintro rfl
      cases (cleared.members user).symm.trans held
    · have old := (Store.write_origin held).resolve_left (delete_adds_nothing store id (.permission other user) bits)
      refine stays other ?_ (housed.permissions other user bits old)
      rintro rfl
      cases (cleared.permissions user).symm.trans held
    · have old := (Store.write_origin held).resolve_left (delete_adds_nothing store id (.invite code) invite)
      exact stays invite.roomID (cleared.invites code invite held) (housed.invites code invite old)

theorem housed_keeps : database.Keeps Housed := by
  intro store sql reply written executed housed
  by_cases deletion : ∃ id, sql = .roomDelete id
  · obtain ⟨id, rfl⟩ := deletion
    cases executed
    exact housed.delete id
  · exact housed.write (execute_lodged (not_exists.mp deletion) executed housed)

/-! Slugs. -/

/-- A slug leads to the room that has it. -/
structure Directed (store : Store database) : Prop where
  keyed : Keyed store
  slugs : ∀ slug id, store (.slug slug) = some id → ∃ row, Tables.room store id = some row ∧ row.slug = slug

/-- A write of one room, with the slugs that it takes and leaves. -/
theorem Directed.write (directed : Directed store) {id : String} {new : Room} (own : new.id = id)
    (rooms : ∀ key, written (.room key) = if key = id then some (some new) else none)
    (slugs : ∀ slug key, (store.write written) (.slug slug) = some key →
      (slug = new.slug ∧ key = id) ∨ (key ≠ id ∧ store (.slug slug) = some key)) : Directed (store.write written) := by
  have row : ∀ key, Tables.room (store.write written) key = if key = id then some new else Tables.room store key := by
    intro key
    rw [room_write, rooms]
    split <;> rfl
  refine ⟨fun key value found => ?_, fun slug key leads => ?_⟩
  · rw [row] at found
    split at found
    next here =>
      cases found
      exact own.trans here.symm
    · exact directed.keyed key value found
  · rcases slugs slug key leads with ⟨rfl, rfl⟩ | ⟨other, before⟩
    · exact ⟨new, (row key).trans (if_pos rfl), rfl⟩
    · obtain ⟨value, found, named⟩ := directed.slugs slug key before
      exact ⟨value, (row key).trans ((if_neg other).trans found), named⟩

theorem Directed.frame (directed : Directed store) (rooms : ∀ id, written (.room id) = none)
    (slugs : ∀ slug, written (.slug slug) = none) : Directed (store.write written) := by
  have row : ∀ id, Tables.room (store.write written) id = Tables.room store id := fun id => Store.write_of_none (rooms id) store
  refine ⟨fun id value found => directed.keyed id value ((row id).symm.trans found), fun slug id leads => ?_⟩
  rw [Store.write_of_none (slugs slug)] at leads
  rw [row]
  exact directed.slugs slug id leads

theorem Directed.create (directed : Directed store) {new : Room} (absent : Tables.room store new.id = none) :
    Directed (store.write (Tables.putRoom new)) := by
  refine directed.write rfl (fun _ => rfl) fun slug key leads => ?_
  simp only [Store.write, Tables.putRoom] at leads
  split at leads
  next here => exact Or.inl ⟨here, (Option.some.inj leads).symm⟩
  · refine Or.inr ⟨?_, leads⟩
    rintro rfl
    obtain ⟨row, found, _⟩ := directed.slugs slug _ leads
    cases absent.symm.trans found

/-- The old slug goes when the new one is another. -/
theorem Directed.replace (directed : Directed store) {old new : Room} (found : Tables.room store new.id = some old) :
    Directed (store.write (Tables.replaceRoom old new)) := by
  refine directed.write rfl (fun _ => rfl) fun slug key leads => ?_
  have same : ∀ {row}, key = new.id → Tables.room store key = some row → row = old := by
    rintro row rfl there
    exact Option.some.inj (there.symm.trans found)
  simp only [Store.write, Tables.replaceRoom] at leads
  split at leads
  next kept =>
    obtain ⟨row, there, named⟩ := directed.slugs slug key leads
    by_cases here : key = new.id
    · exact Or.inl ⟨by rw [kept, ← same here there, named], here⟩
    · exact Or.inr ⟨here, leads⟩
  split at leads
  next taken => exact Or.inl ⟨taken, (Option.some.inj leads).symm⟩
  split at leads
  · cases leads
  next other =>
    refine Or.inr ⟨fun here => ?_, leads⟩
    obtain ⟨row, there, named⟩ := directed.slugs slug key leads
    exact other (by rw [← same here there, named])

theorem Directed.count (directed : Directed store) {id : String} {row : Room} (found : Tables.room store id = some row) (delta : Int) :
    Directed (store.write (Tables.setRoom id (Tables.countedRoom row delta))) := by
  have own : (Tables.countedRoom row delta).id = id := directed.keyed id row found
  refine directed.write own (fun _ => rfl) fun slug key leads => ?_
  have before : store (.slug slug) = some key := leads
  obtain ⟨old, there, named⟩ := directed.slugs slug key before
  by_cases here : key = id
  · subst here
    cases there.symm.trans found
    exact Or.inl ⟨named.symm, rfl⟩
  · exact Or.inr ⟨here, before⟩

theorem Directed.delete (directed : Directed store) (id : String) : Directed (store.write (Tables.deleteRoom store id)) := by
  cases found : Tables.room store id with
  | none =>
    rw [Tables.deleteRoom, found]
    exact directed.frame (fun _ => rfl) fun _ => rfl
  | some old =>
    refine ⟨fun key value held => ?_, fun slug key leads => ?_⟩
    · exact directed.keyed key value ((Store.write_origin held).resolve_left (delete_adds_nothing store id (.room key) value))
    · have before := (Store.write_origin leads).resolve_left (delete_adds_nothing store id (.slug slug) key)
      obtain ⟨row, there, named⟩ := directed.slugs slug key before
      have other : key ≠ id := by
        rintro rfl
        cases there.symm.trans found
        simp [Store.write, Tables.deleteRoom, found, named] at leads
      refine ⟨row, ?_, named⟩
      rw [room_write, Tables.deleteRoom, found]
      dsimp only
      rw [if_neg other]
      exact there

theorem directed_keeps : database.Keeps Directed := by
  intro store sql reply written executed directed
  cases sql with
  | roomCreate new =>
    obtain ⟨absent, rfl⟩ := insertRoom_ok executed
    exact directed.create absent
  | roomUpdate given =>
    rcases updateRoom_ok executed with ⟨_, rfl⟩ | ⟨row, found, rfl⟩
    · exact directed.frame (fun _ => rfl) fun _ => rfl
    · have own : (Tables.overwrite row given).id = given.id := directed.keyed given.id row found
      exact directed.replace (own ▸ found)
  | roomDelete id =>
    cases executed
    exact directed.delete id
  | incrementRoomMemberCount roomID delta =>
    rcases incrementCount_ok executed with ⟨_, rfl⟩ | ⟨row, found, rfl⟩
    · exact directed.frame (fun _ => rfl) fun _ => rfl
    · exact directed.count found delta
  | memberUpsert given =>
    obtain ⟨_, joinedAt, rfl⟩ := upsertMember_ok executed
    exact directed.frame (fun _ => rfl) fun _ => rfl
  | inviteCreate code roomID expiresAt =>
    obtain ⟨_, rfl⟩ := insertInvite_ok executed
    exact directed.frame (fun _ => rfl) fun _ => rfl
  | permissionSet roomID userID perms =>
    obtain rfl := setPermission_ok executed
    exact directed.frame (fun _ => rfl) fun _ => rfl
  | outboxInsert event =>
    obtain rfl := insertOutbox_ok executed
    exact directed.frame (fun _ => rfl) fun _ => rfl
  | _ =>
    cases executed
    exact directed.frame (fun _ => rfl) fun _ => rfl

end Statements

/-! Runs. -/

section Runs
variable {store : Store database} {env : Env} {roomID : String}

theorem serve_invariant {invariant : Store database → Prop} (keeps : database.Keeps invariant) (holds : invariant store) (env : Env)
    (request : Request) : invariant (serve store (env, request)) := by
  cases request with
  | createRoom subject req =>
    rcases RoomProvenance.createRoom_store env subject store req with same | ⟨room, _, same⟩
    · rw [serve, same]
      exact holds
    · rw [serve, same]
      exact Program.withTx_invariant keeps _ holds
  | joinRoom subject roomID inviteCode =>
    rcases RoomProvenance.joinRoom_store env subject store roomID inviteCode with same | same
    · rw [serve, same]
      exact holds
    · rw [serve, same]
      exact Program.withTx_invariant keeps _ holds
  | updateRoom subject req =>
    rw [serve, RoomProvenance.updateRoom_store]
    exact Program.withTx_invariant keeps _ holds
  | deleteRoom subject roomID => exact Program.withTx_invariant keeps _ holds
  | leaveRoom subject roomID =>
    rw [serve, RoomProvenance.leaveRoom_store]
    exact Program.withTx_invariant keeps _ holds
  | kickMember subject roomID targetID =>
    rw [serve, RoomProvenance.kickMember_store]
    exact Program.withTx_invariant keeps _ holds
  | updateMemberRole subject roomID targetID role => exact Program.withTx_invariant keeps _ holds
  | grantPermissions subject roomID targetID permissions =>
    rw [serve, RoomProvenance.grantPermissions_store]
    exact Program.withTx_invariant keeps _ holds

/-- Rooms are found under their ids and slugs, and rows refer to rooms that exist. -/
def Sound (store : Store database) : Prop := Directed store ∧ Housed store

theorem Sound.serve (sound : Sound store) (request : Env × Request) : Sound (serve store request) :=
  ⟨serve_invariant directed_keeps sound.1 request.1 request.2, serve_invariant housed_keeps sound.2 request.1 request.2⟩

theorem sound_empty : Sound (fun _ => none) := by
  refine ⟨⟨fun _ _ found => ?_, fun _ _ found => ?_⟩, ⟨fun _ _ _ found => ?_, fun _ _ _ found => ?_, fun _ _ found => ?_⟩⟩ <;>
    cases found

/-- Nothing is left of the room. -/
structure Emptied (id : String) (after : Store database) : Prop extends Cleared id after where
  slugs : ∀ slug, after (.slug slug) ≠ some id

theorem emptied_of_missing (sound : Sound store) (missing : Tables.room store roomID = none) : Emptied roomID store := by
  obtain ⟨directed, housed⟩ := sound
  have absent : ¬ (Tables.room store roomID).isSome := by
    rw [missing]
    exact Bool.false_ne_true
  refine ⟨⟨missing, fun user => ?_, fun user => ?_, fun code row held same => ?_⟩, fun slug leads => ?_⟩
  · by_contra held
    obtain ⟨row, found⟩ := Option.ne_none_iff_exists'.mp held
    exact absent (housed.members roomID user row found)
  · by_contra held
    obtain ⟨bits, found⟩ := Option.ne_none_iff_exists'.mp held
    exact absent (housed.permissions roomID user bits found)
  · exact absent (same ▸ housed.invites code row held)
  · obtain ⟨row, found, _⟩ := directed.slugs slug roomID leads
    cases missing.symm.trans found

/-- The request draws this id for a new room. -/
def Recreates (roomID : String) : Env × Request → Prop
  | (env, .createRoom _ _) => env.idgen 0 = roomID
  | _ => False

theorem missing_stays (sound : Sound store) (missing : Tables.room store roomID = none) {request : Env × Request}
    (other : ¬ Recreates roomID request) : Tables.room (serve store request) roomID = none := by
  obtain ⟨env, request⟩ := request
  by_contra held
  obtain ⟨row, found⟩ := Option.ne_none_iff_exists'.mp held
  rcases RoomProvenance.room_origin sound.1.keyed found with ⟨old, before, _⟩ | ⟨subject, req, rfl, _, drawn, _⟩
  · cases missing.symm.trans before
  · exact other drawn

theorem deleteRoom_missing {subject : Subject} (deleted : (deleteRoom env subject roomID store).1.isOk = true) :
    Tables.room (deleteRoom env subject roomID store).2 roomID = none := by
  unfold deleteRoom at deleted ⊢
  rcases Program.withTx_cases (deleteRoomBody env subject roomID) store with ⟨_, failed⟩ | ⟨_, after, done, executed⟩
  · rw [failed] at deleted
    cases deleted
  rw [done]
  obtain ⟨_, middle, checked, rest⟩ := Program.exec_bind_ok executed
  cases requireRoomRole_ok checked
  obtain ⟨_, emptied, ran, rest⟩ := Program.exec_bind_ok rest
  obtain ⟨_, removed, written⟩ := Program.exec_query_ok ran
  cases removed
  change Tables.room after roomID = none
  rw [(outboxAppend_ok rest).rooms, written]
  cases found : Tables.room store roomID with
  | none =>
    rw [Tables.deleteRoom, found]
    exact found
  | some row => exact (delete_clears found).room

/-- Once a room is deleted, no row of it is left, and none comes back unless its id
is drawn for a new room. -/
theorem deleted_room_leaves_nothing (earlier later : List (Env × Request)) (subject : Subject)
    (deleted : (deleteRoom env subject roomID (Machine.run serve (fun _ => none) earlier)).1.isOk = true)
    (fresh : ∀ request ∈ later, ¬ Recreates roomID request) :
    Emptied roomID (Machine.run serve (fun _ => none) (earlier ++ (env, .deleteRoom subject roomID) :: later)) := by
  have sound := Machine.run_invariant Sound (fun store request sound => sound.serve request) sound_empty earlier
  rw [Machine.run_append, Machine.run_cons]
  have gone := deleteRoom_missing deleted
  have after := sound.serve (env, .deleteRoom subject roomID)
  have run : Sound _ ∧ Tables.room _ roomID = none := Machine.run_of_guarded (fun store => Sound store ∧ Tables.room store roomID = none)
    (fun _ request => ¬ Recreates roomID request) (fun store request kept other => ⟨kept.1.serve request, missing_stays kept.1 kept.2 other⟩)
    ⟨after, gone⟩ (fun visit member => fresh visit.2 (Machine.trace_event member))
  exact emptied_of_missing run.1 run.2

end Runs

/-! A private room with a code, a guest and a grant. -/

def films : List (Env × Request) :=
  [(draws ["r1", "e1"], .createRoom ⟨"ann", .user⟩ ⟨"films", none, 3, none⟩), (draws ["e2"], .joinRoom ⟨"bob", .user⟩ "r1" "code"),
    (draws [], .grantPermissions ⟨"ann", .user⟩ "r1" "bob" [1])]

theorem films_leave_nothing :
    (Tables.permission (Machine.run serve (fun _ => none) films) "r1" "bob").isSome ∧
      Emptied "r1" (Machine.run serve (fun _ => none) (films ++ (draws ["e3"], .deleteRoom ⟨"ann", .user⟩ "r1") ::
        [(draws ["e4"], .joinRoom ⟨"bob", .user⟩ "r1" "code")])) := by
  refine ⟨by decide +kernel, deleted_room_leaves_nothing films [(draws ["e4"], .joinRoom ⟨"bob", .user⟩ "r1" "code")] ⟨"ann", .user⟩
    (by decide +kernel) (List.forall_mem_singleton.mpr id)⟩

end VibeSync.Proofs.RoomDeletion
