import VibeSync.Authority
import VibeSync.Machine
import VibeSync.Proofs.MediaQueue
import VibeSync.Proofs.RoomCommands
import VibeSync.Proofs.RoomProvenance
import VibeSync.Proofs.SyncProvenance

/-! Who steers a room's playback and who edits its queue, over whole histories of
the three services: its creator, whoever the creator has allowed it, and, for the
playback, a host elected among those who are present. -/

namespace VibeSync.Proofs.Authority
open VibeSync.Authority VibeSync.Sync Transaction VibeSync.Proofs.RoomCommands VibeSync.Proofs.RoomProvenance
open VibeSync.Proofs.SyncProvenance

/-- What has happened, each event with the world in which it arrived. -/
abbrev Visits : Type := List (World × Event)

/-! What a history attests. -/

section Evidence
variable (visits : Visits) (roomID userID : String)

def CreatedBy : Prop :=
  ∃ visit ∈ visits, ∃ env subject req, visit.2 = .rooms env (.createRoom subject req) ∧
    (Rooms.createRoom env subject req visit.1.rooms).1.isOk = true ∧ env.idgen 0 = roomID ∧ subject.userID = userID

/-- The creator of the room has allowed it. -/
def Granted (permission : Int32) : Prop :=
  ∃ visit ∈ visits, ∃ env subject permissions, visit.2 = .rooms env (.grantPermissions subject roomID userID permissions) ∧
    (Rooms.grantPermissions subject roomID userID permissions visit.1.rooms).1.isOk = true ∧ permission ∈ permissions ∧
    CreatedBy visits roomID subject.userID

def Beat : Prop :=
  ∃ visit ∈ visits, ∃ mediaTime wallTime t2 nowMs now,
    visit.2 = .sync (.room roomID ⟨.heartbeat userID mediaTime wallTime t2, nowMs, now⟩)

/-- Why a command is carried out. -/
inductive Entitled (kind : CommandKind) : Prop where
  | creator (created : CreatedBy visits roomID userID)
  | host (hosted : ∃ visit ∈ visits, ∃ rs, visit.1.sync.room roomID = some rs ∧ rs.state.hostID = userID)
      (beat : Beat visits roomID userID)
  | grant (permission : RoomPermission) (needed : commandPermission kind = some permission)
      (held : ∃ visit ∈ visits, has visit.1.rooms roomID userID permission = .ok true)
      (granted : Granted visits roomID userID permission.number)

end Evidence

section Mono
variable {visits later : Visits} {roomID userID : String}

theorem CreatedBy.mono (sub : visits ⊆ later) (created : CreatedBy visits roomID userID) : CreatedBy later roomID userID := by
  obtain ⟨visit, seen, rest⟩ := created
  exact ⟨visit, sub seen, rest⟩

theorem Granted.mono (sub : visits ⊆ later) {permission : Int32} (granted : Granted visits roomID userID permission) :
    Granted later roomID userID permission := by
  obtain ⟨visit, seen, env, subject, permissions, same, done, listed, created⟩ := granted
  exact ⟨visit, sub seen, env, subject, permissions, same, done, listed, created.mono sub⟩

theorem Beat.mono (sub : visits ⊆ later) (beat : Beat visits roomID userID) : Beat later roomID userID := by
  obtain ⟨visit, seen, rest⟩ := beat
  exact ⟨visit, sub seen, rest⟩

theorem Entitled.mono (sub : visits ⊆ later) {kind : CommandKind} (entitled : Entitled visits roomID userID kind) :
    Entitled later roomID userID kind := by
  cases entitled with
  | creator created => exact .creator (created.mono sub)
  | host hosted beat =>
    obtain ⟨visit, seen, rest⟩ := hosted
    exact .host ⟨visit, sub seen, rest⟩ (beat.mono sub)
  | grant permission needed held granted =>
    obtain ⟨visit, seen, rest⟩ := held
    exact .grant permission needed ⟨visit, sub seen, rest⟩ (granted.mono sub)

end Mono

/-! The Room service. -/

structure Registered (visits : Visits) (store : Store Rooms.database) : Prop where
  keyed : RoomSteps.Keyed store
  owners : ∀ id row, Rooms.Tables.room store id = some row → CreatedBy visits id row.ownerID
  grants : ∀ roomID userID bits, Rooms.Tables.permission store roomID userID = some bits →
    ∃ permissions, bits = (Rooms.permissionsFromProto permissions).toInt16 ∧
      ∀ value ∈ permissions, Granted visits roomID userID value
  tells : ∀ id row, store (.outbox id) = some row → row.event.topic = roomCreated →
    ∀ event, RoomCreatedV1.decode row.event.payload = some event → CreatedBy visits event.roomID event.ownerID

theorem decode_created (env : Rooms.Env) (room : Rooms.Room) :
    RoomCreatedV1.decode (Rooms.createdEvent env room).payload =
      some ⟨room.id, room.slug, room.name, room.ownerID, room.visibility.toInt⟩ := by
  have whole : JsonObject.integer (Rooms.createdEvent env room).payload "visibility" = some room.visibility.toInt :=
    JsonObject.integer_of_lookup rfl
  rw [RoomCreatedV1.decode, whole]
  rfl

theorem getMemberPermissions_missing {store : Store Rooms.database} {roomID : String}
    (missing : Rooms.Tables.room store roomID = none) (userID : String) :
    Rooms.getMemberPermissions roomID userID store = .error (.notFound "room" roomID) := by
  rw [Rooms.getMemberPermissions, Program.withTx_exec, Rooms.getMemberPermissionsBody, RoomSteps.exec_roomByID, missing]
  rfl

section Rooms
variable {visits later : Visits}

theorem Registered.mono (sub : visits ⊆ later) {store : Store Rooms.database} (registered : Registered visits store) :
    Registered later store := by
  refine ⟨registered.keyed, fun id row found => (registered.owners id row found).mono sub, fun roomID userID bits found => ?_,
    fun id row found told event decoded => (registered.tells id row found told event decoded).mono sub⟩
  obtain ⟨permissions, same, granted⟩ := registered.grants roomID userID bits found
  exact ⟨permissions, same, fun value listed => (granted value listed).mono sub⟩

theorem Registered.serve {w : World} (registered : Registered visits w.rooms) (env : Rooms.Env) (request : Rooms.Request) :
    Registered (visits ++ [(w, .rooms env request)]) (Rooms.serve w.rooms (env, request)) := by
  have sub : visits ⊆ visits ++ [(w, .rooms env request)] := List.subset_append_left ..
  have here : (w, Event.rooms env request) ∈ visits ++ [(w, .rooms env request)] := List.mem_concat_self
  have adds := serve_adds env request w.rooms
  refine ⟨RoomValidity.Keyed.step registered.keyed (RoomSteps.serve_moves registered.keyed env request), fun id row found => ?_,
    fun roomID userID bits found => ?_, fun id row found told event decoded => ?_⟩
  · rcases room_origin registered.keyed found with ⟨old, before, same⟩ | ⟨subject, req, rfl, done, name, owner⟩
    · rw [← same]
      exact (registered.owners id old before).mono sub
    · exact ⟨_, here, env, subject, req, rfl, done, name, owner⟩
  · rcases adds.permission_origin found with before | ⟨subject, permissions, row, rfl, done, room, owner, rfl⟩
    · obtain ⟨permissions, same, granted⟩ := registered.grants roomID userID bits before
      exact ⟨permissions, same, fun value listed => (granted value listed).mono sub⟩
    · refine ⟨permissions, rfl, fun value listed => ⟨_, here, env, subject, permissions, rfl, done, listed, ?_⟩⟩
      rw [← owner]
      exact (registered.owners roomID row room).mono sub
  · rcases adds.outbox_origin found told with before | ⟨subject, req, room, rfl, done, made, rfl⟩
    · exact (registered.tells id row before told event decoded).mono sub
    · obtain ⟨name, owner, _⟩ := RoomSteps.newRoom_fields made
      cases (decode_created env room).symm.trans decoded
      exact ⟨_, here, env, subject, req, rfl, done, name.symm, owner.symm⟩

theorem mask_granted {store : Store Rooms.database} (registered : Registered visits store) {roomID userID : String} {value : Int32}
    (listed : value ∈ (mask store roomID userID).toProto) : Granted visits roomID userID value := by
  cases found : Rooms.Tables.permission store roomID userID with
  | none =>
    rw [mask, found, mem_toProto] at listed
    exact absurd UInt16.zero_and listed.2
  | some bits =>
    obtain ⟨permissions, rfl, granted⟩ := registered.grants roomID userID bits found
    have stored : mask store roomID userID = Rooms.permissionsFromProto permissions := by simp [mask, found]
    rw [stored, mem_roundTrip] at listed
    exact granted value listed.1

/-- The Room service confirms a permission to the creator and to those it has been granted to. -/
theorem has_attested {store : Store Rooms.database} (registered : Registered visits store) {roomID userID : String}
    {permission : RoomPermission} (held : has store roomID userID permission = .ok true) :
    CreatedBy visits roomID userID ∨ Granted visits roomID userID permission.number := by
  rw [has] at held
  split at held
  · cases held
  cases found : Rooms.Tables.room store roomID with
  | none =>
    rw [getMemberPermissions_missing found] at held
    cases held
  | some row =>
    rw [getMemberPermissions_found found] at held
    dsimp only at held
    split at held
    next owner =>
      rw [← of_decide_eq_true owner]
      exact Or.inl (registered.owners roomID row found)
    · exact Or.inr (mask_granted registered (List.contains_iff_mem.mp (Except.ok.inj held)))

end Rooms

/-! The commands in progress. -/

structure Pending (visits : Visits) (roomID : String) (call : Call) : Prop where
  identified : call.userID ≠ ""
  asks : ∀ permission, call.phase = .askPermission permission → commandPermission call.command.kind = some permission
  allowed : ∀ ground, call.phase = .authorized ground → Entitled visits roomID call.userID call.command.kind

section Calls
variable {visits later : Visits} {roomID : String} {call : Call}

theorem Pending.mono (sub : visits ⊆ later) (pending : Pending visits roomID call) : Pending later roomID call :=
  ⟨pending.identified, pending.asks, fun ground same => (pending.allowed ground same).mono sub⟩

/-- A phase that neither asks nor is let through. -/
theorem pending_idle {phase : Phase} (identified : call.userID ≠ "") (asks : ∀ permission, phase ≠ .askPermission permission)
    (waits : ∀ ground, phase ≠ .authorized ground) : Pending visits roomID { call with phase } :=
  ⟨identified, fun permission same => absurd same (asks permission), fun ground same => absurd same (waits ground)⟩

theorem pending_entitled {ground : Ground} (identified : call.userID ≠ "")
    (entitled : Entitled visits roomID call.userID call.command.kind) :
    Pending visits roomID { call with phase := .authorized ground } :=
  ⟨identified, nofun, fun _ _ => entitled⟩

section Step
variable {w : World} {event : Event} {rs : RoomSync}

theorem entitled_host (here : (w, event) ∈ visits) (found : w.sync.room roomID = some rs)
    (backed : Backed (CreatedBy visits) (Beat visits) roomID rs) (identified : call.userID ≠ "")
    (host : call.userID = rs.state.hostID) : Entitled visits roomID call.userID call.command.kind := by
  rcases backed.vouched.host with nobody | created | beat
  · exact absurd (host.trans nobody) identified
  · exact .creator (host ▸ created)
  · exact .host ⟨_, here, rs, found, host.symm⟩ (host ▸ beat)

theorem entitled_owner (backed : Backed (CreatedBy visits) (Beat visits) roomID rs) (identified : call.userID ≠ "")
    (owner : call.userID = rs.state.ownerID) : Entitled visits roomID call.userID call.command.kind := by
  rcases backed.vouched.owner with nobody | created
  · exact absurd (owner.trans nobody) identified
  · exact .creator (owner ▸ created)

theorem entitled_grant (here : (w, event) ∈ visits) (registered : Registered visits w.rooms) {permission : RoomPermission}
    (needed : commandPermission call.command.kind = some permission) (held : has w.rooms roomID call.userID permission = .ok true) :
    Entitled visits roomID call.userID call.command.kind := by
  rcases has_attested registered held with created | granted
  · exact .creator created
  · exact .grant permission needed ⟨_, here, held⟩ granted

theorem ask_ok {failure : Option Err} {userID : String} {permission : RoomPermission} {held : Bool}
    (answered : w.ask failure roomID userID permission = .ok held) : has w.rooms roomID userID permission = .ok held := by
  cases failure with
  | some err => cases answered
  | none => exact answered

theorem Pending.advance (here : (w, event) ∈ visits) (found : w.sync.room roomID = some rs) (registered : Registered visits w.rooms)
    (backed : Backed (CreatedBy visits) (Beat visits) roomID rs) (pending : Pending visits roomID call) (failure : Option Err)
    (nowMs : Int) (now : Time) : Pending visits roomID (call.step rs (w.answer call rs failure) nowMs now).1 := by
  have identified := pending.identified
  unfold Call.step
  split
  · split
    next host => exact pending_entitled identified (entitled_host here found backed identified host)
    · exact pending_idle identified nofun nofun
  · split
    next owner => exact pending_entitled identified (entitled_owner backed identified owner)
    · split
      next permission needed => exact ⟨identified, fun _ same => by cases same; exact needed, nofun⟩
      · exact pending_idle identified nofun nofun
  next permission asking =>
    have asked : w.answer call rs failure = w.ask failure roomID call.userID permission := by
      rw [World.answer, asking, backed.room]
    rw [asked]
    split
    next answered =>
      exact pending_entitled identified (entitled_grant here registered (pending.asks permission asking) (ask_ok answered))
    · exact pending_idle identified nofun nofun
    · exact pending_idle identified nofun nofun
  · exact pending_idle identified nofun nofun
  · exact pending

end Step

theorem accept_pending {userID : String} (identified : userID ≠ "") (command : Command) (fencingToken : Nat) :
    Pending visits roomID (Handlers.accept userID command fencingToken) := by
  unfold Handlers.accept
  dsimp only
  rw [if_neg identified]
  exact ⟨identified, nofun, nofun⟩

/-- A step of a call leaves the room alone, or the call has been let through and applies its command. -/
theorem call_room (call : Call) (rs : RoomSync) (answer : Except Err Bool) (nowMs : Int) (now : Time) :
    (call.step rs answer nowMs now).2 = rs ∨ (∃ ground, call.phase = .authorized ground) ∧
      (call.step rs answer nowMs now).2 = (rs.processCommandAuthorized call.command call.fencingToken nowMs now).2 := by
  unfold Call.step
  split
  · split <;> exact Or.inl rfl
  · split
    · exact Or.inl rfl
    · split <;> exact Or.inl rfl
  · split <;> exact Or.inl rfl
  next ground through => exact Or.inr ⟨⟨ground, through⟩, rfl⟩
  · exact Or.inl rfl

end Calls

/-! The requests to the Media service. -/

/-- The Room service was asked for this request and confirmed the permission, which
the sender has as the creator of the room or by a grant of the creator. -/
structure Permitted (visits : Visits) (id : Nat) (call : QueueCall) : Prop where
  confirmed : ∃ visit ∈ visits, (∃ failure, visit.2 = .edit id failure call.subject call.roomID call.edit) ∧
    has visit.1.rooms call.roomID call.subject.userID call.edit.permission = .ok true
  attested : CreatedBy visits call.roomID call.subject.userID ∨
    Granted visits call.roomID call.subject.userID call.edit.permission.number

theorem Permitted.mono {visits later : Visits} (sub : visits ⊆ later) {id : Nat} {call : QueueCall} (permitted : Permitted visits id call) :
    Permitted later id call := by
  obtain ⟨⟨visit, seen, rest⟩, attested⟩ := permitted
  exact ⟨⟨visit, sub seen, rest⟩, attested.imp (CreatedBy.mono sub) (Granted.mono sub)⟩

/-! The three services together. -/

structure Traced (visits : Visits) (w : World) : Prop where
  rooms : Registered visits w.rooms
  sync : Sourced (CreatedBy visits) (Beat visits) w.sync
  calls : ∀ id roomID call, w.calls id = some (roomID, call) → Pending visits roomID call
  edits : ∀ id call, w.edits id = some call → call.answer = .ok true → Permitted visits id call

section World
variable {visits later : Visits} {w : World}

theorem Traced.mono (sub : visits ⊆ later) (traced : Traced visits w) : Traced later w :=
  ⟨traced.rooms.mono sub, traced.sync.mono (fun _ _ => CreatedBy.mono sub) (fun _ _ => Beat.mono sub),
    fun id roomID call found => (traced.calls id roomID call found).mono sub,
    fun id call found held => (traced.edits id call found held).mono sub⟩

theorem Traced.deliver (traced : Traced visits w) (id : String) (now : Time) : Traced visits (w.deliver id now) := by
  unfold World.deliver
  split
  · exact traced
  next row found =>
    split
    next told =>
      refine ⟨traced.rooms, ?_, traced.calls, traced.edits⟩
      dsimp only
      unfold Service.handleMessage
      split
      · exact traced.sync
      next event decoded =>
        have created := traced.rooms.tells id row found told event decoded
        exact @Sourced.step _ _ w.sync traced.sync (.roomCreated event.roomID event.ownerID now) created
    · exact traced

/-- The events of the Sync service itself create no room and name no owner. -/
theorem founded_of_own {event : Service.Event} (here : (w, .sync event) ∈ visits) (ofItsOwn : ofItsOwn event = true) :
    Founded (CreatedBy visits) (Beat visits) event := by
  cases event with
  | room roomID inner =>
    obtain ⟨action, nowMs, now⟩ := inner
    cases action with
    | heartbeat userID mediaTime wallTime t2 => exact ⟨_, here, mediaTime, wallTime, t2, nowMs, now, rfl⟩
    | adoptOwner ownerID => cases ofItsOwn
    | _ => trivial
  | roomCreated roomID ownerID now => cases ofItsOwn
  | _ => trivial

theorem Traced.own {event : Service.Event} (traced : Traced visits w) (here : (w, .sync event) ∈ visits) :
    Traced visits (w.own event) := by
  unfold World.own
  split
  next ofItsOwn =>
    refine ⟨traced.rooms, traced.sync.step (founded_of_own here ofItsOwn), fun id roomID call found => ?_, traced.edits⟩
    cases event with
    | crash => cases found
    | _ => exact traced.calls id roomID call found
  · exact traced

theorem update_calls {calls : Nat → Option (String × Call)} {asked : Nat} {next : String × Call}
    (before : ∀ id roomID call, calls id = some (roomID, call) → Pending visits roomID call) (new : Pending visits next.1 next.2)
    (id : Nat) (roomID : String) (call : Call) (found : Function.update calls asked (some next) id = some (roomID, call)) :
    Pending visits roomID call := by
  rw [Function.update_apply] at found
  split at found
  · cases found
    exact new
  · exact before id roomID call found

theorem Traced.command (traced : Traced visits w) (id : Nat) (roomID userID : String) (command : Command) (fencingToken : Nat)
    (failure : Option Err) : Traced visits (w.command id roomID userID command fencingToken failure) := by
  unfold World.command
  split
  · exact traced
  next given =>
    have identified : userID ≠ "" := fun missing => given (Or.inr missing)
    exact ⟨traced.rooms, @Sourced.step _ _ w.sync traced.sync (.getOrCreate roomID failure) trivial,
      update_calls traced.calls (accept_pending identified command fencingToken), traced.edits⟩

theorem put_sourced {creator beat : String → String → Prop} {s : Service} (sourced : Sourced creator beat s) {roomID : String}
    {rs : RoomSync} (backed : Backed creator beat roomID rs) :
    Sourced creator beat { s with manager := s.manager.put roomID rs } := by
  refine ⟨fun other after found => ?_, sourced.saved, sourced.rows⟩
  change (s.manager.put roomID rs).rooms other = some after at found
  rw [SyncService.put_room] at found
  split at found
  next same =>
    subst same
    cases found
    exact backed
  · exact sourced.memory other after found

theorem Traced.advance {event : Event} (traced : Traced visits w) (here : (w, event) ∈ visits) (id : Nat) (failure : Option Err)
    (nowMs : Int) (now : Time) : Traced visits (w.advance id failure nowMs now) := by
  unfold World.advance
  split
  · exact traced
  next roomID call calling =>
    split
    · exact traced
    next rs found =>
      have pending := traced.calls id roomID call calling
      have backed := traced.sync.memory roomID rs found
      refine ⟨traced.rooms, put_sourced traced.sync ?_, update_calls traced.calls
        (pending.advance here found traced.rooms backed failure nowMs now), traced.edits⟩
      rcases call_room call rs (w.answer call rs failure) nowMs now with same | ⟨_, applied⟩
      · rw [same]
        exact backed
      · rw [applied]
        exact command_backed backed ..

theorem Traced.edit {id : Nat} {failure : Option Err} {subject : Rooms.Subject} {roomID : String} {edit : QueueEdit}
    (traced : Traced visits w) (here : (w, .edit id failure subject roomID edit) ∈ visits) :
    Traced visits (w.edit id failure subject roomID edit) := by
  refine ⟨traced.rooms, traced.sync, traced.calls, fun asked call found held => ?_⟩
  simp only [World.edit, Function.update_apply] at found
  split at found
  next same =>
    subst same
    cases found
    have confirmed := ask_ok held
    exact ⟨⟨_, here, ⟨failure, rfl⟩, confirmed⟩, has_attested traced.rooms confirmed⟩
  · exact traced.edits asked call found held

theorem Traced.finish (traced : Traced visits w) (id : Nat) (databaseNow : Time) : Traced visits (w.finish id databaseNow) := by
  unfold World.finish
  split
  · exact traced
  · refine ⟨traced.rooms, traced.sync, traced.calls, fun asked call found held => ?_⟩
    simp only [Function.update_apply] at found
    split at found
    · cases found
    · exact traced.edits asked call found held

theorem Traced.step (traced : Traced visits w) (event : Event) : Traced (visits ++ [(w, event)]) (w.step event) := by
  have here : (w, event) ∈ visits ++ [(w, event)] := List.mem_concat_self
  have recorded : Traced (visits ++ [(w, event)]) w := traced.mono (List.subset_append_left ..)
  cases event with
  | rooms env request => exact ⟨traced.rooms.serve env request, recorded.sync, recorded.calls, recorded.edits⟩
  | deliver id now => exact recorded.deliver id now
  | sync event => exact recorded.own here
  | command id roomID userID command fencingToken failure =>
    exact recorded.command id roomID userID command fencingToken failure
  | advance id failure nowMs now => exact recorded.advance here id failure nowMs now
  | edit id failure subject roomID edit => exact recorded.edit here
  | finish id databaseNow => exact recorded.finish id databaseNow

theorem start_traced (cfg : SyncConfig) (media : Store Media.database) : Traced [] (World.start cfg media) := by
  refine ⟨⟨fun _ _ found => ?_, fun _ _ found => ?_, fun _ _ _ found => ?_, fun _ _ found => ?_⟩,
    ⟨fun _ _ found => ?_, fun _ _ found => ?_, fun _ _ found => ?_⟩, fun _ _ _ found => ?_, fun _ _ found => ?_⟩ <;> cases found

theorem run_traced (cfg : SyncConfig) (media : Store Media.database) (events : List Event) :
    Traced (Machine.trace World.step (World.start cfg media) events) (Machine.run World.step (World.start cfg media) events) :=
  Machine.run_traced Traced (start_traced cfg media) (fun _ _ event traced => traced.step event) events

end World

/-! Playback. -/

section Playback
variable {w : World} {roomID : String} {rs after : RoomSync}

end Playback

/-! The queue. -/

section Queue
variable {roomID : String}

/-- Nothing is written to the queue of another room. -/
def Local (roomID : String) (written : Writes Media.database) : Prop :=
  ∀ other key, other ≠ roomID → written (.queue other key) = none

theorem local_empty : Local roomID Writes.empty := fun _ _ _ => rfl

theorem local_andThen (first second : Writes Media.database) (left : Local roomID first) (right : Local roomID second) :
    Local roomID (first.andThen second) := by
  intro other key different
  rw [Writes.andThen, right other key different, left other key different]
  rfl

theorem addToQueueBody_local (databaseNow : Time) (roomID mediaID : String) :
    (Media.addToQueueBody databaseNow roomID mediaID).Within (Local roomID) := by
  refine Program.Within.bind ⟨fun store reply written executed => ?_, fun _ => trivial⟩ fun item => ?_
  · cases executed
    exact local_empty
  cases item with
  | none => trivial
  | some _ =>
    refine Program.Within.bind ⟨fun store reply written executed => ?_, fun _ => trivial⟩ fun last =>
      ⟨fun store reply written executed => ?_, fun _ => trivial⟩
    · cases executed
      exact local_empty
    · obtain ⟨_, rfl⟩ := MediaQueue.insertAt_ok executed
      exact fun other key different => if_neg fun both => different both.1

theorem queueRemove_local (roomID : String) (position : Nat) :
    (Media.Repo.queueRemove roomID position).Within (Local roomID) := by
  refine Program.Within.bind ⟨fun store reply written executed => ?_, fun _ => trivial⟩ fun affected => ?_
  · obtain ⟨rfl, _⟩ := MediaQueue.deleteAt_ok executed
    exact fun other key different => if_neg fun both => different both.1
  · split
    · trivial
    · refine ⟨fun store reply written executed => ?_, fun _ => trivial⟩
      rw [MediaQueue.shiftAfter_ok executed]
      exact fun other key different => if_neg fun both => different both.1

theorem withTx_local {α : Type} {program : Media.Tx α} (within : program.Within (Local roomID)) (store : Store Media.database)
    {other : String} (different : other ≠ roomID) :
    Media.Tables.queue (program.withTx store).2 other = Media.Tables.queue store other := by
  obtain ⟨written, elsewhere, same⟩ := within.withTx local_empty local_andThen store
  funext key
  rw [same, MediaQueue.queue_write, elsewhere other key different]
  rfl

theorem deliver_media (w : World) (id : String) (now : Time) : (w.deliver id now).media = w.media := by
  unfold World.deliver
  split
  · rfl
  · split <;> rfl

theorem own_media (w : World) (event : Service.Event) : (w.own event).media = w.media := by
  unfold World.own
  split <;> rfl

theorem command_media (w : World) (id : Nat) (roomID userID : String) (command : Command) (fencingToken : Nat) (failure : Option Err) :
    (w.command id roomID userID command fencingToken failure).media = w.media := by
  unfold World.command
  split <;> rfl

theorem advance_media (w : World) (id : Nat) (failure : Option Err) (nowMs : Int) (now : Time) :
    (w.advance id failure nowMs now).media = w.media := by
  unfold World.advance
  split
  · rfl
  · split <;> rfl

/-- What a request writes, it writes to the queue of its room, and only after the Room service has confirmed. -/
theorem finish_edits {call : QueueCall} {databaseNow : Time} {store : Store Media.database}
    (edited : Media.Tables.queue (call.finish databaseNow store) roomID ≠ Media.Tables.queue store roomID) :
    call.roomID = roomID ∧ call.answer = .ok true := by
  obtain ⟨subject, asked, edit, answer⟩ := call
  cases edit with
  | addToQueue mediaID =>
    rcases MediaQueue.addToQueue_cases (fun _ _ _ => answer) databaseNow subject asked mediaID store with
      ⟨err, failed⟩ | ⟨held, item, after, answered, ran⟩
    · exact absurd (congrArg (Media.Tables.queue ·.2 roomID) failed) edited
    · refine ⟨?_, held⟩
      by_contra different
      have kept := withTx_local (addToQueueBody_local databaseNow asked mediaID) store (Ne.symm different)
      rw [ran] at kept
      exact edited ((congrArg (Media.Tables.queue ·.2 roomID) answered).trans kept)
  | removeFromQueue position =>
    rcases MediaQueue.removeFromQueue_cases (fun _ _ _ => answer) subject asked position store with
      ⟨err, failed⟩ | ⟨held, after, answered, ran⟩
    · exact absurd (congrArg (Media.Tables.queue ·.2 roomID) failed) edited
    · refine ⟨?_, held⟩
      by_contra different
      have kept := withTx_local (queueRemove_local asked position.toNat) store (Ne.symm different)
      rw [ran] at kept
      exact edited ((congrArg (Media.Tables.queue ·.2 roomID) answered).trans kept)

theorem step_edits {w : World} {event : Event} (edited : Media.Tables.queue (w.step event).media roomID ≠ Media.Tables.queue w.media roomID) :
    ∃ id databaseNow call, event = .finish id databaseNow ∧ w.edits id = some call ∧ call.roomID = roomID ∧ call.answer = .ok true := by
  have idle (kept : (w.step event).media = w.media) : False := edited (congrArg (Media.Tables.queue · roomID) kept)
  cases event with
  | finish id databaseNow =>
    cases found : w.edits id with
    | none => exact (idle (by simp only [World.step, World.finish, found])).elim
    | some call =>
      simp only [World.step, World.finish, found] at edited
      exact ⟨id, databaseNow, call, rfl, found, finish_edits edited⟩
  | rooms env request => exact (idle rfl).elim
  | deliver id now => exact (idle (deliver_media w id now)).elim
  | sync event => exact (idle (own_media w event)).elim
  | command id asked userID command fencingToken failure =>
    exact (idle (command_media w id asked userID command fencingToken failure)).elim
  | advance id failure nowMs now => exact (idle (advance_media w id failure nowMs now)).elim
  | edit id failure subject asked edit => exact (idle rfl).elim

/-- In every history, a room's queue changes only by a request to add or to remove
for this room. The Room service was asked for the request before, and confirmed
the permission, which the sender has as the creator or by the creator's grant. -/
theorem queue_edited_by_permitted (cfg : SyncConfig) (media : Store Media.database) (events : List Event) (event : Event)
    (roomID : String)
    (edited : Media.Tables.queue ((Machine.run World.step (World.start cfg media) events).step event).media roomID ≠
      Media.Tables.queue (Machine.run World.step (World.start cfg media) events).media roomID) :
    ∃ id databaseNow call, event = .finish id databaseNow ∧
      (Machine.run World.step (World.start cfg media) events).edits id = some call ∧ call.roomID = roomID ∧
      Permitted (Machine.trace World.step (World.start cfg media) events) id call := by
  obtain ⟨id, databaseNow, call, rfl, found, here, held⟩ := step_edits edited
  exact ⟨id, databaseNow, call, rfl, found, here, (run_traced cfg media events).edits id call found held⟩

end Queue

/-! An owner allows a guest to seek and to clear the queue. -/

def ann : Rooms.Subject := ⟨"ann", .user⟩

def bob : Rooms.Subject := ⟨"bob", .user⟩

def evening : List Event :=
  [.rooms (RoomSteps.draws ["r1", "e1"]) (.createRoom ann ⟨"films", none, 1, none⟩),
    .rooms (RoomSteps.draws ["e2"]) (.joinRoom bob "r1" ""),
    .rooms (RoomSteps.draws []) (.grantPermissions ann "r1" "bob" [1, 5]),
    .deliver "e1" 0,
    .command 0 "r1" "bob" ⟨.seek, some 5000, none, ""⟩ 0 none,
    .advance 0 none 0 0, .advance 0 none 0 0, .advance 0 none 0 0]

def library : Store Media.database
  | .item _ => some ()
  | .queue _ position => if position = 0 then some ⟨"m1", 0⟩ else none

abbrev late : World := Machine.run World.step (World.start {} library) evening

/-- The grant is taken back while the request is on its way. -/
def overtaken : List Event :=
  evening ++ [.edit 0 none bob "r1" (.removeFromQueue 0), .rooms (RoomSteps.draws []) (.grantPermissions ann "r1" "bob" [])]

abbrev revoked : World := Machine.run World.step (World.start {} library) overtaken

theorem bob_clears_by_grant :
    has revoked.rooms "r1" "bob" .removeQueue = .ok false ∧
      ∃ id databaseNow call, Event.finish 0 0 = .finish id databaseNow ∧ revoked.edits id = some call ∧ call.roomID = "r1" ∧
        Permitted (Machine.trace World.step (World.start {} library) overtaken) id call := by
  refine ⟨rfl, queue_edited_by_permitted {} library overtaken (.finish 0 0) "r1" ?_⟩
  have cleared : Media.Tables.queue (revoked.step (.finish 0 0)).media "r1" 0 = none := by decide +kernel
  have listed : Media.Tables.queue revoked.media "r1" 0 = some ⟨"m1", 0⟩ := by decide +kernel
  intro same
  rw [same, listed] at cleared
  cases cleared

end VibeSync.Proofs.Authority
