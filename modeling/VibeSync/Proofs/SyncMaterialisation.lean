import VibeSync.Machine
import VibeSync.Proofs.SyncService
import VibeSync.Registry
import VibeSync.Sync.Process

/-! Materialising a room from requests and from its creation message, in any
interleaving of one process. Every room object is registered, so a second one
for the same room cannot be constructed. -/

namespace VibeSync.Proofs.SyncMaterialisation
open VibeSync.Sync VibeSync.Sync.RoomSync VibeSync.Proofs.SyncSteps Relation

/-! What a room keeps over its own transitions. -/

/-- The room keeps its name, and once it has a host it has one. -/
structure Keeps (before after : RoomSync) : Prop where
  room : after.roomID = before.roomID
  named : after.state.roomID = before.state.roomID
  hosted : before.state.hostID ≠ "" → after.state.hostID ≠ ""

theorem Keeps.refl (rs : RoomSync) : Keeps rs rs := ⟨rfl, rfl, id⟩

theorem Keeps.trans {first middle last : RoomSync} (left : Keeps first middle) (right : Keeps middle last) : Keeps first last :=
  ⟨right.room.trans left.room, right.named.trans left.named, fun hosted => right.hosted (left.hosted hosted)⟩

theorem change_keeps {mine : Nat → Prop} {before after : RoomSync} (change : Change mine before after) : Keeps before after := by
  have named := change.grows.room
  cases change with
  | quiet quiet =>
    refine ⟨quiet.roomID, named, ?_⟩
    rw [quiet.state]
    exact id
  | update state room epoch token host =>
    refine ⟨rfl, named, fun hosted => ?_⟩
    change state.hostID ≠ ""
    rw [host.resolve_right hosted]
    exact hosted
  | migrate successor now elected => exact ⟨rfl, named, fun _ => elected⟩
  | republish frame full => exact ⟨rfl, named, id⟩

theorem changes_keeps {mine : Nat → Prop} {before after : RoomSync} (changes : Changes mine before after) : Keeps before after := by
  induction changes with
  | refl => exact .refl before
  | tail _ change ih => exact ih.trans (change_keeps change)

theorem step_keeps (rs : RoomSync) (event : Event) : Keeps rs (rs.step event) :=
  changes_keeps (step_changes rs event (spares_anywhere event))

theorem adoptOwner_keeps (rs : RoomSync) (ownerID : String) (now : Time) : Keeps rs (rs.adoptOwnerIfUnset ownerID now).2 :=
  changes_keeps (@adoptOwner_changes Anywhere rs ownerID now)

/-- Only `AdoptOwnerIfUnset` touches the owner. -/
def Adopts (event : Event) : Prop := ∃ ownerID, event.action = .adoptOwner ownerID

theorem elects_owner {now : Time} {rs after : RoomSync} (elects : Elects now rs after) :
    after.state.ownerID = rs.state.ownerID := by
  cases elects with
  | keep => rfl
  | migrate successor named new => rfl
  | pause =>
    unfold pauseHostless
    split <;> rfl

theorem step_owner {rs : RoomSync} {event : Event} (other : ¬ Adopts event) :
    (rs.step event).state.ownerID = rs.state.ownerID := by
  obtain ⟨action, nowMs, now⟩ := event
  cases action with
  | command c fencingToken =>
    dsimp only [step, processCommandAuthorized, applyCommandLocked]
    split
    · rfl
    · exact (perform_frame (rs.state.resample nowMs) c).2.2.2.1
  | tick order =>
    have ticks := tick_ticks rs now nowMs order
    change (rs.tick now nowMs order).state.ownerID = _
    generalize rs.tick now nowMs order = after at ticks
    cases ticks with
    | resync controller => rfl
    | elect controller correctionMs elects =>
      rw [elects_owner elects]
      unfold nudge
      split <;> rfl
  | adoptOwner ownerID => exact absurd ⟨ownerID, rfl⟩ other
  | _ => rfl

/-- The owner is known and somebody is host. -/
structure Settled (owner : String) (rs : RoomSync) : Prop where
  owner : rs.state.ownerID = owner
  hosted : rs.state.hostID ≠ ""

theorem adoptOwner_settles {rs : RoomSync} {owner : String} (named : owner ≠ "")
    (free : rs.state.ownerID = "" ∨ rs.state.ownerID = owner) (now : Time) :
    Settled owner (rs.adoptOwnerIfUnset owner now).2 := by
  have owned : (if rs.state.ownerID = "" then owner else rs.state.ownerID) = owner := by
    split
    · rfl
    next known => exact free.resolve_left known
  simp only [adoptOwnerIfUnset, if_neg named]
  split
  next hosted => exact ⟨owned, hosted⟩
  · exact ⟨owned, named⟩

/-! What one step of the process can do. -/

/-- The state in which the event constructs the room. -/
inductive Starts (p : Process) (roomID : String) : Process.Event → SyncState → Prop where
  | create (call : Nat) (failure : Option Err) : Starts p roomID (.create call failure) (p.initial roomID failure)
  | init (ownerID : String) (now : Time) : Starts p roomID (.init roomID ownerID now) (RoomManager.initState roomID ownerID)

/-- What the event does to one room object. -/
inductive Alters (p : Process) (room : Nat) : Process.Event → (RoomSync → RoomSync) → Prop where
  | method (event : Event) : Alters p room (.method room event) fun rs => rs.step event
  | init {roomID : String} (found : p.rooms roomID = some room) (ownerID : String) (now : Time) :
      Alters p room (.init roomID ownerID now) fun rs => (rs.adoptOwnerIfUnset ownerID now).2

inductive Effect (p : Process) (event : Process.Event) : Process → Prop where
  | idle (lookups : Nat → Option Lookup) (saving : Nat → Option SyncState)
      (fewer : ∀ room state, saving room = some state → p.saving room = some state) :
      Effect p event { p with lookups, saving }
  | constructed {roomID : String} {state : SyncState} (missing : p.rooms roomID = none)
      (starts : Starts p roomID event state) (lookups : Nat → Option Lookup) :
      Effect p event { p.construct roomID state with lookups }
  | altered {room : Nat} {change : RoomSync → RoomSync} (alters : Alters p room event change) :
      Effect p event { p with objects := p.objects.modify room change }
  | copied {room : Nat} {rs : RoomSync} (there : p.objects[room]? = some rs) :
      Effect p event { p with saving := Function.update p.saving room (some rs.state) }
  | written {room : Nat} {state : SyncState} (saved : p.saving room = some state) (updatedAt : Time) :
      Effect p event { p with
        table := SyncStateRepo.upsert p.table state updatedAt, saving := Function.update p.saving room none }

theorem step_effect (p : Process) (event : Process.Event) : Effect p event (p.step event) := by
  have cleared : ∀ room other state, Function.update p.saving room none other = some state → p.saving other = some state := by
    intro room other state kept
    rw [Function.update_apply] at kept
    split at kept
    · cases kept
    · exact kept
  cases event with
  | lookup call roomID =>
    simp only [Process.step]
    split <;> exact .idle _ p.saving fun _ _ => id
  | create call failure =>
    simp only [Process.step]
    split
    · unfold Process.create
      split
      · exact .idle _ p.saving fun _ _ => id
      next missing => exact .constructed missing (.create call failure) _
    · exact .idle p.lookups p.saving fun _ _ => id
  | init roomID ownerID now =>
    simp only [Process.step, Process.init]
    split
    next found => exact .altered (.init found ownerID now)
    next missing => exact .constructed missing (.init ownerID now) p.lookups
  | method room inner => exact .altered (.method inner)
  | copyState room =>
    simp only [Process.step]
    split
    next rs there free => exact .copied there
    · exact .idle p.lookups p.saving fun _ _ => id
  | writeState room updatedAt failure =>
    simp only [Process.step, Process.writeState]
    split
    next state saved => exact .written saved updatedAt
    · exact .idle p.lookups _ (cleared room)
    · exact .idle p.lookups p.saving fun _ _ => id

theorem Alters.keeps {p : Process} {room : Nat} {event : Process.Event} {change : RoomSync → RoomSync}
    (alters : Alters p room event change) (rs : RoomSync) : Keeps rs (change rs) := by
  cases alters with
  | method inner => exact step_keeps rs inner
  | init found ownerID now => exact adoptOwner_keeps rs ownerID now

/-! Every object is registered. -/

structure Registered (p : Process) : Prop where
  indexed : Registry.Indexed RoomSync.roomID p.objects p.rooms
  named : ∀ rs ∈ p.objects, rs.state.roomID = rs.roomID
  keyed : ∀ roomID row, p.table roomID = some row → row.roomID = roomID
  saved : ∀ room state, p.saving room = some state → ∃ rs ∈ p.objects, rs.roomID = state.roomID

theorem registered_start (cfg : SyncConfig) {table : Table} (keyed : ∀ roomID row, table roomID = some row → row.roomID = roomID) :
    Registered (Process.start cfg table) := by
  refine ⟨Registry.indexed_nil, fun rs made => ?_, keyed, fun room state saving => ?_⟩
  · cases made
  · cases saving

theorem Registered.missing {p : Process} (registered : Registered p) {roomID : String} (missing : p.rooms roomID = none) :
    ∀ rs ∈ p.objects, rs.roomID ≠ roomID := by
  rintro rs made rfl
  obtain ⟨room, there⟩ := List.mem_iff_getElem?.mp made
  rw [(registered.indexed rs.roomID room).mpr ⟨rs, there, rfl⟩] at missing
  cases missing

theorem Registered.starts {p : Process} (registered : Registered p) {roomID : String} {event : Process.Event} {state : SyncState}
    (starts : Starts p roomID event state) : state.roomID = roomID := by
  cases starts with
  | create call failure =>
    unfold Process.initial
    split
    next row read =>
      cases failure with
      | some err => cases read
      | none =>
        simp only [Process.persisted, SyncStateRepo.get] at read
        split at read
        next found =>
          cases read
          exact registered.keyed roomID row found
        · cases read
    · rfl
  | init ownerID now => rfl

theorem Registered.effect {p after : Process} {event : Process.Event} (registered : Registered p)
    (effect : Effect p event after) : Registered after := by
  cases effect with
  | idle lookups saving fewer =>
    exact ⟨registered.indexed, registered.named, registered.keyed, fun room state kept =>
      registered.saved room state (fewer room state kept)⟩
  | @constructed roomID state missing starts lookups =>
    have indexed := @Registry.Indexed.push _ _ RoomSync.roomID _ _ _ registered.indexed (newRoomSync p.cfg roomID state) missing
    refine ⟨indexed, fun rs made => ?_, registered.keyed, fun room saving saved => ?_⟩
    · rcases List.mem_append.mp made with old | new
      · exact registered.named rs old
      · obtain rfl := List.mem_singleton.mp new
        exact registered.starts starts
    · obtain ⟨rs, made, same⟩ := registered.saved room saving saved
      exact ⟨rs, List.mem_append_left _ made, same⟩
  | @altered room change alters =>
    refine ⟨registered.indexed.modify room fun rs => (alters.keeps rs).room, fun rs made => ?_, registered.keyed,
      fun other state saving => ?_⟩
    · rcases Registry.mem_of_mem_modify made with old | ⟨before, there, rfl⟩
      · exact registered.named rs old
      · have keeps := alters.keeps before
        rw [keeps.named, keeps.room]
        exact registered.named before (List.mem_of_getElem? there)
    · obtain ⟨rs, made, same⟩ := registered.saved other state saving
      rcases Registry.mem_modify_of_mem room change made with kept | changed
      · exact ⟨rs, kept, same⟩
      · exact ⟨change rs, changed, (alters.keeps rs).room.trans same⟩
  | @copied room rs there =>
    have made := List.mem_of_getElem? there
    refine ⟨registered.indexed, registered.named, registered.keyed, fun other state saving => ?_⟩
    simp only [Function.update_apply] at saving
    split at saving
    · cases saving
      exact ⟨rs, made, (registered.named rs made).symm⟩
    · exact registered.saved other state saving
  | @written room state saved updatedAt =>
    refine ⟨registered.indexed, registered.named, fun roomID row found => ?_, fun other kept saving => ?_⟩
    · simp only [SyncStateRepo.upsert, Function.update_apply] at found
      split at found
      next same =>
        cases found
        exact same.symm
      · exact registered.keyed roomID row found
    · simp only [Function.update_apply] at saving
      split at saving
      · cases saving
      · exact registered.saved other kept saving

/-! Towards the manager that takes each call at once. -/

theorem Registered.manager_put {p : Process} (registered : Registered p) {room : Nat} {rs : RoomSync}
    (there : p.objects[room]? = some rs) {change : RoomSync → RoomSync} :
    ({ p with objects := p.objects.modify room change } : Process).manager = p.manager.put rs.roomID (change rs) := by
  have found := (registered.indexed rs.roomID room).mpr ⟨rs, there, rfl⟩
  simp only [Process.manager, RoomManager.put, RoomManager.mk.injEq, true_and]
  funext roomID
  rw [Function.update_apply]
  split
  next here => simp [here, found, there]
  next elsewhere =>
    cases other : p.rooms roomID with
    | none => rfl
    | some place =>
      have apart : room ≠ place := by
        rintro rfl
        obtain ⟨same, present, name⟩ := (registered.indexed roomID room).mp other
        rw [there] at present
        cases present
        exact elsewhere name.symm
      simp [List.getElem?_modify, apart]

theorem Registered.manager_construct {p : Process} (registered : Registered p) (roomID : String) (state : SyncState) :
    (p.construct roomID state).manager = p.manager.put roomID (newRoomSync p.cfg roomID state) := by
  simp only [Process.manager, Process.construct, RoomManager.put, RoomManager.mk.injEq, true_and]
  funext other
  rw [Function.update_apply, Function.update_apply]
  split
  · simp
  · cases found : p.rooms other with
    | none => rfl
    | some place => simp [List.getElem?_append_left (registered.indexed.place_lt found)]

/-- What the event does to the manager when calls are not interrupted. -/
def atomic (p : Process) : Process.Event → RoomManager
  | .create call failure =>
    match p.lookups call with
    | some (.missed roomID) => (p.manager.getOrCreate roomID (p.persisted roomID failure)).2
    | _ => p.manager
  | .init roomID ownerID now => p.manager.init roomID ownerID now
  | .method room event =>
    match p.objects[room]? with
    | some rs => p.manager.put rs.roomID (rs.step event)
    | none => p.manager
  | _ => p.manager

theorem Registered.loaded {p : Process} (registered : Registered p) {roomID : String} {room : Nat} (found : p.rooms roomID = some room) :
    ∃ rs, p.objects[room]? = some rs ∧ rs.roomID = roomID ∧ p.manager.rooms roomID = some rs := by
  obtain ⟨rs, there, name⟩ := (registered.indexed roomID room).mp found
  exact ⟨rs, there, name, by simp [Process.manager, found, there]⟩

theorem manager_missing {p : Process} {roomID : String} (missing : p.rooms roomID = none) : p.manager.rooms roomID = none := by
  simp [Process.manager, missing]

theorem Registered.manager_create {p : Process} (registered : Registered p) (call : Nat) (roomID : String) (failure : Option Err) :
    (p.create call roomID failure).manager = (p.manager.getOrCreate roomID (p.persisted roomID failure)).2 := by
  simp only [Process.create, RoomManager.getOrCreate]
  split
  next room found =>
    obtain ⟨rs, -, -, loaded⟩ := registered.loaded found
    rw [loaded]
    rfl
  next missing =>
    rw [manager_missing missing]
    exact registered.manager_construct roomID (p.initial roomID failure)

theorem Registered.manager_init {p : Process} (registered : Registered p) (roomID ownerID : String) (now : Time) :
    (p.init roomID ownerID now).manager = p.manager.init roomID ownerID now := by
  simp only [Process.init]
  split
  next room found =>
    obtain ⟨rs, there, rfl, loaded⟩ := registered.loaded found
    rw [RoomManager.init, loaded]
    exact registered.manager_put there
  next missing =>
    rw [RoomManager.init, manager_missing missing]
    exact registered.manager_construct roomID (RoomManager.initState roomID ownerID)

/-- The calls are linearised where they hold the write lock. -/
theorem Registered.manager_step {p : Process} (registered : Registered p) (event : Process.Event) :
    (p.step event).manager = atomic p event := by
  cases event with
  | lookup call roomID =>
    simp only [Process.step]
    split <;> rfl
  | create call failure =>
    cases pending : p.lookups call with
    | none => simp only [Process.step, atomic, pending]
    | some lookup =>
      cases lookup with
      | returned room => simp only [Process.step, atomic, pending]
      | missed roomID =>
        simp only [Process.step, atomic, pending]
        exact registered.manager_create call roomID failure
  | init roomID ownerID now => exact registered.manager_init roomID ownerID now
  | method room inner =>
    simp only [Process.step, atomic]
    split
    next rs there => exact registered.manager_put there
    next gone =>
      have same : p.objects.modify room (fun rs => rs.step inner) = p.objects := by
        apply List.modify_eq_self
        exact List.getElem?_eq_none_iff.mp gone
      rw [same]
  | copyState room =>
    simp only [Process.step]
    split <;> rfl
  | writeState room updatedAt failure =>
    simp only [Process.step, Process.writeState]
    split <;> rfl

/-! One room and its owner. -/

/-- The events of the room: every `Init` names the owner, and nothing else does. -/
def Allowed (roomID owner : String) : Process.Event → Prop
  | .init asked ownerID _ => asked = roomID → ownerID = owner
  | .method _ event => ¬ Adopts event
  | _ => True

def Inits (roomID : String) (event : Process.Event) : Prop := ∃ ownerID now, event = .init roomID ownerID now

/-- No row before the room, and no owner but the one. -/
structure Owned (roomID owner : String) (p : Process) : Prop where
  vacant : p.rooms roomID = none → p.table roomID = none
  free : ∀ rs ∈ p.objects, rs.roomID = roomID → rs.state.ownerID = "" ∨ rs.state.ownerID = owner

theorem Owned.starts {p : Process} {roomID owner : String} (owned : Owned roomID owner p) (missing : p.rooms roomID = none)
    {event : Process.Event} {state : SyncState} (starts : Starts p roomID event state) (allowed : Allowed roomID owner event) :
    state.ownerID = "" ∨ state.ownerID = owner := by
  cases starts with
  | create call failure =>
    have unread : p.initial roomID failure = RoomManager.freshState roomID := by
      unfold Process.initial Process.persisted
      cases failure with
      | some err => rfl
      | none => simp only [SyncStateRepo.get, owned.vacant missing]
    rw [unread]
    exact Or.inl rfl
  | init ownerID now => exact Or.inr (allowed rfl)

/-- An allowed event leaves the owner of the room or supplies it. -/
theorem Alters.free {p : Process} {room : Nat} {event : Process.Event} {change : RoomSync → RoomSync}
    (alters : Alters p room event change) (registered : Registered p) {roomID owner : String} (named : owner ≠ "")
    (allowed : Allowed roomID owner event) {rs : RoomSync} (there : p.objects[room]? = some rs) (here : rs.roomID = roomID)
    (free : rs.state.ownerID = "" ∨ rs.state.ownerID = owner) :
    (change rs).state.ownerID = rs.state.ownerID ∨ (change rs).state.ownerID = owner := by
  cases alters with
  | method inner => exact Or.inl (step_owner allowed)
  | @init asked found ownerID now =>
    obtain ⟨same, present, name⟩ := (registered.indexed asked room).mp found
    rw [there] at present
    cases present
    obtain rfl := allowed (name.symm.trans here)
    exact Or.inr (adoptOwner_settles named free now).owner

theorem Owned.effect {p after : Process} {event : Process.Event} {roomID owner : String} (owned : Owned roomID owner p)
    (registered : Registered p) (named : owner ≠ "") (allowed : Allowed roomID owner event) (effect : Effect p event after) :
    Owned roomID owner after := by
  cases effect with
  | idle lookups saving fewer => exact ⟨owned.vacant, owned.free⟩
  | @constructed asked state missing starts lookups =>
    refine ⟨fun still => ?_, fun rs made here => ?_⟩
    · simp only [Process.construct, Function.update_apply] at still
      split at still
      · cases still
      · exact owned.vacant still
    · rcases List.mem_append.mp made with old | new
      · exact owned.free rs old here
      · obtain rfl := List.mem_singleton.mp new
        obtain rfl : asked = roomID := here
        exact owned.starts missing starts allowed
  | @altered room change alters =>
    refine ⟨owned.vacant, fun rs made here => ?_⟩
    rcases Registry.mem_of_mem_modify made with old | ⟨before, there, rfl⟩
    · exact owned.free rs old here
    · have name : before.roomID = roomID := (alters.keeps before).room.symm.trans here
      have free := owned.free before (List.mem_of_getElem? there) name
      rcases alters.free registered named allowed there name free with same | supplied
      · rw [same]
        exact free
      · exact Or.inr supplied
  | copied there => exact ⟨owned.vacant, owned.free⟩
  | @written room state saved updatedAt =>
    refine ⟨fun missing => ?_, owned.free⟩
    obtain ⟨rs, made, same⟩ := registered.saved room state saved
    have other : roomID ≠ state.roomID := by
      rintro rfl
      exact registered.missing missing rs made same
    simp only [SyncStateRepo.upsert, Function.update_of_ne other]
    exact owned.vacant missing

/-- The room is there, with its owner and a host. -/
def Seated (roomID owner : String) (p : Process) : Prop := ∃ rs ∈ p.objects, rs.roomID = roomID ∧ Settled owner rs

theorem seated_of_init {p : Process} {roomID owner : String} (registered : Registered p) (owned : Owned roomID owner p)
    (named : owner ≠ "") (now : Time) : Seated roomID owner (p.init roomID owner now) := by
  unfold Process.init
  split
  next room found =>
    obtain ⟨rs, there, here⟩ := (registered.indexed roomID room).mp found
    exact ⟨(rs.adoptOwnerIfUnset owner now).2, Registry.mem_modify_self there,
      (adoptOwner_keeps rs owner now).room.trans here,
      adoptOwner_settles named (owned.free rs (List.mem_of_getElem? there) here) now⟩
  next missing => exact ⟨_, List.mem_append_right _ (List.mem_singleton_self _), rfl, rfl, named⟩

theorem Seated.effect {p after : Process} {event : Process.Event} {roomID owner : String} (seated : Seated roomID owner p)
    (registered : Registered p) (named : owner ≠ "") (allowed : Allowed roomID owner event) (effect : Effect p event after) :
    Seated roomID owner after := by
  obtain ⟨rs, made, here, settled⟩ := seated
  cases effect with
  | idle lookups saving fewer => exact ⟨rs, made, here, settled⟩
  | constructed missing starts lookups => exact ⟨rs, List.mem_append_left _ made, here, settled⟩
  | @altered room change alters =>
    obtain ⟨place, there⟩ := List.mem_iff_getElem?.mp made
    by_cases same : room = place
    · subst same
      have keeps := alters.keeps rs
      refine ⟨change rs, Registry.mem_modify_self there, keeps.room.trans here, ?_, keeps.hosted settled.hosted⟩
      rcases alters.free registered named allowed there here (Or.inr settled.owner) with kept | supplied
      · exact kept.trans settled.owner
      · exact supplied
    · exact ⟨rs, Registry.mem_modify_other there same, here, settled⟩
  | copied there => exact ⟨rs, made, here, settled⟩
  | written saved updatedAt => exact ⟨rs, made, here, settled⟩

/-! Whole runs. -/

structure Sound (roomID owner : String) (p : Process) : Prop where
  registered : Registered p
  owned : Owned roomID owner p

theorem Sound.step {roomID owner : String} {p : Process} {event : Process.Event} (sound : Sound roomID owner p)
    (named : owner ≠ "") (allowed : Allowed roomID owner event) : Sound roomID owner (p.step event) :=
  ⟨sound.registered.effect (step_effect p event), sound.owned.effect sound.registered named allowed (step_effect p event)⟩

theorem Sound.run {roomID owner : String} {p : Process} {events : List Process.Event} (sound : Sound roomID owner p)
    (named : owner ≠ "") (allowed : ∀ event ∈ events, Allowed roomID owner event) :
    Sound roomID owner (Machine.run Process.step p events) := by
  induction events generalizing p with
  | nil => exact sound
  | cons event rest ih =>
    obtain ⟨here, later⟩ := List.forall_mem_cons.mp allowed
    exact ih (sound.step named here) later

theorem Seated.run {roomID owner : String} {p : Process} {events : List Process.Event} (seated : Seated roomID owner p)
    (sound : Sound roomID owner p) (named : owner ≠ "") (allowed : ∀ event ∈ events, Allowed roomID owner event) :
    Seated roomID owner (Machine.run Process.step p events) := by
  induction events generalizing p with
  | nil => exact seated
  | cons event rest ih =>
    obtain ⟨here, later⟩ := List.forall_mem_cons.mp allowed
    exact ih (seated.effect sound.registered named here (step_effect p event)) (sound.step named here) later

/-- In every interleaving at most one object is made for the room, and from the
first `Init` on it is registered, knows its owner and has a host. -/
theorem materialisation_order_free (cfg : SyncConfig) (table : Table) (roomID owner : String)
    (keyed : ∀ other row, table other = some row → row.roomID = other) (absent : table roomID = none) (named : owner ≠ "")
    (events : List Process.Event) (allowed : ∀ event ∈ events, Allowed roomID owner event) :
    (∀ (first second : Nat) (left right : RoomSync), (Machine.run Process.step (Process.start cfg table) events).objects[first]? = some left →
        (Machine.run Process.step (Process.start cfg table) events).objects[second]? = some right →
          left.roomID = roomID → right.roomID = roomID → first = second) ∧
      ((∃ event ∈ events, Inits roomID event) →
        ∃ room rs, (Machine.run Process.step (Process.start cfg table) events).rooms roomID = some room ∧
          (Machine.run Process.step (Process.start cfg table) events).objects[room]? = some rs ∧ rs.roomID = roomID ∧
            rs.state.ownerID = owner ∧ rs.state.hostID ≠ "") := by
  have start : Sound roomID owner (Process.start cfg table) :=
    ⟨registered_start cfg keyed, fun _ => absent, fun rs made => by cases made⟩
  have sound := start.run named allowed
  constructor
  · intro first second left right leftAt rightAt leftHere rightHere
    exact sound.registered.indexed.unique leftAt rightAt (leftHere.trans rightHere.symm)
  · rintro ⟨event, sent, ownerID, now, rfl⟩
    obtain ⟨before, later, rfl⟩ := List.append_of_mem sent
    obtain rfl : ownerID = owner := allowed _ sent rfl
    have early := start.run named fun event sent => allowed event (List.mem_append_left _ sent)
    have first : Allowed roomID ownerID (.init roomID ownerID now) := fun _ => rfl
    have rest := fun event sent => allowed event (List.mem_append_right _ (List.mem_cons_of_mem _ sent))
    have seated := Seated.run (seated_of_init early.registered early.owned named now) (early.step named first) named rest
    rw [Machine.run_append, Machine.run_cons] at sound ⊢
    obtain ⟨rs, made, here, settled⟩ := seated
    obtain ⟨room, there⟩ := List.mem_iff_getElem?.mp made
    exact ⟨room, rs, (sound.registered.indexed roomID room).mpr ⟨rs, there, here⟩, there, here, settled.owner, settled.hosted⟩

/-- A subscriber asks, the message arrives, and the subscriber's call goes on. -/
theorem racing_subscriber :
    ∃ room rs, (Machine.run Process.step (Process.start {} fun _ => none)
        [.lookup 0 "r1", .init "r1" "alice" 0, .create 0 none]).rooms "r1" = some room ∧
      (Machine.run Process.step (Process.start {} fun _ => none)
        [.lookup 0 "r1", .init "r1" "alice" 0, .create 0 none]).objects[room]? = some rs ∧ rs.roomID = "r1" ∧
          rs.state.ownerID = "alice" ∧ rs.state.hostID ≠ "" :=
  (materialisation_order_free {} (fun _ => none) "r1" "alice" (fun _ _ found => by cases found) rfl (by decide)
    [.lookup 0 "r1", .init "r1" "alice" 0, .create 0 none] (by simp [Allowed])).2
    ⟨.init "r1" "alice" 0, by simp, "alice", 0, rfl⟩

end VibeSync.Proofs.SyncMaterialisation
