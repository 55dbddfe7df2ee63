import VibeSync.Proofs.AuthRoster
import VibeSync.Proofs.KafkaConsumer
import VibeSync.Proofs.OutboxSafety
import VibeSync.Proofs.UserProjection

/-! A new user on the way from the Auth service to the User service: the outbox of
the one, its relays, the topic `user.created.v1` and the consumer of the other.
What the User service keeps is what the Auth service has. -/

namespace VibeSync.Proofs.UserPipeline
open VibeSync.Users Transaction Machine
open VibeSync.Outbox (Relays RelayOptions Message)
open VibeSync.Kafka (Consumer)
open VibeSync.Proofs.AuthRoster VibeSync.Proofs.OutboxSafety VibeSync.Proofs.UserProjection
open VibeSync.Proofs.AuthUsernames (isNameChar)
open VibeSync.Proofs.KafkaConsumer (errorOf)

section Pipelines
variable [Collation]

structure Setup where
  text : Text
  opts : RelayOptions
  /-- The partition of a message, by its key. -/
  partition : String → Nat

structure Pipeline where
  auth : Store Auth.database
  relays : Relays
  consumer : Consumer
  users : Store database

inductive Event where
  | request (request : AuthIdentity.Event)
  | relay (action : Relays.Action)
  | consume (event : Consumer.Event)
  /-- The inner handler runs. -/
  | handle (now : Time) (failure : Option Err)
  | update (now : Time) (subject : Rooms.Subject) (req : UpdateUserRequest)

namespace Pipeline

def start : Pipeline := ⟨fun _ => none, .start, .start, fun _ => none⟩

/-- The event that a request put into the outbox. -/
def staged (before after : Store Auth.database) (request : AuthIdentity.Event) : List Outbox.Event :=
  match env? request with
  | none => []
  | some env =>
    if (Auth.Tables.outbox before (env.idgen 1)).isSome then []
    else ((Auth.Tables.outbox after (env.idgen 1)).map Outbox.Row.event).toList

/-- The messages of one partition of the topic, in the order of their acknowledgement. -/
def entries (setup : Setup) (relays : Relays) (partition : Nat) : List Message :=
  (relays.acknowledged.map Prod.snd).filter fun msg => msg.topic = Auth.userCreated ∧ setup.partition msg.key = partition

def record (partition offset : Nat) (msg : Message) : Kafka.Message :=
  ⟨msg.topic, partition, offset, msg.key, fun name => msg.headers.lookup name⟩

def log (setup : Setup) (relays : Relays) : Kafka.Log := fun partition => (entries setup relays partition).mapIdx (record partition)

def request (setup : Setup) (p : Pipeline) (request : AuthIdentity.Event) : Pipeline :=
  let auth := AuthIdentity.step p.auth request
  { p with auth, relays := p.relays.step setup.opts (.stage (staged p.auth auth request)) }

def handle (setup : Setup) (p : Pipeline) (now : Time) (failure : Option Err) (value : JsonObject) : Pipeline :=
  let (result, users) := handleMessage setup.text now failure value p.users
  { p with users, consumer := p.consumer.step (log setup p.relays) (.handle (errorOf result)) }

/-- Only requests stage events, and only the handler says what it came to. -/
def step (setup : Setup) (p : Pipeline) : Event → Pipeline
  | .request request => p.request setup request
  | .relay (.stage _) => p
  | .relay action => { p with relays := p.relays.step setup.opts action }
  | .consume (.handle _) => p
  | .consume event => { p with consumer := p.consumer.step (log setup p.relays) event }
  | .handle now failure => match p.consumer.phase with
    | .calling partition offset => match (entries setup p.relays partition)[offset]? with
      | some msg => p.handle setup now failure msg.value
      | none => p
    | _ => p
  | .update now subject req => { p with users := (updateUser now subject req p.users).2 }

end Pipeline

open Pipeline (start staged entries record log)

/-! What the event says. -/

structure Tells (e : Outbox.Event) (user : Auth.User) : Prop where
  topic : e.topic = Auth.userCreated
  key : e.key = user.id
  aggregate : e.aggregateID = user.id
  headers : e.headers = []
  payload : ∃ provider createdAt, UserCreatedV1.decode e.payload = some ⟨user.id, user.email, user.username, provider, createdAt⟩

omit [Collation] in
theorem createdEvent_tells (env : Auth.SignUpEnv) (id provider : String) (user : Auth.User) :
    Tells (Auth.createdEvent env id provider user).row.event.row.event user := by
  refine ⟨rfl, ?_, rfl, rfl, provider, env.rfc3339 env.startedAt, rfl⟩
  by_cases anonymous : user.id = "" <;> simp [Outbox.Event.row, Auth.createdEvent, anonymous]

omit [Collation] in
theorem Tells.message_key {e : Outbox.Event} {user : Auth.User} (tells : Tells e user) (now : Time) :
    (e.message now).key = user.id := by
  simp only [Outbox.Event.message, tells.key, tells.aggregate, ite_self]

omit [Collation] in
/-- The header of the message names its event. -/
theorem Tells.eventID {e : Outbox.Event} {user : Auth.User} (tells : Tells e user) (named : e.id ≠ "") (now : Time)
    (partition offset : Nat) : Kafka.eventID (record partition offset (e.message now)) = e.id := by
  have header : (record partition offset (e.message now)).header Kafka.headerEventID = e.id := by
    simp only [Kafka.Message.header, record, Outbox.Event.message, Outbox.eventHeaders, tells.headers]
    rfl
  rw [Kafka.eventID, header, if_pos named]

/-! The road as far as the topic. -/

/-- The outbox tells of every user and of no one else, and the topic holds what the outbox told. -/
structure Source (lower : Char → Char) (auth : Store Auth.database) (relays : Relays) : Prop where
  indexed : Indexed lower auth
  consistent : Consistent relays
  telling : ∀ e ∈ events relays.table, ∃ user, Auth.Tables.user auth user.id = some user ∧ Tells e user
  told : ∀ id user, Auth.Tables.user auth id = some user → ∃ e ∈ events relays.table, Tells e user
  used : ∀ e ∈ events relays.table, (Auth.Tables.outbox auth e.id).isSome
  acknowledged : ∀ sent ∈ relays.acknowledged, sent.1 ∈ events relays.table ∧ ∃ now, sent.2 = sent.1.message now

theorem source_start (lower : Char → Char) : Source lower start.auth start.relays where
  indexed := Indexed.empty fun _ => rfl
  consistent := consistent_start
  telling _ impossible := nomatch impossible
  told _ _ impossible := nomatch impossible
  used _ impossible := nomatch impossible
  acknowledged _ impossible := nomatch impossible

section Source
variable {lower : Char → Char} {auth after : Store Auth.database} {relays : Relays} (source : Source lower auth relays)

theorem staged_same {request : AuthIdentity.Event} (same : ∀ key, Roll key → after key = auth key) : staged auth after request = [] := by
  unfold staged
  split
  · rfl
  next env _ =>
    have row : Auth.Tables.outbox after (env.idgen 1) = Auth.Tables.outbox auth (env.idgen 1) := same (.outbox _) trivial
    rw [row]
    cases Auth.Tables.outbox auth (env.idgen 1) <;> rfl

theorem staged_enrols {request : AuthIdentity.Event} {env : Auth.SignUpEnv} {provider : String} {user : Auth.User}
    (creates : env? request = some env) (enrols : Enrols env provider user auth after) :
    staged auth after request = [(Auth.createdEvent env (env.idgen 1) provider user).row.event] := by
  have row : Auth.Tables.outbox after (env.idgen 1) = some (Auth.createdEvent env (env.idgen 1) provider user).row :=
    (enrols.rows (.outbox _) trivial).trans ((enrolled_outbox ..).trans (if_pos rfl))
  simp [staged, creates, enrols.unused, row]

omit [Collation] in
theorem stage_nothing (opts : RelayOptions) (relays : Relays) : relays.step opts (.stage []) = relays := rfl

omit [Collation] in
/-- A new id is appended. -/
theorem stage_new (opts : RelayOptions) {e : Outbox.Event} (topic : e.topic ≠ "") (new : ∀ old ∈ events relays.table, old.id ≠ e.id) :
    relays.step opts (.stage [e]) = { relays with table := relays.table ++ [e.row] } := by
  have absent : ¬ (relays.table.any fun row => row.event.id = e.id) = true := by
    simp only [List.any_eq_true, decide_eq_true_iff, not_exists, not_and]
    exact fun row member => new row.event (List.mem_map_of_mem member)
  simp only [Relays.step, Outbox.append, Outbox.appendFrom, if_neg topic, if_neg absent]

include source

theorem Source.of_roll (same : ∀ key, Roll key → after key = auth key) : Source lower after relays := by
  have users : ∀ id, Auth.Tables.user after id = Auth.Tables.user auth id := fun id => same (.user id) trivial
  have outbox : ∀ id, Auth.Tables.outbox after id = Auth.Tables.outbox auth id := fun id => same (.outbox id) trivial
  refine ⟨source.indexed.of_roll same, source.consistent, ?_, ?_, ?_, source.acknowledged⟩
  · intro e member
    obtain ⟨user, found, tells⟩ := source.telling e member
    exact ⟨user, (users user.id).trans found, tells⟩
  · exact fun id user found => source.told id user ((users id).symm.trans found)
  · intro e member
    rw [outbox]
    exact source.used e member

/-- The event of a new user joins the table. -/
theorem Source.stage (opts : RelayOptions) {env : Auth.SignUpEnv} {provider : String} {user : Auth.User}
    (enrols : Enrols env provider user auth after) :
    relays.step opts (.stage [(Auth.createdEvent env (env.idgen 1) provider user).row.event]) =
      { relays with table := relays.table ++ [(Auth.createdEvent env (env.idgen 1) provider user).row.event.row] } := by
  refine stage_new opts (by decide : Auth.userCreated ≠ "") fun old member here => ?_
  have used := source.used old member
  rw [show old.id = env.idgen 1 from here, enrols.unused] at used
  cases used

theorem Source.enrol (opts : RelayOptions) {env : Auth.SignUpEnv} {provider : String} {user : Auth.User} (same : env.lower = lower)
    (enrols : Enrols env provider user auth after) :
    Source lower after (relays.step opts (.stage [(Auth.createdEvent env (env.idgen 1) provider user).row.event])) := by
  have moved := step_moves opts relays (.stage [(Auth.createdEvent env (env.idgen 1) provider user).row.event])
  have consistent := moved.consistent source.consistent
  rw [source.stage opts enrols] at consistent ⊢
  have kept : ∀ id old, Auth.Tables.user auth id = some old → Auth.Tables.user after id = some old := by
    intro id old found
    rw [show Auth.Tables.user after id = _ from (enrols.rows (.user id) trivial).trans (enrolled_user ..),
      if_neg (fun here => by rw [here, enrols.absent] at found; cases found), found]
  have added : Auth.Tables.user after user.id = some user :=
    (enrols.rows (.user _) trivial).trans ((enrolled_user ..).trans (if_pos rfl))
  have outbox : ∀ id, Auth.Tables.outbox after id = _ := fun id => (enrols.rows (.outbox id) trivial).trans (enrolled_outbox ..)
  have table : ∀ rows, events (relays.table ++ rows) = events relays.table ++ events rows := fun rows => List.map_append ..
  have tells := createdEvent_tells env (env.idgen 1) provider user
  refine ⟨source.indexed.enrol same enrols, consistent, ?_, ?_, ?_, ?_⟩
  · intro e member
    rw [table] at member
    rcases List.mem_append.mp member with old | new
    · obtain ⟨other, found, tells⟩ := source.telling e old
      exact ⟨other, kept _ _ found, tells⟩
    · rw [List.mem_singleton.mp new]
      exact ⟨user, added, tells⟩
  · intro id other found
    rw [show Auth.Tables.user after id = _ from (enrols.rows (.user id) trivial).trans (enrolled_user ..)] at found
    simp only [table]
    split at found
    · obtain rfl := Option.some.inj found
      exact ⟨_, List.mem_append_right _ (List.mem_singleton_self _), tells⟩
    · obtain ⟨e, member, tells⟩ := source.told id other found
      exact ⟨e, List.mem_append_left _ member, tells⟩
  · intro e member
    rw [outbox]
    split
    · rfl
    next elsewhere =>
      rw [table] at member
      rcases List.mem_append.mp member with old | new
      · exact source.used e old
      · rw [List.mem_singleton.mp new] at elsewhere
        exact absurd rfl elsewhere
  · intro sent member
    obtain ⟨there, message⟩ := source.acknowledged sent member
    exact ⟨by rw [table]; exact List.mem_append_left _ there, message⟩

theorem Source.request (opts : RelayOptions) {request : AuthIdentity.Event} (alike : ∀ env, env? request = some env → env.lower = lower) :
    Source lower (AuthIdentity.step auth request)
      (relays.step opts (.stage (staged auth (AuthIdentity.step auth request) request))) := by
  cases step_moves auth request with
  | same same =>
    rw [staged_same same, stage_nothing]
    exact source.of_roll same
  | enrols creates enrols =>
    rw [staged_enrols creates enrols]
    exact source.enrol opts (alike _ creates) enrols

end Source

omit [Collation] in
/-- A relay adds no event, and sends only what the outbox holds. -/
theorem relay_sends {opts : RelayOptions} {before after : Relays} {action : Relays.Action}
    (moves : OutboxSafety.Moves opts before action after) (consistent : Consistent before) (acts : ∀ staged, action ≠ .stage staged) :
    events after.table = events before.table ∧
      ∀ sent ∈ after.acknowledged, sent ∈ before.acknowledged ∨ sent.1 ∈ events before.table ∧ ∃ now, sent.2 = sent.1.message now := by
  cases moves with
  | staged by_ => exact absurd by_ (acts _)
  | @published r drain e rest now _ publishing next =>
    refine ⟨rfl, fun sent member => ?_⟩
    rcases List.mem_append.mp member with old | new
    · exact Or.inl old
    · rw [List.mem_singleton.mp new]
      refine Or.inr ⟨(consistent.relays r).rest drain ?_ e ?_, now, rfl⟩
      · rw [publishing]
        rfl
      · rw [next]
        exact List.mem_cons_self
  | committed => exact ⟨events_marks .., fun _ member => Or.inl member⟩
  | locked | turned | left | fetched | marked => exact ⟨rfl, fun _ member => Or.inl member⟩

theorem Source.relay {lower : Char → Char} {auth : Store Auth.database} {relays : Relays} (source : Source lower auth relays)
    (opts : RelayOptions) {action : Relays.Action} (acts : ∀ staged, action ≠ .stage staged) :
    Source lower auth (relays.step opts action) := by
  have moves := OutboxSafety.step_moves opts relays action
  obtain ⟨table, sends⟩ := relay_sends moves source.consistent acts
  refine ⟨source.indexed, moves.consistent source.consistent, ?_, ?_, ?_, ?_⟩
  · rw [table]
    exact source.telling
  · rw [table]
    exact source.told
  · rw [table]
    exact source.used
  · rw [table]
    exact fun sent member => (sends sent member).elim (source.acknowledged sent) id

/-- A message of the topic tells of a user. -/
theorem Source.message {lower : Char → Char} {auth : Store Auth.database} {relays : Relays} (source : Source lower auth relays)
    {setup : Setup} {partition offset : Nat} {msg : Message} (found : (entries setup relays partition)[offset]? = some msg) :
    ∃ e ∈ events relays.table, ∃ user now, msg = e.message now ∧ Tells e user ∧ Auth.Tables.user auth user.id = some user := by
  obtain ⟨sent, member, rfl⟩ := List.mem_map.mp (List.mem_of_mem_filter (List.mem_of_getElem? found))
  obtain ⟨there, now, message⟩ := source.acknowledged sent member
  obtain ⟨user, known, tells⟩ := source.telling sent.1 there
  exact ⟨sent.1, there, user, now, message, tells, known⟩

/-! What the projection keeps of the users. -/

/-- Every row is of a user, and the unique columns lead to rows that have them. -/
structure Mirrored (auth : Store Auth.database) (users : Store database) : Prop where
  rows : ∀ id row, Tables.user users id = some row → ∃ user, Auth.Tables.user auth id = some user ∧
    row.id = id ∧ row.email = user.email ∧ row.username = user.username ∧ row.displayName.length ≤ 100
  email : ∀ address id, users (.email address) = some id →
    ∃ row, Tables.user users id = some row ∧ address = citext row.email
  username : ∀ value id, users (.username value) = some id → ∃ row, Tables.user users id = some row ∧ value = row.username

theorem mirrored_start : Mirrored start.auth start.users where
  rows _ _ impossible := nomatch impossible
  email _ _ impossible := nomatch impossible
  username _ _ impossible := nomatch impossible

/-- What Go's lower-casing does. -/
structure Lowers (lower : Char → Char) : Prop where
  again : ∀ c, lower (lower c) = lower c
  spaces : ∀ c, isSpace (lower c) = isSpace c
  names : ∀ c, isNameChar c = true → lower c = c

section Text
variable {lower : Char → Char} (lowers : Lowers lower)
include lowers

omit [Collation] in
theorem email_again {user : Auth.User} (normal : Normal lower user) : toLower lower (trimSpace user.email) = user.email := by
  obtain ⟨typed, same⟩ := normal.typed
  have again : toLower lower (toLower lower typed) = toLower lower typed := by
    simp only [toLower, String.toList_ofList, List.map_map]
    exact congrArg String.ofList (List.map_congr_left fun c _ => lowers.again c)
  rw [same, trimSpace_trimSpace, ← trimSpace_toLower lowers.spaces, again]

end Text

omit [Collation] in
theorem username_shape {user : Auth.User} {lower : Char → Char} (normal : Normal lower user) :
    (∀ c ∈ user.username.toList, isNameChar c = true) ∧ user.username.length ≤ 32 := by
  have name := normal.name
  unfold Auth.usernameRe at name
  rw [← String.length_toList]
  split at name
  · cases name
  next first rest shape =>
    rw [shape]
    simp only [Bool.and_eq_true, decide_eq_true_eq, List.all_eq_true] at name
    obtain ⟨⟨⟨letter, plain⟩, _⟩, short⟩ := name
    refine ⟨List.forall_mem_cons.mpr ⟨by simp [isNameChar, letter], ?_⟩, Nat.succ_le_succ short⟩
    intro c member
    simpa [isNameChar] using plain c member

omit [Collation] in
theorem username_again {lower : Char → Char} (lowers : Lowers lower) {user : Auth.User} (normal : Normal lower user) :
    toLower lower (trimSpace user.username) = user.username := by
  have plain := (username_shape normal).1
  have kept := AuthUsernames.stored_unchanged lowers.names plain
  rw [String.ofList_toList] at kept
  rwa [← trimSpace_toLower lowers.spaces]

theorem upsert_succeeds {users : Store database} {given : User} (admits : Admits users given) :
    (Repo.upsert given).withTx users = (.ok (), users.write (projected users given)) := by
  have executed : (Repo.upsert given).exec users = (.ok (), users.write (projected users given)) :=
    (@Program.exec_query database _ _ (.userUpsert given) _ _ _ _ _ (upsertUser_admitted admits) :)
  exact Program.withTx_of_ok executed

theorem user_putUser (users : Store database) (new : User) (id : String) :
    Tables.user (users.write (Tables.putUser new)) id = if id = new.id then some new else Tables.user users id := by
  simp only [Tables.user, Store.write, Tables.putUser]
  split <;> rfl

theorem user_setUser (users : Store database) (new : User) (id : String) :
    Tables.user (users.write (Tables.setUser new)) id = if id = new.id then some new else Tables.user users id := by
  simp only [Tables.user, Store.write, Tables.setUser]
  split <;> rfl

/-- No row goes. -/
def Keeps (before after : Store database) : Prop := ∀ id, (Tables.user before id).isSome → (Tables.user after id).isSome

theorem Keeps.refl (users : Store database) : Keeps users users := fun _ there => there

theorem keeps_of_write {before after : Store database} {new : User}
    (rows : ∀ id, Tables.user after id = if id = new.id then some new else Tables.user before id) : Keeps before after := by
  intro id there
  rw [rows]
  split
  · rfl
  · exact there

namespace Mirrored
variable {auth : Store Auth.database} {users : Store database} (mirrored : Mirrored auth users)
include mirrored

theorem grow {after : Store Auth.database}
    (kept : ∀ id user, Auth.Tables.user auth id = some user → Auth.Tables.user after id = some user) : Mirrored after users := by
  refine ⟨?_, mirrored.email, mirrored.username⟩
  intro id row found
  obtain ⟨user, known, same⟩ := mirrored.rows id row found
  exact ⟨user, kept id user known, same⟩

/-- A write to the row of one user that leaves their columns as they are. -/
theorem write {after : Store database} {new : User} {user : Auth.User} (known : Auth.Tables.user auth new.id = some user)
    (same : new.email = user.email ∧ new.username = user.username) (narrow : new.displayName.length ≤ 100)
    (rows : ∀ id, Tables.user after id = if id = new.id then some new else Tables.user users id)
    (emails : ∀ address id, after (.email address) = some id →
      users (.email address) = some id ∨ id = new.id ∧ address = citext new.email)
    (usernames : ∀ value id, after (.username value) = some id →
      users (.username value) = some id ∨ id = new.id ∧ value = new.username) : Mirrored auth after := by
  have own : ∀ old, Tables.user users new.id = some old → old.email = new.email ∧ old.username = new.username := by
    intro old found
    obtain ⟨user', there, _, address, name, _⟩ := mirrored.rows new.id old found
    cases known.symm.trans there
    exact ⟨address.trans same.1.symm, name.trans same.2.symm⟩
  -- a key that led to a row still finds the column it stands for
  have column : ∀ id row, Tables.user users id = some row →
      ∃ row', Tables.user after id = some row' ∧ row'.email = row.email ∧ row'.username = row.username := by
    intro id row found
    rw [rows]
    split
    next here =>
      obtain ⟨address, name⟩ := own row (here ▸ found)
      exact ⟨new, rfl, address.symm, name.symm⟩
    · exact ⟨row, found, rfl, rfl⟩
  refine ⟨?_, ?_, ?_⟩
  · intro id row found
    rw [rows] at found
    split at found
    next here =>
      obtain rfl := Option.some.inj found
      exact ⟨user, here ▸ known, here.symm, same.1, same.2, narrow⟩
    · exact mirrored.rows id row found
  · intro address id leads
    rcases emails address id leads with old | ⟨rfl, here⟩
    · obtain ⟨row, found, is⟩ := mirrored.email address id old
      obtain ⟨row', there, email, _⟩ := column id row found
      exact ⟨row', there, by rw [is, email]⟩
    · exact ⟨new, (rows _).trans (if_pos rfl), here⟩
  · intro value id leads
    rcases usernames value id leads with old | ⟨rfl, here⟩
    · obtain ⟨row, found, is⟩ := mirrored.username value id old
      obtain ⟨row', there, _, username⟩ := column id row found
      exact ⟨row', there, by rw [is, username]⟩
    · exact ⟨new, (rows _).trans (if_pos rfl), here⟩

/-- The row of a user is put, or put again. -/
theorem put {new : User} {user : Auth.User} (known : Auth.Tables.user auth new.id = some user)
    (same : new.email = user.email ∧ new.username = user.username) (narrow : new.displayName.length ≤ 100) :
    Mirrored auth (users.write (Tables.putUser new)) := by
  refine mirrored.write known same narrow (user_putUser users new) ?_ ?_
  · intro address id leads
    simp only [Store.write, Tables.putUser] at leads
    split at leads
    next here => exact Or.inr ⟨(Option.some.inj leads).symm, here⟩
    · exact Or.inl leads
  · intro value id leads
    simp only [Store.write, Tables.putUser] at leads
    split at leads
    next here => exact Or.inr ⟨(Option.some.inj leads).symm, here⟩
    · exact Or.inl leads

/-- No unique column stands in the way of a user. -/
theorem admits {lower : Char → Char} (indexed : Indexed lower auth) {given : User} {user : Auth.User}
    (known : Auth.Tables.user auth given.id = some user) (email : given.email = user.email) (username : given.username = user.username)
    (width : given.id.length ≤ 26) (short : given.username.length ≤ 32) (narrow : given.displayName.length ≤ 100) : Admits users given := by
  refine ⟨width, short, narrow, ?_, ?_⟩
  · unfold Tables.taken
    split
    next other leads =>
      obtain ⟨row, found, same⟩ := mirrored.email _ _ leads
      obtain ⟨another, there, _, address, _⟩ := mirrored.rows other row found
      have alike : citext another.email = citext user.email := by rw [← address, ← same, email]
      simpa using indexed.same_user there known (Or.inl alike)
    · rfl
  · unfold Tables.taken
    split
    next other leads =>
      obtain ⟨row, found, same⟩ := mirrored.username _ _ leads
      obtain ⟨another, there, _, _, name, _⟩ := mirrored.rows other row found
      have alike : another.username = user.username := by rw [← name, ← same, username]
      simpa using indexed.same_user there known (Or.inr alike)
    · rfl

/-- An upsert of a user's own columns puts their row. -/
theorem projected_eq {given : User} {user : Auth.User} (known : Auth.Tables.user auth given.id = some user)
    (email : given.email = user.email) (username : given.username = user.username) :
    ∃ new, projected users given = Tables.putUser new ∧ new.id = given.id ∧ new.email = given.email ∧ new.username = given.username ∧
      (given.displayName.length ≤ 100 → new.displayName.length ≤ 100) := by
  unfold projected
  split
  next old found =>
    obtain ⟨same, there, own, address, name, narrow⟩ := mirrored.rows given.id old found
    cases known.symm.trans there
    refine ⟨Tables.refresh old given, ?_, own, rfl, rfl, fun _ => narrow⟩
    funext key
    cases key with
    | user id => rfl
    | email other =>
      have kept : (Tables.refresh old given).email = old.email := email.trans address.symm
      simp only [Tables.replaceUser, Tables.putUser, kept]
      split <;> rfl
    | username other =>
      have kept : (Tables.refresh old given).username = old.username := username.trans name.symm
      simp only [Tables.replaceUser, Tables.putUser, kept]
      split <;> rfl
  · exact ⟨Tables.stored given, rfl, rfl, rfl, rfl, id⟩

end Mirrored

/-- What handling the message of a user comes to. -/
structure Lands (auth : Store Auth.database) (before : Store database) (user : Auth.User) (outcome : Except Err Unit × Store database) :
    Prop where
  succeeds : outcome.1 = .ok ()
  mirrored : Mirrored auth outcome.2
  keeps : Keeps before outcome.2
  arrives : user.id ≠ "" → (Tables.user outcome.2 user.id).isSome

theorem Mirrored.handle {setup : Setup} (lowers : Lowers setup.text.lower) {auth : Store Auth.database} {users : Store database}
    (mirrored : Mirrored auth users) (indexed : Indexed setup.text.lower auth) {e : Outbox.Event} {user : Auth.User} (tells : Tells e user)
    (known : Auth.Tables.user auth user.id = some user) (now : Time) :
    Lands auth users user (handleMessage setup.text now none e.payload users) := by
  obtain ⟨provider, createdAt, decoded⟩ := tells.payload
  have normal := indexed.normal user.id user known
  simp only [handleMessage, decoded, Option.elim_some]
  by_cases valid : Valid ⟨user.id, user.email, user.username, provider, createdAt⟩
  · have address := email_again lowers normal
    have name := username_again lowers normal
    have short := (username_shape normal).2
    simp only [Users.handle, project_valid valid]
    generalize parseRFC3339 setup.text createdAt now = created
    obtain ⟨given, profiled, id, email, username, shown⟩ : ∃ given,
        profile setup.text ⟨user.id, user.email, user.username, provider, createdAt⟩ created = given ∧ given.id = user.id ∧
          given.email = user.email ∧ given.username = user.username ∧ given.displayName = user.username :=
      ⟨_, rfl, rfl, address, name, name⟩
    rw [← username] at short
    have narrow : given.displayName.length ≤ 100 := by rw [shown, ← username]; exact short.trans (by decide)
    rw [← id] at known
    obtain ⟨new, same, own, address', name', kept⟩ := mirrored.projected_eq known email username
    rw [profiled, upsert_succeeds (mirrored.admits indexed known email username (id ▸ normal.width) short narrow), same]
    rw [← own] at known
    refine ⟨rfl, mirrored.put known ⟨address'.trans email, name'.trans username⟩ (kept narrow),
      keeps_of_write (user_putUser users new), fun _ => ?_⟩
    rw [user_putUser, if_pos (own.trans id).symm]
    rfl
  · have anonymous : user.id = "" := by
      by_contra named
      refine valid ⟨named, fun blank => ?_, fun blank => ?_⟩
      · have address := normal.address
        rw [show user.email = "" from blank] at address
        exact absurd address (by decide)
      · have name := normal.name
        rw [show user.username = "" from blank] at name
        exact absurd name (by decide)
    simp only [Users.handle, project_invalid valid]
    exact ⟨rfl, mirrored, Keeps.refl users, fun named => absurd anonymous named⟩

/-- Of the columns that the event gives, an update changes none. -/
theorem Mirrored.update {auth : Store Auth.database} {users : Store database} (mirrored : Mirrored auth users) (now : Time)
    (subject : Rooms.Subject) (req : UpdateUserRequest) :
    Mirrored auth (updateUser now subject req users).2 ∧ Keeps users (updateUser now subject req users).2 := by
  by_cases named : req.id = ""
  · rw [updateUser, if_pos named]
    exact ⟨mirrored, Keeps.refl users⟩
  cases found : Tables.user users req.id with
  | none =>
    rw [updateUser_absent named found]
    exact ⟨mirrored, Keeps.refl users⟩
  | some row =>
    obtain ⟨user, known, own, address, name, narrow⟩ := mirrored.rows req.id row found
    rw [updateUser_store named found own narrow now subject]
    split
    next takes =>
      have fits := (applyUpdate_fits narrow now req.displayName req.avatarURL).mpr takes.2
      rw [← own] at known
      generalize edited : Tables.overwrite row (row.applyUpdate now req.displayName req.avatarURL) = new
      have narrow : new.displayName.length ≤ 100 := by rw [← edited]; exact fits
      have columns : new.id = row.id ∧ new.email = row.email ∧ new.username = row.username := by rw [← edited]; exact ⟨rfl, rfl, rfl⟩
      rw [← columns.1] at known
      exact ⟨mirrored.write known ⟨columns.2.1.trans address, columns.2.2.trans name⟩ narrow (user_setUser users new)
        (fun _ _ => Or.inl) (fun _ _ => Or.inl), keeps_of_write (user_setUser users new)⟩
    · exact ⟨mirrored, Keeps.refl users⟩

/-! Runs of the whole road. -/

/-- The services lower-case alike. -/
def Alike (lower : Char → Char) : Event → Prop
  | .request request => ∀ env, env? request = some env → env.lower = lower
  | _ => True

theorem relay_cases (setup : Setup) (p : Pipeline) (action : Relays.Action) : p.step setup (.relay action) = p ∨
    (∀ staged, action ≠ .stage staged) ∧ p.step setup (.relay action) = { p with relays := p.relays.step setup.opts action } := by
  cases action <;> first | exact Or.inl rfl | exact Or.inr ⟨fun _ => Relays.Action.noConfusion, rfl⟩

theorem consume_cases (setup : Setup) (p : Pipeline) (event : Consumer.Event) : p.step setup (.consume event) = p ∨
    (∀ err, event ≠ .handle err) ∧
      p.step setup (.consume event) = { p with consumer := p.consumer.step (log setup p.relays) event } := by
  cases event <;> first | exact Or.inl rfl | exact Or.inr ⟨fun _ => Consumer.Event.noConfusion, rfl⟩

structure Sound (setup : Setup) (p : Pipeline) : Prop where
  source : Source setup.text.lower p.auth p.relays
  mirrored : Mirrored p.auth p.users

theorem sound_start (setup : Setup) : Sound setup start := ⟨source_start setup.text.lower, mirrored_start⟩

namespace Sound
variable {setup : Setup} {p : Pipeline} (sound : Sound setup p)
include sound

/-- The message of a partition, handled. -/
theorem lands (lowers : Lowers setup.text.lower) {partition offset : Nat} {msg : Message}
    (found : (entries setup p.relays partition)[offset]? = some msg) (now : Time) :
    ∃ e ∈ events p.relays.table, ∃ user, Tells e user ∧ msg.key = user.id ∧
      Lands p.auth p.users user (handleMessage setup.text now none msg.value p.users) := by
  obtain ⟨e, member, user, sent, rfl, tells, known⟩ := sound.source.message found
  exact ⟨e, member, user, tells, tells.message_key sent, sound.mirrored.handle lowers sound.source.indexed tells known now⟩

theorem handle (lowers : Lowers setup.text.lower) {partition offset : Nat} {msg : Message}
    (found : (entries setup p.relays partition)[offset]? = some msg) (now : Time) (failure : Option Err) :
    Sound setup (p.handle setup now failure msg.value) := by
  refine ⟨sound.source, ?_⟩
  cases failure with
  | none =>
    obtain ⟨_, _, _, _, _, lands⟩ := sound.lands lowers found now
    exact lands.mirrored
  | some err =>
    simp only [Pipeline.handle, handleMessage]
    split <;> exact sound.mirrored

theorem step (lowers : Lowers setup.text.lower) {event : Event} (alike : Alike setup.text.lower event) :
    Sound setup (p.step setup event) := by
  cases event with
  | request request =>
    exact ⟨sound.source.request setup.opts alike, sound.mirrored.grow fun _ _ found => step_keeps request found⟩
  | relay action =>
    rcases relay_cases setup p action with stays | ⟨acts, moves⟩
    · rwa [stays]
    · rw [moves]
      exact ⟨sound.source.relay setup.opts acts, sound.mirrored⟩
  | consume event =>
    rcases consume_cases setup p event with stays | ⟨_, moves⟩
    · rwa [stays]
    · rw [moves]
      exact ⟨sound.source, sound.mirrored⟩
  | handle now failure =>
    simp only [Pipeline.step]
    split
    · split
      next msg found => exact sound.handle lowers found now failure
      · exact sound
    · exact sound
  | update now subject req => exact ⟨sound.source, (sound.mirrored.update now subject req).1⟩

end Sound

theorem run_sound {setup : Setup} (lowers : Lowers setup.text.lower) {history : List Event}
    (alike : ∀ event ∈ history, Alike setup.text.lower event) : Sound setup (run (Pipeline.step setup) start history) :=
  run_of_guarded (Sound setup) (fun _ event => Alike setup.text.lower event) (fun _ _ sound alike => sound.step lowers alike)
    (sound_start setup) fun visit visited => alike visit.2 (trace_event visited)

/-- Whatever the relays, the topic, the consumer and the callers do, the User service
has only users of the Auth service, under the address and the name they have there. -/
theorem users_mirrored {setup : Setup} (lowers : Lowers setup.text.lower) {history : List Event}
    (alike : ∀ event ∈ history, Alike setup.text.lower event) {id : String} {row : User}
    (found : Tables.user (run (Pipeline.step setup) start history).users id = some row) :
    ∃ user, Auth.Tables.user (run (Pipeline.step setup) start history).auth id = some user ∧
      row.id = id ∧ row.email = user.email ∧ row.username = user.username := by
  obtain ⟨user, known, own, email, username, _⟩ := (run_sound lowers alike).mirrored.rows id row found
  exact ⟨user, known, own, email, username⟩

/-- No message of the topic is refused by the tables of the User service. -/
theorem no_message_refused {setup : Setup} (lowers : Lowers setup.text.lower) {history : List Event}
    (alike : ∀ event ∈ history, Alike setup.text.lower event) {partition offset : Nat} {msg : Message}
    (found : (entries setup (run (Pipeline.step setup) start history).relays partition)[offset]? = some msg) (now : Time) :
    (handleMessage setup.text now none msg.value (run (Pipeline.step setup) start history).users).1 = .ok () := by
  obtain ⟨_, _, _, _, _, lands⟩ := (run_sound lowers alike).lands lowers found now
  exact lands.succeeds

end Pipelines

/-! One newcomer, from the registration to the projection. -/

open Pipeline (start entries)

def onePartition : Setup := ⟨plainText, {}, fun _ => 0⟩

theorem plain_lowers : Lowers onePartition.text.lower := ⟨fun _ => rfl, fun _ => rfl, fun _ _ => rfl⟩

def newcomer : List Event :=
  [.request (.call (.register { AuthFlows.signingUp 12 with lower := id } ⟨"bob@b.c", "bobby", "password", "", ""⟩)),
    .relay (.acquire 0 1 none), .relay (.begin 0 none), .relay (.fetch 0 .stored none), .relay (.publish 0 20 none),
    .relay (.mark 0 21 none), .relay (.commit 0 none), .consume (.fetch 0), .consume (.dedupe none), .handle 22 none,
    .consume (.commit none)]

theorem newcomer_alike : ∀ event ∈ newcomer, Alike onePartition.text.lower event := by
  refine List.forall_mem_cons.mpr ⟨?_, ?_⟩
  · rintro env ⟨⟩
    rfl
  · simp [Alike]

local instance : Collation := .c

theorem newcomer_mirrored : ∃ row user, Tables.user (run (Pipeline.step onePartition) start newcomer).users "u1" = some row ∧
    Auth.Tables.user (run (Pipeline.step onePartition) start newcomer).auth "u1" = some user ∧
      row.id = "u1" ∧ row.email = user.email ∧ row.username = user.username := by
  have arrived : (Tables.user (run (Pipeline.step onePartition) start newcomer).users "u1").isSome := by decide +kernel
  obtain ⟨row, found⟩ := Option.isSome_iff_exists.mp arrived
  obtain ⟨user, same⟩ := users_mirrored plain_lowers newcomer_alike found
  exact ⟨row, user, found, same⟩

theorem newcomer_handled : ∃ msg, (entries onePartition (run (Pipeline.step onePartition) start newcomer).relays 0)[0]? = some msg ∧
    (handleMessage plainText 23 none msg.value (run (Pipeline.step onePartition) start newcomer).users).1 = .ok () := by
  have sent : ((entries onePartition (run (Pipeline.step onePartition) start newcomer).relays 0)[0]?).isSome := by decide +kernel
  obtain ⟨msg, found⟩ := Option.isSome_iff_exists.mp sent
  exact ⟨msg, found, no_message_refused plain_lowers newcomer_alike found 23⟩

end VibeSync.Proofs.UserPipeline
