import VibeSync.PartialMap
import VibeSync.Proofs.AuthFlows

/-! Users and the events of their creation, under interleaved registrations and
OAuth sign-ins. The user and the event are inserted by one transaction, and
nothing that it does afterwards touches either table. -/

namespace VibeSync.Proofs.AuthAccounts
open VibeSync.Auth Transaction VibeSync.Proofs.AuthTables VibeSync.Proofs.AuthSteps

section Accounts
variable [Collation]

/-- The row tells of the creation of this user. -/
structure Announces (row : Outbox.Row) (user : User) : Prop where
  topic : row.event.topic = userCreated
  aggregate : row.event.aggregateID = user.id
  id : row.event.payload.text "user_id" = some user.id
  email : row.event.payload.text "email" = some user.email

omit [Collation] in
theorem announces_createdEvent (env : SignUpEnv) (id provider : String) (user : User) :
    Announces (createdEvent env id provider user).row user := ⟨rfl, rfl, rfl, rfl⟩

/-- Users and `user.created.v1` events correspond one to one. -/
structure Corresponds (store : Store database) : Prop where
  keyed : ∀ id user, Tables.user store id = some user → user.id = id
  announced : ∀ id user, Tables.user store id = some user →
    ∃! event, ∃ row, Tables.outbox store event = some row ∧ Announces row user
  grounded : ∀ event row, Tables.outbox store event = some row → row.event.topic = userCreated →
    ∃ user, Tables.user store user.id = some user ∧ Announces row user

theorem Corresponds.of_empty {store : Store database} (nobody : ∀ id, Tables.user store id = none)
    (silent : ∀ event, Tables.outbox store event = none) : Corresponds store := by
  refine ⟨?_, ?_, ?_⟩
  · intro id user found
    cases (nobody id).symm.trans found
  · intro id user found
    cases (nobody id).symm.trans found
  · intro event row found
    cases (silent event).symm.trans found

theorem Corresponds.congr {before after : Store database} (users : Tables.user after = Tables.user before)
    (events : Tables.outbox after = Tables.outbox before) (corresponds : Corresponds before) : Corresponds after := by
  refine ⟨?_, ?_, ?_⟩ <;> simp only [users, events]
  · exact corresponds.keyed
  · exact corresponds.announced
  · exact corresponds.grounded

/-- One user more, and one event that tells of them. -/
theorem Corresponds.enroll {before after : Store database} {user : User} {event : String} {row : Outbox.Row}
    (corresponds : Corresponds before) (absent : Tables.user before user.id = none)
    (unused : Tables.outbox before event = none) (announces : Announces row user)
    (users : Tables.user after = Function.update (Tables.user before) user.id (some user))
    (events : Tables.outbox after = Function.update (Tables.outbox before) event (some row)) : Corresponds after := by
  have kept : ∀ id old, Tables.user before id = some old → old.id ≠ user.id := by
    intro id old found same
    rw [corresponds.keyed id old found] at same
    rw [same, absent] at found
    cases found
  have older : ∀ other old, Tables.outbox before other = some old → other ≠ event := by
    rintro other old found rfl
    cases unused.symm.trans found
  have stranger : ∀ other old, Tables.outbox before other = some old → ¬ Announces old user := by
    intro other old found again
    obtain ⟨known, present, tells⟩ := corresponds.grounded other old found again.topic
    exact kept _ known present (tells.aggregate.symm.trans again.aggregate)
  refine ⟨?_, ?_, ?_⟩
  · intro id found held
    rw [users] at held
    rcases PartialMap.update_eq_some held with ⟨same, rfl⟩ | held
    · exact same.symm
    · exact corresponds.keyed id found held
  · intro id found held
    rw [users] at held
    rcases PartialMap.update_eq_some held with ⟨same, rfl⟩ | held
    · refine ⟨event, ⟨row, by rw [events, Function.update_self], announces⟩, ?_⟩
      rintro other ⟨old, there, again⟩
      rw [events] at there
      rcases PartialMap.update_eq_some there with ⟨same, _⟩ | there
      · exact same
      · exact absurd again (stranger other old there)
    · obtain ⟨first, ⟨old, there, tells⟩, single⟩ := corresponds.announced id found held
      refine ⟨first, ⟨old, ?_, tells⟩, ?_⟩
      · rw [events, Function.update_of_ne (older first old there)]
        exact there
      · rintro other ⟨again, here, retells⟩
        rw [events] at here
        rcases PartialMap.update_eq_some here with ⟨_, rfl⟩ | here
        · exact absurd (retells.aggregate.symm.trans announces.aggregate) (kept id found held)
        · exact single other ⟨again, here, retells⟩
  · intro other old there topic
    rw [events] at there
    rcases PartialMap.update_eq_some there with ⟨_, rfl⟩ | there
    · exact ⟨user, by rw [users, Function.update_self], announces⟩
    · obtain ⟨known, present, tells⟩ := corresponds.grounded other old there topic
      exact ⟨known, by rw [users, Function.update_of_ne (kept _ known present)]; exact present, tells⟩

/-! Assertions about the uncommitted writes of one call. -/

def rules : Rules database where
  invariant := Corresponds
  guarantee := fun _ _ => True
  allowed := fun _ _ => True

/-- Neither users nor events are written. -/
structure Aside (written : Writes database) : Prop where
  users : ∀ id, written (.user id) = none
  events : ∀ id, written (.outbox id) = none

theorem Aside.empty : Aside Writes.empty := ⟨fun _ => rfl, fun _ => rfl⟩

/-- The user is inserted, their event is not. -/
structure Created (user : User) (store : Store database) (own : Writes database) : Prop where
  absent : Tables.user store user.id = none
  created : own (.user user.id) = some (some user)
  others : ∀ id, id ≠ user.id → own (.user id) = none
  events : ∀ id, own (.outbox id) = none

/-- Both are inserted. -/
structure Enrolled (user : User) (event : String) (row : Outbox.Row) (store : Store database) (own : Writes database) :
    Prop where
  absent : Tables.user store user.id = none
  created : own (.user user.id) = some (some user)
  others : ∀ id, id ≠ user.id → own (.user id) = none
  unused : Tables.outbox store event = none
  staged : own (.outbox event) = some (some row)
  rest : ∀ id, id ≠ event → own (.outbox id) = none

theorem calm_stable : rules.Stable fun _ own => Aside own := fun _ _ _ _ _ _ aside => aside

theorem created_stable (user : User) : rules.Stable (Created user) := by
  intro store own other _ _ apart holds
  exact { holds with absent := (Store.write_locked apart holds.created store).trans holds.absent }

theorem enrolled_stable (user : User) (event : String) (row : Outbox.Row) : rules.Stable (Enrolled user event row) := by
  intro store own other _ _ apart holds
  exact { holds with
    absent := (Store.write_locked apart holds.created store).trans holds.absent
    unused := (Store.write_locked apart holds.staged store).trans holds.unused }

section Frames
variable {store : Store database} {own written : Writes database} {user : User} {event : String} {row : Outbox.Row}

theorem andThen_of_none {key : Key} (absent : written key = none) : own.andThen written key = own key := by
  simp [Writes.andThen, absent]

theorem Aside.andThen (aside : Aside written) (calm : Aside own) : Aside (own.andThen written) :=
  ⟨fun id => (andThen_of_none (aside.users id)).trans (calm.users id),
    fun id => (andThen_of_none (aside.events id)).trans (calm.events id)⟩

theorem Aside.created (aside : Aside written) (holds : Created user store own) : Created user store (own.andThen written) :=
  ⟨holds.absent, (andThen_of_none (aside.users _)).trans holds.created,
    fun id other => (andThen_of_none (aside.users id)).trans (holds.others id other),
    fun id => (andThen_of_none (aside.events id)).trans (holds.events id)⟩

theorem Aside.enrolled (aside : Aside written) (holds : Enrolled user event row store own) :
    Enrolled user event row store (own.andThen written) :=
  ⟨holds.absent, (andThen_of_none (aside.users _)).trans holds.created,
    fun id other => (andThen_of_none (aside.users id)).trans (holds.others id other), holds.unused,
    (andThen_of_none (aside.events _)).trans holds.staged,
    fun id other => (andThen_of_none (aside.events id)).trans (holds.rest id other)⟩

theorem Aside.create (calm : Aside own) (absent : Tables.user (store.write own) user.id = none) :
    Created user store (own.andThen (Tables.putUser user)) := by
  rw [user_write, calm.users] at absent
  refine ⟨absent, ?_, ?_, ?_⟩
  · simp [Writes.andThen, Tables.putUser]
  · intro id other
    simp [Writes.andThen, Tables.putUser, other, calm.users id]
  · intro id
    simp [Writes.andThen, Tables.putUser, calm.events id]

theorem Created.stage (holds : Created user store own) (unused : Tables.outbox (store.write own) event = none) :
    Enrolled user event row store (own.andThen (Tables.putOutbox event row)) := by
  rw [outbox_write, holds.events] at unused
  refine ⟨holds.absent, ?_, ?_, unused, ?_, ?_⟩
  · simp [Writes.andThen, Tables.putOutbox, holds.created]
  · intro id other
    simp [Writes.andThen, Tables.putOutbox, holds.others id other]
  · simp [Writes.andThen, Tables.putOutbox]
  · intro id other
    simp [Writes.andThen, Tables.putOutbox, other, holds.events id]

theorem Aside.commit (calm : Aside own) (corresponds : Corresponds store) : Corresponds (store.write own) :=
  corresponds.congr (funext fun id => Store.write_of_none (calm.users id) store)
    (funext fun id => Store.write_of_none (calm.events id) store)

theorem Enrolled.commit (holds : Enrolled user event row store own) (announces : Announces row user)
    (corresponds : Corresponds store) : Corresponds (store.write own) := by
  refine corresponds.enroll holds.absent holds.unused announces (funext fun id => ?_) (funext fun id => ?_)
  · rw [user_write, Function.update_apply]
    split
    · next same =>
      rw [same, holds.created]
      rfl
    · next other =>
      rw [holds.others id other]
      rfl
  · rw [outbox_write, Function.update_apply]
    split
    · next same =>
      rw [same, holds.staged]
      rfl
    · next other =>
      rw [holds.rest id other]
      rfl

end Frames

/-! The statements that touch neither table. -/

theorem query_within {sql : Statement} {failed : Err → Err}
    (aside : ∀ store reply written, database.execute sql store = .ok (reply, written) → Aside written) :
    (@Program.query database Err sql failed).Within Aside := ⟨aside, fun _ => trivial⟩

theorem userByID_within (id : String) : (Repo.userByID id).Within Aside := by
  apply query_within
  rintro store _ _ ⟨⟩
  exact Aside.empty

theorem userByEmail_within (email : String) : (Repo.userByEmail email).Within Aside := by
  apply query_within
  rintro store _ _ ⟨⟩
  exact Aside.empty

theorem accountByProvider_within (provider identity : String) : (Repo.accountByProvider provider identity).Within Aside := by
  apply query_within
  rintro store _ _ ⟨⟩
  exact Aside.empty

theorem accountUpsert_within (account : OAuthAccount) : (Repo.accountUpsert account).Within Aside := by
  apply query_within
  intro store _ written upserted
  rcases upsertAccount_ok upserted with ⟨_, _, rfl⟩ | ⟨_, _, _, rfl⟩
  · exact Aside.empty
  · exact ⟨fun _ => rfl, fun _ => rfl⟩

theorem issue_within (env : Env) (user : User) (deviceLabel : String) :
    (issueSessionForUser env user deviceLabel).Within Aside := by
  refine Program.Within.bind (query_within ?_) fun _ => Program.Within.bind trivial fun ⟨token, validator⟩ =>
    Program.Within.bind (query_within ?_) fun _ => Program.Within.bind trivial fun _ => trivial
  · intro store _ written inserted
    obtain ⟨_, _, _, _, rfl⟩ := insertSession_ok inserted
    exact ⟨fun _ => rfl, fun _ => rfl⟩
  · intro store _ written inserted
    obtain ⟨_, rfl⟩ := insertToken_ok inserted
    exact ⟨fun _ => rfl, fun _ => rfl⟩

theorem saveProviderTokens_within (env : SignUpEnv) (provider userID : String) (tokens : ProviderTokens) :
    (saveProviderTokens env provider userID tokens).Within Aside := by
  unfold saveProviderTokens
  split
  · trivial
  · refine Program.Within.bind trivial fun _ => Program.Within.bind trivial fun _ => query_within ?_
    intro store _ written upserted
    obtain rfl := upsertProviderToken_ok upserted
    exact ⟨fun _ => rfl, fun _ => rfl⟩

theorem signIn_within (env : SignUpEnv) (drawn : Nat) (provider : String) (user : User) (deviceLabel : String)
    (tokens : ProviderTokens) : (signIn env drawn provider user deviceLabel tokens).Within Aside := by
  unfold signIn
  split
  · exact Program.Within.bind (saveProviderTokens_within ..) fun _ => issue_within ..
  · trivial

theorem consume_within (state : String) : (consumeBody state).Within Aside := by
  refine Program.Within.bind (Program.Within.bind (query_within ?_) ?_) ?_
  · rintro store _ _ ⟨⟩
    exact Aside.empty
  · intro reply
    cases reply with
    | none => trivial
    | some flow =>
      refine Program.Within.bind (query_within ?_) fun _ => trivial
      rintro store _ _ ⟨⟩
      exact ⟨fun _ => rfl, fun _ => rfl⟩
  · intro flow
    cases flow <;> trivial

/-! The outlines of the calls. -/

theorem outline_bind {α β : Type} {program : Tx α} {next : α → Tx β} (within : program.Within Aside)
    (rest : ∀ value, rules.Outline (next value) fun _ own => Aside own) :
    rules.Outline (program >>= next) fun _ own => Aside own :=
  Rules.Outline.within rules within calm_stable (fun _ _ _ aside calm => aside.andThen calm) rest

theorem outline_calm {α : Type} {program : Tx α} (within : program.Within Aside) :
    rules.Outline program fun _ own => Aside own := by
  rw [← Program.bind_pure program]
  exact outline_bind within fun _ _ _ kept calm => ⟨trivial, calm.commit kept⟩

theorem outline_enrolled {α : Type} {program : Tx α} {user : User} {event : String} {row : Outbox.Row}
    (announces : Announces row user) (within : program.Within Aside) : rules.Outline program (Enrolled user event row) := by
  rw [← Program.bind_pure program]
  exact Rules.Outline.within rules within (enrolled_stable user event row) (fun _ _ _ aside holds => aside.enrolled holds)
    fun _ _ _ kept holds => ⟨trivial, holds.commit announces kept⟩

theorem outline_createUser {α : Type} {user : User} {failed : Err → Err} {next : Unit → Tx α}
    (rest : rules.Outline (next ()) (Created user)) :
    rules.Outline (Repo.createUser user failed >>= next) fun _ own => Aside own := by
  apply Rules.Outline.query
  intro store own _ written _ calm _ inserted
  obtain ⟨absent, _, rfl⟩ := insertUser_ok inserted
  exact ⟨Created user, created_stable user, calm.create absent, rest⟩

theorem outline_outboxAppend {α : Type} {env : SignUpEnv} {id provider : String} {user : User} {next : Unit → Tx α}
    (rest : rules.Outline (next ()) (Enrolled user id (createdEvent env id provider user).row)) :
    rules.Outline (Repo.outboxAppend (createdEvent env id provider user) >>= next) (Created user) := by
  rw [outboxAppend_created]
  apply Rules.Outline.query
  intro store own _ written _ created _ inserted
  obtain ⟨unused, rfl⟩ := insertOutbox_ok inserted
  exact ⟨Enrolled user id _, enrolled_stable user id _, created.stage unused, rest⟩

theorem outline_register (env : SignUpEnv) (req : RegisterRequest) :
    rules.Outline (registerBody env req) fun _ own => Aside own := by
  refine Rules.Outline.pure rules fun fresh _ => Rules.Outline.pure rules fun hash _ => ?_
  refine outline_bind (userByEmail_within _) ?_
  intro reply
  cases reply with
  | some known => trivial
  | none => exact outline_createUser (outline_outboxAppend (outline_enrolled (announces_createdEvent ..) (issue_within ..)))

theorem outline_createOAuthUser {α : Type} (env : SignUpEnv) (provider : String) (profile : ProviderProfile)
    (next : User → Tx α) (within : ∀ user, (next user).Within Aside) :
    rules.Outline (createOAuthUser env provider profile >>= next) fun _ own => Aside own := by
  rw [createOAuthUser, Program.bind_assoc]
  refine Rules.Outline.pure rules fun fresh _ => ?_
  rw [Program.bind_assoc]
  refine outline_createUser ?_
  rw [Program.bind_assoc]
  refine Rules.Outline.within rules (accountUpsert_within _) (created_stable _) (fun _ _ _ aside holds => aside.created holds) ?_
  intro _
  rw [Program.bind_assoc]
  exact outline_outboxAppend (outline_enrolled (announces_createdEvent ..) (within _))

theorem outline_upsert (env : SignUpEnv) (provider : String) (profile : ProviderProfile) (deviceLabel : String)
    (tokens : ProviderTokens) :
    rules.Outline (upsertBody env provider profile deviceLabel tokens) fun _ own => Aside own := by
  refine outline_bind (accountByProvider_within ..) ?_
  intro link
  cases link with
  | some link =>
    refine outline_calm (Program.Within.bind (userByID_within _) fun user => ?_)
    cases user with
    | none => trivial
    | some user => exact signIn_within ..
  | none =>
    refine outline_bind (userByEmail_within _) ?_
    intro user
    cases user with
    | some user => exact outline_calm (Program.Within.bind (accountUpsert_within _) fun _ => signIn_within ..)
    | none => exact outline_createOAuthUser env provider profile _ fun _ => signIn_within ..

/-! Whole runs. -/

/-- The transactions of `Register` and `CompleteOAuth`. -/
inductive Call : Program database Err Unit → Prop where
  | register (env : SignUpEnv) (req : RegisterRequest) : Call (registerBody env req).discard
  | consume (state : String) : Call (consumeBody state).discard
  | upsert (env : SignUpEnv) (provider : String) (profile : ProviderProfile) (deviceLabel : String) (tokens : ProviderTokens) :
      Call (upsertBody env provider profile deviceLabel tokens).discard

theorem outline_discard {α : Type} {program : Tx α} (outline : rules.Outline program fun _ own => Aside own) :
    rules.Outline program.discard Rules.Untouched := by
  refine Rules.Outline.weaken rules (Rules.Outline.discard rules outline) ?_
  rintro _ _ rfl
  exact Aside.empty

theorem outline_call (program : Program database Err Unit) (call : Call program) :
    rules.Outline program Rules.Untouched := by
  cases call with
  | register env req => exact outline_discard (outline_register env req)
  | consume state => exact outline_discard (outline_calm (consume_within state))
  | upsert env provider profile deviceLabel tokens =>
    exact outline_discard (outline_upsert env provider profile deviceLabel tokens)

/-- In every committed state of every interleaving, with transactions cut off
anywhere, each user has one event of their creation and each such event a user. -/
theorem users_correspond_to_events (store : Store database) (start : Corresponds store) (system : System database Err Unit)
    (run : Run Call (fun _ _ => True) (System.idle store) system) : Corresponds system.committed := by
  obtain ⟨_, safe⟩ := @Rules.Safe.run _ _ _ rules Call _ _ (fun _ _ => True) outline_call (fun _ => trivial)
    (fun _ _ => trivial) (fun _ _ _ _ => trivial) run (Rules.Safe.idle start)
  exact safe.store

end Accounts

local instance : Collation := .c

def newcomer : Program database Err Unit :=
  (registerBody (AuthFlows.signingUp 12) ⟨"bob@b.c", "bobby", "password", "", ""⟩).discard

theorem registration_corresponds :
    (Tables.user (newcomer.withTx AuthFlows.nothing).2 "u1").isSome ∧
      Corresponds (newcomer.withTx AuthFlows.nothing).2 := by
  refine ⟨by decide +kernel, users_correspond_to_events AuthFlows.nothing
    (Corresponds.of_empty (fun _ => rfl) fun _ => rfl) (System.idle _) ?_⟩
  exact withTx_runs (.register ..) (Program.permitted_of_always (fun _ _ => trivial) ..)
    (Program.outcome_of_isOk (by decide +kernel))

end VibeSync.Proofs.AuthAccounts
