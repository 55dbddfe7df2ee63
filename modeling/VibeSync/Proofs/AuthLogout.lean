import VibeSync.Proofs.AuthRotation
import VibeSync.Proofs.AuthSteps

/-! A logout ends its session for good. Transactions of every request of the Auth
service run interleaved; a token is inserted by a sign-in, into a family of its
own, or by a refresh that has read an active one of the family. -/

namespace VibeSync.Proofs.AuthLogout
open VibeSync.Auth Transaction VibeSync.Proofs.AuthTables

section Logout
variable [Collation]

/-- Neither a token nor the index of families is written. -/
structure Aside (written : Writes database) : Prop where
  tokens : ∀ id, written (.token id) = none
  families : ∀ family, written (.family family) = none

theorem Aside.andThen {first second : Writes database} (left : Aside first) (right : Aside second) : Aside (first.andThen second) :=
  ⟨fun id => by simp [Writes.andThen, left.tokens, right.tokens],
    fun family => by simp [Writes.andThen, left.families, right.families]⟩

def Plain : Statement → Prop
  | .createSession _ | .createToken _ | .markUsed _ _ | .markRevoked _ _ | .revokeFamily _ _ => False
  | _ => True

theorem aside_of_plain {sql : Statement} (plain : Plain sql) {view : View} {reply : Reply sql} {written : Changes}
    (executed : Tables.execute sql view = .ok (reply, written)) : Aside written := by
  cases sql with
  | createSession | createToken | markUsed | markRevoked | revokeFamily => exact plain.elim
  | createUser user =>
    obtain ⟨_, _, rfl⟩ := insertUser_ok executed
    exact ⟨fun _ => rfl, fun _ => rfl⟩
  | createFlow flow =>
    obtain ⟨_, _, rfl⟩ := insertFlow_ok executed
    exact ⟨fun _ => rfl, fun _ => rfl⟩
  | accountUpsert account =>
    rcases upsertAccount_ok executed with ⟨_, _, rfl⟩ | ⟨_, _, _, rfl⟩ <;> exact ⟨fun _ => rfl, fun _ => rfl⟩
  | providerTokenUpsert token =>
    obtain rfl := upsertProviderToken_ok executed
    exact ⟨fun _ => rfl, fun _ => rfl⟩
  | outboxInsert event =>
    obtain ⟨_, rfl⟩ := insertOutbox_ok executed
    exact ⟨fun _ => rfl, fun _ => rfl⟩
  | _ =>
    cases executed
    exact ⟨fun _ => rfl, fun _ => rfl⟩

theorem plain_within {sql : Statement} (plain : Plain sql) {failed : Err → Err} :
    (@Program.query database Err sql failed).Within Aside :=
  ⟨fun _ _ _ executed => aside_of_plain plain executed, fun _ => trivial⟩

theorem outboxAppend_within (event : Outbox.Event) : (Repo.outboxAppend event).Within Aside := by
  unfold Repo.outboxAppend
  split
  · trivial
  · exact plain_within (by trivial)

theorem saveProviderTokens_within (env : SignUpEnv) (provider userID : String) (tokens : ProviderTokens) :
    (saveProviderTokens env provider userID tokens).Within Aside := by
  unfold saveProviderTokens
  split
  · trivial
  · exact Program.Within.pure fun _ _ => Program.Within.pure fun _ _ => plain_within (by trivial)

theorem createOAuthUser_within (env : SignUpEnv) (provider : String) (profile : ProviderProfile) :
    (createOAuthUser env provider profile).Within Aside :=
  Program.Within.pure fun _ _ => Program.Within.bind (plain_within (by trivial)) fun _ =>
    Program.Within.bind (plain_within (by trivial)) fun _ => Program.Within.bind (outboxAppend_within _) fun _ => trivial

theorem getAndConsume_within (state : String) : (Repo.getAndConsume state).Within Aside := by
  refine Program.Within.bind (plain_within (by trivial)) fun found => ?_
  cases found with
  | none => trivial
  | some flow => exact Program.Within.bind (plain_within (by trivial)) fun _ => trivial

/-! The requests besides refresh and logout, under any rules that a sign-in keeps. -/

structure Admits (rules : Rules database) (assertion : Store database → Writes database → Prop) : Prop where
  untouched : ∀ store, assertion store Writes.empty
  stable : rules.Stable assertion
  aside : ∀ store own written, Aside written → assertion store own → assertion store (own.andThen written)
  commits : ∀ store own, rules.invariant store → assertion store own →
    rules.guarantee store own ∧ rules.invariant (store.write own)
  issues : ∀ env user deviceLabel, rules.Outline (issueSessionForUser env user deviceLabel) assertion

namespace Admits
variable {rules : Rules database} {assertion : Store database → Writes database → Prop} (admits : Admits rules assertion)
include admits

theorem bind {α β : Type} {program : Tx β} {next : β → Tx α} (within : program.Within Aside)
    (rest : ∀ value, rules.Outline (next value) assertion) : rules.Outline (program >>= next) assertion :=
  Rules.Outline.within rules within admits.stable admits.aside rest

theorem begins {α : Type} {program : Tx α} (outline : rules.Outline program assertion) :
    rules.Outline program.discard Rules.Untouched := by
  refine Rules.Outline.weaken rules outline.discard fun store own untouched => ?_
  rw [untouched]
  exact admits.untouched store

theorem login (env : Env) (email password deviceLabel : String) :
    rules.Outline (loginBody env email password deviceLabel) assertion := by
  refine admits.bind (plain_within (by trivial)) fun user => ?_
  cases user with
  | none => trivial
  | some user =>
    dsimp only
    split
    · trivial
    split
    · exact admits.issues env user deviceLabel
    · trivial

theorem register (env : SignUpEnv) (req : RegisterRequest) : rules.Outline (registerBody env req) assertion := by
  refine Rules.Outline.pure rules fun fresh _ => Rules.Outline.pure rules fun hash _ => ?_
  refine admits.bind (plain_within (by trivial)) fun user => ?_
  cases user with
  | some user => trivial
  | none => exact admits.bind (plain_within (by trivial)) fun _ => admits.bind (outboxAppend_within _) fun _ => admits.issues _ _ _

theorem signIn (env : SignUpEnv) (drawn : Nat) (provider : String) (user : User) (deviceLabel : String) (tokens : ProviderTokens) :
    rules.Outline (signIn env drawn provider user deviceLabel tokens) assertion := by
  unfold Auth.signIn
  split
  · exact admits.bind (saveProviderTokens_within ..) fun _ => admits.issues _ _ _
  · trivial

theorem upsert (env : SignUpEnv) (provider : String) (profile : ProviderProfile) (deviceLabel : String) (tokens : ProviderTokens) :
    rules.Outline (upsertBody env provider profile deviceLabel tokens) assertion := by
  refine admits.bind (plain_within (by trivial)) fun link => ?_
  cases link with
  | some link =>
    refine admits.bind (plain_within (by trivial)) fun user => ?_
    cases user with
    | none => trivial
    | some user => exact admits.signIn ..
  | none =>
    refine admits.bind (plain_within (by trivial)) fun user => ?_
    cases user with
    | some user => exact admits.bind (plain_within (by trivial)) fun _ => admits.signIn ..
    | none => exact admits.bind (createOAuthUser_within ..) fun _ => admits.signIn ..

theorem consume (state : String) : rules.Outline (consumeBody state) assertion := by
  refine admits.bind (getAndConsume_within state) fun flow => ?_
  cases flow with
  | none => trivial
  | some flow => exact admits.commits

theorem createFlow (flow : OAuthFlow) : rules.Outline (Repo.createFlow flow) assertion := by
  rw [← Program.bind_pure (Repo.createFlow flow)]
  exact admits.bind (plain_within (by trivial)) fun _ => admits.commits

end Admits

/-- The transactions of the service. -/
inductive Call : Program database Err Unit → Prop where
  | login (env : Env) (email password deviceLabel : String) : Call (loginBody env email password deviceLabel).discard
  | register (env : SignUpEnv) (req : RegisterRequest) : Call (registerBody env req).discard
  | createFlow (flow : OAuthFlow) : Call (Repo.createFlow flow).discard
  | consume (state : String) : Call (consumeBody state).discard
  | upsert (env : SignUpEnv) (provider : String) (profile : ProviderProfile) (deviceLabel : String) (tokens : ProviderTokens) :
      Call (upsertBody env provider profile deviceLabel tokens).discard
  | refresh (env : Env) (selector validator : String) : Call (refreshBody env selector validator).discard
  | logout (env : Env) (selector : String) : Call (logoutBody env selector).discard

theorem Admits.call {rules : Rules database} {assertion : Store database → Writes database → Prop} (admits : Admits rules assertion)
    (refreshes : ∀ env selector validator, rules.Outline (refreshBody env selector validator) Rules.Untouched)
    (logsOut : ∀ env selector, rules.Outline (logoutBody env selector) Rules.Untouched)
    (program : Program database Err Unit) (call : Call program) : rules.Outline program Rules.Untouched := by
  cases call with
  | login env email password deviceLabel => exact admits.begins (admits.login env email password deviceLabel)
  | register env req => exact admits.begins (admits.register env req)
  | createFlow flow => exact admits.begins (admits.createFlow flow)
  | consume state => exact admits.begins (admits.consume state)
  | upsert env provider profile deviceLabel tokens => exact admits.begins (admits.upsert env provider profile deviceLabel tokens)
  | refresh env selector validator => exact (refreshes env selector validator).discard
  | logout env selector => exact (logsOut env selector).discard

/-! Before the logout: at most one token of a family is active. -/

section Linear
open AuthRotation

theorem Aside.linear {store : Store database} {own : Writes database} (aside : Aside own) (linear : Linear store) :
    Keeps store (store.write own) ∧ Linear (store.write own) := by
  have tokens : ∀ id, Tables.token (store.write own) id = Tables.token store id := fun id =>
    Store.write_of_none (aside.tokens id) store
  have keeps : Keeps store (store.write own) := by
    refine ⟨fun id row found => ⟨row, (tokens id).trans found, rfl, rfl, fun dead => dead⟩, fun family present => ?_⟩
    rwa [Store.write_of_none (aside.families family)]
  exact ⟨keeps, linear.retire keeps fun id row found => ⟨row, (tokens id).symm.trans found, rfl, rfl, rfl, fun live => live⟩⟩

theorem issue_linear (env : Env) (user : User) (deviceLabel : String) :
    AuthRotation.rules.Outline (issueSessionForUser env user deviceLabel) fun _ own => Aside own := by
  apply Rules.Outline.query
  intro store own _ written _ aside _ executed
  obtain ⟨_, unused, _, _, same⟩ := insertSession_ok executed
  rw [Store.write_of_none (aside.families _)] at unused
  rw [same]
  refine ⟨Opened (env.idgen 1), opened_stable _, ⟨unused, ⟨env.idgen 0, ?_⟩, ?_, ?_⟩, ?_⟩
  · simp [Writes.andThen, Tables.putSession, newSession]
  · intro id
    simp [Writes.andThen, Tables.putSession, aside.tokens id]
  · intro other different
    simp [Writes.andThen, Tables.putSession, newSession, different, aside.families other]
  apply Rules.Outline.pure
  rintro ⟨child, validator⟩ made
  obtain ⟨_, family, root, _⟩ := newRefreshToken_fields made
  apply Rules.Outline.query
  intro middle locks _ insertion _ opened _ inserted
  obtain ⟨absent, same⟩ := insertToken_ok inserted
  rw [same]
  rw [← family] at opened
  refine ⟨Rooted child, rooted_stable child, opened.insert absent, ?_⟩
  apply Rules.Outline.pure
  intro access _ last final linear rooted
  have adds := rooted.adds linear root
  exact ⟨Keeps.add adds, linear.add adds⟩

theorem linear_admits : Admits AuthRotation.rules fun _ own => Aside own where
  untouched _ := ⟨fun _ => rfl, fun _ => rfl⟩
  stable _ _ _ _ _ _ aside := aside
  aside _ _ _ later aside := aside.andThen later
  commits _ _ linear aside := aside.linear linear
  issues := issue_linear

theorem linear_run {store : Store database} (empty : ∀ id, Tables.token store id = none) {system : System database Err Unit}
    (run : Run Call FindsActive (System.idle store) system) : Linear system.committed :=
  (Rules.Safe.run (linear_admits.call outline_refresh outline_logout) Keeps.refl Keeps.trans (fun _ _ _ within => within)
    run (Rules.Safe.idle (Linear.of_empty empty))).2.store

end Linear

/-! After it. -/

/-- The family has been opened and none of its tokens is active. -/
structure Closed (family : String) (store : Store database) : Prop where
  opened : (store (.family family)).isSome
  inactive : ∀ id row, Tables.token store id = some row → row.familyID = family → row.status ≠ .active

/-- What a transaction has written so far leaves the family closed. -/
structure Harmless (family : String) (own : Writes database) : Prop where
  tokens : ∀ id row, own (.token id) = some (some row) → row.familyID = family → row.status ≠ .active
  index : own (.family family) = none

def closing (family : String) : Rules database where
  invariant := Closed family
  guarantee := fun _ _ => True
  allowed := fun _ _ => True

section Closing
variable {family : String} {store : Store database} {own written : Writes database}

theorem Harmless.commit (harmless : Harmless family own) (closed : Closed family store) : Closed family (store.write own) := by
  refine ⟨by rw [Store.write_of_none harmless.index]; exact closed.opened, fun id row found => ?_⟩
  rw [token_write] at found
  cases wrote : own (.token id) with
  | none =>
    rw [wrote] at found
    exact closed.inactive id row found
  | some new =>
    rw [wrote] at found
    exact harmless.tokens id row (wrote.trans (congrArg some found))

theorem Harmless.andThen (harmless : Harmless family own) (later : Harmless family written) :
    Harmless family (own.andThen written) := by
  refine ⟨fun id row wrote => ?_, by simp [Writes.andThen, harmless.index, later.index]⟩
  rcases Option.or_eq_some_iff.mp wrote with new | ⟨_, old⟩
  · exact later.tokens id row new
  · exact harmless.tokens id row old

theorem Aside.harmless (aside : Aside written) : Harmless family written := by
  refine ⟨fun id row wrote => ?_, aside.families family⟩
  rw [aside.tokens id] at wrote
  cases wrote

theorem harmless_stable : (closing family).Stable fun _ own => Harmless family own :=
  fun _ _ _ _ _ _ harmless => harmless

theorem updateToken_harmless (view : View) (id : String) {change : RefreshToken → RefreshToken}
    (retires : ∀ row, (change row).status ≠ .active) : Harmless family (Tables.updateToken view id change) := by
  refine ⟨fun key row wrote _ => ?_, rfl⟩
  simp only [Tables.updateToken] at wrote
  split at wrote
  · obtain ⟨old, _, same⟩ := Option.map_eq_some_iff.mp wrote
    rw [← Option.some.inj same]
    exact retires old
  · cases wrote

theorem putToken_harmless {child : RefreshToken} (elsewhere : child.familyID ≠ family) :
    Harmless family (Tables.putToken child) := by
  refine ⟨fun id row wrote member => ?_, rfl⟩
  simp only [Tables.putToken] at wrote
  split at wrote
  · rw [← Option.some.inj (Option.some.inj wrote)] at member
    exact absurd member elsewhere
  · cases wrote

theorem harmless_bind {α : Type} {sql : Statement} {failed : Err → Err} {next : Reply sql → Tx α}
    (spares : ∀ view reply written, Tables.execute sql view = .ok (reply, written) → Harmless family written)
    (rest : ∀ reply, (closing family).Outline (next reply) fun _ own => Harmless family own) :
    (closing family).Outline (@Program.query database Err sql failed >>= next) fun _ own => Harmless family own :=
  Rules.Outline.frame _ harmless_stable
    (fun _ _ reply written harmless executed => harmless.andThen (spares _ reply written executed)) rest

theorem createToken_closing {child : RefreshToken} (elsewhere : child.familyID ≠ family) (view : View) (reply : Unit)
    (written : Changes) (inserted : Tables.insertToken view child = .ok (reply, written)) : Harmless family written := by
  obtain ⟨_, rfl⟩ := insertToken_ok inserted
  exact putToken_harmless elsewhere

theorem markUsed_closing (id : String) (now : Time) (view : View) (reply : Unit) (written : Changes)
    (updated : Tables.execute (.markUsed id now) view = .ok (reply, written)) : Harmless family written := by
  cases updated
  exact updateToken_harmless _ _ fun row => by simp [RefreshToken.markUsed]

theorem markRevoked_closing (id : String) (now : Time) (view : View) (reply : Unit) (written : Changes)
    (updated : Tables.execute (.markRevoked id now) view = .ok (reply, written)) : Harmless family written := by
  cases updated
  exact updateToken_harmless _ _ fun row => by simp [RefreshToken.markRevoked]

theorem issue_closing (env : Env) (user : User) (deviceLabel : String) :
    (closing family).Outline (issueSessionForUser env user deviceLabel) fun _ own => Harmless family own := by
  apply Rules.Outline.query
  intro store own _ written closed harmless _ executed
  obtain ⟨_, unused, _, _, same⟩ := insertSession_ok executed
  -- the family is taken, so the new session is of another one
  have elsewhere : env.idgen 1 ≠ family := by
    rintro rfl
    have opened := closed.opened
    have free : store (.family (env.idgen 1)) = none := (Store.write_of_none harmless.index store).symm.trans unused
    rw [free] at opened
    cases opened
  have opens : Harmless family written := by
    rw [same]
    refine ⟨fun id row wrote => ?_, if_neg elsewhere.symm⟩
    cases wrote
  refine ⟨_, harmless_stable, harmless.andThen opens, ?_⟩
  apply Rules.Outline.pure
  rintro ⟨child, validator⟩ made
  obtain ⟨_, kin, _⟩ := newRefreshToken_fields made
  refine harmless_bind (createToken_closing (by rw [kin]; exact elsewhere)) fun _ => ?_
  apply Rules.Outline.pure
  exact fun access _ last final closed harmless => ⟨trivial, harmless.commit closed⟩

theorem closing_admits : Admits (closing family) fun _ own => Harmless family own where
  untouched _ := Aside.harmless ⟨fun _ => rfl, fun _ => rfl⟩
  stable := harmless_stable
  aside _ _ _ aside harmless := harmless.andThen aside.harmless
  commits _ _ closed harmless := ⟨trivial, harmless.commit closed⟩
  issues := issue_closing

theorem rotate_closing (env : Env) {rt : RefreshToken} (elsewhere : rt.familyID ≠ family) :
    (closing family).Outline (rotate env rt) fun _ own => Harmless family own := by
  have admits := @closing_admits _ family
  refine admits.bind (plain_within (by trivial)) fun user => ?_
  cases user with
  | none => trivial
  | some user =>
    dsimp only
    split
    · refine harmless_bind (markUsed_closing _ _) fun _ => ?_
      apply Rules.Outline.pure
      rintro ⟨child, validator⟩ made
      obtain ⟨_, kin, _⟩ := newRefreshToken_fields made
      refine harmless_bind (createToken_closing (by rw [kin]; exact elsewhere)) fun _ => ?_
      refine admits.bind (plain_within (by trivial)) fun _ => Rules.Outline.pure _ fun access _ => ?_
      refine admits.bind (plain_within (by trivial)) fun session => ?_
      cases session with
      | none => trivial
      | some session => exact admits.commits
    · trivial

theorem refresh_closing (env : Env) (selector validator : String) :
    (closing family).Outline (refreshBody env selector validator) Rules.Untouched := by
  apply Rules.Outline.query
  rintro store _ reply written closed rfl _ executed
  cases reply with
  | none => exact ⟨fun _ _ => True, fun _ _ _ _ _ _ holds => holds, trivial, trivial⟩
  | some rt =>
    obtain ⟨silent, id, found⟩ := AuthRotation.getBySelector_some executed
    rw [silent]
    refine ⟨_, harmless_stable, closing_admits.untouched store, ?_⟩
    dsimp only
    split
    · split
      next rotates =>
        exact rotate_closing env fun member => closed.inactive id rt found member (RefreshToken.classifyUse_rotate rotates)
      · exact Rules.Outline.hopeless _ fun _ => ⟨_, rfl⟩
      all_goals trivial
    · trivial

theorem logout_closing (env : Env) (selector : String) :
    (closing family).Outline (logoutBody env selector) Rules.Untouched := by
  have admits := @closing_admits _ family
  refine Rules.Outline.weaken _ (admits.bind (plain_within (by trivial)) fun found => ?_) fun store own untouched => ?_
  · cases found with
    | none => exact admits.commits
    | some rt =>
      dsimp only
      split
      · exact harmless_bind (markRevoked_closing _ _) fun _ => admits.commits
      · exact admits.commits
  · rw [untouched]
    exact admits.untouched store

/-- No interleaving of requests that start later opens the family again. -/
theorem closed_run (closed : Closed family store) {system : System database Err Unit}
    (run : Run Call (fun _ _ => True) (System.idle store) system) : Closed family system.committed :=
  (@Rules.Safe.run _ _ _ (closing family) _ _ _ (fun _ _ => True) (closing_admits.call refresh_closing logout_closing)
    (fun _ => trivial) (fun _ _ => trivial) (fun _ _ _ _ => trivial) run (Rules.Safe.idle closed)).2.store

end Closing

theorem exec_getBySelector {α : Type} (store : Store database) (selector : String) (next : Option RefreshToken → Tx α) :
    (Repo.getBySelector selector >>= next).exec store =
      (next ((store (.selector selector)).bind (Tables.token store))).exec store := rfl

/-- The row that a presented token leads to is the only active one of its family,
so revoking it closes the family. -/
theorem logout_closes (env : Env) {presented : String} {store : Store database} {rt : RefreshToken}
    (linear : AuthRotation.Linear store) (named : (splitSelectorValidator presented).1 ≠ "")
    (presents : AuthReuse.Presents store presented rt) (live : rt.status = .active) :
    Closed rt.familyID (logout env presented store).2 := by
  obtain ⟨id, indexed, found⟩ := presents
  obtain rfl := linear.keyed id rt found
  have whole : presented ≠ "" := by
    rintro rfl
    exact named (by decide)
  have executed : (logoutBody env (splitSelectorValidator presented).1).exec store =
      (.ok true, store.write (Tables.updateToken store rt.id fun row => row.markRevoked env.now)) := by
    unfold logoutBody
    rw [exec_getBySelector, indexed, Option.bind_some, found]
    simp only [live, ↓reduceIte]
    rfl
  have revoked : (logout env presented store).2 = store.write (Tables.updateToken store rt.id fun row => row.markRevoked env.now) := by
    simp only [logout, whole, named, or_self, ↓reduceIte]
    rw [Program.withTx_of_ok executed]
  rw [revoked]
  refine ⟨linear.families _ rt found, fun other row there member alive => ?_⟩
  rw [token_updateToken found, Function.update_apply] at there
  split at there
  · rw [← Option.some.inj there] at alive
    cases alive
  next different => exact different (linear.active other rt.id row rt there found alive live member)

theorem refresh_refused (env : Env) {presented id : String} {store : Store database} {rt : RefreshToken}
    (indexed : store (.selector (splitSelectorValidator presented).1) = some id) (found : Tables.token store id = some rt)
    (inactive : rt.status ≠ .active) : ∃ problem, refreshToken env presented store = (.error problem, store) := by
  unfold refreshToken
  split
  · exact ⟨_, rfl⟩
  unfold refreshUseCase
  dsimp only
  split
  · exact ⟨_, rfl⟩
  rcases Program.withTx_cases (refreshBody env (splitSelectorValidator presented).1 (splitSelectorValidator presented).2) store with
    failed | ⟨value, after, _, executed⟩
  · exact failed
  unfold refreshBody at executed
  rw [exec_getBySelector, indexed, Option.bind_some, found] at executed
  dsimp only at executed
  split at executed
  · split at executed
    next rotates => exact absurd (RefreshToken.classifyUse_rotate rotates) inactive
    · obtain ⟨_, _, _, rest⟩ := Program.exec_statement_ok executed
      cases rest
    all_goals cases executed
  · cases executed

/-- After a logout with the active token of a family, whatever requests run and
however they interleave, none of the family's tokens is ever active again and no
refresh with one of them succeeds. -/
theorem logout_final (empty store : Store database) (fresh : ∀ id, Tables.token empty id = none)
    (earlier : Run Call AuthRotation.FindsActive (System.idle empty) (System.idle store)) (env : Env) (presented : String)
    (rt : RefreshToken) (named : (splitSelectorValidator presented).1 ≠ "")
    (presents : AuthReuse.Presents store presented rt) (live : rt.status = .active) (system : System database Err Unit)
    (later : Run Call (fun _ _ => True) (System.idle (logout env presented store).2) system) :
    (∀ id row, Tables.token system.committed id = some row → row.familyID = rt.familyID → row.status ≠ .active) ∧
      ∀ (again : Env) other row, AuthReuse.Presents system.committed other row → row.familyID = rt.familyID →
        ∃ problem, refreshToken again other system.committed = (.error problem, system.committed) := by
  have closed := closed_run (logout_closes env (linear_run fresh earlier) named presents live) later
  refine ⟨closed.inactive, fun again other row ⟨id, indexed, found⟩ member => ?_⟩
  exact refresh_refused again indexed found (closed.inactive id row found member)

end Logout

/-! A user signs in, logs out and signs in again. -/

local instance : Collation := .c

def device : Env := AuthRotation.draws ["t2"] "s2" "v2"

def loggedOut : Store database := (logout device "s0.v0" AuthRotation.signedIn).2

def signInAgain : Program database Err Unit :=
  (loginBody (AuthRotation.draws ["d1b", "f1b", "t1"] "s1" "v1") "a@b.c" "pw" "").discard

def root : RefreshToken :=
  { AuthReuse.rotated with status := .active, expiresAt := 110, createdAt := 10, usedAt := none }

theorem old_token_refused : AuthReuse.Presents AuthRotation.signedIn "s0.v0" root ∧
    AuthReuse.Presents (signInAgain.withTx loggedOut).2 "s0.v0" (root.markRevoked 10) ∧
    ∃ problem, refreshToken device "s0.v0" (signInAgain.withTx loggedOut).2 = (.error problem, (signInAgain.withTx loggedOut).2) := by
  have earlier : Run Call AuthRotation.FindsActive (System.idle AuthRotation.newcomer) (System.idle AuthRotation.signedIn) :=
    withTx_runs (.login ..) (AuthRotation.login_permitted ..).discard (Program.outcome_of_isOk (by decide +kernel))
  have later : Run Call (fun _ _ => True) (System.idle loggedOut) (System.idle (signInAgain.withTx loggedOut).2) :=
    withTx_runs (.login ..) (Program.permitted_of_always (fun _ _ => trivial) ..) (Program.outcome_of_isOk (by decide +kernel))
  have presents : AuthReuse.Presents AuthRotation.signedIn "s0.v0" root := ⟨"t0", by decide +kernel, by decide +kernel⟩
  have revoked : AuthReuse.Presents (signInAgain.withTx loggedOut).2 "s0.v0" (root.markRevoked 10) :=
    ⟨"t0", by decide +kernel, by decide +kernel⟩
  exact ⟨presents, revoked, (logout_final AuthRotation.newcomer AuthRotation.signedIn AuthRotation.newcomer_empty earlier device
    "s0.v0" root (by decide) presents rfl _ later).2 device "s0.v0" _ revoked rfl⟩

end VibeSync.Proofs.AuthLogout
