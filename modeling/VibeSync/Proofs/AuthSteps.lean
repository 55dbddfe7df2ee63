import VibeSync.Proofs.AuthTables
import VibeSync.Proofs.AuthReuse

/-! What each request of the Auth service can do to the tables when it has the
store to itself. -/

namespace VibeSync.Proofs.AuthSteps
open VibeSync.Auth Transaction Columns VibeSync.Proofs.AuthTables

variable [Collation]

/-- The rows that sign-ins, refreshes and logouts leave alone. -/
def Standing : Key → Prop
  | .user _ | .email _ | .username _ | .flow _ | .account _ _ | .link _ _ | .outbox _ => True
  | _ => False

/-- A session was opened for the user, with the root token of its family. -/
structure SignedIn (env : Env) (user : User) (before after : Store database) (session : Session) : Prop where
  owner : session.userID = user.id
  ends : session.expiresAt = env.now + env.sessionTTL
  sessions : Tables.session before session.id = none ∧
    ∃ deviceLabel, Tables.session after = Function.update (Tables.session before) session.id (some { session with deviceLabel })
  tokens : ∃ token : RefreshToken, token.sessionID = session.id ∧ token.expiresAt = env.now + env.refreshTokenTTL ∧
    Tables.token after = Function.update (Tables.token before) token.id (some token)
  standing : ∀ key, Standing key → after key = before key

/-- The row of a flow holds the terms of the `BeginOAuth` that drew its state. -/
structure Begun (env : Env) (flowTTL : Duration) (req : BeginOAuthRequest) (flow : OAuthFlow) : Prop where
  drawn : env.randomURL stateBytes = .ok flow.state
  provider : flow.provider = req.provider
  redirectURI : flow.redirectURI = req.redirectURI
  createdAt : flow.createdAt = env.now
  expiresAt : flow.expiresAt = env.now + flowTTL

omit [Collation] in
theorem newOAuthFlow_begun {env : Env} {flowTTL : Duration} {req : BeginOAuthRequest} {flow : OAuthFlow}
    (made : newOAuthFlow env.randomURL env.now req.provider req.redirectURI req.codeChallenge "" flowTTL = .ok flow)
    (codeChallenge : String) : Begun env flowTTL req { flow with codeChallenge } := by
  simp only [newOAuthFlow, bind, Except.bind, pure, Except.pure] at made
  split at made
  · cases made
  next drawn =>
    cases made
    exact ⟨drawn, rfl, rfl, rfl, rfl⟩

section Bodies
variable {env : SignUpEnv} {store after : Store database} {session : Session} {material : TokenMaterial}

theorem issue_ok {env : Env} {user : User} {deviceLabel : String}
    (executed : (issueSessionForUser env user deviceLabel).exec store = (.ok (session, material), after)) :
    SignedIn env user store after session := by
  obtain ⟨_, _, created, rest⟩ := Program.exec_statement_ok executed
  obtain ⟨absent, _, _, deviceLabel, rfl⟩ := insertSession_ok created
  obtain ⟨⟨token, validator⟩, made, rest⟩ := Program.exec_pure_ok rest
  obtain ⟨_, _, inserted, rest⟩ := Program.exec_statement_ok rest
  obtain ⟨_, rfl⟩ := insertToken_ok inserted
  obtain ⟨access, _, rest⟩ := Program.exec_pure_ok rest
  cases rest
  obtain ⟨_, _, rfl⟩ := newRefreshToken_ok made
  refine ⟨rfl, rfl, ⟨absent, deviceLabel, session_putSession store _⟩, ⟨_, rfl, rfl, token_putToken _ _⟩, ?_⟩
  intro key standing
  cases key <;> first | rfl | exact standing.elim

theorem saveProviderTokens_ok {provider userID : String} {tokens : ProviderTokens} {value : Unit}
    (executed : (saveProviderTokens env provider userID tokens).exec store = (.ok value, after)) :
    Tables.session after = Tables.session store ∧ Tables.token after = Tables.token store ∧
      ∀ key, Standing key → after key = store key := by
  unfold saveProviderTokens at executed
  split at executed
  · cases executed
    exact ⟨rfl, rfl, fun _ _ => rfl⟩
  · obtain ⟨_, _, rest⟩ := Program.exec_pure_ok executed
    obtain ⟨_, _, rest⟩ := Program.exec_pure_ok rest
    obtain ⟨_, upserted, rfl⟩ := Program.exec_query_ok rest
    obtain rfl := upsertProviderToken_ok upserted
    refine ⟨rfl, rfl, ?_⟩
    intro key standing
    cases key <;> first | rfl | exact standing.elim

theorem signIn_ok {drawn : Nat} {provider deviceLabel : String} {user : User} {tokens : ProviderTokens}
    (executed : (signIn env drawn provider user deviceLabel tokens).exec store = (.ok (session, material), after)) :
    SignedIn (env.skip drawn) user store after session := by
  unfold signIn at executed
  split at executed
  · obtain ⟨_, saved, stored, rest⟩ := Program.exec_bind_ok executed
    obtain ⟨sessions, tokens, standing⟩ := saveProviderTokens_ok stored
    obtain ⟨owner, ends, opened, issued, kept⟩ := issue_ok rest
    rw [sessions] at opened
    rw [tokens] at issued
    exact ⟨owner, ends, opened, issued, fun key stands => (kept key stands).trans (standing key stands)⟩
  · cases executed

theorem loginBody_ok {env : Env} {email password deviceLabel : String}
    (executed : (loginBody env email password deviceLabel).exec store = (.ok (session, material), after)) :
    ∃ user, SignedIn env user store after session := by
  obtain ⟨reply, _, seen, rest⟩ := Program.exec_statement_ok executed
  cases seen
  split at rest
  · cases rest
  next user _ =>
    split at rest
    · cases rest
    split at rest
    · exact ⟨user, issue_ok rest⟩
    · cases rest

theorem outboxAppend_created (env : SignUpEnv) (id provider : String) (user : User) :
    Repo.outboxAppend (createdEvent env id provider user) =
      (Repo.sql (.outboxInsert (createdEvent env id provider user)) "outbox: insert event 0" :) :=
  if_neg (by decide : userCreated ≠ "")

/-- The store once a user and the event of their creation are in. -/
def enrolled (env : SignUpEnv) (provider : String) (user : User) (store : Store database) : Store database :=
  (store.write (Tables.putUser user)).write (Tables.putOutbox (env.idgen 1) (createdEvent env (env.idgen 1) provider user).row)

theorem registerBody_ok {req : RegisterRequest}
    (executed : (registerBody env req).exec store = (.ok (session, material), after)) :
    ∃ user, Tables.user store user.id = none ∧
      SignedIn (env.skip 2) user (enrolled env "password" user store) after session := by
  obtain ⟨fresh, _, rest⟩ := Program.exec_pure_ok executed
  obtain ⟨hash, _, rest⟩ := Program.exec_pure_ok rest
  obtain ⟨known, _, seen, rest⟩ := Program.exec_statement_ok rest
  cases seen
  split at rest
  · cases rest
  · obtain ⟨_, _, created, rest⟩ := Program.exec_statement_ok rest
    obtain ⟨absent, _, rfl⟩ := insertUser_ok created
    rw [outboxAppend_created] at rest
    obtain ⟨_, _, appended, rest⟩ := Program.exec_statement_ok rest
    obtain ⟨_, rfl⟩ := insertOutbox_ok appended
    exact ⟨_, absent, issue_ok rest⟩

/-! The OAuth sign-in. -/

def linkTo (env : SignUpEnv) (provider : String) (profile : ProviderProfile) (user : User) : OAuthAccount :=
  ⟨user.id, provider, profile.providerUserID, env.startedAt⟩

/-- The three ways in which an identity is signed in: its user is linked
already, has the same email, or is created. -/
inductive Upserted (env : SignUpEnv) (provider : String) (profile : ProviderProfile) (before after : Store database)
    (session : Session) : Prop where
  | linked {link : OAuthAccount} {user : User} (known : Tables.account before provider profile.providerUserID = some link)
      (found : Tables.user before link.userID = some user) (signed : SignedIn (env.skip 0) user before after session)
  | adopted {id : String} {user : User} (unknown : Tables.account before provider profile.providerUserID = none)
      (found : Tables.user before id = some user) (free : before (.link user.id provider) = none)
      (signed : SignedIn (env.skip 0) user (before.write (Tables.putAccount (linkTo env provider profile user))) after session)
  | created {user : User} (unknown : Tables.account before provider profile.providerUserID = none)
      (absent : Tables.user before user.id = none) (free : before (.link user.id provider) = none)
      (signed : SignedIn (env.skip 2) user
        (enrolled env provider user (before.write (Tables.putAccount (linkTo env provider profile user)))) after session)

theorem accountUpsert_ok {account : OAuthAccount} {value : Unit}
    (unknown : Tables.account store account.provider account.providerUserID = none)
    (executed : (Repo.accountUpsert account).exec store = (.ok value, after)) :
    store (.link account.userID account.provider) = none ∧ after = store.write (Tables.putAccount account) := by
  obtain ⟨_, upserted, rfl⟩ := Program.exec_query_ok executed
  rcases upsertAccount_ok upserted with ⟨old, known, _⟩ | ⟨_, free, _, rfl⟩
  · cases unknown.symm.trans known
  · exact ⟨free, rfl⟩

/-- Users, links and events are different tables: the order of the inserts does not matter. -/
theorem enrolled_putAccount (provider : String) (user : User) (account : OAuthAccount) :
    ((store.write (Tables.putUser user)).write (Tables.putAccount account)).write
        (Tables.putOutbox (env.idgen 1) (createdEvent env (env.idgen 1) provider user).row) =
      enrolled env provider user (store.write (Tables.putAccount account)) := by
  funext key
  cases key <;> rfl

theorem createOAuthUser_ok {provider : String} {profile : ProviderProfile} {user : User}
    (unknown : Tables.account store provider profile.providerUserID = none)
    (executed : (createOAuthUser env provider profile).exec store = (.ok user, after)) :
    Tables.user store user.id = none ∧ store (.link user.id provider) = none ∧
      after = enrolled env provider user (store.write (Tables.putAccount (linkTo env provider profile user))) := by
  obtain ⟨fresh, _, rest⟩ := Program.exec_pure_ok executed
  obtain ⟨_, _, created, rest⟩ := Program.exec_statement_ok rest
  obtain ⟨absent, _, rfl⟩ := insertUser_ok created
  obtain ⟨_, _, upserted, rest⟩ := Program.exec_bind_ok rest
  obtain ⟨free, rfl⟩ := accountUpsert_ok unknown upserted
  rw [outboxAppend_created] at rest
  obtain ⟨_, _, appended, rest⟩ := Program.exec_statement_ok rest
  obtain ⟨_, rfl⟩ := insertOutbox_ok appended
  cases rest
  exact ⟨absent, free, enrolled_putAccount ..⟩

theorem upsertBody_ok {provider deviceLabel : String} {profile : ProviderProfile} {tokens : ProviderTokens}
    (executed : (upsertBody env provider profile deviceLabel tokens).exec store = (.ok (session, material), after)) :
    Upserted env provider profile store after session := by
  obtain ⟨link, _, seen, rest⟩ := Program.exec_statement_ok executed
  obtain ⟨known, rfl⟩ := Prod.mk.inj (Except.ok.inj seen)
  cases link with
  | some link =>
    obtain ⟨user, _, read, rest⟩ := Program.exec_statement_ok rest
    obtain ⟨found, rfl⟩ := Prod.mk.inj (Except.ok.inj read)
    cases user with
    | none => cases rest
    | some user => exact .linked known found (signIn_ok rest)
  | none =>
    obtain ⟨user, _, read, rest⟩ := Program.exec_statement_ok rest
    obtain ⟨found, rfl⟩ := Prod.mk.inj (Except.ok.inj read)
    cases user with
    | some user =>
      obtain ⟨id, _, present⟩ := Option.bind_eq_some_iff.mp found
      obtain ⟨_, _, upserted, rest⟩ := Program.exec_bind_ok rest
      obtain ⟨free, rfl⟩ := accountUpsert_ok known upserted
      exact .adopted known present free (signIn_ok rest)
    | none =>
      obtain ⟨user, _, created, rest⟩ := Program.exec_bind_ok rest
      obtain ⟨absent, free, rfl⟩ := createOAuthUser_ok known created
      exact .created known absent free (signIn_ok rest)

theorem consumeBody_ok {state : String} {flow : OAuthFlow} (executed : (consumeBody state).exec store = (.ok flow, after)) :
    Tables.flow store state = some flow ∧ after = store.write (Tables.deleteFlow store state) := by
  obtain ⟨read, middle, consumed, rest⟩ := Program.exec_bind_ok executed
  obtain ⟨found, _, seen, left⟩ := Program.exec_statement_ok consumed
  obtain ⟨present, rfl⟩ := Prod.mk.inj (Except.ok.inj seen)
  cases found with
  | none =>
    cases left
    cases rest
  | some row =>
    obtain ⟨_, _, deleted, left⟩ := Program.exec_statement_ok left
    obtain ⟨_, rfl⟩ := Prod.mk.inj (Except.ok.inj deleted)
    cases left
    cases rest
    exact ⟨present, rfl⟩

/-! Refresh and logout. -/

/-- The presented row became used and its successor joined the session. -/
structure Rotated (env : Env) (rt : RefreshToken) (before after : Store database) (session : Session) : Prop where
  seen : ∃ old, Tables.session before rt.sessionID = some old ∧ session = { old with lastSeenAt := env.now }
  sessions : Tables.session after = Function.update (Tables.session before) rt.sessionID (some session)
  tokens : Tables.token before rt.id = some rt →
    ∃ next : RefreshToken, next.sessionID = rt.sessionID ∧ next.expiresAt = env.now + env.refreshTokenTTL ∧
      Tables.token after =
        Function.update (Function.update (Tables.token before) rt.id (some (rt.markUsed env.now))) next.id (some next)
  standing : ∀ key, Standing key → after key = before key

theorem rotate_ok {env : Env} {rt : RefreshToken}
    (executed : (rotate env rt).exec store = (.ok (session, material), after)) :
    Rotated env rt store after session := by
  obtain ⟨user, _, read, rest⟩ := Program.exec_statement_ok executed
  cases read
  split at rest
  · cases rest
  split at rest
  · obtain ⟨_, _, marked, rest⟩ := Program.exec_statement_ok rest
    cases marked
    obtain ⟨⟨next, validator⟩, made, rest⟩ := Program.exec_pure_ok rest
    obtain ⟨_, _, inserted, rest⟩ := Program.exec_statement_ok rest
    obtain ⟨_, rfl⟩ := insertToken_ok inserted
    obtain ⟨_, _, touched, rest⟩ := Program.exec_statement_ok rest
    cases touched
    obtain ⟨access, _, rest⟩ := Program.exec_pure_ok rest
    obtain ⟨seen, _, looked, rest⟩ := Program.exec_statement_ok rest
    obtain ⟨shown, rfl⟩ := Prod.mk.inj (Except.ok.inj looked)
    cases seen with
    | none => cases rest
    | some session =>
      cases rest
      obtain ⟨_, _, terms⟩ := newRefreshToken_ok made
      have touched := session_updateSession
        ((store.write (Tables.updateToken store rt.id fun row => row.markUsed env.now)).write (Tables.putToken next))
        rt.sessionID fun row => { row with lastSeenAt := env.now }
      have same := (congrFun touched rt.sessionID).symm.trans shown
      rw [Function.update_self] at same
      rw [same] at touched
      obtain ⟨old, present, rfl⟩ := Option.map_eq_some_iff.mp same
      refine ⟨⟨old, present, rfl⟩, touched, ?_, ?_⟩
      · intro found
        refine ⟨next, by rw [terms], by rw [terms], ?_⟩
        rw [← token_updateToken found fun row => row.markUsed env.now]
        exact token_putToken _ next
      · intro key standing
        cases key <;> first | rfl | exact standing.elim
  · cases rest

theorem refreshBody_ok {env : Env} {selector validator : String}
    (executed : (refreshBody env selector validator).exec store = (.ok (session, material), after)) :
    ∃ id rt, store (.selector selector) = some id ∧ Tables.token store id = some rt ∧
      rt.verifyValidator validator env.compare = true ∧ env.now < rt.expiresAt ∧ Rotated env rt store after session := by
  obtain ⟨found, _, read, rest⟩ := Program.exec_statement_ok executed
  obtain ⟨shown, rfl⟩ := Prod.mk.inj (Except.ok.inj read)
  cases found with
  | none => cases rest
  | some rt =>
    obtain ⟨id, indexed, present⟩ := Option.bind_eq_some_iff.mp shown
    dsimp only at rest
    split at rest
    · next genuine =>
      split at rest
      · next rotates =>
        exact ⟨id, rt, indexed, present, genuine, RefreshToken.classifyUse_unexpired rotates, rotate_ok rest⟩
      · obtain ⟨_, _, _, rest⟩ := Program.exec_statement_ok rest
        cases rest
      all_goals cases rest
    · cases rest

theorem logoutBody_ok {env : Env} {selector : String} {revoked : Bool}
    (executed : (logoutBody env selector).exec store = (.ok revoked, after)) :
    after = store ∨ ∃ id rt, store (.selector selector) = some id ∧ Tables.token store id = some rt ∧
      rt.status = .active ∧ after = store.write (Tables.updateToken store rt.id fun row => row.markRevoked env.now) := by
  obtain ⟨found, _, read, rest⟩ := Program.exec_statement_ok executed
  obtain ⟨shown, rfl⟩ := Prod.mk.inj (Except.ok.inj read)
  cases found with
  | none =>
    cases rest
    exact Or.inl rfl
  | some rt =>
    obtain ⟨id, indexed, present⟩ := Option.bind_eq_some_iff.mp shown
    dsimp only at rest
    split at rest
    · next live =>
      obtain ⟨_, _, marked, rest⟩ := Program.exec_statement_ok rest
      cases marked
      cases rest
      exact Or.inr ⟨id, rt, indexed, present, live, rfl⟩
    · cases rest
      exact Or.inl rfl

end Bodies

/-! Whole requests. -/

section Requests
variable (store : Store database)

theorem register_cases (env : SignUpEnv) (req : RegisterRequest) :
    (∃ problem, register env req store = (.error problem, store)) ∨
      ∃ session material user, (register env req store).1 = .ok (session, material) ∧ Tables.user store user.id = none ∧
        SignedIn (env.skip 2) user (enrolled env "password" user store) (register env req store).2 session := by
  unfold register
  split
  · exact Or.inl ⟨_, rfl⟩
  split
  · exact Or.inl ⟨_, rfl⟩
  rcases Program.withTx_cases (registerBody env req) store with failed | ⟨⟨session, material⟩, after, committed, executed⟩
  · exact Or.inl failed
  · obtain ⟨user, absent, signed⟩ := registerBody_ok executed
    rw [committed]
    exact Or.inr ⟨session, material, user, rfl, absent, signed⟩

theorem login_cases (env : Env) (email password deviceLabel : String) :
    (login env email password deviceLabel store).2 = store ∨
      ∃ session user, SignedIn env user store (login env email password deviceLabel store).2 session := by
  unfold login
  split
  · exact Or.inl rfl
  rcases Program.withTx_cases (loginBody env email password deviceLabel) store with
    ⟨problem, failed⟩ | ⟨⟨session, material⟩, after, committed, executed⟩
  · rw [failed]
    exact Or.inl rfl
  · obtain ⟨user, signed⟩ := loginBody_ok executed
    rw [committed]
    exact Or.inr ⟨session, user, signed⟩

theorem beginOAuth_cases (env : Env) (flowTTL : Duration) (registry : Option Registry) (req : BeginOAuthRequest) :
    (beginOAuth env flowTTL registry req store).2 = store ∨
      ∃ flow, Begun env flowTTL req flow ∧
        (beginOAuth env flowTTL registry req store).2 = store.write (Tables.putFlow flow) := by
  unfold beginOAuth
  split
  · exact Or.inl rfl
  split
  · exact Or.inl rfl
  split
  · exact Or.inl rfl
  next provider registered =>
    cases made : newOAuthFlow env.randomURL env.now req.provider req.redirectURI req.codeChallenge "" flowTTL with
    | error problem => exact Or.inl rfl
    | ok flow =>
      rcases Program.withTx_cases (Repo.createFlow flow) store with
        ⟨problem, failed⟩ | ⟨_, after, committed, executed⟩
      · left
        simp only [reporting, failed]
      · obtain ⟨_, inserted, rfl⟩ := Program.exec_query_ok executed
        obtain ⟨_, codeChallenge, rfl⟩ := insertFlow_ok inserted
        refine Or.inr ⟨{ flow with codeChallenge }, newOAuthFlow_begun made codeChallenge, ?_⟩
        simp only [reporting, committed]
        cases provider.authorizationURL req.redirectURI flow.state flow.codeChallenge <;> rfl

/-- The first transaction of a `CompleteOAuth`. -/
theorem consume_cases (state : String) :
    (∃ problem, (consumeBody state).withTx store = (.error problem, store)) ∨
      ∃ flow, Tables.flow store state = some flow ∧
        (consumeBody state).withTx store = (.ok flow, store.write (Tables.deleteFlow store state)) := by
  rcases Program.withTx_cases (consumeBody state) store with failed | ⟨flow, after, committed, executed⟩
  · exact Or.inl failed
  · obtain ⟨found, rfl⟩ := consumeBody_ok executed
    exact Or.inr ⟨flow, found, committed⟩

/-- The second one. -/
theorem upsert_cases (env : SignUpEnv) (provider : String) (profile : ProviderProfile) (deviceLabel : String)
    (tokens : ProviderTokens) :
    (∃ problem, (upsertBody env provider profile deviceLabel tokens).withTx store = (.error problem, store)) ∨
      ∃ session material after, Upserted env provider profile store after session ∧
        (upsertBody env provider profile deviceLabel tokens).withTx store = (.ok (session, material), after) := by
  rcases Program.withTx_cases (upsertBody env provider profile deviceLabel tokens) store with
    failed | ⟨⟨session, material⟩, after, committed, executed⟩
  · exact Or.inl failed
  · exact Or.inr ⟨session, material, after, upsertBody_ok executed, committed⟩

/-- The outcomes of a `CompleteOAuth`. A failure after the first transaction has
used the flow up. -/
inductive Completed (env : SignUpEnv) (registry : Option Registry) (req : CompleteOAuthRequest) (before : Store database) :
    Except Err (Session × TokenMaterial) × Store database → Prop where
  | refused {problem : Err} : Completed env registry req before (.error problem, before)
  | consumed {problem : Err} {flow : OAuthFlow} (found : Tables.flow before req.state = some flow) :
      Completed env registry req before (.error problem, before.write (Tables.deleteFlow before req.state))
  | signedIn {registered : Registry} {provider : OAuthProvider} {flow : OAuthFlow} {tokens : ProviderTokens}
      {profile : ProviderProfile} {session : Session} {material : TokenMaterial} {after : Store database}
      (enabled : registry = some registered) (known : registered.get req.provider = some provider)
      (found : Tables.flow before req.state = some flow) (answered : askProvider provider req flow = .ok (tokens, profile))
      (upserted : Upserted env provider.name profile (before.write (Tables.deleteFlow before req.state)) after session) :
      Completed env registry req before (.ok (session, material), after)

theorem completeOAuth_completed (env : SignUpEnv) (registry : Option Registry) (req : CompleteOAuthRequest) :
    Completed env registry req store (completeOAuth env registry req store) := by
  unfold completeOAuth
  cases registry with
  | none => exact .refused
  | some registry =>
    dsimp only
    cases known : registry.get req.provider with
    | none => exact .refused
    | some provider =>
      dsimp only
      rcases consume_cases store req.state with ⟨problem, failed⟩ | ⟨flow, found, committed⟩
      · rw [failed]
        exact .refused
      rw [committed]
      dsimp only
      cases answered : askProvider provider req flow with
      | error problem => exact .consumed found
      | ok answer =>
        obtain ⟨tokens, profile⟩ := answer
        dsimp only
        rcases upsert_cases (store.write (Tables.deleteFlow store req.state)) env provider.name profile flow.userAgent tokens
          with ⟨problem, failed⟩ | ⟨session, material, after, upserted, committed⟩
        · rw [failed]
          exact .consumed found
        · rw [committed]
          exact .signedIn rfl known found answered upserted

theorem refreshToken_cases (env : Env) (presented : String) :
    (∃ problem, refreshToken env presented store = (.error problem, store)) ∨
      ∃ session material rt, (refreshToken env presented store).1 = .ok (session, material) ∧
        AuthReuse.Presents store presented rt ∧ (splitSelectorValidator presented).1 ≠ "" ∧
        (splitSelectorValidator presented).2 ≠ "" ∧
        rt.verifyValidator (splitSelectorValidator presented).2 env.compare = true ∧ env.now < rt.expiresAt ∧
        Rotated env rt store (refreshToken env presented store).2 session := by
  unfold refreshToken
  split
  · exact Or.inl ⟨_, rfl⟩
  unfold refreshUseCase
  dsimp only
  split
  · exact Or.inl ⟨_, rfl⟩
  next whole =>
    obtain ⟨named, secret⟩ := not_or.mp whole
    rcases Program.withTx_cases (refreshBody env (splitSelectorValidator presented).1 (splitSelectorValidator presented).2)
        store with failed | ⟨⟨session, material⟩, after, committed, executed⟩
    · exact Or.inl failed
    · obtain ⟨id, rt, indexed, found, genuine, unexpired, rotated⟩ := refreshBody_ok executed
      rw [committed]
      exact Or.inr ⟨session, material, rt, rfl, ⟨id, indexed, found⟩, named, secret, genuine, unexpired, rotated⟩

theorem logout_cases (env : Env) (presented : String) :
    (logout env presented store).2 = store ∨
      ∃ rt, AuthReuse.Presents store presented rt ∧ (splitSelectorValidator presented).1 ≠ "" ∧ rt.status = .active ∧
        (logout env presented store).2 = store.write (Tables.updateToken store rt.id fun row => row.markRevoked env.now) := by
  unfold logout
  dsimp only
  split
  · exact Or.inl rfl
  next whole =>
    obtain ⟨_, named⟩ := not_or.mp whole
    rcases Program.withTx_cases (logoutBody env (splitSelectorValidator presented).1) store with
      ⟨problem, failed⟩ | ⟨_, after, committed, executed⟩
    · rw [failed]
      exact Or.inl rfl
    · rw [committed]
      rcases logoutBody_ok executed with same | ⟨id, rt, indexed, found, live, same⟩
      · exact Or.inl same
      · exact Or.inr ⟨rt, ⟨id, indexed, found⟩, named, live, same⟩

end Requests

inductive Call where
  | register (env : SignUpEnv) (req : RegisterRequest)
  | login (env : Env) (email password deviceLabel : String)
  | beginOAuth (env : Env) (flowTTL : Duration) (registry : Option Registry) (req : BeginOAuthRequest)
  | completeOAuth (env : SignUpEnv) (registry : Option Registry) (req : CompleteOAuthRequest)
  | refreshToken (env : Env) (presented : String)
  | logout (env : Env) (presented : String)

/-- One request, served from beginning to end. -/
def serve (store : Store database) : Call → Store database
  | .register env req => (register env req store).2
  | .login env email password deviceLabel => (login env email password deviceLabel store).2
  | .beginOAuth env flowTTL registry req => (beginOAuth env flowTTL registry req store).2
  | .completeOAuth env registry req => (completeOAuth env registry req store).2
  | .refreshToken env presented => (refreshToken env presented store).2
  | .logout env presented => (logout env presented store).2

section Invariant
variable {invariant : Store database → Prop} (keeps : database.Keeps invariant) {store : Store database} (holds : invariant store)
include keeps holds

theorem beginOAuth_invariant (env : Env) (flowTTL : Duration) (registry : Option Registry) (req : BeginOAuthRequest) :
    invariant (beginOAuth env flowTTL registry req store).2 := by
  simp only [beginOAuth]
  split
  · exact holds
  split
  · exact holds
  split
  · exact holds
  split
  · exact holds
  next flow _ =>
    -- the answer depends on whether the flow was written, the store does not
    have kept := Program.withTx_invariant keeps (Repo.createFlow flow) holds
    generalize (Repo.createFlow flow).withTx store = outcome at kept ⊢
    split
    · exact kept
    · split <;> exact kept

theorem completeOAuth_invariant (env : SignUpEnv) (registry : Option Registry) (req : CompleteOAuthRequest) :
    invariant (completeOAuth env registry req store).2 := by
  simp only [completeOAuth]
  split
  · exact holds
  split
  · exact holds
  -- the flow is consumed in a transaction of its own
  have kept := Program.withTx_invariant keeps (consumeBody req.state) holds
  generalize (consumeBody req.state).withTx store = outcome at kept ⊢
  split
  · exact kept
  split
  · exact kept
  · exact Program.withTx_invariant keeps _ kept

/-- What every statement keeps, every request keeps. -/
theorem serve_invariant (call : Call) : invariant (serve store call) := by
  cases call with
  | register env req =>
    simp only [serve, register]
    split
    · exact holds
    split
    · exact holds
    · exact Program.withTx_invariant keeps _ holds
  | login env email password deviceLabel =>
    simp only [serve, login]
    split
    · exact holds
    · exact Program.withTx_invariant keeps _ holds
  | beginOAuth env flowTTL registry req => exact beginOAuth_invariant keeps holds env flowTTL registry req
  | completeOAuth env registry req => exact completeOAuth_invariant keeps holds env registry req
  | refreshToken env presented =>
    simp only [serve, refreshToken, refreshUseCase]
    split
    · exact holds
    split
    · exact holds
    · exact Program.withTx_invariant keeps _ holds
  | logout env presented =>
    simp only [serve, logout]
    split
    · exact holds
    · exact Program.withTx_invariant keeps _ holds

end Invariant

/-- What one request can do to the store. -/
inductive Moved (before : Store database) : Call → Store database → Prop where
  | stays {call : Call} : Moved before call before
  | registered {env : SignUpEnv} {req : RegisterRequest} {user : User} {session : Session} {after : Store database}
      (absent : Tables.user before user.id = none)
      (signed : SignedIn (env.skip 2) user (enrolled env "password" user before) after session) :
      Moved before (.register env req) after
  | loggedIn {env : Env} {email password deviceLabel : String} {user : User} {session : Session} {after : Store database}
      (signed : SignedIn env user before after session) : Moved before (.login env email password deviceLabel) after
  | began {env : Env} {flowTTL : Duration} {registry : Option Registry} {req : BeginOAuthRequest} {flow : OAuthFlow}
      (begun : Begun env flowTTL req flow) :
      Moved before (.beginOAuth env flowTTL registry req) (before.write (Tables.putFlow flow))
  | consumed {env : SignUpEnv} {registry : Option Registry} {req : CompleteOAuthRequest} :
      Moved before (.completeOAuth env registry req) (before.write (Tables.deleteFlow before req.state))
  | completed {env : SignUpEnv} {registry : Option Registry} {req : CompleteOAuthRequest} {provider : String}
      {profile : ProviderProfile} {session : Session} {after : Store database}
      (upserted : Upserted env provider profile (before.write (Tables.deleteFlow before req.state)) after session) :
      Moved before (.completeOAuth env registry req) after
  | refreshed {env : Env} {presented : String} {rt : RefreshToken} {session : Session} {after : Store database}
      (presents : AuthReuse.Presents before presented rt) (rotated : Rotated env rt before after session) :
      Moved before (.refreshToken env presented) after
  | revoked {env : Env} {presented : String} {rt : RefreshToken} (presents : AuthReuse.Presents before presented rt) :
      Moved before (.logout env presented)
        (before.write (Tables.updateToken before rt.id fun row => row.markRevoked env.now))

theorem serve_moved (store : Store database) (call : Call) : Moved store call (serve store call) := by
  cases call with
  | register env req =>
    rcases register_cases store env req with ⟨problem, failed⟩ | ⟨session, material, user, _, absent, signed⟩
    · rw [serve, failed]
      exact .stays
    · exact .registered absent signed
  | login env email password deviceLabel =>
    rcases login_cases store env email password deviceLabel with same | ⟨session, user, signed⟩
    · rw [serve, same]
      exact .stays
    · exact .loggedIn signed
  | beginOAuth env flowTTL registry req =>
    rcases beginOAuth_cases store env flowTTL registry req with same | ⟨flow, made, same⟩
    · rw [serve, same]
      exact .stays
    · rw [serve, same]
      exact .began made
  | completeOAuth env registry req =>
    have completed := completeOAuth_completed store env registry req
    rw [serve]
    generalize completeOAuth env registry req store = outcome at completed
    cases completed with
    | refused => exact .stays
    | consumed _ => exact .consumed
    | signedIn _ _ _ _ upserted => exact .completed upserted
  | refreshToken env presented =>
    rcases refreshToken_cases store env presented with
      ⟨problem, failed⟩ | ⟨session, _, rt, _, presents, _, _, _, _, rotated⟩
    · rw [serve, failed]
      exact .stays
    · exact .refreshed presents rotated
  | logout env presented =>
    rcases logout_cases store env presented with same | ⟨rt, presents, _, _, same⟩
    · rw [serve, same]
      exact .stays
    · rw [serve, same]
      exact .revoked presents

end VibeSync.Proofs.AuthSteps
