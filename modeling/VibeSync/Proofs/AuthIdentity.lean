import VibeSync.Machine
import VibeSync.PartialMap
import VibeSync.Proofs.AuthFlows

/-! Identities at a provider and the users they belong to. A link is written
once, by a transaction that has found none; the conflict that its insert would
ignore cannot happen while transactions run one after another. -/

namespace VibeSync.Proofs.AuthIdentity
open VibeSync.Auth Transaction VibeSync.Proofs.AuthTables VibeSync.Proofs.AuthSteps

section Identities
variable [Collation]

/-- Users are stored under their id, and every link is in the index of the
providers of its user. -/
structure Linked (store : Store database) : Prop where
  keyed : ∀ id user, Tables.user store id = some user → user.id = id
  indexed : ∀ provider identity link, Tables.account store provider identity = some link →
    store (.link link.userID provider) = some identity

theorem Linked.of_empty {store : Store database} (nobody : ∀ id, Tables.user store id = none)
    (unlinked : ∀ provider identity, Tables.account store provider identity = none) : Linked store := by
  constructor
  · intro id user found
    cases (nobody id).symm.trans found
  · intro provider identity link found
    cases (unlinked provider identity).symm.trans found

/-- A user has one identity of each provider at most. -/
theorem Linked.unique {store : Store database} (linked : Linked store) {provider first second : String}
    {link other : OAuthAccount} (found : Tables.account store provider first = some link)
    (held : Tables.account store provider second = some other) (same : link.userID = other.userID) : first = second := by
  have one := linked.indexed provider first link found
  have two := linked.indexed provider second other held
  rw [same] at one
  exact Option.some.inj (one.symm.trans two)

/-- Users and links, with their indexes. -/
def Personal : Key → Prop
  | .user _ | .email _ | .username _ | .account _ _ | .link _ _ => True
  | _ => False

omit [Collation] in
theorem standing_of_personal {key : Key} (personal : Personal key) : Standing key := by
  cases key <;> trivial

/-- Links stay. -/
def Keeps (before after : Store database) : Prop :=
  ∀ provider identity link, Tables.account before provider identity = some link →
    Tables.account after provider identity = some link

theorem Keeps.refl (store : Store database) : Keeps store store := fun _ _ _ found => found

theorem Keeps.trans {first second third : Store database} (left : Keeps first second) (right : Keeps second third) :
    Keeps first third := fun provider identity link found => right _ _ _ (left provider identity link found)

theorem Linked.congr {before after : Store database} (same : ∀ key, Personal key → after key = before key)
    (linked : Linked before) : Linked after ∧ Keeps before after := by
  have users : Tables.user after = Tables.user before := funext fun id => same (.user id) trivial
  have links : Tables.account after = Tables.account before :=
    funext fun provider => funext fun identity => same (.account provider identity) trivial
  refine ⟨⟨?_, ?_⟩, ?_⟩
  · rw [users]
    exact linked.keyed
  · intro provider identity link found
    rw [same (.link link.userID provider) trivial]
    rw [links] at found
    exact linked.indexed provider identity link found
  · intro provider identity link found
    rw [links]
    exact found

theorem Linked.signedIn {env : Env} {user : User} {before after : Store database} {session : Session}
    (signed : SignedIn env user before after session) (linked : Linked before) : Linked after ∧ Keeps before after :=
  linked.congr fun key personal => signed.standing key (standing_of_personal personal)

theorem Linked.enrolled {store : Store database} (linked : Linked store) (env : SignUpEnv) (provider : String) (user : User) :
    Linked (enrolled env provider user store) := by
  refine ⟨?_, linked.indexed⟩
  intro id row found
  change Tables.user (store.write (Tables.putUser user)) id = some row at found
  rw [user_putUser] at found
  rcases PartialMap.update_eq_some found with ⟨same, rfl⟩ | found
  · exact same.symm
  · exact linked.keyed id row found

section Link
variable {store : Store database} {new : OAuthAccount}

theorem account_putAccount (provider identity : String) :
    Tables.account (store.write (Tables.putAccount new)) provider identity =
      if provider = new.provider ∧ identity = new.providerUserID then some new
      else Tables.account store provider identity := by
  rw [account_write, Tables.putAccount]
  split <;> rfl

theorem Linked.putAccount (linked : Linked store) (unknown : Tables.account store new.provider new.providerUserID = none)
    (free : store (.link new.userID new.provider) = none) :
    Linked (store.write (Tables.putAccount new)) ∧ Keeps store (store.write (Tables.putAccount new)) := by
  refine ⟨⟨linked.keyed, ?_⟩, ?_⟩
  · intro provider identity link found
    rw [account_putAccount] at found
    split at found
    · next here =>
      cases found
      rw [here.1, here.2]
      exact Store.write_of_some (by simp [Tables.putAccount]) store
    · have old := linked.indexed provider identity link found
      have other : ¬ (link.userID = new.userID ∧ provider = new.provider) := by
        rintro ⟨owner, same⟩
        rw [owner, same, free] at old
        cases old
      rw [Store.write_of_none (by simp [Tables.putAccount, other])]
      exact old
  · intro provider identity link found
    rw [account_putAccount, if_neg]
    · exact found
    · rintro ⟨rfl, rfl⟩
      cases unknown.symm.trans found

end Link

/-- The session of an upsert is for the user to whom the identity is linked afterwards. -/
theorem Linked.upserted {env : SignUpEnv} {provider : String} {profile : ProviderProfile} {before after : Store database}
    {session : Session} (upserted : Upserted env provider profile before after session) (linked : Linked before) :
    Linked after ∧ Keeps before after ∧
      ∃ link, Tables.account after provider profile.providerUserID = some link ∧ session.userID = link.userID := by
  cases upserted with
  | @linked link user known found signed =>
    obtain ⟨kept, keeps⟩ := Linked.signedIn signed linked
    exact ⟨kept, keeps, link, keeps _ _ _ known, signed.owner.trans (linked.keyed _ _ found)⟩
  | @adopted id user unknown found free signed =>
    obtain ⟨adopted, keeps⟩ := @Linked.putAccount _ before (linkTo env provider profile user) linked unknown free
    obtain ⟨kept, later⟩ := Linked.signedIn signed adopted
    refine ⟨kept, keeps.trans later, linkTo env provider profile user, later _ _ _ ?_, signed.owner⟩
    rw [account_putAccount, if_pos ⟨rfl, rfl⟩]
  | @created user unknown absent free signed =>
    obtain ⟨adopted, keeps⟩ := @Linked.putAccount _ before (linkTo env provider profile user) linked unknown free
    obtain ⟨kept, later⟩ := Linked.signedIn signed (adopted.enrolled env provider user)
    refine ⟨kept, keeps.trans later, linkTo env provider profile user, later _ _ _ ?_, signed.owner⟩
    change Tables.account (before.write (Tables.putAccount (linkTo env provider profile user))) _ _ = _
    rw [account_putAccount, if_pos ⟨rfl, rfl⟩]

/-! Runs of requests and of single transactions. -/

/-- Between the two transactions of a `CompleteOAuth` those of other requests may
run, so each of them is an event of its own as well. -/
inductive Event where
  | call (call : Call)
  | consume (state : String)
  | upsert (env : SignUpEnv) (provider : String) (profile : ProviderProfile) (deviceLabel : String) (tokens : ProviderTokens)

def step (store : Store database) : Event → Store database
  | .call call => serve store call
  | .consume state => ((consumeBody state).withTx store).2
  | .upsert env provider profile deviceLabel tokens => ((upsertBody env provider profile deviceLabel tokens).withTx store).2

theorem run_invariant {invariant : Store database → Prop} (keeps : database.Keeps invariant) {store : Store database}
    (holds : invariant store) (events : List Event) : invariant (Machine.run step store events) := by
  refine Machine.run_invariant invariant (fun middle event held => ?_) holds events
  cases event with
  | call call => exact serve_invariant keeps held call
  | consume state => exact Program.withTx_invariant keeps _ held
  | upsert env provider profile deviceLabel tokens => exact Program.withTx_invariant keeps _ held

theorem consumed_personal (store : Store database) (state : String) (key : Key) (personal : Personal key) :
    store.write (Tables.deleteFlow store state) key = store key := by
  cases key <;> first | rfl | exact personal.elim

theorem Linked.serve {store : Store database} (linked : Linked store) (call : Call) :
    Linked (AuthSteps.serve store call) ∧ Keeps store (AuthSteps.serve store call) := by
  have moved := serve_moved store call
  generalize AuthSteps.serve store call = after at moved ⊢
  cases moved with
  | stays => exact ⟨linked, Keeps.refl store⟩
  | @registered env req user session _ absent signed =>
    obtain ⟨kept, keeps⟩ := Linked.signedIn signed (linked.enrolled env "password" user)
    exact ⟨kept, keeps⟩
  | loggedIn signed => exact Linked.signedIn signed linked
  | began _ => exact linked.congr fun key personal => by cases key <;> first | rfl | exact personal.elim
  | consumed => exact linked.congr (consumed_personal store _)
  | completed upserted =>
    obtain ⟨consumed, keeps⟩ := linked.congr (consumed_personal store _)
    obtain ⟨kept, later, _⟩ := Linked.upserted upserted consumed
    exact ⟨kept, keeps.trans later⟩
  | refreshed _ rotated => exact linked.congr fun key personal => rotated.standing key (standing_of_personal personal)
  | revoked _ => exact linked.congr fun key personal => by cases key <;> first | rfl | exact personal.elim

theorem Linked.step {store : Store database} (linked : Linked store) (event : Event) :
    Linked (AuthIdentity.step store event) ∧ Keeps store (AuthIdentity.step store event) := by
  cases event with
  | call call => exact linked.serve call
  | consume state =>
    rcases consume_cases store state with ⟨problem, failed⟩ | ⟨flow, _, committed⟩
    · rw [AuthIdentity.step, failed]
      exact ⟨linked, Keeps.refl store⟩
    · rw [AuthIdentity.step, committed]
      exact linked.congr (consumed_personal store state)
  | upsert env provider profile deviceLabel tokens =>
    rcases upsert_cases store env provider profile deviceLabel tokens with
      ⟨problem, failed⟩ | ⟨session, material, after, upserted, committed⟩
    · rw [AuthIdentity.step, failed]
      exact ⟨linked, Keeps.refl store⟩
    · rw [AuthIdentity.step, committed]
      obtain ⟨kept, keeps, _⟩ := Linked.upserted upserted linked
      exact ⟨kept, keeps⟩

theorem Linked.run {store : Store database} (linked : Linked store) (events : List Event) :
    Linked (Machine.run AuthIdentity.step store events) ∧ Keeps store (Machine.run AuthIdentity.step store events) := by
  refine Machine.run_invariant (fun later => Linked later ∧ Keeps store later) (fun middle event holds => ?_)
    ⟨linked, Keeps.refl store⟩ events
  obtain ⟨next, keeps⟩ := holds.1.step event
  exact ⟨next, holds.2.trans keeps⟩

/-- The identity that a `CompleteOAuth` would sign in: who the provider says it is. -/
def identityOf (registry : Option Registry) (req : CompleteOAuthRequest) (store : Store database) :
    Option (String × String) := do
  let provider ← (← registry).get req.provider
  let flow ← Tables.flow store req.state
  let (_, profile) ← (askProvider provider req flow).toOption
  return (provider.name, profile.providerUserID)

/-- Between `middle` and `final` a provider identity means one user. -/
structure OneUser (middle final : Store database) : Prop where
  kept : ∀ provider identity link, Tables.account middle provider identity = some link →
    Tables.account final provider identity = some link
  sessions : ∀ env registry req session material, (completeOAuth env registry req final).1 = .ok (session, material) →
    ∃ provider identity link, identityOf registry req final = some (provider, identity) ∧
      Tables.account (completeOAuth env registry req final).2 provider identity = some link ∧ session.userID = link.userID ∧
      ∀ old, Tables.account middle provider identity = some old → session.userID = old.userID
  upserts : ∀ env provider profile deviceLabel tokens session material,
    ((upsertBody env provider profile deviceLabel tokens).withTx final).1 = .ok (session, material) →
    ∀ old, Tables.account middle provider profile.providerUserID = some old → session.userID = old.userID
  unique : ∀ provider first second link other, Tables.account final provider first = some link →
    Tables.account final provider second = some other → link.userID = other.userID → first = second
  failures : ∀ env registry req problem, (completeOAuth env registry req final).1 = .error problem →
    ∀ key, Personal key → (completeOAuth env registry req final).2 key = final key
  rollbacks : ∀ env provider profile deviceLabel tokens problem,
    ((upsertBody env provider profile deviceLabel tokens).withTx final).1 = .error problem →
    ((upsertBody env provider profile deviceLabel tokens).withTx final).2 = final

theorem session_of_keeps {middle before after : Store database} {provider identity : String} {session : Session}
    {link : OAuthAccount} (keeps : Keeps middle before) (later : Keeps before after)
    (found : Tables.account after provider identity = some link) (owner : session.userID = link.userID)
    (old : OAuthAccount) (held : Tables.account middle provider identity = some old) : session.userID = old.userID := by
  cases (keeps.trans later _ _ _ held).symm.trans found
  exact owner

section Outcomes
variable {middle store : Store database}

theorem completeOAuth_session (keeps : Keeps middle store) (linked : Linked store) {env : SignUpEnv}
    {registry : Option Registry} {req : CompleteOAuthRequest} {session : Session} {material : TokenMaterial}
    (issued : (completeOAuth env registry req store).1 = .ok (session, material)) :
    ∃ provider identity link, identityOf registry req store = some (provider, identity) ∧
      Tables.account (completeOAuth env registry req store).2 provider identity = some link ∧ session.userID = link.userID ∧
      ∀ old, Tables.account middle provider identity = some old → session.userID = old.userID := by
  have completed := completeOAuth_completed store env registry req
  generalize completeOAuth env registry req store = outcome at completed issued ⊢
  cases completed with
  | refused => cases issued
  | consumed _ => cases issued
  | @signedIn registered provider flow tokens profile _ _ after enabled known found answered upserted =>
    cases issued
    obtain ⟨consumed, same⟩ := linked.congr (consumed_personal store req.state)
    obtain ⟨_, grows, link, here, owner⟩ := Linked.upserted upserted consumed
    refine ⟨provider.name, profile.providerUserID, link, ?_, here, owner,
      session_of_keeps keeps (same.trans grows) here owner⟩
    rw [enabled]
    simp [identityOf, known, found, answered, Except.toOption]

theorem upsert_session (keeps : Keeps middle store) (linked : Linked store) {env : SignUpEnv} {provider deviceLabel : String}
    {profile : ProviderProfile} {tokens : ProviderTokens} {session : Session} {material : TokenMaterial}
    (issued : ((upsertBody env provider profile deviceLabel tokens).withTx store).1 = .ok (session, material))
    (old : OAuthAccount) (held : Tables.account middle provider profile.providerUserID = some old) :
    session.userID = old.userID := by
  rcases upsert_cases store env provider profile deviceLabel tokens with
    ⟨problem, failed⟩ | ⟨_, _, after, upserted, committed⟩
  · rw [failed] at issued
    cases issued
  · rw [committed] at issued
    cases issued
    obtain ⟨_, grows, link, here, owner⟩ := Linked.upserted upserted linked
    exact session_of_keeps keeps grows here owner old held

theorem completeOAuth_failed {env : SignUpEnv} {registry : Option Registry} {req : CompleteOAuthRequest} {problem : Err}
    (failed : (completeOAuth env registry req store).1 = .error problem) (key : Key) (personal : Personal key) :
    (completeOAuth env registry req store).2 key = store key := by
  have completed := completeOAuth_completed store env registry req
  generalize completeOAuth env registry req store = outcome at completed failed ⊢
  cases completed with
  | refused => rfl
  | consumed _ => exact consumed_personal store req.state key personal
  | signedIn _ _ _ _ _ => cases failed

theorem upsert_failed {env : SignUpEnv} {provider deviceLabel : String} {profile : ProviderProfile} {tokens : ProviderTokens}
    {problem : Err}
    (failed : ((upsertBody env provider profile deviceLabel tokens).withTx store).1 = .error problem) :
    ((upsertBody env provider profile deviceLabel tokens).withTx store).2 = store := by
  rcases upsert_cases store env provider profile deviceLabel tokens with ⟨_, same⟩ | ⟨_, _, _, _, committed⟩
  · rw [same]
  · rw [committed] at failed
    cases failed

end Outcomes

/-- Over any requests, in any two states of a run, an identity means one user. -/
theorem identity_means_one_user (store : Store database) (linked : Linked store) (earlier later : List Event) :
    OneUser (Machine.run step store earlier) (Machine.run step store (earlier ++ later)) := by
  obtain ⟨halfway, _⟩ := linked.run earlier
  obtain ⟨final, keeps⟩ := halfway.run later
  rw [Machine.run_append]
  exact {
    kept := keeps
    sessions := fun _ _ _ _ _ issued => completeOAuth_session keeps final issued
    upserts := fun _ _ _ _ _ _ _ issued => upsert_session keeps final issued
    unique := fun _ _ _ _ _ found held same => final.unique found held same
    failures := fun _ _ _ _ failed => completeOAuth_failed failed
    rollbacks := fun _ _ _ _ _ _ failed => upsert_failed failed }

end Identities

/-! One identity, first with one email and then with another. -/

def firstVisit : List Event :=
  [.call AuthFlows.begins, .call (.completeOAuth (AuthFlows.signingUp 12) (some AuthFlows.providers) (AuthFlows.completing "google"))]

def returning : SignUpEnv :=
  { AuthFlows.signingUp 20 with
    idgen := fun n => ["d2", "f2", "t2"].getD n ""
    randomURL := fun bytes => .ok (if bytes = selectorBytes then "s3" else "v3") }

local instance : Collation := .c

theorem returning_with_another_email :
    ((upsertBody returning "google" ⟨"p1", "bob@b.c", "", ""⟩ "" ⟨"", "", "", 0⟩).withTx
        (Machine.run step AuthFlows.nothing (firstVisit ++ []))).1.toOption.map (fun issued => issued.1.userID) = some "u1" ∧
      OneUser (Machine.run step AuthFlows.nothing firstVisit) (Machine.run step AuthFlows.nothing (firstVisit ++ [])) :=
  ⟨by decide +kernel,
    identity_means_one_user AuthFlows.nothing (Linked.of_empty (fun _ => rfl) fun _ _ => rfl) firstVisit []⟩

end VibeSync.Proofs.AuthIdentity
