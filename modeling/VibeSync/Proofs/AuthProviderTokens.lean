import VibeSync.Auth.ProviderTokens
import VibeSync.Proofs.AuthIdentity
import VibeSync.Proofs.TransactionLogic

/-! Provider refresh tokens over sign-ins and renewals. A renewal carries the old
refresh token on when the provider sends none; a sign-in stores what it gets. -/

namespace VibeSync.Proofs.AuthProviderTokens
open VibeSync.Auth Transaction AuthTables

section Tokens

variable [Collation] {decrypt : String → Except Err String} {provider userID : String} {store : Store database}

/-- A refresh token that the provider would take. -/
def Usable (decrypt : String → Except Err String) (token : ProviderToken) : Prop :=
  ∃ refresh, decrypt token.refreshTokenEnc = .ok refresh ∧ refresh ≠ ""

/-- The pair has a usable refresh token. -/
def HasRefresh (decrypt : String → Except Err String) (provider userID : String) (store : Store database) : Prop :=
  ∃ token, store (.providerToken provider userID) = some token ∧ Usable decrypt token

/-- What is written to the tokens of the pair is usable. -/
def Preserves (decrypt : String → Except Err String) (provider userID : String) (written : Writes database) : Prop :=
  ∀ row, written (.providerToken provider userID) = some row → ∃ token, row = some token ∧ Usable decrypt token

theorem preserves_of_spared {written : Writes database} (spared : written (.providerToken provider userID) = none) :
    Preserves decrypt provider userID written := by
  intro row found
  rw [spared] at found
  cases found

theorem preserves_empty : Preserves decrypt provider userID Writes.empty := preserves_of_spared rfl

theorem Preserves.andThen {first second : Writes database} (left : Preserves decrypt provider userID first)
    (right : Preserves decrypt provider userID second) : Preserves decrypt provider userID (first.andThen second) := by
  intro row found
  rw [Writes.andThen] at found
  cases later : second (.providerToken provider userID) with
  | none =>
    rw [later, Option.none_or] at found
    exact left row found
  | some written =>
    rw [later, Option.some_or] at found
    cases found
    exact right row later

theorem HasRefresh.write (has : HasRefresh decrypt provider userID store) {written : Writes database}
    (preserves : Preserves decrypt provider userID written) : HasRefresh decrypt provider userID (store.write written) := by
  cases found : written (.providerToken provider userID) with
  | none =>
    obtain ⟨token, stored, usable⟩ := has
    exact ⟨token, (Store.write_of_none found store).trans stored, usable⟩
  | some row =>
    obtain ⟨token, rfl, usable⟩ := preserves row found
    exact ⟨token, Store.write_of_some found store, usable⟩

/-! What the statements write. -/

/-- Only one statement writes the tokens of the pair. -/
def Stores (provider userID : String) (token : ProviderToken) (sql : Statement) : Prop :=
  sql = .providerTokenUpsert token ∧ provider = token.provider ∧ userID = token.userID

theorem execute_preserves {sql : Statement} (usable : ∀ token, Stores provider userID token sql → Usable decrypt token)
    (store : Store database) (reply : Reply sql) (written : Writes database)
    (executed : database.execute sql store = .ok (reply, written)) : Preserves decrypt provider userID written := by
  cases sql with
  | providerTokenUpsert token =>
    obtain rfl := upsertProviderToken_ok executed
    intro row found
    simp only [Tables.putProviderToken] at found
    split at found
    next here =>
      cases found
      exact ⟨token, rfl, usable token ⟨rfl, here⟩⟩
    · cases found
  | createSession session =>
    obtain ⟨_, _, _, _, rfl⟩ := insertSession_ok executed
    exact preserves_of_spared rfl
  | createToken token =>
    obtain ⟨_, rfl⟩ := insertToken_ok executed
    exact preserves_of_spared rfl
  | createUser user =>
    obtain ⟨_, _, _, rfl⟩ := insertUser_ok executed
    exact preserves_of_spared rfl
  | createFlow flow =>
    obtain ⟨_, _, rfl⟩ := insertFlow_ok executed
    exact preserves_of_spared rfl
  | accountUpsert account =>
    rcases upsertAccount_ok executed with ⟨_, _, rfl⟩ | ⟨_, _, _, rfl⟩
    · exact preserves_empty
    · exact preserves_of_spared rfl
  | outboxInsert event =>
    obtain ⟨_, rfl⟩ := insertOutbox_ok executed
    exact preserves_of_spared rfl
  | _ =>
    cases executed
    exact preserves_of_spared rfl

theorem query_preserves {sql : Statement} {failed : Err → Err}
    (usable : ∀ token, Stores provider userID token sql → Usable decrypt token) :
    (@Program.query database Err sql failed).Within (Preserves decrypt provider userID) :=
  ⟨execute_preserves usable, fun _ => trivial⟩

/-- A statement of another table. -/
theorem other_preserves {sql : Statement} {failed : Err → Err} (other : ∀ token, sql ≠ .providerTokenUpsert token) :
    (@Program.query database Err sql failed).Within (Preserves decrypt provider userID) :=
  query_preserves fun token stores => absurd stores.1 (other token)

/-! What the calls write. -/

theorem issue_preserves (env : Env) (user : User) (deviceLabel : String) :
    (issueSessionForUser env user deviceLabel).Within (Preserves decrypt provider userID) :=
  Program.Within.bind (other_preserves nofun) fun _ => Program.Within.bind trivial fun ⟨_, _⟩ =>
    Program.Within.bind (other_preserves nofun) fun _ => Program.Within.bind trivial fun _ => trivial

/-- What is encrypted can be decrypted. -/
def Ciphers (decrypt encrypt : String → Except Err String) : Prop :=
  ∀ plain sealed_, encrypt plain = .ok sealed_ → decrypt sealed_ = .ok plain

theorem saveProviderTokens_preserves {env : SignUpEnv} (ciphers : Ciphers decrypt env.encrypt) (signedAt user : String)
    {tokens : ProviderTokens} (brings : tokens.accessToken ≠ "" → tokens.refreshToken ≠ "") :
    (saveProviderTokens env signedAt user tokens).Within (Preserves decrypt provider userID) := by
  unfold saveProviderTokens
  split
  · trivial
  next access =>
    refine Program.Within.pure fun encAccess _ => Program.Within.pure fun encRefresh encrypted => query_preserves ?_
    rintro token ⟨⟨⟩, _⟩
    exact ⟨tokens.refreshToken, ciphers _ _ (reporting_ok encrypted), brings access⟩

theorem signIn_preserves {env : SignUpEnv} (ciphers : Ciphers decrypt env.encrypt) (drawn : Nat) (signedAt : String) (user : User)
    (deviceLabel : String) {tokens : ProviderTokens} (brings : tokens.accessToken ≠ "" → tokens.refreshToken ≠ "") :
    (signIn env drawn signedAt user deviceLabel tokens).Within (Preserves decrypt provider userID) := by
  unfold signIn
  split
  · exact Program.Within.bind (saveProviderTokens_preserves ciphers signedAt user.id brings) fun _ => issue_preserves ..
  · trivial

theorem createOAuthUser_preserves (env : SignUpEnv) (signedAt : String) (profile : ProviderProfile) :
    (createOAuthUser env signedAt profile).Within (Preserves decrypt provider userID) := by
  refine Program.Within.bind trivial fun fresh => Program.Within.bind (other_preserves nofun) fun _ =>
    Program.Within.bind (other_preserves nofun) fun _ => Program.Within.bind ?_ fun _ => trivial
  rw [AuthSteps.outboxAppend_created]
  exact other_preserves nofun

theorem upsertBody_preserves {env : SignUpEnv} (ciphers : Ciphers decrypt env.encrypt) (signedAt : String)
    (profile : ProviderProfile) (deviceLabel : String) {tokens : ProviderTokens}
    (brings : tokens.accessToken ≠ "" → tokens.refreshToken ≠ "") :
    (upsertBody env signedAt profile deviceLabel tokens).Within (Preserves decrypt provider userID) := by
  refine Program.Within.bind (other_preserves nofun) fun link => ?_
  cases link with
  | some account =>
    refine Program.Within.bind (other_preserves nofun) fun user => ?_
    cases user with
    | none => trivial
    | some user => exact signIn_preserves ciphers 0 signedAt user deviceLabel brings
  | none =>
    refine Program.Within.bind (other_preserves nofun) fun user => ?_
    cases user with
    | some user =>
      exact Program.Within.bind (other_preserves nofun) fun _ => signIn_preserves ciphers 0 signedAt user deviceLabel brings
    | none =>
      exact Program.Within.bind (createOAuthUser_preserves env signedAt profile) fun user =>
        signIn_preserves ciphers 2 signedAt user deviceLabel brings

theorem consumeBody_preserves (state : String) : (consumeBody state).Within (Preserves decrypt provider userID) := by
  refine Program.Within.bind (Program.Within.bind (other_preserves nofun) fun found => ?_) fun flow => ?_
  · cases found with
    | none => trivial
    | some flow => exact Program.Within.bind (other_preserves nofun) fun _ => trivial
  · cases flow <;> trivial

/-- A transaction that preserves the tokens keeps what is there. -/
theorem HasRefresh.withTx {α : Type} {program : Tx α} (has : HasRefresh decrypt provider userID store)
    (within : program.Within (Preserves decrypt provider userID)) :
    HasRefresh decrypt provider userID (program.withTx store).2 := by
  obtain ⟨writes, preserves, same⟩ := within.withTx preserves_empty (fun _ _ => Preserves.andThen) store
  rw [same]
  exact has.write preserves

/-! Sequences of calls. -/

inductive Call where
  | completeOAuth (env : SignUpEnv) (registry : Option Registry) (req : CompleteOAuthRequest)
  | getProviderToken (env : ProviderTokenEnv) (registry : Option Registry) (userID provider : String) (failure : Option Err)

def serve (store : Store database) : Call → Store database
  | .completeOAuth env registry req => (completeOAuth env registry req store).2
  | .getProviderToken env registry userID provider failure => (getProviderToken env registry userID provider failure store).2

/-- The call uses the service's cipher. -/
def UsesCipher (decrypt : String → Except Err String) : Call → Prop
  | .completeOAuth env _ _ => Ciphers decrypt env.encrypt
  | .getProviderToken env _ _ _ _ => env.decrypt = decrypt ∧ Ciphers decrypt env.encrypt

/-- If the provider answers a sign-in with an access token, it sends a refresh
token with it. -/
def BringsRefresh (store : Store database) : Call → Prop
  | .completeOAuth _ registry req => ∀ registered provider flow tokens, registry = some registered →
      registered.get req.provider = some provider → Tables.flow store req.state = some flow →
        provider.exchange req.code flow.redirectURI req.codeVerifier = .ok tokens →
          tokens.accessToken ≠ "" → tokens.refreshToken ≠ ""
  | .getProviderToken .. => True

omit [Collation] in
theorem askProvider_exchange {provider : OAuthProvider} {req : CompleteOAuthRequest} {flow : OAuthFlow} {tokens : ProviderTokens}
    {profile : ProviderProfile} (answered : askProvider provider req flow = .ok (tokens, profile)) :
    provider.exchange req.code flow.redirectURI req.codeVerifier = .ok tokens := by
  unfold askProvider at answered
  split at answered
  · cases answered
  next tokens' exchanged =>
    split at answered
    · cases answered
    · split at answered
      · cases answered
      · cases answered
        exact exchanged

theorem HasRefresh.completeOAuth (has : HasRefresh decrypt provider userID store)
    {env : SignUpEnv} {registry : Option Registry} {req : CompleteOAuthRequest} (ciphers : Ciphers decrypt env.encrypt)
    (brings : BringsRefresh store (.completeOAuth env registry req)) :
    HasRefresh decrypt provider userID (Auth.completeOAuth env registry req store).2 := by
  unfold Auth.completeOAuth
  cases registry with
  | none => exact has
  | some registered =>
    dsimp only
    cases known : registered.get req.provider with
    | none => exact has
    | some asked =>
      dsimp only
      have consumed := has.withTx (consumeBody_preserves req.state)
      rcases AuthSteps.consume_cases store req.state with ⟨problem, failed⟩ | ⟨flow, found, committed⟩
      · rw [failed]
        exact has
      · rw [committed] at consumed ⊢
        dsimp only at consumed ⊢
        cases answered : askProvider asked req flow with
        | error problem => exact consumed
        | ok answer =>
          obtain ⟨tokens, profile⟩ := answer
          have refresh := brings registered asked flow tokens rfl known found (askProvider_exchange answered)
          exact consumed.withTx (upsertBody_preserves ciphers asked.name profile flow.userAgent refresh)

omit [Collation] in
/-- A renewal stores the refresh token it was answered with, or the old one. -/
theorem refreshProviderToken_refresh {env : ProviderTokenEnv} {asked old access new : String} {expiry : Time}
    (renewed : refreshProviderToken env asked old = .ok (access, new, expiry)) (usable : old ≠ "") : new ≠ "" := by
  unfold refreshProviderToken at renewed
  split at renewed
  · cases renewed
  · split at renewed
    · cases renewed
    · split at renewed
      · cases renewed
      · cases renewed
      · cases renewed
      · split at renewed
        · cases renewed
        · cases renewed
          split
          · exact usable
          next sent => exact sent

theorem HasRefresh.renew (has : HasRefresh decrypt provider userID store) {env : ProviderTokenEnv}
    (ciphers : Ciphers decrypt env.encrypt) {asked user old : String} (usable : provider = asked → userID = user → old ≠ "") :
    HasRefresh decrypt provider userID (renewProviderToken env asked user old store).2 := by
  unfold renewProviderToken
  split
  · exact has
  next newAccess newRefresh newExpiry renewed =>
    split
    · exact has
    next encAccess _ =>
      split
      · exact has
      next encRefresh encrypted =>
        have kept : HasRefresh decrypt provider userID ((Repo.providerTokenUpsert
            ⟨asked, user, encAccess, encRefresh, newExpiry, env.savedAt⟩).withTx store).2 := by
          refine has.withTx (query_preserves ?_)
          rintro token ⟨⟨⟩, here, mine⟩
          exact ⟨newRefresh, ciphers _ _ (reporting_ok encrypted),
            refreshProviderToken_refresh (reporting_ok renewed) (usable here mine)⟩
        split
        next stored => rwa [stored] at kept
        next stored => rwa [stored] at kept

theorem HasRefresh.getProviderToken (has : HasRefresh decrypt provider userID store) {env : ProviderTokenEnv}
    (same : env.decrypt = decrypt) (ciphers : Ciphers decrypt env.encrypt) (registry : Option Registry) (user asked : String)
    (failure : Option Err) :
    HasRefresh decrypt provider userID (Auth.getProviderToken env registry user asked failure store).2 := by
  unfold Auth.getProviderToken
  split
  · exact has
  split
  · exact has
  split
  · exact has
  split
  · split <;> exact has
  next stored read =>
    split
    · exact has
    split
    · exact has
    next refreshToken decrypted =>
      split
      · exact has
      · refine has.renew ciphers ?_
        rintro rfl rfl
        obtain ⟨token, found, refresh, opened, usable⟩ := has
        have there : token = stored := by
          cases failure with
          | some err => cases read
          | none =>
            simp only [providerTokenGet, found] at read
            exact Except.ok.inj read
        subst there
        have plain := reporting_ok decrypted
        rw [same, opened] at plain
        cases plain
        exact usable

theorem HasRefresh.serve (has : HasRefresh decrypt provider userID store) {call : Call} (cipher : UsesCipher decrypt call)
    (brings : BringsRefresh store call) : HasRefresh decrypt provider userID (AuthProviderTokens.serve store call) := by
  cases call with
  | completeOAuth env registry req => exact has.completeOAuth cipher brings
  | getProviderToken env registry user asked failure =>
    exact has.getProviderToken cipher.1 cipher.2 registry user asked failure

/-- Over any calls whose sign-ins bring a refresh token, a pair that has one keeps
having one. -/
theorem refresh_token_kept (decrypt : String → Except Err String) (provider userID : String) (store : Store database)
    (calls : List Call) (cipher : ∀ call ∈ calls, UsesCipher decrypt call)
    (brings : ∀ visit ∈ Machine.trace serve store calls, BringsRefresh visit.1 visit.2)
    (has : HasRefresh decrypt provider userID store) :
    HasRefresh decrypt provider userID (Machine.run serve store calls) :=
  Machine.run_of_guarded (HasRefresh decrypt provider userID) (fun store call => UsesCipher decrypt call ∧ BringsRefresh store call)
    (fun _ _ has guard => has.serve guard.1 guard.2) has
    fun visit visited => ⟨cipher visit.2 (Machine.trace_event visited), brings visit visited⟩

end Tokens

/-! A user of a provider that sends a refresh token with the first consent only. -/

local instance : Collation := .c

def sending (refreshToken : String) : OAuthProvider :=
  { AuthFlows.providerNamed "google" with exchange := fun _ _ _ => .ok ⟨"access", "", refreshToken, 0⟩ }

/-- The store once the user has begun another sign-in. -/
def consented : Store database :=
  Machine.run AuthSteps.serve AuthFlows.nothing
    [AuthFlows.begins,
     .completeOAuth (AuthFlows.signingUp 12) (some [sending "refresh"]) (AuthFlows.completing "google"),
     AuthFlows.begins]

def signsInAgain (refreshToken : String) : Call :=
  .completeOAuth AuthIdentity.returning (some [sending refreshToken]) (AuthFlows.completing "google")

theorem consented_has : HasRefresh .ok "google" "u1" consented :=
  ⟨⟨"google", "u1", "access", "refresh", 12 + 3600000000000, 12⟩, by decide +kernel, "refresh", rfl, by decide⟩

theorem signsInAgain_cipher (refreshToken : String) : ∀ call ∈ [signsInAgain refreshToken], UsesCipher .ok call := by
  intro call sent
  obtain rfl := List.mem_singleton.mp sent
  exact fun _ _ sealed_ => sealed_.symm

theorem consent_renewed : HasRefresh .ok "google" "u1" (Machine.run serve consented [signsInAgain "another"]) := by
  refine refresh_token_kept .ok "google" "u1" consented [signsInAgain "another"] (signsInAgain_cipher "another") ?_ consented_has
  intro visit visited
  obtain rfl := List.mem_singleton.mp visited
  rintro registered provider flow tokens ⟨⟩ known found exchanged -
  obtain rfl : provider = sending "another" := by
    cases known
    rfl
  cases exchanged
  decide

/-- The second sign-in overwrites the refresh token with nothing. -/
theorem refresh_token_lost :
    ¬ ∀ (decrypt : String → Except Err String) (provider userID : String) (store : Store database) (calls : List Call),
        (∀ call ∈ calls, UsesCipher decrypt call) → HasRefresh decrypt provider userID store →
          HasRefresh decrypt provider userID (Machine.run serve store calls) := by
  intro claim
  obtain ⟨token, found, refresh, opened, usable⟩ :=
    claim .ok "google" "u1" consented [signsInAgain ""] (signsInAgain_cipher "") consented_has
  have emptied : (Machine.run serve consented [signsInAgain ""]) (.providerToken "google" "u1") =
      some ⟨"google", "u1", "access", "", 20 + 3600000000000, 20⟩ := by decide +kernel
  cases found.symm.trans emptied
  cases opened
  exact usable rfl

end VibeSync.Proofs.AuthProviderTokens
