import VibeSync.Machine
import VibeSync.PartialMap
import VibeSync.Proofs.AuthRotation
import VibeSync.Proofs.AuthSteps

/-! How long a session lasts and who may touch its tokens. A refresh gives the
next token a lifetime of its own and never looks at the end of the session; a
logout never looks at the validator. -/

namespace VibeSync.Proofs.AuthSessions
open VibeSync.Auth Transaction VibeSync.Proofs.AuthTables VibeSync.Proofs.AuthSteps
open VibeSync.Proofs.AuthReuse (Presents)

section Lifetimes
variable [Collation]

/-! The end of a session. -/

/-- No token outlasts its session. -/
structure Capped (store : Store database) : Prop where
  keyed : ∀ id row, Tables.token store id = some row → row.id = id
  ends : ∀ id row, Tables.token store id = some row →
    ∃ session, Tables.session store row.sessionID = some session ∧ row.expiresAt ≤ session.expiresAt

theorem Capped.of_empty {store : Store database} (empty : ∀ id, Tables.token store id = none) : Capped store := by
  constructor <;> intro id row found <;> cases (empty id).symm.trans found

/-- Tokens and sessions are all that matters. -/
theorem Capped.congr {before after : Store database} (capped : Capped before) (tokens : Tables.token after = Tables.token before)
    (sessions : Tables.session after = Tables.session before) : Capped after := by
  refine ⟨?_, ?_⟩
  · rw [tokens]
    exact capped.keyed
  · rw [tokens, sessions]
    exact capped.ends

theorem capped_of_signedIn {env : Env} {user : User} {before after : Store database} {session : Session}
    (signed : SignedIn env user before after session) (capped : Capped before) (fits : env.refreshTokenTTL ≤ env.sessionTTL) :
    Capped after := by
  obtain ⟨absent, deviceLabel, sessions⟩ := signed.sessions
  obtain ⟨token, opens, expires, tokens⟩ := signed.tokens
  refine ⟨fun id row found => ?_, fun id row found => ?_⟩ <;> rw [tokens] at found
  · rcases PartialMap.update_eq_some found with ⟨same, rfl⟩ | old
    · exact same.symm
    · exact capped.keyed id row old
  · rw [sessions]
    rcases PartialMap.update_eq_some found with ⟨_, rfl⟩ | old
    · refine ⟨{ session with deviceLabel }, by rw [opens, Function.update_self], ?_⟩
      rw [expires, signed.ends]
      exact Int.add_le_add_left fits env.now
    · obtain ⟨kept, present, within⟩ := capped.ends id row old
      have other : row.sessionID ≠ session.id := by
        intro same
        rw [same, absent] at present
        cases present
      exact ⟨kept, by rw [Function.update_of_ne other]; exact present, within⟩

theorem Capped.rotated {env : Env} {rt : RefreshToken} {before after : Store database} {session : Session}
    (capped : Capped before) (found : Tables.token before rt.id = some rt)
    (fits : ∀ old, Tables.session before rt.sessionID = some old → env.now + env.refreshTokenTTL ≤ old.expiresAt)
    (rotated : Rotated env rt before after session) : Capped after := by
  obtain ⟨old, seen, rfl⟩ := rotated.seen
  obtain ⟨next, joins, expires, tokens⟩ := rotated.tokens found
  have carried : ∀ (row : RefreshToken) (kept : Session), Tables.session before row.sessionID = some kept →
      row.expiresAt ≤ kept.expiresAt →
      ∃ later, Tables.session after row.sessionID = some later ∧ row.expiresAt ≤ later.expiresAt := by
    intro row kept present within
    rw [rotated.sessions, Function.update_apply]
    split
    · next same =>
      rw [same, seen] at present
      cases present
      exact ⟨_, rfl, within⟩
    · exact ⟨kept, present, within⟩
  refine ⟨fun id row held => ?_, fun id row held => ?_⟩ <;> rw [tokens] at held
  · rcases PartialMap.update_eq_some held with ⟨same, rfl⟩ | held
    · exact same.symm
    rcases PartialMap.update_eq_some held with ⟨same, rfl⟩ | held
    · exact same.symm
    · exact capped.keyed id row held
  · rcases PartialMap.update_eq_some held with ⟨_, rfl⟩ | held
    · refine carried row old (by rw [joins]; exact seen) ?_
      rw [expires]
      exact fits old seen
    rcases PartialMap.update_eq_some held with ⟨_, rfl⟩ | held
    · obtain ⟨kept, present, within⟩ := capped.ends rt.id rt found
      exact carried _ kept present within
    · obtain ⟨kept, present, within⟩ := capped.ends id row held
      exact carried row kept present within

theorem Capped.revoked {store : Store database} {rt : RefreshToken} (capped : Capped store)
    (found : Tables.token store rt.id = some rt) (now : Time) :
    Capped (store.write (Tables.updateToken store rt.id fun row => row.markRevoked now)) := by
  refine ⟨fun id row held => ?_, fun id row held => ?_⟩ <;> rw [token_updateToken found] at held
  · rcases PartialMap.update_eq_some held with ⟨same, rfl⟩ | held
    · exact same.symm
    · exact capped.keyed id row held
  · rcases PartialMap.update_eq_some held with ⟨_, rfl⟩ | held
    · exact capped.ends rt.id rt found
    · exact capped.ends id row held

theorem Capped.presented {store : Store database} {presented : String} {rt : RefreshToken} (capped : Capped store)
    (presents : Presents store presented rt) : Tables.token store rt.id = some rt := by
  obtain ⟨id, _, found⟩ := presents
  rw [capped.keyed id rt found]
  exact found

/-- The token that the call would issue ends with its session or before. -/
def InTime (store : Store database) : Call → Prop
  | .register env _ | .completeOAuth env _ _ => env.refreshTokenTTL ≤ env.sessionTTL
  | .login env _ _ _ => env.refreshTokenTTL ≤ env.sessionTTL
  | .refreshToken env presented => ∀ rt session, Presents store presented rt →
      Tables.session store rt.sessionID = some session → env.now + env.refreshTokenTTL ≤ session.expiresAt
  | .beginOAuth _ _ _ _ | .logout _ _ => True

theorem capped_of_upserted {env : SignUpEnv} {provider : String} {profile : ProviderProfile} {before after : Store database}
    {session : Session} (upserted : Upserted env provider profile before after session) (capped : Capped before)
    (fits : env.refreshTokenTTL ≤ env.sessionTTL) : Capped after := by
  cases upserted with
  | linked _ _ signed => exact capped_of_signedIn signed capped fits
  | adopted _ _ _ signed => exact capped_of_signedIn signed (capped.congr rfl rfl) fits
  | created _ _ _ signed => exact capped_of_signedIn signed (capped.congr rfl rfl) fits

theorem Capped.serve {store : Store database} (capped : Capped store) (call : Call) (inTime : InTime store call) :
    Capped (AuthSteps.serve store call) := by
  have moved := serve_moved store call
  generalize AuthSteps.serve store call = after at moved ⊢
  cases moved with
  | stays => exact capped
  | registered _ signed => exact capped_of_signedIn signed (capped.congr rfl rfl) inTime
  | loggedIn signed => exact capped_of_signedIn signed capped inTime
  | began _ => exact capped.congr rfl rfl
  | consumed => exact capped.congr rfl rfl
  | completed upserted => exact capped_of_upserted upserted (capped.congr rfl rfl) inTime
  | refreshed presents rotated =>
    exact capped.rotated (capped.presented presents) (fun old => inTime _ old presents) rotated
  | revoked presents => exact capped.revoked (capped.presented presents) _

/-- While every call issues its token in time, no refresh succeeds at or after
the end of the session. -/
theorem refresh_before_end_of_inTime (store : Store database) (empty : ∀ id, Tables.token store id = none)
    (earlier : List Call) (inTime : ∀ visit ∈ Machine.trace serve store earlier, InTime visit.1 visit.2)
    (env : Env) (presented : String) (session : Session) (material : TokenMaterial)
    (succeeded : (refreshToken env presented (Machine.run serve store earlier)).1 = .ok (session, material)) :
    env.now < session.expiresAt := by
  have capped : Capped (Machine.run serve store earlier) :=
    Machine.run_of_guarded Capped InTime (fun _ call capped inTime => capped.serve call inTime) (Capped.of_empty empty) inTime
  rcases refreshToken_cases (Machine.run serve store earlier) env presented with
    ⟨problem, failed⟩ | ⟨_, _, rt, accepted, presents, _, _, _, unexpired, rotated⟩
  · rw [failed] at succeeded
    cases succeeded
  · cases accepted.symm.trans succeeded
    obtain ⟨old, seen, rfl⟩ := rotated.seen
    obtain ⟨kept, present, within⟩ := capped.ends rt.id rt (capped.presented presents)
    cases seen.symm.trans present
    exact Int.lt_of_lt_of_le unexpired within

end Lifetimes

/-! A session that ends at 110. -/

def at_ (now : Time) (lifetime : Duration) (ids : List String) (selector validator : String) : Env :=
  { AuthRotation.draws ids selector validator with now, issuedAt := now, sessionTTL := 100, refreshTokenTTL := lifetime }

def refreshed (first : Time) (lifetime : Duration) : List Call :=
  [.login (at_ 10 lifetime ["d1", "f1", "t0"] "s0" "v0") "a@b.c" "pw" "",
    .refreshToken (at_ first lifetime ["t1"] "s1" "v1") "s0.v0"]

theorem inTime_of_lookup [Collation] {store : Store database} {env : Env} {presented id : String} {ends : Time}
    (indexed : store (.selector (splitSelectorValidator presented).1) = some id)
    (lasts : (Tables.token store id).bind (fun rt => (Tables.session store rt.sessionID).map Session.expiresAt) = some ends)
    (fits : env.now + env.refreshTokenTTL ≤ ends) : InTime store (.refreshToken env presented) := by
  rintro rt session ⟨key, leads, found⟩ held
  cases indexed.symm.trans leads
  rw [found, Option.bind_some, held] at lasts
  cases lasts
  exact fits

section Example
local instance : Collation := .c

theorem refresh_chain_in_time :
    ∃ session material, (refreshToken (at_ 70 40 ["t2"] "s2" "v2") "s1.v1"
        (Machine.run serve AuthRotation.newcomer (refreshed 40 40))).1 = .ok (session, material) ∧ 70 < session.expiresAt := by
  obtain ⟨⟨session, material⟩, succeeded⟩ := Program.value_of_isOk (by decide +kernel :
    (refreshToken (at_ 70 40 ["t2"] "s2" "v2") "s1.v1"
      (Machine.run serve AuthRotation.newcomer (refreshed 40 40))).1.isOk = true)
  refine ⟨session, material, succeeded, refresh_before_end_of_inTime AuthRotation.newcomer (fun _ => rfl) (refreshed 40 40)
    ?_ _ _ _ _ succeeded⟩
  have login : (40 : Duration) ≤ 100 := by decide
  have refresh : InTime (Machine.run serve AuthRotation.newcomer (refreshed 40 40).dropLast)
      (.refreshToken (at_ 40 40 ["t1"] "s1" "v1") "s0.v0") :=
    @inTime_of_lookup _ _ _ _ "t0" 110 (by decide +kernel) (by decide +kernel) (by decide)
  exact List.forall_mem_cons.mpr ⟨login, List.forall_mem_cons.mpr ⟨refresh, List.forall_mem_nil _⟩⟩

/-- A refresh shortly before the end of the session gives a token with which the
next one succeeds after it. -/
theorem refresh_outlives_session :
    ¬ ∀ (store : Store database) (earlier : List Call) (env : Env) (presented : String) (session : Session)
        (material : TokenMaterial), (∀ id, Tables.token store id = none) →
        (refreshToken env presented (Machine.run serve store earlier)).1 = .ok (session, material) →
        env.now < session.expiresAt := by
  intro claim
  obtain ⟨⟨session, material⟩, succeeded⟩ := Program.value_of_isOk (by decide +kernel :
    (refreshToken (at_ 150 100 ["t2"] "s2" "v2") "s1.v1"
      (Machine.run serve AuthRotation.newcomer (refreshed 100 100))).1.isOk = true)
  have ended : (refreshToken (at_ 150 100 ["t2"] "s2" "v2") "s1.v1"
      (Machine.run serve AuthRotation.newcomer (refreshed 100 100))).1.toOption.map (fun issued => issued.1.expiresAt) =
        some 110 := by decide +kernel
  have before := claim _ _ _ _ session material (fun _ => rfl) succeeded
  rw [succeeded] at ended
  have end_ : session.expiresAt = 110 := Option.some.inj ended
  rw [end_] at before
  exact absurd before (by decide)

end Example

/-! The secret half of a token. -/

section Secrets
variable [Collation]

/-- The string splits into the selector of a row and a validator that the row accepts. -/
def Verified (env : Env) (store : Store database) (presented : String) : Prop :=
  (splitSelectorValidator presented).1 ≠ "" ∧ (splitSelectorValidator presented).2 ≠ "" ∧
    ∃ rt, Presents store presented rt ∧ rt.verifyValidator (splitSelectorValidator presented).2 env.compare = true

/-- The string names an active row. -/
def NamesActive (store : Store database) (presented : String) : Prop :=
  (splitSelectorValidator presented).1 ≠ "" ∧ ∃ rt, Presents store presented rt ∧ rt.status = .active

theorem refresh_keeps_rows {env : Env} {store : Store database} {presented : String}
    (unverified : ¬ Verified env store presented) : (refreshToken env presented store).2 = store := by
  rcases refreshToken_cases store env presented with ⟨problem, failed⟩ | ⟨_, _, rt, _, presents, named, secret, genuine, _, _⟩
  · rw [failed]
  · exact absurd ⟨named, secret, rt, presents, genuine⟩ unverified

theorem logout_revokes {env : Env} {store : Store database} {presented : String} {rt : RefreshToken}
    (named : (splitSelectorValidator presented).1 ≠ "") (presents : Presents store presented rt) (live : rt.status = .active) :
    (logout env presented store).2 = store.write (Tables.updateToken store rt.id fun row => row.markRevoked env.now) := by
  obtain ⟨id, indexed, found⟩ := presents
  have present : presented ≠ "" := by
    rintro rfl
    exact named (by decide)
  have ran : (logoutBody env (splitSelectorValidator presented).1).run store Writes.empty =
      (.ok true, Tables.updateToken store rt.id fun row => row.markRevoked env.now) := by
    unfold logoutBody
    rw [AuthReuse.run_getBySelector]
    simp only [Store.write_empty, indexed, Option.bind_some, found, live, ↓reduceIte]
    exact congrArg (Prod.mk _) (Writes.empty_andThen _)
  simp only [logout, present, named, or_self, ↓reduceIte, Program.withTx, ran]

/-- A string without the right validator leaves every token row alone exactly if
no active row has its selector: such a row is revoked by a logout. -/
theorem unverified_keeps_rows_iff (env : Env) (store : Store database)
    (keyed : ∀ id row, Tables.token store id = some row → row.id = id) (presented : String)
    (unverified : ¬ Verified env store presented) :
    (Tables.token (refreshToken env presented store).2 = Tables.token store ∧
        Tables.token (logout env presented store).2 = Tables.token store) ↔ ¬ NamesActive store presented := by
  constructor
  · rintro ⟨_, kept⟩ ⟨named, rt, presents, live⟩
    obtain ⟨id, indexed, found⟩ := presents
    have key := keyed id rt found
    rw [← key] at found
    rw [logout_revokes named ⟨id, indexed, key ▸ found⟩ live, token_updateToken found] at kept
    have revoked := congrFun kept rt.id
    rw [Function.update_self, found] at revoked
    have status := congrArg RefreshToken.status (Option.some.inj revoked)
    rw [live] at status
    cases status
  · intro harmless
    rw [refresh_keeps_rows unverified]
    refine ⟨rfl, ?_⟩
    rcases logout_cases store env presented with same | ⟨rt, presents, named, live, _⟩
    · rw [same]
    · exact absurd ⟨named, rt, presents, live⟩ harmless

end Secrets

local instance : Collation := .c

theorem stolen_keyed (id : String) (row : RefreshToken) (found : Tables.token AuthReuse.stolen id = some row) : row.id = id := by
  simp only [Tables.token, AuthReuse.stolen] at found
  split at found
  · next same =>
    cases found
    exact same.symm
  split at found
  · next same =>
    cases found
    exact same.symm
  · cases found

theorem stolen_presents {presented : String} {rt row : RefreshToken} {id : String}
    (indexed : AuthReuse.stolen (.selector (splitSelectorValidator presented).1) = some id)
    (found : Tables.token AuthReuse.stolen id = some row) (presents : Presents AuthReuse.stolen presented rt) : rt = row := by
  obtain ⟨key, leads, held⟩ := presents
  cases indexed.symm.trans leads
  exact Option.some.inj (held.symm.trans found)

/-- The wrong validator of a used token. -/
theorem used_token_untouched :
    Tables.token (refreshToken AuthReuse.call "s0.x" AuthReuse.stolen).2 = Tables.token AuthReuse.stolen ∧
      Tables.token (logout AuthReuse.call "s0.x" AuthReuse.stolen).2 = Tables.token AuthReuse.stolen := by
  have only : ∀ rt, Presents AuthReuse.stolen "s0.x" rt → rt = AuthReuse.rotated := fun rt =>
    @stolen_presents "s0.x" rt AuthReuse.rotated "t0" (by decide) (by decide)
  refine (unverified_keeps_rows_iff AuthReuse.call AuthReuse.stolen stolen_keyed "s0.x" ?_).mpr ?_
  · rintro ⟨_, _, rt, presents, genuine⟩
    rw [only rt presents] at genuine
    exact absurd genuine (by decide)
  · rintro ⟨_, rt, presents, live⟩
    rw [only rt presents] at live
    exact absurd live (by decide)

/-- The wrong validator of an active token is enough to log its owner out. -/
theorem guessed_selector_logs_out :
    ¬ ∀ (env : Env) (store : Store database) (presented : String),
        (∀ id row, Tables.token store id = some row → row.id = id) → ¬ Verified env store presented →
        Tables.token (refreshToken env presented store).2 = Tables.token store ∧
          Tables.token (logout env presented store).2 = Tables.token store := by
  intro claim
  have only : ∀ rt, Presents AuthReuse.stolen "s1.x" rt → rt = AuthReuse.successor := fun rt =>
    @stolen_presents "s1.x" rt AuthReuse.successor "t1" (by decide) (by decide)
  have kept := claim AuthReuse.call AuthReuse.stolen "s1.x" stolen_keyed (by
    rintro ⟨_, _, rt, presents, genuine⟩
    rw [only rt presents] at genuine
    exact absurd genuine (by decide))
  have revoked : (Tables.token (logout AuthReuse.call "s1.x" AuthReuse.stolen).2 "t1").map RefreshToken.status =
      some .revoked := by decide +kernel
  rw [kept.2] at revoked
  exact absurd revoked (by decide)

end VibeSync.Proofs.AuthSessions
