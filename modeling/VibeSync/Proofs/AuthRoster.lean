import VibeSync.Proofs.AuthIdentity
import VibeSync.Proofs.AuthUsernames

/-! The roll of users that the Auth service keeps: every user with the two unique
columns that lead to them, and the event that tells of them. A request adds one
user to the roll or leaves it alone. -/

namespace VibeSync.Proofs.AuthRoster
open VibeSync.Auth Transaction Columns VibeSync.Proofs.AuthTables VibeSync.Proofs.AuthSteps VibeSync.Proofs.AuthUsernames

variable [Collation]

def Roll : Key → Prop
  | .user _ | .email _ | .username _ | .outbox _ => True
  | _ => False

omit [Collation] in
theorem standing_of_roll {key : Key} (rolled : Roll key) : Standing key := by
  cases key <;> trivial

/-- An email and a name as `NewUser` leaves them, and an id that fits its column. -/
structure Normal (lower : Char → Char) (user : User) : Prop where
  typed : ∃ typed, user.email = trimSpace (toLower lower typed)
  address : emailRe user.email = true
  name : usernameRe user.username = true
  width : user.id.length ≤ 26

omit [Collation] in
theorem newUser_normal {lower : Char → Char} {now : Time} {p : NewUserParams} {user : User} (made : newUser lower now p = .ok user) :
    Normal lower user := by
  unfold newUser at made
  dsimp only at made
  split at made
  · cases made
  next address =>
    split at made
    · cases made
    next name =>
      split at made
      · cases made
      · cases made
        exact ⟨⟨p.email, rfl⟩, by simpa using address, by simpa using name, Nat.zero_le _⟩

/-- One user more on the roll. -/
structure Enrols (env : SignUpEnv) (provider : String) (user : User) (before after : Store database) : Prop where
  normal : Normal env.lower user
  drawn : user.id = env.idgen 0
  absent : Tables.user before user.id = none
  address : before (.email (citext user.email)) = none
  name : before (.username user.username) = none
  unused : Tables.outbox before (env.idgen 1) = none
  rows : ∀ key, Roll key → after key = enrolled env provider user before key

theorem insertUser_name {view : View} {new : User} {written : Changes} (inserted : Tables.insertUser view new = .ok ((), written)) :
    view (.username new.username) = none := by
  obtain ⟨_, inserted⟩ := checkID_bind inserted
  obtain ⟨_, inserted⟩ := checkLength_bind inserted
  obtain ⟨_, inserted⟩ := checkLength_bind inserted
  split at inserted
  · cases inserted
  split at inserted
  · cases inserted
  split at inserted
  · cases inserted
  next unused => simpa using unused

section Bodies
variable {env : SignUpEnv} {store after : Store database} {session : Session} {material : TokenMaterial}

theorem registerBody_enrols {req : RegisterRequest}
    (executed : (registerBody env req).exec store = (.ok (session, material), after)) :
    ∃ user, Enrols env "password" user store after := by
  obtain ⟨fresh, made, rest⟩ := Program.exec_pure_ok executed
  obtain ⟨hash, _, rest⟩ := Program.exec_pure_ok rest
  obtain ⟨known, _, seen, rest⟩ := Program.exec_statement_ok rest
  cases seen
  split at rest
  · cases rest
  obtain ⟨_, _, created, rest⟩ := Program.exec_statement_ok rest
  have name := insertUser_name created
  have width := insertUser_width created
  obtain ⟨absent, address, rfl⟩ := insertUser_ok created
  rw [outboxAppend_created] at rest
  obtain ⟨_, _, appended, rest⟩ := Program.exec_statement_ok rest
  obtain ⟨unused, rfl⟩ := insertOutbox_ok appended
  have normal := newUser_normal (reporting_ok made)
  exact ⟨{ fresh.setPassword hash env.passwordSetAt with id := env.idgen 0 }, ⟨normal.typed, normal.address, normal.name, width⟩, rfl,
    absent, address, name, unused, fun key rolled => (issue_ok rest).standing key (standing_of_roll rolled)⟩

theorem putAccount_roll (account : OAuthAccount) {key : Key} (rolled : Roll key) :
    store.write (Tables.putAccount account) key = store key := by
  cases key <;> first | rfl | exact rolled.elim

theorem createOAuthUser_enrols {provider : String} {profile : ProviderProfile} {user : User}
    (unknown : Tables.account store provider profile.providerUserID = none)
    (executed : (createOAuthUser env provider profile).exec store = (.ok user, after)) : Enrols env provider user store after := by
  obtain ⟨fresh, made, rest⟩ := Program.exec_pure_ok executed
  obtain ⟨_, _, created, rest⟩ := Program.exec_statement_ok rest
  have name := insertUser_name created
  have width := insertUser_width created
  obtain ⟨absent, address, rfl⟩ := insertUser_ok created
  obtain ⟨_, _, upserted, rest⟩ := Program.exec_bind_ok rest
  obtain ⟨_, rfl⟩ := accountUpsert_ok unknown upserted
  rw [outboxAppend_created] at rest
  obtain ⟨_, _, appended, rest⟩ := Program.exec_statement_ok rest
  obtain ⟨unused, rfl⟩ := insertOutbox_ok appended
  cases rest
  have normal := newUser_normal (reporting_ok made)
  refine ⟨⟨normal.typed, normal.address, normal.name, width⟩, rfl, absent, address, name, unused, ?_⟩
  intro key rolled
  cases key <;> first | rfl | exact rolled.elim

theorem upsertBody_enrols {provider deviceLabel : String} {profile : ProviderProfile} {tokens : ProviderTokens}
    (executed : (upsertBody env provider profile deviceLabel tokens).exec store = (.ok (session, material), after)) :
    (∀ key, Roll key → after key = store key) ∨ ∃ user, Enrols env provider user store after := by
  obtain ⟨link, _, seen, rest⟩ := Program.exec_statement_ok executed
  obtain ⟨known, rfl⟩ := Prod.mk.inj (Except.ok.inj seen)
  cases link with
  | some link =>
    obtain ⟨user, _, read, rest⟩ := Program.exec_statement_ok rest
    obtain ⟨_, rfl⟩ := Prod.mk.inj (Except.ok.inj read)
    cases user with
    | none => cases rest
    | some user => exact Or.inl fun key rolled => (signIn_ok rest).standing key (standing_of_roll rolled)
  | none =>
    obtain ⟨user, _, read, rest⟩ := Program.exec_statement_ok rest
    obtain ⟨_, rfl⟩ := Prod.mk.inj (Except.ok.inj read)
    cases user with
    | some user =>
      obtain ⟨_, _, upserted, rest⟩ := Program.exec_bind_ok rest
      obtain ⟨_, rfl⟩ := accountUpsert_ok known upserted
      exact Or.inl fun key rolled =>
        ((signIn_ok rest).standing key (standing_of_roll rolled)).trans (putAccount_roll _ rolled)
    | none =>
      obtain ⟨user, _, created, rest⟩ := Program.exec_bind_ok rest
      have enrols := createOAuthUser_enrols known created
      exact Or.inr ⟨user, { enrols with
        rows := fun key rolled => ((signIn_ok rest).standing key (standing_of_roll rolled)).trans (enrols.rows key rolled) }⟩

end Bodies

/-! One request, and any number of them. -/

/-- The environment of a request that may create a user. -/
def env? : AuthIdentity.Event → Option SignUpEnv
  | .call (.register env _) | .call (.completeOAuth env _ _) | .upsert env _ _ _ _ => some env
  | _ => none

inductive Moves (before : Store database) (event : AuthIdentity.Event) (after : Store database) : Prop where
  | same (same : ∀ key, Roll key → after key = before key)
  | enrols {env : SignUpEnv} {provider : String} {user : User} (creates : env? event = some env)
      (enrols : Enrols env provider user before after)

theorem consume_roll (store : Store database) (state : String) {key : Key} (rolled : Roll key) :
    ((consumeBody state).withTx store).2 key = store key := by
  rcases consume_cases store state with ⟨problem, failed⟩ | ⟨flow, _, committed⟩
  · rw [failed]
  · rw [committed]
    cases key <;> first | rfl | exact rolled.elim

theorem upsert_moves (store : Store database) {event : AuthIdentity.Event} {env : SignUpEnv} (creates : env? event = some env)
    (provider : String) (profile : ProviderProfile) (deviceLabel : String) (tokens : ProviderTokens) :
    Moves store event ((upsertBody env provider profile deviceLabel tokens).withTx store).2 := by
  rcases Program.withTx_cases (upsertBody env provider profile deviceLabel tokens) store with
    ⟨problem, failed⟩ | ⟨⟨session, material⟩, after, committed, executed⟩
  · rw [failed]
    exact .same fun _ _ => rfl
  · rw [committed]
    rcases upsertBody_enrols executed with same | ⟨user, enrols⟩
    · exact .same same
    · exact .enrols creates enrols

theorem Enrols.of_roll {env : SignUpEnv} {provider : String} {user : User} {before middle after : Store database}
    (same : ∀ key, Roll key → middle key = before key) (enrols : Enrols env provider user middle after) :
    Enrols env provider user before after where
  normal := enrols.normal
  drawn := enrols.drawn
  absent := (same (.user _) trivial).symm.trans enrols.absent
  address := (same (.email _) trivial).symm.trans enrols.address
  name := (same (.username _) trivial).symm.trans enrols.name
  unused := (same (.outbox _) trivial).symm.trans enrols.unused
  rows key rolled := by
    rw [enrols.rows key rolled]
    simp only [enrolled, Store.write, same key rolled]

/-- A step from a store with the same roll. -/
theorem Moves.of_roll {before middle after : Store database} {event : AuthIdentity.Event}
    (same : ∀ key, Roll key → middle key = before key) (moves : Moves middle event after) : Moves before event after := by
  cases moves with
  | same later => exact .same fun key rolled => (later key rolled).trans (same key rolled)
  | enrols creates enrols => exact .enrols creates (enrols.of_roll same)

theorem completeOAuth_moves (store : Store database) (env : SignUpEnv) (registry : Option Registry) (req : CompleteOAuthRequest) :
    Moves store (.call (.completeOAuth env registry req)) (completeOAuth env registry req store).2 := by
  have consumed := fun key (rolled : Roll key) => consume_roll store req.state rolled
  unfold completeOAuth
  cases registry with
  | none => exact .same fun _ _ => rfl
  | some registry =>
    dsimp only
    split
    · exact .same fun _ _ => rfl
    next provider _ =>
      generalize (consumeBody req.state).withTx store = outcome at consumed ⊢
      obtain ⟨result, after⟩ := outcome
      cases result with
      | error problem => exact .same consumed
      | ok flow =>
        dsimp only
        split
        · exact .same consumed
        · exact (upsert_moves after (by rfl) _ _ _ _).of_roll consumed

theorem step_moves (store : Store database) (event : AuthIdentity.Event) : Moves store event (AuthIdentity.step store event) := by
  cases event with
  | consume state => exact .same fun key rolled => consume_roll store state rolled
  | upsert env provider profile deviceLabel tokens => exact upsert_moves store rfl _ _ _ _
  | call call =>
    have moved := serve_moved store call
    cases call with
    | register env req =>
      clear moved
      simp only [AuthIdentity.step, serve, register]
      split
      · exact .same fun _ _ => rfl
      split
      · exact .same fun _ _ => rfl
      rcases Program.withTx_cases (registerBody env req) store with ⟨_, failed⟩ | ⟨⟨session, material⟩, after, committed, executed⟩
      · rw [failed]
        exact .same fun _ _ => rfl
      · rw [committed]
        obtain ⟨user, enrols⟩ := registerBody_enrols executed
        exact .enrols rfl enrols
    | completeOAuth env registry req => exact completeOAuth_moves store env registry req
    | login env email password deviceLabel =>
      simp only [AuthIdentity.step]
      generalize serve store (.login env email password deviceLabel) = after at moved ⊢
      cases moved with
      | stays => exact .same fun _ _ => rfl
      | loggedIn signed => exact .same fun key rolled => signed.standing key (standing_of_roll rolled)
    | beginOAuth env flowTTL registry req =>
      simp only [AuthIdentity.step]
      generalize serve store (.beginOAuth env flowTTL registry req) = after at moved ⊢
      cases moved with
      | stays => exact .same fun _ _ => rfl
      | began made =>
        refine .same fun key rolled => ?_
        cases key <;> first | rfl | exact rolled.elim
    | refreshToken env presented =>
      simp only [AuthIdentity.step]
      generalize serve store (.refreshToken env presented) = after at moved ⊢
      cases moved with
      | stays => exact .same fun _ _ => rfl
      | refreshed _ rotated => exact .same fun key rolled => rotated.standing key (standing_of_roll rolled)
    | logout env presented =>
      simp only [AuthIdentity.step]
      generalize serve store (.logout env presented) = after at moved ⊢
      cases moved with
      | stays => exact .same fun _ _ => rfl
      | revoked _ =>
        refine .same fun key rolled => ?_
        cases key <;> first | rfl | exact rolled.elim

/-! What holds of the roll over any number of requests. -/

section Enrolled
variable (env : SignUpEnv) (provider : String) (user : User) (store : Store database)

theorem enrolled_user (id : String) :
    Tables.user (enrolled env provider user store) id = if id = user.id then some user else Tables.user store id := by
  simp only [enrolled, user_write, Tables.putOutbox, Tables.putUser]
  split <;> rfl

theorem enrolled_email (address : String) : enrolled env provider user store (.email address) =
    if address = citext user.email then some user.id else store (.email address) := by
  simp only [enrolled, Store.write, Tables.putOutbox, Tables.putUser]
  split <;> rfl

theorem enrolled_username (value : String) : enrolled env provider user store (.username value) =
    if value = user.username then some user.id else store (.username value) := by
  simp only [enrolled, Store.write, Tables.putOutbox, Tables.putUser]
  split <;> rfl

theorem enrolled_outbox (id : String) : Tables.outbox (enrolled env provider user store) id =
    if id = env.idgen 1 then some (createdEvent env (env.idgen 1) provider user).row else Tables.outbox store id := by
  simp only [enrolled, outbox_write, Tables.putOutbox, Tables.putUser]
  split <;> rfl

end Enrolled

/-- Every user is under their own id, and both unique columns lead to it. -/
structure Indexed (lower : Char → Char) (store : Store database) : Prop where
  keyed : ∀ id user, Tables.user store id = some user → user.id = id
  normal : ∀ id user, Tables.user store id = some user → Normal lower user
  email : ∀ id user, Tables.user store id = some user → store (.email (citext user.email)) = some id
  username : ∀ id user, Tables.user store id = some user → store (.username user.username) = some id

namespace Indexed
variable {lower : Char → Char} {before after : Store database}

theorem empty (nobody : ∀ id, Tables.user before id = none) : Indexed lower before := by
  refine ⟨?_, ?_, ?_, ?_⟩ <;>
  · intro id user found
    rw [nobody id] at found
    cases found

theorem of_roll (indexed : Indexed lower before) (same : ∀ key, Roll key → after key = before key) : Indexed lower after := by
  have users : ∀ id, Tables.user after id = Tables.user before id := fun id => same (.user id) trivial
  refine ⟨?_, ?_, ?_, ?_⟩
  · intro id user found
    exact indexed.keyed id user ((users id).symm.trans found)
  · intro id user found
    exact indexed.normal id user ((users id).symm.trans found)
  · intro id user found
    exact (same (.email _) trivial).trans (indexed.email id user ((users id).symm.trans found))
  · intro id user found
    exact (same (.username _) trivial).trans (indexed.username id user ((users id).symm.trans found))

theorem enrol (indexed : Indexed lower before) {env : SignUpEnv} {provider : String} {user : User} (same : env.lower = lower)
    (enrols : Enrols env provider user before after) : Indexed lower after := by
  have old : Indexed lower (enrolled env provider user before) := by
    refine ⟨?_, ?_, ?_, ?_⟩
    · intro id row found
      rw [enrolled_user] at found
      split at found
      next here => rw [here, Option.some.inj found]
      · exact indexed.keyed id row found
    · intro id row found
      rw [enrolled_user] at found
      split at found
      · rw [← Option.some.inj found, ← same]
        exact enrols.normal
      · exact indexed.normal id row found
    · intro id row found
      rw [enrolled_user] at found
      rw [enrolled_email]
      split at found
      next here => rw [if_pos (by rw [Option.some.inj found]), here]
      · have elsewhere := indexed.email id row found
        rw [if_neg (fun taken => by rw [taken, enrols.address] at elsewhere; cases elsewhere), elsewhere]
    · intro id row found
      rw [enrolled_user] at found
      rw [enrolled_username]
      split at found
      next here => rw [if_pos (by rw [Option.some.inj found]), here]
      · have elsewhere := indexed.username id row found
        rw [if_neg (fun taken => by rw [taken, enrols.name] at elsewhere; cases elsewhere), elsewhere]
  exact old.of_roll enrols.rows

/-- Two users never share an address, whatever its case, or a name. -/
theorem same_user (indexed : Indexed lower before) {id other : String} {user another : User} (found : Tables.user before id = some user)
    (there : Tables.user before other = some another)
    (shared : citext user.email = citext another.email ∨ user.username = another.username) : id = other := by
  rcases shared with address | name
  · have leads := indexed.email id user found
    rw [address, indexed.email other another there] at leads
    exact (Option.some.inj leads).symm
  · have leads := indexed.username id user found
    rw [name, indexed.username other another there] at leads
    exact (Option.some.inj leads).symm

end Indexed

/-- A user stays as they were created. -/
theorem step_keeps {store : Store database} (event : AuthIdentity.Event) {id : String} {user : User}
    (found : Tables.user store id = some user) : Tables.user (AuthIdentity.step store event) id = some user := by
  cases step_moves store event with
  | same same => exact (same (.user id) trivial).trans found
  | enrols creates enrols =>
    refine (enrols.rows (.user id) trivial).trans ((enrolled_user ..).trans ?_)
    rw [if_neg (fun here => by rw [here, enrols.absent] at found; cases found), found]

end VibeSync.Proofs.AuthRoster
