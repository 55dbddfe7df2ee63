import VibeSync.Proofs.AuthIdentity
import VibeSync.Proofs.AuthPassword

/-! A user who has registered logs in. Registration stores the address trimmed and in
lower case; login looks it up as it was typed, in a column that ignores the case only. -/

namespace VibeSync.Proofs.AuthLogin
open VibeSync.Auth Transaction Columns VibeSync.Proofs.AuthTables VibeSync.Proofs.AuthSteps

section Registered
variable [Collation]

/-! Addresses. -/

section Addresses
variable {lower : Char → Char}

/-- The column takes a letter and its lower-case form for the same. -/
def IgnoresCase (lower : Char → Char) : Prop := ∀ c, Collation.fold (lower c) = Collation.fold c

theorem citext_toLower (ignores : IgnoresCase lower) (s : String) : citext (toLower lower s) = citext s := by
  have same : Collation.fold ∘ lower = Collation.fold := funext ignores
  rw [citext, citext, toLower, String.toList_ofList, List.map_map, same]

/-- Only an address without blanks around it has the length of the one stored. -/
theorem trimmed_of_citext {s : String} (same : citext (toLower lower (trimSpace s)) = citext s) :
    trimSpace s = s := by
  have lengths := congrArg (fun text => text.toList.length) same
  simp only [citext_length] at lengths
  rw [toLower, String.toList_ofList, List.length_map] at lengths
  rw [trimSpace, String.toList_ofList] at lengths
  exact String.toList_injective ((String.toList_ofList ..).trans ((trim_sublist isSpace s.toList).eq_of_length lengths))

end Addresses

/-! Users and their addresses in the store. -/

/-- Users are stored under their id, and an address leads to the user who has it. -/
structure Addressed (store : Store database) : Prop where
  keyed : ∀ id user, Tables.user store id = some user → user.id = id
  owned : ∀ address id, store (.email address) = some id →
    ∃ user, Tables.user store id = some user ∧ citext user.email = address

structure Listed (user : User) (store : Store database) : Prop where
  present : Tables.user store user.id = some user
  address : store (.email (citext user.email)) = some user.id

theorem Addressed.of_empty {store : Store database} (nobody : ∀ id, Tables.user store id = none)
    (nowhere : ∀ address, store (.email address) = none) : Addressed store := by
  constructor
  · intro id user found
    cases (nobody id).symm.trans found
  · intro address id found
    cases (nowhere address).symm.trans found

section Statements
variable {store : Store database} {sql : Statement} {reply : Reply sql} {written : Writes database}

/-- The one statement that touches users or addresses inserts new ones. -/
theorem execute_users (executed : database.execute sql store = .ok (reply, written)) :
    ((∀ id, written (.user id) = none) ∧ ∀ address, written (.email address) = none) ∨
      ∃ new : User, Tables.user store new.id = none ∧ store (.email (citext new.email)) = none ∧
        written = Tables.putUser new := by
  cases sql with
  | createUser new =>
    obtain ⟨absent, unused, rfl⟩ := insertUser_ok executed
    exact Or.inr ⟨new, absent, unused, rfl⟩
  | createSession session =>
    obtain ⟨_, _, _, _, rfl⟩ := insertSession_ok executed
    exact Or.inl ⟨fun _ => rfl, fun _ => rfl⟩
  | createToken token =>
    obtain ⟨_, rfl⟩ := insertToken_ok executed
    exact Or.inl ⟨fun _ => rfl, fun _ => rfl⟩
  | createFlow flow =>
    obtain ⟨_, _, rfl⟩ := insertFlow_ok executed
    exact Or.inl ⟨fun _ => rfl, fun _ => rfl⟩
  | accountUpsert account =>
    rcases upsertAccount_ok executed with ⟨_, _, rfl⟩ | ⟨_, _, _, rfl⟩
    · exact Or.inl ⟨fun _ => rfl, fun _ => rfl⟩
    · exact Or.inl ⟨fun _ => rfl, fun _ => rfl⟩
  | providerTokenUpsert token =>
    obtain rfl := upsertProviderToken_ok executed
    exact Or.inl ⟨fun _ => rfl, fun _ => rfl⟩
  | outboxInsert event =>
    obtain ⟨_, rfl⟩ := insertOutbox_ok executed
    exact Or.inl ⟨fun _ => rfl, fun _ => rfl⟩
  | _ =>
    cases executed
    exact Or.inl ⟨fun _ => rfl, fun _ => rfl⟩

theorem email_write (address : String) :
    store.write written (.email address) = (written (.email address)).getD (store (.email address)) := rfl

theorem email_putUser (new : User) (address : String) :
    store.write (Tables.putUser new) (.email address) =
      if address = citext new.email then some new.id else store (.email address) := by
  rw [email_write, Tables.putUser]
  split <;> rfl

theorem Addressed.write (executed : database.execute sql store = .ok (reply, written)) (addressed : Addressed store) :
    Addressed (store.write written) := by
  rcases execute_users executed with ⟨users, emails⟩ | ⟨new, absent, unused, rfl⟩
  · have sameUsers : Tables.user (store.write written) = Tables.user store := funext fun id => by rw [user_write, users id]; rfl
    refine ⟨by rw [sameUsers]; exact addressed.keyed, fun address id found => ?_⟩
    rw [email_write, emails address] at found
    rw [sameUsers]
    exact addressed.owned address id found
  · refine ⟨fun id user found => ?_, fun address id found => ?_⟩
    · rw [user_putUser, Function.update_apply] at found
      split at found
      · next here =>
        cases found
        exact here.symm
      · exact addressed.keyed id user found
    · rw [user_putUser]
      rw [email_putUser] at found
      split at found
      · next same =>
        cases found
        exact ⟨new, Function.update_self .., same.symm⟩
      · obtain ⟨user, present, owns⟩ := addressed.owned address id found
        have other : id ≠ new.id := by
          rintro rfl
          cases absent.symm.trans present
        exact ⟨user, by rw [Function.update_of_ne other]; exact present, owns⟩

theorem Listed.write {user : User} (executed : database.execute sql store = .ok (reply, written)) (listed : Listed user store) :
    Listed user (store.write written) := by
  rcases execute_users executed with ⟨users, emails⟩ | ⟨new, absent, unused, rfl⟩
  · refine ⟨?_, ?_⟩
    · rw [user_write, users]
      exact listed.present
    · rw [email_write, emails]
      exact listed.address
  · refine ⟨?_, ?_⟩
    · have other : user.id ≠ new.id := by
        intro same
        rw [← same] at absent
        cases absent.symm.trans listed.present
      rw [user_putUser, Function.update_of_ne other]
      exact listed.present
    · have other : citext user.email ≠ citext new.email := by
        intro same
        rw [← same] at unused
        cases unused.symm.trans listed.address
      rw [email_putUser, if_neg other]
      exact listed.address

end Statements

/-! Registration. -/

/-- What a registration leaves behind. -/
structure Registered (env : SignUpEnv) (req : RegisterRequest) (after : Store database) (session : Session) (user : User) :
    Prop where
  width : user.id.length ≤ 26
  email : user.email = trimSpace (toLower env.lower req.email)
  active : user.canAuthenticate = true
  hashed : env.hash req.password = .ok user.passwordHash
  owner : session.userID = user.id
  listed : Listed user after
  named : req.email ≠ "" ∧ req.password ≠ ""

section Registration
variable {env : SignUpEnv} {req : RegisterRequest} {store after : Store database} {session : Session} {material : TokenMaterial}

omit [Collation] in
theorem newUser_ok {lower : Char → Char} {now : Time} {p : NewUserParams} {user : User} (made : newUser lower now p = .ok user) :
    user.email = trimSpace (toLower lower p.email) ∧ user.status = .active := by
  unfold newUser at made
  dsimp only at made
  split at made
  · cases made
  split at made
  · cases made
  split at made
  · cases made
  · cases made
    exact ⟨rfl, rfl⟩

theorem Listed.enroll {event : String} {row : Outbox.Row} (user : User) :
    Listed user ((store.write (Tables.putUser user)).write (Tables.putOutbox event row)) := by
  constructor
  · change Tables.user (store.write (Tables.putUser user)) user.id = _
    rw [user_putUser, Function.update_self]
  · change store.write (Tables.putUser user) (.email (citext user.email)) = _
    rw [email_putUser, if_pos rfl]

theorem Listed.signedIn {env : Env} {user other : User} (listed : Listed user store) (signed : SignedIn env other store after session) :
    Listed user after := by
  constructor
  · exact (signed.standing (.user user.id) trivial).trans listed.present
  · exact (signed.standing (.email (citext user.email)) trivial).trans listed.address

theorem register_registered (succeeded : register env req store = (.ok (session, material), after)) :
    ∃ user, Registered env req after session user := by
  unfold register at succeeded
  split at succeeded
  · cases succeeded
  next given =>
    split at succeeded
    · cases succeeded
    rcases Program.withTx_cases (registerBody env req) store with ⟨_, failed⟩ | ⟨value, last, committed, executed⟩
    · cases failed.symm.trans succeeded
    cases committed.symm.trans succeeded
    obtain ⟨fresh, made, rest⟩ := Program.exec_pure_ok executed
    obtain ⟨hash, hashed, rest⟩ := Program.exec_pure_ok rest
    obtain ⟨known, _, seen, rest⟩ := Program.exec_statement_ok rest
    cases seen
    split at rest
    · cases rest
    obtain ⟨_, _, created, rest⟩ := Program.exec_statement_ok rest
    have width := insertUser_width created
    obtain ⟨_, _, rfl⟩ := insertUser_ok created
    rw [outboxAppend_created] at rest
    obtain ⟨_, _, appended, rest⟩ := Program.exec_statement_ok rest
    obtain ⟨_, rfl⟩ := insertOutbox_ok appended
    have signed := issue_ok rest
    obtain ⟨email, status⟩ := newUser_ok (reporting_ok made)
    refine ⟨{ fresh.setPassword hash env.passwordSetAt with id := env.idgen 0 }, width, email, ?_, reporting_ok hashed, signed.owner,
      (Listed.enroll _).signedIn signed, fun empty => given (Or.inl empty), fun empty => given (Or.inr (Or.inr empty))⟩
    change fresh.status.canLogin = true
    rw [status]
    rfl

end Registration

/-! Login. -/

/-- The ports of a call can issue a session: its ids and its selector are new and of
their size, and nothing fails. -/
structure Ready (env : Env) (store : Store database) : Prop where
  ids : ∀ n, (env.idgen n).length ≤ 26
  session : store (.session (env.idgen 0)) = none
  family : store (.family (env.idgen 1)) = none
  token : store (.token (env.idgen 2)) = none
  selector : ∃ text, env.randomURL selectorBytes = .ok text ∧ store (.selector text) = none ∧ text.length ≤ 32
  validator : ∃ text, env.randomURL validatorBytes = .ok text
  hash : ∀ text, ∃ hashed, env.hash text = .ok hashed
  sign : ∀ claims, ∃ access, env.sign claims = .ok access

section Login
variable {env : Env} {store after : Store database} {user : User} {session : Session} {material : TokenMaterial}
  {email password deviceLabel : String}

theorem insertSession_new {session : Session} (widths : session.id.length ≤ 26 ∧ session.userID.length ≤ 26 ∧ session.familyID.length ≤ 26)
    (fit : fits 100 session.deviceLabel = true) (absent : store (.session session.id) = none)
    (unused : store (.family session.familyID) = none) (present : store (.user session.userID) = some user) :
    Tables.insertSession store session =
      .ok ((), Tables.putSession { session with deviceLabel := String.ofList (session.deviceLabel.toList.take 100) }) := by
  obtain ⟨id, owner, family⟩ := widths
  rw [Tables.insertSession, checkID_ok id, checkID_ok owner, varchar_ok fit, checkID_ok family, absent, unused, present]
  rfl

theorem insertToken_new {token : RefreshToken} {session : Session}
    (widths : token.id.length ≤ 26 ∧ token.familyID.length ≤ 26 ∧ token.userID.length ≤ 26 ∧ token.sessionID.length ≤ 26)
    (short : token.selector.length ≤ 32) (root : token.rotatedFrom = "") (absent : store (.token token.id) = none)
    (unused : store (.selector token.selector) = none) (present : store (.user token.userID) = some user)
    (opened : store (.session token.sessionID) = some session) :
    Tables.insertToken store token = .ok ((), Tables.putToken token) := by
  obtain ⟨id, family, owner, device⟩ := widths
  have empty : token.rotatedFrom.length ≤ 26 := by simp [root]
  rw [Tables.insertToken, checkID_ok id, checkID_ok family, checkID_ok owner, checkID_ok device, checkLength_ok short,
    checkID_ok empty, absent, unused, present, opened]
  rfl

theorem Ready.issues (ready : Ready env store) (present : Tables.user store user.id = some user) (width : user.id.length ≤ 26)
    {deviceLabel : String} (fit : fits 100 deviceLabel = true) :
    ∃ session material after, (issueSessionForUser env user deviceLabel).exec store = (.ok (session, material), after) := by
  obtain ⟨selector, drawn, unused, short⟩ := ready.selector
  obtain ⟨validator, drawn'⟩ := ready.validator
  obtain ⟨validatorHash, hashed⟩ := ready.hash validator
  obtain ⟨access, signed⟩ : ∃ access, issueAccessToken env user = .ok access := ready.sign _
  let session := newSession env.now (env.idgen 0) user.id (env.idgen 1) env.sessionTTL deviceLabel
  let token : RefreshToken :=
    { id := env.idgen 2, familyID := env.idgen 1, userID := user.id, sessionID := env.idgen 0, selector, validatorHash
      rotatedFrom := "", status := .active, expiresAt := env.now + env.refreshTokenTTL, createdAt := env.now
      usedAt := none, revokedAt := none }
  have made : newRefreshToken env.randomURL env.hash env.now (env.idgen 2) (env.idgen 1) user.id (env.idgen 0) ""
      env.refreshTokenTTL = .ok (token, ⟨selector, validator⟩) := by
    simp only [newRefreshToken, drawn, drawn', hashed, bind, Except.bind, pure, Except.pure]
    rfl
  let kept := { session with deviceLabel := String.ofList (session.deviceLabel.toList.take 100) }
  have opened : Tables.insertSession store session = .ok ((), Tables.putSession kept) :=
    insertSession_new ⟨ready.ids 0, width, ready.ids 1⟩ fit ready.session ready.family present
  have stored : store.write (Tables.putSession kept) (.session token.sessionID) = some kept := by
    change Tables.session (store.write (Tables.putSession kept)) kept.id = _
    rw [session_putSession, Function.update_self]
  have issued : Tables.insertToken (store.write (Tables.putSession kept)) token = .ok ((), Tables.putToken token) :=
    insertToken_new ⟨ready.ids 2, ready.ids 1, width, ready.ids 0⟩ short rfl ready.token unused present stored
  refine ⟨session, tokenMaterial env access ⟨selector, validator⟩,
    (store.write (Tables.putSession kept)).write (Tables.putToken token), ?_⟩
  rw [issueSessionForUser, made, signed]
  exact (Program.exec_query opened).trans (Program.exec_query issued)

/-- The label of a session that was opened fits its column. -/
theorem issue_fits (executed : (issueSessionForUser env user deviceLabel).exec store = (.ok (session, material), after)) :
    fits 100 deviceLabel = true := by
  obtain ⟨_, _, created, _⟩ := Program.exec_statement_ok executed
  obtain ⟨_, _, fit, _⟩ := insertSession_ok created
  exact fit

theorem login_lookup (succeeded : login env email password deviceLabel store = (.ok (session, material), after)) :
    ∃ id user, store (.email (citext email)) = some id ∧ Tables.user store id = some user ∧ session.userID = user.id ∧
      fits 100 deviceLabel = true := by
  unfold login at succeeded
  split at succeeded
  · cases succeeded
  rcases Program.withTx_cases (loginBody env email password deviceLabel) store with
    ⟨_, failed⟩ | ⟨value, last, committed, executed⟩
  · cases failed.symm.trans succeeded
  cases committed.symm.trans succeeded
  obtain ⟨reply, _, seen, rest⟩ := Program.exec_statement_ok executed
  obtain ⟨found, rfl⟩ := Prod.mk.inj (Except.ok.inj seen)
  cases reply with
  | none => cases rest
  | some user =>
    obtain ⟨id, address, present⟩ := Option.bind_eq_some_iff.mp found
    dsimp only at rest
    split at rest
    · cases rest
    split at rest
    · exact ⟨id, user, address, present, (issue_ok rest).owner, issue_fits rest⟩
    · cases rest

theorem login_succeeds (listed : Listed user store) (width : user.id.length ≤ 26) (ready : Ready env store)
    (active : user.canAuthenticate = true)
    (secret : user.hasPassword = true) (accepted : env.compare user.passwordHash password = true)
    (address : citext email = citext user.email) (given : email ≠ "" ∧ password ≠ "")
    (fit : fits 100 deviceLabel = true) :
    ∃ session material after,
      login env email password deviceLabel store = (.ok (session, material), after) ∧ session.userID = user.id := by
  obtain ⟨session, material, after, issued⟩ := ready.issues listed.present width fit
  have executed : (loginBody env email password deviceLabel).exec store = (.ok (session, material), after) := by
    have found : (store (.email (citext email))).bind (Tables.user store) = some user := by
      rw [address, listed.address, Option.bind_some, listed.present]
    have known : ¬ (¬ user.hasPassword = true ∨ ¬ env.compare user.passwordHash password = true) := by
      rw [secret, accepted]
      simp
    rw [loginBody, exec_userByEmail, found]
    dsimp only
    rw [if_neg known, if_pos active]
    exact issued
  refine ⟨session, material, after, ?_, (issue_ok issued).owner⟩
  rw [login, if_neg (not_or.mpr given), Program.withTx_of_ok executed]

end Login

/-- The hasher accepts what it has hashed, and a hash is never empty. -/
structure Accepts (hash : String → Except Err String) (compare : String → String → Bool) : Prop where
  accepted : ∀ {password hashed}, hash password = .ok hashed → compare hashed password = true
  written : ∀ {password hashed}, hash password = .ok hashed → hashed ≠ ""

omit [Collation] in
theorem hasher_accepts (hasher : PasswordHasher) : Accepts hasher.hash hasher.compare where
  accepted := AuthPassword.compare_hash hasher
  written := by
    intro password hashed made empty
    have accepted := AuthPassword.compare_hash hasher made
    rw [empty] at accepted
    cases accepted

def LogsIn (env : Env) (email password deviceLabel userID : String) (store : Store database) : Prop :=
  ∃ session material after,
    login env email password deviceLabel store = (.ok (session, material), after) ∧ session.userID = userID

section Agreement
variable {env : SignUpEnv} {req : RegisterRequest} {store registered : Store database} {session : Session}
  {material : TokenMaterial} {caller : Env}

theorem Listed.run {user : User} (listed : Listed user store) (events : List AuthIdentity.Event) :
    Listed user (Machine.run AuthIdentity.step store events) :=
  AuthIdentity.run_invariant (fun _ _ _ _ executed held => held.write executed) listed events

theorem Addressed.run (addressed : Addressed store) (events : List AuthIdentity.Event) :
    Addressed (Machine.run AuthIdentity.step store events) :=
  AuthIdentity.run_invariant (fun _ _ _ _ executed held => held.write executed) addressed events

theorem Addressed.register (addressed : Addressed store)
    (succeeded : register env req store = (.ok (session, material), registered)) : Addressed registered := by
  have kept := addressed.run [.call (.register env req)]
  change Addressed (Auth.register env req store).2 at kept
  rwa [succeeded] at kept

/-- Whatever is served in between, who registered logs in with the same texts if and only if
the address was typed without blanks around it and the label of the new session fits its column. -/
theorem login_after_register_iff (addressed : Addressed store)
    (succeeded : register env req store = (.ok (session, material), registered)) (events : List AuthIdentity.Event)
    (ready : Ready caller (Machine.run AuthIdentity.step registered events)) (hasher : Accepts env.hash caller.compare)
    (folds : ∀ c, isSpace (env.lower c) = isSpace c) (ignores : IgnoresCase env.lower) (deviceLabel : String) :
    LogsIn caller req.email req.password deviceLabel session.userID (Machine.run AuthIdentity.step registered events) ↔
      trimSpace req.email = req.email ∧ fits 100 deviceLabel = true := by
  obtain ⟨user, user_registered⟩ := register_registered succeeded
  have listed := user_registered.listed.run events
  have stored : user.email = toLower env.lower (trimSpace req.email) :=
    user_registered.email.trans (trimSpace_toLower folds req.email)
  constructor
  · rintro ⟨again, issued, after, logged, same⟩
    obtain ⟨id, found, address, present, owner, fit⟩ := login_lookup logged
    have later := (addressed.register succeeded).run events
    have key : id = user.id := by
      rw [← later.keyed id found present, ← owner, same, user_registered.owner]
    obtain ⟨holder, held, owns⟩ := later.owned _ id address
    rw [key, listed.present] at held
    cases held
    rw [stored] at owns
    exact ⟨trimmed_of_citext owns, fit⟩
  · rintro ⟨trimmed, fit⟩
    have address : citext req.email = citext user.email := by
      rw [stored, trimmed, citext_toLower ignores]
    have secret : user.hasPassword = true := decide_eq_true (hasher.written user_registered.hashed)
    rw [LogsIn, user_registered.owner]
    exact login_succeeds listed user_registered.width ready user_registered.active secret
      (hasher.accepted user_registered.hashed) address user_registered.named fit

end Agreement

end Registered

/-! Annie, who types her address with a capital letter. -/

local instance : Collation := .c

def newcomer : SignUpEnv := { AuthFlows.signingUp 12 with lower := fun c => if c = 'A' then 'a' else c }

def form (email : String) : RegisterRequest := ⟨email, "annie", "password", "", ""⟩

def visitor : Env :=
  { AuthReuse.call with idgen := fun n => ["d2", "f2", "t2"].getD n "", randomURL := fun _ => .ok "s9" }

def welcomed (email : String) : Store database := (register newcomer (form email) AuthFlows.nothing).2

theorem visitor_ready : Ready visitor (welcomed "Ann@b.c") where
  ids := by
    rintro (_ | _ | _ | n)
    iterate 3 exact (by decide)
    exact Nat.zero_le _
  session := by decide +kernel
  family := by decide +kernel
  token := by decide +kernel
  selector := ⟨"s9", rfl, by decide +kernel, by decide⟩
  validator := ⟨"s9", rfl⟩
  hash := fun _ => ⟨_, rfl⟩
  sign := fun _ => ⟨_, rfl⟩

theorem newcomer_accepted : Accepts newcomer.hash visitor.compare where
  accepted := by
    rintro password _ ⟨⟩
    exact decide_eq_true rfl
  written := by
    rintro password _ ⟨⟩ empty
    have short := congrArg String.length empty
    rw [String.length_append] at short
    exact absurd short (by simp)

theorem annie_logs_in : LogsIn visitor "Ann@b.c" "password" "phone" "u1" (welcomed "Ann@b.c") := by
  obtain ⟨⟨session, material⟩, made⟩ := Program.value_of_isOk (by decide +kernel :
    (register newcomer (form "Ann@b.c") AuthFlows.nothing).1.isOk = true)
  have owner : (register newcomer (form "Ann@b.c") AuthFlows.nothing).1.toOption.map (fun issued => issued.1.userID) = some "u1" := by
    decide +kernel
  rw [made] at owner
  have annie : session.userID = "u1" := Option.some.inj owner
  have folds : ∀ c, isSpace (newcomer.lower c) = isSpace c := by
    intro c
    by_cases capital : c = 'A'
    · rw [capital]
      decide
    · exact congrArg isSpace (if_neg capital)
  have ignores : IgnoresCase newcomer.lower := by
    intro c
    by_cases capital : c = 'A'
    · rw [capital]
      decide
    · exact congrArg Collation.fold (if_neg capital)
  have logs := (login_after_register_iff (Addressed.of_empty (fun _ => rfl) fun _ => rfl) (Prod.ext made rfl) []
    visitor_ready newcomer_accepted folds ignores "phone").mpr (by decide)
  rw [annie] at logs
  exact logs

/-- The address was typed with a blank in front and is stored without it. -/
theorem blank_locks_out :
    (register newcomer (form " ann@b.c") AuthFlows.nothing).1.isOk = true ∧
      (login visitor " ann@b.c" "password" "" (welcomed " ann@b.c")).1.toOption.isNone = true := by
  decide +kernel

end VibeSync.Proofs.AuthLogin
