import VibeSync.Auth.Service

/-! Presenting a used refresh token. The family is marked compromised inside the
transaction whose error then rolls the mark back. -/

namespace VibeSync.Proofs.AuthReuse
open VibeSync.Auth Transaction

section Reuse
variable [Collation]

/-- The presented string leads to this row. -/
def Presents (store : Store database) (presented : String) (rt : RefreshToken) : Prop :=
  ∃ id, store (.selector (splitSelectorValidator presented).1) = some id ∧ Tables.token store id = some rt

def Compromised (store : Store database) (family : String) : Prop :=
  ∀ id row, Tables.token store id = some row → row.familyID = family → row.status = .compromised

/-- What the rotation design asks of a reuse: it is reported, the committed rows
of the family are compromised, and no later call with one of them succeeds. -/
structure Burns (env : Env) (presented : String) (store : Store database) (family : String) : Prop where
  reported : ∃ err, (refreshToken env presented store).1 = .error err ∧ err.reason = some "REUSE_DETECTED"
  burned : Compromised (refreshToken env presented store).2 family
  refused : ∀ (later : Env) other row, Presents (refreshToken env presented store).2 other row →
    row.familyID = family → ∃ err, (refreshToken later other (refreshToken env presented store).2).1 = .error err

theorem refreshToken_parts {env : Env} {presented selector validator : String} {store : Store database}
    (parts : splitSelectorValidator presented = (selector, validator)) (named : selector ≠ "")
    (secret : validator ≠ "") : refreshToken env presented store = (refreshBody env selector validator).withTx store := by
  have present : presented ≠ "" := by
    rintro rfl
    have empty : splitSelectorValidator "" = ("", "") := by decide
    rw [empty] at parts
    cases parts
    exact named rfl
  simp [refreshToken, refreshUseCase, parts, present, named, secret]

/-- Reading a row by its selector, as the first statement of a body. -/
theorem run_getBySelector {α : Type} (store : Store database) (selector : String) (writes : Writes database)
    (next : Option RefreshToken → Tx α) :
    (Repo.getBySelector selector >>= next).run store writes =
      (next ((store.write writes (.selector selector)).bind (Tables.token (store.write writes)))).run store writes := rfl

theorem reuse_run {env : Env} {selector validator id : String} {store : Store database} {rt : RefreshToken}
    (indexed : store (.selector selector) = some id) (row : Tables.token store id = some rt)
    (matches_ : rt.verifyValidator validator env.compare = true)
    (unexpired : env.now < rt.expiresAt) (used : rt.status = .used) :
    ((refreshBody env selector validator).run store Writes.empty).1 = .error (reuseDetected rt (some errReuse)) := by
  unfold refreshBody
  rw [run_getBySelector]
  simp only [Store.write_empty, indexed, Option.bind_some, row, matches_, ↓reduceIte,
    RefreshToken.classifyUse_reuse used unexpired]
  rfl

theorem reuse_rolls_back {env : Env} {presented : String} {store : Store database} {rt : RefreshToken}
    (named : (splitSelectorValidator presented).1 ≠ "") (secret : (splitSelectorValidator presented).2 ≠ "")
    (row : Presents store presented rt)
    (matches_ : rt.verifyValidator (splitSelectorValidator presented).2 env.compare = true)
    (unexpired : env.now < rt.expiresAt) (used : rt.status = .used) :
    refreshToken env presented store = (.error (reuseDetected rt (some errReuse)), store) := by
  obtain ⟨id, indexed, found⟩ := row
  rw [refreshToken_parts rfl named secret]
  exact Program.withTx_error (reuse_run indexed found matches_ unexpired used)

/-- A presented string without one of its halves is refused at once. -/
theorem refreshToken_malformed (env : Env) {presented : String} (store : Store database)
    (malformed : (splitSelectorValidator presented).1 = "" ∨ (splitSelectorValidator presented).2 = "") :
    (refreshToken env presented store).2 = store := by
  unfold refreshToken
  split
  · rfl
  · simp only [refreshUseCase, if_pos malformed]

/-- The burn never reaches the committed rows: the call that detects the reuse
reports it and leaves the store as it was, so the presented row is still used. -/
theorem reuse_never_burns (env : Env) (presented : String) (store : Store database) (rt : RefreshToken)
    (row : Presents store presented rt)
    (matches_ : rt.verifyValidator (splitSelectorValidator presented).2 env.compare = true)
    (unexpired : env.now < rt.expiresAt) (used : rt.status = .used) :
    ((splitSelectorValidator presented).1 ≠ "" → (splitSelectorValidator presented).2 ≠ "" →
        (refreshToken env presented store).1 = .error (reuseDetected rt (some errReuse))) ∧
      (refreshToken env presented store).2 = store ∧ ¬ Burns env presented store rt.familyID := by
  have unchanged : (refreshToken env presented store).2 = store := by
    by_cases named : (splitSelectorValidator presented).1 = ""
    · exact refreshToken_malformed env store (Or.inl named)
    by_cases secret : (splitSelectorValidator presented).2 = ""
    · exact refreshToken_malformed env store (Or.inr secret)
    · rw [reuse_rolls_back named secret row matches_ unexpired used]
  refine ⟨?_, unchanged, fun burns => ?_⟩
  · intro named secret
    rw [reuse_rolls_back named secret row matches_ unexpired used]
  · obtain ⟨id, _, found⟩ := row
    have marked := burns.burned id rt (by rw [unchanged]; exact found) rfl
    rw [used] at marked
    cases marked

end Reuse

/-! A stolen token: `t0` was rotated into `t1`, and both belong to one family. -/

local instance : Collation := .c

def owner : User :=
  { id := "u1", email := "a@b.c", username := "alice", displayName := "Alice", avatarURL := "", passwordHash := "h:pw",
    systemRole := .user, status := .active, createdAt := 0, updatedAt := 0 }

def device : Session := newSession 0 "d1" "u1" "f1" 1000 ""

def rotated : RefreshToken :=
  { id := "t0", familyID := "f1", userID := "u1", sessionID := "d1", selector := "s0", validatorHash := "h:v0",
    rotatedFrom := "", status := .used, expiresAt := 1000, createdAt := 0, usedAt := some 5, revokedAt := none }

def successor : RefreshToken :=
  { rotated with id := "t1", selector := "s1", validatorHash := "h:v1", rotatedFrom := "t0", status := .active,
                 usedAt := none }

def stolen : Store database
  | .user id => if id = "u1" then some owner else none
  | .email address => if address = "a@b.c" then some "u1" else none
  | .session id => if id = "d1" then some device else none
  | .family id => if id = "f1" then some "d1" else none
  | .token id => if id = "t0" then some rotated else if id = "t1" then some successor else none
  | .selector value => if value = "s0" then some "t0" else if value = "s1" then some "t1" else none
  | _ => none

def call : Env :=
  { now := 10, issuedAt := 10, idgen := fun _ => "t2",
    randomURL := fun bytes => .ok (if bytes = selectorBytes then "s2" else "v2"),
    hash := fun plaintext => .ok ("h:" ++ plaintext), compare := fun hash candidate => hash = "h:" ++ candidate,
    sign := fun _ => .ok "jwt", issuer := "vibesync", sessionTTL := 1000, refreshTokenTTL := 100,
    accessTokenTTL := 10 }

theorem stolen_reuse :
    (refreshToken call "s0.v0" stolen).2 = stolen ∧ ¬ Burns call "s0.v0" stolen "f1" :=
  (reuse_never_burns call "s0.v0" stolen rotated ⟨"t0", by decide, by decide⟩ (by decide) (by decide) (by decide)).2

/-- After the reported reuse the thief's successor token still rotates. -/
theorem reuse_leaves_family_usable :
    ¬ ∀ (env : Env) (presented : String) (store : Store database) (rt : RefreshToken),
        (splitSelectorValidator presented).1 ≠ "" → (splitSelectorValidator presented).2 ≠ "" →
        Presents store presented rt → rt.verifyValidator (splitSelectorValidator presented).2 env.compare = true →
        env.now < rt.expiresAt → rt.status = .used → Burns env presented store rt.familyID := by
  intro claim
  have burns := claim call "s0.v0" stolen rotated (by decide) (by decide) ⟨"t0", by decide, by decide⟩ (by decide)
    (by decide) (by decide)
  have unchanged : (refreshToken call "s0.v0" stolen).2 = stolen := by
    rw [@reuse_rolls_back _ call "s0.v0" stolen rotated (by decide) (by decide) ⟨"t0", by decide, by decide⟩ (by decide)
      (by decide) (by decide)]
  obtain ⟨err, refused⟩ := burns.refused call "s1.v1" successor (by rw [unchanged]; exact ⟨"t1", by decide, by decide⟩) rfl
  have accepted : (refreshToken call "s1.v1" stolen).1.isOk = true := by decide +kernel
  rw [unchanged] at refused
  rw [refused] at accepted
  cases accepted

end VibeSync.Proofs.AuthReuse
