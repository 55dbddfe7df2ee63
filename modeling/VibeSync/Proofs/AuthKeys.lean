import VibeSync.Auth.Keys
import VibeSync.Machine

/-! Signing keys over starts, rotations and crashes. Rows are retired but never
dropped, so the verifiers of a process hold every key that has signed before it
started; the process itself signs with the key it has loaded. -/

namespace VibeSync.Proofs.AuthKeys
open VibeSync.Auth VibeSync.Auth.Keys

variable {Private Public : Type} {crypto : Crypto Private Public}

/-- What the libraries guarantee: encodings are undone, and a signature verifies
under the public side of its own key only. -/
structure Sound (crypto : Crypto Private Public) : Prop where
  pkcs8 : ∀ priv der, crypto.encodePrivateKeyPKCS8 priv = .ok der → crypto.rsaPrivateKeyFromPKCS8 der = .ok priv
  jwk : ∀ pub jwk, crypto.rsaPublicKeyToJWK pub = .ok jwk → crypto.jwkToRSAPublic jwk = .ok pub
  json : ∀ claims payload, crypto.marshal claims = .ok payload → crypto.unmarshal payload = .ok claims
  compact : ∀ jws token, crypto.compactSerialize jws = .ok token → crypto.parseSignedCompact token = some jws
  own : ∀ priv kid payload signature pub, crypto.sign priv kid payload = .ok signature →
    (crypto.verify pub ⟨kid, payload, signature⟩ = true ↔ pub = crypto.publicKey priv)

/-- The row keeps both sides of this key. -/
structure Holds (crypto : Crypto Private Public) (row : SigningKey) (priv : Private) : Prop where
  encrypted : ∃ der, crypto.decrypt row.privateEncrypted = .ok der ∧ crypto.rsaPrivateKeyFromPKCS8 der = .ok priv
  jwk : crypto.jwkToRSAPublic row.publicJWK = .ok (crypto.publicKey priv)

/-- The cipher of this call is under the same master key. -/
def SameMaster (crypto : Crypto Private Public) (env : KeyEnv Private) : Prop :=
  ∀ der encrypted, env.encrypt der = .ok encrypted → crypto.decrypt encrypted = .ok der

theorem generateSigningKey_ok {env : KeyEnv Private} {kid : String} {key : SigningKey} {priv : Private}
    (sound : Sound crypto) (master : SameMaster crypto env) (generated : generateSigningKey crypto env kid = .ok (key, priv)) :
    key.kid = kid ∧ key.status = .active ∧ Holds crypto key priv := by
  simp only [generateSigningKey, bind, Except.bind, pure, Except.pure] at generated
  split at generated
  · cases generated
  split at generated
  · cases generated
  next der encoded =>
    split at generated
    · cases generated
    next encrypted sealed_ =>
      split at generated
      · cases generated
      next jwk serialized =>
        cases generated
        exact ⟨rfl, rfl, ⟨der, master _ _ sealed_, sound.pkcs8 _ _ encoded⟩, sound.jwk _ _ serialized⟩

/-! The table. -/

/-- Rows are verifiable, hold a key, and have their kid to themselves. -/
structure Ordered (crypto : Crypto Private Public) (table : Table) : Prop where
  rows : ∀ row ∈ table, (row.status = .active ∨ row.status = .retired) ∧ ∃ priv, Holds crypto row priv
  kids : ∀ row ∈ table, ∀ other ∈ table, row.kid = other.kid → row = other

/-- Exactly one row is active. -/
def OneActive (table : Table) : Prop := (actives table).length = 1

/-- No row is dropped, and none changes its key. -/
def Carries (before after : Table) : Prop :=
  ∀ row ∈ before, ∃ later ∈ after, later.kid = row.kid ∧ later.privateEncrypted = row.privateEncrypted ∧
    later.publicJWK = row.publicJWK

theorem Carries.refl (table : Table) : Carries table table := fun row member => ⟨row, member, rfl, rfl, rfl⟩

theorem Carries.trans {first second third : Table} (left : Carries first second) (right : Carries second third) :
    Carries first third := by
  intro row member
  obtain ⟨middle, there, kid, encrypted, jwk⟩ := left row member
  obtain ⟨last, here, sameKid, sameEncrypted, sameJWK⟩ := right middle there
  exact ⟨last, here, sameKid.trans kid, sameEncrypted.trans encrypted, sameJWK.trans jwk⟩

theorem Carries.holds {before after : Table} (carries : Carries before after) {row : SigningKey} (member : row ∈ before)
    {priv : Private} (holds : Holds crypto row priv) : ∃ later ∈ after, later.kid = row.kid ∧ Holds crypto later priv := by
  obtain ⟨later, here, kid, encrypted, jwk⟩ := carries row member
  exact ⟨later, here, kid, by rw [encrypted]; exact holds.encrypted, by rw [jwk]; exact holds.jwk⟩

theorem markRetired_carries (table : Table) (kid : String) (now : Time) : Carries table (markRetired table kid now) := by
  intro row member
  refine ⟨_, List.mem_map_of_mem member, ?_⟩
  split <;> exact ⟨rfl, rfl, rfl⟩

theorem mem_markRetired {table : Table} {kid : String} {now : Time} {row : SigningKey}
    (member : row ∈ markRetired table kid now) :
    ∃ old ∈ table, row = if old.kid = kid then { old with status := .retired, retiredAt := some (Outbox.timestamptz now) } else old := by
  obtain ⟨old, there, same⟩ := List.mem_map.mp member
  exact ⟨old, there, same.symm⟩

theorem Ordered.markRetired {table : Table} (ordered : Ordered crypto table) (kid : String) (now : Time) :
    Ordered crypto (markRetired table kid now) := by
  have kept : ∀ old : SigningKey,
      (if old.kid = kid then { old with status := .retired, retiredAt := some (Outbox.timestamptz now) } else old : SigningKey).kid =
        old.kid := by
    intro old
    split <;> rfl
  refine ⟨fun row member => ?_, fun row member other held same => ?_⟩
  · obtain ⟨old, there, rfl⟩ := mem_markRetired member
    obtain ⟨status, priv, holds⟩ := ordered.rows old there
    split
    · exact ⟨Or.inr rfl, priv, holds.encrypted, holds.jwk⟩
    · exact ⟨status, priv, holds⟩
  · obtain ⟨old, there, rfl⟩ := mem_markRetired member
    obtain ⟨last, here, rfl⟩ := mem_markRetired held
    rw [kept, kept] at same
    rw [ordered.kids old there last here same]

/-- A key with a new kid is added, and the index has let it through. -/
theorem upsert_fresh {table after : Table} {key : SigningKey} (fresh : ∀ row ∈ table, row.kid ≠ key.kid)
    (upserted : upsert table key = .ok after) : after = table ++ [key.stored] ∧ (actives after).length ≤ 1 := by
  have absent : ¬ table.any (fun row => row.kid = key.kid) := by simpa using fresh
  simp only [upsert, if_neg absent] at upserted
  split at upserted
  · cases upserted
  next admitted =>
    cases upserted
    exact ⟨rfl, Nat.le_of_not_lt admitted⟩

theorem stored_holds {key : SigningKey} {priv : Private} (holds : Holds crypto key priv) : Holds crypto key.stored priv :=
  ⟨holds.encrypted, holds.jwk⟩

theorem Ordered.append {table : Table} {key : SigningKey} {priv : Private} (ordered : Ordered crypto table)
    (fresh : ∀ row ∈ table, row.kid ≠ key.kid) (live : key.status = .active) (holds : Holds crypto key priv) :
    Ordered crypto (table ++ [key.stored]) := by
  have cases_ : ∀ row ∈ table ++ [key.stored], row ∈ table ∨ row = key.stored := by
    intro row member
    simpa using member
  refine ⟨fun row member => ?_, fun row member other held same => ?_⟩
  · rcases cases_ row member with old | rfl
    · exact ordered.rows row old
    · exact ⟨Or.inl live, priv, stored_holds holds⟩
  · rcases cases_ row member with old | rfl <;> rcases cases_ other held with older | rfl
    · exact ordered.kids row old other older same
    · exact absurd same (fresh row old)
    · exact absurd same.symm (fresh other older)
    · rfl

theorem append_carries (table : Table) (key : SigningKey) : Carries table (table ++ [key]) :=
  fun row member => ⟨row, List.mem_append_left _ member, rfl, rfl, rfl⟩

/-- What a new active key leaves: the old rows, perhaps retired, and its own. -/
structure Turned (crypto : Crypto Private Public) (before : Table) (key : SigningKey) (after : Table) : Prop where
  ordered : Ordered crypto after
  carries : Carries before after
  member : key.stored ∈ after
  one : OneActive after

theorem turned_of_upsert {before retired after : Table} {key : SigningKey} {priv : Private} (ordered : Ordered crypto retired)
    (carries : Carries before retired) (fresh : ∀ row ∈ retired, row.kid ≠ key.kid) (live : key.status = .active)
    (holds : Holds crypto key priv) (upserted : upsert retired key = .ok after) : Turned crypto before key after := by
  obtain ⟨rfl, most⟩ := upsert_fresh fresh upserted
  have member : key.stored ∈ retired ++ [key.stored] := by simp
  have counted : key.stored ∈ actives (retired ++ [key.stored]) := List.mem_filter.mpr ⟨member, decide_eq_true live⟩
  have least := List.length_pos_of_mem counted
  exact ⟨ordered.append fresh live holds, carries.trans (append_carries _ _), member, by unfold OneActive; omega⟩

/-- What the calls do to the table: it stays in order, drops no key and, once it
has rows, has one that is active. -/
structure Moved (crypto : Crypto Private Public) (before after : Table) : Prop where
  ordered : Ordered crypto after
  carries : Carries before after
  active : after = [] ∨ OneActive after

theorem Turned.moved {before after : Table} {key : SigningKey} (turned : Turned crypto before key after) :
    Moved crypto before after := ⟨turned.ordered, turned.carries, Or.inr turned.one⟩

/-! Transactions. -/

theorem attempt_ok {α : Type} {outage : Outage} {query : Query} {result : Except Err α} {value : α}
    (succeeded : outage.attempt query result = .ok value) : result = .ok value := by
  unfold Outage.attempt at succeeded
  split at succeeded
  · cases succeeded
  · exact succeeded

/-- A transaction leaves the table alone or takes it through its body, whatever
its caller is told. -/
theorem withTx_cases {α : Type} (outage : Outage) (table : Table) (body : Table → Except Err (α × Table)) :
    (∃ err, withTx outage table body = (.error err, table)) ∨
      ∃ value after, body table = .ok (value, after) ∧
        (withTx outage table body = (.ok value, after) ∨ ∃ err, withTx outage table body = (.error err, after)) := by
  unfold withTx
  cases outage.begin_ with
  | some err => exact Or.inl ⟨err, rfl⟩
  | none =>
    cases body table with
    | error err => exact Or.inl ⟨err, rfl⟩
    | ok outcome =>
      cases outage.commit with
      | applied => exact Or.inr ⟨outcome.1, outcome.2, rfl, Or.inl rfl⟩
      | lost err => exact Or.inl ⟨err, rfl⟩
      | unacknowledged err => exact Or.inr ⟨outcome.1, outcome.2, rfl, Or.inr ⟨err, rfl⟩⟩

/-- The kid that this call would generate is new. -/
def FreshKid (env : KeyEnv Private) (table : Table) : Prop :=
  ∀ kid, newKID env.random = .ok kid → ∀ row ∈ table, row.kid ≠ kid

theorem rotateKey_ok {env : KeyEnv Private} {force : Bool} {outage : Outage} {key : SigningKey} {table after : Table}
    {value : Unit} {priv : Private} (ordered : Ordered crypto table) (fresh : ∀ row ∈ table, row.kid ≠ key.kid)
    (live : key.status = .active) (holds : Holds crypto key priv)
    (rotated : rotateKey env force outage key table = .ok (value, after)) : Turned crypto table key after := by
  unfold rotateKey at rotated
  split at rotated
  · cases rotated
  · simp only [bind, Except.bind, pure, Except.pure] at rotated
    split at rotated
    · cases rotated
    next upserted =>
      cases rotated
      exact turned_of_upsert ordered (Carries.refl table) fresh live holds (attempt_ok upserted)
  next prev _ =>
    split at rotated
    · cases rotated
    · simp only [bind, Except.bind, pure, Except.pure] at rotated
      split at rotated
      · cases rotated
      next retired marked =>
        split at rotated
        · cases rotated
        next upserted =>
          cases rotated
          cases attempt_ok marked
          refine turned_of_upsert (ordered.markRetired prev.kid env.now) (markRetired_carries table prev.kid env.now) ?_ live
            holds (attempt_ok upserted)
          intro row member
          obtain ⟨old, there, rfl⟩ := mem_markRetired member
          split <;> exact fresh old there

/-- The running signer is left alone: `*crypto.JWTSigner` is no `signerReloader`. -/
theorem rotateSigningKey_cases {env : KeyEnv Private} {table : Table} (sound : Sound crypto) (master : SameMaster crypto env)
    (fresh : FreshKid env table) (ordered : Ordered crypto table) (force : Bool) (outage reading : Outage)
    (signer : JWTSigner Private Public) :
    (∃ err, rotateSigningKey crypto jwtSignerMethods env force outage reading table signer = (.error err, table, signer)) ∨
      ∃ kid key after, newKID env.random = .ok kid ∧ key.kid = kid ∧ key.status = .active ∧ Turned crypto table key after ∧
        (rotateSigningKey crypto jwtSignerMethods env force outage reading table signer = (.ok kid, after, signer) ∨
          ∃ err, rotateSigningKey crypto jwtSignerMethods env force outage reading table signer = (.error err, after, signer)) := by
  unfold rotateSigningKey
  cases drawn : newKID env.random with
  | error err => exact Or.inl ⟨_, rfl⟩
  | ok kid =>
    dsimp only [reporting]
    cases generated : generateSigningKey crypto env kid with
    | error err => exact Or.inl ⟨_, rfl⟩
    | ok pair =>
      obtain ⟨key, priv⟩ := pair
      obtain ⟨same, live, holds⟩ := generateSigningKey_ok sound master generated
      dsimp only
      rcases withTx_cases outage table (rotateKey env force outage key) with
        ⟨err, failed⟩ | ⟨_, after, rotated, committed | ⟨err, unacknowledged⟩⟩
      · rw [failed]
        exact Or.inl ⟨err, rfl⟩
      · rw [committed]
        have turned := rotateKey_ok ordered (by rw [same]; exact fresh kid drawn) live holds rotated
        exact Or.inr ⟨kid, key, after, rfl, same, live, turned, Or.inl rfl⟩
      · rw [unacknowledged]
        have turned := rotateKey_ok ordered (by rw [same]; exact fresh kid drawn) live holds rotated
        exact Or.inr ⟨kid, key, after, rfl, same, live, turned, Or.inr ⟨err, rfl⟩⟩

/-! The start. -/

theorem loadKeys_ok {context : String} {verifiers result : String → Option Public} {keys : List VerifiableKey} {kid : String}
    {pub : Public} (right : ∀ key ∈ keys, key.kid = kid → crypto.jwkToRSAPublic key.publicJWK = .ok pub)
    (known : verifiers kid = some pub ∨ ∃ key ∈ keys, key.kid = kid)
    (loaded : loadKeys crypto context verifiers keys = .ok result) : result kid = some pub := by
  induction keys generalizing verifiers with
  | nil =>
    cases loaded
    rcases known with held | ⟨_, impossible, _⟩
    · exact held
    · cases impossible
  | cons key rest ih =>
    simp only [loadKeys] at loaded
    split at loaded
    · cases loaded
    next other parsed =>
      refine ih (fun later member => right later (List.mem_cons_of_mem key member)) ?_ loaded
      by_cases same : key.kid = kid
      · have equal := right key List.mem_cons_self same
        rw [parsed] at equal
        cases equal
        rw [same, Function.update_self]
        exact Or.inl rfl
      · rw [Function.update_of_ne (Ne.symm same)]
        rcases known with held | ⟨later, member, here⟩
        · exact Or.inl held
        · rcases List.mem_cons.mp member with rfl | member
          · exact absurd here same
          · exact Or.inr ⟨later, member, here⟩

theorem Holds.public_unique {row : SigningKey} {first second : Private} (left : Holds crypto row first)
    (right : Holds crypto row second) : crypto.publicKey first = crypto.publicKey second :=
  Except.ok.inj (left.jwk.symm.trans right.jwk)

/-- A signer that has loaded the table: its key is in it, and it knows every row. -/
structure Ready (crypto : Crypto Private Public) (table : Table) (signer : JWTSigner Private Public) : Prop where
  home : ∃ row ∈ table, row.kid = signer.activeKID ∧ Holds crypto row signer.priv
  known : ∀ row ∈ table, ∀ priv, Holds crypto row priv → signer.verifiers row.kid = some (crypto.publicKey priv)

theorem readRetired_ok {reading : Outage} {kid : String} {table after : Table} {keys : List VerifiableKey}
    (read : readRetired reading kid table = .ok (keys, after)) : after = table ∧
      keys = ((listVerifiable table).filter fun row => row.kid ≠ kid).map fun row => ⟨row.kid, row.publicJWK⟩ := by
  unfold readRetired at read
  split at read
  · cases read
  next rows listed =>
    cases attempt_ok listed
    cases read
    exact ⟨rfl, rfl⟩

theorem mem_listVerifiable {table : Table} {row : SigningKey} :
    row ∈ listVerifiable table ↔ row ∈ table ∧ (row.status = .active ∨ row.status = .retired) := by
  rw [listVerifiable, List.mem_insertionSort, List.mem_filter, decide_eq_true_iff]

theorem newJWTSigner_ready {table after : Table} {active : SigningKey} {priv : Private} {reading : Outage}
    {keys : List VerifiableKey} {signer : JWTSigner Private Public} (ordered : Ordered crypto table)
    (home : ∃ row ∈ table, row.kid = active.kid ∧ Holds crypto row priv)
    (read : readRetired reading active.kid table = .ok (keys, after))
    (made : newJWTSigner crypto active priv keys = .ok signer) : Ready crypto table signer := by
  obtain ⟨_, rfl⟩ := readRetired_ok read
  unfold newJWTSigner at made
  split at made
  · cases made
  next verifiers loaded =>
    cases made
    refine ⟨home, fun row member held holds => loadKeys_ok ?_ ?_ loaded⟩
    · intro key listed same
      obtain ⟨stored, kept, rfl⟩ := List.mem_map.mp (List.mem_filter.mp listed).1
      obtain ⟨there, _⟩ := mem_listVerifiable.mp (List.mem_filter.mp kept).1
      rw [ordered.kids stored there row member same]
      exact holds.jwk
    · obtain ⟨own, here, kid, ownHolds⟩ := home
      by_cases same : row.kid = active.kid
      · left
        cases ordered.kids row member own here (same.trans kid.symm)
        rw [same, ownVerifier, Function.update_self, ownHolds.public_unique holds]
      · right
        have listed := mem_listVerifiable.mpr ⟨member, (ordered.rows row member).1⟩
        exact ⟨⟨row.kid, row.publicJWK⟩, List.mem_filter.mpr ⟨List.mem_map.mpr
          ⟨row, List.mem_filter.mpr ⟨listed, decide_eq_true same⟩, rfl⟩, decide_eq_true same⟩, rfl⟩

theorem loadActive_ok {env : KeyEnv Private} {outage : Outage} {table after : Table} {active : SigningKey} {priv : Private}
    (sound : Sound crypto) (master : SameMaster crypto env) (fresh : getActive table = none → FreshKid env table)
    (ordered : Ordered crypto table) (loaded : loadActive crypto env outage table = .ok ((active, priv), after)) :
    (after = table ∧ active ∈ table ∧ Holds crypto active priv) ∨ Turned crypto table active after ∧ Holds crypto active priv := by
  unfold loadActive at loaded
  split at loaded
  · cases loaded
  next looked =>
    have nothing := Except.ok.inj (attempt_ok looked)
    simp only [bind, Except.bind, pure, Except.pure] at loaded
    split at loaded
    · cases loaded
    next kid drawn =>
      split at loaded
      · cases loaded
      next pair generated =>
        obtain ⟨key, own⟩ := pair
        dsimp only at loaded
        split at loaded
        · cases loaded
        next upserted =>
          cases loaded
          obtain ⟨same, live, holds⟩ := generateSigningKey_ok sound master generated
          refine Or.inr ⟨turned_of_upsert ordered (Carries.refl table) ?_ live holds (attempt_ok upserted), holds⟩
          rw [same]
          exact fresh nothing kid drawn
  next found looked =>
    have member := List.mem_of_find?_eq_some (Except.ok.inj (attempt_ok looked))
    split at loaded
    · cases loaded
    next der decrypted =>
      split at loaded
      · cases loaded
      next own decoded =>
        cases loaded
        obtain ⟨_, known, ⟨sealed_, opens, parses⟩, jwk⟩ := ordered.rows active member
        cases opens.symm.trans decrypted
        cases parses.symm.trans decoded
        exact Or.inl ⟨rfl, member, ⟨der, decrypted, decoded⟩, jwk⟩

/-- A start leaves the table in order, and a process that has started is ready. -/
theorem bootstrapSigner_cases {env : KeyEnv Private} {table : Table} (sound : Sound crypto) (master : SameMaster crypto env)
    (fresh : getActive table = none → FreshKid env table) (unmoved : Moved crypto table table) (outage reading : Outage) :
    ∃ result after, bootstrapSigner crypto env outage reading table = (result, after) ∧ Moved crypto table after ∧
      ∀ signer, result = .ok signer → Ready crypto after signer := by
  unfold bootstrapSigner
  rcases withTx_cases outage table (loadActive crypto env outage) with ⟨err, failed⟩ | ⟨⟨key, priv⟩, middle, loaded, outcome⟩
  · rw [failed]
    exact ⟨_, table, rfl, unmoved, fun _ impossible => by cases impossible⟩
  obtain ⟨moved, home⟩ : Moved crypto table middle ∧ ∃ row ∈ middle, row.kid = key.kid ∧ Holds crypto row priv := by
    rcases loadActive_ok sound master fresh unmoved.ordered loaded with ⟨rfl, member, holds⟩ | ⟨turned, holds⟩
    · exact ⟨unmoved, key, member, rfl, holds⟩
    · exact ⟨turned.moved, key.stored, turned.member, rfl, stored_holds holds⟩
  rcases outcome with committed | ⟨err, unacknowledged⟩
  · rw [committed]
    dsimp only
    rcases withTx_cases reading middle (readRetired reading key.kid) with
      ⟨err, failed⟩ | ⟨keys, after, read, finished | ⟨err, unread⟩⟩
    · rw [failed]
      exact ⟨_, middle, rfl, moved, fun _ impossible => by cases impossible⟩
    · obtain ⟨rfl, _⟩ := readRetired_ok read
      rw [finished]
      exact ⟨_, after, rfl, moved, fun _ made => newJWTSigner_ready moved.ordered home read made⟩
    · obtain ⟨rfl, _⟩ := readRetired_ok read
      rw [unread]
      exact ⟨_, after, rfl, moved, fun _ impossible => by cases impossible⟩
  · rw [unacknowledged]
    exact ⟨_, middle, rfl, moved, fun _ impossible => by cases impossible⟩

/-! Signing and verifying. -/

/-- The token carries these claims under the signature of this key. -/
def Signed (crypto : Crypto Private Public) (entry : Issued Private) : Prop :=
  ∃ jti payload signature, crypto.marshal (jwtClaims jti entry.claims) = .ok payload ∧
    crypto.sign entry.priv entry.kid payload = .ok signature ∧
    crypto.compactSerialize ⟨entry.kid, payload, signature⟩ = .ok entry.token

theorem sign_signed {signer : JWTSigner Private Public} {jti token : String} {claims : AccessTokenClaims}
    (signed : signer.sign crypto jti claims = .ok token) : Signed crypto ⟨token, claims, signer.activeKID, signer.priv⟩ := by
  unfold JWTSigner.sign at signed
  split at signed
  · cases signed
  next payload marshalled =>
    split at signed
    · cases signed
    next signature made => exact ⟨jti, payload, signature, marshalled, made, signed⟩

/-- The signer has the public side of the key that signed, and verifies the token
until it expires. -/
structure Accepts (crypto : Crypto Private Public) (signer : JWTSigner Private Public) (entry : Issued Private) : Prop where
  known : signer.verifiers entry.kid = some (crypto.publicKey entry.priv)
  verified : ∀ now, unix now < unix entry.claims.expiresAt →
    ∃ jti, signer.verify crypto now entry.token = .ok (jwtClaims jti entry.claims).access

theorem Signed.parsed {entry : Issued Private} (sound : Sound crypto) (signed : Signed crypto entry) :
    ∃ jws, crypto.parseSignedCompact entry.token = some jws ∧ jws.kid = entry.kid := by
  obtain ⟨_, payload, signature, _, _, serialized⟩ := signed
  exact ⟨_, sound.compact _ _ serialized, rfl⟩

theorem Signed.accepts {entry : Issued Private} {signer : JWTSigner Private Public} (sound : Sound crypto)
    (signed : Signed crypto entry) (known : signer.verifiers entry.kid = some (crypto.publicKey entry.priv)) :
    Accepts crypto signer entry := by
  refine ⟨known, fun now early => ?_⟩
  obtain ⟨jti, payload, signature, marshalled, made, serialized⟩ := signed
  have genuine := (sound.own _ _ _ _ _ made).mpr rfl
  have unexpired : ¬ unix now ≥ (jwtClaims jti entry.claims).exp := not_le.mpr early
  refine ⟨jti, ?_⟩
  simp only [JWTSigner.verify, sound.compact _ _ serialized, known, genuine, sound.json _ _ marshalled, unexpired, ↓reduceIte]

/-! The invariant of the process and its table. -/

structure Kept (crypto : Crypto Private Public) (state : State Private Public) : Prop where
  ordered : Ordered crypto state.table
  active : state.table = [] ∨ OneActive state.table
  home : ∀ signer, state.process = some signer → ∃ row ∈ state.table, row.kid = signer.activeKID ∧ Holds crypto row signer.priv
  own : ∀ signer, state.process = some signer → signer.verifiers signer.activeKID = some (crypto.publicKey signer.priv)
  issued : ∀ entry ∈ state.issued, Signed crypto entry ∧ ∃ row ∈ state.table, row.kid = entry.kid ∧ Holds crypto row entry.priv
  known : ∀ signer, state.process = some signer → ∀ entry ∈ state.issued,
    signer.verifiers entry.kid = some (crypto.publicKey entry.priv)
  told : ∀ kid, state.told = some kid → ∃ signer, state.process = some signer ∧ signer.activeKID ≠ kid

def initial : State Private Public := ⟨[], none, [], none⟩

theorem kept_initial : Kept crypto initial := by
  constructor <;> simp [initial, Ordered.mk]

/-- A new table under the same process. -/
theorem Kept.move {state : State Private Public} {after : Table} (kept : Kept crypto state)
    (moved : Moved crypto state.table after) : Kept crypto { state with table := after } := by
  refine ⟨moved.ordered, moved.active, fun signer running => ?_, kept.own, fun entry member => ?_, kept.known, kept.told⟩
  · obtain ⟨row, there, kid, holds⟩ := kept.home signer running
    obtain ⟨later, here, same, still⟩ := moved.carries.holds there holds
    exact ⟨later, here, same.trans kid, still⟩
  · obtain ⟨signed, row, there, kid, holds⟩ := kept.issued entry member
    obtain ⟨later, here, same, still⟩ := moved.carries.holds there holds
    exact ⟨signed, later, here, same.trans kid, still⟩

theorem Kept.stop {state : State Private Public} (kept : Kept crypto state) :
    Kept crypto { state with process := none, told := none } := by
  refine ⟨kept.ordered, kept.active, ?_, ?_, kept.issued, ?_, ?_⟩ <;> simp

theorem Kept.begin_ {state : State Private Public} {signer : JWTSigner Private Public} (kept : Kept crypto state)
    (ready : Ready crypto state.table signer) : Kept crypto { state with process := some signer, told := none } := by
  refine ⟨kept.ordered, kept.active, ?_, ?_, kept.issued, ?_, fun _ impossible => by cases impossible⟩
  · rintro _ ⟨⟩
    exact ready.home
  · rintro _ ⟨⟩
    obtain ⟨row, member, kid, holds⟩ := ready.home
    rw [← kid]
    exact ready.known row member _ holds
  · rintro _ ⟨⟩ entry member
    obtain ⟨_, row, there, kid, holds⟩ := kept.issued entry member
    rw [← kid]
    exact ready.known row there _ holds

theorem Kept.issue {state : State Private Public} {signer : JWTSigner Private Public} {jti token : String}
    {claims : AccessTokenClaims} (kept : Kept crypto state) (running : state.process = some signer)
    (signed : signer.sign crypto jti claims = .ok token) :
    Kept crypto { state with issued := ⟨token, claims, signer.activeKID, signer.priv⟩ :: state.issued } := by
  refine ⟨kept.ordered, kept.active, kept.home, kept.own, ?_, ?_, kept.told⟩
  · intro entry member
    rcases List.mem_cons.mp member with rfl | member
    · exact ⟨sign_signed signed, kept.home signer running⟩
    · exact kept.issued entry member
  · intro other same entry member
    rcases List.mem_cons.mp member with rfl | member
    · cases running.symm.trans same
      exact kept.own signer running
    · exact kept.known other same entry member

/-- What is assumed of the steps of a run: one master key and new kids. -/
def Assumed (crypto : Crypto Private Public) (state : State Private Public) : Event Private → Prop
  | .start env _ _ => SameMaster crypto env ∧ (getActive state.table = none → FreshKid env state.table)
  | .rotate env _ _ _ => SameMaster crypto env ∧ FreshKid env state.table
  | .issue _ _ | .crash => True

theorem Kept.tell {state : State Private Public} {signer : JWTSigner Private Public} {kid : String} (kept : Kept crypto state)
    (running : state.process = some signer) (other : signer.activeKID ≠ kid) : Kept crypto { state with told := some kid } := by
  refine ⟨kept.ordered, kept.active, kept.home, kept.own, kept.issued, kept.known, ?_⟩
  rintro _ ⟨⟩
  exact ⟨signer, running, other⟩

/-- A step keeps the invariant and every key in the table. -/
theorem Kept.step {state : State Private Public} (sound : Sound crypto) (kept : Kept crypto state) (event : Event Private)
    (assumed : Assumed crypto state event) :
    Kept crypto (Keys.step crypto state event) ∧ Carries state.table (Keys.step crypto state event).table := by
  have stays : Kept crypto state ∧ Carries state.table state.table := ⟨kept, Carries.refl state.table⟩
  cases event with
  | start env outage reading =>
    obtain ⟨result, after, started, moved, ready⟩ :=
      bootstrapSigner_cases sound assumed.1 assumed.2 ⟨kept.ordered, stays.2, kept.active⟩ outage reading
    simp only [Keys.step, started]
    cases result with
    | error err => exact ⟨(kept.move moved).stop, moved.carries⟩
    | ok signer => exact ⟨(kept.move moved).begin_ (ready signer rfl), moved.carries⟩
  | rotate env force outage reading =>
    cases running : state.process with
    | none => simpa only [Keys.step, running] using stays
    | some signer =>
      rcases rotateSigningKey_cases sound assumed.1 assumed.2 kept.ordered force outage reading signer with
        ⟨err, failed⟩ | ⟨kid, key, after, drawn, _, _, turned, rotated | ⟨err, unacknowledged⟩⟩
      · have moved := kept.move ⟨kept.ordered, stays.2, kept.active⟩
        simpa only [Keys.step, running, failed] using And.intro moved stays.2
      · obtain ⟨row, there, same, _⟩ := kept.home signer running
        have told := (kept.move turned.moved).tell running (by rw [← same]; exact assumed.2 kid drawn row there)
        simpa only [Keys.step, running, rotated] using And.intro told turned.carries
      · have moved := kept.move turned.moved
        simpa only [Keys.step, running, unacknowledged] using And.intro moved turned.carries
  | issue jti claims =>
    cases running : state.process with
    | none => simpa only [Keys.step, running] using stays
    | some signer =>
      cases signed : signer.sign crypto jti claims with
      | error err => simpa only [Keys.step, running, signed] using stays
      | ok token =>
        have issued := kept.issue running signed
        simpa only [Keys.step, running, signed] using And.intro issued stays.2
  | crash => exact ⟨kept.stop, stays.2⟩

theorem Kept.run {state : State Private Public} (sound : Sound crypto) (kept : Kept crypto state) {events : List (Event Private)}
    (assumed : ∀ visit ∈ Machine.trace (Keys.step crypto) state events, Assumed crypto visit.1 visit.2) :
    Kept crypto (Machine.run (Keys.step crypto) state events) ∧
      Carries state.table (Machine.run (Keys.step crypto) state events).table := by
  refine Machine.run_of_guarded (fun later => Kept crypto later ∧ Carries state.table later.table) (Assumed crypto)
    (fun middle event holds assumed => ?_) ⟨kept, Carries.refl state.table⟩ assumed
  obtain ⟨next, carries⟩ := holds.1.step sound event assumed
  exact ⟨next, holds.2.trans carries⟩

/-! Tokens over rotations and restarts. -/

theorem Carries.nonempty {before after : Table} (carries : Carries before after) {row : SigningKey} (member : row ∈ before) :
    after ≠ [] := by
  obtain ⟨later, here, _⟩ := carries row member
  exact List.ne_nil_of_mem here

/-- From the first start on one key is active, and the running process accepts
every token that was ever signed until it expires. -/
theorem tokens_survive (sound : Sound crypto) (earlier later : List (Event Private))
    (assumed : ∀ visit ∈ Machine.trace (Keys.step crypto) initial (earlier ++ later), Assumed crypto visit.1 visit.2) :
    ((Machine.run (Keys.step crypto) initial earlier).process.isSome →
        OneActive (Machine.run (Keys.step crypto) initial (earlier ++ later)).table) ∧
      ∀ signer, (Machine.run (Keys.step crypto) initial (earlier ++ later)).process = some signer →
        ∀ entry ∈ (Machine.run (Keys.step crypto) initial (earlier ++ later)).issued, Accepts crypto signer entry := by
  rw [Machine.trace_append] at assumed
  obtain ⟨halfway, _⟩ := kept_initial.run sound fun visit member => assumed visit (List.mem_append_left _ member)
  obtain ⟨kept, carries⟩ := halfway.run sound fun visit member => assumed visit (List.mem_append_right _ member)
  rw [Machine.run_append]
  refine ⟨fun started => ?_, fun signer running entry member => ?_⟩
  · obtain ⟨signer, running⟩ := Option.isSome_iff_exists.mp started
    obtain ⟨row, member, _⟩ := halfway.home signer running
    exact kept.active.resolve_left (carries.nonempty member)
  · exact (kept.issued entry member).1.accepts sound (kept.known signer running entry member)

/-! Whether a rotation takes effect. -/

/-- A token issued after a successful rotation is signed with the key of the
rotation, verifies until it expires, and that key is the active one. -/
def Effective (crypto : Crypto Private Public) (state : State Private Public) : Event Private → Prop
  | .issue jti claims => ∀ signer kid token, state.process = some signer → state.told = some kid →
      signer.sign crypto jti claims = .ok token →
      (∃ jws, crypto.parseSignedCompact token = some jws ∧ jws.kid = kid) ∧
        (∀ now, unix now < unix claims.expiresAt → ∃ verified, signer.verify crypto now token = .ok verified) ∧
        (getActive state.table).map SigningKey.kid = some kid
  | _ => True

/-- No rotation of the running process has succeeded when a token is issued. -/
def Unrotated (state : State Private Public) : Event Private → Prop
  | .issue _ _ => state.told = none
  | _ => True

/-- Signing does not fail. -/
def Signs (crypto : Crypto Private Public) (state : State Private Public) : Event Private → Prop
  | .issue jti claims => ∀ signer, state.process = some signer → ∃ token, signer.sign crypto jti claims = .ok token
  | _ => True

theorem effective_iff {state : State Private Public} {event : Event Private} (sound : Sound crypto) (kept : Kept crypto state)
    (signs : Signs crypto state event) : Effective crypto state event ↔ Unrotated state event := by
  cases event with
  | issue jti claims =>
    constructor
    · intro effective
      cases told : state.told with
      | none => exact told
      | some kid =>
        obtain ⟨signer, running, other⟩ := kept.told kid told
        obtain ⟨token, signed⟩ := signs signer running
        obtain ⟨⟨jws, parsed, same⟩, _⟩ := effective signer kid token running told signed
        obtain ⟨own, again, active⟩ := (sign_signed signed).parsed sound
        cases parsed.symm.trans again
        exact absurd (active.symm.trans same) other
    · intro unrotated signer kid token _ told
      cases unrotated.symm.trans told
  | start env outage reading => exact Iff.rfl
  | rotate env force outage reading => exact Iff.rfl
  | crash => exact Iff.rfl

/-- A rotation never reaches the running signer: it takes effect in exactly the
runs in which no token is issued after one that succeeded. -/
theorem rotation_effective_iff_unrotated (sound : Sound crypto) (events : List (Event Private))
    (assumed : ∀ visit ∈ Machine.trace (Keys.step crypto) initial events, Assumed crypto visit.1 visit.2)
    (signs : ∀ visit ∈ Machine.trace (Keys.step crypto) initial events, Signs crypto visit.1 visit.2) :
    (∀ visit ∈ Machine.trace (Keys.step crypto) initial events, Effective crypto visit.1 visit.2) ↔
      ∀ visit ∈ Machine.trace (Keys.step crypto) initial events, Unrotated visit.1 visit.2 := by
  have kept := Machine.trace_of_guarded (Kept crypto) (Assumed crypto) (fun _ event kept assumed => (kept.step sound event assumed).1)
    kept_initial assumed
  exact forall₂_congr fun visit member => effective_iff sound (kept visit member) (signs visit member)

theorem reload_activeKID {active : SigningKey} {priv : Private} {retired : List RetiredKeyInput}
    {signer : JWTSigner Private Public} (reloaded : JWTSigner.reload crypto active priv retired = .ok signer) :
    signer.activeKID = active.kid := by
  unfold JWTSigner.reload at reloaded
  split at reloaded
  · cases reloaded
  · cases reloaded
    rfl

/-- A signer whose `Reload` had the types of the interface would sign with the new key. -/
theorem rotateSigningKey_reloads {methods : List Method} {env : KeyEnv Private} {force : Bool} {outage reading : Outage}
    {table after : Table} {signer reloaded : JWTSigner Private Public} {kid : String}
    (implemented : implements methods signerReloader = true) (sound : Sound crypto) (master : SameMaster crypto env)
    (rotated : rotateSigningKey crypto methods env force outage reading table signer = (.ok kid, after, reloaded)) :
    reloaded.activeKID = kid := by
  unfold rotateSigningKey at rotated
  split at rotated
  · cases rotated
  split at rotated
  · cases rotated
  next key _ generated =>
    obtain ⟨same, _, _⟩ := generateSigningKey_ok sound master (reporting_ok generated)
    split at rotated
    · cases rotated
    rw [if_pos implemented] at rotated
    split at rotated
    · cases rotated
    split at rotated
    · cases rotated
    next loaded =>
      cases rotated
      rw [reload_activeKID (reporting_ok loaded), same]

/-! A first key, its successor and a restart. -/

def claims : AccessTokenClaims :=
  { subject := "u1", systemRole := 2, issuer := "vibesync", audience := ["vibesync"], issuedAt := 0,
    expiresAt := 900000000000, scope := "" }

/-- Keys are their own encodings, and a signature is the key that made it. -/
def plain : Crypto String String :=
  { publicKey := id, encodePrivateKeyPKCS8 := .ok, rsaPrivateKeyFromPKCS8 := .ok, decrypt := .ok, rsaPublicKeyToJWK := .ok,
    jwkToRSAPublic := .ok
    marshal := fun payload => if payload = jwtClaims "j1" claims then .ok "p1" else .error (.plain "other claims")
    unmarshal := fun _ => .ok (jwtClaims "j1" claims)
    sign := fun priv _ _ => .ok priv
    verify := fun pub jws => jws.signature = pub
    compactSerialize := fun jws => if jws = ⟨"vk1_a", "p1", "k1"⟩ then .ok "a1" else .error (.plain "other token")
    parseSignedCompact := fun token => if token = "a1" then some ⟨"vk1_a", "p1", "k1"⟩ else none }

theorem plain_sound : Sound plain := by
  refine ⟨?_, ?_, ?_, ?_, ?_⟩
  · intro priv der encoded
    cases encoded
    rfl
  · intro pub jwk serialized
    cases serialized
    rfl
  · intro payload text marshalled
    simp only [plain] at marshalled ⊢
    split at marshalled
    · next same => rw [same]
    · cases marshalled
  · intro jws token serialized
    simp only [plain] at serialized ⊢
    split at serialized
    · next same =>
      cases serialized
      rw [same]
      rfl
    · cases serialized
  · intro priv kid payload signature pub signed
    cases signed
    simp [plain, eq_comm]

def drawing (now : Time) (random priv : String) : KeyEnv String :=
  { now, random := .ok random, generated := .ok priv, encrypt := .ok, keyRotationInterval := 100 }

def calm : Outage := ⟨none, fun _ => none, .applied⟩

def starts (random priv : String) : Event String := .start (drawing 0 random priv) calm calm

def issues : Event String := .issue "j1" claims

def rotates : Event String := .rotate (drawing 10 "b" "k2") true calm calm

def served : List (Event String) := [starts "a" "k1", issues, rotates]

theorem drawing_assumed (now : Time) (random priv : String) {table : Table}
    (fresh : ∀ row ∈ table, row.kid ≠ kidPrefix ++ random) :
    SameMaster plain (drawing now random priv) ∧ FreshKid (drawing now random priv) table := by
  refine ⟨?_, ?_⟩
  · intro der sealed_ encrypted
    cases encrypted
    rfl
  · intro kid drawn row member
    cases drawn
    exact fresh row member

theorem served_assumed (last : Event String)
    (assumed : Assumed plain (Machine.run (Keys.step plain) initial served) last) :
    ∀ visit ∈ Machine.trace (Keys.step plain) initial (served ++ [last]), Assumed plain visit.1 visit.2 := by
  refine List.forall_mem_cons.mpr ⟨?_, List.forall_mem_cons.mpr ⟨trivial, List.forall_mem_cons.mpr ⟨?_,
    List.forall_mem_cons.mpr ⟨assumed, List.forall_mem_nil _⟩⟩⟩⟩
  · obtain ⟨master, fresh⟩ := drawing_assumed 0 "a" "k1" (List.forall_mem_nil _)
    exact ⟨master, fun _ => fresh⟩
  · exact drawing_assumed 10 "b" "k2" (by decide +kernel)

theorem served_signs (last : Event String)
    (signs : Signs plain (Machine.run (Keys.step plain) initial served) last) :
    ∀ visit ∈ Machine.trace (Keys.step plain) initial (served ++ [last]), Signs plain visit.1 visit.2 := by
  refine List.forall_mem_cons.mpr ⟨trivial, List.forall_mem_cons.mpr ⟨?_, List.forall_mem_cons.mpr ⟨trivial,
    List.forall_mem_cons.mpr ⟨signs, List.forall_mem_nil _⟩⟩⟩⟩
  rintro _ ⟨⟩
  exact ⟨"a1", rfl⟩

theorem rotation_after_last_token :
    (Machine.run (Keys.step plain) initial served).told = some "vk1_b" ∧
      ∀ visit ∈ Machine.trace (Keys.step plain) initial (served ++ [.crash]), Effective plain visit.1 visit.2 := by
  refine ⟨by decide +kernel, (rotation_effective_iff_unrotated plain_sound (served ++ [.crash]) (served_assumed .crash trivial)
    (served_signs .crash trivial)).mpr ?_⟩
  exact List.forall_mem_cons.mpr ⟨trivial, List.forall_mem_cons.mpr ⟨rfl, List.forall_mem_cons.mpr ⟨trivial,
    List.forall_mem_cons.mpr ⟨trivial, List.forall_mem_nil _⟩⟩⟩⟩

/-- The token issued after the rotation is still signed with the old key. -/
theorem rotation_without_effect :
    ¬ ∀ (crypto : Crypto String String) (events : List (Event String)), Sound crypto →
        (∀ visit ∈ Machine.trace (Keys.step crypto) initial events, Assumed crypto visit.1 visit.2) →
        (∀ visit ∈ Machine.trace (Keys.step crypto) initial events, Signs crypto visit.1 visit.2) →
        ∀ visit ∈ Machine.trace (Keys.step crypto) initial events, Effective crypto visit.1 visit.2 := by
  intro claim
  have signs : Signs plain (Machine.run (Keys.step plain) initial served) issues := by
    rintro _ ⟨⟩
    exact ⟨"a1", rfl⟩
  have effective := claim plain (served ++ [issues]) plain_sound (served_assumed issues trivial) (served_signs issues signs)
    (Machine.run (Keys.step plain) initial served, issues) (.tail _ (.tail _ (.tail _ (.head _))))
  obtain ⟨⟨jws, parsed, same⟩, _⟩ := effective _ "vk1_b" "a1" rfl rfl rfl
  cases parsed
  exact absurd same (by decide)

theorem token_accepted_after_restart :
    OneActive (Machine.run (Keys.step plain) initial ([starts "a" "k1"] ++ [issues, rotates, starts "c" "k3"])).table ∧
      ∃ signer, (Machine.run (Keys.step plain) initial ([starts "a" "k1"] ++ [issues, rotates, starts "c" "k3"])).process =
          some signer ∧ Accepts plain signer ⟨"a1", claims, "vk1_a", "k1"⟩ := by
  have assumed : Assumed plain (Machine.run (Keys.step plain) initial served) (starts "c" "k3") := by
    obtain ⟨master, fresh⟩ := @drawing_assumed 0 "c" "k3" (Machine.run (Keys.step plain) initial served).table (by decide +kernel)
    exact ⟨master, fun _ => fresh⟩
  obtain ⟨one, accepted⟩ := tokens_survive plain_sound [starts "a" "k1"] [issues, rotates, starts "c" "k3"]
    (served_assumed (starts "c" "k3") assumed)
  exact ⟨one rfl, _, rfl, accepted _ rfl _ (.head _)⟩

end VibeSync.Proofs.AuthKeys
