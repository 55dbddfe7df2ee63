import VibeSync.Auth.Jwks
import VibeSync.Proofs.AuthKeys

/-! What the published key set is good for. Whoever has fetched it can verify every
token signed so far, also by keys that have been retired since. -/

namespace VibeSync.Proofs.AuthJwks
open VibeSync.Auth VibeSync.Auth.Keys VibeSync.Auth.Jwks VibeSync.Proofs.AuthKeys

/-! Modulus and exponent through the encoding and back. -/

theorem byte_toNat (v : Int) : (byte v).toNat = (v % 256).toNat := by
  have small : (v % 256).toNat < 256 := by omega
  rw [byte, UInt8.toNat_ofNat', Nat.mod_eq_of_lt small]

theorem value_exponent {v : Int} (positive : 0 ≤ v) : (BigEndian.value (exponentBytes v) : Int) = v % 4294967296 := by
  have one : v >>> (8 : Nat) = v / 256 := Int.shiftRight_eq_div_pow v 8
  have two : v >>> (16 : Nat) = v / 65536 := Int.shiftRight_eq_div_pow v 16
  have three : v >>> (24 : Nat) = v / 16777216 := Int.shiftRight_eq_div_pow v 24
  unfold exponentBytes
  split
  next zero =>
    rw [zero]
    rfl
  split
  · simp only [BigEndian.value, List.foldl, byte_toNat]
    omega
  split
  · simp only [BigEndian.value, List.foldl, byte_toNat, one]
    omega
  · simp only [BigEndian.value, List.foldl, byte_toNat, one, two, three]
    omega

/-- What a decoder makes of the fields of a key. -/
theorem publicKey_encoded (kid kty alg use : String) {pub : RSAPublicKey} (positive : 0 ≤ pub.e) :
    JsonWebKey.publicKey ⟨kid, kty, alg, use, encodeRSAModulus pub, encodeRSAExponent pub⟩ =
      some ⟨pub.n, pub.e % 4294967296⟩ := by
  simp only [JsonWebKey.publicKey, encodeRSAModulus, encodeRSAExponent, String.toList_ofList, Base64.decodeURL_encodeURL]
  change some (RSAPublicKey.mk _ _) = _
  rw [BigEndian.value_bytes, BigEndian.value_trim, value_exponent positive]

/-! The set that a table gives rise to. -/

/-- The entry of a row whose key can be read. -/
def webKey (unmarshal : UnmarshalJWK) (row : SigningKey) : JsonWebKey :=
  let (n, e) := encodeRSAJWKFields ((unmarshal row.publicJWK).toOption.bind id)
  { kid := row.kid, kty := "RSA", alg := "RS256", use := "sig", n, e }

section Sets
variable {Private : Type} {crypto : Crypto Private RSAPublicKey} {unmarshal : UnmarshalJWK} {table : Table}

/-- The signer parses the stored keys with the same library. -/
def Parses (crypto : Crypto Private RSAPublicKey) (unmarshal : UnmarshalJWK) : Prop :=
  crypto.jwkToRSAPublic = jwkToRSAPublic unmarshal

theorem unmarshalled_of_holds (parses : Parses crypto unmarshal) {row : SigningKey} {priv : Private} (holds : Holds crypto row priv) :
    unmarshal row.publicJWK = .ok (some (crypto.publicKey priv)) := by
  have parsed := holds.jwk
  rw [parses] at parsed
  unfold jwkToRSAPublic at parsed
  split at parsed
  · cases parsed
  · cases parsed
  next pub read =>
    cases parsed
    exact read

theorem mapM_jwkFromStored {rows : List SigningKey} (readable : ∀ row ∈ rows, ∃ key, unmarshal row.publicJWK = .ok key) :
    rows.mapM (jwkFromStored unmarshal) = .ok (rows.map (webKey unmarshal)) := by
  induction rows with
  | nil => rfl
  | cons row rest ih =>
    obtain ⟨⟨key, read⟩, others⟩ := List.forall_mem_cons.mp readable
    have first : jwkFromStored unmarshal row = .ok (webKey unmarshal row) := by
      simp only [jwkFromStored, webKey, read]
      rfl
    rw [List.mapM_cons, first, ih others]
    rfl

theorem readable_rows (parses : Parses crypto unmarshal) (ordered : Ordered crypto table) :
    ∀ row ∈ listVerifiable table, ∃ key, unmarshal row.publicJWK = .ok key := by
  intro row listed
  obtain ⟨_, priv, holds⟩ := ordered.rows row (mem_listVerifiable.mp listed).1
  exact ⟨_, unmarshalled_of_holds parses holds⟩

theorem getJwks_ok {reading : Outage} {keys : List JsonWebKey} (parses : Parses crypto unmarshal) (ordered : Ordered crypto table)
    (answered : getJwks unmarshal reading table = .ok keys) : keys = (listVerifiable table).map (webKey unmarshal) := by
  unfold getJwks at answered
  rcases withTx_cases reading table (listSigningKeyJWK unmarshal reading) with
    ⟨err, failed⟩ | ⟨value, after, read, done | ⟨err, unacknowledged⟩⟩
  · rw [failed] at answered
    cases answered
  · rw [done] at answered
    cases answered
    simp only [listSigningKeyJWK, bind, Except.bind] at read
    split at read
    · cases read
    next rows attempted =>
      cases attempt_ok attempted
      rw [mapM_jwkFromStored (readable_rows parses ordered)] at read
      cases read
      rfl
  · rw [unacknowledged] at answered
    cases answered

/-- A database in order answers. -/
theorem getJwks_calm (parses : Parses crypto unmarshal) (ordered : Ordered crypto table) :
    getJwks unmarshal calm table = .ok ((listVerifiable table).map (webKey unmarshal)) := by
  simp only [getJwks, withTx, calm, listSigningKeyJWK, Outage.attempt, bind, Except.bind,
    mapM_jwkFromStored (readable_rows parses ordered)]
  rfl

/-- The entry under a kid is the one of its row. -/
theorem published_row (ordered : Ordered crypto table) {row : SigningKey} (member : row ∈ table) :
    published ((listVerifiable table).map (webKey unmarshal)) row.kid = (webKey unmarshal row).publicKey := by
  rw [published, List.find?_map]
  cases found : (listVerifiable table).find? ((fun key : JsonWebKey => decide (key.kid = row.kid)) ∘ webKey unmarshal) with
  | none =>
    have listed := mem_listVerifiable.mpr ⟨member, (ordered.rows row member).1⟩
    exact absurd (decide_eq_true rfl) (List.find?_eq_none.mp found row listed)
  | some other =>
    have matched : decide (other.kid = row.kid) = true := @List.find?_some _ _ other _ found
    have there := (mem_listVerifiable.mp (List.mem_of_find?_eq_some found)).1
    rw [ordered.kids other there row member (of_decide_eq_true matched)]
    rfl

theorem published_key (parses : Parses crypto unmarshal) (ordered : Ordered crypto table) {row : SigningKey} (member : row ∈ table)
    {priv : Private} (holds : Holds crypto row priv) (positive : 0 ≤ (crypto.publicKey priv).e)
    (fits : (crypto.publicKey priv).e < 4294967296) :
    published ((listVerifiable table).map (webKey unmarshal)) row.kid = some (crypto.publicKey priv) := by
  rw [published_row ordered member, webKey, unmarshalled_of_holds parses holds]
  change JsonWebKey.publicKey ⟨row.kid, "RSA", "RS256", "sig", encodeRSAModulus _, encodeRSAExponent _⟩ = _
  rw [publicKey_encoded _ _ _ _ positive, Int.emod_eq_of_lt positive fits]

end Sets

/-! Over starts, rotations and crashes. -/

section Runs
variable {Private : Type} {crypto : Crypto Private RSAPublicKey} {unmarshal : UnmarshalJWK}

/-- With these keys the token is genuine, and its claims can be read. -/
def Verifies (crypto : Crypto Private RSAPublicKey) (keys : List JsonWebKey) (entry : Issued Private) : Prop :=
  ∃ jws pub jti, crypto.parseSignedCompact entry.token = some jws ∧ published keys jws.kid = some pub ∧
    crypto.verify pub jws = true ∧ crypto.unmarshal jws.payload = .ok (jwtClaims jti entry.claims)

theorem verifies_of_signed {keys : List JsonWebKey} {entry : Issued Private} (sound : Sound crypto) (signed : Signed crypto entry)
    (known : published keys entry.kid = some (crypto.publicKey entry.priv)) : Verifies crypto keys entry := by
  obtain ⟨jti, payload, signature, marshalled, made, serialized⟩ := signed
  exact ⟨_, _, jti, sound.compact _ _ serialized, known, (sound.own _ _ _ _ _ made).mpr rfl, sound.json _ _ marshalled⟩

/-- A key set fetched at any time verifies every token signed before, and a
database in order always gives one. Exponents are below 2³²: four bytes are
written. -/
theorem published_keys_verify (sound : Sound crypto) (parses : Parses crypto unmarshal)
    (exponents : ∀ priv, 0 ≤ (crypto.publicKey priv).e ∧ (crypto.publicKey priv).e < 4294967296) (events : List (Event Private))
    (assumed : ∀ visit ∈ Machine.trace (Keys.step crypto) initial events, Assumed crypto visit.1 visit.2) :
    (∃ keys, getJwks unmarshal calm (Machine.run (Keys.step crypto) initial events).table = .ok keys) ∧
      ∀ reading keys, getJwks unmarshal reading (Machine.run (Keys.step crypto) initial events).table = .ok keys →
        ∀ entry ∈ (Machine.run (Keys.step crypto) initial events).issued, Verifies crypto keys entry := by
  obtain ⟨kept, _⟩ := kept_initial.run sound assumed
  refine ⟨⟨_, getJwks_calm parses kept.ordered⟩, fun reading keys answered entry member => ?_⟩
  obtain ⟨signed, row, there, same, holds⟩ := kept.issued entry member
  obtain ⟨positive, fits⟩ := exponents entry.priv
  rw [getJwks_ok parses kept.ordered answered]
  apply verifies_of_signed sound signed
  rw [← same]
  exact published_key parses kept.ordered there holds positive fits

/-- A published key stays published as it is. -/
theorem published_keys_stay (sound : Sound crypto) (parses : Parses crypto unmarshal) (earlier later : List (Event Private))
    (assumed : ∀ visit ∈ Machine.trace (Keys.step crypto) initial (earlier ++ later), Assumed crypto visit.1 visit.2)
    {before after : Outage} {old new : List JsonWebKey}
    (fetched : getJwks unmarshal before (Machine.run (Keys.step crypto) initial earlier).table = .ok old)
    (again : getJwks unmarshal after (Machine.run (Keys.step crypto) initial (earlier ++ later)).table = .ok new) : old ⊆ new := by
  rw [Machine.trace_append] at assumed
  obtain ⟨halfway, _⟩ := kept_initial.run sound fun visit member => assumed visit (List.mem_append_left _ member)
  obtain ⟨kept, carries⟩ := halfway.run sound fun visit member => assumed visit (List.mem_append_right _ member)
  rw [← Machine.run_append] at kept carries
  rw [getJwks_ok parses halfway.ordered fetched, getJwks_ok parses kept.ordered again]
  intro key listed
  obtain ⟨row, member, rfl⟩ := List.mem_map.mp listed
  obtain ⟨next, here, kid, _, jwk⟩ := carries row (mem_listVerifiable.mp member).1
  refine List.mem_map.mpr ⟨next, mem_listVerifiable.mpr ⟨here, (kept.ordered.rows next here).1⟩, ?_⟩
  rw [webKey, webKey, kid, jwk]

end Runs

/-! Two keys, each with texts of its own. -/

def texts (first second : String) (modulus : Nat) : Except Err String :=
  if modulus = 3233 then .ok first else if modulus = 3127 then .ok second else .error (.plain "other key")

def modulus (first text : String) : Nat := if text = first then 3233 else 3127

theorem modulus_texts {first second text : String} {n : Nat} (differ : second ≠ first) (known : texts first second n = .ok text) :
    modulus first text = n := by
  unfold texts at known
  split at known
  next same =>
    cases known
    exact (if_pos rfl).trans same.symm
  · split at known
    next same =>
      cases known
      exact (if_neg differ).trans same.symm
    · cases known

def reads : UnmarshalJWK := fun jwk => .ok (some ⟨modulus "jwk1" jwk, 65537⟩)

def toy : Crypto Nat RSAPublicKey :=
  { publicKey := fun priv => ⟨priv, 65537⟩
    encodePrivateKeyPKCS8 := texts "der1" "der2"
    rsaPrivateKeyFromPKCS8 := fun der => .ok (modulus "der1" der)
    decrypt := .ok
    rsaPublicKeyToJWK := fun pub => if pub.e = 65537 then texts "jwk1" "jwk2" pub.n else .error (.plain "other exponent")
    jwkToRSAPublic := jwkToRSAPublic reads
    marshal := plain.marshal
    unmarshal := plain.unmarshal
    sign := fun priv _ _ => texts "k1" "k2" priv
    verify := fun pub jws => pub = ⟨modulus "k1" jws.signature, 65537⟩
    compactSerialize := plain.compactSerialize
    parseSignedCompact := plain.parseSignedCompact }

theorem toy_sound : Sound toy := by
  refine ⟨?_, ?_, plain_sound.json, plain_sound.compact, ?_⟩
  · intro priv der encoded
    exact congrArg Except.ok (modulus_texts (by decide) encoded)
  · rintro ⟨n, e⟩ jwk serialized
    simp only [toy] at serialized ⊢
    split at serialized
    next exponent =>
      rw [jwkToRSAPublic, reads, modulus_texts (by decide) serialized, ← exponent]
    · cases serialized
  · intro priv kid payload signature pub signed
    simp only [toy, modulus_texts (by decide) signed]
    exact decide_eq_true_iff

theorem toy_parses : Parses toy reads := rfl

theorem toy_exponents (priv : Nat) : 0 ≤ (toy.publicKey priv).e ∧ (toy.publicKey priv).e < 4294967296 :=
  (by decide : (0 : Int) ≤ 65537 ∧ (65537 : Int) < 4294967296)

def drawn (now : Time) (random : String) (key : Nat) : KeyEnv Nat :=
  { now, random := .ok random, generated := .ok key, encrypt := .ok, keyRotationInterval := 100 }

theorem drawn_assumed (now : Time) (random : String) (key : Nat) {table : Table} (fresh : ∀ row ∈ table, row.kid ≠ kidPrefix ++ random) :
    SameMaster toy (drawn now random key) ∧ FreshKid (drawn now random key) table := by
  refine ⟨?_, ?_⟩
  · intro der sealed_ encrypted
    cases encrypted
    rfl
  · intro kid named row member
    cases named
    exact fresh row member

def opened : List (Event Nat) := [.start (drawn 0 "a" 3233) calm calm, .issue "j1" claims]

def turned : Event Nat := .rotate (drawn 10 "b" 3127) true calm calm

theorem turned_assumed : ∀ visit ∈ Machine.trace (Keys.step toy) initial (opened ++ [turned]), Assumed toy visit.1 visit.2 := by
  refine List.forall_mem_cons.mpr ⟨?_, List.forall_mem_cons.mpr ⟨trivial, List.forall_mem_cons.mpr ⟨?_, List.forall_mem_nil _⟩⟩⟩
  · obtain ⟨master, fresh⟩ := drawn_assumed 0 "a" 3233 (List.forall_mem_nil _)
    exact ⟨master, fun _ => fresh⟩
  · exact drawn_assumed 10 "b" 3127 (by decide +kernel)

theorem token_verifies_after_rotation :
    ∃ keys entry, getJwks reads calm (Machine.run (Keys.step toy) initial (opened ++ [turned])).table = .ok keys ∧
      entry.token = "a1" ∧ Verifies toy keys entry := by
  obtain ⟨⟨keys, answered⟩, verified⟩ := published_keys_verify toy_sound toy_parses toy_exponents (opened ++ [turned])
    turned_assumed
  exact ⟨keys, ⟨"a1", claims, "vk1_a", 3233⟩, answered, rfl, verified calm keys answered _ (.head _)⟩

theorem key_published_after_rotation :
    ∃ old new, getJwks reads calm (Machine.run (Keys.step toy) initial opened).table = .ok old ∧
      getJwks reads calm (Machine.run (Keys.step toy) initial (opened ++ [turned])).table = .ok new ∧
      old.length = 1 ∧ new.length = 2 ∧ old ⊆ new := by
  have assumed := turned_assumed
  obtain ⟨later, _⟩ := kept_initial.run toy_sound assumed
  rw [Machine.trace_append] at assumed
  obtain ⟨kept, _⟩ := kept_initial.run toy_sound fun visit member => assumed visit (List.mem_append_left _ member)
  refine ⟨_, _, getJwks_calm toy_parses kept.ordered, getJwks_calm toy_parses later.ordered, ?_, ?_, published_keys_stay toy_sound toy_parses opened [turned]
    turned_assumed (getJwks_calm toy_parses kept.ordered) (getJwks_calm toy_parses later.ordered)⟩
  · rw [List.length_map]
    decide +kernel
  · rw [List.length_map]
    decide +kernel

end VibeSync.Proofs.AuthJwks
