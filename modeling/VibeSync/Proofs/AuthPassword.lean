import VibeSync.Auth.Password

/-! Stored password hashes: what is written is read back, and what else is read as well. -/

namespace VibeSync.Proofs.AuthPassword
open VibeSync.Auth

theorem decode_encodeToString (bytes : List UInt8) : decodeString (encodeToString bytes) = .ok bytes := by
  rw [decodeString, encodeToString, String.toList_ofList, Base64.decode_encode]

theorem phcEncode_toList (salt key : List UInt8) :
    (phcEncode salt key).toList = ['$'].intercalate [[], "argon2id".toList, "v=19".toList, "m=19456,t=2,p=1".toList,
      Base64.encode salt, Base64.encode key] := by
  have head : "$" ++ phcVersion ++ "$v=" ++ toString argon2Version ++ "$m=" ++ toString argon2Memory ++ ",t=" ++
      toString argon2Iterations ++ ",p=" ++ toString argon2Lanes ++ "$" = "$argon2id$v=19$m=19456,t=2,p=1$" := by decide
  have whole : phcEncode salt key = "$argon2id$v=19$m=19456,t=2,p=1$" ++ encodeToString salt ++ "$" ++ encodeToString key :=
    congrArg (· ++ encodeToString salt ++ "$" ++ encodeToString key) head
  rw [whole, String.toList_append, String.toList_append, String.toList_append, encodeToString, encodeToString,
    String.toList_ofList, String.toList_ofList]
  simp [List.intercalate]

theorem split_phcEncode (salt key : List UInt8) :
    split (phcEncode salt key) '$' =
      ["", phcVersion, "v=19", "m=19456,t=2,p=1", encodeToString salt, encodeToString key] := by
  have plain : ∀ field ∈ [[], "argon2id".toList, "v=19".toList, "m=19456,t=2,p=1".toList, Base64.encode salt, Base64.encode key],
      '$' ∉ field := by
    simp only [List.forall_mem_cons]
    exact ⟨by decide, by decide, by decide, by decide, Base64.not_mem_encode rfl salt, Base64.not_mem_encode rfl key, by simp⟩
  rw [split, phcEncode_toList, List.splitOn_intercalate _ plain (List.cons_ne_nil _ _)]
  simp [encodeToString, phcVersion]

theorem phcEncode_iff (s : String) (salt key : List UInt8) :
    s = phcEncode salt key ↔
      split s '$' = ["", phcVersion, "v=19", "m=19456,t=2,p=1", encodeToString salt, encodeToString key] := by
  constructor
  · rintro rfl
    exact split_phcEncode salt key
  · intro fields
    exact split_injective (fields.trans (split_phcEncode salt key).symm)

/-- A text that decoding accepts, with all its fields. -/
structure Parts (s : String) where
  lead : String
  version : String
  costs : String
  saltText : String
  keyText : String
  salt : List UInt8
  key : List UInt8
  fields : split s '$' = [lead, phcVersion, version, costs, saltText, keyText]
  decodesSalt : decodeString saltText = .ok salt
  decodesKey : decodeString keyText = .ok key

/-- The fields that decoding skips are those of encoding, and the bytes are written as encoding writes them. -/
structure Parts.Ours {s : String} (parts : Parts s) : Prop where
  lead : parts.lead = ""
  version : parts.version = "v=19"
  costs : parts.costs = "m=19456,t=2,p=1"
  salt : parts.saltText = encodeToString parts.salt
  key : parts.keyText = encodeToString parts.key

theorem Parts.decoded {s : String} (parts : Parts s) : phcDecode s = .ok (parts.salt, parts.key) := by
  rw [phcDecode, parts.fields]
  simp only [ne_eq, not_true_eq_false, if_false]
  rw [parts.decodesSalt]
  dsimp only
  rw [parts.decodesKey]

theorem parts_of_decoded {s : String} {salt key : List UInt8} (decoded : phcDecode s = .ok (salt, key)) :
    ∃ parts : Parts s, parts.salt = salt ∧ parts.key = key := by
  rw [phcDecode] at decoded
  split at decoded
  · next lead algorithm version costs saltText keyText fields =>
    split at decoded
    · cases decoded
    next known =>
      rw [not_not] at known
      split at decoded
      · cases decoded
      next decodesSalt =>
        split at decoded
        · cases decoded
        next decodesKey =>
          cases decoded
          exact ⟨⟨lead, version, costs, saltText, keyText, salt, key, known ▸ fields, decodesSalt, decodesKey⟩, rfl, rfl⟩
  · cases decoded

theorem Parts.Ours.encoded {s : String} {parts : Parts s} (ours : parts.Ours) : s = phcEncode parts.salt parts.key := by
  rw [phcEncode_iff, parts.fields, ours.lead, ours.version, ours.costs, ← ours.salt, ← ours.key]

theorem decode_phcEncode (salt key : List UInt8) : phcDecode (phcEncode salt key) = .ok (salt, key) :=
  Parts.decoded ⟨_, _, _, _, _, salt, key, split_phcEncode salt key, decode_encodeToString salt, decode_encodeToString key⟩

theorem phc_exact_iff (s : String) :
    (∀ salt key, phcDecode s = .ok (salt, key) ↔ s = phcEncode salt key) ↔ ∀ parts : Parts s, parts.Ours := by
  constructor
  · intro agrees parts
    have encoded := (agrees _ _).mp parts.decoded
    have fields := parts.fields.symm.trans ((phcEncode_iff _ _ _).mp encoded)
    simp only [List.cons.injEq, and_true, true_and] at fields
    obtain ⟨lead, version, costs, salt, key⟩ := fields
    exact ⟨lead, version, costs, salt, key⟩
  · intro ours salt key
    constructor
    · intro decoded
      obtain ⟨parts, rfl, rfl⟩ := parts_of_decoded decoded
      exact (ours parts).encoded
    · rintro rfl
      exact decode_phcEncode salt key

/-- A hash of an older version with other costs is taken for one of ours. -/
theorem foreign_version_accepted :
    phcDecode "$argon2id$v=16$m=8,t=1,p=4$AA$AA" = .ok ([0], [0]) ∧ "$argon2id$v=16$m=8,t=1,p=4$AA$AA" ≠ phcEncode [0] [0] :=
  ⟨rfl, by decide⟩

/-- A password matches the hash made of it. -/
theorem compare_hash (hasher : PasswordHasher) {plaintext hash : String} (hashed : hasher.hash plaintext = .ok hash) :
    hasher.compare hash plaintext = true := by
  rw [PasswordHasher.hash] at hashed
  split at hashed
  · cases hashed
  · cases hashed
    rw [PasswordHasher.compare, decode_phcEncode]
    exact decide_eq_true rfl

end VibeSync.Proofs.AuthPassword
