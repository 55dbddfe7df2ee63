import VibeSync.Auth.Introspect
import VibeSync.Proofs.AuthKeys

/-! Introspection against verification. A token that verifies is reported with its claims;
one that does not was to be reported as inactive, and is answered with an error. -/

namespace VibeSync.Proofs.AuthIntrospect
open VibeSync.Auth VibeSync.Auth.Keys

variable {Private Public : Type} {crypto : Crypto Private Public} {signer : JWTSigner Private Public} {now : Time} {token : String}

/-- The token parses, its key is known, its signature and its payload are good, and it has not run out. -/
def Genuine (crypto : Crypto Private Public) (signer : JWTSigner Private Public) (now : Time) (token : String) : Prop :=
  ∃ jws pub claims, crypto.parseSignedCompact token = some jws ∧ signer.verifiers jws.kid = some pub ∧
    crypto.verify pub jws = true ∧ crypto.unmarshal jws.payload = .ok claims ∧ unix now < claims.exp

theorem Genuine.verified (genuine : Genuine crypto signer now token) :
    ∃ verified, signer.verify crypto now token = .ok verified := by
  obtain ⟨jws, pub, claims, parsed, known, signed, read, current⟩ := genuine
  refine ⟨claims.access, ?_⟩
  simp only [JWTSigner.verify, parsed, known, signed, read, if_true, if_neg (not_le.mpr current)]

/-- Whatever is wrong with a token, it is refused as unauthenticated. -/
theorem verify_cases (crypto : Crypto Private Public) (signer : JWTSigner Private Public) (now : Time) (token : String) :
    Genuine crypto signer now token ∨ ∃ reason, signer.verify crypto now token = .error (.unauthenticated reason) := by
  rw [JWTSigner.verify]
  cases parsed : crypto.parseSignedCompact token with
  | none => exact Or.inr ⟨_, rfl⟩
  | some jws =>
    dsimp only
    cases known : signer.verifiers jws.kid with
    | none => exact Or.inr ⟨_, rfl⟩
    | some pub =>
      dsimp only
      split
      · next signed =>
        cases read : crypto.unmarshal jws.payload with
        | error _ => exact Or.inr ⟨_, rfl⟩
        | ok claims =>
          dsimp only
          split
          · exact Or.inr ⟨_, rfl⟩
          · next current => exact Or.inl ⟨jws, pub, claims, parsed, known, signed, read, not_le.mp current⟩
      · exact Or.inr ⟨_, rfl⟩

/-- No typed error has the method that is asked for. -/
theorem isAuthErr_false (err : Err) : isAuthErr err = false := by
  cases err <;> rfl

theorem introspect_refused (given : token ≠ "") {err : Err} (refused : signer.verify crypto now token = .error err) :
    introspect crypto signer now token = .error err := by
  rw [introspect, if_neg given, refused]
  exact if_neg (by simp [isAuthErr_false])

theorem introspect_verified (given : token ≠ "") {claims : AccessTokenClaims} {id : String}
    (verified : signer.verify crypto now token = .ok (claims, id)) :
    introspect crypto signer now token = .ok (introspected claims) := by
  rw [introspect, if_neg given, verified]

/-- The response says that the token is active, and what its claims say. -/
structure Reports (response : IntrospectResponse) (claims : AccessTokenClaims) : Prop where
  active : response.active = true
  userID : response.userID = claims.subject
  systemRole : response.systemRole = claims.systemRole
  expiresAt : response.expiresAt = some claims.expiresAt
  scope : response.scope = claims.scope

theorem introspected_reports (claims : AccessTokenClaims) : Reports (introspected claims) claims := ⟨rfl, rfl, rfl, rfl, rfl⟩

/-- A token that verifies is active with its claims, and one that is refused is inactive. -/
structure Answered (verified : Except Err (AccessTokenClaims × String)) (answer : Except Err IntrospectResponse) : Prop where
  accepted : ∀ claims id, verified = .ok (claims, id) → ∃ response, answer = .ok response ∧ Reports response claims
  rejected : ∀ reason, verified = .error (.unauthenticated reason) → ∃ response, answer = .ok response ∧ response.active = false

/-- Only genuine tokens and the empty one are answered as they should be. -/
theorem introspect_answers_iff (crypto : Crypto Private Public) (signer : JWTSigner Private Public) (now : Time) (token : String) :
    Answered (signer.verify crypto now token) (introspect crypto signer now token) ↔
      (Genuine crypto signer now token ↔ token ≠ "") := by
  rcases verify_cases crypto signer now token with genuine | ⟨reason, refused⟩
  · obtain ⟨⟨claims, id⟩, verified⟩ := genuine.verified
    by_cases empty : token = ""
    · refine ⟨fun answered => ?_, fun agrees => absurd empty (agrees.mp genuine)⟩
      obtain ⟨response, answer, reports⟩ := answered.accepted claims id verified
      rw [introspect, if_pos empty] at answer
      cases answer
      cases reports.active
    · rw [introspect_verified empty verified, verified]
      refine ⟨fun _ => ⟨fun _ => empty, fun _ => genuine⟩, fun _ => ⟨?_, ?_⟩⟩
      · rintro _ _ ⟨⟩
        exact ⟨_, rfl, introspected_reports claims⟩
      · rintro _ ⟨⟩
  · have forged : ¬ Genuine crypto signer now token := by
      intro genuine
      obtain ⟨_, verified⟩ := genuine.verified
      cases refused.symm.trans verified
    by_cases empty : token = ""
    · rw [introspect, if_pos empty, refused]
      refine ⟨fun _ => ⟨fun genuine => absurd genuine forged, fun given => absurd empty given⟩, fun _ => ⟨?_, ?_⟩⟩
      · rintro _ _ ⟨⟩
      · exact fun _ _ => ⟨_, rfl, rfl⟩
    · rw [introspect_refused empty refused, refused]
      refine ⟨fun answered => ?_, fun agrees => absurd (agrees.mpr empty) forged⟩
      obtain ⟨_, answer, _⟩ := answered.rejected reason rfl
      cases answer

/-- A token that does not even parse is answered with the error of the verification. -/
theorem malformed_token_errs :
    introspect AuthKeys.plain ⟨"vk1_a", "k1", fun _ => none⟩ 0 "x" = .error (.unauthenticated "TOKEN_MALFORMED") := rfl

/-- Over starts, rotations and crashes, every token that was ever signed is active until it runs out. -/
theorem issued_token_active (sound : AuthKeys.Sound crypto) (events : List (Keys.Event Private))
    (assumed : ∀ visit ∈ Machine.trace (Keys.step crypto) AuthKeys.initial events, AuthKeys.Assumed crypto visit.1 visit.2)
    (running : (Machine.run (Keys.step crypto) AuthKeys.initial events).process = some signer) {entry : Issued Private}
    (issued : entry ∈ (Machine.run (Keys.step crypto) AuthKeys.initial events).issued) (given : entry.token ≠ "")
    (current : unix now < unix entry.claims.expiresAt) :
    ∃ jti response, introspect crypto signer now entry.token = .ok response ∧
      Reports response (jwtClaims jti entry.claims).access.1 := by
  obtain ⟨kept, _⟩ := AuthKeys.kept_initial.run sound assumed
  have accepts := (kept.issued entry issued).1.accepts sound (kept.known signer running entry issued)
  obtain ⟨jti, verified⟩ := accepts.verified now current
  exact ⟨jti, _, introspect_verified given verified, introspected_reports _⟩

end VibeSync.Proofs.AuthIntrospect
