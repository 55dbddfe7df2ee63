import VibeSync.Auth.SignUp

/-! What the statements of the Auth service write when they succeed, and how the
tables read afterwards. -/

namespace VibeSync.Proofs.AuthTables
open VibeSync.Auth Transaction Columns

section Lookups
variable [Collation] (store : Store database) (written : Writes database)

theorem user_write (id : String) :
    Tables.user (store.write written) id = (written (.user id)).getD (Tables.user store id) := rfl

theorem session_write (id : String) :
    Tables.session (store.write written) id = (written (.session id)).getD (Tables.session store id) := rfl

theorem token_write (id : String) :
    Tables.token (store.write written) id = (written (.token id)).getD (Tables.token store id) := rfl

theorem flow_write (state : String) :
    Tables.flow (store.write written) state = (written (.flow state)).getD (Tables.flow store state) := rfl

theorem account_write (provider providerUserID : String) :
    Tables.account (store.write written) provider providerUserID =
      (written (.account provider providerUserID)).getD (Tables.account store provider providerUserID) := rfl

theorem outbox_write (id : String) :
    Tables.outbox (store.write written) id = (written (.outbox id)).getD (Tables.outbox store id) := rfl

theorem exec_userByEmail {α : Type} (email : String) (next : Option User → Tx α) :
    (Repo.userByEmail email >>= next).exec store =
      (next ((store (.email (citext email))).bind (Tables.user store))).exec store := rfl

end Lookups

section Statements
variable {view : View} {written : Changes}

theorem insertSession_ok {new : Session} (inserted : Tables.insertSession view new = .ok ((), written)) :
    Tables.session view new.id = none ∧ view (.family new.familyID) = none ∧ fits 100 new.deviceLabel = true ∧
      ∃ deviceLabel, written = Tables.putSession { new with deviceLabel } := by
  obtain ⟨_, inserted⟩ := checkID_bind inserted
  obtain ⟨_, inserted⟩ := checkID_bind inserted
  obtain ⟨fit, deviceLabel, inserted⟩ := varchar_bind inserted
  obtain ⟨_, inserted⟩ := checkID_bind inserted
  split at inserted
  · cases inserted
  next absent =>
    split at inserted
    · cases inserted
    next unused =>
      split at inserted
      · cases inserted
      cases inserted
      exact ⟨by simpa [Tables.session] using absent, by simpa using unused, fit, deviceLabel, rfl⟩

theorem insertToken_ok {new : RefreshToken} (inserted : Tables.insertToken view new = .ok ((), written)) :
    Tables.token view new.id = none ∧ written = Tables.putToken new := by
  obtain ⟨_, inserted⟩ := checkID_bind inserted
  obtain ⟨_, inserted⟩ := checkID_bind inserted
  obtain ⟨_, inserted⟩ := checkID_bind inserted
  obtain ⟨_, inserted⟩ := checkID_bind inserted
  obtain ⟨_, inserted⟩ := checkLength_bind inserted
  obtain ⟨_, inserted⟩ := checkID_bind inserted
  split at inserted
  · cases inserted
  next absent =>
    split at inserted
    · cases inserted
    split at inserted
    · cases inserted
    split at inserted
    · cases inserted
    cases inserted
    exact ⟨by simpa [Tables.token] using absent, rfl⟩

theorem insertUser_ok [Collation] {new : User} (inserted : Tables.insertUser view new = .ok ((), written)) :
    Tables.user view new.id = none ∧ view (.email (citext new.email)) = none ∧ written = Tables.putUser new := by
  obtain ⟨_, inserted⟩ := checkID_bind inserted
  obtain ⟨_, inserted⟩ := checkLength_bind inserted
  obtain ⟨_, inserted⟩ := checkLength_bind inserted
  split at inserted
  · cases inserted
  next absent =>
    split at inserted
    · cases inserted
    next unused =>
      split at inserted
      · cases inserted
      cases inserted
      exact ⟨by simpa using absent, by simpa using unused, rfl⟩

theorem insertUser_width [Collation] {new : User} (inserted : Tables.insertUser view new = .ok ((), written)) :
    new.id.length ≤ 26 := (checkID_bind inserted).1

theorem insertFlow_ok {new : OAuthFlow} (inserted : Tables.insertFlow view new = .ok ((), written)) :
    Tables.flow view new.state = none ∧ ∃ codeChallenge, written = Tables.putFlow { new with codeChallenge } := by
  obtain ⟨_, inserted⟩ := checkLength_bind inserted
  obtain ⟨_, inserted⟩ := checkLength_bind inserted
  obtain ⟨_, codeChallenge, inserted⟩ := varchar_bind inserted
  split at inserted
  · cases inserted
  next absent =>
    cases inserted
    exact ⟨by simpa using absent, codeChallenge, rfl⟩

theorem upsertAccount_ok {new : OAuthAccount} (upserted : Tables.upsertAccount view new = .ok ((), written)) :
    (∃ old, Tables.account view new.provider new.providerUserID = some old ∧ written = Tables.unchanged) ∨
      Tables.account view new.provider new.providerUserID = none ∧ view (.link new.userID new.provider) = none ∧
        (Tables.user view new.userID).isSome ∧ written = Tables.putAccount new := by
  obtain ⟨_, upserted⟩ := checkLength_bind upserted
  obtain ⟨_, upserted⟩ := checkLength_bind upserted
  obtain ⟨_, upserted⟩ := checkID_bind upserted
  split at upserted
  · next present =>
    obtain ⟨old, found⟩ := Option.isSome_iff_exists.mp present
    cases upserted
    exact Or.inl ⟨old, found, rfl⟩
  next absent =>
    split at upserted
    · cases upserted
    next free =>
      split at upserted
      · cases upserted
      next known =>
        cases upserted
        exact Or.inr ⟨by simpa using absent, by simpa using free, Option.isSome_iff_ne_none.mpr (by simpa using known), rfl⟩

theorem upsertProviderToken_ok {new : ProviderToken} (upserted : Tables.upsertProviderToken view new = .ok ((), written)) :
    written = Tables.putProviderToken new := by
  obtain ⟨_, upserted⟩ := checkLength_bind upserted
  obtain ⟨_, upserted⟩ := checkID_bind upserted
  split at upserted
  · cases upserted
  · cases upserted
    rfl

theorem insertOutbox_ok {event : Outbox.Event} (inserted : Tables.insertOutbox view event = .ok ((), written)) :
    Tables.outbox view event.id = none ∧ written = Tables.putOutbox event.id event.row := by
  obtain ⟨_, inserted⟩ := checkID_bind inserted
  obtain ⟨_, inserted⟩ := checkID_bind inserted
  obtain ⟨_, inserted⟩ := checkLength_bind inserted
  obtain ⟨_, inserted⟩ := checkLength_bind inserted
  obtain ⟨_, inserted⟩ := checkLength_bind inserted
  split at inserted
  · cases inserted
  next absent =>
    cases inserted
    exact ⟨by simpa using absent, rfl⟩

end Statements

/-! One row more. -/

section Rows
variable [Collation] (store : Store database)

theorem session_putSession (new : Session) :
    Tables.session (store.write (Tables.putSession new)) = Function.update (Tables.session store) new.id (some new) := by
  funext id
  rw [session_write, Tables.putSession, Function.update_apply]
  split <;> rfl

theorem token_putToken (new : RefreshToken) :
    Tables.token (store.write (Tables.putToken new)) = Function.update (Tables.token store) new.id (some new) := by
  funext id
  rw [token_write, Tables.putToken, Function.update_apply]
  split <;> rfl

theorem user_putUser (new : User) :
    Tables.user (store.write (Tables.putUser new)) = Function.update (Tables.user store) new.id (some new) := by
  funext id
  rw [user_write, Tables.putUser, Function.update_apply]
  split <;> rfl

theorem flow_putFlow (new : OAuthFlow) :
    Tables.flow (store.write (Tables.putFlow new)) = Function.update (Tables.flow store) new.state (some new) := by
  funext state
  rw [flow_write, Tables.putFlow, Function.update_apply]
  split <;> rfl

theorem flow_deleteFlow (state : String) :
    Tables.flow (store.write (Tables.deleteFlow store state)) = Function.update (Tables.flow store) state none := by
  funext key
  rw [flow_write, Tables.deleteFlow, Function.update_apply]
  split
  · next same =>
    rw [same]
    cases Tables.flow store state <;> rfl
  · rfl

theorem token_updateToken {store : Store database} {id : String} {row : RefreshToken} (found : Tables.token store id = some row)
    (change : RefreshToken → RefreshToken) :
    Tables.token (store.write (Tables.updateToken store id change)) =
      Function.update (Tables.token store) id (some (change row)) := by
  funext key
  rw [token_write, Tables.updateToken, Function.update_apply]
  split
  · next same =>
    rw [same, found]
    rfl
  · rfl

theorem session_updateSession (id : String) (change : Session → Session) :
    Tables.session (store.write (Tables.updateSession store id change)) =
      Function.update (Tables.session store) id ((Tables.session store id).map change) := by
  funext key
  rw [session_write, Tables.updateSession, Function.update_apply]
  split
  · next same =>
    rw [same]
    cases Tables.session store id <;> rfl
  · rfl

end Rows

end VibeSync.Proofs.AuthTables
