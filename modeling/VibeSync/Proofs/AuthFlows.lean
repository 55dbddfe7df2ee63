import VibeSync.Machine
import VibeSync.PartialMap
import VibeSync.Proofs.AuthSteps
import VibeSync.Proofs.TransactionLogic

/-! OAuth flows. A flow is read and then deleted, without a look at whether the
DELETE found it, and its terms are stored but never compared. -/

namespace VibeSync.Proofs.AuthFlows
open VibeSync.Auth Transaction VibeSync.Proofs.AuthTables VibeSync.Proofs.AuthSteps

section Consumption
variable [Collation]

/-! One use of a state. -/

/-- The two statements of a consumption. -/
theorem consumeBody_eq (state : String) :
    consumeBody state = (@Program.query database Err (.flowByState state) (Err.wrapped "oauthflow_repo: scan") >>= fun
      | none => Program.fail (.invalidArgumentFor "vibesync.auth" "BAD_STATE" "state not found or expired")
      | some flow => @Program.query database Err (.deleteFlow state) (Err.wrapped "oauthflow_repo: consume") >>= fun _ =>
        pure flow) :=
  congrArg (Program.statement _ _) (funext fun reply => by cases reply <;> rfl)

/-- The flow that a DELETE names is still among the committed rows. -/
def FindsFlow (store : Store database) : Statement → Prop
  | .deleteFlow state => (Tables.flow store state).isSome
  | _ => True

/-- Two of the consumptions of one state are committed. -/
def UsedTwice (allowed : Store database → Statement → Prop) (state : String) (store : Store database) : Prop :=
  ∃ (first second third fourth : System database Err OAuthFlow) (tx other : Nat) (flow again : OAuthFlow),
    Run (· = consumeBody state) allowed (System.idle store) first ∧ Commits tx flow first second ∧
      Run (· = consumeBody state) allowed second third ∧ Commits other again third fourth

/-- A commit takes the flow away. -/
structure Takes (state : String) (store : Store database) (writes : Writes database) : Prop where
  present : (Tables.flow store state).isSome
  deleted : writes (.flow state) = some none

def rules (state : String) : Rules database where
  invariant := fun _ => True
  guarantee := Takes state
  allowed := FindsFlow

theorem takes_stable (state : String) : (rules state).Stable (Takes state) := by
  rintro store own other _ _ apart ⟨present, deleted⟩
  refine ⟨?_, deleted⟩
  rw [Tables.flow, Store.write_locked apart deleted store]
  exact present

theorem outline_consume (state : String) : (rules state).Outline (consumeBody state) Rules.Untouched := by
  rw [consumeBody_eq]
  refine Rules.Outline.frame _ (Rules.untouched_stable _) ?_ ?_
  · rintro store own reply written untouched executed
    cases executed
    exact untouched
  intro reply
  cases reply with
  | none => trivial
  | some flow =>
    apply Rules.Outline.query
    rintro store own _ written _ rfl present executed
    cases executed
    refine ⟨Takes state, takes_stable state, ⟨present, ?_⟩, fun _ _ _ takes => ⟨takes, trivial⟩⟩
    obtain ⟨row, found⟩ := Option.isSome_iff_exists.mp present
    rw [Writes.empty_andThen]
    simp [Tables.deleteFlow, Store.write_empty, found]

theorem Takes.gone {state : String} {store : Store database} {writes : Writes database} (takes : Takes state store writes) :
    Tables.flow (store.write writes) state = none := Store.write_of_some takes.deleted store

theorem flow_stays_gone {state : String} {before after : System database Err OAuthFlow}
    (run : Run (· = consumeBody state) FindsFlow before after) (safe : (rules state).Safe before) :
    (Tables.flow before.committed state = none → Tables.flow after.committed state = none) ∧ (rules state).Safe after := by
  have fresh : ∀ program, program = consumeBody state → (rules state).Outline program Rules.Untouched := by
    rintro _ rfl
    exact outline_consume state
  exact @Rules.Safe.run _ _ _ (rules state) _ _ _ (fun before after => Tables.flow before state = none → Tables.flow after state = none)
    fresh (fun _ gone => gone) (fun left right gone => right (left gone))
    (fun _ _ _ takes _ => takes.gone) run safe

/-- If every DELETE still finds its flow, one consumption at most is committed. -/
theorem flow_used_once_of_findsFlow (state : String) (store : Store database) : ¬ UsedTwice FindsFlow state store := by
  rintro ⟨first, second, third, fourth, tx, other, flow, again, early, commits, late, last⟩
  obtain ⟨_, safe⟩ := flow_stays_gone early (Rules.Safe.idle trivial)
  obtain ⟨_, safeSecond⟩ := flow_stays_gone (.single commits.step) safe
  obtain ⟨kept, safeThird⟩ := flow_stays_gone late safeSecond
  obtain ⟨found⟩ := commits
  obtain ⟨ready⟩ := last
  have gone := kept (safe.ready found).gone
  have present := (safeThird.ready ready).present
  rw [gone] at present
  cases present

section Present
variable {state : String} {flow : OAuthFlow} {store : Store database}

theorem flowByState_executes (found : Tables.flow store state = some flow) :
    database.execute (.flowByState state) store = .ok (some flow, Writes.empty) := by
  rw [← found]
  rfl

theorem consume_run (found : Tables.flow store state = some flow) :
    (consumeBody state).run store Writes.empty = (.ok flow, Tables.deleteFlow store state) := by
  have read : database.execute (.flowByState state) (store.write Writes.empty) = .ok (some flow, Writes.empty) :=
    flowByState_executes found
  rw [consumeBody_eq, Program.run_query read]
  exact congrArg (Prod.mk _) (Writes.empty_andThen _)

/-- Alone a consumption finds its flow and goes through. -/
theorem consume_alone (found : Tables.flow store state = some flow) :
    Run (· = consumeBody state) FindsFlow (System.idle store) (System.idle (store.write (Tables.deleteFlow store state))) := by
  have permitted : (consumeBody state).Permitted FindsFlow store Writes.empty := by
    rw [consumeBody_eq]
    apply Program.permitted_query trivial
    intro reply written _
    cases reply with
    | none => trivial
    | some row =>
      have present : FindsFlow store (.deleteFlow state) := Option.isSome_of_eq_some found
      apply Program.permitted_query present
      intro _ _ _
      trivial
  have committed : (consumeBody state).withTx store = (.ok flow, store.write (Tables.deleteFlow store state)) := by
    rw [Program.withTx, consume_run found]
  exact withTx_runs rfl permitted committed

/-- Two overlapping consumptions that have both read the flow are both committed. -/
theorem used_twice (found : Tables.flow store state = some flow) : UsedTwice (fun _ _ => True) state store := by
  have reads : Reads store (consumeBody state)
      (@Program.query database Err (.deleteFlow state) (Err.wrapped "oauthflow_repo: consume") >>= fun _ => pure flow) := by
    rw [consumeBody_eq]
    exact .read (flowByState_executes found) .here
  have overtaking := @Overtaking.of_always database Err OAuthFlow (· = consumeBody state) (fun _ _ => True) store _ _ _ flow flow _ _
    (fun _ _ => trivial) rfl rfl reads (consume_run found) rfl
  obtain ⟨ready, between, last, early, overtakes, _, late, _, commits⟩ := overtaking.commits neutral_always
  exact ⟨ready, between, last, _, 0, 1, flow, flow, early.run, overtakes, late.run, commits⟩

end Present

end Consumption

/-! A flow for one provider, and who completes it. -/

def nothing [Collation] : Store database := fun _ => none

def providerNamed (name : String) : OAuthProvider :=
  { name, authorizationURL := fun _ state _ => .ok state, exchange := fun _ _ _ => .ok ⟨"", "", "", 0⟩,
    profile := fun _ => .ok ⟨"p1", "alice@b.c", "Alice", ""⟩ }

def providers : Registry := [providerNamed "google", providerNamed "github"]

def begins : Call := .beginOAuth AuthReuse.call 5 (some providers) ⟨"google", "cb", ""⟩

def begun : OAuthFlow := ⟨"v2", "google", "cb", "", "", 10, 15⟩

section Example
local instance : Collation := .c

theorem begins_begun : Tables.flow (Machine.run serve nothing [begins]) "v2" = some begun := by decide +kernel

theorem concurrent_consumptions_both_pass :
    ¬ ∀ (state : String) (store : Store database), ¬ UsedTwice (fun _ _ => True) state store :=
  fun claim => claim "v2" _ (used_twice begins_begun)

end Example

/-! The terms of a flow. -/

section Terms
variable [Collation]

theorem upserted_flow {env : SignUpEnv} {provider : String} {profile : ProviderProfile} {before after : Store database}
    {session : Session} (upserted : Upserted env provider profile before after session) (state : String) :
    Tables.flow after state = Tables.flow before state := by
  cases upserted with
  | linked _ _ signed => exact signed.standing (.flow state) trivial
  | adopted _ _ _ signed => exact signed.standing (.flow state) trivial
  | created _ _ _ signed => exact signed.standing (.flow state) trivial

theorem flow_of_deleteFlow {store : Store database} {state other : String} {flow : OAuthFlow}
    (found : Tables.flow (store.write (Tables.deleteFlow store state)) other = some flow) :
    Tables.flow store other = some flow := by
  rw [flow_deleteFlow, Function.update_apply] at found
  split at found
  · cases found
  · exact found

/-- Only `BeginOAuth` adds a flow. -/
theorem serve_flow {store : Store database} {call : Call} {state : String} {flow : OAuthFlow}
    (found : Tables.flow (serve store call) state = some flow) :
    Tables.flow store state = some flow ∨
      ∃ env flowTTL registry req, call = .beginOAuth env flowTTL registry req ∧ flow.state = state ∧
        Begun env flowTTL req flow := by
  have moved := serve_moved store call
  generalize serve store call = after at moved found
  cases moved with
  | stays => exact Or.inl found
  | registered _ signed => exact Or.inl ((signed.standing (.flow state) trivial).symm.trans found)
  | loggedIn signed => exact Or.inl ((signed.standing (.flow state) trivial).symm.trans found)
  | @began env flowTTL registry req _ begun =>
    rw [flow_putFlow] at found
    rcases PartialMap.update_eq_some found with ⟨here, rfl⟩ | found
    · exact Or.inr ⟨env, flowTTL, registry, req, rfl, here.symm, begun⟩
    · exact Or.inl found
  | consumed => exact Or.inl (flow_of_deleteFlow found)
  | completed upserted => exact Or.inl (flow_of_deleteFlow ((upserted_flow upserted state).symm.trans found))
  | refreshed _ rotated => exact Or.inl ((rotated.standing (.flow state) trivial).symm.trans found)
  | revoked _ => exact Or.inl found

/-- A `BeginOAuth` of the run created this row. -/
def CreatedIn (store : Store database) (calls : List Call) (flow : OAuthFlow) : Prop :=
  ∃ visit ∈ Machine.trace serve store calls, ∃ env flowTTL registry req, visit.2 = .beginOAuth env flowTTL registry req ∧
    Begun env flowTTL req flow ∧ Tables.flow (serve visit.1 visit.2) flow.state = some flow

theorem flow_created {store : Store database} (empty : ∀ state, Tables.flow store state = none) (calls : List Call)
    {state : String} {flow : OAuthFlow} (found : Tables.flow (Machine.run serve store calls) state = some flow) :
    CreatedIn store calls flow := by
  induction calls using List.reverseRecOn generalizing state with
  | nil => cases (empty state).symm.trans found
  | append_singleton calls call ih =>
    have traced : Machine.trace serve store (calls ++ [call]) =
        Machine.trace serve store calls ++ [(Machine.run serve store calls, call)] := Machine.trace_append ..
    rw [Machine.run_append] at found
    rcases serve_flow found with before | ⟨env, flowTTL, registry, req, begins, here, created⟩
    · obtain ⟨visit, member, rest⟩ := ih before
      exact ⟨visit, by rw [traced]; exact List.mem_append_left _ member, rest⟩
    · refine ⟨(Machine.run serve store calls, call), by rw [traced]; exact List.mem_append_right _ List.mem_cons_self,
        env, flowTTL, registry, req, begins, created, ?_⟩
      rw [here]
      exact found

/-- A flow leads to the row of one state. -/
theorem flow_keyed {store : Store database} (empty : ∀ state, Tables.flow store state = none) (calls : List Call)
    {state : String} {flow : OAuthFlow} (found : Tables.flow (Machine.run serve store calls) state = some flow) :
    flow.state = state := by
  induction calls using List.reverseRecOn generalizing state with
  | nil => cases (empty state).symm.trans found
  | append_singleton calls call ih =>
    rw [Machine.run_append] at found
    rcases serve_flow found with before | ⟨_, _, _, _, _, here, _⟩
    · exact ih before
    · exact here

/-- The call is a `BeginOAuth` that drew this state. -/
def Draws (state : String) : Call → Prop
  | .beginOAuth env _ _ _ => env.randomURL stateBytes = .ok state
  | _ => False

/-- No two requests of the run drew this state. -/
def DrawnOnce (calls : List Call) (state : String) : Prop :=
  ∀ first ∈ calls, ∀ second ∈ calls, Draws state first → Draws state second → first = second

/-- The call used up a flow of an earlier `BeginOAuth`, for its provider and in time. -/
structure Bound (store : Store database) (earlier : List Call) (req : CompleteOAuthRequest) (called : Time)
    (after : Store database) (flow : OAuthFlow) : Prop where
  created : CreatedIn store earlier flow
  consumed : Tables.flow (Machine.run serve store earlier) req.state = some flow ∧ Tables.flow after req.state = none
  provider : req.provider = flow.provider
  unexpired : called < flow.expiresAt

/-- The `BeginOAuth` that drew the presented state was for this provider, and its flow
has not run out. -/
def OnTerms (earlier : List Call) (req : CompleteOAuthRequest) (called : Time) : Prop :=
  ∃ env flowTTL registry begun, .beginOAuth env flowTTL registry begun ∈ earlier ∧ env.randomURL stateBytes = .ok req.state ∧
    begun.provider = req.provider ∧ called < env.now + flowTTL

/-- The terms of a stored row are those of the request that drew its state. -/
theorem row_onTerms_iff {store : Store database} (empty : ∀ state, Tables.flow store state = none) {earlier : List Call}
    {req : CompleteOAuthRequest} (once : DrawnOnce earlier req.state) {flow : OAuthFlow}
    (found : Tables.flow (Machine.run serve store earlier) req.state = some flow) (called : Time) :
    OnTerms earlier req called ↔ req.provider = flow.provider ∧ called < flow.expiresAt := by
  have keyed := flow_keyed empty earlier found
  obtain ⟨visit, visited, env, flowTTL, registry, made, begins, begun, _⟩ := flow_created empty earlier found
  have member : Call.beginOAuth env flowTTL registry made ∈ earlier := begins ▸ Machine.trace_event visited
  have draws : env.randomURL stateBytes = .ok req.state := keyed ▸ begun.drawn
  rw [begun.provider, begun.expiresAt]
  constructor
  · rintro ⟨other, otherTTL, others, request, present, drew, same, early⟩
    cases once _ member _ present draws drew
    exact ⟨same.symm, early⟩
  · rintro ⟨same, early⟩
    exact ⟨env, flowTTL, registry, made, member, draws, same.symm, early⟩

/-- A session is issued for every flow that an earlier `BeginOAuth` created;
that the terms of that request are kept is up to the caller. -/
theorem session_bound_iff_onTerms (store : Store database) (empty : ∀ state, Tables.flow store state = none)
    (earlier : List Call) (env : SignUpEnv) (registry : Option Registry) (req : CompleteOAuthRequest)
    (once : DrawnOnce earlier req.state) (session : Session) (material : TokenMaterial)
    (issued : (completeOAuth env registry req (Machine.run serve store earlier)).1 = .ok (session, material)) :
    (∃ flow, Bound store earlier req env.now (completeOAuth env registry req (Machine.run serve store earlier)).2 flow) ↔
      OnTerms earlier req env.now := by
  constructor
  · rintro ⟨flow, bound⟩
    exact (row_onTerms_iff empty once bound.consumed.1 env.now).mpr ⟨bound.provider, bound.unexpired⟩
  · intro onTerms
    have completed := completeOAuth_completed (Machine.run serve store earlier) env registry req
    generalize completeOAuth env registry req (Machine.run serve store earlier) = outcome at completed issued ⊢
    cases completed with
    | refused => cases issued
    | consumed _ => cases issued
    | @signedIn _ provider flow _ _ _ _ _ _ _ found _ upserted =>
      obtain ⟨same, unexpired⟩ := (row_onTerms_iff empty once found env.now).mp onTerms
      refine ⟨flow, flow_created empty earlier found, ⟨found, ?_⟩, same, unexpired⟩
      rw [upserted_flow upserted, flow_deleteFlow, Function.update_self]

end Terms

def signingUp (now : Time) : SignUpEnv :=
  { AuthReuse.call with
    now, startedAt := now, passwordSetAt := now, savedAt := now, issuedAt := now
    idgen := fun n => ["u1", "e1", "d1", "f1", "t1"].getD n "", lower := Char.toLower, encrypt := .ok, rfc3339 := fun _ => "" }

def completing (provider : String) : CompleteOAuthRequest := ⟨provider, "code", "v2", ""⟩

local instance : Collation := .c

theorem google_in_time :
    ∃ flow, Bound nothing [begins] (completing "google") 12
      (completeOAuth (signingUp 12) (some providers) (completing "google") (Machine.run serve nothing [begins])).2 flow := by
  obtain ⟨⟨session, material⟩, issued⟩ := Program.value_of_isOk (by decide +kernel :
    (completeOAuth (signingUp 12) (some providers) (completing "google") (Machine.run serve nothing [begins])).1.isOk = true)
  have once : DrawnOnce [begins] (completing "google").state := by
    intro first early second late _ _
    rw [List.mem_singleton.mp early, List.mem_singleton.mp late]
  exact (session_bound_iff_onTerms nothing (fun _ => rfl) [begins] (signingUp 12) (some providers) (completing "google") once
    session material issued).mpr ⟨_, _, _, _, List.mem_singleton.mpr rfl, rfl, rfl, by decide⟩

/-- The flow was begun with one provider and has run out when another one completes it. -/
theorem github_too_late :
    ¬ ∀ (store : Store database) (earlier : List Call) (env : SignUpEnv) (registry : Option Registry)
        (req : CompleteOAuthRequest) (session : Session) (material : TokenMaterial),
        (∀ state, Tables.flow store state = none) →
        (completeOAuth env registry req (Machine.run serve store earlier)).1 = .ok (session, material) →
        ∃ flow, Bound store earlier req env.now (completeOAuth env registry req (Machine.run serve store earlier)).2 flow := by
  intro claim
  obtain ⟨⟨session, material⟩, issued⟩ := Program.value_of_isOk (by decide +kernel :
    (completeOAuth (signingUp 100) (some providers) (completing "github") (Machine.run serve nothing [begins])).1.isOk = true)
  obtain ⟨flow, bound⟩ := claim nothing [begins] (signingUp 100) (some providers) (completing "github") session material
    (fun _ => rfl) issued
  cases begins_begun.symm.trans bound.consumed.1
  exact absurd bound.provider (by decide)

end VibeSync.Proofs.AuthFlows
