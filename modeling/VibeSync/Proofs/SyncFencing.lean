import VibeSync.Machine
import VibeSync.Proofs.SyncLineage
import VibeSync.Sync.Handlers

/-! The fencing token as a witness of the host: how the two move together, and
what that means for a command that was authorized earlier. -/

namespace VibeSync.Proofs.SyncFencing
open VibeSync.Sync VibeSync.Sync.RoomSync VibeSync.Proofs.SyncSteps VibeSync.Proofs.SyncLineage

/-- A new host comes with a higher token and epoch; the same host keeps its token. -/
structure Fenced (before after : SyncState) : Prop where
  replaced : after.hostID ≠ before.hostID →
    before.fencingToken < after.fencingToken ∧ before.epoch < after.epoch
  kept : after.hostID = before.hostID → after.fencingToken = before.fencingToken

theorem fenced_of_same {before after : SyncState} (host : after.hostID = before.hostID)
    (token : after.fencingToken = before.fencingToken) : Fenced before after :=
  ⟨fun different => absurd host different, fun _ => token⟩

theorem elects_fenced {now : Time} {rs after : RoomSync} (elects : Elects now rs after) : Fenced rs.state after.state := by
  cases elects with
  | keep => exact fenced_of_same rfl rfl
  | migrate successor named new =>
    exact ⟨fun _ => ⟨Nat.lt_succ_self _, Nat.lt_succ_self _⟩, fun same => absurd same new⟩
  | pause =>
    unfold pauseHostless
    split <;> exact fenced_of_same rfl rfl

theorem tick_fenced (rs : RoomSync) (now : Time) (nowMs : Int) (order : MapOrder) :
    Fenced rs.state (rs.tick now nowMs order).state := by
  have ticks := tick_ticks rs now nowMs order
  generalize rs.tick now nowMs order = after at ticks
  cases ticks with
  | resync controller => exact fenced_of_same rfl rfl
  | elect controller correctionMs elects =>
    have nudged := nudge_nudged { rs with controller } correctionMs nowMs
    have elected := elects_fenced elects
    refine ⟨fun different => ?_, fun same => (elected.kept (same.trans nudged.host.symm)).trans nudged.token⟩
    obtain ⟨higher, later⟩ := elected.replaced (by rw [nudged.host]; exact different)
    rw [nudged.token] at higher
    exact ⟨higher, lt_of_le_of_lt nudged.epoch later⟩

/-- The owner becomes host of a room that has none. -/
def Adopts (rs : RoomSync) (event : Event) : Prop :=
  ∃ ownerID, event.action = .adoptOwner ownerID ∧ ownerID ≠ "" ∧ rs.state.hostID = ""

theorem adoptOwner_fenced_iff (rs : RoomSync) (ownerID : String) (now : Time) :
    Fenced rs.state (rs.adoptOwnerIfUnset ownerID now).2.state ↔ ¬ (ownerID ≠ "" ∧ rs.state.hostID = "") := by
  unfold adoptOwnerIfUnset
  split
  next nobody => exact ⟨fun _ adopts => adopts.1 nobody, fun _ => fenced_of_same rfl rfl⟩
  next named =>
    dsimp only
    split
    next hosted => exact ⟨fun _ adopts => hosted adopts.2, fun _ => fenced_of_same rfl rfl⟩
    next hostless =>
      have empty : rs.state.hostID = "" := not_not.mp hostless
      refine ⟨fun fenced => ?_, fun none => absurd ⟨named, empty⟩ none⟩
      obtain ⟨higher, _⟩ := fenced.replaced (by change ownerID ≠ rs.state.hostID; rw [empty]; exact named)
      exact absurd higher (lt_irrefl _)

/-- Every transition fences its host except the adoption of an owner, as long as
the two counters have not run through all of `uint64`. -/
theorem step_fenced_iff (rs : RoomSync) (event : Event) : Fenced rs.state (rs.step event).state ↔ ¬ Adopts rs event := by
  obtain ⟨action, nowMs, now⟩ := event
  have other : (∀ ownerID, action ≠ .adoptOwner ownerID) → ¬ Adopts rs ⟨action, nowMs, now⟩ :=
    fun different ⟨ownerID, same, _⟩ => different ownerID same
  cases action with
  | command c fencingToken =>
    refine ⟨fun _ => other nofun, fun _ => ?_⟩
    dsimp only [RoomSync.step, processCommandAuthorized, applyCommandLocked]
    split
    · exact fenced_of_same rfl rfl
    · exact fenced_of_same (applyCommand_hostID ..) (applyCommand_fencingToken ..)
  | tick order => exact ⟨fun _ => other nofun, fun _ => tick_fenced rs now nowMs order⟩
  | adoptOwner ownerID =>
    refine (adoptOwner_fenced_iff rs ownerID now).trans (not_congr ?_)
    constructor
    · intro adopts
      exact ⟨ownerID, rfl, adopts⟩
    · rintro ⟨_, same, adopts⟩
      cases same
      exact adopts
  | heartbeat userID mediaTime wallTime t2 => exact ⟨fun _ => other nofun, fun _ => fenced_of_same rfl rfl⟩
  | snapshot => exact ⟨fun _ => other nofun, fun _ => fenced_of_same rfl rfl⟩
  | register channel => exact ⟨fun _ => other nofun, fun _ => fenced_of_same rfl rfl⟩
  | unregister channel => exact ⟨fun _ => other nofun, fun _ => fenced_of_same rfl rfl⟩

/-- A room opened by a subscriber adopts its owner under the old token. -/
theorem adoption_unfenced :
    ¬ ∀ (cfg : SyncConfig) (commands : List Command) (rs : RoomSync) (clock : Int), Lineage cfg commands rs clock →
        ∀ event : Event, clock ≤ event.nowMs → Fenced rs.state (rs.step event).state := by
  intro claim
  have fenced := claim {} [] _ 0 (.fresh "r1" le_rfl) ⟨.adoptOwner "alice", 0, 0⟩ le_rfl
  obtain ⟨higher, _⟩ := fenced.replaced (by decide +kernel)
  exact absurd higher (by decide +kernel)

/-! Check, then act. -/

theorem change_keeps_host {mine : Nat → Prop} {before after : RoomSync} (change : Change mine before after)
    (hosted : before.state.hostID ≠ "") (same : after.state.fencingToken = before.state.fencingToken) :
    after.state.hostID = before.state.hostID := by
  cases change with
  | quiet quiet => rw [quiet.state]
  | update state room epoch token host => exact host.resolve_right hosted
  | migrate successor now named => exact absurd same (Nat.succ_ne_self _)
  | republish frame full => rfl

/-- While the token stands still, so does the host. -/
theorem changes_keep_host {mine : Nat → Prop} {before after : RoomSync} (changes : Changes mine before after)
    (hosted : before.state.hostID ≠ "") (same : after.state.fencingToken = before.state.fencingToken) :
    after.state.hostID = before.state.hostID := by
  induction changes with
  | refl => rfl
  | @tail middle after earlier change ih =>
    have first := (Changes.grows earlier).token
    have last := change.grows.token
    have still : middle.state.fencingToken = before.state.fencingToken := by omega
    have host := ih still
    have named : middle.state.hostID ≠ "" := by
      rw [host]
      exact hosted
    exact (change_keeps_host change named (by omega)).trans host

/-- The room has not moved past the fence, or has not changed its host since. -/
def Holds (fence : Nat) (userID : String) (rs : RoomSync) : Prop :=
  fence ≤ rs.state.fencingToken ∧ (rs.state.fencingToken = fence → rs.state.hostID = userID)

theorem holds_changes {mine : Nat → Prop} {fence : Nat} {userID : String} {before after : RoomSync}
    (changes : Changes mine before after) (named : userID ≠ "") (holds : Holds fence userID before) :
    Holds fence userID after := by
  have grows := (Changes.grows changes).token
  refine ⟨holds.1.trans grows, fun stands => ?_⟩
  have floor := holds.1
  have host := holds.2 (by omega)
  have hosted : before.state.hostID ≠ "" := by
    rw [host]
    exact named
  exact (changes_keep_host changes hosted (by omega)).trans host

/-- A call that was let through as the host holds the fence it was checked at. -/
def Checked (rs : RoomSync) (call : Call) : Prop :=
  ∀ fence, call.phase = .authorized (.host fence) → call.userID ≠ "" ∧ Holds fence call.userID rs

/-- No call past the first check is anonymous. -/
def Identified (call : Call) : Prop := call.phase = .readHost → call.userID ≠ ""

def AllChecked (s : Handlers) : Prop :=
  ∀ id call, s.calls id = some call → Identified call ∧ Checked s.room call

theorem Checked.changes {mine : Nat → Prop} {before after : RoomSync} {call : Call} (checked : Checked before call)
    (changes : Changes mine before after) : Checked after call := by
  intro fence phase
  obtain ⟨named, holds⟩ := checked fence phase
  exact ⟨named, holds_changes changes named holds⟩

/-- A call that goes on to any other phase claims nothing about the host. -/
theorem elsewhere_checked {call : Call} {rs room : RoomSync} {phase : Phase} (changes : Changes Anywhere rs room)
    (started : phase ≠ .readHost) (ground : ∀ fence, phase ≠ .authorized (.host fence)) :
    Changes Anywhere rs room ∧ Identified { call with phase } ∧ Checked room { call with phase } :=
  ⟨changes, fun same => absurd same started, fun fence same => absurd same (ground fence)⟩

/-- A step of a call moves the room by applying its command at most. -/
theorem call_step (call : Call) (rs : RoomSync) (answer : Except Err Bool) (nowMs : Int) (now : Time)
    (identified : Identified call) :
    Changes Anywhere rs (call.step rs answer nowMs now).2 ∧ Identified (call.step rs answer nowMs now).1 ∧
      Checked (call.step rs answer nowMs now).2 (call.step rs answer nowMs now).1 := by
  unfold Call.step
  split
  next started =>
    split
    next host =>
      refine ⟨.refl, nofun, ?_⟩
      intro fence same
      cases same
      exact ⟨identified started, le_rfl, fun _ => host.symm⟩
    · exact elsewhere_checked .refl nofun nofun
  · split
    · exact elsewhere_checked .refl nofun nofun
    · split
      · exact elsewhere_checked .refl nofun nofun
      · exact elsewhere_checked .refl nofun nofun
  · split
    · exact elsewhere_checked .refl nofun nofun
    · exact elsewhere_checked .refl nofun nofun
    · exact elsewhere_checked .refl nofun nofun
  · exact elsewhere_checked (command_changes rs call.command call.fencingToken nowMs now) nofun nofun
  next result ended => exact ⟨.refl, identified, fun fence same => by rw [ended] at same; cases same⟩

theorem accept_checked (userID : String) (command : Command) (fencingToken : Nat) (rs : RoomSync) :
    Identified (Handlers.accept userID command fencingToken) ∧ Checked rs (Handlers.accept userID command fencingToken) := by
  unfold Handlers.accept
  dsimp only
  split
  · exact ⟨nofun, nofun⟩
  next named => exact ⟨fun _ => named, nofun⟩

theorem allChecked_step (s : Handlers) (event : Handlers.Event) (all : AllChecked s) : AllChecked (s.step event) := by
  cases event with
  | request id userID command fencingToken =>
    intro other call found
    simp only [Handlers.step, Function.update_apply] at found
    split at found
    · cases found
      exact accept_checked userID command fencingToken s.room
    · exact all other call found
  | advance id answer nowMs now =>
    simp only [Handlers.step]
    split
    next call held =>
      obtain ⟨changes, identified, checked⟩ := call_step call s.room answer nowMs now (all id call held).1
      intro other next found
      simp only [Function.update_apply] at found
      split at found
      · cases found
        exact ⟨identified, checked⟩
      · obtain ⟨known, before⟩ := all other next found
        exact ⟨known, before.changes changes⟩
    · exact all
  | room event =>
    intro id call found
    obtain ⟨identified, checked⟩ := all id call found
    exact ⟨identified, checked.changes (step_changes s.room event (spares_anywhere event))⟩

theorem accepted_not_stale {rs : RoomSync} {c : Command} {fencingToken : Nat} {nowMs : Int} {now : Time}
    (accepted : (rs.processCommandAuthorized c fencingToken nowMs now).1.accepted = true) :
    rs.state.fencingToken ≤ fencingToken := by
  unfold processCommandAuthorized applyCommandLocked at accepted
  split at accepted
  · cases accepted
  next fresh => exact Nat.le_of_not_lt fresh

/-- A call that was let through as the host, with a token no newer than the room's
at that check, is applied only while its caller is still the host. The token counts
one up at a time and is taken not to wrap around. -/
theorem applied_only_as_host (rs : RoomSync) (events : List Handlers.Event) (id : Nat) (call : Call) (fence : Nat)
    (answer : Except Err Bool) (nowMs : Int) (now : Time) (response : CommandResponse)
    (found : (Machine.run Handlers.step (.start rs) events).calls id = some call)
    (ground : call.phase = .authorized (.host fence)) (bounded : call.fencingToken ≤ fence)
    (finished : (call.step (Machine.run Handlers.step (.start rs) events).room answer nowMs now).1.phase =
      .finished (.ok response))
    (accepted : response.accepted = true) :
    (Machine.run Handlers.step (.start rs) events).room.state.hostID = call.userID := by
  have initial : AllChecked (.start rs) := fun _ _ impossible => by cases impossible
  have all := Machine.run_invariant AllChecked allChecked_step initial events
  generalize Machine.run Handlers.step (.start rs) events = s at found finished all
  obtain ⟨_, floor, host⟩ := (all id call found).2 fence ground
  simp only [Call.step, ground, Phase.finished.injEq, Except.ok.injEq] at finished
  rw [← finished] at accepted
  have current := accepted_not_stale accepted
  exact host (by omega)

/-- Alice pauses her own room while another viewer's heartbeat comes in between. -/
theorem host_pauses :
    (Machine.run Handlers.step (.start (newRoomSync {} "r1" (RoomManager.initState "r1" "alice")))
      [.request 1 "alice" ⟨.pause, none, none, ""⟩ 0, .advance 1 (.ok false) 0 0,
        .room ⟨.heartbeat "bob" 0 0 0, 0, 0⟩]).room.state.hostID = "alice" :=
  applied_only_as_host _ _ 1 ⟨"alice", ⟨.pause, none, none, ""⟩, 0, .authorized (.host 0)⟩ 0 (.ok false) 5 5
    ⟨1, true, ""⟩ rfl rfl le_rfl rfl rfl

end VibeSync.Proofs.SyncFencing
