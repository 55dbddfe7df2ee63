import Mathlib.Data.Prod.Lex
import VibeSync.BestScore
import VibeSync.Machine
import VibeSync.Playback.Service
import VibeSync.Sync.Service

/-! In which order the playback service takes what it is told about a room: the
fencing token first, the epoch second. -/

namespace VibeSync.Proofs.PlaybackOrder
open VibeSync.Playback Machine BestScore

/-! Commands. -/

def stampOf (c : SyncCommand) : ℕ ×ₗ ℕ := toLex (c.fencingToken, c.epoch)

/-- What a room shows, apart from its name and the time of its last change. -/
def contents (r : PlaybackRoom) : SyncCommand :=
  { mediaID := r.mediaID, status := r.status, mediaTimeMs := r.mediaTimeMs, wallTimeMs := r.wallTimeMs,
    playbackRate := r.playbackRate, epoch := r.epoch, hostID := r.hostID, fencingToken := r.fencingToken }

def stamp (r : PlaybackRoom) : ℕ ×ₗ ℕ := stampOf (contents r)

theorem stampOf_lt_iff {c d : SyncCommand} : stampOf c < stampOf d ↔
    c.fencingToken < d.fencingToken ∨ c.fencingToken = d.fencingToken ∧ c.epoch < d.epoch := Prod.Lex.toLex_lt_toLex

theorem token_le_of_stamp_le {c d : SyncCommand} (le : stampOf c ≤ stampOf d) : c.fencingToken ≤ d.fencingToken := by
  obtain lower | same := Prod.Lex.toLex_le_toLex.mp le
  · exact lower.le
  · exact same.1.le

/-- A command is applied, whole, exactly when its stamp is above the room's. -/
inductive Answered (r : PlaybackRoom) (c : SyncCommand) (now : Time) : Bool × PlaybackRoom → Prop where
  | rejected (old : ¬ stamp r < stampOf c) : Answered r c now (false, r)
  | applied (new : stamp r < stampOf c) {after : PlaybackRoom} (room : after.roomID = r.roomID) (shown : contents after = c)
      (time : after.updatedAt = now) : Answered r c now (true, after)

theorem applySyncCommand_answered (r : PlaybackRoom) (c : SyncCommand) (now : Time) :
    Answered r c now (r.applySyncCommand c now) := by
  have newer : stamp r < stampOf c ↔ _ := stampOf_lt_iff
  unfold PlaybackRoom.applySyncCommand
  dsimp only [contents] at newer
  split
  next stale => exact .rejected (by rw [newer]; omega)
  split
  next redundant => exact .rejected (by rw [newer]; omega)
  next fresh => exact .applied (by rw [newer]; omega) rfl rfl rfl

theorem rejected_unchanged {r : PlaybackRoom} {c : SyncCommand} {now : Time}
    (rejected : (r.applySyncCommand c now).1 = false) : (r.applySyncCommand c now).2 = r := by
  have answered := applySyncCommand_answered r c now
  generalize r.applySyncCommand c now = answer at answered rejected
  cases answered with
  | rejected old => rfl
  | applied new room shown time => cases rejected

def applyAll (r : PlaybackRoom) (calls : List (SyncCommand × Time)) : PlaybackRoom :=
  calls.foldl (fun r call => (r.applySyncCommand call.1 call.2).2) r

theorem applyAll_cons (r : PlaybackRoom) (call : SyncCommand × Time) (rest : List (SyncCommand × Time)) :
    applyAll r (call :: rest) = applyAll (r.applySyncCommand call.1 call.2).2 rest := rfl

/-- The highest stamp is the lowest score. -/
def score (c : SyncCommand) : Option (ℕ ×ₗ ℕ)ᵒᵈ := some (OrderDual.toDual (stampOf c))

/-- Applying commands is a scan for the highest stamp. -/
theorem applyAll_scan (r : PlaybackRoom) (calls : List (SyncCommand × Time)) :
    (OrderDual.toDual (stamp (applyAll r calls)), contents (applyAll r calls)) =
      (calls.map Prod.fst).foldl (better score) (OrderDual.toDual (stamp r), contents r) := by
  induction calls generalizing r with
  | nil => rfl
  | cons call rest ih =>
    have answered := applySyncCommand_answered r call.1 call.2
    rw [applyAll_cons, ih, List.map_cons, List.foldl_cons]
    congr 1
    generalize r.applySyncCommand call.1 call.2 = answer at answered
    simp only [better, score, OrderDual.toDual_lt_toDual]
    cases answered with
    | rejected old => rw [if_neg old]
    | applied new room shown time => rw [if_pos new, stamp, shown]

theorem applyAll_roomID (r : PlaybackRoom) (calls : List (SyncCommand × Time)) : (applyAll r calls).roomID = r.roomID := by
  induction calls generalizing r with
  | nil => rfl
  | cons call rest ih =>
    have answered := applySyncCommand_answered r call.1 call.2
    rw [applyAll_cons, ih]
    generalize r.applySyncCommand call.1 call.2 = answer at answered
    cases answered with
    | rejected old => rfl
    | applied new room shown time => exact room

/-- The room shows what it showed before, with no command above it, or the command
of the highest stamp. -/
theorem applyAll_cases (r : PlaybackRoom) (calls : List (SyncCommand × Time)) :
    (∀ c ∈ calls.map Prod.fst, stampOf c ≤ stamp (applyAll r calls)) ∧
      (contents (applyAll r calls) = contents r ∨
        contents (applyAll r calls) ∈ calls.map Prod.fst ∧ stamp r < stamp (applyAll r calls)) := by
  have scan := applyAll_scan r calls
  constructor
  · intro c member
    have least := scan_le_score member (show score c = some _ from rfl) (OrderDual.toDual (stamp r), contents r)
    rw [← scan] at least
    exact least
  · obtain kept | ⟨value, c, member, scored, lower, taken⟩ :=
      @scan_cases _ _ _ score (calls.map Prod.fst) (OrderDual.toDual (stamp r), contents r)
    · exact Or.inl (congrArg Prod.snd (scan.trans kept))
    · obtain ⟨rfl, rfl⟩ := Prod.mk.inj (scan.trans taken)
      exact Or.inr ⟨member, lower⟩

/-- Equal stamps carry equal states. -/
def Consistent (commands : List SyncCommand) : Prop := ∀ c ∈ commands, ∀ d ∈ commands, stampOf c = stampOf d → c = d

/-- Whatever the order and the duplication, the command of the highest stamp
decides, and a rejected call changes nothing. -/
theorem commands_converge (roomID : String) {calls : List (SyncCommand × Time)}
    (consistent : Consistent (calls.map Prod.fst)) :
    (applyAll { roomID } calls).roomID = roomID ∧
      (∀ newest ∈ calls.map Prod.fst, toLex (0, 0) < stampOf newest →
        (∀ c ∈ calls.map Prod.fst, stampOf c ≤ stampOf newest) → contents (applyAll { roomID } calls) = newest) ∧
      ((∀ c ∈ calls.map Prod.fst, ¬ toLex (0, 0) < stampOf c) →
        contents (applyAll { roomID } calls) = contents { roomID }) ∧
      ∀ (r : PlaybackRoom) (c : SyncCommand) (now : Time),
        (r.applySyncCommand c now).1 = false → (r.applySyncCommand c now).2 = r := by
  obtain ⟨above, shown⟩ := applyAll_cases { roomID } calls
  refine ⟨applyAll_roomID { roomID } calls, ?_, ?_, fun r c now => rejected_unchanged⟩
  · intro newest member positive highest
    obtain kept | ⟨taken, _⟩ := shown
    · have bound := above newest member
      rw [stamp, kept] at bound
      exact absurd bound (not_le.mpr positive)
    · exact consistent _ taken newest member (le_antisymm (highest _ taken) (above newest member))
  · intro nothing
    obtain kept | ⟨taken, higher⟩ := shown
    · exact kept
    · exact absurd higher (nothing _ taken)

/-- A play at epoch 2 and a pause at epoch 1, the pause arriving last and twice. -/
def reordered : List (SyncCommand × Time) :=
  [(⟨"m1", 2, 0, 1000, 1, 2, "alice", 0⟩, 10), (⟨"m1", 1, 0, 500, 0, 1, "alice", 0⟩, 20),
    (⟨"m1", 1, 0, 500, 0, 1, "alice", 0⟩, 30)]

theorem late_pause_ignored :
    contents (applyAll { roomID := "r1" } reordered) = ⟨"m1", 2, 0, 1000, 1, 2, "alice", 0⟩ := by
  have consistent : Consistent (reordered.map Prod.fst) := by unfold Consistent; decide +kernel
  exact (commands_converge "r1" consistent).2.1 _ (by decide) (by decide +kernel) (by decide +kernel)

/-! The service. -/

section Rooms
variable (cache : RoomCache) (roomID : String) (now : Time)

@[simp] theorem room_update (name : String) (room : PlaybackRoom) :
    RoomCache.room (Function.update cache name (some room)) roomID = if roomID = name then room else cache.room roomID := by
  unfold RoomCache.room
  rw [Function.update_apply]
  split <;> rfl

theorem room_applyFromEvent (e : SyncUpdatedV1) : (cache.applyFromEvent e now).room roomID =
    if roomID = e.roomID then ((cache.room e.roomID).applyFromEvent e now).2 else cache.room roomID :=
  room_update ..

theorem room_applySyncCommand (name : String) (c : SyncCommand) : (cache.applySyncCommand name c now).2.room roomID =
    if roomID = name then ((cache.room name).applySyncCommand c now).2 else cache.room roomID :=
  room_update ..

end Rooms

theorem persistRoom_cache (s : Service) (roomID : String) (stored : Bool) : (s.persistRoom roomID stored).cache = s.cache := by
  unfold Service.persistRoom
  split
  · split <;> rfl
  · rfl

/-- An event of a room, as the consumer decodes it. -/
def eventFor (roomID : String) (value : Option JsonObject) : Option SyncUpdatedV1 :=
  (value.bind SyncUpdatedV1.decode).filter fun e => e.roomID ≠ "" ∧ e.roomID = roomID

/-- What one step of the service does to the cached room. -/
inductive Told (roomID : String) (s : Service) : Service.Event → PlaybackRoom → Prop where
  | other {event : Service.Event} (unheard : ∀ value now, event = .syncUpdated value now → eventFor roomID value = none) :
      Told roomID s event (s.cache.room roomID)
  | loaded (mediaID : String) (now : Time) (stored : Bool) :
      Told roomID s (.loadMedia roomID mediaID now stored) ((s.cache.room roomID).loadMedia mediaID now)
  | command (state : Sync.Proto.SyncState) (now : Time) : Told roomID s (.applySyncCommand roomID (some state) now)
      ((s.cache.room roomID).applySyncCommand (Service.commandOf state) now).2
  | updated {value : Option JsonObject} {e : SyncUpdatedV1} (decoded : eventFor roomID value = some e) (now : Time) :
      Told roomID s (.syncUpdated value now) ((s.cache.room roomID).applyFromEvent e now).2
  | restarted : Told roomID s .restart { roomID }

theorem syncUpdated_told (roomID : String) (s : Service) (value : Option JsonObject) (now : Time) :
    Told roomID s (.syncUpdated value now) ((s.handleSyncUpdated value now).cache.room roomID) := by
  have unheard (silent : eventFor roomID value = none) : Told roomID s (.syncUpdated value now) (s.cache.room roomID) := by
    refine .other fun _ _ same => ?_
    cases same
    exact silent
  unfold Service.handleSyncUpdated
  split
  next e decoded =>
    split
    next nameless => exact unheard (by simp [eventFor, decoded, nameless])
    next named =>
      rw [room_applyFromEvent]
      split
      next here =>
        rw [← here]
        exact .updated (by simp [eventFor, decoded, named, here]) now
      next elsewhere => exact unheard (by simp [eventFor, decoded, Ne.symm elsewhere])
  next malformed => exact unheard (by simp [eventFor, malformed])

theorem step_told (roomID : String) (s : Service) (event : Service.Event) :
    Told roomID s event ((s.step event).cache.room roomID) := by
  cases event with
  | loadMedia name mediaID now stored =>
    dsimp only [Service.step, Service.loadMedia]
    split
    · exact .other fun _ _ same => by cases same
    · rw [persistRoom_cache]
      dsimp only [RoomCache.loadMedia]
      rw [room_update]
      split
      next here => exact here ▸ .loaded mediaID now stored
      · exact .other fun _ _ same => by cases same
  | applySyncCommand name state now =>
    cases state with
    | none => exact .other fun _ _ same => by cases same
    | some state =>
      dsimp only [Service.step, Service.applySyncCommand]
      split
      · exact .other fun _ _ same => by cases same
      · rw [room_applySyncCommand]
        split
        next here => exact here ▸ .command state now
        · exact .other fun _ _ same => by cases same
  | syncUpdated value now => exact syncUpdated_told roomID s value now
  | restart => exact .restarted

theorem stamp_le_applySyncCommand (r : PlaybackRoom) (c : SyncCommand) (now : Time) :
    stamp r ≤ stamp (r.applySyncCommand c now).2 := by
  have answered := applySyncCommand_answered r c now
  generalize r.applySyncCommand c now = answer at answered
  cases answered with
  | rejected old => exact le_rfl
  | applied new room shown time =>
    rw [stamp, stamp, shown]
    exact new.le

/-! What the cached room goes through. -/

/-- The step does not take the pair of token and epoch back. A restart begins a new cache. -/
def Forward (roomID : String) (s : Service) (event : Service.Event) : Prop :=
  event = .restart ∨ stamp (s.cache.room roomID) ≤ stamp ((s.step event).cache.room roomID)

/-- An event that arrives for the room is not older than the cached epoch. -/
def UpToDate (roomID : String) (s : Service) (event : Service.Event) : Prop :=
  ∀ value now e, event = .syncUpdated value now → eventFor roomID value = some e → (s.cache.room roomID).epoch ≤ e.epoch

theorem stamp_le_applyFromEvent (r : PlaybackRoom) (e : SyncUpdatedV1) (now : Time) :
    stamp r ≤ stamp (r.applyFromEvent e now).2 ↔ r.epoch ≤ e.epoch := by
  refine Prod.Lex.toLex_le_toLex.trans ?_
  simp [PlaybackRoom.applyFromEvent, contents]

theorem forward_iff (roomID : String) (s : Service) (event : Service.Event) :
    Forward roomID s event ↔ UpToDate roomID s event := by
  have told := step_told roomID s event
  unfold Forward
  generalize (s.step event).cache.room roomID = after at told
  cases told with
  | other unheard =>
    refine iff_of_true (Or.inr le_rfl) fun value now e same decoded => ?_
    rw [unheard value now same] at decoded
    cases decoded
  | loaded mediaID now stored => exact iff_of_true (Or.inr le_rfl) fun _ _ _ same => by cases same
  | command state now =>
    exact iff_of_true (Or.inr (stamp_le_applySyncCommand ..)) fun _ _ _ same => by cases same
  | @updated value e decoded now =>
    rw [stamp_le_applyFromEvent]
    constructor
    · rintro (impossible | current) _ _ other same decoded'
      · cases impossible
      · cases same
        obtain rfl := Option.some.inj (decoded.symm.trans decoded')
        exact current
    · exact fun current => Or.inr (current value now e rfl decoded)
  | restarted => exact iff_of_true (Or.inl rfl) fun _ _ _ same => by cases same

theorem step_token {s : Service} {event : Service.Event} (running : event ≠ .restart) (roomID : String) :
    (s.cache.room roomID).fencingToken ≤ ((s.step event).cache.room roomID).fencingToken := by
  have told := step_told roomID s event
  generalize (s.step event).cache.room roomID = after at told
  cases told with
  | other unheard => exact le_rfl
  | loaded mediaID now stored => exact le_rfl
  | command state now => exact token_le_of_stamp_le (stamp_le_applySyncCommand ..)
  | updated decoded now => exact le_rfl
  | restarted => exact absurd rfl running

/-- The token never goes back, and the pair goes back exactly when an event older
than the cached epoch arrives. -/
theorem cache_forward_iff (roomID : String) (start : Service) (events : List Service.Event) :
    (∀ visit ∈ trace Service.step start events, visit.2 ≠ .restart →
        (visit.1.cache.room roomID).fencingToken ≤ ((visit.1.step visit.2).cache.room roomID).fencingToken) ∧
      ((∀ visit ∈ trace Service.step start events, Forward roomID visit.1 visit.2) ↔
        ∀ visit ∈ trace Service.step start events, UpToDate roomID visit.1 visit.2) :=
  ⟨fun _ _ running => step_token running roomID, forall₂_congr fun visit _ => forward_iff roomID visit.1 visit.2⟩

/-! What one sync room tells the service. -/

/-- The event is a `sync.updated.v1` of the sync room in this state. -/
def Announces (rs : Sync.RoomSync) (event : Service.Event) : Prop :=
  ∃ id now occurredAt later, event = .syncUpdated (some (rs.stageOutbox id now occurredAt).payload) later

/-- A message or a call that the sync room sends in one of its states. -/
def Produced (rooms : List Sync.RoomSync) (event : Service.Event) : Prop :=
  ∃ rs ∈ rooms, Announces rs event ∨ ∃ now, event = .applySyncCommand rs.roomID (some rs.wire) now

def screening : Sync.RoomSync := Sync.newRoomSync {} "r1" (Sync.RoomManager.initState "r1" "alice")

def playAndPause : List Sync.RoomSync.Event :=
  [⟨.command ⟨.play, none, none, ""⟩ 0, 1000, 1000000000⟩, ⟨.command ⟨.pause, none, none, ""⟩ 0, 2000, 2000000000⟩]

def announced (rs : Sync.RoomSync) : Service.Event := .syncUpdated (some (rs.stageOutbox "e1" 0 0).payload) 3000000000

/-- The event of epoch 1 is redelivered after that of epoch 2. -/
theorem redelivered_event_goes_back :
    ¬ ∀ (cfg : Sync.SyncConfig) (roomID : String) (initial : Sync.SyncState) (syncEvents : List Sync.RoomSync.Event)
        (events : List Service.Event),
        (∀ event ∈ events, Produced (states Sync.RoomSync.step (Sync.newRoomSync cfg roomID initial) syncEvents) event) →
          ∀ visit ∈ trace Service.step (.new fun _ => none) events, Forward roomID visit.1 visit.2 := by
  intro claim
  have produced : ∀ rs ∈ states Sync.RoomSync.step screening playAndPause,
      Produced (states Sync.RoomSync.step screening playAndPause) (announced rs) :=
    fun rs visited => ⟨rs, visited, Or.inl ⟨"e1", 0, 0, 3000000000, rfl⟩⟩
  have second : run Sync.RoomSync.step screening playAndPause ∈ states Sync.RoomSync.step screening playAndPause :=
    .tail _ (.tail _ (.head _))
  have first : run Sync.RoomSync.step screening (playAndPause.take 1) ∈ states Sync.RoomSync.step screening playAndPause :=
    .tail _ (.head _)
  have forward := claim {} "r1" (Sync.RoomManager.initState "r1" "alice") playAndPause
    [announced (run Sync.RoomSync.step screening playAndPause),
      announced (run Sync.RoomSync.step screening (playAndPause.take 1))]
    (List.forall_mem_cons.mpr ⟨produced _ second, List.forall_mem_cons.mpr ⟨produced _ first, fun _ none => by cases none⟩⟩)
    _ (.tail _ (.head _))
  obtain impossible | forward := forward
  · cases impossible
  · exact absurd forward (by decide +kernel)

/-! Fencing. -/

def accepted : Except Err Bool → Bool
  | .ok applied => applied
  | .error _ => false

/-- The service applies the command. -/
def Applies (s : Service) (roomID : String) (state : Sync.Proto.SyncState) (now : Time) : Prop :=
  accepted (s.applySyncCommand roomID (some state) now).1

instance (s : Service) (roomID : String) (state : Sync.Proto.SyncState) (now : Time) :
    Decidable (Applies s roomID state now) := inferInstanceAs (Decidable (_ = true))

theorem applies_token {s : Service} {roomID : String} {state : Sync.Proto.SyncState} {now : Time}
    (applies : Applies s roomID state now) :
    (s.cache.room roomID).fencingToken ≤ state.fencingToken ∧
      ((s.step (.applySyncCommand roomID (some state) now)).cache.room roomID).fencingToken = state.fencingToken := by
  dsimp only [Applies, Service.step, Service.applySyncCommand] at applies ⊢
  split at applies
  · cases applies
  next named =>
    have answered := applySyncCommand_answered (s.cache.room roomID) (Service.commandOf state) now
    rw [if_neg named, room_applySyncCommand, if_pos rfl]
    dsimp only [RoomCache.applySyncCommand, accepted] at applies
    generalize (s.cache.room roomID).applySyncCommand (Service.commandOf state) now = answer at applies answered
    cases answered with
    | rejected old => cases applies
    | applied new room shown time => exact ⟨token_le_of_stamp_le new.le, congrArg SyncCommand.fencingToken shown⟩

theorem run_token {events : List Service.Event} (running : ∀ event ∈ events, event ≠ .restart) (s : Service)
    (roomID : String) : (s.cache.room roomID).fencingToken ≤ ((run Service.step s events).cache.room roomID).fencingToken := by
  induction events generalizing s with
  | nil => exact le_rfl
  | cons event rest ih =>
    obtain ⟨here, later⟩ := List.forall_mem_cons.mp running
    exact (step_token here roomID).trans (ih later _)

/-- Within one process, no command below the token of an applied one is applied. -/
theorem applied_token_fences (s : Service) {roomID : String} {first second : Sync.Proto.SyncState} {now later : Time}
    (applies : Applies s roomID first now) {events : List Service.Event} (running : ∀ event ∈ events, event ≠ .restart)
    (again : Applies (run Service.step (s.step (.applySyncCommand roomID (some first) now)) events) roomID second later) :
    first.fencingToken ≤ second.fencingToken :=
  calc first.fencingToken
    _ = ((s.step (.applySyncCommand roomID (some first) now)).cache.room roomID).fencingToken := (applies_token applies).2.symm
    _ ≤ _ := run_token running _ roomID
    _ ≤ second.fencingToken := (applies_token again).1

/-- The state of a room at a token and an epoch. -/
def wireAt (fencingToken epoch : Nat) : Sync.Proto.SyncState :=
  ⟨"r1", none, .playing, 0, 0, 1, epoch, some "alice", fencingToken, 0⟩

theorem second_token_fenced : (wireAt 1 2).fencingToken ≤ (wireAt 1 3).fencingToken :=
  applied_token_fences (.new fun _ => none) (by decide +kernel : Applies _ "r1" (wireAt 1 2) 10)
    (by simp [announced] : ∀ event ∈ [announced screening], event ≠ .restart) (by decide +kernel : Applies _ "r1" (wireAt 1 3) 20)

/-- The service hears that the room reached a token: from an applied command, or
from an event of the sync service at that token. -/
def Learns (s : Service) (event : Service.Event) (roomID : String) (token : Nat) : Prop :=
  (∃ state now, event = .applySyncCommand roomID (some state) now ∧ Applies s roomID state now ∧ state.fencingToken = token) ∨
    ∃ cfg initial syncEvents, Announces (run Sync.RoomSync.step (Sync.newRoomSync cfg roomID initial) syncEvents) event ∧
      (run Sync.RoomSync.step (Sync.newRoomSync cfg roomID initial) syncEvents).state.fencingToken = token

def handover : List Sync.RoomSync.Event :=
  [⟨.heartbeat "bob" 0 1000 1000, 1000, 1000000000⟩, ⟨.tick .stored, 2000, 2000000000⟩]

/-- An event sent after the handover does not keep out a command from before it. -/
theorem announced_token_forgotten :
    ¬ ∀ (table : String → Option PlaybackRoom) (early : List Service.Event) (event : Service.Event) (roomID : String)
        (token : Nat), Learns (run Service.step (.new table) early) event roomID token →
          ∀ (late : List Service.Event) (state : Sync.Proto.SyncState) (now : Time),
            Applies (run Service.step ((run Service.step (.new table) early).step event) late) roomID state now →
              token ≤ state.fencingToken := by
  intro claim
  have learns : Learns (.new fun _ => none) (announced (run Sync.RoomSync.step screening handover)) "r1" 1 :=
    Or.inr ⟨{}, Sync.RoomManager.initState "r1" "alice", handover, ⟨"e1", 0, 0, 3000000000, rfl⟩, by decide +kernel⟩
  have fenced := claim (fun _ => none) [] _ "r1" 1 learns [] (wireAt 0 5) 4000000000 (by decide +kernel)
  exact absurd fenced (by decide)

end VibeSync.Proofs.PlaybackOrder