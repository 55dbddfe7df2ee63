import VibeSync.Proofs.SyncElection

/-! Which of the present peers an election chooses, for every order in which it
visits them, and who has been present for longest. -/

namespace VibeSync.Proofs.SyncSuccession
open VibeSync.Sync VibeSync.Sync.RoomSync Machine SyncSteps SyncElection BestScore

/-- The first and the last heartbeat of a client's current uninterrupted run. -/
def presence (timeout : Duration) (userID : String) (events : List Event) : Option (Time × Time) :=
  events.foldl (fun current event =>
    if sender? event = some userID then
      match current with
      | some (first, last) => if event.now - last < timeout then some (first, event.now) else some (event.now, event.now)
      | none => some (event.now, event.now)
    else current) none

def presentSince (cfg : SyncConfig) (events : List Event) (userID : String) : Option Time :=
  (presence cfg.timeout userID events).map Prod.fst

def Eligible (rs : RoomSync) (now : Time) (excludeID userID : String) : Prop := userID ≠ excludeID ∧ rs.isPresent userID now

def LongestPresent (rs : RoomSync) (events : List Event) (now : Time) (excludeID userID : String) : Prop :=
  Eligible rs now excludeID userID ∧ ∃ first, presentSince rs.cfg events userID = some first ∧
    ∀ other later, Eligible rs now excludeID other → presentSince rs.cfg events other = some later → first ≤ later

/-- Every order of iteration chooses the same peer, the one present for longest. -/
def ChoosesLongest (rs : RoomSync) (events : List Event) (now : Time) (excludeID : String) : Prop :=
  (∀ userID, ¬ Eligible rs now excludeID userID) ∧ (∀ order, rs.selectSuccessorLocked now excludeID order = "") ∨
    ∃ userID, LongestPresent rs events now excludeID userID ∧
      ∀ order, rs.selectSuccessorLocked now excludeID order = userID

def SeenEarlier (rs : RoomSync) (userID other : String) : Prop :=
  ∃ hb hb', rs.heartbeats.lookup userID = some hb ∧ rs.heartbeats.lookup other = some hb' ∧ hb.lastSeen < hb'.lastSeen

/-- Nobody is eligible, or the peer present for longest is also the one whose
latest heartbeat is the oldest, with no tie and not at this very moment. -/
def ClearChoice (rs : RoomSync) (events : List Event) (now : Time) (excludeID : String) : Prop :=
  (∀ userID, ¬ Eligible rs now excludeID userID) ∨
    ∃ userID, LongestPresent rs events now excludeID userID ∧ SeenBefore rs userID now ∧
      ∀ other, Eligible rs now excludeID other → other ≠ userID → SeenEarlier rs userID other

theorem eligible_iff {rs : RoomSync} {now : Time} {excludeID userID : String} :
    Eligible rs now excludeID userID ↔ ∃ seen, candidacy rs now excludeID userID = some seen := by
  unfold Eligible
  simp only [isPresent_iff, candidacy_eq_some]
  constructor
  · rintro ⟨other, hb, found, alive⟩
    exact ⟨hb.lastSeen, other, hb, found, alive, rfl⟩
  · rintro ⟨_, other, hb, found, alive, _⟩
    exact ⟨other, hb, found, alive⟩

/-- The order that begins with the given key. -/
def startingWith (key : String) : MapOrder where
  visit keys := if key ∈ keys then key :: keys.erase key else keys
  perm keys := by
    split
    next member => exact (List.perm_cons_erase member).symm
    · exact .refl keys

/-- A candidate that nobody precedes is chosen when it is visited first. -/
theorem selectSuccessor_startingWith {rs : RoomSync} {now : Time} {excludeID userID : String} {seen : Time}
    (stands : candidacy rs now excludeID userID = some seen) (early : seen < now)
    (oldest : ∀ other later, candidacy rs now excludeID other = some later → seen ≤ later) :
    rs.selectSuccessorLocked now excludeID (startingWith userID) = userID := by
  have member : userID ∈ rs.heartbeats.keys := ((startingWith userID).perm _).mem_iff.mp (mem_visit _ stands)
  have taken : better (candidacy rs now excludeID) (now, "") userID = (seen, userID) := by
    simp only [better, stands, if_pos early]
  unfold selectSuccessorLocked
  rw [consider_eq_better, startingWith]
  simp only [if_pos member, List.foldl_cons, taken]
  rw [scan_of_least fun other _ later stands => oldest other later stands]

theorem candidacy_seen {rs : RoomSync} {now : Time} {excludeID userID : String} {seen : Time} {hb : ClientHeartbeat}
    (stands : candidacy rs now excludeID userID = some seen) (found : rs.heartbeats.lookup userID = some hb) :
    hb.lastSeen = seen := by
  obtain ⟨_, hb', found', _, same⟩ := candidacy_eq_some.mp stands
  rw [found] at found'
  exact Option.some.inj found' ▸ same

theorem clear_of_choosesLongest {rs : RoomSync} (attended : Attended rs) {events : List Event} {now : Time}
    {excludeID : String} (chooses : ChoosesLongest rs events now excludeID) : ClearChoice rs events now excludeID := by
  obtain ⟨nobody, _⟩ | ⟨userID, longest, chosen⟩ := chooses
  · exact Or.inl nobody
  refine Or.inr ⟨userID, longest, ?_⟩
  have selected := selectSuccessor_selected rs now excludeID .stored
  rw [chosen .stored] at selected
  cases selected with
  | nobody => exact absurd longest.1.2 (attended.nobody now)
  | peer _ seen stands early oldest =>
    obtain ⟨_, hb, found, _, rfl⟩ := candidacy_eq_some.mp stands
    refine ⟨⟨hb, found, early⟩, fun other eligible different => ?_⟩
    obtain ⟨later, stands'⟩ := eligible_iff.mp eligible
    obtain ⟨_, hb', found', _, rfl⟩ := candidacy_eq_some.mp stands'
    refine ⟨hb, hb', found, found', lt_of_le_of_ne (oldest other _ stands') fun tie => different ?_⟩
    rw [← chosen (startingWith other)]
    exact (selectSuccessor_startingWith stands' (tie ▸ early) (tie ▸ oldest)).symm

theorem choosesLongest_of_clear {rs : RoomSync} {events : List Event} {now : Time} {excludeID : String}
    (clear : ClearChoice rs events now excludeID) : ChoosesLongest rs events now excludeID := by
  obtain nobody | ⟨userID, longest, ⟨hb, found, early⟩, first⟩ := clear
  · refine Or.inl ⟨nobody, fun order => ?_⟩
    have selected := selectSuccessor_selected rs now excludeID order
    generalize rs.selectSuccessorLocked now excludeID order = successor at selected
    cases selected with
    | nobody => rfl
    | peer _ seen stands => exact absurd (eligible_iff.mpr ⟨seen, stands⟩) (nobody successor)
  · refine Or.inr ⟨userID, longest, fun order => ?_⟩
    obtain ⟨seen, stands⟩ := eligible_iff.mp longest.1
    obtain rfl := candidacy_seen stands found
    have selected := selectSuccessor_selected rs now excludeID order
    generalize rs.selectSuccessorLocked now excludeID order = successor at selected
    cases selected with
    | nobody late => exact absurd (late userID _ stands) (not_le.mpr early)
    | peer _ seen stands' early' oldest =>
      by_contra different
      obtain ⟨hb', hb'', found', found'', earlier⟩ := first successor (eligible_iff.mpr ⟨seen, stands'⟩) different
      obtain rfl : hb = hb' := Option.some.inj (found.symm.trans found')
      obtain rfl := candidacy_seen stands' found''
      exact absurd (oldest userID _ stands) (not_le.mpr earlier)

/-- The election goes by the latest heartbeat, so it follows presence exactly when
the two agree on one peer. -/
theorem successor_longest_iff (cfg : SyncConfig) (roomID : String) (initial : SyncState) {events : List Event}
    (named : ∀ event ∈ events, Named event) (now : Time) (excludeID : String) :
    ChoosesLongest (drive cfg roomID initial events) events now excludeID ↔
      ClearChoice (drive cfg roomID initial events) events now excludeID :=
  ⟨clear_of_choosesLongest (attended_drive cfg roomID initial named), choosesLongest_of_clear⟩

/-- `bob` is there from the start; `carol` joins later and was heard a little less recently. -/
def newcomer : List Event :=
  [⟨.heartbeat "bob" 0 1000 1000, 1000, 1000000000⟩, ⟨.heartbeat "carol" 0 2000 2000, 2000, 2000000000⟩,
    ⟨.heartbeat "bob" 0 3000 3000, 3000, 3000000000⟩]

theorem lone_guest_succeeds :
    ChoosesLongest (drive {} "r1" (RoomManager.initState "r1" "alice") standIn) standIn 3000000000 "alice" := by
  refine (successor_longest_iff {} "r1" (RoomManager.initState "r1" "alice") (by decide) 3000000000 "alice").mpr (Or.inr ?_)
  have only : ∀ other, Eligible (drive {} "r1" (RoomManager.initState "r1" "alice") standIn) 3000000000 "alice" other →
      other = "bob" := by
    rintro other ⟨_, present⟩
    obtain ⟨hb, found, _⟩ := isPresent_iff.mp present
    have keys : (drive {} "r1" (RoomManager.initState "r1" "alice") standIn).heartbeats.keys = ["bob"] := by decide +kernel
    have member : other ∈ (drive {} "r1" (RoomManager.initState "r1" "alice") standIn).heartbeats.keys := by
      rw [← AList.mem_keys, ← AList.lookup_isSome, found]
      rfl
    simpa [keys] using member
  refine ⟨"bob", ⟨⟨by decide, by decide +kernel⟩, 1000000000, by decide +kernel, ?_⟩, ?_, ?_⟩
  · intro other later eligible since
    obtain rfl := only other eligible
    exact Option.some.inj ((by decide +kernel : some (1000000000 : Time) = _).trans since) |>.le
  · exact ⟨_, rfl, by decide +kernel⟩
  · exact fun other eligible different => absurd (only other eligible) different

theorem newcomer_overtakes :
    ¬ ∀ (cfg : SyncConfig) (roomID : String) (initial : SyncState) (events : List Event),
        (∀ event ∈ events, Named event) → ∀ (now : Time) (excludeID : String),
          ChoosesLongest (drive cfg roomID initial events) events now excludeID := by
  intro claim
  have chosen : (drive {} "r1" (RoomManager.initState "r1" "alice") newcomer).selectSuccessorLocked 4000000000 "alice" .stored =
      "carol" := by decide +kernel
  obtain ⟨nobody, _⟩ | ⟨userID, ⟨_, first, since, longest⟩, same⟩ :=
    claim {} "r1" (RoomManager.initState "r1" "alice") newcomer (by decide) 4000000000 "alice"
  · exact nobody "bob" ⟨by decide, by decide +kernel⟩
  · obtain rfl : "carol" = userID := chosen.symm.trans (same .stored)
    have carol : presentSince {} newcomer "carol" = some 2000000000 := by decide +kernel
    obtain rfl : (2000000000 : Time) = first := Option.some.inj (carol.symm.trans since)
    have bob := longest "bob" 1000000000 ⟨by decide, by decide +kernel⟩ (by decide +kernel)
    exact absurd bob (by decide)

end VibeSync.Proofs.SyncSuccession
