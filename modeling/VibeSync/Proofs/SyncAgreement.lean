import VibeSync.Proofs.SyncLineage
import VibeSync.Sync.Client

/-! The server moves the position by the rate alone, the client by the rate while
the status is playing. They agree once a command has settled the two. -/

namespace VibeSync.Proofs.SyncAgreement
open VibeSync.Sync VibeSync.Sync.RoomSync VibeSync.Proofs.SyncSteps VibeSync.Proofs.SyncLineage

/-- Commands that set the status and the rate together. -/
def Settles (c : Command) : Prop :=
  c.kind = .play ∨ c.kind = .pause ∨ c.kind = .loadMedia ∨
    (c.kind = .setRate ∧ ∃ rate, c.rate = some rate ∧ RateInRange rate)

/-- The rate is positive while playing and zero otherwise. -/
def Settled (s : SyncState) : Prop :=
  (s.status = .playing ∧ 0 < s.playbackRate) ∨ (s.status = .paused ∧ s.playbackRate = 0)

/-- As a new room is: paused at rate one. -/
def Unsettled (s : SyncState) : Prop := s.status = .paused ∧ s.playbackRate = 1

theorem rateInRange_positive {rate : ℚ} (ranged : RateInRange rate) : 0 < rate :=
  lt_of_lt_of_le (by norm_num) ranged.1

theorem perform_settles {s : SyncState} {c : Command} (settles : Settles c) (rate : 0 ≤ s.playbackRate) :
    Settled (s.perform c) := by
  rcases settles with play | pause | load | ⟨setRate, chosen, given, ranged⟩
  · refine Or.inl ⟨by simp [SyncState.perform, play], ?_⟩
    simp only [SyncState.perform, play]
    split
    · exact one_pos
    next moving => exact lt_of_le_of_ne rate (Ne.symm moving)
  · exact Or.inr (by simp [SyncState.perform, pause])
  · exact Or.inr (by simp [SyncState.perform, load])
  · have positive := rateInRange_positive ranged
    exact Or.inl (by simp [SyncState.perform, setRate, given, ranged, positive])

theorem perform_keeps {s : SyncState} {c : Command} (idle : ¬ Settles c) :
    (s.perform c).status = s.status ∧ (s.perform c).playbackRate = s.playbackRate := by
  unfold SyncState.perform
  split
  next play => exact absurd (Or.inl play) idle
  next pause => exact absurd (Or.inr (Or.inl pause)) idle
  · split <;> exact ⟨rfl, rfl⟩
  next setRate =>
    split
    next rate given =>
      split
      next ranged => exact absurd (Or.inr (Or.inr (Or.inr ⟨setRate, rate, given, ranged⟩))) idle
      · exact ⟨rfl, rfl⟩
    · exact ⟨rfl, rfl⟩
  next load => exact absurd (Or.inr (Or.inr (Or.inl load))) idle
  all_goals exact ⟨rfl, rfl⟩

theorem Settled.rate {s : SyncState} (settled : Settled s) : 0 ≤ s.playbackRate := by
  rcases settled with ⟨_, positive⟩ | ⟨_, zero⟩
  · exact positive.le
  · exact zero.ge

theorem Unsettled.rate {s : SyncState} (unsettled : Unsettled s) : 0 ≤ s.playbackRate := by
  rw [unsettled.2]
  exact zero_le_one

/-- Where a lineage stands: settled by one of its commands, or still as created. -/
def Stands (commands : List Command) (s : SyncState) : Prop :=
  ((∃ c ∈ commands, Settles c) ∧ Settled s) ∨ ((∀ c ∈ commands, ¬ Settles c) ∧ Unsettled s)

theorem Stands.apply {commands : List Command} {s : SyncState} (stands : Stands commands s) (c : Command)
    (nowMs : Int) (now : Time) : Stands (commands ++ [c]) (s.applyCommand c nowMs now) := by
  have rate : 0 ≤ (s.resample nowMs).playbackRate := by
    rcases stands with ⟨_, settled⟩ | ⟨_, unsettled⟩
    · exact settled.rate
    · exact unsettled.rate
  by_cases settles : Settles c
  · exact Or.inl ⟨⟨c, by simp, settles⟩, perform_settles settles rate⟩
  obtain ⟨status, same⟩ := @perform_keeps (s.resample nowMs) c settles
  have kept : (s.applyCommand c nowMs now).status = s.status := status
  have unchanged : (s.applyCommand c nowMs now).playbackRate = s.playbackRate := same
  rcases stands with ⟨⟨earlier, member, done⟩, settled⟩ | ⟨none, unsettled⟩
  · refine Or.inl ⟨⟨earlier, by simp [member], done⟩, ?_⟩
    rwa [Settled, kept, unchanged]
  · refine Or.inr ⟨?_, ?_⟩
    · intro other member
      rcases List.mem_append.mp member with old | new
      · exact none other old
      · rw [List.mem_singleton.mp new]
        exact settles
    · rwa [Unsettled, kept, unchanged]

theorem Stands.halt {commands : List Command} {before after : SyncState} (stands : Stands commands before)
    (halts : Halts before after) : Stands commands after := by
  rcases halts with ⟨status, rate⟩ | ⟨playing, paused, zero⟩
  · rwa [Stands, Settled, Unsettled, status, rate]
  · rcases stands with ⟨done, _⟩ | ⟨_, unsettled⟩
    · exact Or.inl ⟨done, Or.inr ⟨paused, zero⟩⟩
    · rw [unsettled.1] at playing
      cases playing

theorem lineage_stands {cfg : SyncConfig} {commands : List Command} {rs : RoomSync} {clock : Int}
    (lineage : Lineage cfg commands rs clock) : Stands commands rs.state := by
  induction lineage with
  | fresh roomID started => exact Or.inr ⟨by simp, rfl, rfl⟩
  | init roomID ownerID started => exact Or.inr ⟨by simp, rfl, rfl⟩
  | restore lineage roomID updatedAt elapsed ih => exact ih
  | @step commands rs clock lineage event elapsed ih =>
    rcases step_playback rs event with ⟨c, only, same⟩ | ⟨none, halts, _⟩
    · rw [only, same]
      exact ih.apply c event.nowMs event.now
    · rw [none, List.append_nil]
      exact ih.halt halts

/-! The two projections. -/

theorem int64OfFloat_floor {x : ℚ} (nonneg : 0 ≤ x) : int64OfFloat x = Int64.ofInt ⌊x⌋ := by
  have numerator : 0 ≤ x.num := Rat.num_nonneg.mpr nonneg
  rw [int64OfFloat, Int.tdiv_eq_ediv_of_nonneg numerator, Rat.floor_def']

theorem add_int64OfFloat (position : Int64) {x : ℚ} (nonneg : 0 ≤ x) :
    position + int64OfFloat x = Int64.ofInt ⌊(position.toInt : ℚ) + x⌋ := by
  rw [int64OfFloat_floor nonneg, Int.floor_intCast_add, Int64.ofInt_add, Int64.ofInt_toInt]

theorem settled_projects {roomID : String} {s : SyncState} (settled : Settled s) (t : Int) :
    s.advanceMediaTime t = Int64.ofInt ⌊Client.advance (some (stateToProto roomID s)) t⌋ := by
  rcases settled with ⟨playing, positive⟩ | ⟨paused, zero⟩
  · have elapsed : ((if t - s.wallTimeMs < 0 then 0 else t - s.wallTimeMs : Int) : ℚ) = max 0 ((t : ℚ) - s.wallTimeMs) := by
      split
      next early =>
        have skewed : (t : ℚ) - s.wallTimeMs ≤ 0 := by exact_mod_cast early.le
        rw [max_eq_left skewed, Int.cast_zero]
      next later =>
        have forward : 0 ≤ (t : ℚ) - s.wallTimeMs := by exact_mod_cast not_lt.mp later
        rw [max_eq_right forward, Int.cast_sub]
    have nonneg : 0 ≤ max 0 ((t : ℚ) - s.wallTimeMs) * s.playbackRate := mul_nonneg (le_max_left _ _) positive.le
    simp only [SyncState.advanceMediaTime, Client.advance, Client.advanceMediaTime, stateToProto, playing,
      positive.ne', ↓reduceIte, elapsed]
    exact add_int64OfFloat s.mediaTimeMs nonneg
  · simp [SyncState.advanceMediaTime, Client.advance, Client.advanceMediaTime, stateToProto, paused, zero]

/-- Server and client agree on whether and how far the room has moved: a
heartbeat reports the projected position in whole milliseconds. -/
structure Agrees (rs : RoomSync) : Prop where
  still : rs.state.status ≠ .playing → rs.state.playbackRate = 0
  moving : rs.state.status = .playing → 0 < rs.state.playbackRate
  projected : ∀ userID clientMedia clientWall t2 t now,
    (rs.processHeartbeat userID clientMedia clientWall t2 t now).1.serverMediaTimeMs =
      Int64.ofInt ⌊Client.advance (some rs.wire) t⌋

theorem agrees_of_settled {rs : RoomSync} (settled : Settled rs.state) : Agrees rs := by
  refine ⟨?_, ?_, fun _ _ _ _ t _ => settled_projects settled t⟩
  · intro halted
    rcases settled with ⟨playing, _⟩ | ⟨_, zero⟩
    · exact absurd playing halted
    · exact zero
  · intro playing
    rcases settled with ⟨_, positive⟩ | ⟨paused, _⟩
    · exact positive
    · rw [paused] at playing
      cases playing

/-- A reachable room agrees with its clients exactly when a command has set its
status and rate since it was created; a new room is paused at rate one. -/
theorem agrees_iff_settled {cfg : SyncConfig} {commands : List Command} {rs : RoomSync} {clock : Int}
    (lineage : Lineage cfg commands rs clock) : Agrees rs ↔ ∃ c ∈ commands, Settles c := by
  rcases lineage_stands lineage with ⟨done, settled⟩ | ⟨none, paused, one⟩
  · exact ⟨fun _ => done, fun _ => agrees_of_settled settled⟩
  · refine ⟨fun agrees => ?_, fun ⟨c, member, settles⟩ => absurd settles (none c member)⟩
    have zero := agrees.still (by rw [paused]; decide)
    rw [one] at zero
    exact absurd zero one_ne_zero

def opened : RoomSync := newRoomSync {} "r1" (RoomManager.freshState "r1")

def playing : RoomSync := opened.step ⟨.command ⟨.play, none, none, ""⟩ 0, 1000, 1000000000⟩

theorem playing_agrees : Agrees playing := by
  have lineage : Lineage {} [⟨.play, none, none, ""⟩] playing 1000 :=
    .step (.fresh "r1" le_rfl) ⟨.command ⟨.play, none, none, ""⟩ 0, 1000, 1000000000⟩ (by decide)
  exact (agrees_iff_settled lineage).mpr ⟨⟨.play, none, none, ""⟩, by simp, Or.inl rfl⟩

/-- A second after a room is opened its first heartbeat reports that the paused
room has moved on. -/
theorem opened_room_disagrees :
    ¬ ∀ (cfg : SyncConfig) (commands : List Command) (rs : RoomSync) (clock : Int), Lineage cfg commands rs clock →
        Agrees rs := by
  intro claim
  have agrees := claim {} [] opened 0 (.fresh "r1" le_rfl)
  have projected := agrees.projected "bob" 0 1000 1000 1000 1000000000
  have server : (opened.processHeartbeat "bob" 0 1000 1000 1000 1000000000).1.serverMediaTimeMs = 1000 := by
    decide +kernel
  have client : Client.advance (some opened.wire) (1000 : Int) = 0 := by decide +kernel
  rw [server, client] at projected
  exact absurd projected (by decide +kernel)

end VibeSync.Proofs.SyncAgreement
