import VibeSync.Proofs.SyncSteps
import VibeSync.Hull
import VibeSync.Machine

/-! The smoothed estimates of a client. A filter that starts over whenever its value is
zero still blends only what was measured, so it never leaves the samples. -/

namespace VibeSync.Proofs.SyncSmoothing
open VibeSync.Sync VibeSync.Sync.RoomSync VibeSync.Sync.ClientHeartbeat VibeSync.Proofs.SyncSteps Hull

/-- The arguments of one call of `Update`. -/
structure Beat where
  t1 : Int64
  t2 : Int64
  t3 : Int64
  now : Time

def beat (c : ClientHeartbeat) (b : Beat) : ClientHeartbeat := c.update b.t1 b.t2 b.t3 b.now

/-- The round trip measured by two calls in a row; a negative one counts as none. -/
def rttSample (earlier later : Beat) : ℚ := max 0 (span later.t1 earlier.t1 - span earlier.t3 earlier.t2)

def offsetSample (earlier later : Beat) : ℚ := (span earlier.t2 earlier.t1 + span earlier.t3 later.t1) / 2

/-- What the calls of a run measure, each with the one before it. -/
def samples (measure : Beat → Beat → ℚ) (beats : List Beat) : List ℚ := List.zipWith measure beats beats.tail

theorem samples_concat (measure : Beat → Beat → ℚ) (passed : List Beat) (last next : Beat) :
    samples measure (passed ++ [last, next]) = samples measure (passed ++ [last]) ++ [measure last next] := by
  induction passed with
  | nil => rfl
  | cons first passed ih =>
    cases passed with
    | nil => rfl
    | cons second passed => exact congrArg (measure first second :: ·) ih

/-! One call. -/

/-- The entry remembers a call as its last one. -/
structure Remembers (c : ClientHeartbeat) (last : Beat) : Prop where
  known : c.hasPrev = true
  sent : c.prevT1 = last.t1
  received : c.prevT2 = last.t2
  answered : c.prevT3 = last.t3
  seen : c.lastSeen = last.now

theorem beat_remembers (c : ClientHeartbeat) (b : Beat) : Remembers (beat c b) b := by
  unfold beat update
  split
  next known => exact ⟨known, rfl, rfl, rfl, rfl⟩
  · exact ⟨rfl, rfl, rfl, rfl, rfl⟩

/-- The estimates lie within what the calls measured. -/
structure Inside (beats : List Beat) (c : ClientHeartbeat) : Prop where
  rtt : Between (samples rttSample beats) c.smoothedRTT
  offset : Between (samples offsetSample beats) c.smoothedOffset

theorem beat_smooths {c : ClientHeartbeat} {last : Beat} (remembers : Remembers c last) (next : Beat) :
    (beat c next).smoothedRTT =
        (if c.smoothedRTT = 0 then rttSample last next else ewmaAlpha * rttSample last next + (1 - ewmaAlpha) * c.smoothedRTT) ∧
      (beat c next).smoothedOffset =
        if c.smoothedRTT = 0 then offsetSample last next else ewmaAlpha * offsetSample last next + (1 - ewmaAlpha) * c.smoothedOffset := by
  obtain ⟨known, sent, received, answered, -⟩ := remembers
  have clamped : ∀ measured : ℚ, (if measured < 0 then 0 else measured) = max 0 measured := by
    intro measured
    split
    next negative => exact (max_eq_left negative.le).symm
    next nonneg => exact (max_eq_right (not_lt.mp nonneg)).symm
  unfold beat update
  rw [if_pos known]
  dsimp only
  rw [clamped, sent, received, answered]
  exact ⟨rfl, rfl⟩

/-- One round of the filter, whether it starts over or blends. -/
theorem filter_between {values : List ℚ} {x : ℚ} {restarts : Prop} [Decidable restarts] (kept : ¬ restarts → Between values x)
    (sample : ℚ) : Between (values ++ [sample]) (if restarts then sample else ewmaAlpha * sample + (1 - ewmaAlpha) * x) := by
  have new : Between (values ++ [sample]) sample := between_of_mem (List.mem_append_right _ (List.mem_singleton_self sample))
  split
  · exact new
  next blends =>
    apply new.blend
    · norm_num [ewmaAlpha]
    · norm_num [ewmaAlpha]
    · exact (kept blends).mono (List.subset_append_left _ _)

theorem beat_inside {c : ClientHeartbeat} {passed : List Beat} {last : Beat} (remembers : Remembers c last)
    (smoothed : c.smoothedRTT = 0 ∨ Inside (passed ++ [last]) c) (next : Beat) : Inside (passed ++ [last, next]) (beat c next) := by
  obtain ⟨rtt, offset⟩ := beat_smooths remembers next
  constructor
  · rw [rtt, samples_concat]
    exact filter_between (fun nonzero => (smoothed.resolve_left nonzero).rtt) _
  · rw [offset, samples_concat]
    exact filter_between (fun nonzero => (smoothed.resolve_left nonzero).offset) _

/-! Whole runs. -/

theorem run_inside {c : ClientHeartbeat} {passed : List Beat} {last : Beat} (remembers : Remembers c last)
    (smoothed : c.smoothedRTT = 0 ∨ Inside (passed ++ [last]) c) (next : Beat) (rest : List Beat) :
    Inside (passed ++ last :: next :: rest) (Machine.run beat c (next :: rest)) := by
  induction rest generalizing passed last c next with
  | nil => exact beat_inside remembers smoothed next
  | cons later rest ih =>
    have here := beat_inside remembers smoothed next
    rw [List.append_cons] at here
    have run := ih (beat_remembers c next) (Or.inr here) later
    rwa [← List.append_cons] at run

theorem run_remembers (c : ClientHeartbeat) {beats : List Beat} {last : Beat} (ends : beats.getLast? = some last) :
    Remembers (Machine.run beat c beats) last := by
  obtain ⟨passed, rfl⟩ := List.getLast?_eq_some_iff.mp ends
  rw [Machine.run_append]
  exact beat_remembers _ last

/-- A client of which nothing is known yet. -/
structure Unknown (c : ClientHeartbeat) : Prop where
  first : c.hasPrev = false
  unsmoothed : c.smoothedRTT = 0

theorem fresh_unknown : Unknown {} := ⟨rfl, rfl⟩

theorem reset_unknown (c : ClientHeartbeat) : Unknown c.reset := ⟨rfl, rfl⟩

theorem Unknown.run_inside {c : ClientHeartbeat} (unknown : Unknown c) {beats : List Beat} (several : 2 ≤ beats.length) :
    Inside beats (Machine.run beat c beats) := by
  obtain _ | ⟨first, _ | ⟨next, rest⟩⟩ := beats
  · cases several
  · exact absurd several (Nat.not_succ_le_self 1)
  · have unsmoothed : (beat c first).smoothedRTT = 0 := by
      unfold beat update
      rw [unknown.first]
      exact unknown.unsmoothed
    exact @SyncSmoothing.run_inside _ [] first (beat_remembers c first) (Or.inl unsmoothed) next rest

theorem samples_nonneg {beats : List Beat} : ∀ sample ∈ samples rttSample beats, 0 ≤ sample := by
  intro sample member
  rw [samples, ← List.map_uncurry_zip_eq_zipWith] at member
  obtain ⟨pair, -, rfl⟩ := List.mem_map.mp member
  exact le_max_left _ _

/-- The estimates of a client that is new or was reset stay within its samples. -/
theorem smoothed_within_samples {c : ClientHeartbeat} (started : c = {} ∨ ∃ old : ClientHeartbeat, c = old.reset) {beats : List Beat}
    (several : 2 ≤ beats.length) :
    0 ≤ (Machine.run beat c beats).smoothedRTT ∧
      Between (samples rttSample beats) (Machine.run beat c beats).smoothedRTT ∧
      Between (samples offsetSample beats) (Machine.run beat c beats).smoothedOffset ∧
      ∃ last, beats.getLast? = some last ∧ (Machine.run beat c beats).lastSeen = last.now := by
  have unknown : Unknown c := by
    obtain rfl | ⟨old, rfl⟩ := started
    · exact fresh_unknown
    · exact reset_unknown old
  obtain ⟨rtt, offset⟩ := unknown.run_inside several
  have present : beats ≠ [] := by
    rintro rfl
    cases several
  have ends := List.getLast?_eq_some_getLast present
  exact ⟨rtt.ge samples_nonneg, rtt, offset, _, ends, (run_remembers c ends).seen⟩

/-- The third beat comes late, and its samples are blended with those before. -/
def secondApart : List Beat := [⟨1000, 1010, 1011, 0⟩, ⟨2000, 2010, 2011, 1000000000⟩, ⟨3200, 3250, 3251, 2000000000⟩]

theorem secondApart_within :
    samples rttSample secondApart = [999, 1199] ∧ (Machine.run beat {} secondApart).smoothedRTT = 1049 ∧
      Between (samples rttSample secondApart) (Machine.run beat {} secondApart).smoothedRTT ∧
      Between (samples offsetSample secondApart) (Machine.run beat {} secondApart).smoothedOffset := by
  have within := smoothed_within_samples (Or.inl rfl) (by decide : 2 ≤ secondApart.length)
  exact ⟨by decide +kernel, by decide +kernel, within.2.1, within.2.2.1⟩

/-! Clients of a room. -/

/-- The call that a heartbeat of the client makes. -/
def call? (userID : String) (event : Event) : Option Beat :=
  match event.action with
  | .heartbeat sender _ wallTime t2 => if sender = userID then some ⟨wallTime, Int64.ofInt t2, Int64.ofInt event.nowMs, event.now⟩ else none
  | _ => none

/-- The entry of a client without the drift, which no later call reads. -/
def estimates (entry : Option ClientHeartbeat) : ClientHeartbeat := { entry.getD {} with driftMs := 0 }

theorem update_estimates (entry : Option ClientHeartbeat) (b : Beat) (driftMs : ℚ) :
    estimates (some { beat (entry.getD {}) b with driftMs }) = beat (estimates entry) b := by
  unfold estimates beat update
  rw [Option.getD_some]
  split <;> rfl

theorem step_estimates (rs : RoomSync) (userID : String) (event : Event) :
    estimates ((rs.step event).heartbeats.lookup userID) =
      Machine.run beat (estimates (rs.heartbeats.lookup userID)) (call? userID event).toList := by
  by_cases sent : sender? event = some userID
  · obtain ⟨action, nowMs, now⟩ := event
    cases action with
    | heartbeat sender mediaTime wallTime t2 =>
      obtain rfl : sender = userID := Option.some.inj sent
      have called : call? sender ⟨.heartbeat sender mediaTime wallTime t2, nowMs, now⟩ =
          some ⟨wallTime, Int64.ofInt t2, Int64.ofInt nowMs, now⟩ := if_pos rfl
      rw [called, Option.toList_some]
      simp only [step, processHeartbeat, AList.lookup_insert]
      exact update_estimates (rs.heartbeats.lookup sender) ⟨wallTime, Int64.ofInt t2, Int64.ofInt nowMs, now⟩ _
    | _ => cases sent
  · have silent : call? userID event = none := by
      unfold call?
      split
      next heartbeat =>
        apply if_neg
        rintro rfl
        exact sent (by rw [sender?, heartbeat])
      · rfl
    rw [other_tracks sent, silent]
    rfl

theorem run_estimates (rs : RoomSync) (userID : String) (events : List Event) :
    estimates ((Machine.run RoomSync.step rs events).heartbeats.lookup userID) =
      Machine.run beat (estimates (rs.heartbeats.lookup userID)) (events.filterMap (call? userID)) := by
  induction events generalizing rs with
  | nil => rfl
  | cons event rest ih =>
    rw [Machine.run_cons, ih, step_estimates, ← Machine.run_append]
    cases called : call? userID event with
    | none => rw [List.filterMap_cons_none called, Option.toList_none, List.nil_append]
    | some b => rw [List.filterMap_cons_some called, Option.toList_some, List.singleton_append]

/-- Whatever happens in a room, its estimates of a client stay within the client's samples. -/
theorem room_within_samples {rs : RoomSync} {userID : String} (new : rs.heartbeats.lookup userID = none) {events : List Event}
    (several : 2 ≤ (events.filterMap (call? userID)).length) :
    Inside (events.filterMap (call? userID)) (estimates ((Machine.run RoomSync.step rs events).heartbeats.lookup userID)) := by
  rw [run_estimates, new]
  exact Unknown.run_inside ⟨rfl, rfl⟩ several

end VibeSync.Proofs.SyncSmoothing
