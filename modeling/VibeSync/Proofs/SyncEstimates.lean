import VibeSync.Proofs.SyncPositions

/-! The four-timestamp estimates of a client on an ideal connection. An exchange
is closed by the client's next heartbeat, so its idle time counts as travel. -/

namespace VibeSync.Proofs.SyncEstimates
open VibeSync.Sync VibeSync.Sync.RoomSync VibeSync.Proofs.SyncSteps VibeSync.Proofs.SyncPositions

/-- A connection without jitter to a client that beats at a fixed interval. The
offset is the server's clock minus the client's. -/
structure Link where
  start : Int
  interval : Int
  processing : Int
  delay : ℚ
  offset : ℚ
  /-- The server's clock on arrival minus the client's on sending. -/
  arrival : Int
  arrives : (arrival : ℚ) = offset + delay
  delay_nonneg : 0 ≤ delay
  processing_nonneg : 0 ≤ processing
  paced : 2 * delay + processing < interval
  fits : |arrival| + processing + interval < 2 ^ 63

namespace Link

def sends (link : Link) (k : Nat) : Int := link.start + k * link.interval

def receives (link : Link) (k : Nat) : Int := link.sends k + link.arrival

def answers (link : Link) (k : Nat) : Int := link.receives k + link.processing

/-- The estimated offset: half of the client's idle time is taken for its clock. -/
def estimate (link : Link) : ℚ := link.offset - (link.interval - 2 * link.delay - link.processing) / 2

theorem outlasts (link : Link) : link.processing < link.interval := by
  have paced : (link.processing : ℚ) < link.interval := by linarith [link.paced, link.delay_nonneg]
  exact_mod_cast paced

theorem sends_succ (link : Link) (k : Nat) : link.sends (k + 1) = link.sends k + link.interval := by
  rw [sends, sends, Nat.cast_succ]
  ring

end Link

theorem span_ofInt {later earlier : Int} (least : -2 ^ 63 ≤ later - earlier) (most : later - earlier < 2 ^ 63) :
    ClientHeartbeat.span (Int64.ofInt later) (Int64.ofInt earlier) = later - earlier := by
  rw [ClientHeartbeat.span, ← Int64.ofInt_sub, Int64.toInt_ofInt_of_le least most]
  push_cast
  rfl

/-! One heartbeat. -/

/-- The last exchange the entry keeps is the one numbered `k`. -/
structure Exchanged (link : Link) (k : Nat) (c : ClientHeartbeat) : Prop where
  known : c.hasPrev
  sent : c.prevT1 = Int64.ofInt (link.sends k)
  received : c.prevT2 = Int64.ofInt (link.receives k)
  answered : c.prevT3 = Int64.ofInt (link.answers k)

structure Estimated (link : Link) (c : ClientHeartbeat) : Prop where
  rtt : c.smoothedRTT = link.interval - link.processing
  offset : c.smoothedOffset = link.estimate

def beat (link : Link) (k : Nat) (now : Time) (c : ClientHeartbeat) : ClientHeartbeat :=
  c.update (Int64.ofInt (link.sends k)) (Int64.ofInt (link.receives k)) (Int64.ofInt (link.answers k)) now

theorem beat_exchanged (link : Link) (k : Nat) (now : Time) (c : ClientHeartbeat) : Exchanged link k (beat link k now c) := by
  unfold beat ClientHeartbeat.update
  split
  next known => exact ⟨known, rfl, rfl, rfl⟩
  · exact ⟨rfl, rfl, rfl, rfl⟩

/-- The next heartbeat closes the exchange with its own sending time. -/
theorem Exchanged.measures {link : Link} {k : Nat} {c : ClientHeartbeat} (exchanged : Exchanged link k c) :
    ClientHeartbeat.span (Int64.ofInt (link.sends (k + 1))) c.prevT1 - ClientHeartbeat.span c.prevT3 c.prevT2 =
        link.interval - link.processing ∧
      (ClientHeartbeat.span c.prevT2 c.prevT1 + ClientHeartbeat.span c.prevT3 (Int64.ofInt (link.sends (k + 1)))) / 2 =
        link.estimate := by
  have fits := link.fits
  have outlasts := link.outlasts
  have processing := link.processing_nonneg
  have bounds := abs_le.mp (le_refl |link.arrival|)
  have next := link.sends_succ k
  rw [exchanged.sent, exchanged.received, exchanged.answered]
  simp only [Link.answers, Link.receives]
  rw [span_ofInt (by omega) (by omega), span_ofInt (by omega) (by omega), span_ofInt (by omega) (by omega),
    span_ofInt (by omega) (by omega), next, Link.estimate]
  push_cast
  rw [link.arrives]
  constructor <;> ring

theorem Exchanged.estimates {link : Link} {k : Nat} {c : ClientHeartbeat} (exchanged : Exchanged link k c) (now : Time)
    (consistent : c.smoothedRTT = 0 ∨ Estimated link c) : Estimated link (beat link (k + 1) now c) := by
  obtain ⟨rtt, offset⟩ := exchanged.measures
  have positive : ¬ (link.interval - link.processing : ℚ) < 0 := by
    have outlasts : (link.processing : ℚ) < link.interval := by exact_mod_cast link.outlasts
    linarith
  simp only [beat, ClientHeartbeat.update, exchanged.known, ↓reduceIte, rtt, offset, if_neg positive]
  rcases consistent with first | estimated
  · exact ⟨if_pos first, if_pos first⟩
  · refine ⟨?_, ?_⟩
    · dsimp only
      split
      · rfl
      · rw [estimated.rtt]
        ring
    · dsimp only
      split
      · rfl
      · rw [estimated.offset]
        ring

/-! Whole runs of a room. -/

/-- What a room knows of a client that has sent `k` heartbeats. -/
def Tracks (link : Link) : Nat → Option ClientHeartbeat → Prop
  | 0, entry => entry = none
  | 1, entry => ∃ c, entry = some c ∧ Exchanged link 0 c ∧ c.smoothedRTT = 0
  | k + 2, entry => ∃ c, entry = some c ∧ Exchanged link (k + 1) c ∧ Estimated link c

theorem Tracks.beat {link : Link} {k : Nat} {entry : Option ClientHeartbeat} (tracks : Tracks link k entry) (now : Time)
    (driftMs : ℚ) : Tracks link (k + 1) (some { SyncEstimates.beat link k now (entry.getD {}) with driftMs }) := by
  rcases k with _ | _ | k
  · obtain rfl : entry = none := tracks
    exact ⟨_, rfl, ⟨rfl, rfl, rfl, rfl⟩, rfl⟩
  · obtain ⟨c, rfl, exchanged, unsmoothed⟩ := tracks
    have later := beat_exchanged link 1 now c
    have estimated := exchanged.estimates now (Or.inl unsmoothed)
    exact ⟨_, rfl, ⟨later.known, later.sent, later.received, later.answered⟩, estimated.rtt, estimated.offset⟩
  · obtain ⟨c, rfl, exchanged, smoothed⟩ := tracks
    have later := beat_exchanged link (k + 2) now c
    have estimated := exchanged.estimates now (Or.inr smoothed)
    exact ⟨_, rfl, ⟨later.known, later.sent, later.received, later.answered⟩, estimated.rtt, estimated.offset⟩

/-- The heartbeat numbered `k`, with any position. -/
def Carries (link : Link) (k : Nat) (event : Event) : Prop :=
  match event.action with
  | .heartbeat _ _ wallTime t2 =>
    wallTime = Int64.ofInt (link.sends k) ∧ t2 = link.receives k ∧ event.nowMs = link.answers k
  | _ => False

/-- The heartbeats of the client come in over the link, numbered from `k`; anything
else may happen between them. -/
def Over (link : Link) (userID : String) : Nat → List Event → Prop
  | _, [] => True
  | k, event :: rest =>
    if sender? event = some userID then Carries link k event ∧ Over link userID (k + 1) rest else Over link userID k rest

/-- How many heartbeats the client has sent. -/
def beats (userID : String) (events : List Event) : Nat := events.countP fun event => sender? event = some userID

theorem heartbeat_tracks {link : Link} {k : Nat} {rs : RoomSync} {userID : String}
    (tracks : Tracks link k (rs.heartbeats.lookup userID)) {event : Event} (sent : sender? event = some userID)
    (carries : Carries link k event) : Tracks link (k + 1) ((rs.step event).heartbeats.lookup userID) := by
  obtain ⟨action, t, now⟩ := event
  cases action with
  | heartbeat sender mediaTime wallTime t2 =>
    obtain rfl : sender = userID := Option.some.inj sent
    obtain ⟨rfl, rfl, rfl⟩ := carries
    simp only [step, processHeartbeat, AList.lookup_insert]
    exact tracks.beat now _
  | _ => exact carries.elim

theorem run_tracks {link : Link} {k : Nat} {rs : RoomSync} {userID : String}
    (tracks : Tracks link k (rs.heartbeats.lookup userID)) {events : List Event} (carried : Over link userID k events) :
    Tracks link (k + beats userID events) ((Machine.run RoomSync.step rs events).heartbeats.lookup userID) := by
  induction events generalizing k rs with
  | nil => exact tracks
  | cons event rest ih =>
    rw [Over] at carried
    by_cases sent : sender? event = some userID
    · rw [if_pos sent] at carried
      have later := ih (heartbeat_tracks tracks sent carried.1) carried.2
      rwa [beats, List.countP_cons_of_pos (by simpa using sent), ← beats, ← Nat.add_assoc, Nat.add_right_comm]
    · rw [if_neg sent] at carried
      rw [beats, List.countP_cons_of_neg (by simpa using sent), ← beats]
      apply ih _ carried
      rwa [other_tracks sent]

/-! The reported drift. -/

/-- The client reports the authoritative position at the moment of sending, and
the room has not been sampled since. -/
structure Reports (link : Link) (k : Nat) (s : SyncState) (reported : Int64) : Prop where
  sampled : (s.wallTimeMs : ℚ) ≤ link.sends k + link.offset
  forwards : 0 ≤ s.playbackRate
  fits : Fits s (link.answers k)
  position : reported.toInt = s.mediaTimeMs.toInt + ⌊(link.sends k + link.offset - s.wallTimeMs) * s.playbackRate⌋

theorem Reports.ordered {link : Link} {k : Nat} {s : SyncState} {reported : Int64} (reports : Reports link k s reported) :
    s.wallTimeMs ≤ link.answers k := by
  have processing : (0 : ℚ) ≤ link.processing := by exact_mod_cast link.processing_nonneg
  have later : (s.wallTimeMs : ℚ) ≤ link.answers k := by
    rw [Link.answers, Link.receives]
    push_cast
    linarith [reports.sampled, link.arrives, link.delay_nonneg]
  exact_mod_cast later

/-- The room plays on for the delay and the processing; each position is rounded. -/
theorem Reports.gap {link : Link} {k : Nat} {s : SyncState} {reported : Int64} (reports : Reports link k s reported) :
    |(reported.toInt : ℚ) - (s.advanceMediaTime (link.answers k)).toInt +
      (link.delay + link.processing) * s.playbackRate| < 1 := by
  have rounded := advance_toInt reports.ordered reports.forwards reports.fits
  have apart : ((link.answers k - s.wallTimeMs : Int) : ℚ) * s.playbackRate =
      (link.sends k + link.offset - s.wallTimeMs) * s.playbackRate + (link.delay + link.processing) * s.playbackRate := by
    rw [Link.answers, Link.receives]
    push_cast
    rw [link.arrives]
    ring
  rw [rounded, reports.position, whole, apart]
  push_cast
  have left := Int.floor_le ((link.sends k + link.offset - s.wallTimeMs) * s.playbackRate)
  have leftAbove := Int.lt_floor_add_one ((link.sends k + link.offset - s.wallTimeMs) * s.playbackRate)
  have right := Int.floor_le ((link.sends k + link.offset - s.wallTimeMs) * s.playbackRate +
    (link.delay + link.processing) * s.playbackRate)
  have rightAbove := Int.lt_floor_add_one ((link.sends k + link.offset - s.wallTimeMs) * s.playbackRate +
    (link.delay + link.processing) * s.playbackRate)
  rw [abs_lt]
  constructor <;> linarith

/-- The heartbeat of a client that reports where the room is. -/
def arrival (link : Link) (userID : String) (k : Nat) (reported : Int64) (now : Time) : Event :=
  ⟨.heartbeat userID reported (Int64.ofInt (link.sends k)) (link.receives k), link.answers k, now⟩

theorem Tracks.estimated {link : Link} {k : Nat} {entry : Option ClientHeartbeat} (tracks : Tracks link k entry)
    (again : 2 ≤ k) : ∃ hb, entry = some hb ∧ Estimated link hb := by
  obtain ⟨earlier, rfl⟩ := Nat.exists_eq_add_of_le' again
  obtain ⟨c, known, -, estimated⟩ := tracks
  exact ⟨c, known, estimated⟩

/-- From the second heartbeat on, the estimates are those of an exchange that ends
with the next heartbeat, and a client that reports where the room is is told the
estimated offset for its drift, less what is played until the answer. -/
theorem estimates_of_ideal (link : Link) (userID : String) (rs : RoomSync) (new : rs.heartbeats.lookup userID = none)
    (events : List Event) (carried : Over link userID 0 events) :
    (2 ≤ beats userID events → ∃ hb, (Machine.run RoomSync.step rs events).heartbeats.lookup userID = some hb ∧
        hb.smoothedRTT = link.interval - link.processing ∧
          hb.smoothedOffset = link.offset - (link.interval - 2 * link.delay - link.processing) / 2) ∧
      (1 ≤ beats userID events → ∀ (reported : Int64) (now : Time),
        Reports link (beats userID events) (Machine.run RoomSync.step rs events).state reported →
          ∃ driftMs : ℚ, ((Machine.run RoomSync.step rs events).processHeartbeat userID reported
              (Int64.ofInt (link.sends (beats userID events))) (link.receives (beats userID events))
              (link.answers (beats userID events)) now).1.clientDriftMs = clampInt32 driftMs ∧
            |driftMs - (link.offset - (link.interval - 2 * link.delay - link.processing) / 2 -
              (link.delay + link.processing) * (Machine.run RoomSync.step rs events).state.playbackRate)| < 1) := by
  have tracks := @run_tracks link 0 rs userID new events carried
  rw [Nat.zero_add] at tracks
  constructor
  · intro again
    obtain ⟨hb, known, estimated⟩ := tracks.estimated again
    exact ⟨hb, known, estimated.rtt, estimated.offset⟩
  · intro before reported now reports
    obtain ⟨seen, known, estimated⟩ := (tracks.beat now 0).estimated (Nat.succ_le_succ before)
    have offset := estimated.offset
    rw [← Option.some.inj known] at offset
    refine ⟨_, rfl, ?_⟩
    have gap := reports.gap
    rw [abs_lt] at gap ⊢
    rw [ClientHeartbeat.clientMediaTimeAt]
    change _ = link.estimate at offset
    simp only [beat] at offset
    rw [offset, Link.estimate]
    constructor <;> linarith [gap.1, gap.2]

/-! A client one second apart from a server with the same clock. -/

def steady : Link where
  start := 1000
  interval := 1000
  processing := 1
  delay := 10
  offset := 0
  arrival := 10
  arrives := by norm_num
  delay_nonneg := by norm_num
  processing_nonneg := by norm_num
  paced := by norm_num
  fits := by norm_num

def lobby : RoomSync := newRoomSync {} "r1" (RoomManager.initState "r1" "alice")

/-- The owner starts the media, and twice the client reports where the room is. -/
def twoBeats : List Event :=
  [⟨.command ⟨.play, none, none, ""⟩ 0, 500, 500000000⟩, arrival steady "bob" 0 500 1000000000,
    arrival steady "bob" 1 1500 2000000000]

theorem twoBeats_over : Over steady "bob" 0 twoBeats := by
  simp [Over, twoBeats, arrival, sender?, Carries]

theorem twoBeats_reports : Reports steady 2 (Machine.run RoomSync.step lobby twoBeats).state 2500 := by
  refine ⟨by decide +kernel, by decide +kernel, ?_, by decide +kernel⟩
  unfold Fits
  decide +kernel

theorem steady_estimates :
    (∃ hb, (Machine.run RoomSync.step lobby twoBeats).heartbeats.lookup "bob" = some hb ∧
        hb.smoothedRTT = 999 ∧ hb.smoothedOffset = -979 / 2) ∧
      ∃ driftMs : ℚ, ((Machine.run RoomSync.step lobby twoBeats).processHeartbeat "bob" 2500 3000 3010 3011
          3000000000).1.clientDriftMs = clampInt32 driftMs ∧ |driftMs + 1001 / 2| < 1 := by
  obtain ⟨estimates, drifts⟩ := estimates_of_ideal steady "bob" lobby rfl twoBeats twoBeats_over
  obtain ⟨hb, known, rtt, offset⟩ := estimates (by decide)
  obtain ⟨driftMs, told, near⟩ := drifts (by decide) 2500 3000000000 twoBeats_reports
  refine ⟨⟨hb, known, rtt.trans ?_, offset.trans ?_⟩, driftMs, told, ?_⟩
  · decide +kernel
  · decide +kernel
  · have value : (steady.offset - (steady.interval - 2 * steady.delay - steady.processing) / 2 -
        (steady.delay + steady.processing) * (Machine.run RoomSync.step lobby twoBeats).state.playbackRate) = -(1001 / 2) := by
      decide +kernel
    rwa [value, sub_neg_eq_add] at near

/-- Neither the delay nor the offset is what the estimates settle on. -/
theorem estimates_count_idle :
    ¬ ∀ (link : Link) (userID : String) (rs : RoomSync), rs.heartbeats.lookup userID = none → ∀ events : List Event,
        Over link userID 0 events → 2 ≤ beats userID events →
          ∃ hb, (Machine.run RoomSync.step rs events).heartbeats.lookup userID = some hb ∧
            hb.smoothedRTT = 2 * link.delay ∧ hb.smoothedOffset = link.offset := by
  intro claim
  obtain ⟨hb, known, rtt, -⟩ := claim steady "bob" lobby rfl twoBeats twoBeats_over (by decide)
  cases known
  exact absurd rtt (by decide +kernel)

end VibeSync.Proofs.SyncEstimates
