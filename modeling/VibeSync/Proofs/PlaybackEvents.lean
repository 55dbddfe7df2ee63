import VibeSync.Playback.Service
import VibeSync.Sync.Service

/-! What a `sync.updated.v1` event carries from the sync service's state of a room
to the playback service's copy of it. -/

namespace VibeSync.Proofs.PlaybackEvents
open VibeSync.Playback VibeSync.Sync

/-- The copy agrees with the state on what the event carries. -/
structure Carried (s : SyncState) (r : PlaybackRoom) : Prop where
  status : r.status = Int16.ofInt s.status.number
  mediaTime : r.mediaTimeMs = s.mediaTimeMs
  wallTime : r.wallTimeMs = s.wallTimeMs
  rate : r.playbackRate = s.playbackRate
  epoch : r.epoch = s.epoch
  host : r.hostID = s.hostID

/-- The copy agrees with the state on every field the two have. -/
structure Mirrors (s : SyncState) (r : PlaybackRoom) : Prop extends Carried s r where
  media : r.mediaID = s.mediaID
  token : r.fencingToken = s.fencingToken

theorem idOrNone_getD (id : String) : (RoomSync.idOrNone id).getD "" = id := by
  unfold RoomSync.idOrNone
  split
  next empty => exact empty.symm
  · rfl

/-- The event as the consumer reads it. -/
def received (rs : RoomSync) (snapshot : Proto.SyncSnapshot) : SyncUpdatedV1 :=
  { roomID := rs.roomID, epoch := snapshot.state.epoch, status := snapshot.state.status.number,
    mediaTime := snapshot.state.mediaTimeMs, wallTime := snapshot.state.wallTimeMs, rate := snapshot.state.playbackRate,
    hostID := snapshot.state.hostID.getD "", driftMs := snapshot.driftEstimateMs, peers := snapshot.activePeers }

/-- The fields of the event hold the values of the snapshot. -/
structure Fits (snapshot : Proto.SyncSnapshot) : Prop where
  epoch : snapshot.state.epoch < 2 ^ 64
  wallTime : -2 ^ 63 ≤ snapshot.state.wallTimeMs ∧ snapshot.state.wallTimeMs < 2 ^ 63
  drift : -2 ^ 31 ≤ snapshot.driftEstimateMs ∧ snapshot.driftEstimateMs < 2 ^ 31
  peers : snapshot.activePeers < 2 ^ 32

instance (snapshot : Proto.SyncSnapshot) : Decidable (Fits snapshot) :=
  decidable_of_iff
    (snapshot.state.epoch < 2 ^ 64 ∧ (-2 ^ 63 ≤ snapshot.state.wallTimeMs ∧ snapshot.state.wallTimeMs < 2 ^ 63) ∧
      (-2 ^ 31 ≤ snapshot.driftEstimateMs ∧ snapshot.driftEstimateMs < 2 ^ 31) ∧ snapshot.activePeers < 2 ^ 32)
    ⟨fun ⟨epoch, wallTime, drift, peers⟩ => ⟨epoch, wallTime, drift, peers⟩,
      fun fits => ⟨fits.epoch, fits.wallTime, fits.drift, fits.peers⟩⟩

theorem number_bounds (status : PlaybackStatus) : -2 ^ 63 ≤ status.number ∧ status.number < 2 ^ 63 := by
  cases status <;> decide

/-- What a snapshot says is read as it was written, or not at all. -/
theorem decode_payload (rs : RoomSync) (snapshot : Proto.SyncSnapshot) :
    SyncUpdatedV1.decode (rs.syncUpdatedPayload snapshot) = if Fits snapshot then some (received rs snapshot) else none := by
  generalize sent : rs.syncUpdatedPayload snapshot = payload
  have room : payload.text "room_id" = some rs.roomID := JsonObject.text_of_lookup (by subst sent; rfl)
  have epoch := @JsonObject.unsigned_of_lookup payload "epoch" snapshot.state.epoch (by subst sent; rfl) 64
  have status := @JsonObject.signed_of_lookup payload "status" snapshot.state.status.number (by subst sent; rfl) 64
  have mediaTime : payload.int64 "media_time" = some snapshot.state.mediaTimeMs :=
    JsonObject.int64_of_lookup (by subst sent; rfl)
  have wallTime := @JsonObject.signed_of_lookup payload "wall_time" snapshot.state.wallTimeMs (by subst sent; rfl) 64
  have rate : payload.number "rate" = some snapshot.state.playbackRate := JsonObject.number_of_lookup (by subst sent; rfl)
  have host : payload.text "host_id" = some (snapshot.state.hostID.getD "") := JsonObject.text_of_lookup (by subst sent; rfl)
  have drift := @JsonObject.signed_of_lookup payload "drift_ms" snapshot.driftEstimateMs (by subst sent; rfl) 32
  have peers := @JsonObject.unsigned_of_lookup payload "peers" snapshot.activePeers (by subst sent; rfl) 32
  rw [if_pos (number_bounds snapshot.state.status)] at status
  simp only [SyncUpdatedV1.decode, room, epoch, status, mediaTime, wallTime, rate, host, drift, peers, bind, Option.bind_some, pure]
  by_cases fits : Fits snapshot
  · rw [if_pos fits, if_pos fits.epoch, if_pos fits.wallTime, if_pos fits.drift, if_pos fits.peers]
    rfl
  · rw [if_neg fits]
    by_contra read
    refine fits ⟨?_, ?_, ?_, ?_⟩ <;> by_contra beyond <;> rw [if_neg beyond] at read <;> simp at read

theorem decode_received {rs : RoomSync} {snapshot : Proto.SyncSnapshot} {e : SyncUpdatedV1}
    (decoded : SyncUpdatedV1.decode (rs.syncUpdatedPayload snapshot) = some e) : Fits snapshot ∧ e = received rs snapshot := by
  rw [decode_payload] at decoded
  split at decoded
  next fits => exact ⟨fits, (Option.some.inj decoded).symm⟩
  · cases decoded

theorem clampInt32_bounds (v : ℚ) : -2 ^ 31 ≤ clampInt32 v ∧ clampInt32 v < 2 ^ 31 := by
  unfold clampInt32
  split
  · decide
  next most =>
    split
    · decide
    next least =>
      have positive : (0 : ℚ) < v.den := by exact_mod_cast v.den_pos
      have upper : v.num ≤ 2147483647 * v.den := by
        have scaled := mul_le_mul_of_nonneg_right (not_lt.mp most) positive.le
        rw [Rat.mul_den_eq_num] at scaled
        exact_mod_cast scaled
      have lower : -(2147483647 * v.den) ≤ v.num := by
        have scaled := mul_le_mul_of_nonneg_right (not_lt.mp least) positive.le
        rw [Rat.mul_den_eq_num, neg_mul] at scaled
        exact_mod_cast scaled
      have small : (v.num.tdiv v.den).natAbs ≤ 2147483647 := by
        rw [Int.natAbs_tdiv, Int.natAbs_natCast]
        exact Nat.div_le_of_le_mul (by rw [Nat.mul_comm]; omega)
      generalize v.num.tdiv v.den = whole at small ⊢
      omega

/-- The event brings the copy to the state's status, position, rate, epoch and
host; the token, which it does not carry, stays as it was. The hypotheses are the
ranges of `uint64`, `int64` and `uint32`. -/
theorem event_carries (rs : RoomSync) (id : String) (now occurredAt : Time) (r : PlaybackRoom) (later : Time)
    (epoch : rs.state.epoch < 2 ^ 64) (wallTime : -2 ^ 63 ≤ rs.state.wallTimeMs ∧ rs.state.wallTimeMs < 2 ^ 63)
    (peers : (rs.alive now).length < 2 ^ 32) :
    ∃ e, SyncUpdatedV1.decode (rs.stageOutbox id now occurredAt).payload = some e ∧ e.roomID = rs.roomID ∧
      Carried rs.state (r.applyFromEvent e later).2 ∧ (r.applyFromEvent e later).2.fencingToken = r.fencingToken := by
  have fits : Fits (rs.buildSnapshotLocked now) := ⟨epoch, wallTime, clampInt32_bounds _, peers⟩
  refine ⟨received rs (rs.buildSnapshotLocked now), (decode_payload rs _).trans (if_pos fits), rfl, ⟨rfl, rfl, rfl, rfl, rfl, ?_⟩, rfl⟩
  exact idOrNone_getD rs.state.hostID

/-- The host changes hands, which raises the token. -/
def handedOver : RoomSync :=
  ((newRoomSync {} "r1" (RoomManager.initState "r1" "alice")).step ⟨.heartbeat "bob" 0 1000 1000, 1000, 1000000000⟩).step
    ⟨.tick .stored, 2000, 2000000000⟩

theorem handedOver_carries :
    ∃ e, SyncUpdatedV1.decode (handedOver.stageOutbox "e1" 2000000000 2000000000).payload = some e ∧ e.roomID = handedOver.roomID ∧
      Carried handedOver.state (PlaybackRoom.applyFromEvent { roomID := "r1" } e 0).2 ∧
      (PlaybackRoom.applyFromEvent { roomID := "r1" } e 0).2.fencingToken = 0 :=
  event_carries handedOver "e1" 2000000000 2000000000 { roomID := "r1" } 0 (by decide +kernel) (by decide +kernel) (by decide +kernel)

theorem event_without_token :
    ¬ ∀ (rs : RoomSync) (id : String) (now occurredAt : Time) (r : PlaybackRoom) (later : Time),
        r.roomID = rs.roomID → r.epoch ≤ rs.state.epoch →
          ∃ e, SyncUpdatedV1.decode (rs.stageOutbox id now occurredAt).payload = some e ∧
            Mirrors rs.state (r.applyFromEvent e later).2 := by
  intro claim
  obtain ⟨e, _, mirrors⟩ := claim handedOver "e1" 0 0 { roomID := "r1" } 0 (by decide +kernel) (by decide +kernel)
  have stays : (PlaybackRoom.applyFromEvent { roomID := "r1" } e 0).2.fencingToken = 0 := rfl
  exact absurd (stays.symm.trans mirrors.token) (by decide +kernel)

end VibeSync.Proofs.PlaybackEvents
