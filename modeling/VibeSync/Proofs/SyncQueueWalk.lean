import VibeSync.Proofs.SyncSwitching
import VibeSync.Walk

/-! Pressing `NEXT` again and again. The page looks for its place in the queue by the
media that plays, so a media that is queued twice sends it back to its first place. -/

namespace VibeSync.Proofs.SyncQueueWalk
open VibeSync.Sync VibeSync.Sync.RoomSync VibeSync.Proofs.SyncSwitching Walk

/-- The media of the queue's items, without the items that have none. -/
def queued (page : RoomPage) : List String := page.queueItems.filter (· ≠ "")

/-- The media that the requests of a press load. -/
def loaded (requests : List CommandRequest) : Option String :=
  requests.findSome? fun request => if request.kind = .loadMedia then request.mediaID else none

theorem next_requests (page : RoomPage) :
    page.dispatchCommand .next {} = (next (queued page) page.currentMediaID).elim [] (page.loadMedia · true) := by
  change page.skip .forwards = _
  unfold RoomPage.skip next queued
  generalize page.queueItems.filter (· ≠ "") = items
  dsimp only
  split
  next empty =>
    subst empty
    rfl
  · cases items.findIdx? fun item => some item = page.currentMediaID with
    | none =>
      dsimp only
      cases items[0]? <;> rfl
    | some i =>
      dsimp only
      cases items[i + 1]? <;> rfl

theorem loaded_next {page : RoomPage} (joined : page.activeRoomID ≠ "") :
    loaded (page.dispatchCommand .next {}) = next (queued page) page.currentMediaID := by
  rw [next_requests]
  cases next (queued page) page.currentMediaID with
  | none => rfl
  | some media =>
    change loaded (page.loadMedia media true) = some media
    unfold RoomPage.loadMedia RoomPage.sendCommand
    rw [if_neg joined]
    rfl

/-- The press has taken effect: the page shows the media that was loaded. -/
structure Effect (page after : RoomPage) : Prop where
  room : after.activeRoomID = page.activeRoomID
  queue : after.queueItems = page.queueItems
  media : after.currentMediaID = (loaded (page.dispatchCommand .next {})).or page.currentMediaID

/-- The `k`-th page of a walk shows the room and the queue of the first one. -/
theorem same_queue {pages : Nat → RoomPage} (effects : ∀ k, Effect (pages k) (pages (k + 1))) (k : Nat) :
    (pages k).activeRoomID = (pages 0).activeRoomID ∧ queued (pages k) = queued (pages 0) := by
  induction k with
  | zero => exact ⟨rfl, rfl⟩
  | succ k ih =>
    have effect := effects k
    refine ⟨effect.room.trans ih.1, Eq.trans ?_ ih.2⟩
    rw [queued, effect.queue]
    rfl

theorem loaded_eq {pages : Nat → RoomPage} (joined : (pages 0).activeRoomID ≠ "") (effects : ∀ k, Effect (pages k) (pages (k + 1)))
    (k : Nat) : loaded ((pages k).dispatchCommand .next {}) = next (queued (pages 0)) (pages k).currentMediaID := by
  obtain ⟨room, queue⟩ := same_queue effects k
  rw [← room] at joined
  rw [loaded_next joined, queue]

/-- Pressing `NEXT` walks the queue exactly if no media is queued twice. -/
theorem next_walks_iff {pages : Nat → RoomPage} (joined : (pages 0).activeRoomID ≠ "")
    (effects : ∀ k, Effect (pages k) (pages (k + 1))) (elsewhere : ∀ media ∈ queued (pages 0), some media ≠ (pages 0).currentMediaID) :
    (∀ k ≤ (queued (pages 0)).length, loaded ((pages k).dispatchCommand .next {}) = (queued (pages 0))[k]?) ↔
      (queued (pages 0)).Nodup := by
  have walks : Walks (queued (pages 0)) fun k => (pages k).currentMediaID := by
    refine ⟨elsewhere, fun k => ?_⟩
    rw [← loaded_eq joined effects k]
    exact (effects k).media
  rw [← walks.visits_iff]
  simp only [loaded_eq joined effects]
  rfl

/-! Requests that reach the room take effect. -/

theorem delivered_media {page : RoomPage} {mediaID : String} {rs : RoomSync} (delivery : Delivery page mediaID rs)
    (fresh : delivery.Fresh) : delivery.after.state.mediaID = mediaID := by
  have applied : delivery.after.state = delivery.before.state.applyCommand delivery.second.command delivery.secondMs
      delivery.secondAt := step_deliver fresh
  rw [applied]
  rcases switch_of_sent delivery.sent with switch | switch
  · exact ((delivery.cued switch fresh).play switch.plays _ _).media
  · exact (load_cues switch.loads switch.media).media

/-- A page that shows the room after both requests were applied, in either order. -/
theorem delivery_effect {page after : RoomPage} {mediaID : String} {rs : RoomSync} (joined : page.activeRoomID ≠ "")
    (pressed : next (queued page) page.currentMediaID = some mediaID) (delivery : Delivery page mediaID rs) (fresh : delivery.Fresh)
    (room : after.activeRoomID = page.activeRoomID) (queue : after.queueItems = page.queueItems)
    (shown : after.sync.state = some delivery.after.wire) : Effect page after := by
  have named : mediaID ≠ "" := by simpa using (List.mem_filter.mp (next_mem pressed)).2
  refine ⟨room, queue, ?_⟩
  rw [loaded_next joined, pressed, RoomPage.currentMediaID, shown]
  change idOrNone delivery.after.state.mediaID = _
  rw [delivered_media delivery fresh]
  exact if_neg named

/-! A page whose presses all take effect. -/

def settle (page : RoomPage) : RoomPage :=
  { page with
    sync.state := page.sync.state.map fun state =>
      { state with mediaID := (loaded (page.dispatchCommand .next {})).or page.currentMediaID } }

theorem settle_effect {page : RoomPage} (synced : page.sync.state.isSome) : Effect page (settle page) := by
  obtain ⟨state, known⟩ := Option.isSome_iff_exists.mp synced
  refine ⟨rfl, rfl, ?_⟩
  change ((page.sync.state.map _).bind Proto.SyncState.mediaID) = _
  rw [known]
  rfl

def settled (page : RoomPage) : Nat → RoomPage
  | 0 => page
  | k + 1 => settle (settled page k)

theorem settled_effects {page : RoomPage} (synced : page.sync.state.isSome) (k : Nat) :
    Effect (settled page k) (settled page (k + 1)) := by
  have kept : (settled page k).sync.state.isSome := by
    induction k with
    | zero => exact synced
    | succ k ih => exact Option.isSome_map.trans ih
  exact settle_effect kept

/-- A page that shows a media from outside its queue. -/
def visiting (queueItems : List String) : RoomPage :=
  ⟨"r1", ⟨1, some ⟨"r1", some "m0", .playing, 0, 0, 1, 1, some "alice", 0, 0⟩⟩, queueItems⟩

theorem distinct_media_walked :
    loaded ((settled (visiting ["m1", "m2"]) 1).dispatchCommand .next {}) = some "m2" ∧
      loaded ((settled (visiting ["m1", "m2"]) 2).dispatchCommand .next {}) = none := by
  have walked := (@next_walks_iff (settled (visiting ["m1", "m2"])) (by decide) (settled_effects rfl) (by decide)).mpr (by decide)
  exact ⟨(walked 1 (by decide)).trans (by decide), (walked 2 (by decide)).trans (by decide)⟩

/-- The fourth press goes back to the second item, and `m3` is never reached. -/
theorem repeated_media_loops :
    ∃ pages : Nat → RoomPage, (pages 0).activeRoomID ≠ "" ∧ (∀ k, Effect (pages k) (pages (k + 1))) ∧
      (∀ media ∈ queued (pages 0), some media ≠ (pages 0).currentMediaID) ∧ queued (pages 0) = ["m1", "m2", "m1", "m3"] ∧
      loaded ((pages 3).dispatchCommand .next {}) = some "m2" :=
  ⟨settled (visiting ["m1", "m2", "m1", "m3"]), by decide, settled_effects rfl, by decide, by decide, by decide⟩

end VibeSync.Proofs.SyncQueueWalk
