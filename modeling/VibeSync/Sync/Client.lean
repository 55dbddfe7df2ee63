import VibeSync.Sync.RoomSync

/-! The browser side of the stream: epoch fencing, host migrations, recovery and
the projection of a position to the present. -/

namespace VibeSync.Sync

structure Client where
  lastEpoch : Nat
  state : Option Proto.SyncState
  deriving DecidableEq, Repr

namespace Client

def start : Client := ⟨0, none⟩

def applyState (c : Client) (state : Proto.SyncState) : Client :=
  if state.epoch ≥ c.lastEpoch then ⟨state.epoch, some state⟩ else c

def applySnapshot (c : Client) (snapshot : Proto.SyncSnapshot) : Client := c.applyState snapshot.state

/-- The host and the token are stamped onto whatever state is there. -/
def restamp (state : Proto.SyncState) (migration : Proto.HostMigration) : Proto.SyncState :=
  { state with
    hostID := some migration.newHostID, fencingToken := migration.newFencingToken, epoch := migration.newEpoch }

def applyMigration (c : Client) (migration : Proto.HostMigration) : Client :=
  match c.state with
  | none => c
  | some prev =>
    if migration.newEpoch < prev.epoch then c else ⟨migration.newEpoch, some (restamp prev migration)⟩

def handleFrame (c : Client) : SubscribeResponse → Client
  | .update state => c.applyState state
  | .snapshot full => c.applySnapshot full
  | .hostMigration migration => c.applyMigration migration

def applyRecovery (c : Client) : RoomSync.RecoverResponse → Client
  | .snapshot full => c.applySnapshot full
  | .frames frames => frames.foldl handleFrame c

/-- `advanceMediaTime` of `lib/sync.ts`. -/
def advanceMediaTime (mediaTimeMs wallTimeMs playbackRate now : ℚ) : ℚ :=
  if playbackRate = 0 then mediaTimeMs else mediaTimeMs + max 0 (now - wallTimeMs) * playbackRate

/-- The position that the player shows at `now`. -/
def advance (state : Option Proto.SyncState) (now : ℚ) : ℚ :=
  match state with
  | none => 0
  | some s =>
    advanceMediaTime s.mediaTimeMs.toInt s.wallTimeMs (if s.status = .playing then s.playbackRate else 0) now

end Client

end VibeSync.Sync
