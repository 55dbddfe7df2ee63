import VibeSync.Proofs.SyncService

/-! Restarts. A room that starts from its row carries the counters on; a room
that is created anew beside an older row takes them back to zero, and its next
checkpoint takes the row with it. -/

namespace VibeSync.Proofs.SyncRestart
open VibeSync.Sync VibeSync.Proofs.SyncSteps VibeSync.Proofs.SyncService

/-- The row may be forgotten: there is none, or its counters are at zero. -/
def Blank (row : Option SyncState) : Prop := ∀ state, row = some state → state.epoch = 0 ∧ state.fencingToken = 0

end VibeSync.Proofs.SyncRestart
