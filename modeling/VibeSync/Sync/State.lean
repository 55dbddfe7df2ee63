import Mathlib.Data.Rat.Floor
import VibeSync.Errors

/-! The authoritative playback state of a room. Rates and drifts are exact
rationals, server clock readings are exact, and positions are `int64`. The epoch
and the fencing token are `uint64` counters, taken never to wrap around. -/

namespace VibeSync.Sync

inductive PlaybackStatus where
  | unspecified | paused | playing | buffering | ended
  deriving DecidableEq, Repr

structure SyncState where
  roomID : String
  mediaID : String
  status : PlaybackStatus
  mediaTimeMs : Int64
  wallTimeMs : Int
  playbackRate : ℚ
  epoch : Nat
  hostID : String
  fencingToken : Nat
  epochStarted : Time
  ownerID : String
  deriving DecidableEq, Repr

/-- The conversion `int64(x)` drops the fraction. -/
def int64OfFloat (x : ℚ) : Int64 := Int64.ofInt (x.num.tdiv x.den)

def SyncState.advanceMediaTime (s : SyncState) (nowMs : Int) : Int64 :=
  if s.playbackRate = 0 then s.mediaTimeMs
  else
    let elapsed := if nowMs - s.wallTimeMs < 0 then 0 else nowMs - s.wallTimeMs
    s.mediaTimeMs + int64OfFloat (elapsed * s.playbackRate)

inductive CommandKind where
  | unspecified | play | pause | seek | setRate | loadMedia | next | previous
  | unknown (value : Int)
  deriving DecidableEq, Repr

structure Command where
  kind : CommandKind
  seekToMs : Option Int64
  rate : Option ℚ
  mediaID : String
  deriving DecidableEq, Repr

/-- The rates that `CmdSetRate` takes. -/
def RateInRange (rate : ℚ) : Prop := 1 / 4 ≤ rate ∧ rate ≤ 4

instance (rate : ℚ) : Decidable (RateInRange rate) := inferInstanceAs (Decidable (_ ∧ _))

namespace SyncState

/-- The position is brought to `nowMs` before the command takes effect. -/
def resample (s : SyncState) (nowMs : Int) : SyncState :=
  { s with
    mediaTimeMs := if s.status = .playing then s.advanceMediaTime nowMs else s.mediaTimeMs
    wallTimeMs := nowMs }

def perform (s : SyncState) (c : Command) : SyncState :=
  match c.kind with
  | .play => { s with status := .playing, playbackRate := if s.playbackRate = 0 then 1 else s.playbackRate }
  | .pause => { s with status := .paused, playbackRate := 0 }
  | .seek => match c.seekToMs with
    | some target => { s with mediaTimeMs := target }
    | none => s
  | .setRate => match c.rate with
    | some rate =>
      if RateInRange rate then
        { s with playbackRate := rate, status := if rate > 0 then .playing else s.status }
      else s
    | none => s
  | .loadMedia => { s with mediaID := c.mediaID, mediaTimeMs := 0, status := .paused, playbackRate := 0 }
  | .next | .previous | .unspecified | .unknown _ => s

def applyCommand (s : SyncState) (c : Command) (nowMs : Int) (now : Time) : SyncState :=
  let performed := (s.resample nowMs).perform c
  { performed with epoch := performed.epoch + 1, epochStarted := now }

end SyncState

end VibeSync.Sync
