import VibeSync.Sync.Client

/-! The synchronised player of the browser. The component reads the iframe and
tells it what to do; what the iframe makes of that is a parameter. What it does
by itself, and what the viewer does to it with its own controls, are events. -/

namespace VibeSync.Sync

structure SyncPlayerSettings where
  driftIgnoreMs : ℚ
  driftResyncMs : ℚ
  syncTickMs : ℚ
  deriving DecidableEq, Repr

def defaultSettings : SyncPlayerSettings := ⟨300, 500, 250⟩

/-- The states that `getPlayerState` reports: -1, 0, 1, 2, 3 and 5. -/
inductive PlayerState where
  | unstarted | ended | playing | paused | buffering | cued
  deriving DecidableEq, Repr

inductive PlayerOperation where
  | playVideo
  | pauseVideo
  | setPlaybackRate (rate : ℚ)
  | seekTo (seconds : ℚ)
  | cueVideoById (videoId : String)
  | unMute
  | setVolume (volume : Nat)
  deriving DecidableEq, Repr

structure Iframe where
  state : PlayerState
  /-- In seconds. -/
  currentTime : ℚ
  playbackRate : ℚ
  deriving DecidableEq, Repr

/-- What the embedded player makes of an operation. It is not part of the component. -/
abbrev IframeApi := Iframe → PlayerOperation → Iframe

def supportedRates : List ℚ := [1 / 4, 1 / 2, 3 / 4, 1, 5 / 4, 3 / 2, 7 / 4, 2]

/-- The body of the `reduce` in `snapRate`. -/
def closer (rate best r : ℚ) : ℚ := if |r - rate| < |best - rate| then r else best

def snapRate (rate : ℚ) : ℚ := supportedRates.tail.foldl (closer rate) (1 / 4)

/-- The refs of the component and the flag of the overlay. -/
structure YouTubePlayer where
  settings : SyncPlayerSettings
  syncState : Option Proto.SyncState
  gestureConsumed : Bool
  lastAppliedEpoch : Option Nat
  needsGesture : Bool
  deriving DecidableEq, Repr

namespace YouTubePlayer

def mount (settings : SyncPlayerSettings) : YouTubePlayer := ⟨settings, none, false, none, false⟩

def targetTimeSec (state : Proto.SyncState) (now : ℚ) : ℚ := Client.advance (some state) now / 1000

/-- The states in which an autoplay that the browser refused leaves the iframe. -/
def blocked : PlayerState → Bool
  | .unstarted | .paused | .cued => true
  | _ => false

def transport (playing : Bool) (localState : PlayerState) : List PlayerOperation :=
  if playing then if blocked localState then [.playVideo] else []
  else if localState = .playing ∨ localState = .buffering then [.pauseVideo] else []

def needsSeek (settings : SyncPlayerSettings) (reanchor : Bool) (driftMs : ℚ) : Bool :=
  |driftMs| > settings.driftResyncMs ∨ (reanchor ∧ |driftMs| > settings.driftIgnoreMs)

def reanchors (p : YouTubePlayer) (state : Proto.SyncState) : Bool := p.lastAppliedEpoch ≠ some state.epoch

/-- The part of a tick after its early returns. -/
def reconcile (p : YouTubePlayer) (state : Proto.SyncState) (iframe : Iframe) (now : ℚ) : List PlayerOperation :=
  let target := targetTimeSec state now
  let driftMs := (iframe.currentTime - target) * 1000
  let wantedRate := snapRate state.playbackRate
  transport (state.status = .playing) iframe.state
    ++ (if iframe.playbackRate ≠ wantedRate then [.setPlaybackRate wantedRate] else [])
    ++ (if needsSeek p.settings (p.reanchors state) driftMs then [.seekTo target] else [])

/-- The component after a tick, and what it told the iframe to do. -/
def tick (p : YouTubePlayer) (iframe : Iframe) (now : ℚ) : YouTubePlayer × List PlayerOperation :=
  match p.syncState with
  | none => (p, [])
  | some state =>
    let applied := { p with lastAppliedEpoch := some state.epoch }
    if iframe.state = .ended ∧ ¬ p.reanchors state then (applied, [])
    else if state.status = .playing ∧ blocked iframe.state ∧ ¬ p.gestureConsumed then
      ({ applied with needsGesture := true }, [.playVideo])
    else (applied, p.reconcile state iframe now)

def onStateChange (p : YouTubePlayer) (state : PlayerState) : YouTubePlayer :=
  if state = .playing then { p with gestureConsumed := true, needsGesture := false } else p

def joinPlayback (p : YouTubePlayer) : YouTubePlayer × List PlayerOperation :=
  ({ p with gestureConsumed := true, needsGesture := false },
   [.unMute, .setVolume 100] ++ if (p.syncState.map (·.status)) = some .playing then [.playVideo] else [])

end YouTubePlayer

/-- One viewer: the clock of the browser, the iframe and the component. -/
structure Viewer where
  /-- In milliseconds. -/
  clock : ℚ
  iframe : Iframe
  player : YouTubePlayer
  deriving DecidableEq, Repr

namespace Viewer

inductive Event where
  /-- The room hands the component another state. -/
  | deliver (state : Option Proto.SyncState)
  | tick
  | join
  /-- The room switches to another video. -/
  | swap (videoId : String)
  | stateChange (state : PlayerState)
  /-- Time passes, and the iframe plays on; both in milliseconds. -/
  | pass (elapsed progress : ℚ)
  /-- The viewer uses the controls of the iframe, which may leave it in any way. -/
  | control (iframe : Iframe)

/-- What the component makes of an event, and what it tells the iframe to do. -/
def react (v : Viewer) : Event → YouTubePlayer × List PlayerOperation
  | .deliver state => ({ v.player with syncState := state }, [])
  | .tick => v.player.tick v.iframe v.clock
  | .join => v.player.joinPlayback
  | .swap videoId => (v.player, [.cueVideoById videoId])
  | .stateChange state => (v.player.onStateChange state, [])
  | .pass _ _ | .control _ => (v.player, [])

/-- What happens to the iframe from outside the component. -/
def disturb (iframe : Iframe) : Event → Iframe
  | .stateChange state => { iframe with state }
  | .pass _ progress => { iframe with currentTime := iframe.currentTime + progress / 1000 }
  | .control iframe => iframe
  | .deliver _ | .tick | .join | .swap _ => iframe

def elapsed : Event → ℚ
  | .pass elapsed _ => elapsed
  | _ => 0

def step (api : IframeApi) (v : Viewer) (event : Event) : Viewer :=
  let (player, operations) := v.react event
  { clock := v.clock + elapsed event, iframe := operations.foldl api (disturb v.iframe event), player }

end Viewer

end VibeSync.Sync
