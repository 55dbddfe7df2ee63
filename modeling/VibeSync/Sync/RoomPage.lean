import VibeSync.Sync.Client

/-! The playback commands of the room page. No request waits for the one before
it, so the service may see them in any order. -/

namespace VibeSync.Sync

structure CommandRequest where
  roomID : String
  kind : CommandKind
  fencingToken : Nat
  seekToMs : Option Int
  rate : Option ℚ
  mediaID : Option String
  deriving DecidableEq, Repr

/-- What the handler reads from a request. -/
def CommandRequest.command (request : CommandRequest) : Command :=
  { kind := request.kind, seekToMs := request.seekToMs.map Int64.ofInt, rate := request.rate
    mediaID := request.mediaID.getD "" }

structure CommandOptions where
  seekToMs : Option ℚ := none
  rate : Option ℚ := none
  mediaID : Option String := none
  deriving DecidableEq, Repr

structure RoomPage where
  activeRoomID : String
  /-- What the stream has brought so far. -/
  sync : Client
  /-- The media of the queue, in order; an item without a media has the empty id. -/
  queueItems : List String
  deriving DecidableEq, Repr

namespace RoomPage

/-- `Math.round`. -/
def round (x : ℚ) : Int := ⌊x + 1 / 2⌋

def currentMediaID (page : RoomPage) : Option String := page.sync.state.bind Proto.SyncState.mediaID

/-- The requests that one call puts on the wire. -/
def sendCommand (page : RoomPage) (kind : CommandKind) (opts : CommandOptions) : List CommandRequest :=
  if page.activeRoomID = "" then []
  else
    [{ roomID := page.activeRoomID, kind, fencingToken := (page.sync.state.map Proto.SyncState.fencingToken).getD 0
       seekToMs := opts.seekToMs.map fun target => max 0 (round target)
       rate := opts.rate, mediaID := opts.mediaID }]

def loadMedia (page : RoomPage) (mediaID : String) (keepPlaying : Bool) : List CommandRequest :=
  page.sendCommand .loadMedia { mediaID := some mediaID } ++ if keepPlaying then page.sendCommand .play {} else []

def playNow (page : RoomPage) (mediaID : String) : List CommandRequest := page.loadMedia mediaID true

inductive Direction where
  | forwards | backwards
  deriving DecidableEq, Repr

/-- `NEXT` and `PREVIOUS` are resolved on the page's copy of the queue. -/
def skip (page : RoomPage) (dir : Direction) : List CommandRequest :=
  let items := page.queueItems.filter (· ≠ "")
  let idx := items.findIdx? fun item => some item = page.currentMediaID
  if items = [] then []
  else match dir with
    | .forwards =>
      match (match idx with | some i => items[i + 1]? | none => items[0]?) with
      | some next => page.loadMedia next true
      | none => []
    | .backwards =>
      match (match idx with | some (i + 1) => items[i]? | _ => none) with
      | some prev => page.loadMedia prev true
      | none => page.sendCommand .seek { seekToMs := some 0 }

def dispatchCommand (page : RoomPage) (kind : CommandKind) (opts : CommandOptions) : List CommandRequest :=
  match kind with
  | .next => page.skip .forwards
  | .previous => page.skip .backwards
  | _ => page.sendCommand kind opts

end RoomPage

end VibeSync.Sync
