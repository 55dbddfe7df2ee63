import VibeSync.Sync.Stream

/-! The hook `useSyncStream`, which keeps one browser connected to a room: it
reads the stream, asks for what it missed when the stream breaks, waits and
subscribes again. The room runs on by itself, and its process may restart. -/

namespace VibeSync.Sync

inductive ConnectionStatus where
  | connecting | connected | error
  deriving DecidableEq, Repr

/-- Where the loop of the hook stands. -/
inductive Loop where
  | subscribing
  | streaming
  /-- `Recover` is called; the reply may be on its way. -/
  | recovering (reply : Option RoomSync.RecoverResponse)
  | waiting (delay : Nat)
  | cancelled
  deriving DecidableEq, Repr

structure Connection where
  stream : Stream
  loop : Loop
  attempt : Nat
  status : ConnectionStatus

namespace Connection

def baseBackoffMs : Nat := 1000

def maxBackoffMs : Nat := 15000

def maxBackoffExponent : Nat := 4

def delay (attempt : Nat) : Nat := min (baseBackoffMs * 2 ^ min attempt maxBackoffExponent) maxBackoffMs

def mount (rs : RoomSync) : Connection :=
  { stream := { room := rs, channel := 0, greeted := false, inFlight := [], client := .start }
    loop := .subscribing, attempt := 0, status := .connecting }

inductive Event where
  | room (event : RoomSync.Event)
  /-- The server registers a channel for the new stream. -/
  | subscribe (channel : Nat)
  | greet (now : Time)
  | forward
  | receive
  /-- The stream ends or fails. -/
  | fail
  /-- The server answers `Recover`. -/
  | answer (now : Time)
  | recovered
  | recoverFails
  | timeout
  | cancel
  /-- The process starts again with this row. -/
  | restart (row : SyncState)

/-- A new stream for the client as it stands. -/
def subscribe (c : Connection) (channel : Nat) : Connection :=
  { c with
    stream := { Stream.subscribe c.stream.room channel with client := c.stream.client }
    loop := .streaming, status := .connecting }

/-- What was sent and not yet read is lost with the stream. -/
def close (c : Connection) (loop : Loop) : Connection :=
  { c with
    stream := { c.stream with
      room := c.stream.room.unregisterSubscriber c.stream.channel, greeted := false, inFlight := [] }
    loop }

def receive (c : Connection) : Connection :=
  match c.stream.inFlight with
  | [] => c
  | _ :: _ => { c with stream := c.stream.receive, attempt := 0, status := .connected }

def backOff (c : Connection) : Connection := { c with loop := .waiting (delay c.attempt), attempt := c.attempt + 1 }

def recovered (c : Connection) (reply : RoomSync.RecoverResponse) : Connection :=
  { c with stream := { c.stream with client := c.stream.client.applyRecovery reply } }.backOff

/-- The new process knows no channels. What the old one sent is read before the
restart or not at all. -/
def restart (c : Connection) (row : SyncState) : Connection :=
  { c with
    stream := { c.stream with
      room := newRoomSync c.stream.room.cfg c.stream.room.roomID row, greeted := true, inFlight := [] }
    loop := match c.loop with
      | .recovering _ => .recovering none
      | loop => loop }

def step (c : Connection) : Event → Connection
  | .room event => { c with stream := c.stream.step (.room event) }
  | .subscribe channel => match c.loop with
    | .subscribing => c.subscribe channel
    | _ => c
  | .greet now => match c.loop with
    | .streaming => { c with stream := c.stream.step (.greet now) }
    | _ => c
  | .forward => match c.loop with
    | .streaming => { c with stream := c.stream.forward }
    | _ => c
  | .receive => match c.loop with
    | .streaming => c.receive
    | _ => c
  | .fail => match c.loop with
    | .subscribing | .streaming => c.close (.recovering none)
    | _ => c
  | .answer now => match c.loop with
    | .recovering none => { c with loop := .recovering (some (c.stream.room.recover c.stream.client.lastEpoch now)) }
    | _ => c
  | .recovered => match c.loop with
    | .recovering (some reply) => c.recovered reply
    | _ => c
  | .recoverFails => match c.loop with
    | .recovering _ => { c with status := .error }.backOff
    | _ => c
  | .timeout => match c.loop with
    | .waiting _ => { c with loop := .subscribing, status := .connecting }
    | _ => c
  | .cancel => c.close .cancelled
  | .restart row => c.restart row

end Connection

end VibeSync.Sync
