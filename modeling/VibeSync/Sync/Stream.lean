import VibeSync.Sync.Client

/-! One subscription: the `Subscribe` handler greets the client with a snapshot
and then forwards what the room puts into its channel. -/

namespace VibeSync.Sync

structure Stream where
  room : RoomSync
  channel : Nat
  greeted : Bool
  /-- Sent on the stream and not yet handled by the client. -/
  inFlight : List SubscribeResponse
  client : Client

namespace Stream

def subscribe (rs : RoomSync) (channel : Nat) : Stream :=
  { room := rs.registerSubscriber channel, channel, greeted := false, inFlight := [], client := .start }

inductive Event where
  | room (event : RoomSync.Event)
  | greet (now : Time)
  | forward
  | receive

def forward (s : Stream) : Stream :=
  match s.greeted, s.room.subscribers s.channel with
  | true, some (frame :: rest) =>
    { s with
      room := { s.room with subscribers := Function.update s.room.subscribers s.channel (some rest) }
      inFlight := s.inFlight ++ [frame] }
  | _, _ => s

def receive (s : Stream) : Stream :=
  match s.inFlight with
  | [] => s
  | frame :: rest => { s with inFlight := rest, client := s.client.handleFrame frame }

def step (s : Stream) : Event → Stream
  | .room event => { s with room := s.room.step event }
  | .greet now =>
    if s.greeted then s
    else { s with greeted := true, inFlight := s.inFlight ++ [.snapshot (s.room.buildSnapshotLocked now)] }
  | .forward => s.forward
  | .receive => s.receive

end Stream

end VibeSync.Sync
