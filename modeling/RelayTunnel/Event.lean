import RelayTunnel.Net.Address
import RelayTunnel.Text.Quoted

/-!
# Events of a tunnel

What a tunnel tells its subscribers, and the feed that keeps the latest events
for them. A subscriber that falls too far behind is told how many events it has
lost and goes on with the oldest one kept.
-/

namespace RelayTunnel

/-- Something that happened on a tunnel. -/
inductive TunnelEvent where
  | clientAccepted (id : UInt64) (client : SocketAddress)
  | clientRejected (client : SocketAddress)
  /-- A session ended without error; `sent` bytes went to the client. -/
  | sessionClosed (id : UInt64) (client : SocketAddress) (sent received : UInt64)
  | sessionFailed (id : UInt64) (client : SocketAddress) (error : String)
  /-- No more clients are accepted and all sessions have ended. -/
  | listenerStopped (accepted rejected : UInt64)
  deriving DecidableEq, Repr

/-- A named record as a value. -/
def describeRecord (name : String) (fields : List (String × String)) : String :=
  name ++ " \x7b " ++ ", ".intercalate (fields.map fun (name, value) => s!"{name}: {value}") ++
    " \x7d"

/-- The event as a value. -/
def TunnelEvent.describe : TunnelEvent → String
  | clientAccepted id client =>
    describeRecord "ClientAccepted" [("connection_id", toString id), ("remote_addr", client.text)]
  | clientRejected client => describeRecord "ClientRejected" [("remote_addr", client.text)]
  | sessionClosed id client sent received =>
    describeRecord "SessionClosed"
      [("connection_id", toString id), ("remote_addr", client.text),
        ("bytes_sent", toString sent), ("bytes_received", toString received)]
  | sessionFailed id client error =>
    describeRecord "SessionFailed"
      [("connection_id", toString id), ("remote_addr", client.text),
        ("error", Quoted.encode error)]
  | listenerStopped accepted rejected =>
    describeRecord "ListenerStopped"
      [("accepted", toString accepted), ("rejected", toString rejected)]

/-- The events published while someone listens; only the latest are kept
    (`EventSender`). -/
structure EventFeed where
  /-- How many events there have been. -/
  published : Nat := 0
  /-- The last of them, oldest first. -/
  kept : List TunnelEvent := []
  /-- For each subscriber, how many events are behind it. -/
  cursors : List Nat := []
  deriving Repr

/-- What a subscriber finds. -/
inductive EventPoll where
  | event (event : TunnelEvent)
  | empty
  /-- So many events were lost. -/
  | lagged (lost : Nat)
  deriving DecidableEq, Repr

namespace EventFeed

/-- How many events are kept (`EVENT_CHANNEL_CAPACITY`). -/
def capacity : Nat := 256

/-- Add a subscriber, which sees the events from now on (`EventSender.subscribe`). -/
def subscribe (feed : EventFeed) : EventFeed :=
  { feed with cursors := feed.cursors ++ [feed.published] }

/-- Publish an event; without subscribers it is gone (`EventSender.publish`). -/
def publish (feed : EventFeed) (event : TunnelEvent) : EventFeed :=
  if feed.cursors.isEmpty then feed
  else
    let kept := feed.kept ++ [event]
    { feed with published := feed.published + 1, kept := kept.drop (kept.length - capacity) }

/-- What the subscriber of that number finds, and the feed after it has looked. -/
def poll (feed : EventFeed) (subscriber : Nat) : EventPoll × EventFeed :=
  let cursor := feed.cursors.getD subscriber feed.published
  let oldest := feed.published - feed.kept.length
  if cursor < oldest then
    (.lagged (oldest - cursor), { feed with cursors := feed.cursors.set subscriber oldest })
  else
    match feed.kept[cursor - oldest]? with
    | some event => (.event event, { feed with cursors := feed.cursors.set subscriber (cursor + 1) })
    | none => (.empty, feed)

end EventFeed

end RelayTunnel
