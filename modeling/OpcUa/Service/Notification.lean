import OpcUa.Service.Basic

/-!
# Notification messages

What a Publish response brings: numbered messages with new values and events, and the
acknowledgements that go back for them.

* `NotificationMessage.isKeepAlive`: a message without data announces the next number.
* `Acknowledgement.lt`: the order in which acknowledgements are sent.
-/

namespace OpcUa

/-- The number of a notification message of a subscription. Zero is never used. -/
abbrev SequenceNumber := UInt32

/-- The server's name for a subscription. -/
abbrev SubscriptionId := UInt32

/-- The client's name for a monitored item. -/
abbrev ClientHandle := UInt32

/-- One part of a notification message. -/
inductive NotificationData where
  | dataChange (values : List (ClientHandle × DataValue))
  | events (events : List (ClientHandle × List Variant))
  | statusChange (status : StatusCode)
  /-- Data of a type that cannot be decoded. -/
  | unknown (type : NodeId)

structure NotificationMessage where
  sequenceNumber : SequenceNumber
  publishTime : Timestamp
  data : List NotificationData

namespace NotificationMessage

instance : Inhabited NotificationMessage := ⟨⟨0, default, []⟩⟩

/-- A message without data. Its number is the one that the next message with data will have. -/
def isKeepAlive (m : NotificationMessage) : Bool := m.data.isEmpty

end NotificationMessage

/-- Tells the server that it may discard a message. -/
structure Acknowledgement where
  subscription : SubscriptionId
  sequenceNumber : SequenceNumber
  deriving DecidableEq

namespace Acknowledgement

/-- By subscription, then by number. -/
def lt (a b : Acknowledgement) : Bool :=
  a.subscription < b.subscription ||
    (a.subscription == b.subscription && a.sequenceNumber < b.sequenceNumber)

def toJson (a : Acknowledgement) : Json :=
  .obj [("subscription_id", .ofUInt32 a.subscription),
    ("sequence_number", .ofUInt32 a.sequenceNumber)]

def ofJson? (j : Json) : Option Acknowledgement := do
  let r ← j.record? ["subscription_id", "sequence_number"]
  return ⟨← r.required "subscription_id" Json.asUInt32?,
    ← r.required "sequence_number" Json.asUInt32?⟩

end Acknowledgement

end OpcUa
