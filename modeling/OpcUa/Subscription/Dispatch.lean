import OpcUa.Subscription.Manager

/-!
# Dispatch

A notification message is taken apart, and each part goes to the item with its client handle or to
the listeners. Parts for items that are not there are skipped. A callback or a listener that fails
ends the dispatch of the message.

* `NotificationMessage.parts`: the parts in the order in which they are handed out.
* `SubscriptionManager.dispatch`: a whole message.
* `SubscriptionManager.deliver`: one turn's work of the delivery queue.
-/

namespace OpcUa

/-- One thing that a message brings to an item or to the listeners. -/
inductive NotificationPart where
  | value (handle : ClientHandle) (value : DataValue)
  | event (handle : ClientHandle) (fields : List Variant)
  | status (status : StatusCode)

def NotificationData.parts : NotificationData → List NotificationPart
  | .dataChange values => values.map fun (h, v) => .value h v
  | .events list => list.map fun (h, fields) => .event h fields
  | .statusChange status => [.status status]
  | .unknown _ => []

def NotificationMessage.parts (m : NotificationMessage) : List NotificationPart :=
  m.data.flatMap NotificationData.parts

namespace SubscriptionManager

/-- The listeners that look at anything. -/
def attentive (m : SubscriptionManager) : List Listener := m.listeners.filter (·.attentive)

/-- Whether a listener fails on a notice. -/
def disturbs (n : Notice) (m : SubscriptionManager) : Bool := m.attentive.any (·.fails n)

/-- The listeners that a notice comes to: those up to the first that fails on it. -/
def reached (n : Notice) (m : SubscriptionManager) : List Listener :=
  m.attentive.take (m.attentive.findIdx (·.fails n) + 1)

/-- Calls the listeners with a notice; tells whether all of them have come through. -/
def notify (n : Notice) (m : SubscriptionManager) : SubscriptionManager × Bool :=
  (m.observe ((m.reached n).map fun l => .notice l.label n), !m.disturbs n)

/-- Delivers to one item; tells whether its callback has come through. -/
def deliverTo (k : ItemKey) (f : MonitoredItem → Delivered) (m : SubscriptionManager) :
    SubscriptionManager × Bool :=
  match m.item? k with
  | none => (m, true)
  | some i =>
    let d := f i
    ((m.setItem k d.item).observe d.seen, !d.failed)

/-- Hands out one part of a message of a subscription. -/
def deliverPart (s : Subscription) (p : NotificationPart) (m : SubscriptionManager) :
    SubscriptionManager × Bool :=
  match p with
  | .value handle v =>
    match s.items.find? handle with
    | some k => m.deliverTo k (·.deliverValue v)
    | none => (m, true)
  | .event handle fields =>
    match s.items.find? handle with
    | some k => m.deliverTo k (·.deliverEvent fields)
    | none => (m, true)
  | .status status => m.notify (.statusChanged s.id status)

/-- Hands out the parts in order, up to one on which a callback or a listener fails. -/
def deliverParts (s : Subscription) : List NotificationPart → SubscriptionManager →
    SubscriptionManager × Bool
  | [], m => (m, true)
  | p :: rest, m =>
    match m.deliverPart s p with
    | (m, true) => deliverParts s rest m
    | (m, false) => (m, false)

/-- Dispatches a message of the subscription that is now registered under `id`. -/
def dispatch (id : SubscriptionId) (message : NotificationMessage) (m : SubscriptionManager) :
    SubscriptionManager :=
  match m.registry.find? id with
  | none => m
  | some k =>
    match m.subscription? k with
    | none => m
    | some s =>
      if message.isKeepAlive then
        let m := m.modifySubscription k fun s => { s with keepAlives := s.keepAlives + 1 }
        let m := { m with stats := m.stats.recordKeepAlive }
        (m.notify (.keepAlive s.id message.publishTime)).1
      else
        let m := m.modifySubscription k fun s =>
          { s with notificationMessages := s.notificationMessages + 1 }
        let m := { m with stats := m.stats.recordNotificationMessage }
        match m.deliverParts s message.parts with
        | (m, true) => (m.notify (.message s.id message.sequenceNumber)).1
        | (m, false) => m

/-- Performs work of the delivery queue. -/
def deliver (d : Delivery) (m : SubscriptionManager) : SubscriptionManager :=
  match d with
  | .message id message => m.dispatch id message
  | .value k v => (m.deliverTo k (·.deliverValue v)).1

end SubscriptionManager

end OpcUa
