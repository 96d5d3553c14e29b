import OpcUa.Service.Message

/-!
# Monitored items

An item receives the values or the events of one node, one at a time. It remembers the last of
them, calls its callback and passes values on to those who watch it.

* `MonitoredItem.deliverValue`, `MonitoredItem.deliverEvent`: what a delivery does.
* `ValueChannel.receive`: what a watcher gets that has fallen behind.
-/

namespace OpcUa

/-! ## Channels -/

/-- The latest values that were sent to the watchers of an item. -/
structure ValueChannel where
  capacity : Nat
  /-- How many values have been sent. -/
  sent : Nat
  /-- The latest values, the last one first. -/
  kept : List DataValue

namespace ValueChannel

/-- The least power of two that is not below `n`. -/
def ceilPowerOfTwo (n : Nat) : Nat := if n ≤ 1 then 1 else 1 <<< ((n - 1).log2 + 1)

/-- A channel that keeps at least `capacity` values. -/
def ofCapacity (capacity : Nat) : ValueChannel := ⟨ceilPowerOfTwo capacity, 0, []⟩

def send (v : DataValue) (c : ValueChannel) : ValueChannel :=
  { c with sent := c.sent + 1, kept := (v :: c.kept).take c.capacity }

/-- What a watcher that has seen the first `position` values gets: how many are lost to it, and
those that are left. -/
def receive (position : Nat) (c : ValueChannel) : Nat × List DataValue :=
  let unseen := c.sent - position
  (unseen - c.capacity, (c.kept.take unseen).reverse)

end ValueChannel

/-! ## Callbacks -/

/-- A function of the application that is called with what an item receives. -/
structure Callback (α : Type) where
  label : String
  /-- Whether it fails when it is called with this. -/
  fails : α → Bool

/-- The functions that are called with the values and with the events of an item. -/
structure Callbacks where
  onValue : Option (Callback DataValue)
  onEvent : Option (Callback (List Variant))

namespace Callbacks

def none : Callbacks := ⟨.none, .none⟩

/-- One function for values and events, which always fails or never does. -/
def always (label : String) (fails : Bool) : Callbacks :=
  ⟨some ⟨label, fun _ => fails⟩, some ⟨label, fun _ => fails⟩⟩

/-- A function that is set takes the place of the one before it. -/
def replace (new old : Callbacks) : Callbacks :=
  ⟨new.onValue.or old.onValue, new.onEvent.or old.onEvent⟩

end Callbacks

/-- What a listener is called with. -/
inductive Notice where
  | keepAlive (subscription : SubscriptionId) (time : Timestamp)
  | statusChanged (subscription : SubscriptionId) (status : StatusCode)
  | message (subscription : SubscriptionId) (number : SequenceNumber)

/-- A call of a function of the application. -/
inductive Observation where
  | value (label : String) (handle : ClientHandle) (value : DataValue)
  | event (label : String) (handle : ClientHandle) (fields : List Variant)
  | notice (listener : String) (notice : Notice)

/-! ## Items -/

structure MonitoredItem where
  handle : ClientHandle
  subscription : SubscriptionId
  itemId : UInt32
  target : ReadValueId
  mode : MonitoringMode
  samplingInterval : Float
  queueSize : UInt32
  lastValue : Option DataValue
  lastEvent : Option (List Variant)
  valuesReceived : Nat
  eventsReceived : Nat
  callbacks : Callbacks
  channel : ValueChannel

/-- What a delivery comes to. -/
structure Delivered where
  item : MonitoredItem
  seen : List Observation
  /-- Whether the callback failed. -/
  failed : Bool

namespace MonitoredItem

/-- The item of a request that the server has granted. -/
def ofResult (subscription : SubscriptionId) (handle : ClientHandle)
    (request : MonitoredItemRequest) (result : MonitoredItemResult) (capacity : Nat) :
    MonitoredItem where
  handle
  subscription
  itemId := result.itemId
  target := request.target
  mode := request.mode
  samplingInterval := result.samplingInterval
  queueSize := result.queueSize
  lastValue := none
  lastEvent := none
  valuesReceived := 0
  eventsReceived := 0
  callbacks := .none
  channel := .ofCapacity capacity

/-- Whether the item receives events rather than values. -/
def isEventItem (i : MonitoredItem) : Bool := i.target.attributeId == .eventNotifier

/-- Whether the callback fails on a value. -/
def failsOnValue (v : DataValue) (i : MonitoredItem) : Bool := i.callbacks.onValue.any (·.fails v)

/-- Whether the callback fails on an event. -/
def failsOnEvent (fields : List Variant) (i : MonitoredItem) : Bool :=
  i.callbacks.onEvent.any (·.fails fields)

/-- The value is remembered before the callback sees it. If the callback fails, the watchers do
not get it. -/
def deliverValue (v : DataValue) (i : MonitoredItem) : Delivered :=
  let i := { i with valuesReceived := i.valuesReceived + 1, lastValue := some v }
  { item := if i.failsOnValue v then i else { i with channel := i.channel.send v }
    seen := (i.callbacks.onValue.map fun c => .value c.label i.handle v).toList
    failed := i.failsOnValue v }

/-- The event is remembered after the callback has seen it. -/
def deliverEvent (fields : List Variant) (i : MonitoredItem) : Delivered :=
  let i := { i with eventsReceived := i.eventsReceived + 1 }
  { item := if i.failsOnEvent fields then i else { i with lastEvent := some fields }
    seen := (i.callbacks.onEvent.map fun c => .event c.label i.handle fields).toList
    failed := i.failsOnEvent fields }

def diagnostic (i : MonitoredItem) : String :=
  Text.record "MonitoredItem" [("client_handle", toString i.handle),
    ("monitored_item_id", toString i.itemId), ("node_id", i.target.node.diagnostic),
    ("attribute_id", i.target.attributeId.diagnostic)]

end MonitoredItem

end OpcUa
