import OpcUa.Subscription.Manager

/-!
# Sequencing and recovery

A Publish response is taken if its message follows the last one consumed or repeats an older one.
If messages are missing in between, both queues are paused, the response goes back to the head of
the processing queue, and a recovery asks the server for the missing messages, one at a time. If
one of them cannot be had, the recovery reads the values of all items instead. When it is over, the
response is processed again.

* `process`: one turn's work of the processing queue.
* `republished`, `fallBack`, `valueRead`, `endRecovery`: the steps of a recovery.
-/

namespace OpcUa.SubscriptionManager

/-- Moves the cursor of a subscription forwards, never backwards. -/
def advanceCursor (id : SubscriptionId) (n : SequenceNumber) (m : SubscriptionManager) :
    SubscriptionManager :=
  match m.cursors.find? id with
  | none => { m with cursors := m.cursors.insert id n }
  | some last =>
    if SequenceNumber.isAfter n last then { m with cursors := m.cursors.insert id n } else m

/-- The last number that is consumed with a message. A keep-alive only announces its number. -/
def consumed (message : NotificationMessage) : SequenceNumber :=
  if message.isKeepAlive then SequenceNumber.previous message.sequenceNumber
  else message.sequenceNumber

/-- Puts work on the delivery queue. -/
def submitDelivery (d : Delivery) (m : SubscriptionManager) : SubscriptionManager :=
  { m with delivery := m.delivery.submit d }

/-- Takes a response: its message is delivered, and all that the server keeps is acknowledged. -/
def accept (a : PublishAnswer) (m : SubscriptionManager) : SubscriptionManager :=
  let m := m.advanceCursor a.subscription (consumed a.message)
  let m := { m with
    acknowledgements := m.acknowledgements.addAll a.subscription a.available }
  m.submitDelivery (.message a.subscription a.message)

/-- Stops both queues and begins to recover the messages from `expected` on. -/
def beginRecovery (a : PublishAnswer) (expected : SequenceNumber) (m : SubscriptionManager) :
    SubscriptionManager :=
  let (id, m) := m.nextId
  { m with
    stats := m.stats.recordGap
    processing := m.processing.pause.submitFirst a
    delivery := m.delivery.pause
    recoveries := m.recoveries ++
      [(id, ⟨a.subscription, a.message.sequenceNumber, .republishing expected none⟩)] }

/-- Performs work of the processing queue. -/
def process (a : PublishAnswer) (m : SubscriptionManager) : SubscriptionManager :=
  if m.registry.contains a.subscription then
    match SequenceNumber.evaluate (m.cursors.find? a.subscription) a.message.sequenceNumber with
    | .accept => m.accept a
    | .gap expected => m.beginRecovery a expected
  else m

/-! ## Steps of a recovery -/

/-- A missing message has come. -/
def republished (id : SubscriptionId) (message : NotificationMessage) (m : SubscriptionManager) :
    SubscriptionManager :=
  { m with stats := m.stats.recordRepublished }.submitDelivery (.message id message)

/-- The items of a subscription that have a value to read, by their handles. -/
def readableItems (id : SubscriptionId) (m : SubscriptionManager) : List ItemKey :=
  match m.registered? id with
  | none => []
  | some s => s.items.values.filter fun k => (m.item? k).any (!·.isEventItem)

/-- A missing message cannot be had. -/
def fallBack (m : SubscriptionManager) : SubscriptionManager :=
  { m with stats := m.stats.recordRecoveryFallback }

/-- The value of an item is asked for. -/
def startRead (m : SubscriptionManager) : SubscriptionManager :=
  { m with stats := m.stats.recordFallbackRead }

/-- The last of the values that were read, if there is one. -/
def lastRead (outcome : Except Error (List DataValue)) : Except Error DataValue :=
  outcome.bind fun values =>
    match values.getLast? with
    | some v => .ok v
    | none => .error (.fault Service.read.name .badUnknownResponse)

/-- The value of an item has been read. If that failed, the item keeps its last value. -/
def valueRead (k : ItemKey) (outcome : Except Error (List DataValue)) (m : SubscriptionManager) :
    SubscriptionManager :=
  match lastRead outcome with
  | .ok v => m.submitDelivery (.value k v)
  | .error _ => m

/-- The recovery is over: the queues go on, with the response that revealed the gap. -/
def endRecovery (id : WorkId) (r : Recovery) (m : SubscriptionManager) : SubscriptionManager :=
  let m :=
    if m.running && m.registry.contains r.subscription then
      { m with
        cursors := m.cursors.insert r.subscription (SequenceNumber.previous r.received) }
    else m
  { m with
    recoveries := m.recoveries.filter (·.1 != id)
    processing := m.processing.resume
    delivery := m.delivery.resume }

end OpcUa.SubscriptionManager
