import OpcUa.Subscription.Publishing

/-!
# Operations of the manager

What an application asks of a subscription manager. An operation is checked first; then its request
is sent, and other tasks run until the answer is there; then it takes effect. `begin` is the first
part and `finish` the last.

* `begin`: the refusals, in the order in which they are tried.
* `finish`: the effect of an answer. A failure has none.
-/

namespace OpcUa

inductive Operation where
  | create (parameters : SubscriptionParameters)
  /-- With parameters derived from a publishing interval. -/
  | createWithInterval (interval : Float)
  | modify (subscription : SubscriptionKey) (parameters : SubscriptionParameters)
  | modifyInterval (subscription : SubscriptionKey) (interval : Float)
  | delete (subscription : SubscriptionKey)
  | setPublishing (subscription : SubscriptionKey) (enabled : Bool)
  | createItems (subscription : SubscriptionKey) (requests : List MonitoredItemRequest)
  | deleteItems (subscription : SubscriptionKey) (items : List ItemKey)

/-- An operation whose request is under way. -/
inductive PendingOperation where
  | create (parameters : SubscriptionParameters) (since : Nat)
  | modify (subscription : SubscriptionKey) (parameters : SubscriptionParameters)
  | delete (subscription : SubscriptionKey)
  | setPublishing (subscription : SubscriptionKey) (enabled : Bool)
  | createItems (subscription : SubscriptionKey)
      (requests : List (ClientHandle × MonitoredItemRequest))
  | deleteItems (subscription : SubscriptionKey) (items : List ItemKey)

inductive OperationResult where
  | created (k : SubscriptionKey)
  | modified (k : SubscriptionKey)
  | done
  /-- One outcome for each request. -/
  | items (outcomes : List (Except Error ItemKey))
  /-- One status for each item. -/
  | statuses (statuses : List StatusCode)

/-- How an operation begins. -/
inductive OperationStart where
  | finished (outcome : Except Error OperationResult)
  | pending (op : PendingOperation)

namespace SubscriptionManager

/-! ## Checks -/

def idOf (k : SubscriptionKey) (m : SubscriptionManager) : SubscriptionId :=
  ((m.subscription? k).getD default).id

/-- The manager runs and knows the id of the subscription. -/
def ensureUsable (k : SubscriptionKey) (m : SubscriptionManager) : Except Error Unit := do
  m.ensureRunning
  m.ensureRegistered (m.idOf k)

def checkCreate (p : SubscriptionParameters) (m : SubscriptionManager) : Except Error Unit := do
  m.ensureRunning
  p.validate

def checkModify (k : SubscriptionKey) (p : SubscriptionParameters) (m : SubscriptionManager) :
    Except Error Unit := do
  m.ensureUsable k
  p.validate

/-- The parameters of an interval, for a new subscription. -/
def newParameters (interval : Float) (m : SubscriptionManager) : SubscriptionParameters :=
  { SubscriptionParameters.ofInterval interval with
    maxNotifications := m.config.maxNotificationsPerPublish }

/-- The parameters of an interval, for a subscription that keeps all others. -/
def intervalParameters (k : SubscriptionKey) (interval : Float) (m : SubscriptionManager) :
    SubscriptionParameters :=
  let p := ((m.subscription? k).getD default).parameters
  { SubscriptionParameters.ofInterval interval with
    maxNotifications := p.maxNotifications
    priority := p.priority
    publishingEnabled := p.publishingEnabled }

/-! ## Begin -/

/-- A refusal, or a pending operation. -/
def startIf (check : Except Error Unit) (op : PendingOperation) : OperationStart :=
  match check with
  | .ok () => .pending op
  | .error e => .finished (.error e)

/-- Begins an operation. Items get their handles before they are created. -/
def begin (op : Operation) (clock : Nat) (m : SubscriptionManager) :
    SubscriptionManager × OperationStart :=
  match op with
  | .create p => (m, startIf (m.checkCreate p) (.create p clock))
  | .createWithInterval interval =>
    let p := m.newParameters interval
    (m, startIf (m.checkCreate p) (.create p clock))
  | .modify k p => (m, startIf (m.checkModify k p) (.modify k p))
  | .modifyInterval k interval =>
    let p := m.intervalParameters k interval
    (m, startIf (m.checkModify k p) (.modify k p))
  | .delete k => (m, startIf (m.ensureUsable k) (.delete k))
  | .setPublishing k enabled => (m, startIf (m.ensureUsable k) (.setPublishing k enabled))
  | .createItems k requests =>
    match m.ensureUsable k with
    | .error e => (m, .finished (.error e))
    | .ok () =>
      if requests.isEmpty then (m, .finished (.ok (.items [])))
      else
        let (handles, clientHandles) := Handles.takeMany requests.length m.clientHandles
        ({ m with clientHandles }, .pending (.createItems k (handles.zip requests)))
  | .deleteItems k items =>
    match m.ensureUsable k with
    | .error e => (m, .finished (.error e))
    | .ok () =>
      if items.isEmpty then (m, .finished (.ok (.statuses [])))
      else (m, .pending (.deleteItems k items))

end SubscriptionManager

/-! ## Requests -/

namespace PendingOperation

def service : PendingOperation → Service
  | create .. => .createSubscription
  | modify .. => .modifySubscription
  | delete _ => .deleteSubscriptions
  | setPublishing .. => .setPublishingMode
  | createItems .. => .createMonitoredItems
  | deleteItems .. => .deleteMonitoredItems

end PendingOperation

namespace SubscriptionManager

/-- The request of an operation. -/
def operationQuery (m : SubscriptionManager) : (op : PendingOperation) → op.service.Query
  | .create p _ =>
    ⟨p.publishingInterval, p.lifetimeCount, p.maxKeepAliveCount, p.maxNotifications,
      p.publishingEnabled, p.priority⟩
  | .modify k p =>
    ⟨m.idOf k, p.publishingInterval, p.lifetimeCount, p.maxKeepAliveCount, p.maxNotifications,
      p.priority⟩
  | .delete k => ⟨[m.idOf k]⟩
  | .setPublishing k enabled => ⟨enabled, [m.idOf k]⟩
  | .createItems k requests => ⟨m.idOf k, .both, requests⟩
  | .deleteItems k items =>
    ⟨m.idOf k, items.filterMap fun i => (m.item? i).map (·.itemId)⟩

/-! ## Finish -/

/-- A subscription that the server has created takes its place in the registry. -/
def addSubscription (id : SubscriptionId) (p : SubscriptionParameters) (took : Duration)
    (m : SubscriptionManager) : SubscriptionManager × SubscriptionKey :=
  let k := m.subscriptions.length
  ({ m with
      subscriptions := m.subscriptions ++ [Subscription.ofParameters id p]
      registry := m.registry.insert id k
      stats := m.stats.recordSubscriptionCreated took }.fillPipeline, k)

/-- A subscription that the server has deleted leaves nothing behind. -/
def removeSubscription (id : SubscriptionId) (m : SubscriptionManager) : SubscriptionManager :=
  { m with
    registry := m.registry.erase id
    cursors := m.cursors.erase id
    acknowledgements := m.acknowledgements.discard id
    stats := m.stats.recordSubscriptionDeleted }.fillPipeline

/-- The status of the only target of a request. -/
def onlyStatus (results : List StatusCode) : StatusCode := results.headD .badUnknownResponse

/-- Adds the item of one request, unless the server refused it. -/
def addItem (k : SubscriptionKey) (handle : ClientHandle) (request : MonitoredItemRequest)
    (result : MonitoredItemResult) (m : SubscriptionManager) :
    SubscriptionManager × Except Error ItemKey :=
  if result.status.isBad then
    (m, .error (.subscription (.itemFailed request.target.node.toText result.status)))
  else
    let item := MonitoredItem.ofResult (m.idOf k) handle request result
      m.config.valueChannelCapacity.toNat
    let i := m.items.length
    ({ m with items := m.items ++ [item] }.modifySubscription k fun s =>
      { s with items := s.items.insert handle i }, .ok i)

/-- Adds the items of the requests, each with its result. -/
def addItems (k : SubscriptionKey) :
    List ((ClientHandle × MonitoredItemRequest) × MonitoredItemResult) → SubscriptionManager →
    SubscriptionManager × List (Except Error ItemKey)
  | [], m => (m, [])
  | ((handle, request), result) :: rest, m =>
    let (m, outcome) := m.addItem k handle request result
    let (m, outcomes) := addItems k rest m
    (m, outcome :: outcomes)

/-- Removes an item that the server has deleted or does not know. -/
def removeItem (k : SubscriptionKey) (i : ItemKey) (status : StatusCode)
    (m : SubscriptionManager) : SubscriptionManager :=
  if status.isGood || status == .badMonitoredItemIdInvalid then
    match m.item? i with
    | some item =>
      m.modifySubscription k fun s => { s with items := s.items.erase item.handle }
    | none => m
  else m

def removeItems (k : SubscriptionKey) (results : List (ItemKey × StatusCode))
    (m : SubscriptionManager) : SubscriptionManager :=
  results.foldl (fun m (i, status) => m.removeItem k i status) m

/-- The effect of the answer to an operation's request. -/
def apply (clock : Nat) (m : SubscriptionManager) :
    (op : PendingOperation) → op.service.Answer →
    SubscriptionManager × Except Error OperationResult
  | .create p since, answer =>
    let (m, k) := m.addSubscription answer.subscription (p.revise answer.revised)
      (.ofMillis (UInt64.ofNat (clock - since)))
    (m, .ok (.created k))
  | .modify k p, revised =>
    ((m.modifySubscription k (·.applyRevised revised p)).fillPipeline, .ok (.modified k))
  | .delete k, results =>
    let status := onlyStatus results
    if status.isBad ∧ status ≠ .badSubscriptionIdInvalid then
      (m, .error (.fault Service.deleteSubscriptions.name status))
    else (m.removeSubscription (m.idOf k), .ok .done)
  | .setPublishing k enabled, results =>
    let status := onlyStatus results
    if status.isBad then (m, .error (.fault Service.setPublishingMode.name status))
    else (m.modifySubscription k (·.setPublishingEnabled enabled), .ok .done)
  | .createItems k requests, results =>
    if results.length ≠ requests.length then
      (m, .error (.fault Service.createMonitoredItems.name .badUnknownResponse))
    else
      let (m, outcomes) := m.addItems k (requests.zip results)
      (m, .ok (.items outcomes))
  | .deleteItems k items, results =>
    (m.removeItems k (items.zip results), .ok (.statuses results))

def finish (clock : Nat) (op : PendingOperation) (outcome : Except Error op.service.Answer)
    (m : SubscriptionManager) : SubscriptionManager × Except Error OperationResult :=
  match outcome with
  | .ok answer => m.apply clock op answer
  | .error e => (m, .error e)

end SubscriptionManager

end OpcUa
