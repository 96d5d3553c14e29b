import OpcUa.Client.Call
import OpcUa.Subscription.Acknowledgements
import OpcUa.Subscription.Basic
import OpcUa.Subscription.SequenceNumber
import OpcUa.Subscription.Statistics
import OpcUa.WorkQueue

/-!
# The subscription manager

The state of the manager: its subscriptions and items, the last sequence number consumed for each
subscription, the acknowledgements that wait for the next Publish request, and its two queues. The
processing queue evaluates Publish responses, the delivery queue hands messages to the items.

What the manager does is in modules of its own: operations, the Publish pipeline, sequencing with
the recovery of lost messages, and dispatch.
-/

namespace OpcUa

/-- An observer of all subscriptions of a manager. -/
structure Listener where
  label : String
  /-- Whether it looks at anything at all. -/
  attentive : Bool
  /-- Whether it fails when it is called with this. -/
  fails : Notice → Bool

/-- A listener that never fails. -/
def Listener.steady (label : String) (attentive : Bool) : Listener :=
  ⟨label, attentive, fun _ => false⟩

/-- Work of the delivery queue. -/
inductive Delivery where
  | message (subscription : SubscriptionId) (message : NotificationMessage)
  | value (item : ItemKey) (value : DataValue)

/-! ## Publish attempts -/

inductive AttemptStage where
  /-- The attempt has not run yet. -/
  | armed
  | publishing (phase : CallPhase)
  /-- The attempt has failed and waits until it makes room for another one. -/
  | backingOff (due : Nat)

namespace AttemptStage

/-- The wait for the session, if that is what the attempt waits for. -/
def wait? : AttemptStage → Option SessionWait
  | publishing phase => phase.wait?
  | armed | backingOff _ => none

/-- The time at which the attempt goes on in any case. -/
def due? : AttemptStage → Option Nat
  | backingOff due => some due
  | publishing phase => phase.due?
  | armed => none

end AttemptStage

/-- One Publish request, from the time at which it takes its place in the pipeline. -/
structure Attempt where
  acknowledgements : List Acknowledgement
  hint : Duration
  stage : AttemptStage

/-! ## Recoveries -/

inductive RecoveryStage where
  /-- The message of this number is to be asked for, or has been. -/
  | republishing (number : SequenceNumber) (phase : Option CallPhase)
  /-- The value of an item has been asked for; those of the rest follow. -/
  | reading (item : ItemKey) (rest : List ItemKey) (phase : CallPhase)

namespace RecoveryStage

def phase? : RecoveryStage → Option CallPhase
  | republishing _ phase => phase
  | reading _ _ phase => some phase

/-- The wait for the session, if that is what the recovery waits for. -/
def wait? (stage : RecoveryStage) : Option SessionWait := stage.phase?.bind (·.wait?)

/-- The time at which the recovery gives up waiting. -/
def due? (stage : RecoveryStage) : Option Nat := stage.phase?.bind (·.due?)

end RecoveryStage

/-- The recovery of the messages between the last one consumed and the one received. -/
structure Recovery where
  subscription : SubscriptionId
  received : SequenceNumber
  stage : RecoveryStage

/-- Attempts and recoveries are numbered together, in the order in which they begin. -/
abbrev WorkId := Nat

/-! ## The manager -/

structure SubscriptionManager where
  config : ClientConfig
  running : Bool
  /-- All subscriptions there ever were, the one with key 0 first. -/
  subscriptions : List Subscription
  /-- All items there ever were, the one with key 0 first. -/
  items : List MonitoredItem
  registry : Registry
  /-- The last sequence number consumed for a subscription. -/
  cursors : Table SequenceNumber
  acknowledgements : Acknowledgements
  processing : WorkQueue PublishAnswer
  delivery : WorkQueue Delivery
  /-- The places of the pipeline that are taken. -/
  inFlight : Nat
  attempts : List (WorkId × Attempt)
  recoveries : List (WorkId × Recovery)
  nextWork : WorkId
  clientHandles : Handles
  listeners : List Listener
  stats : SubscriptionStats
  /-- What the functions of the application have seen. -/
  journal : List Observation

namespace SubscriptionManager

def fresh (config : ClientConfig) : SubscriptionManager where
  config
  running := true
  subscriptions := []
  items := []
  registry := .empty
  cursors := .empty
  acknowledgements := .empty
  processing := .fresh
  delivery := .fresh
  inFlight := 0
  attempts := []
  recoveries := []
  nextWork := 0
  clientHandles := .fresh
  listeners := []
  stats := .zero
  journal := []

/-! ## Queries -/

def subscription? (m : SubscriptionManager) (k : SubscriptionKey) : Option Subscription :=
  m.subscriptions[k]?

/-- The subscription that is registered under an id. -/
def registered? (m : SubscriptionManager) (id : SubscriptionId) : Option Subscription :=
  (m.registry.find? id).bind m.subscription?

def item? (m : SubscriptionManager) (k : ItemKey) : Option MonitoredItem := m.items[k]?

/-- The upper bound on outstanding Publish requests. -/
def maxPending (m : SubscriptionManager) : Nat :=
  m.config.publishPipelineDepth.toNat * m.registry.size

def lastSequenceNumber? (m : SubscriptionManager) (id : SubscriptionId) : Option SequenceNumber :=
  m.cursors.find? id

def diagnostic (m : SubscriptionManager) : String :=
  Text.record "SubscriptionManager" [("running", Text.boolean m.running),
    ("subscriptions", toString m.registry.size), ("in_flight", toString m.inFlight)]

/-! ## Refusals -/

def ensureRunning (m : SubscriptionManager) : Except Error Unit :=
  if m.running then .ok () else .error (.subscription .managerShutdown)

def ensureRegistered (m : SubscriptionManager) (id : SubscriptionId) : Except Error Unit :=
  if m.registry.contains id then .ok () else .error (.subscription (.notFound id))

/-! ## Changes -/

def modifySubscription (k : SubscriptionKey) (f : Subscription → Subscription)
    (m : SubscriptionManager) : SubscriptionManager :=
  { m with subscriptions := m.subscriptions.modify k f }

def setItem (k : ItemKey) (i : MonitoredItem) (m : SubscriptionManager) : SubscriptionManager :=
  { m with items := m.items.set k i }

/-- Sets callbacks of an item. -/
def setCallbacks (k : ItemKey) (callbacks : Callbacks) (m : SubscriptionManager) :
    SubscriptionManager :=
  { m with items := m.items.modify k fun i => { i with callbacks := callbacks.replace i.callbacks } }

def addListener (l : Listener) (m : SubscriptionManager) : SubscriptionManager :=
  { m with listeners := m.listeners ++ [l] }

def observe (seen : List Observation) (m : SubscriptionManager) : SubscriptionManager :=
  { m with journal := m.journal ++ seen }

/-- A number for an attempt or a recovery. -/
def nextId (m : SubscriptionManager) : WorkId × SubscriptionManager :=
  (m.nextWork, { m with nextWork := m.nextWork + 1 })

def attempt? (m : SubscriptionManager) (id : WorkId) : Option Attempt := m.attempts.lookup id

def setAttempt (id : WorkId) (stage : AttemptStage) (m : SubscriptionManager) :
    SubscriptionManager :=
  { m with
    attempts := m.attempts.map fun p => if p.1 = id then (id, { p.2 with stage }) else p }

def dropAttempt (id : WorkId) (m : SubscriptionManager) : SubscriptionManager :=
  { m with attempts := m.attempts.filter (·.1 != id) }

def recovery? (m : SubscriptionManager) (id : WorkId) : Option Recovery := m.recoveries.lookup id

def setRecovery (id : WorkId) (stage : RecoveryStage) (m : SubscriptionManager) :
    SubscriptionManager :=
  { m with
    recoveries := m.recoveries.map fun p => if p.1 = id then (id, { p.2 with stage }) else p }

/-- Stops the manager: nothing more is published, recovered or processed, and operations are
refused. What is on the delivery queue is still delivered. -/
def shutDown (m : SubscriptionManager) : SubscriptionManager :=
  if m.running then { m with running := false, processing := m.processing.close } else m

end SubscriptionManager

end OpcUa
