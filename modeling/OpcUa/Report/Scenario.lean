import OpcUa.Report.Basic
import OpcUa.Simulation.Scenario

/-!
# Reports on scenarios

What is to be seen of a client, its subscriptions and the requests that it sends, after every step
of a scenario.
-/

namespace OpcUa.Report

open Simulation

def parametersJson (p : SubscriptionParameters) : Json :=
  .obj [("interval", floatJson p.publishingInterval), ("lifetime", .ofUInt32 p.lifetimeCount),
    ("keep_alive", .ofUInt32 p.maxKeepAliveCount), ("max", .ofUInt32 p.maxNotifications),
    ("enabled", .bool p.publishingEnabled), ("priority", .nat p.priority.toNat)]

/-! ## Requests -/

/-- The time in a generated session name is not part of an answer. -/
def maskedName (generated : Bool) (name : String) : String :=
  if generated && !name.isEmpty then
    String.ofList ((name.toList.reverse.dropWhile Char.isDigit).reverse) ++ "<ms>"
  else name

def itemJson (handle : UInt32) (r : MonitoredItemRequest) : Json :=
  .obj [("target", encoded r.target.toJson), ("mode", r.mode.toJson), ("handle", .ofUInt32 handle),
    ("sampling", floatJson r.samplingInterval), ("queue", .ofUInt32 r.queueSize),
    ("discard_oldest", .bool r.discardOldest)]

def ackJson (a : Acknowledgement) : Json :=
  .arr [.ofUInt32 a.subscription, .ofUInt32 a.sequenceNumber]

def bodyJson (generated : Bool) : (s : Service) → s.Query → Json
  | .createSession, q =>
    .obj [("client", encoded q.client.toJson), ("server_uri", .ofOption .str q.serverUri),
      ("url", .str q.endpointUrl), ("name", .str (maskedName generated q.sessionName)),
      ("nonce_len", .nat q.clientNonce.length), ("cert", hexJson q.clientCertificate),
      ("timeout", floatJson q.sessionTimeout), ("max", .ofUInt32 q.maxResponseMessageSize)]
  | .activateSession, q =>
    .obj [("locales", .ofList .str q.localeIds), ("identity", encoded q.userIdentity.toJson)]
  | .closeSession, q => .obj [("delete", .bool q.deleteSubscriptions)]
  | .read, q =>
    .obj [("max_age", floatJson q.maxAge), ("timestamps", q.timestamps.toJson),
      ("nodes", .ofList (fun n => encoded n.toJson) q.nodes)]
  | .write, q => .obj [("nodes", .ofList (fun n => encoded n.toJson) q.nodes)]
  | .createSubscription, q =>
    .obj [("interval", floatJson q.publishingInterval), ("lifetime", .ofUInt32 q.lifetimeCount),
      ("keep_alive", .ofUInt32 q.maxKeepAliveCount), ("max", .ofUInt32 q.maxNotifications),
      ("enabled", .bool q.publishingEnabled), ("priority", .nat q.priority.toNat)]
  | .modifySubscription, q =>
    .obj [("id", .ofUInt32 q.subscription), ("interval", floatJson q.publishingInterval),
      ("lifetime", .ofUInt32 q.lifetimeCount), ("keep_alive", .ofUInt32 q.maxKeepAliveCount),
      ("max", .ofUInt32 q.maxNotifications), ("priority", .nat q.priority.toNat)]
  | .setPublishingMode, q =>
    .obj [("enabled", .bool q.publishingEnabled), ("ids", .ofList .ofUInt32 q.subscriptions)]
  | .deleteSubscriptions, q => .obj [("ids", .ofList .ofUInt32 q.subscriptions)]
  | .createMonitoredItems, q =>
    .obj [("id", .ofUInt32 q.subscription), ("timestamps", q.timestamps.toJson),
      ("items", .ofList (fun (h, r) => itemJson h r) q.items)]
  | .deleteMonitoredItems, q =>
    .obj [("id", .ofUInt32 q.subscription), ("ids", .ofList .ofUInt32 q.itemIds)]
  | .publish, q => .obj [("acks", .ofList ackJson q.acknowledgements)]
  | .republish, q =>
    .obj [("id", .ofUInt32 q.subscription), ("seq", .ofUInt32 q.sequenceNumber)]

def requestJson (generated : Bool) (r : Request) : Json :=
  .obj [("service", .str r.service.name), ("token", .str r.header.authenticationToken.toText),
    ("hint", .ofUInt32 r.header.timeoutHint), ("body", bodyJson generated r.service r.query)]

/-! ## Subscriptions and items -/

def subscriptionJson (s : Subscription) : Json :=
  let p := s.parameters
  .obj [("id", .ofUInt32 s.id), ("interval", floatJson p.publishingInterval),
    ("duration", match s.publishingDuration? with
      | some d => durationJson d
      | none => .str "panic"),
    ("lifetime", .ofUInt32 p.lifetimeCount), ("keep_alive", .ofUInt32 p.maxKeepAliveCount),
    ("max", .ofUInt32 p.maxNotifications), ("enabled", .bool p.publishingEnabled),
    ("priority", .nat p.priority.toNat), ("params", parametersJson p),
    ("items", .ofList .ofUInt32 s.items.keys), ("item_count", .nat s.items.size),
    ("messages", .nat s.notificationMessages), ("keep_alives", .nat s.keepAlives),
    ("debug", .str s.diagnostic)]

def monitoredItemJson (i : MonitoredItem) : Json :=
  .obj [("handle", .ofUInt32 i.handle), ("sub", .ofUInt32 i.subscription),
    ("id", .ofUInt32 i.itemId), ("node", .str i.target.node.toText),
    ("target", encoded i.target.toJson), ("event", .bool i.isEventItem), ("mode", i.mode.toJson),
    ("sampling", floatJson i.samplingInterval), ("queue", .ofUInt32 i.queueSize),
    ("last_value", .ofOption (fun v => encoded v.toJson) i.lastValue),
    ("last_event", .ofOption (.ofList fun v => encoded v.toJson) i.lastEvent),
    ("values", .nat i.valuesReceived), ("events", .nat i.eventsReceived),
    ("debug", .str i.diagnostic)]

def managerJson (m : SubscriptionManager) : Json :=
  let subs := m.registry.values.filterMap fun k => m.subscription? k
  .obj [("shut_down", .bool !m.running), ("in_flight", .nat m.inFlight),
    ("max_pending", .nat m.maxPending), ("acks", .nat m.acknowledgements.count),
    ("count", .nat m.registry.size), ("stats", statsJson m.stats),
    ("subs", .arr (subs.map fun s =>
      let p := s.parameters
      .arr [.ofUInt32 s.id, floatJson p.publishingInterval, .ofUInt32 p.lifetimeCount,
        .ofUInt32 p.maxKeepAliveCount, .ofUInt32 p.maxNotifications, .bool p.publishingEnabled,
        .nat p.priority.toNat, .ofList .ofUInt32 s.items.keys, .nat s.notificationMessages,
        .nat s.keepAlives, .ofOption .ofUInt32 (m.lastSequenceNumber? s.id)]))]

def observationJson : Observation → Json
  | .value label handle v => .arr [.str label, .str "value", .ofUInt32 handle, encoded v.toJson]
  | .event label handle fields =>
    .arr [.str label, .str "event", .ofUInt32 handle, .ofList (fun v => encoded v.toJson) fields]
  | .notice label (.keepAlive sub time) =>
    .arr [.str label, .str "keep_alive", .ofUInt32 sub, .int time.toMillis]
  | .notice label (.statusChanged sub status) =>
    .arr [.str label, .str "status", .ofUInt32 sub, status.toJson]
  | .notice label (.message sub number) =>
    .arr [.str label, .str "message", .ofUInt32 sub, .ofUInt32 number]

/-! ## Results -/

def numberedJson (s : NumberedSession) : Json :=
  .obj [("n", .nat s.number), ("session", sessionJson s.session s.valid)]

def headerJson (h : RequestHeader) : Json :=
  .obj [("token", .str h.authenticationToken.toText), ("handle", .ofUInt32 h.requestHandle),
    ("hint", .ofUInt32 h.timeoutHint), ("diag", .ofUInt32 h.returnDiagnostics),
    ("audit", .ofOption .str h.auditEntryId)]

def missingJson : Missing → Json
  | .client => .str "no client"
  | .subscription => .str "no sub"
  | .item => .str "no item"
  | .session => .str "no session"
  | .watch => .str "no watch"

def namesJson (names : Option (List String)) : Json := .ofOption (.ofList .str) names

def registryJson (r : RegistryResult) : Json :=
  .obj [("result", match r.answer with | .flag b => .bool b | .names names => namesJson names),
    ("len", .nat r.ids.length), ("empty", .bool r.ids.isEmpty), ("ids", .ofList .ofUInt32 r.ids),
    ("min", .ofOption floatJson r.shortestKeepAlive)]

mutual

def resultJson : StepResult → Json
  | .none | .crashed => .null
  | .started => .str "started"
  | .missing what => missingJson what
  | .flag b => .bool b
  | .batch results => .arr (resultsJson results)
  | .session s => .ofOption numberedJson s
  | .header h => headerJson h
  | .handle h => .ofUInt32 h
  | .subscription s => subscriptionJson s
  | .names names => namesJson names
  | .item i => monitoredItemJson i
  | .received lost values =>
    let kept := values.map fun v => encoded v.toJson
    .arr (if lost = 0 then kept else .obj [("lagged", .nat lost)] :: kept)
  | .diagnostics client manager driver managed =>
    .obj [("client", .str client), ("manager", .str manager), ("ua", .ofOption .str managed),
      ("fsm", .str driver)]
  | .registry results => .ofList registryJson results

def resultsJson : List StepResult → List Json
  | [] => []
  | r :: rest => resultJson r :: resultsJson rest

end

/-! ## Snapshots -/

def outcomeJson (number : Option Nat) : Outcome → Json
  | .done => .null
  | .disconnected => .bool true
  | .session s valid => numberedJson ⟨number.getD 0, s, valid⟩
  | .values vs => .ofList (fun v => encoded v.toJson) vs
  | .value v => encoded v.toJson
  | .statuses ss => .ofList StatusCode.toJson ss
  | .status s => s.toJson
  | .message m => .arr [.ofUInt32 m.sequenceNumber, .nat m.data.length, .bool m.isKeepAlive]
  | .published a => .arr [.ofUInt32 a.subscription, .ofUInt32 a.message.sequenceNumber,
      .ofList .ofUInt32 a.available, .bool a.moreNotifications,
      .ofList StatusCode.toJson a.results]
  | .sent s h => .arr [.str s.name, .ofUInt32 h.requestHandle, h.serviceResult.toJson]
  | .created _ s | .modified s => subscriptionJson s
  | .items outcomes => .ofList (result monitoredItemJson) outcomes

/-- Fields of an object; of two with one name the last one counts. -/
def lastFields (fields : List (String × Json)) : Json :=
  .obj (fields.foldl (fun kept (n, v) => kept.filter (·.1 != n) ++ [(n, v)]) [])

def driverViewJson : Scenario.DriverView → Json
  | .absent => .null
  | .live state current stats disconnected =>
    .obj [("state", .str state.toText), ("current", .ofOption .nat current),
      ("stats", sessionStatsJson stats), ("disconnected", .bool disconnected)]
  | .dropped state => .str state.toText

def snapshotFields (generated : Bool) (s : Scenario.Snapshot) : List (String × Json) :=
  [("fsm", driverViewJson s.driver), ("manager", .ofOption managerJson s.manager),
    ("held", .obj (s.held.map fun (service, n) => (service.name, .nat n))),
    ("pending", .ofList .str s.pending),
    ("done", lastFields (s.done.map fun d => (d.name, result (outcomeJson d.number) d.outcome))),
    ("valid", .ofList .bool s.valid),
    ("requests", .ofList (requestJson generated) s.requests),
    ("handles", .ofList .ofUInt32 s.handles),
    ("events", .ofList observationJson s.events)]

/-- A run of a scenario: the first snapshot, and every other one with the result of its step. -/
def runJson (generated : Bool) (first : Scenario.Snapshot)
    (rest : List (StepResult × Scenario.Snapshot)) : Json :=
  .obj [("steps", .arr (.obj (snapshotFields generated first) :: rest.map fun (r, shot) =>
    .obj (("result", resultJson r) :: snapshotFields generated shot)))]

end OpcUa.Report
