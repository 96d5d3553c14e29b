import OpcUa.Service.Blank
import OpcUa.Simulation.Host
import OpcUa.Simulation.Sample

/-!
# A recording server

A server that behaves like a plain one and keeps a record of what it is asked. It holds Publish
requests back until they are answered, it can be told to refuse requests, and it has a gate for
every service, in front of which the requests wait while it is closed.

* `RecordingServer.reply`: the answer of the server to a request.
* `RecordingServer.release`: opens a gate; of the requests that wait there only one goes on.
-/

namespace OpcUa.Simulation

structure RecordingServer where
  endpoint : EndpointDescription
  /-- Whether the client has a certificate. -/
  hasCertificate : Bool
  refusesCreate : Bool
  refusesActivate : Bool
  refusesReads : Bool
  /-- The gates that are closed, each with the requests in front of it. -/
  gates : List (Service × List Posted)
  /-- The requests that have passed a gate and are answered when everything runs. -/
  passed : List Posted
  /-- How many sessions have been created. -/
  sessions : Nat
  subscriptions : Nat
  items : Nat
  /-- The subscriptions that have not been deleted. -/
  live : List SubscriptionId
  /-- What every subscription is revised to, if not to what was requested. -/
  revision : Option RevisedSubscription
  rejectedNodes : List NodeId
  /-- The Publish requests that have not been answered. -/
  parked : List Posted
  /-- How many of them there have been at most. -/
  mostParked : Nat
  /-- The messages that are kept for retransmission, the latest first. -/
  retained : List ((SubscriptionId × SequenceNumber) × NotificationMessage)
  /-- The value of every node. -/
  value : DataValue
  /-- The service result of the next Read. -/
  nextRead : Option StatusCode
  /-- All requests, in the order in which they came. -/
  log : List Request

namespace RecordingServer

def ofEndpoint (endpoint : EndpointDescription) (hasCertificate : Bool) : RecordingServer where
  endpoint
  hasCertificate
  refusesCreate := false
  refusesActivate := false
  refusesReads := false
  gates := []
  passed := []
  sessions := 0
  subscriptions := 0
  items := 0
  live := []
  revision := none
  rejectedNodes := []
  parked := []
  mostParked := 0
  retained := []
  value := .taken (.int32 (-1)) default
  nextRead := none
  log := []

/-- The channel through which a client reaches the server. -/
def channel (server : RecordingServer) : Channel where
  endpoint := server.endpoint
  policy := server.endpoint.securityPolicy
  certificate := if server.hasCertificate then some [0x30, 0x82, 0x01, 0x0A] else none

/-! ## Answers -/

/-- The service result and the content of an answer, or the failure of the transport. -/
abbrev Answered (s : Service) := Except Error (StatusCode × s.Answer)

/-- Sessions and their tokens are numbered. -/
def createSession (server : RecordingServer) : RecordingServer × Answered .createSession :=
  if server.refusesCreate then
    (server, .ok (.badCommunicationError, Service.blankAnswer .createSession))
  else
    let n := server.sessions + 1
    ({ server with sessions := n },
      .ok (.good, ⟨⟨1, .numeric (UInt32.ofNat n)⟩, ⟨0, .numeric (UInt32.ofNat (9000 + n))⟩,
        60000.0, List.replicate 32 7, [], 0⟩))

def activateSession (server : RecordingServer) : Answered .activateSession :=
  .ok (if server.refusesActivate then .badInvalidArgument else .good,
    ⟨List.replicate 32 8, []⟩)

def read (q : ReadQuery) (server : RecordingServer) : RecordingServer × Answered .read :=
  if server.refusesReads then
    (server, .error (.transport (.sendFailed "read refused by mock")))
  else
    ({ server with nextRead := none },
      .ok (server.nextRead.getD .good, q.nodes.map fun _ => server.value))

def createSubscription (q : CreateSubscriptionQuery) (server : RecordingServer) :
    RecordingServer × Answered .createSubscription :=
  let id := UInt32.ofNat (100 + server.subscriptions)
  let requested : RevisedSubscription :=
    ⟨q.publishingInterval, q.lifetimeCount, q.maxKeepAliveCount⟩
  ({ server with subscriptions := server.subscriptions + 1, live := id :: server.live },
    .ok (.good, ⟨id, server.revision.getD requested⟩))

/-- What becomes of each of some subscriptions when they are deleted one after the other. -/
def deleteAll : List SubscriptionId → List SubscriptionId → List SubscriptionId × List StatusCode
  | live, [] => (live, [])
  | live, id :: rest =>
    let (left, statuses) := deleteAll (live.filter (· != id)) rest
    (left, (if live.contains id then .good else .badSubscriptionIdInvalid) :: statuses)

/-- Items are numbered, but for those on a node that is rejected. -/
def grantAll (rejected : List NodeId) :
    Nat → List (ClientHandle × MonitoredItemRequest) → Nat × List MonitoredItemResult
  | granted, [] => (granted, [])
  | granted, (_, r) :: rest =>
    if rejected.contains r.target.node then
      let (granted, results) := grantAll rejected granted rest
      (granted, ⟨.badNodeIdUnknown, 0, 0.0, 0⟩ :: results)
    else
      let (total, results) := grantAll rejected (granted + 1) rest
      (total, Sample.grantedItem (5000 + granted) r :: results)

/-- The message that is kept, if there is one. -/
def republish (q : RepublishQuery) (server : RecordingServer) : Answered .republish :=
  match server.retained.lookup (q.subscription, q.sequenceNumber) with
  | some m => .ok (.good, m)
  | none => .ok (.badMessageNotAvailable, Sample.keepAlive 0)

def answer (server : RecordingServer) : (s : Service) → s.Query → RecordingServer × Answered s
  | .createSession, _ => server.createSession
  | .activateSession, _ => (server, server.activateSession)
  | .closeSession, _ => (server, .ok (.good, ()))
  | .read, q => server.read q
  | .write, q => (server, .ok (.good, q.nodes.map fun _ => .good))
  | .createSubscription, q => server.createSubscription q
  | .modifySubscription, q =>
    (server, .ok (.good, ⟨q.publishingInterval, q.lifetimeCount, q.maxKeepAliveCount⟩))
  | .setPublishingMode, q => (server, .ok (.good, q.subscriptions.map fun _ => .good))
  | .deleteSubscriptions, q =>
    let (live, statuses) := deleteAll server.live q.subscriptions
    ({ server with live }, .ok (.good, statuses))
  | .createMonitoredItems, q =>
    let (items, results) := grantAll server.rejectedNodes server.items q.items
    ({ server with items }, .ok (.good, results))
  | .deleteMonitoredItems, q => (server, .ok (.good, q.itemIds.map fun _ => .good))
  | .publish, _ => (server, .ok (.good, Service.blankAnswer .publish))
  | .republish, q => (server, server.republish q)

/-- A response to a request, which has the handle of the request. -/
def respondTo (request : Request) (answered : Answered request.service) : Reply :=
  answered.map fun (status, answer) =>
    ⟨request.service, ⟨default, request.header.requestHandle, status⟩, answer⟩

def reply (request : Request) (server : RecordingServer) : RecordingServer × Reply :=
  let (server, answered) := server.answer request.service request.query
  (server, respondTo request answered)

/-! ## Gates -/

/-- Closes a gate. Nobody ever opens the one that was closed before. -/
def hold (s : Service) (server : RecordingServer) : RecordingServer :=
  { server with gates := (s, []) :: server.gates.filter (·.1 != s) }

/-- Opens a gate. The first of the requests in front of it that somebody still waits for goes
on; the others stay where they are. -/
def release (s : Service) (isOpen : ExchangeId → Bool) (server : RecordingServer) :
    RecordingServer × Option Posted :=
  let first := ((server.gates.lookup s).getD []).find? fun p => isOpen p.exchange
  ({ server with
      gates := server.gates.filter (·.1 != s)
      passed := server.passed ++ first.toList }, first)

/-! ## Requests -/

/-- Holds a Publish request back. -/
def park (p : Posted) (server : RecordingServer) : RecordingServer :=
  let parked := server.parked ++ [p]
  { server with parked, mostParked := max server.mostParked parked.length }

def receive (p : Posted) (server : RecordingServer) : RecordingServer × Option Reply :=
  let server := { server with log := server.log ++ [p.request] }
  let service := p.request.service
  if service = .publish then (server.park p, none)
  else
    match server.gates.lookup service with
    | some waiting =>
      ({ server with gates := (service, waiting ++ [p]) :: server.gates.filter (·.1 != service) },
        none)
    | none =>
      let (server, reply) := server.reply p.request
      (server, some reply)

instance : Server RecordingServer := ⟨receive⟩

/-! ## Publish requests -/

/-- Takes the Publish request that has been parked longest. -/
def takeOldest? (server : RecordingServer) : Option (RecordingServer × Posted) :=
  match server.parked with
  | [] => none
  | p :: parked => some ({ server with parked }, p)

def takeNewest? (server : RecordingServer) : Option (RecordingServer × Posted) :=
  server.parked.getLast?.map fun p => ({ server with parked := server.parked.dropLast }, p)

/-- A Publish response to a request. -/
def publicationFor (request : Request) (status : StatusCode) (answer : PublishAnswer) : Reply :=
  .ok ⟨.publish, ⟨default, request.header.requestHandle, status⟩, answer⟩

/-! ## Records -/

/-- How many requests of each service have come, of those that have. -/
def counts (server : RecordingServer) : List (Service × Nat) :=
  (Service.names.map fun (_, s) => (s, server.log.countP (·.service = s))).filter (0 < ·.2)

/-- The acknowledgements of each Publish request. -/
def acknowledgements (log : List Request) : List (List Acknowledgement) :=
  log.filterMap fun
    | ⟨.publish, _, q⟩ => some q.acknowledgements
    | _ => none

/-- The messages that were asked for again. -/
def republished (log : List Request) : List (SubscriptionId × SequenceNumber) :=
  log.filterMap fun
    | ⟨.republish, _, q⟩ => some (q.subscription, q.sequenceNumber)
    | _ => none

end RecordingServer

end OpcUa.Simulation
