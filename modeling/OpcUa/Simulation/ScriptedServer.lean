import OpcUa.Service.Blank
import OpcUa.Simulation.Host
import OpcUa.Simulation.Sample

/-!
# A scripted server

A server that answers as a script tells it. The script prescribes for each service what becomes of
its next requests; beyond that a Publish request is held and every other request gets a plain
answer. A request that is held is answered later or never.

* `ScriptedReply`: what becomes of a request.
* `ReplyFields.answer`: the answer to a request, where what is not prescribed has a default.
-/

namespace OpcUa.Simulation

/-- What an answer is to say. The server fills in the rest. -/
structure ReplyFields where
  status : StatusCode
  sessionId : Option NodeId
  token : Option NodeId
  timeout : Option Float
  nonce : Option (List UInt8)
  certificate : Option (List UInt8)
  maxRequestSize : UInt32
  /-- One status for each target. -/
  statuses : Option (List StatusCode)
  /-- One value for each node. -/
  values : Option (List DataValue)
  /-- The value of every node. -/
  value : Option DataValue
  subscription : Option SubscriptionId
  interval : Option Float
  lifetime : Option UInt32
  keepAlive : Option UInt32
  /-- One result for each monitored item. -/
  items : Option (List MonitoredItemResult)
  /-- The subscription that a Publish response belongs to. -/
  publisher : SubscriptionId
  /-- The message of a Publish response. -/
  message : NotificationMessage
  available : Option (List SequenceNumber)
  more : Bool
  /-- The message of a Republish response. -/
  republished : Option NotificationMessage

/-- What becomes of a request. -/
inductive ScriptedReply where
  | hold
  /-- The transport fails. -/
  | fail (e : Error)
  /-- A blank response of another service. -/
  | foreign (service : Service) (status : StatusCode)
  | respond (fields : ReplyFields)

structure ScriptedServer where
  scripts : List (Service × ScriptedReply)
  held : List Posted
  /-- The messages that are kept for retransmission, the latest first. -/
  retained : List ((SubscriptionId × SequenceNumber) × NotificationMessage)
  /-- How many sessions have been created. -/
  sessions : Nat
  subscriptions : Nat
  items : Nat
  /-- The requests that have come, in that order. -/
  log : List Request

namespace ScriptedServer

def fresh : ScriptedServer := ⟨[], [], [], 0, 0, 0, []⟩

/-- Prescribes what becomes of the next requests of a service. -/
def script (s : Service) (replies : List ScriptedReply) (server : ScriptedServer) :
    ScriptedServer :=
  { server with scripts := server.scripts ++ replies.map fun r => (s, r) }

/-- Keeps a message for retransmission. -/
def retain (id : SubscriptionId) (number : SequenceNumber) (m : NotificationMessage)
    (server : ScriptedServer) : ScriptedServer :=
  { server with retained := ((id, number), m) :: server.retained }

/-- What the script prescribes next for a service, and the script after that. -/
def takeScript (s : Service) :
    List (Service × ScriptedReply) → Option ScriptedReply × List (Service × ScriptedReply)
  | [] => (none, [])
  | (t, reply) :: rest =>
    if t = s then (some reply, rest)
    else
      let (found, rest) := takeScript s rest
      (found, (t, reply) :: rest)

end ScriptedServer

/-! ## Answers -/

namespace ReplyFields

def nonceOf (byte : UInt8) : List UInt8 := List.replicate 4 byte

/-- Sessions and their tokens are numbered. -/
def createdSession (f : ReplyFields) (q : CreateSessionQuery) (number : Nat) :
    CreateSessionAnswer where
  sessionId := f.sessionId.getD ⟨1, .numeric (UInt32.ofNat number)⟩
  authenticationToken := f.token.getD ⟨0, .numeric (UInt32.ofNat (9000 + number))⟩
  sessionTimeout := f.timeout.getD q.sessionTimeout
  serverNonce := f.nonce.getD (nonceOf 7)
  serverCertificate := f.certificate.getD []
  maxRequestMessageSize := f.maxRequestSize

def revision (f : ReplyFields) (interval : Float) (lifetime keepAlive : UInt32) :
    RevisedSubscription :=
  ⟨f.interval.getD interval, f.lifetime.getD lifetime, f.keepAlive.getD keepAlive⟩

def statusesFor {α : Type} (f : ReplyFields) (targets : List α) : List StatusCode :=
  f.statuses.getD (targets.map fun _ => .good)

def publication (f : ReplyFields) : PublishAnswer :=
  { Sample.publication f.publisher f.message f.available with
    moreNotifications := f.more
    results := f.statuses.getD [] }

/-- The answer to a request, with its service result. -/
def answer (f : ReplyFields) (server : ScriptedServer) :
    (s : Service) → s.Query → ScriptedServer × StatusCode × s.Answer
  | .createSession, q =>
    ({ server with sessions := server.sessions + 1 }, f.status,
      f.createdSession q (server.sessions + 1))
  | .activateSession, _ => (server, f.status, ⟨f.nonce.getD (nonceOf 8), f.statuses.getD []⟩)
  | .closeSession, _ => (server, f.status, ())
  | .read, q =>
    (server, f.status, f.values.getD (q.nodes.map fun _ =>
      f.value.getD ⟨.int32 (-1), .good, none, none⟩))
  | .write, q => (server, f.status, f.statusesFor q.nodes)
  | .createSubscription, q =>
    ({ server with subscriptions := server.subscriptions + 1 }, f.status,
      ⟨f.subscription.getD (UInt32.ofNat (100 + server.subscriptions)),
        f.revision q.publishingInterval q.lifetimeCount q.maxKeepAliveCount⟩)
  | .modifySubscription, q =>
    (server, f.status, f.revision q.publishingInterval q.lifetimeCount q.maxKeepAliveCount)
  | .setPublishingMode, q => (server, f.status, f.statusesFor q.subscriptions)
  | .deleteSubscriptions, q => (server, f.status, f.statusesFor q.subscriptions)
  | .createMonitoredItems, q =>
    match f.items with
    | some results => (server, f.status, results)
    | none =>
      ({ server with items := server.items + q.items.length }, f.status,
        q.items.zipIdx.map fun ((_, r), i) => Sample.grantedItem (5000 + server.items + i) r)
  | .deleteMonitoredItems, q => (server, f.status, f.statusesFor q.itemIds)
  | .publish, _ => (server, f.status, f.publication)
  | .republish, q =>
    match f.republished <|> server.retained.lookup (q.subscription, q.sequenceNumber) with
    | some m => (server, f.status, m)
    | none =>
      (server, if f.status = .good then .badMessageNotAvailable else f.status, default)

/-- An answer in which nothing is prescribed. -/
def plain : ReplyFields where
  status := .good
  sessionId := none
  token := none
  timeout := none
  nonce := none
  certificate := none
  maxRequestSize := 0
  statuses := none
  values := none
  value := none
  subscription := none
  interval := none
  lifetime := none
  keepAlive := none
  items := none
  publisher := 0
  message := default
  available := none
  more := false
  republished := none

end ReplyFields

namespace ScriptedServer

/-- Carries out a scripted reply; there is none if the request is held. -/
def reply? (r : ScriptedReply) (request : Request) (server : ScriptedServer) :
    ScriptedServer × Option Reply :=
  let header (status : StatusCode) : ResponseHeader :=
    ⟨default, request.header.requestHandle, status⟩
  match r with
  | .hold => (server, none)
  | .fail e => (server, some (.error e))
  | .foreign s status => (server, some (.ok ⟨s, header status, s.blankAnswer⟩))
  | .respond f =>
    let (server, status, answer) := f.answer server request.service request.query
    (server, some (.ok ⟨request.service, header status, answer⟩))

/-- What becomes of a request for which nothing is prescribed. -/
def unscripted (s : Service) : ScriptedReply :=
  if s = .publish then .hold else .respond .plain

def receive (p : Posted) (server : ScriptedServer) : ScriptedServer × Option Reply :=
  let (found, scripts) := takeScript p.request.service server.scripts
  let server := { server with scripts, log := server.log ++ [p.request] }
  match server.reply? (found.getD (unscripted p.request.service)) p.request with
  | (server, some reply) => (server, some reply)
  | (server, none) => ({ server with held := server.held ++ [p] }, none)

instance : Server ScriptedServer := ⟨receive⟩

/-- Which of the held requests is to be answered. -/
inductive Pick where
  | oldest
  | newest
  | nth (index : Nat)

/-- The requests of a service that are held, in the order in which they came. -/
def heldFor (s : Service) (server : ScriptedServer) : List Posted :=
  server.held.filter (·.request.service = s)

def pick? (s : Service) (pick : Pick) (server : ScriptedServer) : Option Posted :=
  match pick with
  | .oldest => (server.heldFor s).head?
  | .newest => (server.heldFor s).getLast?
  | .nth i => (server.heldFor s)[i]?

/-- Answers a held request; tells which exchange it belongs to. -/
def answer? (s : Service) (pick : Pick) (r : ScriptedReply) (server : ScriptedServer) :
    Option (ScriptedServer × ExchangeId × Reply) := do
  let posted ← server.pick? s pick
  let server := { server with held := server.held.filter (·.exchange != posted.exchange) }
  match server.reply? r posted.request with
  | (server, some reply) => some (server, posted.exchange, reply)
  | (_, none) => none

end ScriptedServer

end OpcUa.Simulation
