import OpcUa.Simulation.Outcome
import OpcUa.Simulation.ScriptedServer

/-!
# Scenarios

A scenario is a list of steps that an application, a scripted server and the clock take. After every
step everything runs until nothing can go on; then a snapshot is taken. Subscriptions, sessions and
calls are known by the names that the steps give them.

* `Scenario.perform`: a step and its result.
* `Scenario.snapshot`: what is to be seen between two steps.
* `Scenario.run`: the snapshots of a whole scenario.
-/

namespace OpcUa.Simulation

/-! ## Steps -/

/-- A call that a step begins. -/
inductive CallStep where
  | job (job : Job)
  | disconnect
  | operate (subscription : String) (op : SubscriptionKey → Operation)
  | deleteItems (subscription : String) (handles : List ClientHandle)

/-- A change of, or a question to, a registry that belongs to the scenario. -/
inductive RegistryStep where
  | insert (subscription : String)
  | remove (id : SubscriptionId)
  | get (id : SubscriptionId)
  | contains (id : SubscriptionId)

inductive Step where
  | script (service : Service) (replies : List ScriptedReply)
  | retain (id : SubscriptionId) (number : SequenceNumber) (message : NotificationMessage)
  | answer (service : Service) (pick : ScriptedServer.Pick) (reply : ScriptedReply)
  | advance (millis : Nat)
  | batch (steps : List Step)
  | call (name : String) (call : CallStep)
  /-- Looks at the session in use, and remembers it under a name. -/
  | current (name : String)
  | shutdown
  | event (event : SessionEvent)
  /-- The session of this name has been activated, or else one that is built for the event. -/
  | activated (session : String) (created : CreateSessionAnswer) (nonce : ActivateSessionAnswer)
  | invalidate (session : String) (error : SessionError)
  | header (session : String) (hint : Duration)
  | nextHandle
  | subscription (name : String)
  | lookup (id : SubscriptionId)
  | item (handle : ClientHandle)
  | callback (handle : ClientHandle) (callbacks : Callbacks)
  | listener (listener : Listener)
  /-- From now on the values of an item are received under a name. -/
  | watch (name : String) (handle : ClientHandle)
  | receive (name : String)
  | diagnostics
  | registry (steps : List RegistryStep)
  | drop
  | idle

/-! ## Results -/

/-- What a step needs and does not find. -/
inductive Missing where
  | client
  | subscription
  | item
  | session
  | watch

/-- A session with its number, which tells when it was first seen. -/
structure NumberedSession where
  number : Nat
  session : Session
  valid : Bool

inductive RegistryAnswer where
  | flag (b : Bool)
  | names (names : Option (List String))

/-- The answer to a step of a registry, and what the registry holds after it. -/
structure RegistryResult where
  answer : RegistryAnswer
  ids : List SubscriptionId
  shortestKeepAlive : Option Float

inductive StepResult where
  | none
  | started
  | missing (what : Missing)
  | flag (b : Bool)
  | batch (results : List StepResult)
  | session (s : Option NumberedSession)
  | header (h : RequestHeader)
  | handle (h : UInt32)
  | subscription (s : Subscription)
  | names (names : Option (List String))
  | item (i : MonitoredItem)
  /-- The values that were received, after the number of those that were lost. -/
  | received (lost : Nat) (values : List DataValue)
  | diagnostics (client manager driver : String) (managed : Option String)
  | registry (results : List RegistryResult)
  /-- The session of the step cannot be built. -/
  | crashed

namespace StepResult

mutual

/-- Whether the step, or one of the batch, could not be taken to its end. -/
def isCrash : StepResult → Bool
  | crashed => true
  | batch results => hasCrash results
  | _ => false

def hasCrash : List StepResult → Bool
  | [] => false
  | r :: rest => isCrash r || hasCrash rest

end

end StepResult

/-! ## The state of a scenario -/

structure Scenario where
  host : Host ScriptedServer
  /-- Whether the client is one that connects by itself and comes with its manager. -/
  managed : Bool
  /-- Whether the application has the client. -/
  reachable : Bool
  /-- The sessions in the order in which they were first seen. -/
  sessions : List Session
  sessionNames : List (String × Session)
  subscriptionNames : List (String × SubscriptionKey)
  /-- The items that are watched, and how many of the values have been received. -/
  watches : List (String × ItemKey × Nat)
  registry : Registry

namespace Scenario

def client (s : Scenario) : Client := s.host.client

def manager? (s : Scenario) : Option SubscriptionManager := s.client.manager

def change (f : Client → Client) (s : Scenario) : Scenario := { s with host := s.host.change f }

def changeManager (f : SubscriptionManager → SubscriptionManager) (s : Scenario) : Scenario :=
  s.change (·.withManager f)

def isValid (s : Scenario) (x : Session) : Bool := s.client.service.driver.isValid x

/-- The number of a session, which it gets when it is first seen. -/
def number (x : Session) (s : Scenario) : Scenario × Nat :=
  match s.sessions.findIdx? (·.key = x.key) with
  | some n => (s, n)
  | none => ({ s with sessions := s.sessions ++ [x] }, s.sessions.length)

def nameSession (name : String) (x : Session) (s : Scenario) : Scenario :=
  { s with sessionNames := (name, x) :: s.sessionNames }

/-- The subscription of a name, also if it was deleted. -/
def subscriptionKey? (name : String) (s : Scenario) : Option SubscriptionKey :=
  s.subscriptionNames.lookup name

/-- The item of a handle, also if it was deleted. -/
def itemKey? (handle : ClientHandle) (s : Scenario) : Option ItemKey :=
  s.manager?.bind fun m => m.items.findIdx? (·.handle = handle)

def item? (handle : ClientHandle) (s : Scenario) : Option MonitoredItem :=
  (s.itemKey? handle).bind fun k => s.manager?.bind (·.item? k)

/-- The names of a subscription, in order. A name belongs to the last one that was given it. -/
def namesOf (k : SubscriptionKey) (s : Scenario) : List String :=
  let names := (s.subscriptionNames.map (·.1)).eraseDups
  (names.filter fun name => s.subscriptionKey? name = some k).mergeSort fun a b => a ≤ b

/-! ## Calls -/

/-- The job of a call, unless it needs something that is not there. -/
def job (c : CallStep) (s : Scenario) : Except Missing Job :=
  match c with
  | .job (.send service handle limit) => .ok (.send service handle limit)
  | c =>
    if s.reachable then
      match c with
      | .job j => .ok j
      | .disconnect => .ok (.disconnect s.managed)
      | .operate name op =>
        match s.subscriptionKey? name with
        | some k => .ok (.operate (op k))
        | none => .error .subscription
      | .deleteItems name handles =>
        match s.subscriptionKey? name with
        | some k => .ok (.operate (.deleteItems k (handles.filterMap fun h => s.itemKey? h)))
        | none => .error .subscription
    else .error .client

def call (name : String) (c : CallStep) (s : Scenario) : Scenario × StepResult :=
  match s.job c with
  | .ok job => ({ s with host := s.host.begin name job }, .started)
  | .error what => (s, .missing what)

/-! ## Sessions -/

def seeSession (x : Session) (s : Scenario) : Scenario × NumberedSession :=
  let (s, number) := s.number x
  (s, ⟨number, x, s.isValid x⟩)

def current (name : String) (s : Scenario) : Scenario × StepResult :=
  match s.client.service.driver.current? with
  | none => (s, .session none)
  | some x =>
    let (s, seen) := (s.nameSession name x).seeSession x
    (s, .session (some seen))

def event (e : SessionEvent) (s : Scenario) : Scenario :=
  s.change (·.withService fun c => { c with driver := c.driver.enqueue (.event none e) })

def activated (name : String) (created : CreateSessionAnswer) (nonce : ActivateSessionAnswer)
    (s : Scenario) : Scenario × StepResult :=
  match s.sessionNames.lookup name with
  | some x => (s.event (.activateSucceeded x), .none)
  | none =>
    match s.client.service.establish? created nonce with
    | none => (s, .crashed)
    | some (x, service) =>
      let (s, _) := (s.change fun c => { c with service }).number x
      (s.event (.activateSucceeded x), .none)

def invalidate (name : String) (error : SessionError) (s : Scenario) : Scenario × StepResult :=
  match s.sessionNames.lookup name with
  | none => (s, .missing .session)
  | some x =>
    (s.change (·.withService fun c => { c with driver := c.driver.invalidate x error }), .none)

def header (name : String) (hint : Duration) (s : Scenario) : Scenario × StepResult :=
  match s.sessionNames.lookup name with
  | none => (s, .missing .session)
  | some x =>
    let (h, service) := s.client.service.header x.authenticationToken hint
    (s.change fun c => { c with service }, .header h)

def nextHandle (s : Scenario) : Scenario × StepResult :=
  let (h, handles) := s.client.service.handles.take
  (s.change (·.withService ({ · with handles })), .handle h)

/-! ## Watches -/

def watch (name : String) (handle : ClientHandle) (s : Scenario) : Scenario × StepResult :=
  match s.itemKey? handle, s.item? handle with
  | some k, some i => ({ s with watches := (name, k, i.channel.sent) :: s.watches }, .none)
  | _, _ => (s, .missing .item)

def receive (name : String) (s : Scenario) : Scenario × StepResult :=
  match s.watches.lookup name with
  | none => (s, .missing .watch)
  | some (k, position) =>
    match s.manager?.bind (·.item? k) with
    | none => (s, .missing .watch)
    | some i =>
      let (lost, values) := i.channel.receive position
      ({ s with watches := (name, k, i.channel.sent) :: s.watches }, .received lost values)

/-! ## Registries -/

def registryResult (answer : RegistryAnswer) (s : Scenario) : RegistryResult where
  answer
  ids := s.registry.keys
  shortestKeepAlive := shortestKeepAlive? (s.registry.values.filterMap fun k =>
    (s.manager?.bind (·.subscription? k)).map (·.parameters))

def registryStep (step : RegistryStep) (s : Scenario) : Scenario × RegistryResult :=
  match step with
  | .insert name =>
    match s.subscriptionKey? name, s.manager? with
    | some k, some m =>
      let s := { s with registry := s.registry.insert (m.idOf k) k }
      (s, s.registryResult (.flag true))
    | _, _ => (s, s.registryResult (.flag false))
  | .remove id =>
    let names := (s.registry.find? id).map fun k => s.namesOf k
    let s := { s with registry := s.registry.erase id }
    (s, s.registryResult (.names names))
  | .get id => (s, s.registryResult (.names ((s.registry.find? id).map fun k => s.namesOf k)))
  | .contains id => (s, s.registryResult (.flag (s.registry.contains id)))

def registrySteps : List RegistryStep → Scenario → Scenario × List RegistryResult
  | [], s => (s, [])
  | step :: rest, s =>
    let (s, r) := s.registryStep step
    let (s, rs) := registrySteps rest s
    (s, r :: rs)

/-! ## Steps that need no client -/

def answer (service : Service) (pick : ScriptedServer.Pick) (reply : ScriptedReply)
    (s : Scenario) : Scenario × StepResult :=
  match s.host.server.answer? service pick reply with
  | none => (s, .flag false)
  | some (server, exchange, reply) =>
    ({ s with host := { s.host with server }.deliver exchange reply }, .flag true)

def changeServer (f : ScriptedServer → ScriptedServer) (s : Scenario) : Scenario :=
  { s with host := { s.host with server := f s.host.server } }

def subscription (name : String) (s : Scenario) : StepResult :=
  match (s.subscriptionKey? name).bind fun k => s.manager?.bind (·.subscription? k) with
  | some x => .subscription x
  | none => .missing .subscription

def callback (handle : ClientHandle) (callbacks : Callbacks) (s : Scenario) :
    Scenario × StepResult :=
  match s.itemKey? handle with
  | some k => (s.changeManager (·.setCallbacks k callbacks), .none)
  | none => (s, .missing .item)

/-! ## All steps -/

/-- Takes a step that needs the client. -/
def withClient (f : Scenario → Scenario × StepResult) (s : Scenario) : Scenario × StepResult :=
  if s.reachable then f s else (s, .missing .client)

def diagnostics (s : Scenario) : StepResult :=
  .diagnostics s.client.service.diagnostic ((s.manager?.map (·.diagnostic)).getD "")
    s.client.service.driver.diagnostic (if s.managed then some s.client.diagnostic else none)

def lookup (id : SubscriptionId) (s : Scenario) : StepResult :=
  .names ((s.manager?.bind (·.registry.find? id)).map fun k => s.namesOf k)

/-- The application lets go of the client. -/
def drop (s : Scenario) : Scenario := { s.change (·.release) with reachable := false }

mutual

/-- Takes a step; what it sets off has not happened yet. -/
def perform (s : Scenario) : Step → Scenario × StepResult
  | .script service replies => (s.changeServer (·.script service replies), .none)
  | .retain id number message => (s.changeServer (·.retain id number message), .none)
  | .answer service pick reply => s.answer service pick reply
  | .advance millis => ({ s with host := s.host.advance millis }, .none)
  | .batch steps =>
    let (s, results) := performAll s steps
    (s, .batch results)
  | .call name c => s.call name c
  | .current name => s.withClient (·.current name)
  | .shutdown => s.withClient fun s => (s.changeManager (·.shutDown), .flag true)
  | .event e => s.withClient fun s => (s.event e, .none)
  | .activated name created nonce => s.withClient (·.activated name created nonce)
  | .invalidate name error => s.withClient (·.invalidate name error)
  | .header name hint => s.withClient (·.header name hint)
  | .nextHandle => s.withClient (·.nextHandle)
  | .subscription name => (s, s.subscription name)
  | .lookup id => s.withClient fun s => (s, s.lookup id)
  | .item handle => (s, match s.item? handle with | some i => .item i | none => .missing .item)
  | .callback handle c => s.callback handle c
  | .listener l => s.withClient fun s => (s.changeManager (·.addListener l), .none)
  | .watch name handle => s.watch name handle
  | .receive name => s.receive name
  | .diagnostics => s.withClient fun s => (s, s.diagnostics)
  | .registry steps =>
    let (s, results) := s.registrySteps steps
    (s, .registry results)
  | .drop => s.withClient fun s => (s.drop, .none)
  | .idle => (s, .none)

def performAll (s : Scenario) : List Step → Scenario × List StepResult
  | [] => (s, [])
  | step :: rest =>
    let (s, r) := perform s step
    let (s, rs) := performAll s rest
    (s, r :: rs)

end

/-! ## Snapshots -/

/-- A call that has ended, with the number of the session that it got, if it got one. -/
structure Done where
  name : String
  outcome : Except Error Outcome
  number : Option Nat

/-- What is to be seen of the session driver. -/
inductive DriverView where
  | absent
  | live (state : SessionStateKind) (current : Option Nat) (stats : SessionStats)
      (disconnected : Bool)
  /-- The application has let go of the client; only the state is to be seen. -/
  | dropped (state : SessionStateKind)

structure Snapshot where
  driver : DriverView
  manager : Option SubscriptionManager
  /-- How many requests of each service are held. -/
  held : List (Service × Nat)
  pending : List String
  done : List Done
  /-- Which of the numbered sessions are valid. -/
  valid : List Bool
  /-- The requests that have come, by service. -/
  requests : List Request
  handles : List UInt32
  events : List Observation

/-- Takes note of a call that has ended. -/
def conclude (f : Finished) (s : Scenario) : Scenario × Done :=
  match f.outcome with
  | .ok (.session x valid) =>
    let (s, number) := (s.nameSession f.name x).number x
    (s, ⟨f.name, .ok (.session x valid), some number⟩)
  | .ok (.created k x) =>
    ({ s with subscriptionNames := (f.name, k) :: s.subscriptionNames },
      ⟨f.name, .ok (.created k x), none⟩)
  | outcome =>
    let connected := match f.result with
      | .connected (.ok ()) => true
      | _ => false
    ({ s with reachable := s.reachable || connected }, ⟨f.name, outcome, none⟩)

def concludeAll : List Finished → Scenario → Scenario × List Done
  | [], s => (s, [])
  | f :: rest, s =>
    let (s, d) := s.conclude f
    let (s, ds) := concludeAll rest s
    (s, d :: ds)

def driverView (s : Scenario) : Scenario × DriverView :=
  let d := s.client.service.driver
  if s.reachable then
    let (s, current) := match d.current? with
      | some x =>
        let (s, n) := s.number x
        (s, some n)
      | none => (s, none)
    (s, .live d.state.kind current d.stats s.client.service.disconnected)
  else if s.client.released then (s, .dropped d.state.kind)
  else (s, .absent)

/-- How many requests of each service are held, of those that there are. -/
def heldCounts (server : ScriptedServer) : List (Service × Nat) :=
  (Service.names.map fun (_, service) => (service, (server.heldFor service).length)).filter
    (0 < ·.2)

/-- What has happened since the last snapshot. -/
def snapshot (s : Scenario) : Scenario × Snapshot :=
  let (s, done) := s.concludeAll s.host.finished
  let (s, driver) := s.driverView
  let manager := s.manager?
  let log := s.host.server.log
  let shot : Snapshot := {
    driver
    manager := if s.reachable then manager else none
    held := heldCounts s.host.server
    pending := s.host.pending
    done
    valid := s.sessions.map fun x => s.isValid x
    requests := log.mergeSort fun a b => a.service.name ≤ b.service.name
    handles := (log.map (·.header.requestHandle)).mergeSort fun a b => a ≤ b
    events := (manager.map (·.journal)).getD [] }
  let host := { s.host with
    finished := []
    server := { s.host.server with log := [] }
    client := s.client.withManager ({ · with journal := [] }) }
  ({ s with host }, shot)

def settle (s : Scenario) : Scenario := { s with host := s.host.settle }

/-- Takes the steps one after the other, and a snapshot after each. -/
def runFrom (s : Scenario) : List Step → List (StepResult × Snapshot)
  | [] => []
  | step :: rest =>
    let (s, result) := s.perform step
    let (s, shot) := s.settle.snapshot
    (result, shot) :: s.runFrom rest

/-! ## Beginning -/

/-- The listener of every manager. -/
def firstListener : Listener := .steady "L0" true

/-- The callbacks of every item. -/
def firstCallbacks : Callbacks := .always "cb" false

def ofHost (managed reachable : Bool) (host : Host ScriptedServer) : Scenario :=
  ⟨host, managed, reachable, [], [], [], [], .empty⟩

def hostOf (client : Client) : Host ScriptedServer :=
  .ofClient client .fresh firstListener firstCallbacks

/-- A client that opens its session in a call named `connect`. If the configuration makes no sense,
the call fails and there is no client. -/
def connecting (config : ClientConfig) (channel : Channel) : Scenario :=
  match Client.create config channel with
  | .ok client => ofHost true false ((hostOf client).begin "connect" .connect)
  | .error e =>
    let client := Client.fresh config channel
    ofHost true false
      { hostOf client with finished := [⟨"connect", .connected (.error e), client⟩] }

/-- A client that opens its session when it needs one, with a manager. -/
def lazily (config : ClientConfig) (channel : Channel) : Except Error Scenario := do
  let client ← Client.create config channel
  return ofHost false true (hostOf client.startManager).startListener

/-- The first snapshot of a scenario, and the result and the snapshot of every step. The steps of
the setup come before the client. -/
def run (setup steps : List Step) (s : Scenario) :
    Option (Snapshot × List (StepResult × Snapshot)) :=
  let (s, shot) := (s.performAll setup).1.settle.snapshot
  let rest := s.runFrom steps
  if StepResult.hasCrash (rest.map (·.1)) then none else some (shot, rest)

end Scenario

end OpcUa.Simulation
