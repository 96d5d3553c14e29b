import OpcUa.Simulation.Outcome
import OpcUa.Simulation.RecordingServer

/-!
# The bench

A client that is connected to a recording server, with a listener that records what happens to
subscriptions and a recorder on every item. Subscriptions are known by the identifiers that the
server gave them.

* `Bench.connect?`: a bench whose client has a session.
* `Bench.perform`: a step and its result.
* `Bench.run`: what is to be seen after every step.
-/

namespace OpcUa.Simulation

/-! ## Steps -/

/-- What the server is told. -/
inductive ServerStep where
  | refuseCreate (on : Bool)
  | refuseActivate (on : Bool)
  | refuseReads (on : Bool)
  | hold (service : Service)
  | release (service : Service)
  | revise (revision : RevisedSubscription)
  | rejectNode (node : NodeId)
  | retain (id : SubscriptionId) (number : SequenceNumber) (message : NotificationMessage)
  | setValue (value : DataValue)
  | nextRead (status : StatusCode)
  /-- Answers the oldest Publish request. -/
  | respond (status : StatusCode) (answer : PublishAnswer)
  /-- The transport fails for the oldest Publish request. -/
  | fail (error : Error)
  | failNewest (error : Error)

inductive BenchCall where
  | job (job : Job)
  | operate (id : SubscriptionId) (op : SubscriptionKey → Operation)
  | deleteItems (id : SubscriptionId) (handles : List ClientHandle)

inductive BenchStep where
  | server (step : ServerStep)
  | advance (millis : Nat)
  /-- Lets a short while pass. -/
  | settle
  /-- Waits until so many Publish requests are parked. -/
  | await (publishes : Nat)
  | batch (steps : List BenchStep)
  /-- Asks when the session was activated and the subscription created. -/
  | times (id : SubscriptionId)
  /-- Begins a call, which is strict if the caller takes nothing but full success. -/
  | call (name : String) (strict : Bool) (call : BenchCall)
  | idle

inductive BenchResult where
  | none
  | started
  | noSubscription
  | flag (b : Bool)
  /-- Whether there are a session and the subscription, and hence their times. -/
  | times (session subscription : Bool)
  | batch (results : List BenchResult)

namespace Bench

/-- A call that has ended. -/
structure Done where
  name : String
  strict : Bool
  outcome : Except Error Outcome

/-- Whether a call got everything that it asked for. -/
def Done.isFull (d : Done) : Bool :=
  match d.outcome with
  | .ok (.items outcomes) => outcomes.all (·.isOk)
  | .ok _ => true
  | .error _ => false

end Bench

structure Bench where
  host : Host RecordingServer
  /-- The names of the calls that are strict. -/
  strict : List String
  /-- The subscriptions that the application has got, the latest first. -/
  subscriptions : List (SubscriptionId × SubscriptionKey)
  /-- The items that the application has got. -/
  items : List (ClientHandle × ItemKey)
  /-- The calls that have ended since the last look. -/
  done : List Bench.Done
  /-- How many requests have been looked at. -/
  seen : Nat

namespace Bench

def client (b : Bench) : Client := b.host.client

def server (b : Bench) : RecordingServer := b.host.server

def manager? (b : Bench) : Option SubscriptionManager := b.client.manager

def changeServer (f : RecordingServer → RecordingServer) (b : Bench) : Bench :=
  { b with host := { b.host with server := f b.host.server } }

/-! ## The server -/

/-- Gives a reply to a request that was held back. -/
def deliver (p : Posted) (reply : Reply) (b : Bench) : Bench :=
  { b with host := b.host.deliver p.exchange reply }

/-- Opens a gate. The request that passes it takes its turn now; what it is answered is settled
when everything runs. -/
def release (s : Service) (b : Bench) : Bench :=
  match b.server.release s b.client.service.exchanges.isOpen with
  | (server, none) => b.changeServer fun _ => server
  | (server, some p) => (b.changeServer fun _ => server).deliver p (server.reply p.request).2

/-- Answers the requests that have passed a gate. -/
def answerPassed : List Posted → Bench → Bench
  | [], b => b
  | p :: rest, b =>
    let (server, reply) := b.server.reply p.request
    answerPassed rest ((b.changeServer fun _ => server).deliver p reply)

/-- Deals with a Publish request that was parked; false if there is none. -/
def dispose (taken : Option (RecordingServer × Posted)) (reply : Request → Reply) (b : Bench) :
    Bench × BenchResult :=
  match taken with
  | none => (b, .flag false)
  | some (server, p) => ((b.changeServer fun _ => server).deliver p (reply p.request), .flag true)

def performServer (b : Bench) : ServerStep → Bench × BenchResult
  | .refuseCreate on => (b.changeServer ({ · with refusesCreate := on }), .none)
  | .refuseActivate on => (b.changeServer ({ · with refusesActivate := on }), .none)
  | .refuseReads on => (b.changeServer ({ · with refusesReads := on }), .none)
  | .hold s => (b.changeServer (·.hold s), .none)
  | .release s => (b.release s, .none)
  | .revise revision => (b.changeServer ({ · with revision := some revision }), .none)
  | .rejectNode node =>
    (b.changeServer fun s => { s with rejectedNodes := node :: s.rejectedNodes }, .none)
  | .retain id number m =>
    (b.changeServer fun s => { s with retained := ((id, number), m) :: s.retained }, .none)
  | .setValue value => (b.changeServer ({ · with value }), .none)
  | .nextRead status => (b.changeServer ({ · with nextRead := some status }), .none)
  | .respond status answer =>
    b.dispose b.server.takeOldest? (RecordingServer.publicationFor · status answer)
  | .fail e => b.dispose b.server.takeOldest? fun _ => .error e
  | .failNewest e => b.dispose b.server.takeNewest? fun _ => .error e

/-! ## Calls -/

/-- Takes note of a call that has ended. A strict caller gets nothing unless it gets everything. -/
def conclude (b : Bench) (f : Finished) : Bench :=
  let d : Done := ⟨f.name, b.strict.contains f.name, f.outcome⟩
  let b := { b with done := b.done ++ [d] }
  if d.strict && !d.isFull then b
  else
    match f.result with
    | .operated (.ok (.created k)) =>
      { b with subscriptions := ((f.subscription k).id, k) :: b.subscriptions }
    | .operated (.ok (.items outcomes)) =>
      let got := outcomes.filterMap fun o =>
        o.toOption.bind fun k => (f.client.manager.bind (·.item? k)).map fun i => (i.handle, k)
      { b with items := b.items ++ got }
    | _ => b

/-- Takes note of the calls that have ended. -/
def collect (b : Bench) : Bench :=
  b.host.finished.foldl conclude { b with host := { b.host with finished := [] } }

def begin (name : String) (strict : Bool) (job : Job) (b : Bench) : Bench × BenchResult :=
  ({ b with
      host := b.host.begin name job
      strict := if strict then name :: b.strict else b.strict.filter (· != name) }, .started)

def call (name : String) (strict : Bool) (c : BenchCall) (b : Bench) : Bench × BenchResult :=
  match c with
  | .job j => b.begin name strict j
  | .operate id op =>
    match b.subscriptions.lookup id with
    | some k => b.begin name strict (.operate (op k))
    | none => (b, .noSubscription)
  | .deleteItems id handles =>
    match b.subscriptions.lookup id with
    | some k =>
      b.begin name strict (.operate (.deleteItems k (handles.filterMap fun h => b.items.lookup h)))
    | none => (b, .noSubscription)

/-! ## Time -/

/-- Lets everything run until nothing can go on. -/
def settle (b : Bench) : Bench :=
  let b := b.answerPassed b.server.passed
  let b := b.changeServer ({ · with passed := [] })
  { b with host := b.host.settle }.collect

/-- Lets time pass millisecond by millisecond. What is due at the end of it is not done yet. -/
def elapse : Nat → Bench → Bench
  | 0, b => b
  | millis + 1, b =>
    let b := b.settle
    elapse millis { b with host := b.host.advance 1 }

/-- Looks every two milliseconds whether so many Publish requests are parked. -/
def await (publishes : Nat) : Nat → Bench → Bench × Bool
  | 0, b => (b, publishes ≤ b.server.parked.length)
  | looks + 1, b =>
    if publishes ≤ b.server.parked.length then (b, true) else await publishes looks (b.elapse 2)

/-- How long a short while is, in milliseconds. -/
def shortWhile : Nat := 50

/-- How often the bench looks again before it gives up, after five seconds. -/
def looks : Nat := 2500

/-! ## All steps -/

mutual

/-- Takes a step; what it sets off has not happened yet. -/
def perform (b : Bench) : BenchStep → Bench × BenchResult
  | .server step => b.performServer step
  | .advance millis => ({ b with host := b.host.advance millis }, .none)
  | .settle => (b.elapse shortWhile, .none)
  | .await publishes =>
    let (b, enough) := b.await publishes looks
    (b, .flag enough)
  | .batch steps =>
    let (b, results) := performAll b steps
    (b, .batch results)
  | .times id =>
    (b, .times b.client.service.driver.current?.isSome (b.subscriptions.lookup id).isSome)
  | .call name strict c => b.call name strict c
  | .idle => (b, .none)

def performAll (b : Bench) : List BenchStep → Bench × List BenchResult
  | [] => (b, [])
  | step :: rest =>
    let (b, r) := perform b step
    let (b, rs) := performAll b rest
    (b, r :: rs)

end

/-! ## Looks -/

/-- What is to be seen of an item: all values that its recorder has seen, and the last value. -/
structure ItemView where
  handle : ClientHandle
  values : List Variant
  last : Option DataValue

/-- What the listener has seen of a subscription. -/
structure SubscriptionView where
  id : SubscriptionId
  keepAlives : Nat
  numbers : List SequenceNumber

/-- What is to be seen of a bench. Records of the server are those since the last look. -/
structure Look where
  state : SessionStateKind
  sessions : SessionStats
  manager : Option SubscriptionManager
  parked : Nat
  mostParked : Nat
  counts : List (Service × Nat)
  /-- The requests by service. -/
  requests : List Request
  handles : List UInt32
  acknowledgements : List (List Acknowledgement)
  republished : List (SubscriptionId × SequenceNumber)
  subscriptions : List SubscriptionView
  statuses : List (SubscriptionId × StatusCode)
  items : List ItemView
  pending : List String
  done : List Done

/-- Everything that the functions of the application have seen. -/
def journal (b : Bench) : List Observation := (b.manager?.map (·.journal)).getD []

def itemView (b : Bench) (handle : ClientHandle) (k : ItemKey) : ItemView where
  handle
  values := b.journal.filterMap fun
    | .value _ h v => if h = handle then some v.value else none
    | _ => none
  last := (b.manager?.bind (·.item? k)).bind (·.lastValue)

def subscriptionView (b : Bench) (id : SubscriptionId) : SubscriptionView where
  id
  keepAlives := b.journal.countP fun
    | .notice _ (.keepAlive i _) => i == id
    | _ => false
  numbers := b.journal.filterMap fun
    | .notice _ (.message i number) => if i = id then some number else none
    | _ => none

def statuses (b : Bench) : List (SubscriptionId × StatusCode) :=
  b.journal.filterMap fun
    | .notice _ (.statusChanged id status) => some (id, status)
    | _ => none

def look (b : Bench) : Bench × Look :=
  let log := b.server.log.drop b.seen
  ({ b with done := [], seen := b.server.log.length },
    { state := b.client.service.driver.state.kind
      sessions := b.client.service.driver.stats
      manager := b.manager?
      parked := b.server.parked.length
      mostParked := b.server.mostParked
      counts := b.server.counts
      requests := log.mergeSort fun a b => a.service.name ≤ b.service.name
      handles := (log.map (·.header.requestHandle)).mergeSort fun a b => a ≤ b
      acknowledgements := RecordingServer.acknowledgements log
      republished := RecordingServer.republished log
      subscriptions := (b.subscriptions.map (·.1)).eraseDups.map b.subscriptionView
      statuses := b.statuses
      items := b.items.map fun (handle, k) => b.itemView handle k
      pending := b.host.pending
      done := b.done })

/-! ## Runs -/

/-- Connects a client to the server after the steps of a setup. There is no bench if the client
does not get a session. -/
def connect? (config : ClientConfig) (server : RecordingServer) (setup : List ServerStep) :
    Option Bench :=
  match Client.create config server.channel with
  | .error _ => none
  | .ok client =>
    let host := Host.ofClient client server (.steady "listener" true) (.always "recorder" false)
    let b : Bench := ⟨host, [], [], [], [], 0⟩
    let b := setup.foldl (fun b step => (b.performServer step).1) b
    let host := (b.host.begin "connect" .connect).settle
    match host.finished with
    | [⟨_, .connected (.ok ()), _⟩] => some { b with host := { host with finished := [] } }
    | _ => none

/-- Takes the steps one after the other, and a look after each. -/
def runFrom (b : Bench) : List BenchStep → List (BenchResult × Look)
  | [] => []
  | step :: rest =>
    let (b, result) := b.perform step
    let (b, seen) := b.settle.look
    (result, seen) :: b.runFrom rest

/-- The first look, and the result and the look of every step. -/
def run (steps : List BenchStep) (b : Bench) : Look × List (BenchResult × Look) :=
  let (b, seen) := b.look
  (seen, b.runFrom steps)

end Bench

end OpcUa.Simulation
