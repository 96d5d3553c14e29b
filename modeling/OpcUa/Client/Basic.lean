import OpcUa.Client.SessionTask
import OpcUa.Subscription.Dispatch
import OpcUa.Subscription.Operation
import OpcUa.Subscription.Sequencing

/-!
# The client

A client is a service client with a subscription manager and the tasks that are in progress: the
session driver and its exchanges, the workers of the two queues, the calls of the application, the
Publish attempts and the recoveries. A task runs until it has to wait; `Client.isReady` says which
tasks can go on, and nothing here says in which order they do.
-/

namespace OpcUa

/-- Calls and session tasks are numbered together, in the order in which they begin. -/
abbrev CallId := Nat

/-- What the application asks of a client. -/
inductive Job where
  /-- Opens a session, and starts a subscription manager on it. -/
  | connect
  | session
  | close
  /-- Closes the session for good, and the manager if it belongs to the client. -/
  | disconnect (managed : Bool)
  | read (query : ReadQuery)
  /-- Reads one value, past all caches of the server. -/
  | readValue (target : ReadValueId)
  | write (values : List WriteValue)
  | writeValue (value : WriteValue)
  | republish (subscription : SubscriptionId) (number : SequenceNumber)
  | publish (acknowledgements : List Acknowledgement) (hint : Duration)
  /-- Sends a blank request without a session. -/
  | send (service : Service) (handle : UInt32) (limit : Option Duration)
  | operate (op : Operation)

/-- How far a call is. -/
inductive CallStage where
  | fresh
  | session (wait : SessionWait)
  /-- It waits until the session is closed. -/
  | closing
  | calling (phase : CallPhase)
  | operating (op : PendingOperation) (phase : CallPhase)
  | sending (await : Await)

namespace CallStage

/-- The wait for the session, if that is what the call waits for. -/
def wait? : CallStage → Option SessionWait
  | session w => some w
  | calling phase | operating _ phase => phase.wait?
  | fresh | closing | sending _ => none

/-- The time at which the call gives up waiting. -/
def due? : CallStage → Option Nat
  | calling phase | operating _ phase => phase.due?
  | sending await => await.limit.map (·.2)
  | fresh | session _ | closing => none

end CallStage

structure Call where
  job : Job
  stage : CallStage

/-- How a call has ended. -/
inductive CallResult where
  | connected (outcome : Except Error Unit)
  | session (outcome : Except Error Session)
  | closed
  | disconnected
  | values (outcome : Except Error (List DataValue))
  | value (outcome : Except Error DataValue)
  | statuses (outcome : Except Error (List StatusCode))
  | status (outcome : Except Error StatusCode)
  | republished (outcome : Except Error NotificationMessage)
  | published (outcome : Except Error PublishAnswer)
  | sent (outcome : Except Error (Service × ResponseHeader))
  | operated (outcome : Except Error OperationResult)

/-- A task of the client. -/
inductive TaskId where
  | driver
  | processing
  | delivery
  | session (id : CallId)
  | call (id : CallId)
  /-- An attempt looks at its answer and at the shutdown of the manager. The runtime draws at which
  of them it looks first. -/
  | attempt (id : WorkId) (answerFirst : Bool)
  | recovery (id : WorkId)
  deriving DecidableEq

structure Client where
  service : ServiceClient
  manager : Option SubscriptionManager
  sessionTasks : List (CallId × SessionTask)
  calls : List (CallId × Call)
  /-- The calls that have ended, the last one first. -/
  finished : List (CallId × CallResult)
  nextCall : CallId
  /-- Whether the application has let go of the client. -/
  released : Bool

namespace Client

/-- A client that has not sent anything yet. -/
def fresh (config : ClientConfig) (channel : Channel) : Client where
  service := .fresh config channel
  manager := none
  sessionTasks := []
  calls := []
  finished := []
  nextCall := 0
  released := false

/-- A client with a configuration that makes sense. -/
def create (config : ClientConfig) (channel : Channel) : Except Error Client := do
  config.validate
  return fresh config channel

/-- Starts a subscription manager. -/
def startManager (c : Client) : Client :=
  { c with manager := some (.fresh c.service.config) }

/-! ## Changes -/

def withService (f : ServiceClient → ServiceClient) (c : Client) : Client :=
  { c with service := f c.service }

def withManager (f : SubscriptionManager → SubscriptionManager) (c : Client) : Client :=
  { c with manager := c.manager.map f }

/-- Begins a call of the application. -/
def begin (job : Job) (c : Client) : CallId × Client :=
  (c.nextCall,
    { c with
      calls := c.calls ++ [(c.nextCall, ⟨job, .fresh⟩)]
      nextCall := c.nextCall + 1 })

def setCall (id : CallId) (stage : CallStage) (c : Client) : Client :=
  { c with calls := c.calls.map fun p => if p.1 = id then (id, { p.2 with stage }) else p }

def finish (id : CallId) (result : CallResult) (c : Client) : Client :=
  { c with
    calls := c.calls.filter (·.1 != id)
    finished := (id, result) :: c.finished }

/-- Starts the exchange that the session driver asks for. -/
def startExchange (exchange : SessionExchange) (c : Client) : Client :=
  { c with
    sessionTasks := c.sessionTasks ++ [(c.nextCall, ⟨c.service.driver.epoch, exchange, none⟩)]
    nextCall := c.nextCall + 1 }

def setSessionTask (id : CallId) (task : SessionTask) (c : Client) : Client :=
  { c with sessionTasks := c.sessionTasks.map fun p => if p.1 = id then (id, task) else p }

def dropSessionTask (id : CallId) (c : Client) : Client :=
  { c with sessionTasks := c.sessionTasks.filter (·.1 != id) }

/-- The reply to an exchange has come. -/
def deliver (id : ExchangeId) (reply : Reply) (c : Client) : Client :=
  c.withService fun s => { s with exchanges := s.exchanges.deliver id reply }

/-- Time has passed. -/
def setClock (now : Nat) (c : Client) : Client := c.withService ({ · with clock := now })

/-- The text of a client with its manager. -/
def diagnostic (c : Client) : String :=
  Text.record "UaClient" [("client", c.service.diagnostic),
    ("subscriptions", toString ((c.manager.map (·.registry.size)).getD 0))]

/-! ## Waiting -/

/-- The callers that wait for the session. -/
def waits (c : Client) : List SessionWait :=
  c.calls.filterMap (·.2.stage.wait?) ++
    match c.manager with
    | none => []
    | some m => m.attempts.filterMap (·.2.stage.wait?) ++ m.recoveries.filterMap (·.2.stage.wait?)

/-- Whether some caller waits for a promise. -/
def awaits (c : Client) (p : PromiseId) : Bool := c.waits.contains (.outcome p)

/-- The tasks that there are. An attempt looks at the shutdown first. -/
def tasks (c : Client) : List TaskId :=
  .driver :: (c.sessionTasks.map (.session ·.1) ++ c.calls.map (.call ·.1) ++
    match c.manager with
    | none => []
    | some m =>
      .processing :: .delivery ::
        (m.attempts.map (.attempt ·.1 false) ++ m.recoveries.map (.recovery ·.1)))

def isCallReady (id : CallId) (stage : CallStage) (c : Client) : Bool :=
  match stage with
  | .fresh => true
  | .session w => c.service.driver.isOver w
  | .closing => !c.service.driver.holds id
  | .calling phase | .operating _ phase => c.service.isReady phase
  | .sending await => c.service.isAnswered await

/-- An attempt does not wait for anything once the manager is shut down. -/
def isAttemptReady (m : SubscriptionManager) (stage : AttemptStage) (c : Client) : Bool :=
  match stage with
  | .armed => true
  | .publishing phase => !m.running || c.service.isReady phase
  | .backingOff due => !m.running || due ≤ c.service.clock

def isRecoveryReady (stage : RecoveryStage) (c : Client) : Bool :=
  match stage with
  | .republishing _ none => true
  | .republishing _ (some phase) | .reading _ _ phase => c.service.isReady phase

/-- Whether a task can go on. -/
def isReady (t : TaskId) (c : Client) : Bool :=
  match t with
  | .driver => !c.service.driver.commands.isEmpty
  | .processing => c.manager.any (·.processing.worker == .awake)
  | .delivery => c.manager.any (·.delivery.worker == .awake)
  | .session id => (c.sessionTasks.lookup id).any c.service.isTaskReady
  | .call id => (c.calls.lookup id).any fun call => c.isCallReady id call.stage
  | .attempt id _ => c.manager.any fun m =>
    (m.attempt? id).any fun a => c.isAttemptReady m a.stage
  | .recovery id => c.manager.any fun m =>
    (m.recovery? id).any fun r => c.isRecoveryReady r.stage

/-- The time at which a task goes on in any case. -/
def due? (t : TaskId) (c : Client) : Option Nat :=
  match t with
  | .driver | .processing | .delivery => none
  | .session id => (c.sessionTasks.lookup id).bind (·.due?)
  | .call id => (c.calls.lookup id).bind (·.stage.due?)
  | .attempt id _ => c.manager.bind fun m => (m.attempt? id).bind (·.stage.due?)
  | .recovery id => c.manager.bind fun m => (m.recovery? id).bind (·.stage.due?)

end Client

end OpcUa
