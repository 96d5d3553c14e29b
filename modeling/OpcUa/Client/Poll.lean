import OpcUa.Client.Application
import OpcUa.Client.Publishing
import OpcUa.Subscription.Workers

/-!
# Running the tasks of a client

* `Client.poll`: lets one task run until it has to wait.
* `Client.release`, `Client.reclaim`: what ends when the application has let go of the client.
-/

namespace OpcUa

/-! ## Letting go -/

/-- Whether a job needs the subscription manager. -/
def Job.usesManager : Job → Bool
  | .operate _ => true
  | .disconnect managed => managed
  | _ => false

/-- Whether a job needs the client. A request without a session only needs the channel. -/
def Job.usesClient : Job → Bool
  | .send .. => false
  | _ => true

namespace SubscriptionManager

/-- Whether an attempt or a recovery is in progress. -/
def isBusy (m : SubscriptionManager) : Bool := !(m.attempts.isEmpty && m.recoveries.isEmpty)

/-- The application has let go of the manager. The delivery queue lasts as long as there may be
something to deliver. -/
def abandon (m : SubscriptionManager) : SubscriptionManager :=
  let m := m.shutDown
  if m.isBusy || m.delivery.closed then m else { m with delivery := m.delivery.close }

end SubscriptionManager

namespace SessionDriver

/-- Asks the driver to end, unless that has been done. -/
def requestShutdown (d : SessionDriver) : SessionDriver :=
  if d.commands.any fun c => c matches .shutdown then d else d.enqueue .shutdown

end SessionDriver

namespace Client

/-- Ends the manager and the session driver of a released client when no task uses them. -/
def reclaim (c : Client) : Client :=
  if c.released then
    let c := if c.calls.any (·.2.job.usesManager) then c else c.withManager (·.abandon)
    if !c.calls.any (·.2.job.usesClient) && c.manager.all fun m => !m.running && !m.isBusy then
      c.withService fun s => { s with driver := s.driver.requestShutdown }
    else c
  else c

/-- The application lets go of the client. -/
def release (c : Client) : Client := { c with released := true }.reclaim

/-! ## The session driver -/

/-- Performs at most `n` commands of the driver. -/
def runCommands : Nat → Client → Client
  | 0, c => c
  | n + 1, c =>
    if c.service.driver.commands.isEmpty then c
    else
      let (driver, exchange) := c.service.driver.step (c.awaits c.service.driver.promise)
      let c := c.withService ({ · with driver })
      runCommands n (match exchange with | some x => c.startExchange x | none => c)

/-- Performs the commands of the driver. A command adds at most one, and that one adds none. -/
def pollDriver (c : Client) : Client := c.runCommands (2 * c.service.driver.commands.length)

def pollSessionTask (id : CallId) (c : Client) : Run :=
  match c.sessionTasks.lookup id with
  | none => (c, none)
  | some task =>
    let (service, progress) := c.service.advanceTask task
    let c := { c with service }
    match progress with
    | .waits task posted => (c.setSessionTask id task, posted)
    | .done => (c.dropSessionTask id, none)

/-! ## All tasks -/

/-- What a run of a task comes to. -/
structure Polled where
  client : Client
  /-- A request that has been sent and whose reply the task waits for. -/
  posted : Option Posted
  /-- Whether the task lets others run although it can go on. -/
  yields : Bool

/-- The workers of the queues run through the manager alone. -/
def pollWorker (run : SubscriptionManager → SubscriptionManager × Bool) (c : Client) : Polled :=
  match c.manager with
  | none => ⟨c, none, false⟩
  | some m =>
    let (m, yields) := run m
    ⟨{ c with manager := some m }, none, yields⟩

def pollTask (t : TaskId) (c : Client) : Polled :=
  let ofRun : Run → Polled := fun (c, posted) => ⟨c, posted, false⟩
  match t with
  | .driver => ⟨c.pollDriver, none, false⟩
  | .processing => c.pollWorker (·.processPending)
  | .delivery => c.pollWorker (·.deliverPending)
  | .session id => ofRun (c.pollSessionTask id)
  | .call id => ofRun (c.pollCall id)
  | .attempt id answerFirst => ofRun (c.pollAttempt id answerFirst)
  | .recovery id => ofRun (c.pollRecovery id)

/-- Lets a task run until it has to wait. -/
def poll (t : TaskId) (c : Client) : Polled :=
  let p := c.pollTask t
  { p with client := p.client.reclaim }

end Client

end OpcUa
