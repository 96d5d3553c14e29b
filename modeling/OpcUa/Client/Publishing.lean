import OpcUa.Client.Recovery

/-!
# Running a Publish attempt

An attempt sends its Publish request on the active session and waits for the answer for as long as
it takes. When the manager is shut down it waits no longer; an attempt that looks at its answer
first may still begin its call then, and may still take the answer that is there.
`Client.pollAttempt` lets an attempt run until it has to wait.
-/

namespace OpcUa

/-- Nobody waits any more for what a call was waiting for. -/
def ServiceClient.abandon (phase : CallPhase) (c : ServiceClient) : ServiceClient :=
  match phase with
  | .session _ => c
  | .exchange _ await => c.forget await

/-- The Publish call of an attempt. The hint is advice for the server; the client waits on. -/
def Attempt.call (a : Attempt) : ServiceCall .publish := ⟨⟨a.acknowledgements⟩, a.hint, none⟩

namespace Client

def completeAttempt (id : WorkId) (a : Attempt) (outcome : Except Error PublishAnswer)
    (c : Client) : Client :=
  c.withManager (·.completeAttempt id a outcome c.service.clock)

/-- The attempt ends because the manager is shut down. -/
def cancelAttempt (id : WorkId) (a : Attempt) (c : Client) : Client :=
  c.completeAttempt id a (.error (.subscription .managerShutdown))

/-- The attempt waits. If the manager is shut down it gives up instead; what has been sent has been
sent. -/
def suspendAttempt (id : WorkId) (a : Attempt) (phase : CallPhase) (posted : Option Posted)
    (m : SubscriptionManager) (c : Client) : Run :=
  if m.running then (c.withManager (·.setAttempt id (.publishing phase)), posted)
  else ((c.withService (·.abandon phase)).cancelAttempt id a, posted)

def startAttempt (id : WorkId) (a : Attempt) (answerFirst : Bool) (m : SubscriptionManager)
    (c : Client) : Run :=
  let c := c.withManager (·.startAttempt a)
  if m.running || answerFirst then
    let (service, start) := c.service.start a.call
    let c := { c with service }
    match start with
    | .failed e => (c.completeAttempt id a (.error (.session e)), none)
    | .pending phase posted => c.suspendAttempt id a phase posted m
  else (c.cancelAttempt id a, none)

def advanceAttempt (id : WorkId) (a : Attempt) (phase : CallPhase) (answerFirst : Bool)
    (m : SubscriptionManager) (c : Client) : Run :=
  if m.running || answerFirst then
    let (service, progress) := c.service.advance a.call phase
    let c := { c with service }
    match progress with
    | .pending phase posted => c.suspendAttempt id a phase posted m
    | .done outcome => (c.completeAttempt id a outcome, none)
  else ((c.withService (·.abandon phase)).cancelAttempt id a, none)

/-- Lets an attempt run until it has to wait. -/
def pollAttempt (id : WorkId) (answerFirst : Bool) (c : Client) : Run :=
  match c.manager with
  | none => (c, none)
  | some m =>
    match m.attempt? id with
    | none => (c, none)
    | some a =>
      match a.stage with
      | .armed => c.startAttempt id a answerFirst m
      | .publishing phase => c.advanceAttempt id a phase answerFirst m
      | .backingOff due =>
        (if !m.running || due ≤ c.service.clock then c.withManager (·.endBackoff id) else c, none)

end Client

end OpcUa
