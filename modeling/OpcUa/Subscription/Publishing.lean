import OpcUa.Subscription.Manager

/-!
# The Publish pipeline

The manager keeps up to `maxPending` Publish requests outstanding, so that the server always has
one to answer. An attempt takes its place in the pipeline by `claim` and gives it back by
`release`; each of them is one access to the counter, and other tasks may run in between.

* `claim_release`: a place that is claimed and given back leaves the counter as it was.
* `completeAttempt`: what the end of a Publish request sets off.
-/

namespace OpcUa.SubscriptionManager

/-- Takes a place, whether there is one or not, and tells how many are taken now. -/
def claim (m : SubscriptionManager) : Nat × SubscriptionManager :=
  (m.inFlight + 1, { m with inFlight := m.inFlight + 1 })

/-- Gives a place back. -/
def release (m : SubscriptionManager) : SubscriptionManager :=
  { m with inFlight := m.inFlight - 1 }

/-- A hint that leaves the server time for as many keep-alives as there may be requests, and a
quarter more. -/
def publishHint (maxPending : Nat) (m : SubscriptionManager) : Duration :=
  let parameters := m.registry.values.filterMap fun k => (m.subscription? k).map (·.parameters)
  match shortestKeepAlive? parameters with
  | none => m.config.requestTimeout
  | some period =>
    if maxPending = 0 then m.config.requestTimeout
    else
      (Duration.ofSeconds? (maxPending.toFloat * period * 1.25 / 1000.0)).getD
        m.config.requestTimeout

/-- Arms an attempt in the place that it has claimed. It takes all acknowledgements with it. -/
def arm (maxPending : Nat) (m : SubscriptionManager) : SubscriptionManager :=
  let hint := m.publishHint maxPending
  let (id, m) := m.nextId
  { m with
    acknowledgements := .empty
    attempts := m.attempts ++ [(id, ⟨m.acknowledgements.pending, hint, .armed⟩)] }

/-- Arms one attempt, if the pipeline has room for it. -/
def armNext? (m : SubscriptionManager) : Option SubscriptionManager :=
  let maxPending := m.maxPending
  let (count, claimed) := m.claim
  if count ≤ maxPending then some (claimed.arm maxPending) else none

/-- Arms at most `n` attempts. -/
def armUpTo : Nat → SubscriptionManager → SubscriptionManager
  | 0, m => m
  | n + 1, m =>
    match m.armNext? with
    | some m => armUpTo n m
    | none => m

/-- Fills the pipeline, unless the manager is shut down. -/
def fillPipeline (m : SubscriptionManager) : SubscriptionManager :=
  if m.running then m.armUpTo (m.maxPending - m.inFlight) else m

/-- An armed attempt begins. -/
def startAttempt (a : Attempt) (m : SubscriptionManager) : SubscriptionManager :=
  { m with stats := m.stats.recordPublishRequest a.acknowledgements.length }

/-- A Publish request has ended. A response goes to the processing queue and makes room for the
next request. After a failure the next request waits for the backoff, and there is none if the
server has too many already. -/
def completeAttempt (id : WorkId) (a : Attempt) (outcome : Except Error PublishAnswer)
    (clock : Nat) (m : SubscriptionManager) : SubscriptionManager :=
  let m := m.release
  match outcome with
  | .ok answer =>
    let m := { m with
      stats := m.stats.recordPublishResponse
      processing := m.processing.submit answer }
    (m.dropAttempt id).fillPipeline
  | .error e =>
    let m := { m with stats := m.stats.recordPublishFailure a.acknowledgements.length }
    if !m.running then m.dropAttempt id
    else if e.status = .badTooManyPublishRequests ∧ 0 < m.inFlight then m.dropAttempt id
    else if m.config.publishFailureBackoff.isZero then (m.dropAttempt id).fillPipeline
    else m.setAttempt id (.backingOff (clock + m.config.publishFailureBackoff.ceilMillis))

/-- The backoff of a failed attempt is over. -/
def endBackoff (id : WorkId) (m : SubscriptionManager) : SubscriptionManager :=
  (m.dropAttempt id).fillPipeline

theorem claim_release (m : SubscriptionManager) : m.claim.2.release = m := by
  simp [claim, release]

end OpcUa.SubscriptionManager
