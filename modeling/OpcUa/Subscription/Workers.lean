import OpcUa.Subscription.Dispatch
import OpcUa.Subscription.Sequencing

/-!
# The workers of the queues

Each queue has one worker, which runs task after task until the queue is empty, paused or closed,
or until it lets others run.

* `processPending`, `deliverPending`: one uninterrupted run of a worker, and whether it means to go
  on.
-/

namespace OpcUa.SubscriptionManager

/-- One turn of the processing worker, and whether it goes on at once, later or not at all. -/
def processTurn (m : SubscriptionManager) : SubscriptionManager × Option Bool :=
  match m.processing.turn with
  | (.run a yields, processing) => ({ m with processing }.process a, some yields)
  | (.again, processing) => ({ m with processing }, some false)
  | (.sleeps, processing) | (.stops, processing) => ({ m with processing }, none)

/-- One turn of the delivery worker, and whether it goes on at once, later or not at all. -/
def deliverTurn (m : SubscriptionManager) : SubscriptionManager × Option Bool :=
  match m.delivery.turn with
  | (.run d yields, delivery) => ({ m with delivery }.deliver d, some yields)
  | (.again, delivery) => ({ m with delivery }, some false)
  | (.sleeps, delivery) | (.stops, delivery) => ({ m with delivery }, none)

/-- At most `n` turns, up to one after which the worker does not go on at once. -/
def takeTurns (turn : SubscriptionManager → SubscriptionManager × Option Bool) :
    Nat → SubscriptionManager → SubscriptionManager × Bool
  | 0, m => (m, true)
  | n + 1, m =>
    match turn m with
    | (m, some true) => (m, true)
    | (m, some false) => takeTurns turn n m
    | (m, none) => (m, false)

/-- The turns of one run at most: a worker lets others run after `tasksPerYield` tasks, and looks
twice at an empty queue. -/
def turnsPerRun : Nat := 2 * WorkQueue.tasksPerYield

def processPending (m : SubscriptionManager) : SubscriptionManager × Bool :=
  takeTurns processTurn turnsPerRun m

def deliverPending (m : SubscriptionManager) : SubscriptionManager × Bool :=
  takeTurns deliverTurn turnsPerRun m

end OpcUa.SubscriptionManager
