import OpcUa.Subscription.Item
import OpcUa.Subscription.Parameters
import OpcUa.Table

/-!
# Subscriptions

A subscription has the parameters that the server revised and the items that are monitored in it.

* `Subscription.publishingDuration?`: the publishing interval as a duration.
* `shortestKeepAlive?`: the shortest time between keep-alives.
-/

namespace OpcUa

/-- Tells apart the subscriptions of one client, also those whose ids were given out again. -/
abbrev SubscriptionKey := Nat

/-- Tells apart the items of one client. -/
abbrev ItemKey := Nat

structure Subscription where
  id : SubscriptionId
  parameters : SubscriptionParameters
  items : Table ItemKey
  notificationMessages : Nat
  keepAlives : Nat

namespace Subscription

def ofParameters (id : SubscriptionId) (parameters : SubscriptionParameters) : Subscription :=
  ⟨id, parameters, .empty, 0, 0⟩

instance : Inhabited Subscription := ⟨ofParameters 0 (.ofInterval 0.0)⟩

/-- Takes over the revised values, and the requested ones that the server does not revise. -/
def applyRevised (revised : RevisedSubscription) (requested : SubscriptionParameters)
    (s : Subscription) : Subscription :=
  { s with
    parameters :=
      { s.parameters.revise revised with
        maxNotifications := requested.maxNotifications
        priority := requested.priority } }

def setPublishingEnabled (enabled : Bool) (s : Subscription) : Subscription :=
  { s with parameters := { s.parameters with publishingEnabled := enabled } }

/-- The publishing interval, zero if it is not a positive number. There is none if it is too
long. -/
def publishingDuration? (s : Subscription) : Option Duration :=
  let millis := s.parameters.publishingInterval
  if millis.isFinite && 0.0 < millis then Duration.ofSeconds? (millis / 1000.0) else some .zero

def diagnostic (s : Subscription) : String :=
  Text.record "UaSubscription" [("subscription_id", toString s.id),
    ("parameters", s.parameters.diagnostic), ("items", toString s.items.size)]

end Subscription

/-- The subscriptions in use, by the ids that the server gave them. -/
abbrev Registry := Table SubscriptionKey

/-- The least of the numbers, if there is one. -/
def leastFloat? : List Float → Option Float
  | [] => none
  | x :: rest => some (rest.foldl (fun a b => if b < a then b else a) x)

/-- The shortest of the keep-alive periods that are numbers, in milliseconds. -/
def shortestKeepAlive? (parameters : List SubscriptionParameters) : Option Float :=
  leastFloat? ((parameters.map (·.keepAlivePeriod)).filter (·.isFinite))

end OpcUa
