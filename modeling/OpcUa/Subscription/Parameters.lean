import OpcUa.Config.Basic
import OpcUa.Decimal.Notation
import OpcUa.Service.Message

/-!
# Subscription parameters

* `SubscriptionParameters.ofInterval`: parameters derived from a publishing interval alone.
* `SubscriptionParameters.validate`: refuses parameters that no server can honour.
-/

namespace OpcUa

structure SubscriptionParameters where
  /-- Milliseconds. -/
  publishingInterval : Float
  /-- Publishing cycles without a Publish request before the server drops the subscription. -/
  lifetimeCount : UInt32
  /-- Publishing cycles without notifications before a keep-alive is sent. -/
  maxKeepAliveCount : UInt32
  /-- Notifications in a Publish response, 0 for no limit. -/
  maxNotifications : UInt32
  publishingEnabled : Bool
  priority : UInt8

namespace SubscriptionParameters

/-- The time between keep-alives that derived parameters aim at, in milliseconds. -/
def targetKeepAlive : Float := 10000.0

/-- The intervals that make up the target time, rounded up, at least one and at most the largest
word. -/
def keepAliveCountFor (interval : Float) : UInt32 :=
  let count := (targetKeepAlive / interval).ceil
  if count.isFinite && 1.0 ≤ count then count.toUInt32 else 1

/-- Three times `n`, or the largest word if that is more. -/
def triple (n : UInt32) : UInt32 :=
  if n.toNat * 3 < UInt32.size then n * 3 else 0xFFFFFFFF

def ofInterval (interval : Float) : SubscriptionParameters :=
  let count := keepAliveCountFor interval
  ⟨interval, triple count, count, ClientConfig.defaultMaxNotifications, true, 0⟩

def invalid (message : String) : Except Error Unit :=
  .error (.subscription (.invalidParameters message))

def validate (p : SubscriptionParameters) : Except Error Unit :=
  if !p.publishingInterval.isFinite || p.publishingInterval ≤ 0.0 then
    invalid ("publishing interval must be a positive number of milliseconds, got " ++
      Decimal.plain p.publishingInterval)
  else if p.maxKeepAliveCount = 0 then invalid "max keep-alive count must be at least 1"
  else if p.lifetimeCount = 0 then invalid "lifetime count must be at least 1"
  else .ok ()

/-- Milliseconds between keep-alives. -/
def keepAlivePeriod (p : SubscriptionParameters) : Float :=
  p.publishingInterval * p.maxKeepAliveCount.toFloat

/-- The values that the server revised, in place of the requested ones. -/
def revise (p : SubscriptionParameters) (r : RevisedSubscription) : SubscriptionParameters :=
  { p with
    publishingInterval := r.publishingInterval
    lifetimeCount := r.lifetimeCount
    maxKeepAliveCount := r.maxKeepAliveCount }

def diagnostic (p : SubscriptionParameters) : String :=
  Text.record "SubscriptionParameters"
    [("publishing_interval", Decimal.explicit p.publishingInterval),
     ("lifetime_count", toString p.lifetimeCount),
     ("max_keep_alive_count", toString p.maxKeepAliveCount),
     ("max_notifications_per_publish", toString p.maxNotifications),
     ("publishing_enabled", Text.boolean p.publishingEnabled),
     ("priority", toString p.priority)]

def toJson (p : SubscriptionParameters) : Json :=
  .obj [("publishing_interval", .float p.publishingInterval),
    ("lifetime_count", .ofUInt32 p.lifetimeCount),
    ("max_keep_alive_count", .ofUInt32 p.maxKeepAliveCount),
    ("max_notifications_per_publish", .ofUInt32 p.maxNotifications),
    ("publishing_enabled", .bool p.publishingEnabled), ("priority", .nat p.priority.toNat)]

def ofJson? (j : Json) : Option SubscriptionParameters := do
  let r ← j.record? ["publishing_interval", "lifetime_count", "max_keep_alive_count",
    "max_notifications_per_publish", "publishing_enabled", "priority"]
  return ⟨← r.required "publishing_interval" Json.asFloat?,
    ← r.required "lifetime_count" Json.asUInt32?,
    ← r.required "max_keep_alive_count" Json.asUInt32?,
    ← r.required "max_notifications_per_publish" Json.asUInt32?,
    ← r.required "publishing_enabled" Json.asBool?, ← r.required "priority" Json.asUInt8?⟩

end SubscriptionParameters

end OpcUa
