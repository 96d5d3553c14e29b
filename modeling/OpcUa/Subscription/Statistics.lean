import OpcUa.Time.Duration

/-!
# Statistics of subscriptions

What the subscription manager counts. The counters are shown as 64-bit words.
-/

namespace OpcUa

structure SubscriptionStats where
  subscriptionsCreated : Nat
  subscriptionsDeleted : Nat
  /-- Microseconds spent on creating subscriptions, all together. -/
  creationMicros : Nat
  publishRequests : Nat
  publishResponses : Nat
  publishFailures : Nat
  acknowledgementsSent : Nat
  acknowledgementsDropped : Nat
  keepAlives : Nat
  notificationMessages : Nat
  gapsDetected : Nat
  messagesRepublished : Nat
  recoveryFallbacks : Nat
  fallbackReads : Nat
  deriving DecidableEq

namespace SubscriptionStats

def zero : SubscriptionStats := ⟨0, 0, 0, 0, 0, 0, 0, 0, 0, 0, 0, 0, 0, 0⟩

instance : Inhabited SubscriptionStats := ⟨zero⟩

def recordSubscriptionCreated (s : SubscriptionStats) (took : Duration) : SubscriptionStats :=
  { s with
    subscriptionsCreated := s.subscriptionsCreated + 1
    creationMicros := s.creationMicros + took.toMicros }

def recordSubscriptionDeleted (s : SubscriptionStats) : SubscriptionStats :=
  { s with subscriptionsDeleted := s.subscriptionsDeleted + 1 }

def recordPublishRequest (s : SubscriptionStats) (acknowledgements : Nat) : SubscriptionStats :=
  { s with
    publishRequests := s.publishRequests + 1
    acknowledgementsSent := s.acknowledgementsSent + acknowledgements }

def recordPublishResponse (s : SubscriptionStats) : SubscriptionStats :=
  { s with publishResponses := s.publishResponses + 1 }

/-- A failed Publish drops its acknowledgements. -/
def recordPublishFailure (s : SubscriptionStats) (dropped : Nat) : SubscriptionStats :=
  { s with
    publishFailures := s.publishFailures + 1
    acknowledgementsDropped := s.acknowledgementsDropped + dropped }

def recordKeepAlive (s : SubscriptionStats) : SubscriptionStats :=
  { s with keepAlives := s.keepAlives + 1 }

def recordNotificationMessage (s : SubscriptionStats) : SubscriptionStats :=
  { s with notificationMessages := s.notificationMessages + 1 }

def recordGap (s : SubscriptionStats) : SubscriptionStats :=
  { s with gapsDetected := s.gapsDetected + 1 }

def recordRepublished (s : SubscriptionStats) : SubscriptionStats :=
  { s with messagesRepublished := s.messagesRepublished + 1 }

def recordRecoveryFallback (s : SubscriptionStats) : SubscriptionStats :=
  { s with recoveryFallbacks := s.recoveryFallbacks + 1 }

def recordFallbackRead (s : SubscriptionStats) : SubscriptionStats :=
  { s with fallbackReads := s.fallbackReads + 1 }

/-- The counters in the order of the fields, the time left out. -/
def toWords (s : SubscriptionStats) : List UInt64 :=
  [s.subscriptionsCreated, s.subscriptionsDeleted, s.publishRequests, s.publishResponses,
    s.publishFailures, s.acknowledgementsSent, s.acknowledgementsDropped, s.keepAlives,
    s.notificationMessages, s.gapsDetected, s.messagesRepublished, s.recoveryFallbacks,
    s.fallbackReads].map UInt64.ofNat

/-- The mean time of creating a subscription, in whole microseconds. -/
def averageCreationTime (s : SubscriptionStats) : Duration :=
  let count := UInt64.ofNat s.subscriptionsCreated
  if count = 0 then .zero else .ofMicros (UInt64.ofNat s.creationMicros / count)

end SubscriptionStats

end OpcUa
