import OpcUa.Simulation.Host

/-!
# Outcomes of calls

What there was to see of a call at the time when it ended. Subscriptions and items change later; an
outcome shows them as they were.
-/

namespace OpcUa.Simulation

inductive Outcome where
  | done
  | disconnected
  | session (session : Session) (valid : Bool)
  | values (values : List DataValue)
  | value (value : DataValue)
  | statuses (statuses : List StatusCode)
  | status (status : StatusCode)
  | message (message : NotificationMessage)
  | published (answer : PublishAnswer)
  | sent (service : Service) (header : ResponseHeader)
  | created (k : SubscriptionKey) (subscription : Subscription)
  | modified (subscription : Subscription)
  | items (outcomes : List (Except Error MonitoredItem))

namespace Finished

def subscription (f : Finished) (k : SubscriptionKey) : Subscription :=
  ((f.client.manager.bind (·.subscription? k))).getD default

/-- The items that were created. -/
def items (f : Finished) (outcomes : List (Except Error ItemKey)) :
    List (Except Error MonitoredItem) :=
  outcomes.filterMap fun
    | .ok k => (f.client.manager.bind (·.item? k)).map .ok
    | .error e => some (.error e)

def operation (f : Finished) : OperationResult → Outcome
  | .created k => .created k (f.subscription k)
  | .modified k => .modified (f.subscription k)
  | .done => .done
  | .items outcomes => .items (f.items outcomes)
  | .statuses statuses => .statuses statuses

def outcome (f : Finished) : Except Error Outcome :=
  match f.result with
  | .connected r => r.map fun _ => .done
  | .session r => r.map fun s => .session s (f.client.service.driver.isValid s)
  | .closed => .ok .done
  | .disconnected => .ok .disconnected
  | .values r => r.map .values
  | .value r => r.map .value
  | .statuses r => r.map .statuses
  | .status r => r.map .status
  | .republished r => r.map .message
  | .published r => r.map .published
  | .sent r => r.map fun (s, header) => .sent s header
  | .operated r => r.map f.operation

end Finished

end OpcUa.Simulation
