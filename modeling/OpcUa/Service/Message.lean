import OpcUa.Attribute
import OpcUa.Config.Codec
import OpcUa.Service.Notification

/-!
# Requests and responses

The content of a request and of a response depends on the service, so both are indexed by it.

* `Response.content`: what a response says if it answers the service that was asked for.
-/

namespace OpcUa

/-! ## Monitored items -/

inductive MonitoringMode where
  | disabled
  | sampling
  | reporting
  deriving DecidableEq

namespace MonitoringMode

def names : List (String × MonitoringMode) :=
  [("disabled", disabled), ("sampling", sampling), ("reporting", reporting)]

def toJson (m : MonitoringMode) : Json := .ofCase names m

def ofJson? (j : Json) : Option MonitoringMode := j.caseOf? names

end MonitoringMode

/-- What is to be monitored, and how. -/
structure MonitoredItemRequest where
  target : ReadValueId
  mode : MonitoringMode
  samplingInterval : Float
  queueSize : UInt32
  discardOldest : Bool

namespace MonitoredItemRequest

/-- The values of a node, sampled at the publishing interval. -/
def value (node : NodeId) : MonitoredItemRequest := ⟨.value node, .reporting, -1.0, 1, true⟩

/-- The events of a node. -/
def events (node : NodeId) : MonitoredItemRequest := ⟨.eventNotifier node, .reporting, 0.0, 0, true⟩

end MonitoredItemRequest

/-- What the server made of a monitored item request. -/
structure MonitoredItemResult where
  status : StatusCode
  itemId : UInt32
  samplingInterval : Float
  queueSize : UInt32

instance : Inhabited MonitoredItemResult := ⟨⟨.good, 0, 0.0, 0⟩⟩

/-! ## Contents of requests -/

structure CreateSessionQuery where
  client : ApplicationDescription
  serverUri : Option String
  endpointUrl : String
  sessionName : String
  clientNonce : List UInt8
  clientCertificate : List UInt8
  sessionTimeout : Float
  maxResponseMessageSize : UInt32

structure ActivateSessionQuery where
  localeIds : List String
  userIdentity : UserIdentity

structure CloseSessionQuery where
  deleteSubscriptions : Bool

structure ReadQuery where
  maxAge : Float
  timestamps : TimestampsToReturn
  nodes : List ReadValueId

structure WriteQuery where
  nodes : List WriteValue

structure CreateSubscriptionQuery where
  publishingInterval : Float
  lifetimeCount : UInt32
  maxKeepAliveCount : UInt32
  maxNotifications : UInt32
  publishingEnabled : Bool
  priority : UInt8

structure ModifySubscriptionQuery where
  subscription : SubscriptionId
  publishingInterval : Float
  lifetimeCount : UInt32
  maxKeepAliveCount : UInt32
  maxNotifications : UInt32
  priority : UInt8

structure SetPublishingModeQuery where
  publishingEnabled : Bool
  subscriptions : List SubscriptionId

structure DeleteSubscriptionsQuery where
  subscriptions : List SubscriptionId

structure CreateMonitoredItemsQuery where
  subscription : SubscriptionId
  timestamps : TimestampsToReturn
  items : List (ClientHandle × MonitoredItemRequest)

structure DeleteMonitoredItemsQuery where
  subscription : SubscriptionId
  itemIds : List UInt32

structure PublishQuery where
  acknowledgements : List Acknowledgement

structure RepublishQuery where
  subscription : SubscriptionId
  sequenceNumber : SequenceNumber

/-! ## Contents of responses -/

structure CreateSessionAnswer where
  sessionId : NodeId
  authenticationToken : NodeId
  sessionTimeout : Float
  serverNonce : List UInt8
  serverCertificate : List UInt8
  maxRequestMessageSize : UInt32

structure ActivateSessionAnswer where
  serverNonce : List UInt8
  results : List StatusCode

/-- The values of a subscription that the server revised. -/
structure RevisedSubscription where
  publishingInterval : Float
  lifetimeCount : UInt32
  maxKeepAliveCount : UInt32

structure CreateSubscriptionAnswer where
  subscription : SubscriptionId
  revised : RevisedSubscription

/-- A Publish response: a message of some subscription and the numbers of its messages that the
server keeps for retransmission. -/
structure PublishAnswer where
  subscription : SubscriptionId
  available : List SequenceNumber
  moreNotifications : Bool
  message : NotificationMessage
  results : List StatusCode

namespace Service

/-- The content of a request. -/
@[reducible] def Query : Service → Type
  | createSession => CreateSessionQuery
  | activateSession => ActivateSessionQuery
  | closeSession => CloseSessionQuery
  | read => ReadQuery
  | write => WriteQuery
  | createSubscription => CreateSubscriptionQuery
  | modifySubscription => ModifySubscriptionQuery
  | setPublishingMode => SetPublishingModeQuery
  | deleteSubscriptions => DeleteSubscriptionsQuery
  | createMonitoredItems => CreateMonitoredItemsQuery
  | deleteMonitoredItems => DeleteMonitoredItemsQuery
  | publish => PublishQuery
  | republish => RepublishQuery

/-- The content of a response. -/
@[reducible] def Answer : Service → Type
  | createSession => CreateSessionAnswer
  | activateSession => ActivateSessionAnswer
  | closeSession => Unit
  | read => List DataValue
  | write => List StatusCode
  | createSubscription => CreateSubscriptionAnswer
  | modifySubscription => RevisedSubscription
  | setPublishingMode => List StatusCode
  | deleteSubscriptions => List StatusCode
  | createMonitoredItems => List MonitoredItemResult
  | deleteMonitoredItems => List StatusCode
  | publish => PublishAnswer
  | republish => NotificationMessage

end Service

structure Request where
  service : Service
  header : RequestHeader
  query : service.Query

structure Response where
  service : Service
  header : ResponseHeader
  answer : service.Answer

namespace Response

/-- The content of a response to `service`. A response of another service is refused. -/
def content (service : Service) (r : Response) : Except Error service.Answer :=
  if h : r.service = service then .ok (h ▸ r.answer)
  else .error (.transport (.unexpectedResponse service.name r.service.name))

/-- What became of an exchange: the content of a good response, a fault if the service result is
bad, or the failure of the transport. -/
def outcome (service : Service) : Except Error Response → Except Error service.Answer
  | .error e => .error e
  | .ok r =>
    if r.header.serviceResult.isBad then .error (.fault service.name r.header.serviceResult)
    else r.content service

@[simp] theorem content_self (r : Response) : r.content r.service = .ok r.answer := by
  simp [content]

end Response

end OpcUa
