import OpcUa.Config.Basic
import OpcUa.Service.Message

/-!
# Samples

Ready-made configurations, endpoints, messages and results.
-/

namespace OpcUa.Simulation.Sample

/-! ## Configurations -/

/-- A configuration that gives up soon. -/
def config : ClientConfig :=
  { ClientConfig.default with
    applicationName := "uasub test client"
    applicationUri := some "urn:uasub:test:client"
    sessionName := some "integration"
    requestTimeout := .ofSecs 5 }

/-- The sample configuration with a depth of the pipeline, which need not make sense. -/
def configOfDepth (depth : UInt32) : ClientConfig := { config with publishPipelineDepth := depth }

def configOfBackoff (backoff : Duration) : ClientConfig :=
  { config with publishFailureBackoff := backoff }

/-! ## Endpoints -/

/-- A server that is reached without a gateway. It signs and encrypts if its policy allows. -/
def endpoint (policy : SecurityPolicy) : EndpointDescription where
  url := "opc.tcp://plc-01:4840"
  server := { ApplicationDescription.blank with uri := "urn:plc-01:server", name := "PLC 01" }
  serverCertificate := []
  securityMode := if policy = .none then .none else .signAndEncrypt
  securityPolicy := policy

/-- A server behind a gateway. -/
def gatewayEndpoint : EndpointDescription :=
  let direct := endpoint .none
  { direct with server := { direct.server with gatewayServerUri := some "urn:gateway:server" } }

/-! ## Messages -/

/-- One new value for each of some items. -/
def dataChange (number : SequenceNumber) (handles : List ClientHandle) (value : Int32) :
    NotificationMessage :=
  ⟨number, default, [.dataChange (handles.map fun h => (h, .taken (.int32 value) default))]⟩

def statusChange (number : SequenceNumber) (status : StatusCode) : NotificationMessage :=
  ⟨number, default, [.statusChange status]⟩

def keepAlive (number : SequenceNumber) : NotificationMessage := ⟨number, default, []⟩

/-- A Publish response. If it is not said which numbers are available, the one of the message is,
unless the message is a keep-alive. -/
def publication (subscription : SubscriptionId) (m : NotificationMessage)
    (available : Option (List SequenceNumber)) : PublishAnswer where
  subscription
  available := available.getD (if m.isKeepAlive then [] else [m.sequenceNumber])
  moreNotifications := false
  message := m
  results := []

/-! ## Results -/

/-- The result of an item that the server grants as it was requested. -/
def grantedItem (id : Nat) (r : MonitoredItemRequest) : MonitoredItemResult where
  status := .good
  itemId := UInt32.ofNat id
  samplingInterval := if r.samplingInterval < 0.0 then 100.0 else r.samplingInterval
  queueSize := max r.queueSize 1

/-- The integers of 32 bits among some values. -/
def int32s (values : List Variant) : List Int32 :=
  values.filterMap fun
    | .int32 v => some v
    | _ => none

end OpcUa.Simulation.Sample
