import OpcUa.Service.Message

/-!
# Blank messages

Requests and responses that carry nothing but their header.
-/

namespace OpcUa.Service

def blankQuery : (s : Service) → s.Query
  | createSession => ⟨.blank, none, "", "", [], [], 0.0, 0⟩
  | activateSession => ⟨[], .anonymous⟩
  | closeSession => ⟨false⟩
  | read => ⟨0.0, .both, []⟩
  | write => ⟨[]⟩
  | createSubscription => ⟨0.0, 0, 0, 0, false, 0⟩
  | modifySubscription => ⟨0, 0.0, 0, 0, 0, 0⟩
  | setPublishingMode => ⟨false, []⟩
  | deleteSubscriptions => ⟨[]⟩
  | createMonitoredItems => ⟨0, .both, []⟩
  | deleteMonitoredItems => ⟨0, []⟩
  | publish => ⟨[]⟩
  | republish => ⟨0, 0⟩

def blankAnswer : (s : Service) → s.Answer
  | createSession => ⟨.null, .null, 0.0, [], [], 0⟩
  | activateSession => ⟨[], []⟩
  | closeSession => ()
  | read => []
  | write => []
  | createSubscription => ⟨0, ⟨0.0, 0, 0⟩⟩
  | modifySubscription => ⟨0.0, 0, 0⟩
  | setPublishingMode => []
  | deleteSubscriptions => []
  | createMonitoredItems => []
  | deleteMonitoredItems => []
  | publish => ⟨0, [], false, default, []⟩
  | republish => default

end OpcUa.Service
