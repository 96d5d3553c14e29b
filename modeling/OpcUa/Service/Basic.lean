import OpcUa.Error.Basic
import OpcUa.NodeId.Codec
import OpcUa.Variant.Codec

/-!
# Services

The services that the client uses, and the headers of their requests and responses.

* `RequestHandles.take`: the next request handle, never 0.
* `timeoutHint`: a duration as the hint of a request header.
-/

namespace OpcUa

inductive Service where
  | createSession
  | activateSession
  | closeSession
  | read
  | write
  | createSubscription
  | modifySubscription
  | setPublishingMode
  | deleteSubscriptions
  | createMonitoredItems
  | deleteMonitoredItems
  | publish
  | republish
  deriving DecidableEq

namespace Service

def names : List (String × Service) :=
  [("CreateSession", createSession), ("ActivateSession", activateSession),
   ("CloseSession", closeSession), ("Read", read), ("Write", write),
   ("CreateSubscription", createSubscription), ("ModifySubscription", modifySubscription),
   ("SetPublishingMode", setPublishingMode), ("DeleteSubscriptions", deleteSubscriptions),
   ("CreateMonitoredItems", createMonitoredItems), ("DeleteMonitoredItems", deleteMonitoredItems),
   ("Publish", publish), ("Republish", republish)]

def name : Service → String
  | createSession => "CreateSession"
  | activateSession => "ActivateSession"
  | closeSession => "CloseSession"
  | read => "Read"
  | write => "Write"
  | createSubscription => "CreateSubscription"
  | modifySubscription => "ModifySubscription"
  | setPublishingMode => "SetPublishingMode"
  | deleteSubscriptions => "DeleteSubscriptions"
  | createMonitoredItems => "CreateMonitoredItems"
  | deleteMonitoredItems => "DeleteMonitoredItems"
  | publish => "Publish"
  | republish => "Republish"

def ofName? (name : String) : Option Service := names.lookup name

end Service

/-! ## Headers -/

structure RequestHeader where
  authenticationToken : NodeId
  timestamp : Timestamp
  requestHandle : UInt32
  returnDiagnostics : UInt32
  auditEntryId : Option String
  /-- Milliseconds after which the server may drop the request; advisory. -/
  timeoutHint : UInt32
  deriving DecidableEq

namespace RequestHeader

/-- The header of a request that asks for no diagnostics and is not audited. -/
def plain (token : NodeId) (timestamp : Timestamp) (handle hint : UInt32) : RequestHeader :=
  ⟨token, timestamp, handle, 0, none, hint⟩

def toJson (h : RequestHeader) : Json :=
  .obj ([("authentication_token", h.authenticationToken.toJson),
    ("timestamp", h.timestamp.toJson), ("request_handle", .ofUInt32 h.requestHandle),
    ("return_diagnostics", .ofUInt32 h.returnDiagnostics)] ++
    Json.optionalField "audit_entry_id" Json.str h.auditEntryId ++
    [("timeout_hint", .ofUInt32 h.timeoutHint)])

def ofJson? (j : Json) : Option RequestHeader := do
  let r ← j.record? ["authentication_token", "timestamp", "request_handle", "return_diagnostics",
    "audit_entry_id", "timeout_hint"]
  return ⟨← r.required "authentication_token" NodeId.ofJson?,
    ← r.required "timestamp" Timestamp.ofJson?, ← r.required "request_handle" Json.asUInt32?,
    ← r.required "return_diagnostics" Json.asUInt32?,
    ← r.defaulted "audit_entry_id" none (Json.nullable Json.asStr?),
    ← r.required "timeout_hint" Json.asUInt32?⟩

end RequestHeader

structure ResponseHeader where
  timestamp : Timestamp
  requestHandle : UInt32
  serviceResult : StatusCode
  deriving DecidableEq

namespace ResponseHeader

def toJson (h : ResponseHeader) : Json :=
  .obj [("timestamp", h.timestamp.toJson), ("request_handle", .ofUInt32 h.requestHandle),
    ("service_result", h.serviceResult.toJson)]

def ofJson? (j : Json) : Option ResponseHeader := do
  let r ← j.record? ["timestamp", "request_handle", "service_result"]
  return ⟨← r.required "timestamp" Timestamp.ofJson?,
    ← r.required "request_handle" Json.asUInt32?,
    ← r.required "service_result" StatusCode.ofJson?⟩

end ResponseHeader

/-- A duration in whole milliseconds, or the largest hint if it is longer. -/
def timeoutHint (d : Duration) : UInt32 :=
  if d.toMillis < UInt32.size then UInt32.ofNat d.toMillis else 0xFFFFFFFF

/-! ## Handles -/

/-- A source of handles: 1, 2, and so on, leaving out 0 when the counter wraps. -/
structure Handles where
  next : UInt32
  deriving DecidableEq

namespace Handles

def fresh : Handles := ⟨1⟩

instance : Inhabited Handles := ⟨fresh⟩

/-- The next handle and the source after it. -/
def take (h : Handles) : UInt32 × Handles :=
  if h.next = 0 then (1, ⟨2⟩) else (h.next, ⟨h.next + 1⟩)

/-- The next `n` handles and the source after them. -/
def takeMany : Nat → Handles → List UInt32 × Handles
  | 0, h => ([], h)
  | n + 1, h =>
    let (first, h) := h.take
    let (rest, h) := takeMany n h
    (first :: rest, h)

theorem take_fst_ne_zero (h : Handles) : h.take.1 ≠ 0 := by
  unfold take
  split
  · decide
  · assumption

end Handles

end OpcUa
