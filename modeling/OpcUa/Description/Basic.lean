import OpcUa.Service.Message
import OpcUa.Session.State
import OpcUa.Subscription.Parameters
import OpcUa.NodeId.Parser

/-!
# Descriptions

What a JSON value describes that was written by hand. Descriptions are read leniently: what is
missing or ill-formed counts as zero, as nothing or as the value that a reader would expect.
-/

namespace OpcUa.Description

/-! ## Plain values -/

/-- An unsigned integer; anything else counts as 0. -/
def natOf (j : Json) : Nat := (j.asNat? UInt64.size).getD 0

def intOf (j : Json) : Int := (j.asSigned? 0x8000000000000000).getD 0

def strOf (j : Json) : String := j.asStr?.getD ""

def listOf (j : Json) : List Json := j.asList?.getD []

def boolOf (j : Json) : Bool := j.asBool?.getD false

def natField (name : String) (j : Json) : Nat := natOf (j.field name)

def u8 (name : String) (j : Json) : UInt8 := UInt8.ofNat (natField name j)

def u16 (name : String) (j : Json) : UInt16 := UInt16.ofNat (natField name j)

def u32 (name : String) (j : Json) : UInt32 := UInt32.ofNat (natField name j)

def u32Of (j : Json) : UInt32 := UInt32.ofNat (natOf j)

def strField (name : String) (j : Json) : String := strOf (j.field name)

def listField (name : String) (j : Json) : List Json := listOf (j.field name)

def has (name : String) (j : Json) : Bool := (j.field? name).isSome

/-- A field unless it is missing or null. -/
def given? (name : String) (j : Json) : Option Json :=
  (j.field? name).filter (!·.isNull)

def floatOf (j : Json) : Float :=
  match j with
  | .str "nan" => 0.0 / 0.0
  | .str "inf" => 1.0 / 0.0
  | .str "-inf" => -1.0 / 0.0
  | .str s =>
    match s.toList with
    | '0' :: 'x' :: ds => Float.ofBits (UInt64.ofNat ((Text.ofHexDigits? ds).getD 0))
    | _ => 0.0
  | j => j.asFloat?.getD 0.0

def bytesOf (j : Json) : List UInt8 := (Text.hexBytes? (strOf j).toList).getD []

def durationOf (j : Json) : Duration :=
  match j with
  | .obj _ =>
    let nanos := (u32 "n" j).toNat
    Duration.wrapNanos (natField "s" j * Duration.perSecond + nanos)
  | j => .ofMillis (UInt64.ofNat (natOf j))

def nodeOf (j : Json) : NodeId :=
  match j with
  | .str s => (NodeId.parse s).toOption.getD .null
  | j => (NodeId.ofJson? j).getD .null

def statusOf (j : Json) : StatusCode := ⟨u32Of j⟩

def statusField (name : String) (j : Json) : StatusCode := statusOf (j.field name)

/-- What a field describes, unless it is missing or null. -/
def optional {α : Type} (name : String) (f : Json → α) (j : Json) : Option α :=
  (given? name j).map f

/-- A point of time in milliseconds; one outside of the calendar counts as 1970. -/
def timeOf (j : Json) : Timestamp := (Timestamp.ofMillis? (intOf j)).getD default

/-- An element of a list; null if the list is too short. -/
def element (index : Nat) (j : Json) : Json := ((listOf j)[index]?).getD .null

/-! ## Errors -/

/-- The error of a description. A cause inside it is read as deep as the fuel allows. -/
def errorAt : Nat → Json → Error
  | 0, _ => .transport .notConnected
  | fuel + 1, j =>
    let message := strField "message" j
    let service := strField "service" j
    let cause := (given? "cause" j).map (errorAt fuel)
    match strField "kind" j with
    | "Transport.NotConnected" => .transport .notConnected
    | "Transport.SendFailed" => .transport (.sendFailed message)
    | "Transport.Closed" => .transport .closed
    | "Transport.UnexpectedResponse" =>
      .transport (.unexpectedResponse (strField "expected" j) (strField "actual" j))
    | "Transport.CertificateUnavailable" => .transport (.certificateUnavailable message)
    | "Service" | "ServiceError" => .fault service (statusField "status" j)
    | "Session.CreationFailed" =>
      .session (cause.elim (.creationFailed message none) .creationFailedWith)
    | "Session.ActivationFailed" =>
      .session (cause.elim (.activationFailed message none) .activationFailedWith)
    | "Session" => .session (.creationFailed message none)
    | "Session.Closed" => .session .closed
    | "Session.Invalidated" => .session (.invalidated message)
    | "Session.ClientShutdown" => .session .clientShutdown
    | "Subscription.NotFound" => .subscription (.notFound (u32 "sub" j))
    | "Subscription.InvalidParameters" => .subscription (.invalidParameters message)
    | "Subscription.MonitoredItemFailed" =>
      .subscription (.itemFailed (strField "node" j) (statusField "status" j))
    | "Subscription.ManagerShutdown" => .subscription .managerShutdown
    | "Sequence.Mismatch" =>
      .sequence (.mismatch (u32 "sub" j) (u32 "requested" j) (u32 "received" j))
    | "Sequence.RecoveryFailed" => .sequence (.recoveryFailed (u32 "sub" j) message)
    | "Configuration.MissingField" => .configuration (.missingField (strField "field" j))
    | "Configuration.InvalidValue" => .configuration (.invalidValue (strField "field" j) message)
    | "Configuration.InvalidNodeId" => .configuration (.invalidNodeId (strField "input" j) message)
    | "Timeout" => .timeout service (durationOf (j.field "duration"))
    | _ => .transport .notConnected

def errorOf (j : Json) : Error := errorAt j.depth j

/-- The description of a session error; a description of anything else is a closed session. -/
def sessionErrorOf (j : Json) : SessionError :=
  match errorOf j with
  | .session e => e
  | _ => .closed

/-! ## Subscriptions -/

def parametersOf (j : Json) : SubscriptionParameters :=
  let p := SubscriptionParameters.ofInterval (floatOf (j.field "interval"))
  let p := if has "max" j then { p with maxNotifications := u32 "max" j } else p
  let p := if has "priority" j then { p with priority := u8 "priority" j } else p
  let p := if has "enabled" j then { p with publishingEnabled := boolOf (j.field "enabled") } else p
  let p := if has "lifetime" j then { p with lifetimeCount := u32 "lifetime" j } else p
  if has "keep_alive" j then { p with maxKeepAliveCount := u32 "keep_alive" j } else p

def itemRequestOf (j : Json) : MonitoredItemRequest :=
  let node := nodeOf (j.field "node")
  let r := if strField "kind" j == "events" then MonitoredItemRequest.events node else .value node
  let r := match (j.field? "attribute").bind AttributeId.ofJson? with
    | some a => { r with target := { r.target with attributeId := a } }
    | none => r
  let r := match (j.field? "range").bind Json.asStr? with
    | some range => { r with target := { r.target with indexRange := some range } }
    | none => r
  let r := if has "sampling" j then { r with samplingInterval := floatOf (j.field "sampling") } else r
  let r := if has "queue" j then { r with queueSize := u32 "queue" j } else r
  let r := match (j.field? "mode").bind MonitoringMode.ofJson? with
    | some mode => { r with mode }
    | none => r
  if has "discard_oldest" j then { r with discardOldest := boolOf (j.field "discard_oldest") } else r

/-! ## Messages -/

def dataValueOf (j : Json) : DataValue :=
  match j with
  | .int n => ⟨.int32 (Int32.ofInt n), .good, none, none⟩
  | j => (DataValue.ofJson? j).getD default

def dataOf (j : Json) : NotificationData :=
  let pairs (name : String) : List (UInt32 × Json) :=
    (listField name j).map fun p => (u32Of (element 0 p), element 1 p)
  if has "change" j then .dataChange ((pairs "change").map fun (h, v) => (h, dataValueOf v))
  else if has "events" j then
    .events ((pairs "events").map fun (h, vs) =>
      (h, (listOf vs).map fun v => (Variant.ofJson? v).getD .empty))
  else if has "status" j then .statusChange (statusField "status" j)
  else .unknown (nodeOf (j.field "unknown"))

def messageOf (j : Json) : NotificationMessage :=
  ⟨u32 "seq" j, timeOf (j.field "time"), (listField "data" j).map dataOf⟩

/-! ## Sessions -/

def createdOf (j : Json) : CreateSessionAnswer where
  sessionId := nodeOf (j.field "session_id")
  authenticationToken := nodeOf (j.field "token")
  sessionTimeout := if has "timeout" j then floatOf (j.field "timeout") else 60000.0
  serverNonce := bytesOf (j.field "nonce")
  serverCertificate := bytesOf (j.field "cert")
  maxRequestMessageSize := u32 "max" j

def activatedOf (j : Json) : ActivateSessionAnswer := ⟨bytesOf (j.field "activate_nonce"), []⟩

def sessionOf? (key : SessionKey) (j : Json) : Option Session :=
  Session.establish? key (createdOf j) (activatedOf j)

/-- The event that a description stands for; none if it needs a session that cannot be built. -/
def eventOf? (j : Json) : Option SessionEvent :=
  let error := sessionErrorOf (j.field "error")
  match strField "name" j with
  | "CreateSessionSucceeded" => some (.createSucceeded (createdOf j))
  | "CreateSessionFailed" => some (.createFailed error)
  | "ActivateSessionSucceeded" => (sessionOf? 0 j).map .activateSucceeded
  | "ActivateSessionFailed" => some (.activateFailed error)
  | "CloseRequested" => some .closeRequested
  | "CloseCompleted" => some .closeCompleted
  | "SessionInvalidated" => some (.invalidated error)
  | _ => some .sessionRequested

end OpcUa.Description
