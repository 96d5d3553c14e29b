import OpcUa.Service.Message
import OpcUa.Session.State
import OpcUa.Subscription.Statistics

/-!
# Reports

Values as JSON that tells everything about them. A double is written as its bits, so that no two of
them look the same.
-/

namespace OpcUa.Report

/-! ## Plain values -/

def floatJson (x : Float) : Json :=
  if x.isNaN then .str "nan" else .str ("0x" ++ Text.lowerHex 16 x.toBits.toNat)

mutual

/-- A value of the library's own encoding: doubles as their bits, those not finite as null. -/
def encoded : Json → Json
  | .float x => if x.isFinite then floatJson x else .null
  | .arr items => .arr (encodedItems items)
  | .obj fields => .obj (encodedFields fields)
  | j => j

def encodedItems : List Json → List Json
  | [] => []
  | j :: rest => encoded j :: encodedItems rest

def encodedFields : List (String × Json) → List (String × Json)
  | [] => []
  | (name, j) :: rest => (name, encoded j) :: encodedFields rest

end

def durationJson (d : Duration) : Json := .arr [.nat d.secs.toNat, .nat d.nanos]

def hexJson (bytes : List UInt8) : Json := .str (Text.hexOfBytes bytes)

/-! ## Outcomes -/

def failure (name : String) : Json := .obj [("error", .str name)]

/-- A text that cannot be decoded. -/
def deserialize : Json := failure "Deserialize"

/-- A value that cannot be computed. -/
def panicked : Json := failure "Panic"

def kindOf : Error → String
  | .transport .notConnected => "Transport.NotConnected"
  | .transport (.sendFailed _) => "Transport.SendFailed"
  | .transport .closed => "Transport.Closed"
  | .transport (.unexpectedResponse ..) => "Transport.UnexpectedResponse"
  | .transport (.certificateUnavailable _) => "Transport.CertificateUnavailable"
  | .service _ => "Service"
  | .session (.creationFailed ..) => "Session.CreationFailed"
  | .session (.activationFailed ..) => "Session.ActivationFailed"
  | .session .closed => "Session.Closed"
  | .session (.invalidated _) => "Session.Invalidated"
  | .session .clientShutdown => "Session.ClientShutdown"
  | .subscription (.notFound _) => "Subscription.NotFound"
  | .subscription (.invalidParameters _) => "Subscription.InvalidParameters"
  | .subscription (.itemFailed ..) => "Subscription.MonitoredItemFailed"
  | .subscription .managerShutdown => "Subscription.ManagerShutdown"
  | .sequence (.mismatch ..) => "Sequence.Mismatch"
  | .sequence (.recoveryFailed ..) => "Sequence.RecoveryFailed"
  | .configuration (.missingField _) => "Configuration.MissingField"
  | .configuration (.invalidValue ..) => "Configuration.InvalidValue"
  | .configuration (.invalidNodeId ..) => "Configuration.InvalidNodeId"
  | .timeout .. => "Timeout"

/-- The detail after these two reasons is not part of an answer. -/
def cutReason (reason : String) : String :=
  if "Invalid GUID".isPrefixOf reason then "Invalid GUID"
  else if "Invalid base64".isPrefixOf reason then "Invalid base64"
  else reason

def errorJson (e : Error) : Json :=
  let shown : Error := match e with
    | .configuration (.invalidNodeId input reason) =>
      .configuration (.invalidNodeId input (cutReason reason))
    | e => e
  .obj [("error", .str (kindOf e)), ("message", .str shown.message), ("status", e.status.toJson),
    ("code", .str e.code.toText)]

def ok (j : Json) : Json := .obj [("ok", j)]

def result {α : Type} (f : α → Json) : Except Error α → Json
  | .ok a => ok (f a)
  | .error e => errorJson e

def orDeserialize {α : Type} (f : α → Json) : Option α → Json
  | some a => f a
  | none => deserialize

/-! ## Sessions and statistics -/

def sessionJson (s : Session) (valid : Bool) : Json :=
  .obj [("id", .str s.id.toText), ("token", .str s.authenticationToken.toText),
    ("timeout", durationJson s.timeout), ("max", .ofUInt32 s.maxRequestMessageSize),
    ("nonce", hexJson s.serverNonce), ("cert", hexJson s.serverCertificate),
    ("valid", .bool valid), ("debug", .str (s.diagnostic valid))]

def sessionStatsJson (s : SessionStats) : Json :=
  .arr [.nat s.creations, .nat s.activations, .nat s.failures, .nat s.closes]

def statsJson (s : SubscriptionStats) : Json := .arr (s.toWords.map fun w => .nat w.toNat)

end OpcUa.Report
