import OpcUa.StatusCode
import OpcUa.Time.Duration

/-!
# Errors

The failures of the client, grouped by the layer that raises them. Every cause is a constructor;
the wording is in the `message` functions alone.

* `Error.message`: the text of a failure.
* `Error.status`: the status code that describes it best.
* `Error.isRetryable`, `Error.severity`, `Error.category`, `Error.code`: how to react and report.
-/

namespace OpcUa

/-- How bad a failure is, from the least to the worst. -/
inductive Severity where
  | info
  | warning
  | error
  | critical
  deriving DecidableEq

namespace Severity

def rank : Severity → Nat
  | info => 0
  | warning => 1
  | error => 2
  | critical => 3

def toText : Severity → String
  | info => "info"
  | warning => "warning"
  | error => "error"
  | critical => "critical"

/-- The log level at which a failure is reported. -/
def logLevel : Severity → String
  | info => "DEBUG"
  | warning => "WARN"
  | error | critical => "ERROR"

end Severity

/-- The number of a kind of failure within its category. -/
structure ErrorCode where
  category : UInt8
  number : UInt8
  deriving DecidableEq

namespace ErrorCode

def toText (c : ErrorCode) : String :=
  "UA-" ++ Text.upperHex 2 c.category.toNat ++ Text.upperHex 2 c.number.toNat

def toUInt16 (c : ErrorCode) : UInt16 := c.category.toUInt16 <<< 8 ||| c.number.toUInt16

end ErrorCode

/-! ## Transport -/

/-- The exchange with the server did not take place as it should. -/
inductive TransportError where
  | notConnected
  | sendFailed (message : String)
  | closed
  | unexpectedResponse (expected actual : String)
  | certificateUnavailable (reason : String)
  deriving DecidableEq

namespace TransportError

def message : TransportError → String
  | notConnected => "Transport not connected"
  | sendFailed m => "Send failed: " ++ m
  | closed => "Transport closed"
  | unexpectedResponse expected actual =>
    "Unexpected response: expected " ++ expected ++ ", got " ++ actual
  | certificateUnavailable reason => "Local certificate unavailable: " ++ reason

def isRetryable : TransportError → Bool
  | notConnected | sendFailed _ => true
  | _ => false

def status : TransportError → StatusCode
  | notConnected | closed => .badNotConnected
  | sendFailed _ => .badCommunicationError
  | unexpectedResponse .. => .badUnknownResponse
  | certificateUnavailable _ => .badCertificateInvalid

def code : TransportError → ErrorCode
  | notConnected => ⟨1, 1⟩
  | sendFailed _ => ⟨1, 2⟩
  | closed => ⟨1, 3⟩
  | unexpectedResponse .. => ⟨1, 4⟩
  | certificateUnavailable _ => ⟨1, 5⟩

end TransportError

/-! ## Services -/

/-- The server answered a service with a bad result. -/
structure ServiceFault where
  service : String
  status : StatusCode
  deriving DecidableEq

namespace ServiceFault

def message (f : ServiceFault) : String := f.service ++ " failed: " ++ f.status.toText

def isRetryable (f : ServiceFault) : Bool :=
  f.status == .badTimeout || f.status == .badTooManyPublishRequests ||
    f.status == .badCommunicationError

/-- Whether the server says that it no longer knows the session. -/
def endsSession (f : ServiceFault) : Bool :=
  f.status == .badSessionIdInvalid || f.status == .badSessionClosed

def severity (f : ServiceFault) : Severity :=
  if f.status = .badTooManyPublishRequests ∨ f.status = .badNoSubscription then .info
  else if f.endsSession then .error
  else .warning

end ServiceFault

/-! ## Sessions -/

/-- There is no session, or no longer one. -/
inductive SessionError where
  | creationFailed (message : String) (status : Option StatusCode)
  | activationFailed (message : String) (status : Option StatusCode)
  | closed
  | invalidated (reason : String)
  | clientShutdown
  deriving DecidableEq

namespace SessionError

def message : SessionError → String
  | creationFailed m _ => "Failed to create session: " ++ m
  | activationFailed m _ => "Failed to activate session: " ++ m
  | closed => "Session closed"
  | invalidated reason => "Session invalidated: " ++ reason
  | clientShutdown => "Client shut down"

def isRetryable : SessionError → Bool
  | creationFailed .. | activationFailed .. | invalidated _ => true
  | _ => false

def severity : SessionError → Severity
  | closed | clientShutdown => .info
  | _ => .error

def status : SessionError → StatusCode
  | creationFailed _ s | activationFailed _ s => s.getD .badUnexpectedError
  | closed | clientShutdown => .badSessionClosed
  | invalidated _ => .badSessionIdInvalid

def code : SessionError → ErrorCode
  | creationFailed .. => ⟨3, 1⟩
  | activationFailed .. => ⟨3, 2⟩
  | closed => ⟨3, 3⟩
  | invalidated _ => ⟨3, 4⟩
  | clientShutdown => ⟨3, 5⟩

end SessionError

/-! ## Subscriptions -/

/-- A subscription operation was refused. -/
inductive SubscriptionError where
  | notFound (id : UInt32)
  | invalidParameters (message : String)
  | itemFailed (node : String) (status : StatusCode)
  | managerShutdown
  deriving DecidableEq

namespace SubscriptionError

def message : SubscriptionError → String
  | notFound id => "Subscription not found: " ++ toString id
  | invalidParameters m => "Invalid subscription parameters: " ++ m
  | itemFailed node status => "Monitored item creation failed for " ++ node ++ ": " ++ status.toText
  | managerShutdown => "Subscription manager shut down"

def status : SubscriptionError → StatusCode
  | notFound _ => .badSubscriptionIdInvalid
  | invalidParameters _ => .badInvalidArgument
  | itemFailed _ status => status
  | managerShutdown => .badShutdown

def code : SubscriptionError → ErrorCode
  | notFound _ => ⟨4, 1⟩
  | invalidParameters _ => ⟨4, 2⟩
  | itemFailed .. => ⟨4, 3⟩
  | managerShutdown => ⟨4, 4⟩

end SubscriptionError

/-! ## Sequencing -/

/-- Missing notification messages could not be recovered. -/
inductive SequenceError where
  | mismatch (subscription requested received : UInt32)
  | recoveryFailed (subscription : UInt32) (message : String)
  deriving DecidableEq

namespace SequenceError

def message : SequenceError → String
  | mismatch id requested received =>
    "Republish sequence mismatch on subscription " ++ toString id ++ ": requested " ++
      toString requested ++ ", received " ++ toString received
  | recoveryFailed id m => "Recovery failed on subscription " ++ toString id ++ ": " ++ m

def status : SequenceError → StatusCode
  | mismatch .. => .badSequenceNumberInvalid
  | recoveryFailed .. => .badMessageNotAvailable

def code : SequenceError → ErrorCode
  | mismatch .. => ⟨5, 1⟩
  | recoveryFailed .. => ⟨5, 2⟩

end SequenceError

/-! ## Configuration -/

/-- A setting is missing or makes no sense. -/
inductive ConfigError where
  | missingField (field : String)
  | invalidValue (field reason : String)
  | invalidNodeId (input reason : String)
  deriving DecidableEq

namespace ConfigError

def message : ConfigError → String
  | missingField field => "Missing required configuration field: " ++ field
  | invalidValue field reason => "Invalid value for '" ++ field ++ "': " ++ reason
  | invalidNodeId input reason => "Invalid NodeId '" ++ input ++ "': " ++ reason

def code : ConfigError → ErrorCode
  | missingField _ => ⟨6, 1⟩
  | invalidValue .. => ⟨6, 2⟩
  | invalidNodeId .. => ⟨6, 3⟩

end ConfigError

/-! ## All of them -/

/-- A failure of the client. -/
inductive Error where
  | transport (e : TransportError)
  | service (e : ServiceFault)
  | session (e : SessionError)
  | subscription (e : SubscriptionError)
  | sequence (e : SequenceError)
  | configuration (e : ConfigError)
  | timeout (name : String) (after : Duration)
  deriving DecidableEq

instance : Inhabited Error := ⟨.transport .notConnected⟩

namespace Error

/-- A bad result of a service. -/
def fault (service : String) (status : StatusCode) : Error := .service ⟨service, status⟩

def message : Error → String
  | transport e => e.message
  | service e => e.message
  | session e => e.message
  | subscription e => e.message
  | sequence e => e.message
  | configuration e => e.message
  | timeout name after => name ++ " timed out after " ++ after.diagnostic

def status : Error → StatusCode
  | transport e => e.status
  | service e => e.status
  | session e => e.status
  | subscription e => e.status
  | sequence e => e.status
  | configuration _ => .badConfigurationError
  | timeout .. => .badTimeout

def isRetryable : Error → Bool
  | transport e => e.isRetryable
  | service e => e.isRetryable
  | session e => e.isRetryable
  | timeout .. => true
  | subscription _ | sequence _ | configuration _ => false

def severity : Error → Severity
  | transport _ => .warning
  | service e => e.severity
  | session e => e.severity
  | subscription _ => .error
  | sequence _ => .warning
  | configuration _ => .critical
  | timeout .. => .warning

def category : Error → String
  | transport _ => "transport"
  | service _ => "service"
  | session _ => "session"
  | subscription _ => "subscription"
  | sequence _ => "sequence"
  | configuration _ => "configuration"
  | timeout .. => "timeout"

def code : Error → ErrorCode
  | transport e => e.code
  | service _ => ⟨2, 1⟩
  | session e => e.code
  | subscription e => e.code
  | sequence e => e.code
  | configuration e => e.code
  | timeout .. => ⟨7, 1⟩

/-- A line of the log: its level and its named fields. -/
structure LogRecord where
  level : String
  fields : List (String × String)

/-- The line that reports a failure in `context`. -/
def logRecord (e : Error) (context : String) : LogRecord :=
  ⟨e.severity.logLevel,
    [("error_code", e.code.toText), ("status", e.status.toText), ("category", e.category),
     ("context", context), ("message", e.message)]⟩

end Error

namespace SessionError

/-- Creating a session failed because of `cause`. -/
def creationFailedWith (cause : Error) : SessionError :=
  .creationFailed cause.message (some cause.status)

/-- Activating a session failed because of `cause`. -/
def activationFailedWith (cause : Error) : SessionError :=
  .activationFailed cause.message (some cause.status)

end SessionError

end OpcUa
