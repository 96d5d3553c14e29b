import OpcUa.Service.Message

/-!
# The life of a session

A session is created, activated, used and closed. `SessionState.next?` is the table of the
transitions; an event that is not in it leaves the state as it is.

* `Session.establish?`: the session that two responses of the server describe.
* `SessionEvent.failure`: why there is no session after an event.
-/

namespace OpcUa

/-- Tells apart the sessions of one client. -/
abbrev SessionKey := Nat

/-- A session as the server granted it. -/
structure Session where
  key : SessionKey
  id : NodeId
  authenticationToken : NodeId
  timeout : Duration
  maxRequestMessageSize : UInt32
  serverNonce : List UInt8
  serverCertificate : List UInt8
  deriving DecidableEq

namespace Session

/-- The duration of a number of milliseconds. Negative ones and those that are no number count as
zero; there is none for a number that is too large. -/
def timeout? (millis : Float) : Option Duration :=
  Duration.ofSeconds? ((if 0.0 < millis then millis else 0.0) / 1000.0)

/-- The session of a create and an activate response, unless its timeout is no duration. -/
def establish? (key : SessionKey) (created : CreateSessionAnswer)
    (activated : ActivateSessionAnswer) : Option Session := do
  return {
    key
    id := created.sessionId
    authenticationToken := created.authenticationToken
    timeout := ← timeout? created.sessionTimeout
    maxRequestMessageSize := created.maxRequestMessageSize
    serverNonce := activated.serverNonce
    serverCertificate := created.serverCertificate }

def diagnostic (s : Session) (valid : Bool) : String :=
  Text.record "UaSession" [("session_id", s.id.diagnostic),
    ("revised_session_timeout", s.timeout.diagnostic), ("valid", Text.boolean valid)]

end Session

/-! ## States -/

inductive SessionState where
  | inactive
  | creating
  | activating (created : CreateSessionAnswer)
  | active (session : Session)
  | closing (session : Session)

/-- A state without what it holds. -/
inductive SessionStateKind where
  | inactive
  | creating
  | activating
  | active
  | closing
  deriving DecidableEq

namespace SessionStateKind

def toText : SessionStateKind → String
  | inactive => "Inactive"
  | creating => "Creating"
  | activating => "Activating"
  | active => "Active"
  | closing => "Closing"

def names : List (String × SessionStateKind) :=
  [("inactive", inactive), ("creating", creating), ("activating", activating),
   ("active", active), ("closing", closing)]

def toJson (k : SessionStateKind) : Json := .ofCase names k

def ofJson? (j : Json) : Option SessionStateKind := j.caseOf? names

def isActive (k : SessionStateKind) : Bool := k == active

/-- Whether an exchange with the server is under way. -/
def isTransitioning : SessionStateKind → Bool
  | creating | activating | closing => true
  | inactive | active => false

end SessionStateKind

/-! ## Events -/

inductive SessionEvent where
  | sessionRequested
  | createSucceeded (created : CreateSessionAnswer)
  | createFailed (error : SessionError)
  | activateSucceeded (session : Session)
  | activateFailed (error : SessionError)
  | closeRequested
  | closeCompleted
  | invalidated (error : SessionError)

namespace SessionEvent

def name : SessionEvent → String
  | sessionRequested => "SessionRequested"
  | createSucceeded _ => "CreateSessionSucceeded"
  | createFailed _ => "CreateSessionFailed"
  | activateSucceeded _ => "ActivateSessionSucceeded"
  | activateFailed _ => "ActivateSessionFailed"
  | closeRequested => "CloseRequested"
  | closeCompleted => "CloseCompleted"
  | invalidated _ => "SessionInvalidated"

/-- The failure that an event reports; an event that reports none closes the session. -/
def failure : SessionEvent → SessionError
  | createFailed e | activateFailed e | invalidated e => e
  | _ => .closed

end SessionEvent

namespace SessionState

/-- The state after an event, or `none` if the event means nothing in this state. -/
def next? : SessionState → SessionEvent → Option SessionState
  | inactive, .sessionRequested => some creating
  | creating, .createSucceeded created => some (activating created)
  | creating, .createFailed _ => some inactive
  | activating _, .activateSucceeded session => some (active session)
  | activating _, .activateFailed _ => some inactive
  | creating, .closeRequested | activating _, .closeRequested => some inactive
  | active session, .closeRequested => some (closing session)
  | active _, .invalidated _ => some inactive
  | closing _, .closeCompleted => some inactive
  | _, _ => none

def kind : SessionState → SessionStateKind
  | inactive => .inactive
  | creating => .creating
  | activating _ => .activating
  | active _ => .active
  | closing _ => .closing

/-- The session that is held, in use or closing. -/
def session? : SessionState → Option Session
  | active session | closing session => some session
  | _ => none

end SessionState

/-! ## Counters -/

structure SessionStats where
  creations : Nat
  activations : Nat
  failures : Nat
  closes : Nat
  deriving DecidableEq

namespace SessionStats

def zero : SessionStats := ⟨0, 0, 0, 0⟩

instance : Inhabited SessionStats := ⟨zero⟩

def recordCreation (s : SessionStats) : SessionStats := { s with creations := s.creations + 1 }

def recordActivation (s : SessionStats) : SessionStats :=
  { s with activations := s.activations + 1 }

def recordFailure (s : SessionStats) : SessionStats := { s with failures := s.failures + 1 }

def recordClose (s : SessionStats) : SessionStats := { s with closes := s.closes + 1 }

end SessionStats

end OpcUa
