import OpcUa.Json.Value
import OpcUa.Text.Numeral

/-!
# Status codes

A 32-bit result of a service or an operation. Its two highest bits give the severity: `00` good,
`01` uncertain, `10` and `11` bad.
-/

namespace OpcUa

structure StatusCode where
  code : UInt32
  deriving DecidableEq, Inhabited

namespace StatusCode

def good : StatusCode := ⟨0x00000000⟩
def badUnexpectedError : StatusCode := ⟨0x80010000⟩
def badCommunicationError : StatusCode := ⟨0x80050000⟩
def badUnknownResponse : StatusCode := ⟨0x80090000⟩
def badTimeout : StatusCode := ⟨0x800A0000⟩
def badShutdown : StatusCode := ⟨0x800C0000⟩
def badNothingToDo : StatusCode := ⟨0x800F0000⟩
def badCertificateInvalid : StatusCode := ⟨0x80120000⟩
def badSessionIdInvalid : StatusCode := ⟨0x80250000⟩
def badSessionClosed : StatusCode := ⟨0x80260000⟩
def badSubscriptionIdInvalid : StatusCode := ⟨0x80280000⟩
def badNodeIdUnknown : StatusCode := ⟨0x80340000⟩
def badMonitoredItemIdInvalid : StatusCode := ⟨0x80420000⟩
def badTooManyPublishRequests : StatusCode := ⟨0x80780000⟩
def badNoSubscription : StatusCode := ⟨0x80790000⟩
def badSequenceNumberUnknown : StatusCode := ⟨0x807A0000⟩
def badMessageNotAvailable : StatusCode := ⟨0x807B0000⟩
def badSequenceNumberInvalid : StatusCode := ⟨0x80880000⟩
def badConfigurationError : StatusCode := ⟨0x80890000⟩
def badNotConnected : StatusCode := ⟨0x808A0000⟩
def badInvalidArgument : StatusCode := ⟨0x80AB0000⟩

/-- The codes with a symbolic name. -/
def names : List (StatusCode × String) :=
  [(good, "Good"),
   (badUnexpectedError, "BadUnexpectedError"),
   (badCommunicationError, "BadCommunicationError"),
   (badUnknownResponse, "BadUnknownResponse"),
   (badTimeout, "BadTimeout"),
   (badShutdown, "BadShutdown"),
   (badNothingToDo, "BadNothingToDo"),
   (badCertificateInvalid, "BadCertificateInvalid"),
   (badSessionIdInvalid, "BadSessionIdInvalid"),
   (badSessionClosed, "BadSessionClosed"),
   (badSubscriptionIdInvalid, "BadSubscriptionIdInvalid"),
   (badNodeIdUnknown, "BadNodeIdUnknown"),
   (badMonitoredItemIdInvalid, "BadMonitoredItemIdInvalid"),
   (badTooManyPublishRequests, "BadTooManyPublishRequests"),
   (badNoSubscription, "BadNoSubscription"),
   (badSequenceNumberUnknown, "BadSequenceNumberUnknown"),
   (badMessageNotAvailable, "BadMessageNotAvailable"),
   (badSequenceNumberInvalid, "BadSequenceNumberInvalid"),
   (badConfigurationError, "BadConfigurationError"),
   (badNotConnected, "BadNotConnected"),
   (badInvalidArgument, "BadInvalidArgument")]

def name? (s : StatusCode) : Option String := names.lookup s

def isGood (s : StatusCode) : Bool := s.code &&& 0xC0000000 == 0

def isUncertain (s : StatusCode) : Bool := s.code &&& 0xC0000000 == 0x40000000

def isBad (s : StatusCode) : Bool := s.code &&& 0x80000000 != 0

/-- The name, if there is one, and the code in hexadecimal. -/
def toText (s : StatusCode) : String :=
  let hex := "0x" ++ Text.upperHex 8 s.code.toNat
  match s.name? with
  | some name => name ++ " (" ++ hex ++ ")"
  | none => hex

def toJson (s : StatusCode) : Json := .ofUInt32 s.code

def ofJson? (j : Json) : Option StatusCode := j.asUInt32?.map (⟨·⟩)

end StatusCode

end OpcUa
