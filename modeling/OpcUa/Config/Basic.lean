import OpcUa.Endpoint
import OpcUa.Error.Basic
import OpcUa.Text.Blank
import OpcUa.Text.Layout
import OpcUa.Text.Quoted

/-!
# Client configuration

* `ClientConfig.validate`: refuses settings with which a client cannot work.
* `ClientConfig.ofSettings`: the validated configuration of a list of settings.
-/

namespace OpcUa

/-- Who the client says it is. -/
inductive UserIdentity where
  | anonymous
  | userName (username password : String)
  deriving DecidableEq

namespace UserIdentity

def tokenType : UserIdentity → String
  | anonymous => "anonymous"
  | userName .. => "username"

/-- The diagnostic text, which never shows the password. -/
def diagnostic : UserIdentity → String
  | anonymous => "Anonymous"
  | userName username _ =>
    Text.record "UserName" [("username", Text.quoted username), ("password", Text.quoted "***")]

end UserIdentity

structure ClientConfig where
  applicationName : String
  applicationUri : Option String
  productUri : Option String
  sessionName : Option String
  sessionTimeout : Duration
  requestTimeout : Duration
  maxResponseMessageSize : UInt32
  userIdentity : UserIdentity
  localeIds : List String
  maxNotificationsPerPublish : UInt32
  /-- Publish requests kept outstanding for each subscription. -/
  publishPipelineDepth : UInt32
  /-- The wait after a failed Publish. -/
  publishFailureBackoff : Duration
  /-- Values kept for each watcher of an item. -/
  valueChannelCapacity : UInt64
  deriving DecidableEq

namespace ClientConfig

def defaultMaxNotifications : UInt32 := 65535

def default : ClientConfig where
  applicationName := "uasub client"
  applicationUri := none
  productUri := none
  sessionName := none
  sessionTimeout := .ofSecs 120
  requestTimeout := .ofSecs 60
  maxResponseMessageSize := 0
  userIdentity := .anonymous
  localeIds := []
  maxNotificationsPerPublish := defaultMaxNotifications
  publishPipelineDepth := 2
  publishFailureBackoff := .zero
  valueChannelCapacity := 64

instance : Inhabited ClientConfig := ⟨default⟩

def invalidValue (field reason : String) : Except Error Unit :=
  .error (.configuration (.invalidValue field reason))

/-- Whether a user name is missing. -/
def hasNamelessUser (c : ClientConfig) : Bool :=
  match c.userIdentity with
  | .userName username _ => username.isEmpty
  | .anonymous => false

/-- The first of the settings that cannot work, in the order of the fields. -/
def validate (c : ClientConfig) : Except Error Unit :=
  if Text.isAllBlank c.applicationName then
    .error (.configuration (.missingField "application_name"))
  else if c.sessionTimeout.isZero then
    invalidValue "session_timeout" "Session timeout must be greater than 0"
  else if c.requestTimeout.isZero then
    invalidValue "request_timeout" "Request timeout must be greater than 0"
  else if c.publishPipelineDepth = 0 then
    invalidValue "publish_pipeline_depth"
      "At least one publish request per subscription is required"
  else if c.maxNotificationsPerPublish = 0 then
    invalidValue "max_notifications_per_publish" "Must be greater than 0"
  else if c.valueChannelCapacity = 0 then
    invalidValue "value_channel_capacity" "Must be greater than 0"
  else if c.hasNamelessUser then
    invalidValue "user_identity" "User name must not be empty"
  else .ok ()

/-- The application URI, made from the application name without its spaces if not set. -/
def effectiveApplicationUri (c : ClientConfig) : String :=
  c.applicationUri.getD
    ("urn:uasub:client:" ++ String.ofList (c.applicationName.toList.filter (· != ' ')))

/-- The session name, made from the application name and the time in milliseconds if not set. -/
def effectiveSessionName (c : ClientConfig) (millis : String) : String :=
  c.sessionName.getD ("UaSession:" ++ c.applicationName ++ ":" ++ millis)

def applicationDescription (c : ClientConfig) : ApplicationDescription where
  uri := c.effectiveApplicationUri
  productUri := c.productUri.getD ""
  name := c.applicationName
  type := .client
  gatewayServerUri := none
  discoveryUrls := []

/-! ## Settings -/

/-- One setting of a configuration. -/
inductive Setting where
  | applicationName (name : String)
  | applicationUri (uri : String)
  | productUri (uri : String)
  | sessionName (name : String)
  | sessionTimeout (timeout : Duration)
  | requestTimeout (timeout : Duration)
  | maxResponseMessageSize (size : UInt32)
  | username (username password : String)
  | anonymous
  | locale (id : String)
  | maxNotificationsPerPublish (max : UInt32)
  | publishPipelineDepth (depth : UInt32)
  | publishFailureBackoff (backoff : Duration)
  | valueChannelCapacity (capacity : UInt64)

/-- A configuration with one setting changed; locales are added to those already there. -/
def set (c : ClientConfig) : Setting → ClientConfig
  | .applicationName name => { c with applicationName := name }
  | .applicationUri uri => { c with applicationUri := some uri }
  | .productUri uri => { c with productUri := some uri }
  | .sessionName name => { c with sessionName := some name }
  | .sessionTimeout timeout => { c with sessionTimeout := timeout }
  | .requestTimeout timeout => { c with requestTimeout := timeout }
  | .maxResponseMessageSize size => { c with maxResponseMessageSize := size }
  | .username username password => { c with userIdentity := .userName username password }
  | .anonymous => { c with userIdentity := .anonymous }
  | .locale id => { c with localeIds := c.localeIds ++ [id] }
  | .maxNotificationsPerPublish max => { c with maxNotificationsPerPublish := max }
  | .publishPipelineDepth depth => { c with publishPipelineDepth := depth }
  | .publishFailureBackoff backoff => { c with publishFailureBackoff := backoff }
  | .valueChannelCapacity capacity => { c with valueChannelCapacity := capacity }

/-- The defaults with the settings applied in order, if the result is valid. -/
def ofSettings (settings : List Setting) : Except Error ClientConfig := do
  let c := settings.foldl set default
  c.validate
  return c

end ClientConfig

end OpcUa
