import OpcUa.Config.Basic
import OpcUa.Time.Spelling

/-!
# Configurations in JSON

Every field has a default and durations are spelled, such as `1h 30m`.
-/

namespace OpcUa

namespace UserIdentity

def toJson : UserIdentity → Json
  | anonymous => .obj [("type", .str "anonymous")]
  | userName username password =>
    .obj [("type", .str "user_name"), ("username", .str username), ("password", .str password)]

/-- The credentials of a named user. -/
def credentials? (j : Json) : Option UserIdentity := do
  let r ← j.record? ["username", "password"]
  return .userName (← r.required "username" Json.asStr?) (← r.required "password" Json.asStr?)

/-- The tag is a field among the others, or the first element of a list. -/
def ofJson? : Json → Option UserIdentity
  | .obj fields => do
    match ← (fields.lookup "type").bind Json.asStr? with
    | "anonymous" => some anonymous
    | "user_name" => credentials? (.obj fields)
    | _ => none
  | .arr [.str "anonymous"] => some anonymous
  | .arr (.str "user_name" :: [username, password]) => credentials? (.arr [username, password])
  | _ => none

end UserIdentity

namespace Duration

def toJson (d : Duration) : Json := .str d.spell

def ofJson? (j : Json) : Option Duration := j.asStr?.bind ofSpelling?

end Duration

namespace ClientConfig

def toJson (c : ClientConfig) : Json :=
  .obj ([("application_name", .str c.applicationName)] ++
    Json.optionalField "application_uri" Json.str c.applicationUri ++
    Json.optionalField "product_uri" Json.str c.productUri ++
    Json.optionalField "session_name" Json.str c.sessionName ++
    [("session_timeout", c.sessionTimeout.toJson), ("request_timeout", c.requestTimeout.toJson),
     ("max_response_message_size", .ofUInt32 c.maxResponseMessageSize),
     ("user_identity", c.userIdentity.toJson), ("locale_ids", .ofList .str c.localeIds),
     ("max_notifications_per_publish", .ofUInt32 c.maxNotificationsPerPublish),
     ("publish_pipeline_depth", .ofUInt32 c.publishPipelineDepth),
     ("publish_failure_backoff", c.publishFailureBackoff.toJson),
     ("value_channel_capacity", .nat c.valueChannelCapacity.toNat)])

def fieldNames : List String :=
  ["application_name", "application_uri", "product_uri", "session_name", "session_timeout",
   "request_timeout", "max_response_message_size", "user_identity", "locale_ids",
   "max_notifications_per_publish", "publish_pipeline_depth", "publish_failure_backoff",
   "value_channel_capacity"]

def ofJson? (j : Json) : Option ClientConfig := do
  let r ← j.record? fieldNames
  let text := Json.nullable Json.asStr?
  return {
    applicationName := ← r.defaulted "application_name" default.applicationName Json.asStr?
    applicationUri := ← r.defaulted "application_uri" none text
    productUri := ← r.defaulted "product_uri" none text
    sessionName := ← r.defaulted "session_name" none text
    sessionTimeout := ← r.defaulted "session_timeout" default.sessionTimeout Duration.ofJson?
    requestTimeout := ← r.defaulted "request_timeout" default.requestTimeout Duration.ofJson?
    maxResponseMessageSize := ← r.defaulted "max_response_message_size" 0 Json.asUInt32?
    userIdentity := ← r.defaulted "user_identity" .anonymous UserIdentity.ofJson?
    localeIds := ← r.defaulted "locale_ids" [] (Json.listOf Json.asStr?)
    maxNotificationsPerPublish :=
      ← r.defaulted "max_notifications_per_publish" defaultMaxNotifications Json.asUInt32?
    publishPipelineDepth := ← r.defaulted "publish_pipeline_depth" 2 Json.asUInt32?
    publishFailureBackoff := ← r.defaulted "publish_failure_backoff" .zero Duration.ofJson?
    valueChannelCapacity := ← r.defaulted "value_channel_capacity" 64 Json.asUInt64? }

end ClientConfig

end OpcUa
