import OpcUa.Json.Value

/-!
# Endpoints

How a server can be reached: its address, its application and the security of the channel.
-/

namespace OpcUa

inductive SecurityMode where
  | none
  | sign
  | signAndEncrypt
  deriving DecidableEq

namespace SecurityMode

def names : List (String × SecurityMode) :=
  [("none", none), ("sign", sign), ("sign_and_encrypt", signAndEncrypt)]

def toJson (m : SecurityMode) : Json := .ofCase names m

def ofJson? (j : Json) : Option SecurityMode := j.caseOf? names

end SecurityMode

inductive SecurityPolicy where
  | none
  | basic128Rsa15
  | basic256
  | basic256Sha256
  | aes128Sha256RsaOaep
  | aes256Sha256RsaPss
  deriving DecidableEq

namespace SecurityPolicy

def names : List (String × SecurityPolicy) :=
  [("none", none), ("basic128_rsa15", basic128Rsa15), ("basic256", basic256),
   ("basic256_sha256", basic256Sha256), ("aes128_sha256_rsa_oaep", aes128Sha256RsaOaep),
   ("aes256_sha256_rsa_pss", aes256Sha256RsaPss)]

/-- The name of the policy within its URI. -/
def toText : SecurityPolicy → String
  | none => "None"
  | basic128Rsa15 => "Basic128Rsa15"
  | basic256 => "Basic256"
  | basic256Sha256 => "Basic256Sha256"
  | aes128Sha256RsaOaep => "Aes128_Sha256_RsaOaep"
  | aes256Sha256RsaPss => "Aes256_Sha256_RsaPss"

def uri (p : SecurityPolicy) : String :=
  "http://opcfoundation.org/UA/SecurityPolicy#" ++ p.toText

/-- The length of the nonces exchanged when a session is opened. -/
def nonceLength : SecurityPolicy → Nat
  | none => 0
  | basic128Rsa15 => 16
  | basic256 | basic256Sha256 | aes128Sha256RsaOaep | aes256Sha256RsaPss => 32

def requiresCertificates (p : SecurityPolicy) : Bool := p != none

def toJson (p : SecurityPolicy) : Json := .ofCase names p

def ofJson? (j : Json) : Option SecurityPolicy := j.caseOf? names

end SecurityPolicy

inductive ApplicationType where
  | server
  | client
  | clientAndServer
  | discoveryServer
  deriving DecidableEq

namespace ApplicationType

def names : List (String × ApplicationType) :=
  [("server", server), ("client", client), ("client_and_server", clientAndServer),
   ("discovery_server", discoveryServer)]

def toJson (t : ApplicationType) : Json := .ofCase names t

def ofJson? (j : Json) : Option ApplicationType := j.caseOf? names

end ApplicationType

/-- What an application says about itself. -/
structure ApplicationDescription where
  uri : String
  productUri : String
  name : String
  type : ApplicationType
  /-- The server behind the gateway through which the application is reached. -/
  gatewayServerUri : Option String
  discoveryUrls : List String
  deriving DecidableEq

namespace ApplicationDescription

def blank : ApplicationDescription := ⟨"", "", "", .client, none, []⟩

/-- Whether the application is reached through a gateway. -/
def hasGateway (a : ApplicationDescription) : Bool := a.gatewayServerUri.any (!·.isEmpty)

def toJson (a : ApplicationDescription) : Json :=
  .obj ([("application_uri", .str a.uri), ("product_uri", .str a.productUri),
    ("application_name", .str a.name), ("application_type", a.type.toJson)] ++
    Json.optionalField "gateway_server_uri" Json.str a.gatewayServerUri ++
    [("discovery_urls", .ofList .str a.discoveryUrls)])

def ofJson? (j : Json) : Option ApplicationDescription := do
  let r ← j.record? ["application_uri", "product_uri", "application_name", "application_type",
    "gateway_server_uri", "discovery_urls"]
  return ⟨← r.required "application_uri" Json.asStr?, ← r.defaulted "product_uri" "" Json.asStr?,
    ← r.required "application_name" Json.asStr?,
    ← r.defaulted "application_type" .client ApplicationType.ofJson?,
    ← r.defaulted "gateway_server_uri" none (Json.nullable Json.asStr?),
    ← r.defaulted "discovery_urls" [] (Json.listOf Json.asStr?)⟩

end ApplicationDescription

structure EndpointDescription where
  url : String
  server : ApplicationDescription
  serverCertificate : List UInt8
  securityMode : SecurityMode
  securityPolicy : SecurityPolicy
  deriving DecidableEq

namespace EndpointDescription

/-- An endpoint of which nothing is known. -/
def blank : EndpointDescription := ⟨"", .blank, [], .none, .none⟩

instance : Inhabited EndpointDescription := ⟨blank⟩

def toJson (e : EndpointDescription) : Json :=
  .obj [("endpoint_url", .str e.url), ("server", e.server.toJson),
    ("server_certificate", .ofBytes e.serverCertificate), ("security_mode", e.securityMode.toJson),
    ("security_policy", e.securityPolicy.toJson)]

def ofJson? (j : Json) : Option EndpointDescription := do
  let r ← j.record? ["endpoint_url", "server", "server_certificate", "security_mode",
    "security_policy"]
  return ⟨← r.required "endpoint_url" Json.asStr?,
    ← r.required "server" ApplicationDescription.ofJson?,
    ← r.defaulted "server_certificate" [] Json.bytes?,
    ← r.defaulted "security_mode" .none SecurityMode.ofJson?,
    ← r.defaulted "security_policy" .none SecurityPolicy.ofJson?⟩

end EndpointDescription

end OpcUa
