import OpcUa.Client.Call

/-!
# The exchanges of the session driver

A session task performs one exchange that the session driver has started, and reports how it went
as an event of the epoch in which it was started.

* `ServiceClient.advanceTask`: one step of a session task.
* `Session.establish?` may fail on a timeout that is no duration; then nothing is reported.
-/

namespace OpcUa

structure SessionTask where
  epoch : UInt64
  exchange : SessionExchange
  /-- The reply that is waited for, once the request has been sent. -/
  await : Option Await

namespace SessionExchange

def service : SessionExchange → Service
  | create => .createSession
  | activate _ => .activateSession
  | close _ => .closeSession

/-- The token of the request; there is none before a session exists. -/
def token : SessionExchange → NodeId
  | create => .null
  | activate created => created.authenticationToken
  | close session => session.authenticationToken

end SessionExchange

namespace ServiceClient

/-- A nonce of the length that the security policy asks for. What is in it does not matter to the
client, which never looks at it again. -/
def nonce (c : ServiceClient) : List UInt8 := List.replicate c.channel.policy.nonceLength 0

def createQuery (c : ServiceClient) : CreateSessionQuery :=
  let server := c.channel.endpoint.server
  { client := c.config.applicationDescription
    serverUri := if server.hasGateway then some server.uri else none
    endpointUrl := c.channel.endpoint.url
    sessionName := c.config.effectiveSessionName (toString c.clock)
    clientNonce := c.nonce
    clientCertificate := c.channel.certificate.getD []
    sessionTimeout := c.config.sessionTimeout.toSeconds * 1000.0
    maxResponseMessageSize := c.config.maxResponseMessageSize }

def sessionQuery (c : ServiceClient) : (x : SessionExchange) → x.service.Query
  | .create => c.createQuery
  | .activate _ => ⟨c.config.localeIds, c.config.userIdentity⟩
  | .close _ => ⟨true⟩

/-- Reports the end of an exchange to the driver. -/
def report (epoch : UInt64) (event : SessionEvent) (c : ServiceClient) : ServiceClient :=
  { c with driver := c.driver.enqueue (.event (some epoch) event) }

/-- A session with a key of its own. -/
def establish? (created : CreateSessionAnswer) (activated : ActivateSessionAnswer)
    (c : ServiceClient) : Option (Session × ServiceClient) :=
  (Session.establish? c.driver.nextKey created activated).map fun s =>
    (s, { c with driver := { c.driver with nextKey := c.driver.nextKey + 1 } })

/-- The end of an exchange. A session is not valid after its close, even if that failed. -/
def conclude (epoch : UInt64) (c : ServiceClient) :
    (x : SessionExchange) → Except Error x.service.Answer → ServiceClient
  | .create, .ok created => c.report epoch (.createSucceeded created)
  | .create, .error e => c.report epoch (.createFailed (.creationFailedWith e))
  | .activate created, .ok activated =>
    match c.establish? created activated with
    | some (session, c) => c.report epoch (.activateSucceeded session)
    | none => c
  | .activate _, .error e => c.report epoch (.activateFailed (.activationFailedWith e))
  | .close session, _ =>
    { c with driver := c.driver.revoke session }.report epoch .closeCompleted

/-- What a step of a session task comes to: it waits, with a request if it has just sent it, or it
is over. -/
inductive TaskProgress where
  | waits (task : SessionTask) (posted : Option Posted)
  | done

def advanceTask (t : SessionTask) (c : ServiceClient) : ServiceClient × TaskProgress :=
  match t.await with
  | none =>
    let (header, c) := c.header t.exchange.token c.config.requestTimeout
    let (posted, await, c) :=
      c.send ⟨t.exchange.service, header, c.sessionQuery t.exchange⟩ (some c.config.requestTimeout)
    (c, .waits { t with await := some await } (some posted))
  | some await =>
    match c.outcome? t.exchange.service await with
    | none => (c, .waits t none)
    | some outcome => ((c.forget await).conclude t.epoch t.exchange outcome, .done)

def isTaskReady (t : SessionTask) (c : ServiceClient) : Bool :=
  t.await.all c.isAnswered

end ServiceClient

namespace SessionTask

/-- The time at which the task gives up, if it waits for a reply. -/
def due? (t : SessionTask) : Option Nat := t.await.bind fun a => a.limit.map (·.2)

end SessionTask

end OpcUa
