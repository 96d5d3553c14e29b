import OpcUa.Client.Exchange
import OpcUa.Session.Wait

/-!
# Service calls

A service call is made on the active session: it waits for the session, sends its request and waits
for the reply. `ServiceClient.start` and `ServiceClient.advance` take a call as far as it can go
without waiting.

A reply that says that the server no longer knows the session is reported to the session driver,
so that the session is handed out no more.
-/

namespace OpcUa

/-- The channel to the server. -/
structure Channel where
  endpoint : EndpointDescription
  policy : SecurityPolicy
  /-- The certificate of the client, if it can be had. -/
  certificate : Option (List UInt8)

/-- A client of the server's services. -/
structure ServiceClient where
  config : ClientConfig
  channel : Channel
  driver : SessionDriver
  handles : Handles
  /-- Whether the client refuses to open another session. -/
  disconnected : Bool
  /-- The time in milliseconds. -/
  clock : Nat
  exchanges : Exchanges

/-- What is asked of a service, and how long the answer may take. -/
structure ServiceCall (s : Service) where
  query : s.Query
  /-- The time after which the server may drop the request. -/
  hint : Duration
  /-- The time after which the client gives up, if it ever does. -/
  limit : Option Duration

/-- A reply that a task waits for. -/
structure Await where
  exchange : ExchangeId
  /-- How long it waits, and the time at which it gives up. -/
  limit : Option (Duration × Nat)

/-- How far a call is that has begun. -/
inductive CallPhase where
  | session (wait : SessionWait)
  | exchange (session : Session) (await : Await)

/-- The time at which a call gives up, if it waits for a reply. -/
def CallPhase.due? : CallPhase → Option Nat
  | .exchange _ await => await.limit.map (·.2)
  | .session _ => none

/-- The wait of a call for its session. -/
def CallPhase.wait? : CallPhase → Option SessionWait
  | .session w => some w
  | .exchange .. => none

/-- How the wait of a call for its session goes on. -/
inductive CallStart where
  | failed (e : SessionError)
  /-- The call waits, with a request if it has just sent it. -/
  | pending (phase : CallPhase) (posted : Option Posted)

/-- How a call goes on. -/
inductive CallProgress (s : Service) where
  | pending (phase : CallPhase) (posted : Option Posted)
  | done (outcome : Except Error s.Answer)

namespace ServiceClient

def fresh (config : ClientConfig) (channel : Channel) : ServiceClient :=
  ⟨config, channel, .fresh, .fresh, false, 0, .empty⟩

/-! ## Requests -/

/-- A header with a handle of its own. -/
def header (token : NodeId) (hint : Duration) (c : ServiceClient) :
    RequestHeader × ServiceClient :=
  let (handle, handles) := c.handles.take
  (.plain token (.ofMillis c.clock) handle (timeoutHint hint), { c with handles })

/-- Sends a request, and waits for the reply until the limit is over. -/
def send (request : Request) (limit : Option Duration) (c : ServiceClient) :
    Posted × Await × ServiceClient :=
  let (id, exchanges) := c.exchanges.start
  (⟨id, request⟩, ⟨id, limit.map fun d => (d, c.clock + d.ceilMillis)⟩, { c with exchanges })

/-- What has come of an exchange. A reply counts even if it comes when the time is over. -/
def reply? (s : Service) (a : Await) (c : ServiceClient) : Option Reply :=
  match c.exchanges.reply? a.exchange with
  | some reply => some reply
  | none =>
    match a.limit with
    | some (after, due) => if due ≤ c.clock then some (.error (.timeout s.name after)) else none
    | none => none

/-- The outcome of an exchange, once there is one. -/
def outcome? (s : Service) (a : Await) (c : ServiceClient) : Option (Except Error s.Answer) :=
  (c.reply? s a).map (Response.outcome s)

def forget (a : Await) (c : ServiceClient) : ServiceClient :=
  { c with exchanges := c.exchanges.forget a.exchange }

/-! ## Sessions -/

/-- A caller asks for the session. -/
def ask (c : ServiceClient) : ServiceClient × SessionNews :=
  if c.disconnected then (c, .done (.error .clientShutdown))
  else
    let (driver, news) := c.driver.ask
    ({ c with driver }, news)

/-- A caller goes on with its wait for the session. -/
def resume (w : SessionWait) (c : ServiceClient) : ServiceClient × SessionNews :=
  let (driver, news) := c.driver.resume w
  ({ c with driver }, news)

/-- A fault that ends the session is the end of it for everyone. -/
def reportFault {α : Type} (session : Session) (outcome : Except Error α) (c : ServiceClient) :
    ServiceClient :=
  match outcome with
  | .error (.service fault) =>
    if fault.endsSession then
      { c with driver := c.driver.invalidate session (.invalidated fault.status.toText) }
    else c
  | _ => c

/-! ## Calls -/

variable {s : Service}

/-- Goes on with what was learnt about the session. -/
def proceed (call : ServiceCall s) (news : SessionNews) (c : ServiceClient) :
    ServiceClient × CallStart :=
  match news with
  | .wait w => (c, .pending (.session w) none)
  | .done (.error e) => (c, .failed e)
  | .done (.ok session) =>
    let (header, c) := c.header session.authenticationToken call.hint
    let (posted, await, c) := c.send ⟨s, header, call.query⟩ call.limit
    (c, .pending (.exchange session await) (some posted))

/-- Begins a call. -/
def start (call : ServiceCall s) (c : ServiceClient) : ServiceClient × CallStart :=
  let (c, news) := c.ask
  c.proceed call news

/-- Takes a call a step further. -/
def advance (call : ServiceCall s) (phase : CallPhase) (c : ServiceClient) :
    ServiceClient × CallProgress s :=
  match phase with
  | .session w =>
    let (c, news) := c.resume w
    match c.proceed call news with
    | (c, .failed e) => (c, .done (.error (.session e)))
    | (c, .pending phase posted) => (c, .pending phase posted)
  | .exchange session await =>
    match c.outcome? s await with
    | none => (c, .pending phase none)
    | some outcome => ((c.forget await).reportFault session outcome, .done outcome)

/-- Whether an exchange is over: its reply has come or its time is up. -/
def isAnswered (a : Await) (c : ServiceClient) : Bool :=
  (c.exchanges.reply? a.exchange).isSome || a.limit.any (·.2 ≤ c.clock)

/-- Whether a call can go on. -/
def isReady (phase : CallPhase) (c : ServiceClient) : Bool :=
  match phase with
  | .session w => c.driver.isOver w
  | .exchange _ await => c.isAnswered await

def diagnostic (c : ServiceClient) : String :=
  Text.record "SessionClient" [("endpoint", Text.quoted c.channel.endpoint.url),
    ("session", c.driver.diagnostic), ("disconnected", Text.boolean c.disconnected)]

/-- A call that is bounded by the request timeout. -/
def bounded (query : s.Query) (c : ServiceClient) : ServiceCall s :=
  ⟨query, c.config.requestTimeout, some c.config.requestTimeout⟩

end ServiceClient

end OpcUa
