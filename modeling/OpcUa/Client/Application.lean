import OpcUa.Client.Recovery
import OpcUa.Service.Blank

/-!
# Calls of the application

A job is carried out in stages. Most jobs are one service call on the active session
(`Job.serviceCall?`); opening and closing a session and the operations of the subscription manager
have stages of their own. `Client.pollCall` lets a call run until it has to wait.
-/

namespace OpcUa

/-! ## Service calls -/

/-- A service call, and the result of the job that consists in it. -/
structure JobCall where
  service : Service
  call : ServiceCall service
  result : Except Error service.Answer → CallResult

/-- The last status of a list, which a request for one thing must have. -/
def lastStatus (outcome : Except Error (List StatusCode)) : Except Error StatusCode :=
  outcome.bind fun statuses =>
    match statuses.getLast? with
    | some s => .ok s
    | none => .error (.fault Service.write.name .badUnknownResponse)

/-- The service call that a job consists in, if it is one. A Publish request may take as long as
the server likes; every other call is bounded. -/
def Job.serviceCall? (c : ServiceClient) : Job → Option JobCall
  | .read query => some ⟨.read, c.bounded query, .values⟩
  | .readValue target => some ⟨.read, c.bounded ⟨0.0, .both, [target]⟩,
      fun outcome => .value (SubscriptionManager.lastRead outcome)⟩
  | .write values => some ⟨.write, c.bounded ⟨values⟩, .statuses⟩
  | .writeValue value => some ⟨.write, c.bounded ⟨[value]⟩,
      fun outcome => .status (lastStatus outcome)⟩
  | .republish id number => some ⟨.republish, c.bounded ⟨id, number⟩, .republished⟩
  | .publish acknowledgements hint => some ⟨.publish, ⟨⟨acknowledgements⟩, hint, none⟩, .published⟩
  | .connect | .session | .close | .disconnect _ | .send .. | .operate _ => none

namespace Client

/-- Begins the service call of a job. -/
def startCall (id : CallId) (j : JobCall) (c : Client) : Run :=
  let (service, start) := c.service.start j.call
  let c := { c with service }
  match start with
  | .failed e => (c.finish id (j.result (.error (.session e))), none)
  | .pending phase posted => (c.setCall id (.calling phase), posted)

def advanceCall (id : CallId) (j : JobCall) (phase : CallPhase) (c : Client) : Run :=
  let (service, progress) := c.service.advance j.call phase
  let c := { c with service }
  match progress with
  | .pending phase posted => (c.setCall id (.calling phase), posted)
  | .done outcome => (c.finish id (j.result outcome), none)

/-! ## Sessions -/

/-- A job that asked for a session goes on with what it has learnt. -/
def learn (id : CallId) (job : Job) (news : SessionNews) (c : Client) : Client :=
  match news with
  | .wait w => c.setCall id (.session w)
  | .done outcome =>
    match job, outcome with
    | .connect, .ok _ => c.startManager.finish id (.connected (.ok ()))
    | .connect, .error e => c.finish id (.connected (.error (.session e)))
    | _, outcome => c.finish id (.session (outcome.mapError .session))

def startSession (id : CallId) (job : Job) (c : Client) : Client :=
  let (service, news) := c.service.ask
  { c with service }.learn id job news

def resumeSession (id : CallId) (job : Job) (w : SessionWait) (c : Client) : Client :=
  let (service, news) := c.service.resume w
  { c with service }.learn id job news

/-- Goes on when the session is closed. -/
def awaitClose (id : CallId) (job : Job) (c : Client) : Client :=
  if c.service.driver.holds id then c.setCall id .closing
  else
    match job with
    | .disconnect _ => c.finish id .disconnected
    | _ => c.finish id .closed

/-- Asks for the session to be closed. -/
def startClose (id : CallId) (job : Job) (c : Client) : Client :=
  (c.withService fun s => { s with driver := s.driver.enqueue (.close id) }).awaitClose id job

def startDisconnect (id : CallId) (managed : Bool) (c : Client) : Client :=
  let c := if managed then c.withManager (·.shutDown) else c
  (c.withService fun s => { s with disconnected := true }).startClose id (.disconnect managed)

/-! ## Requests without a session -/

/-- Sends a blank request. -/
def startSending (id : CallId) (s : Service) (handle : UInt32) (limit : Option Duration)
    (c : Client) : Run :=
  let header := RequestHeader.plain .null (.ofMillis c.service.clock) handle 0
  let (posted, await, service) := c.service.send ⟨s, header, s.blankQuery⟩ limit
  ({ c with service }.setCall id (.sending await), some posted)

/-- The service and the header of a good response. -/
def acknowledged (s : Service) (reply : Reply) : Except Error (Service × ResponseHeader) :=
  reply.bind fun r => (Response.outcome s (.ok r)).map fun _ => (r.service, r.header)

def advanceSending (id : CallId) (s : Service) (await : Await) (c : Client) : Client :=
  match c.service.reply? s await with
  | none => c
  | some reply => (c.withService (·.forget await)).finish id (.sent (acknowledged s reply))

/-! ## Operations of the manager -/

def operationCall (op : PendingOperation) (m : SubscriptionManager) (c : Client) :
    ServiceCall op.service :=
  c.service.bounded (m.operationQuery op)

/-- An operation takes effect. -/
def endOperation (id : CallId) (op : PendingOperation) (outcome : Except Error op.service.Answer)
    (c : Client) : Client :=
  match c.manager with
  | none => c
  | some m =>
    let (m, outcome) := m.finish c.service.clock op outcome
    { c with manager := some m }.finish id (.operated outcome)

def startOperation (id : CallId) (op : Operation) (c : Client) : Run :=
  match c.manager with
  | none => (c, none)
  | some m =>
    match m.begin op c.service.clock with
    | (m, .finished outcome) => ({ c with manager := some m }.finish id (.operated outcome), none)
    | (m, .pending op) =>
      let (service, start) := c.service.start (c.operationCall op m)
      let c := { c with service, manager := some m }
      match start with
      | .failed e => (c.endOperation id op (.error (.session e)), none)
      | .pending phase posted => (c.setCall id (.operating op phase), posted)

def advanceOperation (id : CallId) (op : PendingOperation) (phase : CallPhase) (c : Client) :
    Run :=
  match c.manager with
  | none => (c, none)
  | some m =>
    let (service, progress) := c.service.advance (c.operationCall op m) phase
    let c := { c with service }
    match progress with
    | .pending phase posted => (c.setCall id (.operating op phase), posted)
    | .done outcome => (c.endOperation id op outcome, none)

/-! ## All jobs -/

def startJob (id : CallId) (job : Job) (c : Client) : Run :=
  match job.serviceCall? c.service with
  | some j => c.startCall id j
  | none =>
    match job with
    | .close => (c.startClose id job, none)
    | .disconnect managed => (c.startDisconnect id managed, none)
    | .send s handle limit => c.startSending id s handle limit
    | .operate op => c.startOperation id op
    | job => (c.startSession id job, none)

/-- Lets a call run until it has to wait. -/
def pollCall (id : CallId) (c : Client) : Run :=
  match c.calls.lookup id with
  | none => (c, none)
  | some ⟨job, stage⟩ =>
    match stage with
    | .fresh => c.startJob id job
    | .session w => (c.resumeSession id job w, none)
    | .closing => (c.awaitClose id job, none)
    | .calling phase =>
      match job.serviceCall? c.service with
      | some j => c.advanceCall id j phase
      | none => (c, none)
    | .operating op phase => c.advanceOperation id op phase
    | .sending await =>
      match job with
      | .send s _ _ => (c.advanceSending id s await, none)
      | _ => (c, none)

end Client

end OpcUa
