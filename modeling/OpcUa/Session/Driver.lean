import OpcUa.Session.State

/-!
# The session driver

The driver owns the session of a client. It takes commands from a queue, one at a time, moves
through the states of `SessionState.next?` and starts an exchange with the server whenever it
enters a state that needs one.

Every state that is entered opens a new epoch. An exchange reports back with the epoch in which it
was started, and what comes from an older epoch is dropped (`handle_of_stale`), so that an attempt
that was given up cannot drive the one after it.

Callers wait for a promise: the outcome of one attempt to get a session. The promise of the present
attempt is resolved once; when it is replaced it joins the past ones and never changes again.
-/

namespace OpcUa

/-- How an attempt to get a session ended. -/
abbrev SessionOutcome := Except SessionError Session

/-- Promises are numbered in the order in which they were made. -/
abbrev PromiseId := Nat

/-- Tells apart the callers that wait for the session to be closed. -/
abbrev CloseTicket := Nat

inductive SessionCommand where
  /-- An event; the completion of an exchange carries the epoch that started it. -/
  | event (epoch : Option UInt64) (event : SessionEvent)
  | close (ticket : CloseTicket)
  | shutdown

/-- An exchange with the server that a state needs. -/
inductive SessionExchange where
  | create
  | activate (created : CreateSessionAnswer)
  | close (session : Session)

structure SessionDriver where
  state : SessionState
  epoch : UInt64
  commands : List SessionCommand
  /-- Whether the driver takes no more commands. -/
  stopped : Bool
  /-- The outcome of the present promise, once there is one. -/
  present : Option SessionOutcome
  /-- The outcomes of the promises that were replaced. -/
  past : List (Option SessionOutcome)
  /-- The callers that wait for the session to be closed. -/
  closeWaiters : List CloseTicket
  /-- The sessions that can no longer be used. -/
  revoked : List SessionKey
  /-- The key of the next session. -/
  nextKey : SessionKey
  stats : SessionStats

namespace SessionDriver

def fresh : SessionDriver :=
  ⟨.inactive, 0, [], false, none, [], [], [], 0, .zero⟩

instance : Inhabited SessionDriver := ⟨fresh⟩

/-! ## Sessions -/

def isValid (d : SessionDriver) (s : Session) : Bool := !d.revoked.contains s.key

/-- From now on the session is not valid. -/
def revoke (s : Session) (d : SessionDriver) : SessionDriver :=
  { d with revoked := s.key :: d.revoked }

def revokeHeld (state : SessionState) (d : SessionDriver) : SessionDriver :=
  match state.session? with
  | some s => d.revoke s
  | none => d

/-- The session that the driver would hand out now. -/
def current? (d : SessionDriver) : Option Session :=
  match d.state, d.present with
  | .active _, some (.ok s) => if d.isValid s then some s else none
  | _, _ => none

/-! ## Promises -/

/-- The promise of the present attempt. -/
def promise (d : SessionDriver) : PromiseId := d.past.length

def outcome? (d : SessionDriver) (p : PromiseId) : Option SessionOutcome :=
  if p = d.promise then d.present else d.past[p]?.join

/-- Whether a promise has been replaced. -/
def isRetired (d : SessionDriver) (p : PromiseId) : Bool := p != d.promise

/-- Resolves the present promise unless it is resolved already. -/
def resolve (outcome : SessionOutcome) (d : SessionDriver) : SessionDriver :=
  { d with present := d.present <|> some outcome }

/-- Replaces the present promise by a new one. -/
def renew (d : SessionDriver) : SessionDriver :=
  { d with past := d.past ++ [d.present], present := none }

/-! ## Commands -/

def enqueue (c : SessionCommand) (d : SessionDriver) : SessionDriver :=
  if d.stopped then d else { d with commands := d.commands ++ [c] }

/-- Whether a caller that asked for the session to be closed still waits. -/
def holds (d : SessionDriver) (ticket : CloseTicket) : Bool :=
  d.closeWaiters.contains ticket ||
    d.commands.any fun c => match c with | .close t => t == ticket | _ => false

/-- Reports that a session can no longer be used. Only the session that would be handed out is
affected. -/
def invalidate (s : Session) (error : SessionError) (d : SessionDriver) : SessionDriver :=
  match d.current? with
  | some current =>
    if current.key = s.key then (d.revoke s).enqueue (.event none (.invalidated error)) else d
  | none => d

def releaseClosers (d : SessionDriver) : SessionDriver := { d with closeWaiters := [] }

/-! ## Transitions -/

/-- There is no session any more. A caller that came while the old one was closing is waiting for
the next attempt; otherwise the attempt has failed. -/
def enterInactive (previous : SessionState) (event : SessionEvent) (awaited : Bool)
    (d : SessionDriver) : SessionDriver :=
  let d := (d.revokeHeld previous).releaseClosers
  let closed := previous.kind == .closing
  let d := if closed then { d with stats := d.stats.recordClose } else d
  if closed && d.present.isNone && awaited then d.enqueue (.event none .sessionRequested)
  else
    let failed := d.present.isNone && event.failure != .closed
    let d := (d.resolve (.error event.failure)).renew
    if failed then { d with stats := d.stats.recordFailure } else d

/-- What happens on entering the state that the driver is now in. -/
def enter (previous : SessionState) (event : SessionEvent) (awaited : Bool)
    (d : SessionDriver) : SessionDriver × Option SessionExchange :=
  match d.state with
  | .inactive => (d.enterInactive previous event awaited, none)
  | .creating => (d, some .create)
  | .activating created =>
    ({ d with stats := d.stats.recordCreation }, some (.activate created))
  | .active session =>
    ({ d with stats := d.stats.recordActivation }.resolve (.ok session), none)
  | .closing session => (d.renew, some (.close session))

/-- Handles an event, and tells which exchange it starts. `awaited` says whether some caller waits
for the present promise. -/
def handle (epoch : Option UInt64) (event : SessionEvent) (awaited : Bool) (d : SessionDriver) :
    SessionDriver × Option SessionExchange :=
  if epoch.any (· != d.epoch) then (d, none)
  else
    match d.state.next? event with
    | none => (d, none)
    | some state => { d with state, epoch := d.epoch + 1 }.enter d.state event awaited

/-- The driver ends; nobody gets a session any more. -/
def shutDown (d : SessionDriver) : SessionDriver :=
  let d := (d.revokeHeld d.state).resolve (.error .clientShutdown)
  { d.renew.releaseClosers with
    state := .inactive
    present := some (.error .clientShutdown)
    commands := []
    stopped := true }

def perform (c : SessionCommand) (awaited : Bool) (d : SessionDriver) :
    SessionDriver × Option SessionExchange :=
  match c with
  | .event epoch event => d.handle epoch event awaited
  | .close ticket =>
    let (d, exchange) :=
      { d with closeWaiters := d.closeWaiters ++ [ticket] }.handle none .closeRequested awaited
    (if d.state.kind == .inactive then d.releaseClosers else d, exchange)
  | .shutdown => (d.shutDown, none)

/-- Performs the next command. -/
def step (awaited : Bool) (d : SessionDriver) : SessionDriver × Option SessionExchange :=
  match d.commands with
  | [] => (d, none)
  | c :: rest => { d with commands := rest }.perform c awaited

def diagnostic (d : SessionDriver) : String :=
  Text.record "SessionFsm" [("state", d.state.kind.toText)]

/-! ## Views -/

theorem handle_of_stale {d : SessionDriver} {epoch : UInt64} (h : epoch ≠ d.epoch)
    (event : SessionEvent) (awaited : Bool) : d.handle (some epoch) event awaited = (d, none) := by
  simp [handle, h]

theorem outcome?_promise (d : SessionDriver) : d.outcome? d.promise = d.present := by
  simp [outcome?]

end SessionDriver

end OpcUa
