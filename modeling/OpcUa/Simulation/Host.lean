import OpcUa.Client.Poll

/-!
# A client and its server in one thread

A host runs the tasks of a client, one at a time and each until it has to wait; a task that can go
on takes its place at the end of the queue. A server takes every request at once and may hold its
reply back. Time passes only when the host lets it.

* `Host.settle`: everything runs until no task can go on.
* `Host.advance`, `Host.elapse`: time passes in one leap or millisecond by millisecond.
-/

namespace OpcUa.Simulation

/-- A server: what it does with a request, and the reply if it gives one at once. -/
class Server (σ : Type) where
  receive : Posted → σ → σ × Option Reply

/-- A call that has ended, with the client as it was then. -/
structure Finished where
  name : String
  result : CallResult
  client : Client

structure Host (σ : Type) where
  client : Client
  server : σ
  /-- The tasks that can go on, in the order in which they will. -/
  ready : List TaskId
  /-- The tasks that wait until no other task can go on. -/
  deferred : List TaskId
  /-- The names of the calls that have not ended. -/
  names : List (CallId × String)
  /-- The calls that have ended, in that order. -/
  finished : List Finished
  /-- The listener of a manager, from its start. -/
  listener : Listener
  /-- The callbacks of an item, from its creation. -/
  callbacks : Callbacks

namespace Host

variable {σ : Type}

/-! ## Calls -/

def startListener (h : Host σ) : Host σ :=
  { h with client := h.client.withManager (·.addListener h.listener) }

/-- A client without a call, and the server that it talks to. -/
def ofClient (client : Client) (server : σ) (listener : Listener) (callbacks : Callbacks) :
    Host σ :=
  ⟨client, server, [], [], [], [], listener, callbacks⟩

/-- Sets the callbacks of the items that were created. -/
def attach (outcomes : List (Except Error ItemKey)) (h : Host σ) : Host σ :=
  { h with
    client := outcomes.foldl (fun c outcome =>
      match outcome with
      | .ok k => c.withManager (·.setCallbacks k h.callbacks)
      | .error _ => c) h.client }

/-- A call has ended. -/
def record (id : CallId) (result : CallResult) (h : Host σ) : Host σ :=
  let h := match result with
    | .connected (.ok ()) => h.startListener
    | .operated (.ok (.items outcomes)) => h.attach outcomes
    | _ => h
  { h with
    names := h.names.filter (·.1 != id)
    finished := h.finished ++ [⟨(h.names.lookup id).getD "", result, h.client⟩] }

/-- Takes note of the calls that have ended. -/
def collect (h : Host σ) : Host σ :=
  h.client.finished.reverse.foldl (fun h (id, result) => h.record id result)
    { h with client := { h.client with finished := [] } }

/-- The names of the calls that have not ended, in order. -/
def pending (h : Host σ) : List String :=
  (h.names.map (·.2)).mergeSort fun a b => a ≤ b

/-! ## Tasks -/

/-- Puts the tasks that can go on at the end of the queue, unless they are in it. -/
def wake (h : Host σ) : Host σ :=
  { h with
    ready := h.ready ++ h.client.tasks.filter fun t =>
      h.client.isReady t && !h.ready.contains t && !h.deferred.contains t }

/-- Changes the client from outside. -/
def change (f : Client → Client) (h : Host σ) : Host σ := { h with client := f h.client }.wake

/-- Begins a call. -/
def begin (name : String) (job : Job) (h : Host σ) : Host σ :=
  let (id, client) := h.client.begin job
  { h with client, names := h.names ++ [(id, name)] }.wake

/-- The server sends the reply to an earlier request. -/
def deliver (id : ExchangeId) (reply : Reply) (h : Host σ) : Host σ :=
  h.change (·.deliver id reply)

/-- Lets a task run until it has to wait. A reply that comes at once does not make it wait. -/
def run [Server σ] (t : TaskId) : Nat → Host σ → Host σ
  | 0, h => h
  | fuel + 1, h =>
    let p := h.client.poll t
    let h := { h with client := p.client }.collect
    match p.posted with
    | some posted =>
      match Server.receive posted h.server with
      | (server, some reply) =>
        run t fuel { h with server, client := h.client.deliver posted.exchange reply }
      | (server, none) => { h with server }
    | none => if p.yields then { h with deferred := h.deferred ++ [t] } else h

/-- Lets tasks run, each at most as often as the fuel allows. -/
def runReady [Server σ] : Nat → Host σ → Host σ
  | 0, h => h
  | fuel + 1, h =>
    match h.ready with
    | t :: ready => runReady fuel (({ h with ready }.run t fuel).wake)
    | [] =>
      if h.deferred.isEmpty then h
      else runReady fuel { h with ready := h.deferred, deferred := [] }

/-- How often tasks run at most before the host gives up on a client that never rests. -/
def patience : Nat := 1000000

/-- Lets every task run until none can go on. -/
def settle [Server σ] (h : Host σ) : Host σ := h.wake.runReady patience

/-! ## Time -/

def clock (h : Host σ) : Nat := h.client.service.clock

/-- The tasks that are due, the one with the earliest deadline first. -/
def dueTasks (c : Client) : List TaskId :=
  let timed := c.tasks.filterMap fun t =>
    (c.due? t).bind fun due => if due ≤ c.service.clock then some (due, t) else none
  (timed.mergeSort fun a b => a.1 ≤ b.1).map (·.2)

/-- Time passes in one leap. -/
def advance (millis : Nat) (h : Host σ) : Host σ :=
  let h := { h with client := h.client.setClock (h.clock + millis) }
  { h with
    ready := h.ready ++ (dueTasks h.client).filter fun t =>
      !h.ready.contains t && !h.deferred.contains t }.wake

/-- Time passes millisecond by millisecond, and everything runs in between. -/
def elapse [Server σ] : Nat → Host σ → Host σ
  | 0, h => h
  | millis + 1, h => elapse millis (h.advance 1).settle

end Host

end OpcUa.Simulation
