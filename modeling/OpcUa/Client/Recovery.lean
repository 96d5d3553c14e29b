import OpcUa.Client.Basic

/-!
# Running a recovery

A recovery makes one service call after another: Republish for every missing message, then, if one
of them cannot be had, Read for every item that has a value. Before each call it makes sure that the
manager still runs. `Client.pollRecovery` lets it run until it has to wait.
-/

namespace OpcUa.Client

/-- A change of the client, and the request that was sent, if any. -/
abbrev Run := Client × Option Posted

def republishCall (subscription : SubscriptionId) (number : SequenceNumber) (c : Client) :
    ServiceCall .republish :=
  c.service.bounded ⟨subscription, number⟩

/-- A call that reads one value, past all caches of the server. -/
def readCall (target : ReadValueId) (c : Client) : ServiceCall .read :=
  c.service.bounded ⟨0.0, .both, [target]⟩

def itemCall (k : ItemKey) (m : SubscriptionManager) (c : Client) : ServiceCall .read :=
  c.readCall (((m.item? k).map (·.target)).getD default)

def endRecovery (id : WorkId) (r : Recovery) (c : Client) : Run :=
  (c.withManager (·.endRecovery id r), none)

/-- Reads the values of the items, one after the other. -/
def readItems (id : WorkId) (r : Recovery) : List ItemKey → Client → Run
  | [], c => c.endRecovery id r
  | k :: rest, c =>
    match c.manager with
    | none => (c, none)
    | some m =>
      if m.running then
        let (service, start) := c.service.start (c.itemCall k m)
        let c := { c with service, manager := some m.startRead }
        match start with
        | .failed _ => readItems id r rest c
        | .pending phase posted =>
          (c.withManager (·.setRecovery id (.reading k rest phase)), posted)
      else c.endRecovery id r

/-- Gives up the missing messages and reads all values instead. -/
def fallBack (id : WorkId) (r : Recovery) (c : Client) : Run :=
  match c.manager with
  | none => (c, none)
  | some m =>
    if m.running then
      readItems id r (m.readableItems r.subscription) (c.withManager (·.fallBack))
    else c.endRecovery id r

/-- Asks for the message `number`, unless it is the one that was received. -/
def republishFrom (id : WorkId) (r : Recovery) (number : SequenceNumber) (c : Client) : Run :=
  match c.manager with
  | none => (c, none)
  | some m =>
    if number = r.received ∨ m.running = false then c.endRecovery id r
    else
      let (service, start) := c.service.start (c.republishCall r.subscription number)
      let c := { c with service }
      match start with
      | .failed _ => c.fallBack id r
      | .pending phase posted =>
        (c.withManager (·.setRecovery id (.republishing number (some phase))), posted)

/-- A message has come; it counts only if it is the one that was asked for. -/
def afterRepublish (id : WorkId) (r : Recovery) (number : SequenceNumber)
    (outcome : Except Error NotificationMessage) (c : Client) : Run :=
  match outcome with
  | .error _ => c.fallBack id r
  | .ok message =>
    if message.sequenceNumber = number then
      (c.withManager (·.republished r.subscription message)).republishFrom id r
        (SequenceNumber.next number)
    else c.fallBack id r

/-- Lets a recovery run until it has to wait. -/
def pollRecovery (id : WorkId) (c : Client) : Run :=
  match c.manager with
  | none => (c, none)
  | some m =>
    match m.recovery? id with
    | none => (c, none)
    | some r =>
      match r.stage with
      | .republishing number none => c.republishFrom id r number
      | .republishing number (some phase) =>
        let (service, progress) :=
          c.service.advance (c.republishCall r.subscription number) phase
        let c := { c with service }
        match progress with
        | .pending phase posted =>
          (c.withManager (·.setRecovery id (.republishing number (some phase))), posted)
        | .done outcome => c.afterRepublish id r number outcome
      | .reading k rest phase =>
        let (service, progress) := c.service.advance (c.itemCall k m) phase
        let c := { c with service }
        match progress with
        | .pending phase posted =>
          (c.withManager (·.setRecovery id (.reading k rest phase)), posted)
        | .done outcome =>
          readItems id r rest (c.withManager (·.valueRead k outcome))

end OpcUa.Client
