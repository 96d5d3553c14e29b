import OpcUa.Session.Driver

/-!
# Waiting for a session

A caller that wants a session asks the driver for one and waits for the present promise. If the
promise was kept with a session that is no longer valid, the caller waits until the driver has
replaced the promise, and asks again.

* `SessionDriver.ask`, `SessionDriver.resume`: what a caller learns.
-/

namespace OpcUa

/-- How far a caller is that wants a session. -/
inductive SessionWait where
  /-- It waits for a promise to be resolved. -/
  | outcome (promise : PromiseId)
  /-- The promise gave it a session that is not valid; it waits until the promise is replaced. -/
  | retirement (promise : PromiseId)
  deriving DecidableEq

/-- What a caller learns. -/
inductive SessionNews where
  | done (outcome : SessionOutcome)
  | wait (wait : SessionWait)

namespace SessionDriver

/-- What the present promise says. -/
def look (d : SessionDriver) : SessionNews :=
  match d.present with
  | none => .wait (.outcome d.promise)
  | some (.error e) => .done (.error e)
  | some (.ok s) => if d.isValid s then .done (.ok s) else .wait (.retirement d.promise)

/-- A caller asks for a session. -/
def ask (d : SessionDriver) : SessionDriver × SessionNews :=
  if d.stopped then (d, .done (.error .clientShutdown))
  else
    let d := d.enqueue (.event none .sessionRequested)
    (d, d.look)

/-- A caller goes on with its wait. A promise that was replaced unresolved means that the client
is gone. -/
def resume (w : SessionWait) (d : SessionDriver) : SessionDriver × SessionNews :=
  match w with
  | .outcome p =>
    if d.isRetired p then
      match d.outcome? p with
      | none => (d, .done (.error .clientShutdown))
      | some (.error e) => (d, .done (.error e))
      | some (.ok s) => if d.isValid s then (d, .done (.ok s)) else d.ask
    else (d, d.look)
  | .retirement p => if d.isRetired p then d.ask else (d, .wait w)

/-- Whether a caller can go on. -/
def isOver (w : SessionWait) (d : SessionDriver) : Bool :=
  match w with
  | .outcome p => (d.outcome? p).isSome || d.isRetired p
  | .retirement p => d.isRetired p

end SessionDriver

end OpcUa
