import OpcUa.WorkQueue

/-!
# Scripted work queues

A queue whose tasks are scripts themselves: a task records its number, performs its steps and may
fail at the end. Other tasks take turns with the worker, first in, first out.

* `QueueScript.run`: the observations after each step of a script.
-/

namespace OpcUa.Simulation

inductive QueueStep where
  | submit (place : WorkQueue.Place) (id : UInt32) (steps : List QueueStep)
  | pause
  | resume
  | close
  /-- Pauses the queue until the guard of this name is dropped. -/
  | guard (name : String)
  | dropGuard (name : String)
  /-- Hands the guard to a task of its own, which fails and so drops it. -/
  | failGuard (name : String)
  | batch (steps : List QueueStep)

/-- What a step gives back. -/
inductive QueueResult where
  | none
  | text (s : String)
  | results (rs : List QueueResult)

namespace QueueScript

/-- A task that can run. -/
inductive Runnable where
  | worker
  /-- The owner of a guard, about to fail. -/
  | guardOwner
  deriving DecidableEq

/-- A task of the queue. -/
structure Job where
  id : UInt32
  steps : List QueueStep

structure State where
  queue : WorkQueue Job
  /-- The names of the guards that are held. -/
  guards : List String
  ready : List Runnable
  /-- The numbers of the tasks that ran, the last one first. -/
  ran : List UInt32

namespace State

def initial : State := ⟨.fresh, [], [.worker], []⟩

/-- Changes the queue; a worker that wakes up takes its turn after the others. -/
def changeQueue (f : WorkQueue Job → WorkQueue Job) (s : State) : State :=
  let queue := f s.queue
  let woken := s.queue.worker == .asleep && queue.worker == .awake
  { s with queue, ready := if woken then s.ready ++ [.worker] else s.ready }

def dropGuard (name : String) (s : State) : State :=
  if s.guards.contains name then
    changeQueue .resume { s with guards := s.guards.erase name }
  else s

/-- A guard of a name that is taken replaces the old one, which is dropped. -/
def takeGuard (name : String) (s : State) : State :=
  let s := (s.changeQueue .pause)
  { s.dropGuard name with guards := name :: s.guards.erase name }

def failGuard (name : String) (s : State) : State :=
  if s.guards.contains name then
    { s with guards := s.guards.erase name, ready := s.ready ++ [.guardOwner] }
  else s

mutual

def perform (s : State) : QueueStep → State × QueueResult
  | .submit place id steps => (s.changeQueue (·.submitAt place ⟨id, steps⟩), .none)
  | .pause => (s.changeQueue .pause, .none)
  | .resume => (s.changeQueue .resume, .none)
  | .close => (s.changeQueue .close, .none)
  | .guard name => (s.takeGuard name, .text (WorkQueue.guardDiagnostic "q"))
  | .dropGuard name => (s.dropGuard name, .none)
  | .failGuard name => (s.failGuard name, .none)
  | .batch steps =>
    let (s, rs) := performAll s steps
    (s, .results rs)

def performAll (s : State) : List QueueStep → State × List QueueResult
  | [] => (s, [])
  | step :: rest =>
    let (s, r) := perform s step
    let (s, rs) := performAll s rest
    (s, r :: rs)

end

/-- One turn of the worker, after which it goes on or waits for another turn. -/
def workerTurn (s : State) : State :=
  match s.queue.turn with
  | (.run job yields, queue) =>
    let s := (performAll { s with queue, ran := job.id :: s.ran } job.steps).1
    { s with ready := if yields then s.ready ++ [.worker] else .worker :: s.ready }
  | (.again, queue) => { s with queue, ready := .worker :: s.ready }
  | (.sleeps, queue) | (.stops, queue) => { s with queue }

/-- Lets every task run until none can go on. -/
def settle : Nat → State → State
  | 0, s => s
  | fuel + 1, s =>
    match s.ready with
    | [] => s
    | .worker :: ready => settle fuel (workerTurn { s with ready })
    | .guardOwner :: ready => settle fuel (changeQueue .resume { s with ready })

end State

mutual

/-- The number of steps in a script, those of its tasks included. -/
def size : QueueStep → Nat
  | .submit _ _ steps => sizeAll steps + 1
  | .batch steps => sizeAll steps + 1
  | _ => 1

def sizeAll : List QueueStep → Nat
  | [] => 0
  | step :: rest => size step + sizeAll rest

end

/-- What is seen after a step. -/
structure Observation where
  result : QueueResult
  ran : List UInt32
  length : Nat
  paused : Bool
  diagnostic : String

/-- Performs the steps, each followed by whatever it sets off. A step makes at most two tasks
ready and every task performs its steps once, so the fuel is never used up. -/
def runFrom (fuel : Nat) (s : State) : List QueueStep → List Observation
  | [] => []
  | step :: rest =>
    let (s, result) := { s with ran := [] }.perform step
    let s := s.settle fuel
    ⟨result, s.ran.reverse, s.queue.length, s.queue.paused, s.queue.diagnostic "q"⟩ ::
      runFrom fuel s rest

def run (steps : List QueueStep) : List Observation :=
  let fuel := 4 * sizeAll steps + 4
  runFrom fuel (State.initial.settle fuel) steps

end QueueScript

end OpcUa.Simulation
