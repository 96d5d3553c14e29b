import OpcUa.Text.Layout
import OpcUa.Text.Quoted

/-!
# Work queues

An ordered queue of tasks that one worker runs, one at a time. The queue can be paused, work can
be put in front of all that is pending, and a closed queue forgets its work.

The locked sections (`push`, `setPaused`, `markClosed`, `take`) and the notification of the worker
(`notify`, `rest`) are operations of their own, since other tasks may run between them; `submit`,
`submitFirst`, `resume` and `close` are their combinations.

* `tasks_push_last`, `tasks_push_first`: where a task goes.
* `take_eq_run_iff`: a task runs only from the head of an open queue that is not paused.
-/

namespace OpcUa

/-- What the worker of a queue does. -/
inductive Worker where
  /-- Running or about to run. -/
  | awake
  /-- Asleep until it is notified. -/
  | asleep
  | stopped
  deriving DecidableEq

structure WorkQueue (α : Type) where
  tasks : List α
  paused : Bool
  closed : Bool
  /-- A notification that came while the worker was awake. -/
  permit : Bool
  worker : Worker
  /-- Tasks run since the worker last slept. -/
  burst : Nat

namespace WorkQueue

variable {α : Type}

/-- An empty queue, with its worker about to look at it. -/
def fresh : WorkQueue α := ⟨[], false, false, false, .awake, 0⟩

instance : Inhabited (WorkQueue α) := ⟨fresh⟩

/-- Tasks that a worker runs before it lets others run. -/
def tasksPerYield : Nat := 16

/-- Which end of the queue a task is put at. -/
inductive Place where
  | first
  | last
  deriving DecidableEq

/-! ## Locked sections -/

/-- Adds a task. A closed queue takes none. -/
def push (place : Place) (a : α) (q : WorkQueue α) : WorkQueue α :=
  if q.closed then q
  else
    match place with
    | .first => { q with tasks := a :: q.tasks }
    | .last => { q with tasks := q.tasks ++ [a] }

def setPaused (paused : Bool) (q : WorkQueue α) : WorkQueue α := { q with paused }

/-- Closes the queue and drops what is pending. -/
def markClosed (q : WorkQueue α) : WorkQueue α := { q with closed := true, tasks := [] }

/-- What the worker finds when it looks for the next task. -/
inductive Take (α : Type) where
  | run (task : α)
  | idle
  | closed

def take (q : WorkQueue α) : Take α × WorkQueue α :=
  if q.closed then (.closed, q)
  else if q.paused then (.idle, q)
  else
    match q.tasks with
    | [] => (.idle, q)
    | a :: rest => (.run a, { q with tasks := rest })

/-! ## Notifications -/

/-- Wakes the worker, or leaves a permit that keeps it from falling asleep. -/
def notify (q : WorkQueue α) : WorkQueue α :=
  match q.worker with
  | .asleep => { q with worker := .awake }
  | .awake | .stopped => { q with permit := true }

/-- The worker has nothing to do: it uses up a permit, or falls asleep. -/
def rest (q : WorkQueue α) : WorkQueue α :=
  if q.permit then { q with permit := false, burst := 0 }
  else { q with worker := .asleep, burst := 0 }

def stop (q : WorkQueue α) : WorkQueue α := { q with worker := .stopped }

/-! ## Operations -/

def submitAt (place : Place) (a : α) (q : WorkQueue α) : WorkQueue α :=
  if q.closed then q else (q.push place a).notify

/-- Adds a task at the end. -/
def submit (a : α) (q : WorkQueue α) : WorkQueue α := q.submitAt .last a

/-- Adds a task that runs next. -/
def submitFirst (a : α) (q : WorkQueue α) : WorkQueue α := q.submitAt .first a

def pause (q : WorkQueue α) : WorkQueue α := q.setPaused true

def resume (q : WorkQueue α) : WorkQueue α := (q.setPaused false).notify

def close (q : WorkQueue α) : WorkQueue α := q.markClosed.notify

def isEmpty (q : WorkQueue α) : Bool := q.tasks.isEmpty

def length (q : WorkQueue α) : Nat := q.tasks.length

/-! ## The worker -/

/-- One step of the worker: the task that it runs, if there is one. The worker lets others run
after every sixteenth task in a row. -/
inductive Turn (α : Type) where
  | run (task : α) (yields : Bool)
  /-- It looks again. -/
  | again
  | sleeps
  | stops

def turn (q : WorkQueue α) : Turn α × WorkQueue α :=
  match q.take with
  | (.run a, q) =>
    let burst := q.burst + 1
    (.run a (burst % tasksPerYield == 0), { q with burst })
  | (.idle, q) => (if q.permit then .again else .sleeps, q.rest)
  | (.closed, q) => (.stops, q.stop)

/-! ## Text -/

def diagnostic (name : String) (q : WorkQueue α) : String :=
  Text.record "ExecutionQueue" [("name", Text.quoted name), ("pending", toString q.length),
    ("paused", Text.boolean q.paused), ("closed", Text.boolean q.closed)]

/-- The text of a guard that keeps a queue paused. -/
def guardDiagnostic (name : String) : String :=
  Text.record "PauseGuard" [("queue", Text.quoted name)]

/-! ## Views -/

theorem tasks_push_last {q : WorkQueue α} (h : q.closed = false) (a : α) :
    (q.push .last a).tasks = q.tasks ++ [a] := by simp [push, h]

theorem tasks_push_first {q : WorkQueue α} (h : q.closed = false) (a : α) :
    (q.push .first a).tasks = a :: q.tasks := by simp [push, h]

@[simp] theorem tasks_notify (q : WorkQueue α) : q.notify.tasks = q.tasks := by
  unfold notify; split <;> rfl

@[simp] theorem paused_notify (q : WorkQueue α) : q.notify.paused = q.paused := by
  unfold notify; split <;> rfl

@[simp] theorem closed_notify (q : WorkQueue α) : q.notify.closed = q.closed := by
  unfold notify; split <;> rfl

theorem take_eq_run_iff {q q' : WorkQueue α} {a : α} :
    q.take = (.run a, q') ↔
      q.closed = false ∧ q.paused = false ∧ ∃ rest, q.tasks = a :: rest ∧
        q' = { q with tasks := rest } := by
  unfold take
  split
  · simp_all
  · rename_i hc
    split
    · simp_all
    · rename_i hp
      split
      · simp_all
      · rename_i b rest hb
        constructor
        · intro h
          simp only [Prod.mk.injEq, Take.run.injEq] at h
          obtain ⟨rfl, rfl⟩ := h
          exact ⟨by simpa using hc, by simpa using hp, rest, hb, rfl⟩
        · rintro ⟨-, -, rest', h, rfl⟩
          rw [hb] at h
          obtain ⟨rfl, rfl⟩ := List.cons.inj h
          rfl

end WorkQueue

end OpcUa
