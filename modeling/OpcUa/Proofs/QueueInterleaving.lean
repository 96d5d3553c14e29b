import Mathlib.Data.List.Induction
import Mathlib.Data.List.Perm.Basic
import Mathlib.Data.List.Perm.Subperm
import OpcUa.Proofs.QueueStep

/-!
# A queue under every interleaving

The tasks that use a queue and its worker take turns in any order. A move (`Move`) is one locked
section, one notification or one step of the worker: between the locked section of an operation
and its notification, and between any two steps of the worker, others may go on.

* `Shared`, `Shared.step`: the queue, where its worker is, and the notifications that are due.
* `Shared.after_turn`: a turn of the worker is such moves, one after the other, and so is every
  operation.
* `Ledger`, `ledger`: what has been taken in, in which order it is to run, and what has been taken
  out, for a list of moves.
* `Kept`, `kept_ledger`: what holds after every list of moves.
* `Ledger.Kept.drains`: a queue that may run runs all that is pending.
* `serves_every_interleaving`: what a queue promises.
-/

namespace OpcUa.WorkQueue

variable {α : Type}

/-- Where the worker of a queue is in its loop. -/
inductive Stance (α : Type) where
  /-- About to look for the next task. -/
  | looking
  | running (task : α)
  /-- It lets others run. -/
  | yielding
  /-- It has found nothing, and is about to wait. -/
  | resting

structure Shared (α : Type) where
  queue : WorkQueue α
  stance : Stance α
  /-- Notifications that are still to be issued: the locked sections before them are over. -/
  owed : Nat
  /-- Lines in the log, one for each task that has failed. -/
  errors : Nat

inductive Move (α : Type) where
  | submit (place : Place) (a : α)
  | pause
  /-- The queue may run, as after the drop of a guard that kept it paused. -/
  | resume
  | close
  /-- A notification that is due is issued. -/
  | notify
  /-- The worker makes a step. `fails`: the task that it runs panics. -/
  | work (fails : Bool)

/-- The same move, with a task that does not fail. -/
def Move.calm : Move α → Move α
  | .work _ => .work false
  | m => m

namespace Shared

/-- A new queue. -/
def start : Shared α := ⟨fresh, .looking, 0, 0⟩

/-- A task is put into an open queue. -/
def submit (place : Place) (a : α) (s : Shared α) : Shared α :=
  if s.queue.closed then s
  else { s with queue := s.queue.push place a, owed := s.owed + 1 }

def issue (s : Shared α) : Shared α :=
  match s.owed with
  | 0 => s
  | owed + 1 => { s with queue := s.queue.notify, owed }

/-- The worker looks for the next task. -/
def look (s : Shared α) : Shared α :=
  match s.queue.take with
  | (.run a, queue) => { s with queue, stance := .running a }
  | (.idle, queue) => { s with queue, stance := .resting }
  | (.closed, queue) => { s with queue := queue.stop }

/-- A task ends. The worker lets others run after every sixteenth task in a row. -/
def finish (fails : Bool) (s : Shared α) : Shared α where
  queue := { s.queue with burst := s.queue.burst + 1 }
  stance := if (s.queue.burst + 1) % tasksPerYield == 0 then .yielding else .looking
  owed := s.owed
  errors := if fails then s.errors + 1 else s.errors

def work (fails : Bool) (s : Shared α) : Shared α :=
  match s.queue.worker with
  | .asleep | .stopped => s
  | .awake =>
    match s.stance with
    | .looking => s.look
    | .running _ => s.finish fails
    | .yielding => { s with stance := .looking }
    | .resting => { s with queue := s.queue.rest, stance := .looking }

def step : Move α → Shared α → Shared α
  | .submit place a, s => s.submit place a
  | .pause, s => { s with queue := s.queue.setPaused true }
  | .resume, s => { s with queue := s.queue.setPaused false, owed := s.owed + 1 }
  | .close, s => { s with queue := s.queue.markClosed, owed := s.owed + 1 }
  | .notify, s => s.issue
  | .work fails, s => s.work fails

def after (s : Shared α) (moves : List (Move α)) : Shared α :=
  moves.foldl (fun s m => s.step m) s

/-- The submission that an open queue takes in with a move. -/
def accepts? (m : Move α) (s : Shared α) : Option (Place × α) :=
  match m with
  | .submit place a => if s.queue.closed then none else some (place, a)
  | _ => none

/-- The task that the worker takes out with a move. -/
def takes? (m : Move α) (s : Shared α) : Option α :=
  match s.stance, (s.step m).stance with
  | .looking, .running a => some a
  | _, _ => none

end Shared

/-- What has become of the submissions to a queue. -/
structure Ledger (α : Type) where
  shared : Shared α
  /-- In the order in which they were made. -/
  accepted : List (Place × α)
  /-- In the order in which they are to run. -/
  line : List (Place × α)
  taken : List α

namespace Ledger

/-- A task at the end of the queue runs after all others, one at its head before all that the
worker has not taken yet. -/
def insert (l : Ledger α) : Place × α → List (Place × α)
  | (.last, a) => l.line ++ [(.last, a)]
  | (.first, a) => l.line.take l.taken.length ++ (.first, a) :: l.line.drop l.taken.length

def add (l : Ledger α) (m : Move α) : Ledger α where
  shared := l.shared.step m
  accepted := l.accepted ++ (l.shared.accepts? m).toList
  line := (l.shared.accepts? m).elim l.line l.insert
  taken := l.taken ++ (l.shared.takes? m).toList

end Ledger

/-- The ledger of a new queue after some moves. -/
def ledger (moves : List (Move α)) : Ledger α := moves.foldl Ledger.add ⟨.start, [], [], []⟩

theorem ledger_append (as bs : List (Move α)) :
    ledger (as ++ bs) = bs.foldl Ledger.add (ledger as) := List.foldl_append

theorem ledger_snoc (as : List (Move α)) (m : Move α) : ledger (as ++ [m]) = (ledger as).add m :=
  ledger_append as [m]

/-! ## What a move does -/

namespace Shared

/-- What a move does to the pending tasks: it takes one in, it takes one out, it leaves them alone,
or it drops them all. -/
inductive Effect (s s' : Shared α) : Option (Place × α) → Option α → Prop where
  | takesIn (place : Place) (a : α) (isOpen : s.queue.closed = false)
      (queue : s'.queue = s.queue.push place a) : Effect s s' (some (place, a)) none
  | takesOut (a : α) (isOpen : s.queue.closed = false) (runs : s.queue.paused = false)
      (stillOpen : s'.queue.closed = false) (tasks : s.queue.tasks = a :: s'.queue.tasks) :
      Effect s s' none (some a)
  | keeps (closed : s'.queue.closed = s.queue.closed) (tasks : s'.queue.tasks = s.queue.tasks) :
      Effect s s' none none
  | clears (closed : s'.queue.closed = true) (tasks : s'.queue.tasks = []) : Effect s s' none none

/-- What a step of the worker does. -/
inductive Works (fails : Bool) (s : Shared α) : Shared α → Prop where
  | waits (h : s.queue.worker ≠ .awake) : Works fails s s
  | takes (a : α) (rest : List α) (awake : s.queue.worker = .awake) (looks : s.stance = .looking)
      (isOpen : s.queue.closed = false) (runs : s.queue.paused = false)
      (tasks : s.queue.tasks = a :: rest) :
      Works fails s { s with queue := { s.queue with tasks := rest }, stance := .running a }
  | finds (awake : s.queue.worker = .awake) (looks : s.stance = .looking)
      (isOpen : s.queue.closed = false) (nothing : s.queue.paused = true ∨ s.queue.tasks = []) :
      Works fails s { s with stance := .resting }
  | stops (awake : s.queue.worker = .awake) (looks : s.stance = .looking)
      (closed : s.queue.closed = true) : Works fails s { s with queue := s.queue.stop }
  | ends (a : α) (awake : s.queue.worker = .awake) (runs : s.stance = .running a) :
      Works fails s (s.finish fails)
  | returns (awake : s.queue.worker = .awake) (yields : s.stance = .yielding) :
      Works fails s { s with stance := .looking }
  | rests (awake : s.queue.worker = .awake) (idle : s.stance = .resting) :
      Works fails s { s with queue := s.queue.rest, stance := .looking }

theorem works (fails : Bool) (s : Shared α) : Works fails s (s.work fails) := by
  unfold work
  split
  · rename_i hw
    exact .waits fun h => by rw [h] at hw; cases hw
  · rename_i hw
    exact .waits fun h => by rw [h] at hw; cases hw
  · rename_i hw
    split
    · rename_i hs
      unfold look
      obtain ⟨a, rest, hc, hp, ht, e⟩ | ⟨hc, hn, e⟩ | ⟨hc, e⟩ := s.queue.take_cases
      · exact e ▸ .takes a rest hw hs hc hp ht
      · exact e ▸ .finds hw hs hc hn
      · exact e ▸ .stops hw hs hc
    · rename_i a hs
      exact .ends a hw hs
    · rename_i hs
      exact .returns hw hs
    · rename_i hs
      exact .rests hw hs

@[simp] theorem stance_submit (place : Place) (a : α) (s : Shared α) :
    (s.submit place a).stance = s.stance := by
  unfold submit
  split <;> rfl

@[simp] theorem stance_issue (s : Shared α) : s.issue.stance = s.stance := by
  unfold issue
  split <;> rfl

theorem takes?_eq_none {m : Move α} {s : Shared α}
    (h : ∀ a, s.stance = .looking → (s.step m).stance ≠ .running a) : s.takes? m = none := by
  unfold takes?
  split
  · rename_i a hs hr
    exact absurd hr (h a hs)
  · rfl

theorem step_effect (m : Move α) (s : Shared α) :
    Effect s (s.step m) (s.accepts? m) (s.takes? m) := by
  have same (hm : (s.step m).stance = s.stance) : s.takes? m = none :=
    takes?_eq_none fun a hs hr => by rw [hm, hs] at hr; cases hr
  cases m with
  | submit place a =>
    rw [same (stance_submit place a s)]
    change Effect s (s.submit place a) (if s.queue.closed then none else some (place, a)) none
    unfold submit
    cases hc : s.queue.closed with
    | true => exact .keeps rfl rfl
    | false => exact .takesIn place a hc rfl
  | pause => exact same rfl ▸ .keeps rfl rfl
  | resume => exact same rfl ▸ .keeps rfl rfl
  | close => exact same rfl ▸ .clears rfl rfl
  | notify =>
    rw [same (stance_issue s)]
    change Effect s s.issue none none
    unfold issue
    split
    · exact .keeps rfl rfl
    · exact .keeps (closed_notify _) (tasks_notify _)
  | work fails =>
    obtain ⟨s', hs', hw⟩ : ∃ s', s.step (.work fails) = s' ∧ Works fails s s' :=
      ⟨_, rfl, works fails s⟩
    rw [hs']
    cases hw with
    | waits h => exact same (congrArg stance hs') ▸ .keeps rfl rfl
    | takes a rest awake looks isOpen runs tasks =>
      have ht : s.takes? (.work fails) = some a := by rw [takes?, looks, hs']
      exact ht ▸ .takesOut a isOpen runs isOpen tasks
    | finds awake looks isOpen nothing =>
      rw [takes?_eq_none fun a hs hr => by rw [hs'] at hr; cases hr]
      exact .keeps rfl rfl
    | stops awake looks closed =>
      rw [same ((congrArg stance hs').trans rfl)]
      exact .keeps rfl rfl
    | ends a awake runs =>
      rw [takes?_eq_none fun a hs hr => by rw [runs] at hs; cases hs]
      exact .keeps rfl rfl
    | returns awake yields =>
      rw [takes?_eq_none fun a hs hr => by rw [yields] at hs; cases hs]
      exact .keeps rfl rfl
    | rests awake idle =>
      rw [takes?_eq_none fun a hs hr => by rw [idle] at hs; cases hs]
      exact .keeps (rest_same _).2.1 (rest_same _).1

/-- The worker takes a task only from the head of an open queue that is not paused. -/
theorem guarded {m : Move α} {s : Shared α} {a : α} (h : s.takes? m = some a) :
    s.queue.closed = false ∧ s.queue.paused = false ∧ s.queue.tasks.head? = some a := by
  have he := step_effect m s
  rw [h] at he
  generalize s.step m = s', s.accepts? m = x at he
  cases he with
  | takesOut a isOpen runs stillOpen tasks => exact ⟨isOpen, runs, by rw [tasks, List.head?_cons]⟩

/-! ## No task is left behind -/

/-- The worker of a queue does not sleep, nor is it about to, while there is something to do that
it has not been or is not to be told of. -/
structure Attended (s : Shared α) : Prop where
  sound : s.queue.Sound
  cleared : s.queue.closed = true → s.queue.tasks = []
  asleep : s.queue.worker = .asleep → s.stance = .looking ∧ s.queue.permit = false
  told : s.queue.worker = .asleep ∨ s.stance = .resting →
    s.queue.closed = true ∨ s.queue.paused = true ∨ s.queue.tasks = [] ∨
      s.queue.permit = true ∨ 0 < s.owed

theorem attended_start : (start : Shared α).Attended where
  sound := nofun
  cleared := fun _ => rfl
  asleep := nofun
  told := fun _ => .inr (.inr (.inl rfl))

/-- The case of a worker that is awake. -/
theorem attended_of_awake {s : Shared α} (hw : s.queue.worker = .awake)
    (hc : s.queue.closed = true → s.queue.tasks = [])
    (ht : s.stance = .resting → s.queue.closed = true ∨ s.queue.paused = true ∨
      s.queue.tasks = [] ∨ s.queue.permit = true ∨ 0 < s.owed) : s.Attended where
  sound := fun h => absurd (hw.symm.trans h) nofun
  cleared := hc
  asleep := fun h => absurd (hw.symm.trans h) nofun
  told := fun h => h.elim (fun h => absurd (hw.symm.trans h) nofun) ht

theorem Attended.submit {s : Shared α} (h : s.Attended) (place : Place) (a : α) :
    (s.submit place a).Attended := by
  obtain ⟨hc, hw, hp⟩ := push_same place a s.queue
  unfold Shared.submit
  split
  · exact h
  · rename_i isOpen
    refine ⟨fun hs => ?_, fun hs => absurd (hc ▸ hs) isOpen, fun hs => ?_, fun _ => ?_⟩
    · exact absurd (h.sound (hw ▸ hs)) isOpen
    · exact ⟨(h.asleep (hw ▸ hs)).1, hp ▸ (h.asleep (hw ▸ hs)).2⟩
    · exact .inr (.inr (.inr (.inr (Nat.succ_pos _))))

theorem Attended.issue {s : Shared α} (h : s.Attended) : s.issue.Attended := by
  unfold Shared.issue
  split
  · exact h
  · rename_i n hn
    obtain ⟨hw, e⟩ | ⟨hw, e⟩ := s.queue.notify_cases
    · rw [e]
      refine ⟨nofun, h.cleared, nofun, fun hs => ?_⟩
      -- The worker was asleep, so it looks as soon as it is awake.
      obtain hs | hs := hs
      · cases hs
      · rw [(h.asleep hw).1] at hs
        cases hs
    · rw [e]
      exact ⟨h.sound, h.cleared, fun hs => absurd hs hw, fun _ => .inr (.inr (.inr (.inl rfl)))⟩

theorem Attended.work {s : Shared α} (h : s.Attended) (fails : Bool) :
    (s.work fails).Attended := by
  have hw := works fails s
  generalize s.work fails = s' at hw
  cases hw with
  | waits hw => exact h
  | takes a rest awake looks isOpen runs tasks =>
    exact attended_of_awake awake (fun hc => absurd (isOpen.symm.trans hc) nofun) nofun
  | finds awake looks isOpen nothing =>
    exact attended_of_awake awake h.cleared fun _ =>
      nothing.elim (fun hp => .inr (.inl hp)) fun ht => .inr (.inr (.inl ht))
  | stops awake looks closed => exact ⟨fun _ => closed, h.cleared, nofun, fun _ => .inl closed⟩
  | ends a awake runs =>
    refine attended_of_awake awake h.cleared fun hs => ?_
    unfold finish at hs
    dsimp only at hs
    split at hs <;> cases hs
  | returns awake yields => exact attended_of_awake awake h.cleared nofun
  | rests awake idle =>
    obtain ⟨hp, e⟩ | ⟨hp, e⟩ := s.queue.rest_cases
    · rw [e]
      exact attended_of_awake awake h.cleared nofun
    · rw [e]
      exact ⟨nofun, h.cleared, fun _ => ⟨rfl, hp⟩, fun _ => h.told (.inr idle)⟩

theorem Attended.step {s : Shared α} (h : s.Attended) (m : Move α) : (s.step m).Attended := by
  cases m with
  | submit place a => exact h.submit place a
  | pause => exact ⟨h.sound, h.cleared, h.asleep, fun _ => .inr (.inl rfl)⟩
  | resume =>
    exact ⟨h.sound, h.cleared, h.asleep, fun _ => .inr (.inr (.inr (.inr (Nat.succ_pos _))))⟩
  | close => exact ⟨fun _ => rfl, fun _ => rfl, h.asleep, fun _ => .inl rfl⟩
  | notify => exact h.issue
  | work fails => exact h.work fails

/-- An open queue that may run, with tasks that are pending: its worker is about to look, or a
notification that will make it look is kept or still to be issued. -/
theorem Attended.watched {s : Shared α} (h : s.Attended) (hc : s.queue.closed = false)
    (hp : s.queue.paused = false) (ht : s.queue.tasks ≠ []) :
    s.queue.worker = .awake ∧ s.stance ≠ .resting ∨ s.queue.permit = true ∨ 0 < s.owed := by
  have told (hs : s.queue.worker = .asleep ∨ s.stance = .resting) :
      s.queue.permit = true ∨ 0 < s.owed := by
    obtain hc' | hp' | ht' | hs := h.told hs
    · exact absurd (hc.symm.trans hc') nofun
    · exact absurd (hp.symm.trans hp') nofun
    · exact absurd ht' ht
    · exact hs
  cases hw : s.queue.worker with
  | asleep => exact .inr (told (.inl hw))
  | stopped => exact absurd (hc.symm.trans (h.sound hw)) nofun
  | awake =>
    by_cases hs : s.stance = .resting
    · exact .inr (told (.inr hs))
    · exact .inl ⟨rfl, hs⟩

/-- Steps of the worker before it looks again. -/
def lag (s : Shared α) : Nat :=
  match s.stance with
  | .looking => 0
  | .yielding | .resting => 1
  | .running _ => 2

theorem lag_le (s : Shared α) : s.lag ≤ 2 := by
  unfold lag
  split <;> decide

theorem flags_work (fails : Bool) (s : Shared α) :
    (s.work fails).queue.closed = s.queue.closed ∧ (s.work fails).queue.paused = s.queue.paused ∧
      (s.work fails).owed = s.owed := by
  have hw := works fails s
  generalize s.work fails = s' at hw
  cases hw with
  | rests awake idle => exact ⟨(rest_same _).2.1, (rest_same _).2.2, rfl⟩
  | _ => exact ⟨rfl, rfl, rfl⟩

/-- A step of a worker that has had all its notifications: it takes a task, or it comes closer to
the next look. -/
theorem Attended.work_advances {s : Shared α} (h : s.Attended) (hc : s.queue.closed = false)
    (hp : s.queue.paused = false) (ho : s.owed = 0) (fails : Bool) :
    s.queue.tasks = (s.takes? (.work fails)).toList ++ (s.work fails).queue.tasks ∧
      ((s.work fails).queue.tasks = [] ∨ (s.work fails).lag +
        3 * (s.work fails).queue.tasks.length < s.lag + 3 * s.queue.tasks.length) := by
  constructor
  · have he := step_effect (.work fails) s
    have hc' : (s.step (.work fails)).queue.closed = false := (flags_work fails s).1.trans hc
    change Effect s (s.step (.work fails)) none _ at he
    change _ = _ ++ (s.step (.work fails)).queue.tasks
    generalize s.step (.work fails) = s', s.takes? (.work fails) = t at he hc'
    cases he with
    | takesOut a isOpen runs stillOpen tasks => exact tasks
    | keeps closed tasks => exact tasks.symm
    | clears closed tasks => exact absurd (hc'.symm.trans closed) nofun
  · by_cases ht : s.queue.tasks = []
    · left
      have hw := works fails s
      generalize s.work fails = s' at hw
      cases hw with
      | takes a rest awake looks isOpen runs tasks => exact absurd (ht.symm.trans tasks) nofun
      | rests awake idle => exact (rest_same _).1.trans ht
      | _ => exact ht
    · have hs := h.watched hc hp ht
      have hw := works fails s
      generalize s.work fails = s' at hw
      cases hw with
      | waits hw =>
        obtain ⟨hw', -⟩ | hs | hs := hs
        · exact absurd hw' hw
        · cases hw' : s.queue.worker with
          | awake => exact absurd hw' hw
          | asleep => exact absurd ((h.asleep hw').2.symm.trans hs) nofun
          | stopped => exact absurd (hc.symm.trans (h.sound hw')) nofun
        · exact absurd hs (ho ▸ Nat.lt_irrefl 0)
      | takes a rest awake looks isOpen runs tasks =>
        right
        rw [tasks, lag, lag, looks, List.length_cons]
        dsimp only
        omega
      | finds awake looks isOpen nothing =>
        obtain hp' | ht' := nothing
        · exact absurd (hp.symm.trans hp') nofun
        · exact absurd ht' ht
      | stops awake looks closed => exact absurd (hc.symm.trans closed) nofun
      | ends a awake runs =>
        right
        refine Nat.add_lt_add_right ?_ _
        rw [lag, lag, runs, finish]
        cases (s.queue.burst + 1) % tasksPerYield == 0 with
        | true => exact Nat.one_lt_two
        | false => exact Nat.two_pos
      | returns awake yields =>
        right
        rw [lag, lag, yields]
        dsimp only
        omega
      | rests awake idle =>
        right
        rw [lag, lag, idle, (rest_same _).1]
        dsimp only
        omega

end Shared

namespace Ledger

/-- A worker that has had all its notifications runs all that is pending, whatever fails: it
needs three steps for a task. -/
theorem taken_work (fails : List Bool) (l : Ledger α) (h : l.shared.Attended)
    (hc : l.shared.queue.closed = false) (hp : l.shared.queue.paused = false)
    (ho : l.shared.owed = 0)
    (hn : l.shared.queue.tasks = [] ∨
      l.shared.lag + 3 * l.shared.queue.tasks.length ≤ fails.length + 2) :
    ((fails.map Move.work).foldl add l).taken = l.taken ++ l.shared.queue.tasks := by
  induction fails generalizing l with
  | nil =>
    have ht : l.shared.queue.tasks = [] := by
      obtain ht | hn := hn
      · exact ht
      · refine List.eq_nil_of_length_eq_zero ?_
        rw [List.length_nil] at hn
        omega
    rw [ht, List.append_nil]
    rfl
  | cons f fails ih =>
    obtain ⟨ec, ep, eo⟩ := Shared.flags_work f l.shared
    obtain ⟨ht, hl⟩ := h.work_advances hc hp ho f
    rw [List.map_cons, List.foldl_cons, ih (l.add (.work f)) (h.work f) (ec.trans hc) (ep.trans hp)
      (eo.trans ho), ht, ← List.append_assoc]
    · rfl
    · change (l.shared.work f).queue.tasks = [] ∨
        (l.shared.work f).lag + 3 * (l.shared.work f).queue.tasks.length ≤ fails.length + 2
      obtain hn | hn := hn
      · rw [hn] at ht
        exact .inl (List.append_eq_nil_iff.1 ht.symm).2
      · rw [List.length_cons] at hn
        exact hl.imp_right fun hl => by omega

/-- The notifications that are due are issued: nothing is taken meanwhile. -/
theorem issue_owed (n : Nat) (l : Ledger α) (hn : l.shared.owed = n) :
    ∃ s, (List.replicate n Move.notify).foldl add l = { l with shared := s } ∧ s.owed = 0 ∧
      s.queue.tasks = l.shared.queue.tasks ∧ s.queue.closed = l.shared.queue.closed ∧
      s.queue.paused = l.shared.queue.paused := by
  induction n generalizing l with
  | zero => exact ⟨l.shared, rfl, hn, rfl, rfl, rfl⟩
  | succ n ih =>
    have he : l.shared.issue = { l.shared with queue := l.shared.queue.notify, owed := n } := by
      rw [Shared.issue, hn]
    have ha : l.add .notify = { l with shared := l.shared.issue } := by
      have ht : l.shared.takes? .notify = none :=
        Shared.takes?_eq_none fun a hs hr => by
          rw [Shared.step, Shared.stance_issue, hs] at hr
          cases hr
      rw [add, ht]
      simp [Shared.accepts?, Shared.step]
    obtain ⟨s, e, ho, ht, hc, hp⟩ := ih { l with shared := l.shared.issue } (by rw [he])
    refine ⟨s, ?_, ho, ?_, ?_, ?_⟩
    · rw [List.replicate_succ, List.foldl_cons, ha, e]
    · rw [ht, he]
      exact tasks_notify _
    · rw [hc, he]
      exact closed_notify _
    · rw [hp, he]
      exact paused_notify _

/-! ## The line -/

/-- What holds of the ledger of a queue. -/
structure Kept (l : Ledger α) : Prop where
  attended : l.shared.Attended
  whole : l.line.Perm l.accepted
  tails : l.line.filter (·.1 = .last) = l.accepted.filter (·.1 = .last)
  begun : l.taken <+: l.line.map Prod.snd
  order : l.shared.queue.closed = false →
    l.line.map Prod.snd = l.taken ++ l.shared.queue.tasks

theorem kept_start : (⟨.start, [], [], []⟩ : Ledger α).Kept :=
  ⟨Shared.attended_start, .nil, rfl, List.nil_prefix, fun _ => rfl⟩

/-- A submission that goes to the end of the line, or to the front of what is pending. -/
theorem map_insert {l : Ledger α} {pending : List α}
    (h : l.line.map Prod.snd = l.taken ++ pending) (place : Place) (a : α) :
    (l.insert (place, a)).map Prod.snd = l.taken ++ match place with
      | .first => a :: pending
      | .last => pending ++ [a] := by
  cases place with
  | last =>
    rw [insert, List.map_append, h, List.append_assoc]
    rfl
  | first =>
    rw [insert, List.map_append, List.map_cons, List.map_take, List.map_drop, h,
      List.take_left, List.drop_left]

theorem perm_insert (l : Ledger α) (x : Place × α) : (l.insert x).Perm (l.line ++ [x]) := by
  obtain ⟨place, a⟩ := x
  cases place with
  | last => exact .refl _
  | first =>
    refine List.perm_middle.trans ?_
    rw [List.take_append_drop]
    exact (List.perm_append_singleton _ _).symm

theorem filter_insert (l : Ledger α) (x : Place × α) :
    (l.insert x).filter (·.1 = .last) =
      l.line.filter (·.1 = .last) ++ [x].filter (·.1 = .last) := by
  obtain ⟨place, a⟩ := x
  cases place with
  | last => exact List.filter_append ..
  | first =>
    rw [insert, List.filter_append, List.filter_cons_of_neg (by simp), ← List.filter_append,
      List.take_append_drop, List.filter_cons_of_neg (by simp), List.filter_nil,
      List.append_nil]

theorem sublist_insert (l : Ledger α) (x : Place × α) : l.line.Sublist (l.insert x) := by
  obtain ⟨place, a⟩ := x
  cases place with
  | last => exact List.sublist_append_left ..
  | first =>
    conv_lhs => rw [← List.take_append_drop l.taken.length l.line]
    exact (List.Sublist.refl _).append (List.sublist_cons_self ..)

theorem tasks_push {q : WorkQueue α} (h : q.closed = false) (place : Place) (a : α) :
    (q.push place a).tasks = match place with
      | .first => a :: q.tasks
      | .last => q.tasks ++ [a] := by
  cases place with
  | first => exact tasks_push_first h a
  | last => exact tasks_push_last h a

theorem Kept.add {l : Ledger α} (h : l.Kept) (m : Move α) : (l.add m).Kept := by
  have he := Shared.step_effect m l.shared
  have ha := h.attended.step m
  unfold Ledger.add
  generalize l.shared.step m = s', l.shared.accepts? m = x, l.shared.takes? m = t at he ha ⊢
  cases he with
  | takesIn place a isOpen queue =>
    have ho := map_insert (h.order isOpen) place a
    have hq : l.taken ++ s'.queue.tasks = (l.insert (place, a)).map Prod.snd := by
      rw [ho, queue, tasks_push isOpen]
    refine ⟨ha, ?_, ?_, ?_, ?_⟩
    · exact (perm_insert l _).trans (h.whole.append_right _)
    · exact (filter_insert l _).trans (by rw [h.tails, ← List.filter_append]; rfl)
    · exact ⟨s'.queue.tasks, by simpa using hq⟩
    · exact fun _ => by simpa using hq.symm
  | takesOut a isOpen runs stillOpen tasks =>
    have ho : l.line.map Prod.snd = l.taken ++ [a] ++ s'.queue.tasks := by
      rw [h.order isOpen, tasks, List.append_assoc, List.singleton_append]
    refine ⟨ha, ?_, ?_, ⟨s'.queue.tasks, ho.symm⟩, fun _ => ho⟩
    · simpa using h.whole
    · simpa using h.tails
  | keeps closed tasks =>
    refine ⟨ha, ?_, ?_, ?_, fun hc => ?_⟩
    · simpa using h.whole
    · simpa using h.tails
    · simpa using h.begun
    · simpa [tasks] using h.order (closed.symm.trans hc)
  | clears closed tasks =>
    refine ⟨ha, ?_, ?_, ?_, fun hc => absurd (closed.symm.trans hc) nofun⟩
    · simpa using h.whole
    · simpa using h.tails
    · simpa using h.begun

theorem Kept.foldl {l : Ledger α} (h : l.Kept) (ms : List (Move α)) :
    (ms.foldl Ledger.add l).Kept := by
  induction ms generalizing l with
  | nil => exact h
  | cons m ms ih => exact ih (h.add m)

/-- An open queue that may run runs all that is pending, once the notifications that are due have
been issued. -/
theorem Kept.drains {l : Ledger α} (h : l.Kept) (hc : l.shared.queue.closed = false)
    (hp : l.shared.queue.paused = false) (fails : List Bool)
    (hn : 3 * l.shared.queue.tasks.length ≤ fails.length) :
    ((List.replicate l.shared.owed Move.notify ++ fails.map Move.work).foldl Ledger.add l).taken =
      l.taken ++ l.shared.queue.tasks := by
  have hk := h.foldl (List.replicate l.shared.owed Move.notify)
  obtain ⟨s, e, ho, et, ec, ep⟩ := issue_owed _ l rfl
  rw [e] at hk
  have hl := s.lag_le
  have hm : s.lag + 3 * s.queue.tasks.length ≤ fails.length + 2 := by
    rw [et]
    omega
  rw [List.foldl_append, e, taken_work fails { l with shared := s } hk.attended (ec.trans hc)
    (ep.trans hp) ho (.inr hm), et]

end Ledger

open Ledger

theorem kept_ledger (as : List (Move α)) : (ledger as).Kept := kept_start.foldl as

/-- The line never changes its order: submissions are only put into it. -/
theorem line_sublist (as bs : List (Move α)) :
    (ledger as).line.Sublist (ledger (as ++ bs)).line := by
  induction bs using List.reverseRecOn with
  | nil => rw [List.append_nil]
  | append_singleton bs m ih =>
    rw [← List.append_assoc, ledger_snoc]
    refine ih.trans ?_
    unfold add
    cases Shared.accepts? m (ledger (as ++ bs)).shared with
    | none => exact .refl _
    | some x => exact sublist_insert _ x

/-! ## Whole operations

An operation of a queue that nothing interrupts is its locked section with its notification, and
a turn of the worker is two or three of its steps. -/

namespace Shared

variable (q : WorkQueue α) (stance : Stance α) (owed errors : Nat)

theorem after_submitAt (place : Place) (a : α) :
    (⟨q, stance, 0, errors⟩ : Shared α).after [.submit place a, .notify] =
      ⟨q.submitAt place a, stance, 0, errors⟩ := by
  change ((⟨q, stance, 0, errors⟩ : Shared α).submit place a).issue = _
  unfold submit submitAt
  dsimp only
  split <;> rfl

theorem after_pause :
    (⟨q, stance, owed, errors⟩ : Shared α).after [.pause] = ⟨q.pause, stance, owed, errors⟩ :=
  rfl

theorem after_resume :
    (⟨q, stance, 0, errors⟩ : Shared α).after [.resume, .notify] =
      ⟨q.resume, stance, 0, errors⟩ :=
  rfl

theorem after_close :
    (⟨q, stance, 0, errors⟩ : Shared α).after [.close, .notify] = ⟨q.close, stance, 0, errors⟩ :=
  rfl

theorem after_turn {q : WorkQueue α} (h : q.worker = .awake) :
    ∃ n ≤ 3, (⟨q, .looking, owed, errors⟩ : Shared α).after (List.replicate n (.work false)) =
      ⟨q.turn.2, .looking, owed, errors⟩ := by
  have looks (m : Nat) : (⟨q, .looking, owed, errors⟩ : Shared α).after
      (List.replicate (m + 1) (.work false)) =
        (⟨q, .looking, owed, errors⟩ : Shared α).look.after (List.replicate m (.work false)) := by
    rw [List.replicate_succ, after, List.foldl_cons, step, work]
    dsimp only
    rw [h]
    rfl
  have same (hr : ∀ a, q.take.1 ≠ .run a) : q.take.2 = q := take_snd hr
  unfold turn
  rcases e : q.take with ⟨x, q'⟩
  rw [e] at same
  cases x with
  | run a =>
    obtain ⟨-, -, rest, -, rfl⟩ := take_eq_run_iff.1 e
    -- The task ends, and the worker lets others run if it was the sixteenth.
    by_cases hb : (q.burst + 1) % tasksPerYield = 0
    · refine ⟨3, by decide, ?_⟩
      rw [looks, look, e]
      simp [after, step, work, finish, h, hb]
    · refine ⟨2, by decide, ?_⟩
      rw [looks, look, e]
      simp [after, step, work, finish, h, hb]
  | idle =>
    obtain rfl : q' = q := same nofun
    refine ⟨2, by decide, ?_⟩
    rw [looks, look, e]
    simp [after, step, work, h]
  | closed =>
    refine ⟨1, by decide, ?_⟩
    rw [looks, look, e]
    rfl

end Shared

/-! ## Tasks that fail -/

namespace Shared

/-- Without the log. -/
def hush (s : Shared α) : Shared α := { s with errors := 0 }

theorem hush_look (s : Shared α) : s.look.hush = s.hush.look := by
  unfold look hush
  dsimp only
  rcases s.queue.take with ⟨x, q⟩
  cases x <;> rfl

theorem hush_work (fails : Bool) (s : Shared α) : (s.work fails).hush = s.hush.work false := by
  unfold work
  have hq : s.hush.queue = s.queue := rfl
  have hs : s.hush.stance = s.stance := rfl
  rw [hq, hs]
  cases s.queue.worker with
  | asleep => rfl
  | stopped => rfl
  | awake =>
    cases s.stance with
    | looking => exact s.hush_look
    | running a => rfl
    | yielding => rfl
    | resting => rfl

theorem hush_step (m : Move α) (s : Shared α) : (s.step m).hush = s.hush.step m.calm := by
  cases m with
  | submit place a =>
    change (s.submit place a).hush = s.hush.submit place a
    unfold submit hush
    dsimp only
    split <;> rfl
  | pause => rfl
  | resume => rfl
  | close => rfl
  | notify =>
    change s.issue.hush = s.hush.issue
    unfold issue hush
    dsimp only
    split <;> rfl
  | work fails => exact hush_work fails s

theorem takes?_calm (m : Move α) (s : Shared α) : s.hush.takes? m.calm = s.takes? m := by
  have h : (s.hush.step m.calm).stance = (s.step m).stance := by
    rw [← hush_step]
    rfl
  unfold takes?
  rw [h]
  rfl

theorem accepts?_calm (m : Move α) (s : Shared α) : s.hush.accepts? m.calm = s.accepts? m := by
  cases m <;> rfl

end Shared

namespace Ledger

/-- Without the log. -/
def hush (l : Ledger α) : Ledger α := { l with shared := l.shared.hush }

theorem hush_add (m : Move α) (l : Ledger α) : (l.add m).hush = l.hush.add m.calm := by
  unfold add hush
  dsimp only
  rw [Shared.accepts?_calm, Shared.takes?_calm, Shared.hush_step]
  rfl

end Ledger

/-- A task that fails leaves a line in the log and changes nothing else. -/
theorem hush_ledger (as : List (Move α)) : (ledger as).hush = ledger (as.map Move.calm) := by
  induction as using List.reverseRecOn with
  | nil => rfl
  | append_singleton as m ih =>
    rw [ledger_snoc, hush_add, ih, List.map_append, List.map_singleton, ledger_snoc]

/-! ## What a queue promises -/

/-- A queue over some moves, and what follows them. -/
structure Serves (as : List (Move α)) : Prop where
  /-- No accepted submission is taken twice. -/
  once : (ledger as).taken.Subperm ((ledger as).accepted.map Prod.snd)
  /-- Tasks are taken in the order of the line, and what an open queue has not taken is
  pending. -/
  begun : (ledger as).taken <+: (ledger as).line.map Prod.snd
  order : (ledger as).shared.queue.closed = false →
    (ledger as).line.map Prod.snd = (ledger as).taken ++ (ledger as).shared.queue.tasks
  /-- All that has been accepted stands in the line. -/
  whole : (ledger as).line.Perm (ledger as).accepted
  /-- Submissions to the end stand in it in the order in which they were made. -/
  tails : (ledger as).line.filter (·.1 = .last) = (ledger as).accepted.filter (·.1 = .last)
  /-- A submission to the head stands before all that is pending. -/
  head : ∀ a, (ledger as).shared.queue.closed = false →
    (ledger (as ++ [.submit .first a])).line.map Prod.snd =
      (ledger as).taken ++ a :: (ledger as).shared.queue.tasks
  /-- Later submissions do not change the order of those before. -/
  stays : ∀ bs, (ledger as).line.Sublist (ledger (as ++ bs)).line
  guarded : ∀ m a, (ledger as).shared.takes? m = some a →
    (ledger as).shared.queue.closed = false ∧ (ledger as).shared.queue.paused = false
  /-- What fails leaves a line in the log and nothing else. -/
  survives : (ledger as).hush = ledger (as.map Move.calm)
  /-- When there is something to do, the worker is running, or a notification is kept or still to
  be issued, -/
  watched : (ledger as).shared.queue.closed = false → (ledger as).shared.queue.paused = false →
    (ledger as).shared.queue.tasks ≠ [] →
      (ledger as).shared.queue.worker = .awake ∧ (ledger as).shared.stance ≠ .resting ∨
        (ledger as).shared.queue.permit = true ∨ 0 < (ledger as).shared.owed
  /-- and with the notifications and three steps of the worker for each task, all is done. -/
  drains : (ledger as).shared.queue.closed = false → (ledger as).shared.queue.paused = false →
    ∀ fails : List Bool, 3 * (ledger as).shared.queue.tasks.length ≤ fails.length →
      (ledger (as ++ (List.replicate (ledger as).shared.owed Move.notify ++
        fails.map Move.work))).taken = (ledger as).taken ++ (ledger as).shared.queue.tasks

/-- Whatever the order in which submissions, pauses, notifications and the steps of the worker
come, a queue runs what it has accepted once and in its order, and leaves nothing behind. -/
theorem serves_every_interleaving (as : List (Move α)) : Serves as where
  once := by
    have h := kept_ledger as
    exact h.begun.sublist.subperm.trans (h.whole.map _).subperm
  begun := (kept_ledger as).begun
  order := (kept_ledger as).order
  whole := (kept_ledger as).whole
  tails := (kept_ledger as).tails
  head := fun a hc => by
    have h := map_insert ((kept_ledger as).order hc) .first a
    rw [ledger_snoc, ← h]
    unfold add Shared.accepts?
    dsimp only
    rw [hc]
    rfl
  stays := line_sublist as
  guarded := fun m a h => ⟨(Shared.guarded h).1, (Shared.guarded h).2.1⟩
  survives := hush_ledger as
  watched := (kept_ledger as).attended.watched
  drains := fun hc hp fails hn => by
    rw [ledger_append]
    exact (kept_ledger as).drains hc hp fails hn

/-- Between the locked section of a submission and its notification, a worker that is about to wait
waits, and the notification wakes it. A task at the head runs before the one that was pending. -/
example : (ledger [.work false, .submit .last 1, .work false, .submit .first 2, .notify,
    .work false, .work true, .work false]).taken = [2, 1] := by decide

end OpcUa.WorkQueue
