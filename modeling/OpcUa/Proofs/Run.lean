import OpcUa.Client.Poll
import OpcUa.Simulation.Sample

/-!
# Runs of a client

A run is a list of actions: the application calls, a task goes on, a reply comes, time passes. The
list says in which order the tasks go on, so a statement about all lists is one about all
schedules. Each worker of a queue goes one turn in an action, and may be interrupted between two.

* `Client.act`: what an action does, and the request that it sends.
* `Client.after`: the client after a run.
* `Client.exists_after_eq_poll`: a task that runs until it has to wait is a run of the client.
* `Client.Begins`: the clients whose runs are looked at have just started their manager.
* `Client.sample`: a client, with the beginning of a run.
-/

namespace OpcUa

/-- What happens to a client that has a subscription manager. -/
inductive Action where
  /-- The application begins a call. The manager is there, so it does not connect once more. -/
  | call (job : Job) (manages : job ≠ .connect)
  /-- A task goes on. -/
  | run (t : TaskId)
  /-- What nobody uses any more ends. -/
  | reclaim
  | release
  | reply (id : ExchangeId) (reply : Reply)
  | elapse (millis : Nat)
  /-- An event is put before the session driver. -/
  | inject (event : SessionEvent)
  /-- A session is reported as lost. -/
  | invalidate (session : Session) (error : SessionError)
  /-- The application takes a number for a request of its own. -/
  | takeHandle
  | shutDown
  | listen (listener : Listener)
  | attach (item : ItemKey) (callbacks : Callbacks)

/-- Whether an action is a turn of the processing worker or one of a recovery. -/
def Action.Sequences : Action → Prop
  | .run .processing | .run (.recovery _) => True
  | _ => False

namespace Client

/-- Performs an action. -/
def act (a : Action) (c : Client) : Run :=
  match a with
  | .call job _ => ((c.begin job).2, none)
  | .run .processing => (c.withManager fun m => m.processTurn.1, none)
  | .run .delivery => (c.withManager fun m => m.deliverTurn.1, none)
  | .run t => ((c.pollTask t).client, (c.pollTask t).posted)
  | .reclaim => (c.reclaim, none)
  | .release => (c.release, none)
  | .reply id reply => (c.deliver id reply, none)
  | .elapse millis => (c.setClock (c.service.clock + millis), none)
  | .inject e => (c.withService fun s => { s with driver := s.driver.enqueue (.event none e) }, none)
  | .invalidate x e => (c.withService fun s => { s with driver := s.driver.invalidate x e }, none)
  | .takeHandle => (c.withService fun s => { s with handles := s.handles.take.2 }, none)
  | .shutDown => (c.withManager (·.shutDown), none)
  | .listen l => (c.withManager (·.addListener l), none)
  | .attach k callbacks => (c.withManager (·.setCallbacks k callbacks), none)

/-- The client after a run. -/
def after (as : List Action) (c : Client) : Client := as.foldl (fun c a => (c.act a).1) c

@[simp] theorem after_nil (c : Client) : c.after [] = c := rfl

@[simp] theorem after_cons (a : Action) (as : List Action) (c : Client) :
    c.after (a :: as) = (c.act a).1.after as := rfl

theorem after_append (as bs : List Action) (c : Client) :
    c.after (as ++ bs) = (c.after as).after bs := List.foldl_append

theorem after_snoc (as : List Action) (a : Action) (c : Client) :
    c.after (as ++ [a]) = ((c.after as).act a).1 := after_append as [a] c

/-- The manager of a client that has one. -/
def managed (c : Client) : SubscriptionManager := c.manager.getD (.fresh c.service.config)

theorem managed_of_eq {c : Client} {m : SubscriptionManager} (h : c.manager = some m) :
    c.managed = m := by
  rw [managed, h, Option.getD_some]

/-- No call is about to start the manager. -/
def Settled (c : Client) : Prop := ∀ p ∈ c.calls, p.2.job ≠ .connect

/-- The manager has just been started, and no call is about to start it again. -/
structure Begins (c : Client) : Prop where
  manager : c.manager = some (.fresh c.service.config)
  settled : c.Settled

/-- Whether a subscription is registered. -/
def Registers (s : SubscriptionId) (c : Client) : Prop := c.managed.registry.contains s = true

/-- A property that a client has before, between and after the actions of a run. -/
def Throughout (P : Client → Prop) (as : List Action) (c : Client) : Prop :=
  ∀ p, p <+: as → P (c.after p)

/-- The server does not use the id of a deleted subscription again. -/
def NeverReissues (as : List Action) (c : Client) : Prop :=
  ∀ s p q r, p <+: q → q <+: r → r <+: as →
    (c.after p).Registers s → ¬ (c.after q).Registers s → ¬ (c.after r).Registers s

theorem Throughout.mono {P : Client → Prop} {as bs : List Action} {c : Client}
    (h : c.Throughout P bs) (hp : as <+: bs) : c.Throughout P as :=
  fun p hq => h p (hq.trans hp)

theorem Throughout.last {P : Client → Prop} {as : List Action} {c : Client}
    (h : c.Throughout P as) : P (c.after as) :=
  h as (List.prefix_refl as)

theorem NeverReissues.mono {as bs : List Action} {c : Client} (h : c.NeverReissues bs)
    (hp : as <+: bs) : c.NeverReissues as :=
  fun s p q r hpq hqr hr => h s p q r hpq hqr (hr.trans hp)

/-! ## Checking a run -/

instance (s : SubscriptionId) (c : Client) : Decidable (c.Registers s) :=
  inferInstanceAs (Decidable (_ = true))

theorem throughout_nil {P : Client → Prop} {c : Client} : c.Throughout P [] ↔ P c :=
  ⟨fun h => h.last, fun h p hp => by rwa [List.prefix_nil.1 hp]⟩

theorem throughout_cons {P : Client → Prop} {a : Action} {as : List Action} {c : Client} :
    c.Throughout P (a :: as) ↔ P c ∧ (c.act a).1.Throughout P as := by
  constructor
  · intro h
    refine ⟨h [] (List.nil_prefix), fun p hp => ?_⟩
    exact h (a :: p) (List.cons_prefix_cons.2 ⟨rfl, hp⟩)
  · rintro ⟨h1, h2⟩ p hp
    cases p with
    | nil => exact h1
    | cons b p =>
      obtain ⟨rfl, hp'⟩ := List.cons_prefix_cons.1 hp
      exact h2 p hp'

instance decidableThroughout (P : Client → Prop) [∀ c, Decidable (P c)] :
    (as : List Action) → (c : Client) → Decidable (c.Throughout P as)
  | [], _ => decidable_of_iff' _ throughout_nil
  | a :: as, c =>
    have := decidableThroughout P as (c.act a).1
    decidable_of_iff' _ throughout_cons

/-- No subscription is deleted. -/
def KeepsAll : List Action → Client → Prop
  | [], _ => True
  | a :: as, c => (∀ s ∈ c.managed.registry.keys, (c.act a).1.Registers s) ∧ KeepsAll as (c.act a).1

instance decidableKeepsAll : (as : List Action) → (c : Client) → Decidable (KeepsAll as c)
  | [], _ => .isTrue trivial
  | a :: as, c =>
    have := decidableKeepsAll as (c.act a).1
    have := List.decidableBAll (fun s => (c.act a).1.Registers s) c.managed.registry.keys
    instDecidableAnd

theorem KeepsAll.registers {as : List Action} {c : Client} {s : SubscriptionId}
    (h : KeepsAll as c) (hs : c.Registers s) : (c.after as).Registers s := by
  induction as generalizing c with
  | nil => exact hs
  | cons a as ih => exact ih h.2 (h.1 s ((Table.isSome_find?_iff _ s).1 hs))

theorem keepsAll_append {as bs : List Action} {c : Client} :
    KeepsAll (as ++ bs) c ↔ KeepsAll as c ∧ KeepsAll bs (c.after as) := by
  induction as generalizing c with
  | nil => exact ⟨fun h => ⟨trivial, h⟩, fun h => h.2⟩
  | cons a as ih => rw [List.cons_append, KeepsAll, KeepsAll, ih, and_assoc, after_cons]

/-- Where nothing is deleted, no id is used again. -/
theorem KeepsAll.neverReissues {as : List Action} {c : Client} (h : KeepsAll as c) :
    c.NeverReissues as := by
  rintro s p q r ⟨bs, rfl⟩ ⟨bs', rfl⟩ ⟨bs'', rfl⟩ hp hq
  have hkeep := (keepsAll_append.1 (keepsAll_append.1 (keepsAll_append.1 h).1).1).2
  rw [after_append] at hq
  exact absurd (hkeep.registers hp) hq

/-! ## Running a task until it has to wait -/

/-- The turns of one run of a worker are actions of their own. -/
theorem exists_after_eq_takeTurns {t : TaskId}
    {turn : SubscriptionManager → SubscriptionManager × Option Bool}
    (ht : ∀ c : Client, (c.act (.run t)).1 = c.withManager fun m => (turn m).1) (n : Nat)
    {c : Client} {m : SubscriptionManager} (hm : c.manager = some m) :
    ∃ as, c.after as = { c with manager := some (SubscriptionManager.takeTurns turn n m).1 } := by
  induction n generalizing c m with
  | zero =>
    refine ⟨[], ?_⟩
    cases c
    cases hm
    rfl
  | succ n ih =>
    have h1 : (c.act (.run t)).1 = { c with manager := some (turn m).1 } := by
      rw [ht, withManager, hm, Option.map_some]
    unfold SubscriptionManager.takeTurns
    split
    · rename_i m' e
      exact ⟨[.run t], by rw [after_cons, h1, e, after_nil]⟩
    · rename_i m' e
      obtain ⟨as, has⟩ := ih (c := { c with manager := some m' }) rfl
      exact ⟨.run t :: as, by rw [after_cons, h1, e, has]⟩
    · rename_i m' e
      exact ⟨[.run t], by rw [after_cons, h1, e, after_nil]⟩

theorem exists_after_eq_pollWorker {t : TaskId}
    {turn : SubscriptionManager → SubscriptionManager × Option Bool} {n : Nat}
    (ht : ∀ c : Client, (c.act (.run t)).1 = c.withManager fun m => (turn m).1) (c : Client) :
    ∃ as, c.after as = (c.pollWorker fun m => m.takeTurns turn n).client := by
  unfold pollWorker
  split
  · exact ⟨[], rfl⟩
  · rename_i m hm
    exact exists_after_eq_takeTurns ht n hm

/-- A task that runs until it has to wait is a run of the client. -/
theorem exists_after_eq_poll (t : TaskId) (c : Client) :
    ∃ as, c.after as = (c.poll t).client := by
  have h : ∃ as, c.after as = (c.pollTask t).client := by
    cases t with
    | processing => exact exists_after_eq_pollWorker (t := .processing) (fun _ => rfl) c
    | delivery => exact exists_after_eq_pollWorker (t := .delivery) (fun _ => rfl) c
    | driver => exact ⟨[.run .driver], rfl⟩
    | session id => exact ⟨[.run (.session id)], rfl⟩
    | call id => exact ⟨[.run (.call id)], rfl⟩
    | attempt id answerFirst => exact ⟨[.run (.attempt id answerFirst)], rfl⟩
    | recovery id => exact ⟨[.run (.recovery id)], rfl⟩
  obtain ⟨as, has⟩ := h
  exact ⟨as ++ [.reclaim], by rw [after_snoc, has]; rfl⟩

/-! ## A sample -/

section

open Simulation

/-- A client with a session that has just started its manager, and keeps one Publish request
outstanding for each subscription. -/
def sample : Client :=
  let session : Session := ⟨0, .null, .null, .ofSecs 120, 0, [], []⟩
  let c := fresh (Sample.configOfDepth 1) ⟨Sample.endpoint .none, .none, none⟩
  (c.withService fun s => { s with
    driver := { s.driver with state := .active session, present := some (.ok session) } }).startManager

theorem sample_begins : sample.Begins := ⟨rfl, fun _ h => absurd h List.not_mem_nil⟩

/-- The good reply of a service. -/
def goodReply (s : Service) (answer : s.Answer) : Reply := .ok ⟨s, ⟨default, 0, .good⟩, answer⟩

/-- The call `id` performs an operation, in the exchange `x`. -/
def operating (id : CallId) (x : ExchangeId) (op : Operation) (reply : Reply) : List Action :=
  [.call (.operate op) nofun, .run (.call id), .reply x reply, .run (.call id)]

/-- The attempt `id` brings a response, in the exchange `x`. -/
def publishing (id : WorkId) (x : ExchangeId) (a : PublishAnswer) : List Action :=
  [.run (.attempt id false), .reply x (goodReply .publish a), .run (.attempt id false)]

/-- The response with the message `n` of the subscription 7. -/
def sampleAnswer (n : SequenceNumber) : PublishAnswer :=
  Sample.publication 7 (Sample.dataChange n [1] 5) none

/-- The sample client creates the subscription 7 with one item. -/
def sampleStart : List Action :=
  operating 0 0 (.create ⟨100.0, 30, 10, 0, true, 0⟩)
      (goodReply .createSubscription ⟨7, ⟨100.0, 30, 10⟩⟩) ++
    operating 1 1 (.createItems 0 [.value .null]) (goodReply .createMonitoredItems [default])

/-- The message 1 comes, and after it the message 4, which is the next one to be evaluated. -/
def sampleGap : List Action :=
  sampleStart ++ publishing 0 2 (sampleAnswer 1) ++ [.run .processing] ++
    publishing 1 3 (sampleAnswer 4)

/-- In the recovery the message 2 comes, the message 3 does not, and the value of the item is asked
for and is there. -/
def sampleRecovery : List Action :=
  [.run (.recovery 3), .reply 4 (goodReply .republish (Sample.dataChange 2 [1] 5)),
    .run (.recovery 3), .reply 5 (.ok ⟨.republish, ⟨default, 0, .badMessageNotAvailable⟩, default⟩),
    .run (.recovery 3), .reply 6 (goodReply .read [.taken (.int32 5) default])]

/-- The run up to the end of the recovery. -/
def sampleRun : List Action := sampleGap ++ .run .processing :: sampleRecovery

end

end Client

end OpcUa
