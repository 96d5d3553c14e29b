import OpcUa.Proofs.Arrivals

/-!
# Recoveries hold the queues

While a recovery is in progress, it is the only one and both queues are paused: no response is
evaluated and nothing is delivered. When it is over, the queues go on where they were.

* `WorkQueue.Alert`: a worker does not sleep while there is something to do.
* `SubscriptionManager.Watchful`: neither of the two workers does.
* `Client.Holds`: what holds while a recovery is in progress.
* `Client.Sequenced`: what holds after a run.
* `Client.recoveries_hold_queues`: it holds after every run.
-/

namespace OpcUa

/-! ## The worker of a queue -/

namespace WorkQueue

variable {α : Type} {q : WorkQueue α}

/-- The worker of an open queue is awake, or it sleeps and has nothing to do. -/
def Alert (q : WorkQueue α) : Prop :=
  q.worker = .awake ∨ q.closed = true ∨ q.worker = .asleep ∧ (q.paused = true ∨ q.tasks = [])

theorem alert_of_closed (h : q.closed = true) : q.Alert := .inr (.inl h)

/-- A worker that is not stopped is awake after a notification. -/
theorem alert_notify (h : q.worker ≠ .stopped ∨ q.closed = true) : q.notify.Alert := by
  rcases h with h | h
  · left
    unfold notify
    split
    · rfl
    · assumption
    · rename_i hw
      exact absurd hw h
  · exact alert_of_closed ((closed_notify q).trans h)

theorem Alert.not_stopped (h : q.Alert) : q.worker ≠ .stopped ∨ q.closed = true := by
  rcases h with h | h | ⟨h, -⟩
  · exact .inl (by rw [h]; nofun)
  · exact .inr h
  · exact .inl (by rw [h]; nofun)

theorem Alert.submitAt (h : q.Alert) (place : Place) (a : α) : (q.submitAt place a).Alert := by
  unfold WorkQueue.submitAt
  split
  · exact h
  · obtain ⟨hc, hw, -⟩ := push_same place a q
    exact alert_notify (by rw [hw, hc]; exact h.not_stopped)

theorem Alert.foldl_submit (h : q.Alert) (l : List α) :
    (l.foldl (fun q a => q.submit a) q).Alert := by
  induction l generalizing q with
  | nil => exact h
  | cons a l ih => exact ih (h.submitAt .last a)

theorem Alert.pause (h : q.Alert) : q.pause.Alert :=
  h.imp_right (.imp_right fun h => ⟨h.1, .inl rfl⟩)

theorem Alert.resume (h : q.Alert) : q.resume.Alert :=
  alert_notify (q := q.setPaused false) h.not_stopped

theorem Alert.turn (h : q.Alert) : q.turn.2.Alert := by
  unfold WorkQueue.turn
  obtain ⟨a, rest, hc, hp, ht, e⟩ | ⟨hc, hn, e⟩ | ⟨hc, e⟩ := q.take_cases
  · rw [e]
    rcases h with h | h | ⟨-, h | h⟩
    · exact .inl h
    · exact .inr (.inl h)
    · exact absurd (hp.symm.trans h) nofun
    · exact absurd (ht.symm.trans h) nofun
  · rw [e]
    dsimp only
    obtain ⟨-, e⟩ | ⟨-, e⟩ := q.rest_cases
    · rw [e]
      exact h
    · rw [e]
      exact .inr (.inr ⟨rfl, hn⟩)
  · rw [e]
    exact alert_of_closed hc

/-- An open queue that is not paused and has something to do has its worker awake. -/
theorem Alert.awake (h : q.Alert) (hc : q.closed = false) (hp : q.paused = false)
    (ht : q.tasks ≠ []) : q.worker = .awake := by
  rcases h with h | h | ⟨-, h | h⟩
  · exact h
  · rw [h] at hc
    cases hc
  · rw [h] at hp
    cases hp
  · exact absurd h ht

end WorkQueue

namespace SubscriptionManager

variable {m m' : SubscriptionManager} {events : List SequencerEvent}

/-- Neither worker sleeps while there is something to do. -/
structure Watchful (m : SubscriptionManager) : Prop where
  processing : m.processing.Alert
  delivery : m.delivery.Alert

theorem watchful_fresh (config : ClientConfig) : (fresh config).Watchful :=
  ⟨.inl rfl, .inl rfl⟩

theorem Watchful.outside (h : m.Watchful) (ho : m.Outside m') : m'.Watchful := by
  cases ho with
  | quiet ho => exact ⟨ho.processing ▸ h.processing, ho.delivery ▸ h.delivery⟩
  | answered a ho =>
    refine ⟨?_, ho.delivery ▸ h.delivery⟩
    rw [ho.processing]
    exact h.processing.submitAt .last a
  | created id k ho => exact ⟨ho.processing ▸ h.processing, ho.delivery ▸ h.delivery⟩
  | deleted id ho => exact ⟨ho.processing ▸ h.processing, ho.delivery ▸ h.delivery⟩
  | delivered ho =>
    refine ⟨ho.processing ▸ h.processing, ?_⟩
    rw [ho.delivery]
    exact h.delivery.turn
  | stopped =>
    unfold shutDown
    split
    · exact ⟨WorkQueue.alert_of_closed (WorkQueue.closed_close _), h.delivery⟩
    · exact h
  | abandoned =>
    have hs : m.shutDown.Watchful := by
      unfold shutDown
      split
      · exact ⟨WorkQueue.alert_of_closed (WorkQueue.closed_close _), h.delivery⟩
      · exact h
    unfold abandon
    dsimp only
    split
    · exact hs
    · exact ⟨hs.processing, WorkQueue.alert_of_closed (WorkQueue.closed_close _)⟩

theorem Watchful.step (h : m.Watchful) (hs : m.Step events m') : m'.Watchful := by
  have turn {t : WorkQueue.Turn PublishAnswer} {q : WorkQueue PublishAnswer}
      (ht : m.processing.turn = (t, q)) : q.Alert := by
    have := h.processing.turn
    rwa [ht] at this
  cases hs with
  | outside ho => exact h.outside ho
  | idles hn => exact ⟨h.processing.turn, h.delivery⟩
  | drops ht hv => exact ⟨turn ht, h.delivery⟩
  | accepts ht hv =>
    rw [accept_eq]
    exact ⟨turn ht, h.delivery.submitAt .last _⟩
  | gaps ht hv => exact ⟨(turn ht).pause.submitAt .first _, h.delivery.pause⟩
  | rests => exact h
  | @recovers id r log stage requests hr hp hf hq =>
    obtain ⟨stats, hm⟩ := setRecovery_foldl_eq id r.subscription log stage m
    rw [hm]
    exact ⟨h.processing, h.delivery.foldl_submit _⟩
  | @ends id r log requests hr hp hf hq =>
    obtain ⟨stats, hm⟩ := foldl_perform_eq r.subscription log m
    rw [endRecovery_eq, hm]
    exact ⟨h.processing.resume, (h.delivery.foldl_submit _).resume⟩

/-- While a recovery is in progress, nothing is taken from the delivery queue. -/
theorem Step.delivery_of_recovery {id : WorkId} {r : Recovery} (h : m.Step events m')
    (ho : m.Orderly) (hr : m.recovery? id = some r) :
    ∃ new, m'.delivery.tasks = m.delivery.tasks ++ new := by
  have hrec := ho.of_recovery? hr
  have hopen : m.delivery.closed = false := by
    rw [Bool.eq_false_iff]
    intro hd
    rw [(ho.delivers hd).2] at hrec
    cases hrec
  have hshape := ho.shape
  rw [hrec] at hshape
  have idle {yields : Bool} {a : PublishAnswer} {q : WorkQueue PublishAnswer}
      (ht : m.processing.turn = (.run a yields, q)) : False := by
    rw [(ho.of_turn_run ht).1] at hrec
    cases hrec
  have same {q : WorkQueue Delivery} (hq : q.tasks = m.delivery.tasks) :
      ∃ new, q.tasks = m.delivery.tasks ++ new := ⟨[], by rw [hq, List.append_nil]⟩
  have runs (log : List RecoveryEvent) (s : SubscriptionId) :
      ((log.flatMap (·.deliveries s)).foldl (fun q d => q.submit d) m.delivery).tasks =
        m.delivery.tasks ++ log.flatMap (·.deliveries s) := WorkQueue.tasks_foldl_submit hopen _
  cases h with
  | outside h =>
    cases h with
    | quiet h => exact same (by rw [h.delivery])
    | answered a h => exact same (by rw [h.delivery])
    | created i k h => exact same (by rw [h.delivery])
    | deleted i h => exact same (by rw [h.delivery])
    | delivered h =>
      refine same ?_
      rw [h.delivery]
      refine (WorkQueue.turn_same fun d yields ht => ?_).1
      have hp := (WorkQueue.turn_run (Prod.ext ht rfl)).2.1
      rw [hshape.2.2.1] at hp
      cases hp
    | stopped =>
      unfold shutDown
      split <;> exact same rfl
    | abandoned =>
      have hbusy : m.shutDown.isBusy = true := by
        rw [isBusy, (shutDown_same m).1, hrec]
        simp
      have hs : m.abandon.delivery = m.delivery := by
        unfold abandon
        dsimp only
        rw [hbusy, Bool.true_or, if_pos rfl]
        unfold shutDown
        split <;> rfl
      exact same (by rw [hs])
  | idles hn => exact same rfl
  | drops ht hv | accepts ht hv | gaps ht hv => exact (idle ht).elim
  | rests => exact same rfl
  | @recovers i r' log stage requests hr' hp hf hq =>
    obtain ⟨stats, hm⟩ := setRecovery_foldl_eq i r'.subscription log stage m
    rw [hm]
    exact ⟨_, runs log r'.subscription⟩
  | @ends i r' log requests hr' hp hf hq =>
    obtain ⟨stats, hm⟩ := foldl_perform_eq r'.subscription log m
    rw [endRecovery_eq, hm]
    exact ⟨_, (WorkQueue.tasks_resume _).trans (runs log r'.subscription)⟩

end SubscriptionManager

namespace Client

open SubscriptionManager

variable {c : Client} {a : PublishAnswer} {x : SequenceNumber} {r : Recovery} {id : WorkId}

/-- The recovery `r`, which the response `a` has set off, is in progress. -/
structure Holds (c : Client) (id : WorkId) (r : Recovery) (a : PublishAnswer) : Prop where
  only : c.managed.recoveries = [(id, r)]
  subscription : r.subscription = a.subscription
  received : r.received = a.message.sequenceNumber
  processing : c.managed.processing.paused = true
  delivery : c.managed.delivery.paused = true
  /-- No response is evaluated, whichever action comes next. -/
  evaluates : ∀ b x v, .evaluates x v ∉ c.events b
  /-- Nothing is delivered: what is on the delivery queue stays there. -/
  delivers : ∀ b, ∃ new, (c.act b).1.managed.delivery.tasks = c.managed.delivery.tasks ++ new
  /-- The response is the next one to be evaluated, unless the manager is shut down. -/
  head : c.managed.processing.closed = false → ∃ rest, c.managed.processing.tasks = a :: rest

/-- What holds of the queues after a run. -/
structure Sequenced (c : Client) (as : List Action) : Prop where
  single : (c.after as).managed.recoveries.length ≤ 1
  held : ∀ id r, (c.after as).managed.recovery? id = some r →
    ∃ a x, c.Begun as id a x ∧ (c.after as).Holds id r a
  free : (c.after as).managed.recoveries = [] →
    (c.after as).managed.processing.paused = false ∧
      (c.after as).managed.delivery.paused = false
  /-- The responses are evaluated in the order in which they have arrived, none of them is lost or
  repeated, and what is left is pending. -/
  inTurn : ∃ pending again, InTurn (c.arrived as) (judged (c.history as)) pending again ∧
    ((c.after as).managed.processing.closed = false →
      pending = (c.after as).managed.processing.tasks)
  /-- Without a recovery the workers go on with what is pending. -/
  processes : (c.after as).managed.recoveries = [] →
    (c.after as).managed.processing.closed = false →
    ∀ a rest, (c.after as).managed.processing.tasks = a :: rest →
      (c.after as).isReady .processing = true ∧
        .evaluates a ((c.after as).managed.verdict? a) ∈ (c.after as).events (.run .processing)
  delivers : (c.after as).managed.recoveries = [] →
    (c.after as).managed.delivery.closed = false →
    ∀ d rest, (c.after as).managed.delivery.tasks = d :: rest →
      (c.after as).isReady .delivery = true ∧
        ((c.after as).act (.run .delivery)).1.managed.delivery.tasks = rest

theorem Begins.watchful (hc : c.Begins) (as : List Action) : (c.after as).managed.Watchful := by
  induction as using List.reverseRecOn with
  | nil =>
    rw [after_nil, managed_of_eq hc.manager]
    exact watchful_fresh _
  | append_singleton as b ih =>
    rw [after_snoc]
    exact ih.step ((hc.ready.after as).step b).2.2

/-- A recovery that is in progress holds the queues. -/
theorem Begins.holds (hc : c.Begins) {as : List Action}
    (hr : (c.after as).managed.recovery? id = some r) :
    ∃ a x, c.Begun as id a x ∧ (c.after as).Holds id r a := by
  have hready := hc.ready.after as
  have hrec := hready.orderly.of_recovery? hr
  have hshape := hready.orderly.shape
  rw [hrec] at hshape
  have hnone : c.managed.recoveries = [] := by
    rw [managed_of_eq hc.manager]
    rfl
  obtain ⟨a, x, hbegun⟩ := hc.ready.begun hnone hr
  refine ⟨a, x, hbegun, ?_⟩
  obtain ⟨p, bs, rfl, hg, rfl⟩ := hbegun
  have hafter : c.after (p ++ .run .processing :: bs) = (c.after p).evaluateNext.after bs := by
    rw [after_append, after_cons, evaluateNext]
  have hu := (hc.ready.after p).underway hg bs (hafter ▸ hr)
  refine ⟨hrec, hu.subscription, hu.received, hshape.2.1, hshape.2.2.1, fun b x v he => ?_,
    fun b => (hready.step b).2.2.delivery_of_recovery hready.orderly hr, fun hclosed => ?_⟩
  · obtain ⟨-, ⟨yields, ht⟩, -⟩ := of_evaluates_mem he
    have hidle := (hready.orderly.of_turn_run (Prod.ext ht rfl)).1
    rw [hrec] at hidle
    cases hidle
  · have hrun : (c.after (p ++ .run .processing :: bs)).managed.running = true := by
      have := hready.orderly.closed
      rw [hclosed] at this
      simpa using this
    rw [hafter] at hrun ⊢
    exact hu.head hrun

/-- At most one recovery is in progress after a run; it holds both queues, and when it is over they
go on with what has arrived, in the order in which it has. -/
theorem recoveries_hold_queues (hc : c.Begins) (as : List Action) : c.Sequenced as := by
  have hready := hc.ready.after as
  have hwatch := hc.watchful as
  have hshape := hready.orderly.shape
  have running (h : (c.after as).managed.processing.closed = false) :
      (c.after as).managed.running = true := by
    have := hready.orderly.closed
    rw [h] at this
    simpa using this
  refine ⟨?_, fun id r hr => hc.holds hr, fun he => ?_, ?_, fun he hclosed a rest ht => ?_,
    fun he hclosed d rest ht => ?_⟩
  · match e : (c.after as).managed.recoveries with
    | [] => exact Nat.zero_le _
    | [_] => exact Nat.le_refl _
    | _ :: _ :: _ =>
      rw [e] at hshape
      exact hshape.elim
  · rw [he] at hshape
    exact hshape
  · obtain ⟨pending, again, hin, hp⟩ := hc.inTurn as
    exact ⟨pending, again, hin, fun hclosed => hp (running hclosed)⟩
  · rw [he] at hshape
    have hawake := hwatch.processing.awake hclosed hshape.1 (by rw [ht]; nofun)
    obtain ⟨yields, hturn⟩ := WorkQueue.turn_of_tasks hclosed hshape.1 ht
    refine ⟨?_, ?_⟩
    · show (c.after as).manager.any (·.processing.worker == .awake) = true
      rw [hready.manager, Option.any_some, hawake]
      rfl
    · have hmem : .evaluates a ((c.after as).managed.verdict? a) ∈
          (c.after as).evaluated (.run .processing) := by
        unfold evaluated
        dsimp only
        rw [hturn]
        exact List.mem_singleton_self _
      exact List.mem_append_left _ (List.mem_append_left _ (List.mem_append_left _ hmem))
  · rw [he] at hshape
    have hawake := hwatch.delivery.awake hclosed hshape.2 (by rw [ht]; nofun)
    obtain ⟨yields, hturn⟩ := WorkQueue.turn_of_tasks hclosed hshape.2 ht
    refine ⟨?_, ?_⟩
    · show (c.after as).manager.any (·.delivery.worker == .awake) = true
      rw [hready.manager, Option.any_some, hawake]
      rfl
    · have hd : ((c.after as).act (.run .delivery)).1.managed =
          (c.after as).managed.deliverTurn.1 := managed_withManager hready.manager _
      rw [hd, (notes_deliverTurn _).quiet.delivery]
      have htasks := (WorkQueue.turn_run (Prod.ext hturn rfl)).2.2.2.2
      rw [ht] at htasks
      exact (List.cons.inj htasks).2.symm

/-- In the sample the message 5 arrives while the recovery is in progress. -/
def sampleHeld : List Action := sampleGap ++ .run .processing :: publishing 2 4 (sampleAnswer 5)

/-- The missing messages come, and the recovery is over. -/
def sampleResumed : List Action :=
  sampleHeld ++ [.run (.recovery 3),
    .reply 5 (goodReply .republish (Simulation.Sample.dataChange 2 [1] 5)), .run (.recovery 3),
    .reply 6 (goodReply .republish (Simulation.Sample.dataChange 3 [1] 5)), .run (.recovery 3),
    .run .processing, .run .processing]

/-- The message 4, which reveals the gap, is evaluated once more, and then the message 5. -/
theorem recoveries_hold_queues_sample :
    sample.Begins ∧ sample.Sequenced sampleHeld ∧ sample.Sequenced sampleResumed ∧
      (sample.after sampleHeld).managed.recoveries.length = 1 ∧
      (sample.after sampleHeld).managed.processing.tasks.map (·.message.sequenceNumber) = [4, 5] ∧
      (judged (sample.history sampleResumed)).map (fun p => (p.1.message.sequenceNumber, p.2)) =
        [(1, some .accept), (4, some (.gap 2)), (4, some .accept), (5, some .accept)] :=
  ⟨sample_begins, recoveries_hold_queues sample_begins sampleHeld,
    recoveries_hold_queues sample_begins sampleResumed, by decide, by decide, by decide⟩

end Client

end OpcUa
