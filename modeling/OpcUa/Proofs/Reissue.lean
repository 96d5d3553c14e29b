import OpcUa.Proofs.Acknowledging
import OpcUa.Proofs.PublishPipeline

/-!
# Subscription ids that are used again

The server chooses the id of a new subscription, and may choose one that it has used before. The
manager keeps the cursor and the acknowledgements under that id, and so does a recovery with the
response that it has put back. A deletion clears the first two of them; a creation clears nothing.

* `SubscriptionManager.Cleared`: nothing is kept under an id that is not registered.
* `Client.Creates`: a call returns a new subscription.
* `Client.Requeued`: the response that a recovery has put back waits for its turn.
* `Client.Gone`: nothing is left of the last subscription with an id.
* `Client.created_afresh`: a subscription created then begins afresh.
* `Client.inherited_from_registered`, `Client.inherited_from_recovery`: subscriptions that do not.
-/

namespace OpcUa

namespace SubscriptionManager

variable {m m' : SubscriptionManager} {events : List SequencerEvent} {s : SubscriptionId}

/-! ## Creation -/

/-- No operation creates a subscription before its request is sent. -/
theorem begin_ne_created (op : Operation) (clock : Nat) (k : SubscriptionKey) :
    (m.begin op clock).2 ≠ .finished (.ok (.created k)) := by
  have hstart (check : Except Error Unit) (op : PendingOperation) :
      startIf check op ≠ .finished (.ok (.created k)) := by
    unfold startIf
    split <;> simp
  cases op with
  | create | createWithInterval | modify | modifyInterval | delete | setPublishing =>
    apply hstart
  | createItems | deleteItems =>
    unfold begin
    dsimp only
    split
    · simp
    · split <;> simp

/-- A subscription that is returned is the one that its id stands for. -/
theorem registered_of_finish {clock : Nat} {op : PendingOperation}
    {outcome : Except Error op.service.Answer} {k : SubscriptionKey}
    (h : (m.finish clock op outcome).2 = .ok (.created k)) :
    (m.finish clock op outcome).1.registry.find? ((m.finish clock op outcome).1.idOf k) =
      some k := by
  cases outcome with
  | error e => cases h
  | ok answer =>
    cases op with
    | create p since =>
      obtain rfl : m.subscriptions.length = k := by
        injection h with h
        injection h
      unfold finish apply addSubscription
      dsimp only
      have hfill (m : SubscriptionManager) : m.fillPipeline.registry = m.registry ∧
          m.fillPipeline.subscriptions = m.subscriptions := by
        obtain ⟨new, hf, -⟩ := fills_fillPipeline m
        exact ⟨hf.registry, hf.subscriptions⟩
      rw [(hfill _).1, idOf, subscription?, (hfill _).2]
      dsimp only
      rw [List.getElem?_concat_length, Table.find?_insert]
      exact if_pos rfl
    | modify | deleteItems => cases h
    | delete | setPublishing | createItems =>
      unfold finish apply at h
      dsimp only at h
      split at h <;> cases h

/-! ## What is kept -/

/-- Nothing is kept under an id that is not registered. -/
def Cleared (m : SubscriptionManager) : Prop :=
  ∀ s, m.registry.contains s = false →
    m.cursors.find? s = none ∧ ∀ ack ∈ m.acknowledgements.pending, ack.subscription ≠ s

theorem cleared_fresh (config : ClientConfig) : (fresh config).Cleared := fun _ _ => ⟨rfl, nofun⟩

/-- That stays so where the cursors and the ids do and nothing else is acknowledged. -/
theorem Cleared.of_same (h : m.Cleared)
    (hr : ∀ s, m'.registry.contains s = false → m.registry.contains s = false)
    (hc : m'.cursors = m.cursors)
    (hp : m'.acknowledgements.pending ⊆ m.acknowledgements.pending) : m'.Cleared := by
  intro s hs
  obtain ⟨hnone, hacks⟩ := h s (hr s hs)
  exact ⟨hc ▸ hnone, fun ack hack => hacks ack (hp hack)⟩

/-- A deletion clears what is kept under its id. -/
theorem Cleared.outside (h : m.Cleared) (ho : m.Outside m') : m'.Cleared := by
  cases ho with
  | quiet ho => exact h.of_same (fun s hs => ho.registry ▸ hs) ho.cursors ho.pending
  | answered a ho => exact h.of_same (fun s hs => ho.registry ▸ hs) ho.cursors ho.pending
  | delivered ho => exact h.of_same (fun s hs => ho.registry ▸ hs) ho.cursors ho.pending
  | created id k ho =>
    refine h.of_same (fun s hs => ?_) ho.cursors ho.pending
    rw [ho.registry, Table.contains, Table.find?_insert] at hs
    split at hs
    · cases hs
    · exact hs
  | deleted id ho =>
    intro s hs
    rw [ho.registry, Table.contains, Table.find?_erase] at hs
    rw [ho.cursors, Table.find?_erase]
    by_cases e : s = id
    · subst e
      exact ⟨if_pos rfl, fun ack hack => (Acknowledgements.mem_discard.1 (ho.pending hack)).2⟩
    · rw [if_neg e] at hs ⊢
      obtain ⟨hnone, hacks⟩ := h s hs
      exact ⟨hnone, fun ack hack => hacks ack (Acknowledgements.mem_discard.1 (ho.pending hack)).1⟩
  | stopped =>
    obtain ⟨-, -, hr, hc, ha, -⟩ := shutDown_same m
    exact h.of_same (fun s hs => hr ▸ hs) hc (ha ▸ List.Subset.refl _)
  | abandoned =>
    obtain ⟨-, -, hr, hc, ha, -⟩ := abandon_same m
    exact h.of_same (fun s hs => hr ▸ hs) hc (ha ▸ List.Subset.refl _)

/-- Only from outside subscriptions come and go. -/
theorem Step.outside_or (h : m.Step events m') : m.Outside m' ∨ m'.registry = m.registry := by
  cases h with
  | outside h => exact .inl h
  | idles | drops | gaps | rests => exact .inr rfl
  | accepts h hv => exact .inr (by rw [accept_eq])
  | @recovers id r log stage requests hr hp hf hq =>
    obtain ⟨stats, hm⟩ := setRecovery_foldl_eq id r.subscription log stage m
    exact .inr (by rw [hm]; rfl)
  | @ends id r log requests hr hp hf hq =>
    obtain ⟨stats, hm⟩ := foldl_perform_eq r.subscription log m
    exact .inr (by rw [endRecovery_eq, hm])

/-- Only for a subscription that is registered a cursor is set or a message acknowledged. -/
theorem Cleared.step (h : m.Cleared) (hs : m.Step events m') : m'.Cleared := by
  rcases hs.outside_or with ho | hr
  · exact h.outside ho
  intro s hnot
  rw [hr] at hnot
  obtain ⟨hnone, hacks⟩ := h s hnot
  have hne {a : PublishAnswer} (ha : m.Accepts m' a) : a.subscription ≠ s := by
    rintro rfl
    rw [ha.registers] at hnot
    cases hnot
  constructor
  · rcases hs.cursor s with hsame | ⟨-, hgone⟩ | ⟨a, ha, -⟩ | ⟨id, r, -, -, -, hreg, -⟩
    · exact hsame.trans hnone
    · exact hgone
    · exact absurd ha.subscription (hne (hs.accepts_of_evaluates ha.evaluates))
    · rw [hreg] at hnot
      cases hnot
  · intro ack hack
    rcases hs.acknowledgements with ⟨hsub, -⟩ | ⟨a, -, ha⟩
    · exact hacks ack (hsub hack)
    · rcases (ha.pending ack).1 hack with ⟨hid, -⟩ | hold
      · exact hid ▸ hne ha
      · exact hacks ack hold

/-! ## Steps that leave a subscription alone -/

/-- Until a response is evaluated, responses are only put at the end of the processing queue. -/
theorem Step.tasks_append (h : m.Step events m') (ho : m.Orderly) (hr : m'.running = true)
    (he : ∀ a v, .evaluates a v ∉ events) :
    ∃ new, m'.processing.tasks = m.processing.tasks ++ new := by
  cases h with
  | outside h => exact (h.tasks ho hr).2
  | idles h => exact ⟨[], by rw [(WorkQueue.turn_same h).1, List.append_nil]⟩
  | drops | accepts | gaps => exact absurd List.mem_cons_self (he _ _)
  | rests => exact ⟨[], (List.append_nil _).symm⟩
  | @recovers id r log stage requests hr hp hf hq =>
    obtain ⟨stats, hm⟩ := setRecovery_foldl_eq id r.subscription log stage m
    rw [hm]
    exact ⟨[], (List.append_nil _).symm⟩
  | @ends id r log requests hr hp hf hq =>
    obtain ⟨stats, hm⟩ := foldl_perform_eq r.subscription log m
    rw [endRecovery_eq, hm]
    exact ⟨[], by dsimp only; rw [WorkQueue.tasks_resume, List.append_nil]⟩

/-- What a recovery delivers is for its own subscription. -/
theorem subscription_of_hands_mem_run {w : WorkId} {s' : SubscriptionId}
    {log : List RecoveryEvent} {requests : List Request} {message : NotificationMessage}
    (h : SequencerEvent.hands (.message s message) ∈ log.map (.recovers w s') ++
      requests.map (.posts w) ++ (log.flatMap (·.deliveries s')).map .hands) : s = s' := by
  obtain ⟨e, -, hd⟩ : ∃ e ∈ log, Delivery.message s message ∈ e.deliveries s' := by simpa using h
  exact subscription_of_mem_deliveries hd

theorem subscription_of_recovers_mem_run {w w' : WorkId} {s' : SubscriptionId}
    {log : List RecoveryEvent} {requests : List Request} {e : RecoveryEvent}
    (h : SequencerEvent.recovers w s e ∈ log.map (.recovers w' s') ++ requests.map (.posts w') ++
      (log.flatMap (·.deliveries s')).map .hands) : s = s' := by
  obtain ⟨-, -, hs⟩ : e ∈ log ∧ w' = w ∧ s' = s := by simpa using h
  exact hs.symm

/-- In a step the cursor of the subscription is set, a message of it is put on the delivery queue, or
a recovery does something for it. -/
inductive Touches (m : SubscriptionManager) (events : List SequencerEvent)
    (m' : SubscriptionManager) (s : SubscriptionId) : Prop
  | cursor (x : SequenceNumber) : m'.lastSequenceNumber? s = some x →
    m.lastSequenceNumber? s ≠ some x → Touches m events m' s
  | message (message : NotificationMessage) : .hands (.message s message) ∈ events →
    Touches m events m' s
  | recovery (id : WorkId) (e : RecoveryEvent) : .recovers id s e ∈ events → Touches m events m' s

/-- A step touches a subscription if it evaluates a response of it, or if a recovery of it is in
progress. -/
theorem Step.not_touches (h : m.Step events m')
    (ha : ∀ a v, .evaluates a v ∈ events → a.subscription ≠ s)
    (hr : ∀ id r, m.recovery? id = some r → r.subscription ≠ s) : ¬ m.Touches events m' s := by
  intro ht
  cases ht with
  | cursor x hx hne =>
    unfold lastSequenceNumber? at hx hne
    rcases h.cursor s with hsame | ⟨-, hnone⟩ | ⟨a, hm, -⟩ | ⟨id, r, hf, hid, -⟩
    · exact hne (hsame ▸ hx)
    · rw [hnone] at hx
      cases hx
    · exact ha a _ hm.evaluates hm.subscription
    · exact hr id r hf.recovery hid
  | message message hmem =>
    cases h with
    | outside | idles | rests => cases hmem
    | drops | gaps => cases List.mem_singleton.1 hmem
    | @accepts a yields q ht hv =>
      rcases List.mem_cons.1 hmem with hmem | hmem
      · cases hmem
      · injection List.mem_singleton.1 hmem with hd
        injection hd with hs
        exact ha a _ List.mem_cons_self hs.symm
    | recovers hrec | ends hrec => exact hr _ _ hrec (subscription_of_hands_mem_run hmem).symm
  | recovery id e hmem =>
    cases h with
    | outside | idles | rests => cases hmem
    | drops | gaps => cases List.mem_singleton.1 hmem
    | accepts => simp at hmem
    | recovers hrec | ends hrec => exact hr _ _ hrec (subscription_of_recovers_mem_run hmem).symm

end SubscriptionManager

namespace Client

open SubscriptionManager

variable {c : Client} {as bs : List Action} {b : Action} {a : PublishAnswer} {id : CallId}
  {k : SubscriptionKey} {s : SubscriptionId} {w : WorkId}

/-! ## Calls that create a subscription -/

/-- From `c` to `c'` the call ends and returns the new subscription `k`. -/
def Returns (c c' : Client) (id : CallId) (k : SubscriptionKey) : Prop :=
  c'.finished = (id, .operated (.ok (.created k))) :: c.finished

theorem result_ne_created {service : ServiceClient} {job : Job} {j : JobCall}
    (h : job.serviceCall? service = some j) (o : Except Error j.service.Answer) :
    j.result o ≠ .operated (.ok (.created k)) := by
  cases job <;> simp [Job.serviceCall?] at h <;> subst h <;> simp

theorem not_returns_startCall {j : JobCall} (hj : ∀ o, j.result o ≠ .operated (.ok (.created k))) :
    ¬ c.Returns (c.startCall id j).1 id k := by
  unfold Returns startCall
  dsimp only
  split <;> simp [finish, setCall, hj]

theorem not_returns_advanceCall {j : JobCall}
    (hj : ∀ o, j.result o ≠ .operated (.ok (.created k))) {phase : CallPhase} :
    ¬ c.Returns (c.advanceCall id j phase).1 id k := by
  unfold Returns advanceCall
  dsimp only
  split <;> simp [finish, setCall, hj]

theorem not_returns_learn {job : Job} {news : SessionNews} :
    ¬ c.Returns (c.learn id job news) id k := by
  unfold Returns learn
  split
  · simp [setCall]
  · split <;> simp [finish, startManager]

theorem not_returns_awaitClose {job : Job} : ¬ c.Returns (c.awaitClose id job) id k := by
  unfold Returns awaitClose
  split
  · simp [setCall]
  · split <;> simp [finish]

theorem not_returns_advanceSending {service : Service} {await : Await} :
    ¬ c.Returns (c.advanceSending id service await) id k := by
  unfold Returns advanceSending
  split <;> simp [finish, withService]

/-- The manager has the subscription `k` registered under its id. -/
def Knows (c : Client) (k : SubscriptionKey) : Prop :=
  c.managed.registry.find? (c.managed.idOf k) = some k

theorem knows_endOperation {m : SubscriptionManager} (hm : c.manager = some m)
    {op : PendingOperation} {outcome : Except Error op.service.Answer}
    (h : c.Returns (c.endOperation id op outcome) id k) : (c.endOperation id op outcome).Knows k := by
  unfold Returns endOperation at h
  unfold endOperation
  rw [hm] at h ⊢
  dsimp only at h ⊢
  injection h with h
  injection h with _ h
  injection h with h
  exact registered_of_finish h

theorem not_returns_startOperation {m : SubscriptionManager} (hm : c.manager = some m)
    {op : Operation} : ¬ c.Returns (c.startOperation id op).1 id k := by
  intro h
  unfold Returns startOperation at h
  rw [hm] at h
  dsimp only at h
  split at h
  · rename_i m' outcome e
    injection h with h
    injection h with _ h
    injection h with h
    exact begin_ne_created op c.service.clock k (h ▸ congrArg Prod.snd e)
  · split at h
    · -- A failure is no creation.
      injection h with h
      injection h with _ h
      injection h with h
      cases h
    · simp [setCall] at h

theorem not_returns_startJob {m : SubscriptionManager} (hm : c.manager = some m) {job : Job} :
    ¬ c.Returns (c.startJob id job).1 id k := by
  unfold startJob
  split
  · rename_i j hj
    exact not_returns_startCall (result_ne_created hj)
  · split
    · exact not_returns_awaitClose (c := c.withService _)
    · rename_i managed _
      cases managed
      · exact not_returns_awaitClose (c := (c.withService _).withService _)
      · exact not_returns_awaitClose (c := ((c.withManager _).withService _).withService _)
    · simp [Returns, startSending, setCall]
    · exact not_returns_startOperation hm
    · exact not_returns_learn (c := { c with service := _ })

/-- A call that returns a new subscription has registered it. -/
theorem knows_pollCall {m : SubscriptionManager} (hm : c.manager = some m)
    (h : c.Returns (c.pollCall id).1 id k) : (c.pollCall id).1.Knows k := by
  have hstay : ¬ c.Returns c id k := by simp [Returns]
  unfold pollCall at h ⊢
  split at h
  · exact absurd h hstay
  · rename_i job stage e
    cases stage with
    | fresh => exact absurd h (not_returns_startJob hm)
    | session w => exact absurd h (not_returns_learn (c := { c with service := _ }))
    | closing => exact absurd h not_returns_awaitClose
    | calling phase =>
      dsimp only at h
      split at h
      · rename_i j hj
        exact absurd h (not_returns_advanceCall (result_ne_created hj))
      · exact absurd h hstay
    | operating op phase =>
      dsimp only at h ⊢
      unfold advanceOperation at h ⊢
      rw [hm] at h ⊢
      dsimp only at h ⊢
      split at h
      · simp [Returns, setCall] at h
      · exact knows_endOperation (m := m) rfl h
    | sending await =>
      dsimp only at h
      split at h
      · exact absurd h not_returns_advanceSending
      · exact absurd h hstay

/-- In the action `b` a call ends that has created the subscription `k`, and `s` is its id. -/
structure Creates (c : Client) (b : Action) (k : SubscriptionKey) (s : SubscriptionId) : Prop where
  returns : ∃ id, b = .run (.call id) ∧ c.Returns (c.act b).1 id k
  id : (c.act b).1.managed.idOf k = s

theorem Ready.registered_of_creates (h : c.Ready) (hb : c.Creates b k s) :
    (c.act b).1.managed.registry.find? s = some k := by
  obtain ⟨id, rfl, hret⟩ := hb.returns
  rw [← hb.id]
  exact knows_pollCall h.manager hret

/-- A creation is neither a turn of the processing worker nor one of a recovery. -/
theorem Ready.outside_of_creates (h : c.Ready) (hb : c.Creates b k s) :
    c.managed.Outside (c.act b).1.managed := by
  obtain ⟨id, rfl, -⟩ := hb.returns
  obtain ⟨m', hm', ho⟩ := (act_outside h.settled (show ¬ Action.Sequences (.run (.call id)) from nofun)).2
    _ h.manager
  rwa [managed_of_eq hm']

/-! ## What is left of a subscription -/

theorem Begins.cleared (hc : c.Begins) (as : List Action) : (c.after as).managed.Cleared := by
  induction as using List.reverseRecOn with
  | nil =>
    rw [after_nil, managed_of_eq hc.manager]
    exact cleared_fresh _
  | append_singleton as b ih =>
    rw [after_snoc]
    exact ih.step ((hc.ready.after as).step b).2.2

/-- In a run the response `a` has revealed a gap and was put back when the recovery `w` began, and
it still waits to be evaluated once more. -/
structure Requeued (c : Client) (as : List Action) (w : WorkId) (a : PublishAnswer) : Prop where
  begun : ∃ p bs x, as = p ++ .run .processing :: bs ∧ (c.after p).RevealsGap a x ∧
    w = (c.after p).managed.nextWork ∧ ∀ a' v, .evaluates a' v ∉ (c.after p).evaluateNext.history bs
  waits : a ∈ (c.after as).managed.processing.tasks

/-- Nothing is left of the last subscription with this id: it is not registered, and there is
neither a recovery of it nor a response that one has put back. -/
structure Gone (c : Client) (as : List Action) (s : SubscriptionId) : Prop where
  registry : ¬ (c.after as).Registers s
  recovery : ∀ w r, (c.after as).managed.recovery? w = some r → r.subscription ≠ s
  requeued : ∀ w a, c.Requeued as w a → a.subscription ≠ s

/-- The action touches the subscription. -/
def Touches (c : Client) (b : Action) (s : SubscriptionId) : Prop :=
  c.managed.Touches (c.events b) (c.act b).1.managed s

/-- The response that has revealed a gap stays at the head until it is evaluated once more. -/
theorem Ready.head_of_gap {x : SequenceNumber} (h : c.Ready) (hg : c.RevealsGap a x)
    (he : ∀ a' v, .evaluates a' v ∉ c.evaluateNext.history bs)
    (hr : (c.evaluateNext.after bs).managed.running = true) :
    ∃ rest, (c.evaluateNext.after bs).managed.processing.tasks = a :: rest := by
  have hready : c.evaluateNext.Ready := h.act _
  induction bs using List.reverseRecOn with
  | nil => exact (hg.recoveries h).2.2.2
  | append_singleton bs b ih =>
    have hb := hready.after bs
    have hstep := (hb.step b).2.2
    rw [history_snoc] at he
    rw [after_snoc] at hr ⊢
    obtain ⟨rest, hrest⟩ := ih (fun a' v hm => he a' v (List.mem_append_left _ hm))
      (hstep.running hb.orderly hr)
    obtain ⟨new, hnew⟩ := hstep.tasks_append hb.orderly hr
      fun a' v hm => he a' v (List.mem_append_right _ hm)
    exact ⟨rest ++ new, by rw [hnew, hrest, List.cons_append]⟩

theorem Ready.running_of_mem_tasks (h : c.Ready) (ha : a ∈ c.managed.processing.tasks) :
    c.managed.running = true := by
  by_contra hr
  rw [h.orderly.dropped (Bool.eq_false_iff.2 hr)] at ha
  cases ha

theorem Requeued.head (h : c.Requeued as w a) (hc : c.Ready) :
    ∃ rest, (c.after as).managed.processing.tasks = a :: rest := by
  obtain ⟨p, bs, x, rfl, hg, -, he⟩ := h.begun
  have hrun := (hc.after _).running_of_mem_tasks h.waits
  rw [after_append, after_cons] at hrun ⊢
  exact (hc.after p).head_of_gap hg he hrun

/-- A response that was put back by a recovery begun before the action `b` was put back before. -/
theorem Requeued.before (h : c.Requeued (as ++ b :: bs) w a) (hc : c.Ready)
    (hb : b ≠ .run .processing) (hw : w < (c.after (as ++ [b])).managed.nextWork) :
    c.Requeued as w a := by
  have hrun := (hc.after _).running_of_mem_tasks h.waits
  obtain ⟨p, qs, x, hsplit, hg, rfl, he⟩ := h.begun
  rcases List.append_eq_append_iff.1 hsplit.symm with ⟨l, has, hl⟩ | ⟨l, rfl, hl⟩
  · cases l with
    | nil => exact absurd (List.cons.inj hl).1.symm hb
    | cons b' l =>
      obtain ⟨rfl, rfl⟩ := List.cons.inj hl
      have he' : ∀ a' v, .evaluates a' v ∉ (c.after p).evaluateNext.history l := fun a' v hm => by
        refine he a' v ?_
        rw [show l.append (b :: bs) = l ++ b :: bs from rfl, history_append]
        exact List.mem_append_left _ hm
      refine ⟨⟨p, l, x, has, hg, rfl, he'⟩, ?_⟩
      rw [after_append] at hrun
      have hrun' := (hc.after as).running_of_after hrun
      subst has
      rw [after_append, after_cons] at hrun' ⊢
      obtain ⟨rest, hrest⟩ := (hc.after p).head_of_gap hg he' hrun'
      show a ∈ ((c.after p).evaluateNext.after l).managed.processing.tasks
      rw [hrest]
      exact List.mem_cons_self
  · -- The gap was revealed after the action, so the recovery has a later number.
    cases l with
    | nil => exact absurd (List.cons.inj hl).1 hb
    | cons b' l =>
      obtain ⟨rfl, -⟩ := List.cons.inj hl
      have hle := (hc.after (as ++ [b])).nextWork_le l
      rw [← after_append, List.append_assoc, List.singleton_append] at hle
      exact absurd hw (Nat.not_lt.2 hle)

/-- A recovery begun before a run is of a subscription that it was of then. -/
theorem Ready.subscription_ne (h : c.Ready)
    (hs : ∀ w r, c.managed.recovery? w = some r → r.subscription ≠ s) (bs : List Action)
    (hw : w < c.managed.nextWork) {r : Recovery}
    (hr : (c.after bs).managed.recovery? w = some r) : r.subscription ≠ s := by
  induction bs using List.reverseRecOn generalizing r with
  | nil => exact hs w r hr
  | append_singleton bs b ih =>
    have hb := h.after bs
    rw [after_snoc] at hr
    rcases (hb.step b).2.2.of_recovery? hb.orderly hr with ⟨-, -, -, rfl⟩ | ⟨r₀, hcont⟩
    · exact absurd hw (Nat.not_lt.2 (h.nextWork_le bs))
    · rw [hcont.subscription]
      exact ih hcont.recovery

/-- A recovery that is over does nothing. -/
theorem Ready.not_touches_of_none (h : c.Ready) (hw : c.managed.recovery? w = none) :
    ¬ c.Touches (.run (.recovery w)) s := by
  have hact : c.act (.run (.recovery w)) = (c, none) := by
    show ((c.pollRecovery w).1, (c.pollRecovery w).2) = _
    unfold pollRecovery
    rw [h.manager]
    dsimp only
    rw [hw]
  have hevents : c.events (.run (.recovery w)) = [] := by
    unfold events evaluated recovered posted handed
    dsimp only
    rw [hact, hw, List.drop_length]
    rfl
  intro ht
  unfold Touches at ht
  rw [hevents, hact] at ht
  cases ht with
  | cursor x hx hne => exact hne hx
  | message message hmem => cases hmem
  | recovery id e hmem => cases hmem

theorem Ready.not_touches_recovery (h : c.Ready)
    (hs : ∀ r, c.managed.recovery? w = some r → r.subscription ≠ s) :
    ¬ c.Touches (.run (.recovery w)) s := by
  cases hr : c.managed.recovery? w with
  | none => exact h.not_touches_of_none hr
  | some r =>
    refine (h.step _).2.2.not_touches (fun a v ha => ?_) fun w' r' hr' => ?_
    · cases (of_evaluates_mem ha).1
    · obtain ⟨-, rfl⟩ := (recovery?_eq_some_iff (h.orderly.of_recovery? hr)).1 hr'
      exact hs r' hr

/-- The turn that takes a response of another subscription leaves this one alone. -/
theorem Ready.not_touches_processing (h : c.Ready) {rest : List PublishAnswer}
    (ht : c.managed.processing.tasks = a :: rest) (ha : a.subscription ≠ s) :
    ¬ c.Touches (.run .processing) s := by
  refine (h.step _).2.2.not_touches (fun a' v he => ?_) fun w r hr => ?_
  · obtain ⟨-, ⟨yields, hturn⟩, -⟩ := of_evaluates_mem he
    rcases e : c.managed.processing.turn with ⟨t, q⟩
    rw [e] at hturn
    subst hturn
    have htasks := (WorkQueue.turn_run e).2.2.2.2
    rw [ht] at htasks
    exact (List.cons.inj htasks).1 ▸ ha
  · -- The response at the head is the one that the recovery in progress has put back.
    have hshape := h.orderly.shape
    rw [h.orderly.of_recovery? hr] at hshape
    obtain ⟨a', rest', ht', hsub, -⟩ := hshape.2.2.2
      (h.running_of_mem_tasks (a := a) (by rw [ht]; exact List.mem_cons_self))
    rw [ht] at ht'
    rw [← hsub, ← (List.cons.inj ht').1]
    exact ha

/-- A subscription that is created when nothing is left of the last one with its id begins afresh:
there is neither a cursor nor an acknowledgement, and whatever happens afterwards, no recovery begun
before and no response put back by one sets its cursor or delivers anything to it. -/
theorem created_afresh (hc : c.Begins) (as : List Action) (b : Action)
    (hb : (c.after as).Creates b k s) (hg : c.Gone as s) :
    (c.after (as ++ [b])).managed.registry.find? s = some k ∧
      (c.after (as ++ [b])).managed.lastSequenceNumber? s = none ∧
      (∀ ack ∈ (c.after (as ++ [b])).managed.acknowledgements.pending, ack.subscription ≠ s) ∧
      ∀ bs w, w < (c.after (as ++ [b])).managed.nextWork →
        ¬ (c.after (as ++ b :: bs)).Touches (.run (.recovery w)) s ∧
        ∀ a, c.Requeued (as ++ b :: bs) w a →
          ¬ (c.after (as ++ b :: bs)).Touches (.run .processing) s := by
  have hready := hc.ready.after as
  have hready' := hc.ready.after (as ++ [b])
  have hout := hready.outside_of_creates hb
  obtain ⟨hnone, hacks⟩ := hc.cleared as s (Bool.eq_false_iff.2 hg.registry)
  have hne : b ≠ .run .processing := by
    obtain ⟨id, rfl, -⟩ := hb.returns
    exact nofun
  have hrecs : ∀ w r, (c.after (as ++ [b])).managed.recovery? w = some r → r.subscription ≠ s := by
    rw [after_snoc]
    unfold recovery?
    rw [hout.recoveries]
    exact hg.recovery
  refine ⟨?_, ?_, fun ack hack => hacks ack ?_, fun bs w hw => ⟨?_, fun a ha => ?_⟩⟩
  · rw [after_snoc]
    exact hready.registered_of_creates hb
  · rw [after_snoc]
    rcases hout.cursor s with hsame | ⟨-, hnone'⟩
    · exact hsame.trans hnone
    · exact hnone'
  · rw [after_snoc] at hack
    exact hout.acknowledgements.1 hack
  · refine (hc.ready.after _).not_touches_recovery fun r hr => ?_
    rw [show as ++ b :: bs = as ++ [b] ++ bs by simp, after_append] at hr
    exact hready'.subscription_ne hrecs bs hw hr
  · obtain ⟨rest, hrest⟩ := ha.head hc.ready
    exact (hc.ready.after _).not_touches_processing hrest
      (hg.requeued w a (ha.before hc.ready hne hw))

/-! ## Samples -/

section

open Simulation

/-- The call `id` creates the subscription 7 in the exchange `x`, and has its answer. -/
def recreating (id : CallId) (x : ExchangeId) : List Action :=
  [.call (.operate (.create ⟨100.0, 30, 10, 0, true, 0⟩)) nofun, .run (.call id),
    .reply x (goodReply .createSubscription ⟨7, ⟨100.0, 30, 10⟩⟩)]

/-- The recovery of the sample ends, the subscription is deleted, and it is created once more. -/
def sampleRecreated : List Action :=
  sampleEnd ++ [.run .processing] ++
    operating 2 7 (.delete 0) (goodReply .deleteSubscriptions [.good]) ++ recreating 3 8

theorem sampleRecreated_gone : sample.Gone sampleRecreated 7 := by
  have hidle : (sample.after sampleRecreated).managed.recoveries.isEmpty = true := by decide +kernel
  have hempty : (sample.after sampleRecreated).managed.processing.tasks.isEmpty = true := by
    decide +kernel
  refine ⟨by decide +kernel, fun w r hr => ?_, fun w a ha => ?_⟩
  · rw [recovery?, List.isEmpty_iff.1 hidle] at hr
    cases hr
  · have hwaits := ha.waits
    rw [List.isEmpty_iff.1 hempty] at hwaits
    cases hwaits

set_option maxRecDepth 1000 in
/-- The recovery 3, which is of the deleted subscription, does not touch the new one. -/
theorem created_afresh_sample :
    sample.Begins ∧ (sample.after sampleRecreated).Creates (.run (.call 3)) 1 7 ∧
      sample.Gone sampleRecreated 7 ∧
      (sample.after (sampleRecreated ++ [.run (.call 3)])).managed.lastSequenceNumber? 7 = none ∧
      ∀ bs, ¬ (sample.after (sampleRecreated ++ .run (.call 3) :: bs)).Touches
        (.run (.recovery 3)) 7 := by
  have hb : (sample.after sampleRecreated).Creates (.run (.call 3)) 1 7 :=
    ⟨⟨3, rfl, rfl⟩, by decide +kernel⟩
  have h := created_afresh sample_begins sampleRecreated (.run (.call 3)) hb sampleRecreated_gone
  exact ⟨sample_begins, hb, sampleRecreated_gone, h.2.1,
    fun bs => (h.2.2.2 bs 3 (by decide +kernel)).1⟩

/-- The server uses the id of a subscription that is still registered. The new subscription has the
cursor of the old one, and its acknowledgements are still pending. -/
theorem inherited_from_registered :
    sample.Begins ∧
      (sample.after (sampleUnseen ++ .run .processing :: recreating 2 3)).Creates
        (.run (.call 2)) 1 7 ∧
      (sample.after (sampleUnseen ++ .run .processing :: recreating 2 3 ++
        [.run (.call 2)])).managed.lastSequenceNumber? 7 = some 5 ∧
      ⟨7, 3⟩ ∈ (sample.after (sampleUnseen ++ .run .processing :: recreating 2 3 ++
        [.run (.call 2)])).managed.acknowledgements.pending :=
  ⟨sample_begins, ⟨⟨2, rfl, rfl⟩, by decide +kernel⟩, by decide +kernel, by decide +kernel⟩

/-- The subscription is deleted while it is recovered, and the server uses its id again. -/
def sampleSurvived : List Action :=
  sampleRun ++ operating 2 7 (.delete 0) (goodReply .deleteSubscriptions [.good]) ++ recreating 3 8

/-- The recovery sets the cursor of the new subscription, and the response that it has put back is
delivered to it. -/
theorem inherited_from_recovery :
    sample.Begins ∧ (sample.after sampleSurvived).Creates (.run (.call 3)) 1 7 ∧
      3 < (sample.after (sampleSurvived ++ [.run (.call 3)])).managed.nextWork ∧
      (sample.after (sampleSurvived ++ [.run (.call 3)])).managed.lastSequenceNumber? 7 = none ∧
      (sample.after (sampleSurvived ++ [.run (.call 3)])).Touches (.run (.recovery 3)) 7 ∧
      (sample.after (sampleSurvived ++ [.run (.call 3), .run (.recovery 3)])).Touches
        (.run .processing) 7 :=
  ⟨sample_begins, ⟨⟨3, rfl, rfl⟩, by decide +kernel⟩, by decide +kernel, by decide +kernel,
    .cursor 3 (by decide +kernel) (by decide +kernel), .cursor 4 (by decide +kernel) (by decide +kernel)⟩

end

end Client

end OpcUa
