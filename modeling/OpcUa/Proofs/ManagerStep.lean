import OpcUa.Proofs.Bookkeeping
import OpcUa.Proofs.Run

/-!
# What an action does to the manager

Most actions leave alone what the order of messages depends on. This file says once what each of
them may do to it, so that an invariant has to be checked against a handful of steps.

* `Quiet`: nothing changes but the bookkeeping; acknowledgements may leave with an attempt.
* `Outside`: a step that is neither a turn of the processing worker nor one of a recovery.
* `AttemptTurn`: what a Publish attempt does when it runs.
* `CoversCommon`, `Covers`: a relation that holds of all that is neither of these, without and with
  the effects of operations and of deliveries.
* `Client.act_moves`: every other action is such a step.
-/

namespace OpcUa

namespace SubscriptionManager

/-- The acknowledgements that are pending or travel with an attempt. -/
def carried (m : SubscriptionManager) : List Acknowledgement :=
  m.acknowledgements.pending ++ m.attempts.flatMap (·.2.acknowledgements)

/-- Nothing changes that the order of messages depends on. Pending acknowledgements may leave with
an attempt, and attempts may end. -/
structure Quiet (m m' : SubscriptionManager) : Prop where
  running : m'.running = m.running
  registry : m'.registry = m.registry
  cursors : m'.cursors = m.cursors
  processing : m'.processing = m.processing
  delivery : m'.delivery = m.delivery
  recoveries : m'.recoveries = m.recoveries
  nextWork : m.nextWork ≤ m'.nextWork
  pending : m'.acknowledgements.pending ⊆ m.acknowledgements.pending
  carried : m'.carried ⊆ m.carried

variable {m m' m'' : SubscriptionManager}

theorem Quiet.refl (m : SubscriptionManager) : m.Quiet m :=
  ⟨rfl, rfl, rfl, rfl, rfl, rfl, Nat.le_refl _, List.Subset.refl _, List.Subset.refl _⟩

theorem Quiet.trans (h : m.Quiet m') (h' : m'.Quiet m'') : m.Quiet m'' where
  running := h'.running.trans h.running
  registry := h'.registry.trans h.registry
  cursors := h'.cursors.trans h.cursors
  processing := h'.processing.trans h.processing
  delivery := h'.delivery.trans h.delivery
  recoveries := h'.recoveries.trans h.recoveries
  nextWork := Nat.le_trans h.nextWork h'.nextWork
  pending := List.Subset.trans h'.pending h.pending
  carried := List.Subset.trans h'.carried h.carried

/-- Only subscriptions, items and what is written down about them differ. -/
theorem quiet_of_eq (m : SubscriptionManager) (subscriptions : List Subscription)
    (items : List MonitoredItem) (clientHandles : Handles) (listeners : List Listener)
    (stats : SubscriptionStats) (journal : List Observation) (inFlight : Nat) :
    m.Quiet { m with subscriptions, items, clientHandles, listeners, stats, journal, inFlight } :=
  ⟨rfl, rfl, rfl, rfl, rfl, rfl, Nat.le_refl _, List.Subset.refl _, List.Subset.refl _⟩

theorem Notes.quiet (h : m.Notes m') : m.Quiet m' := by
  obtain ⟨_, _, _, _, _, _, rfl, -⟩ := h
  exact quiet_of_eq m ..

/-! ## The Publish pipeline -/

theorem quiet_setAttempt (id : WorkId) (stage : AttemptStage) (m : SubscriptionManager) :
    m.Quiet (m.setAttempt id stage) := by
  refine ⟨rfl, rfl, rfl, rfl, rfl, rfl, Nat.le_refl _, List.Subset.refl _, ?_⟩
  have h : (m.setAttempt id stage).carried = m.carried := by
    unfold SubscriptionManager.carried setAttempt
    congr 1
    dsimp only
    rw [List.flatMap_map]
    congr 1
    funext p
    split <;> rfl
  rw [h]
  exact List.Subset.refl _

theorem quiet_dropAttempt (id : WorkId) (m : SubscriptionManager) : m.Quiet (m.dropAttempt id) := by
  refine ⟨rfl, rfl, rfl, rfl, rfl, rfl, Nat.le_refl _, List.Subset.refl _, ?_⟩
  intro x hx
  rcases List.mem_append.1 hx with hx | hx
  · exact List.mem_append_left _ hx
  · obtain ⟨p, hp, hx⟩ := List.mem_flatMap.1 hx
    exact List.mem_append_right _ (List.mem_flatMap.2 ⟨p, (List.mem_filter.1 hp).1, hx⟩)

/-- An attempt takes over the acknowledgements that were pending. -/
theorem quiet_arm (n : Nat) (m : SubscriptionManager) : m.Quiet (m.arm n) := by
  refine ⟨rfl, rfl, rfl, rfl, rfl, rfl, Nat.le_succ _, List.nil_subset _, ?_⟩
  intro x hx
  simp only [SubscriptionManager.carried, arm, nextId, Acknowledgements.empty, List.flatMap_append,
    List.flatMap_singleton, List.nil_append, List.mem_append] at hx ⊢
  exact hx.symm

theorem quiet_armNext? (h : m.armNext? = some m') : m.Quiet m' := by
  unfold armNext? at h
  dsimp only at h
  split at h
  · rw [← Option.some.inj h]
    exact (quiet_of_eq m ..).trans (quiet_arm _ m.claim.2)
  · cases h

theorem quiet_armUpTo (n : Nat) (m : SubscriptionManager) : m.Quiet (m.armUpTo n) := by
  induction n generalizing m with
  | zero => exact .refl m
  | succ n ih =>
    unfold armUpTo
    split
    · rename_i m' e
      exact (quiet_armNext? e).trans (ih m')
    · exact .refl m

theorem quiet_fillPipeline (m : SubscriptionManager) : m.Quiet m.fillPipeline := by
  unfold fillPipeline
  split
  · exact quiet_armUpTo _ m
  · exact .refl m

theorem quiet_startAttempt (a : Attempt) (m : SubscriptionManager) : m.Quiet (m.startAttempt a) :=
  quiet_of_eq m ..

theorem quiet_endBackoff (id : WorkId) (m : SubscriptionManager) : m.Quiet (m.endBackoff id) :=
  (quiet_dropAttempt id m).trans (quiet_fillPipeline _)

/-! ## Steps -/

/-- A step that is neither a turn of the processing worker nor one of a recovery. -/
inductive Outside (m : SubscriptionManager) : SubscriptionManager → Prop
  | quiet {m' : SubscriptionManager} : m.Quiet m' → Outside m m'
  /-- A Publish response has come. -/
  | answered (a : PublishAnswer) {m' : SubscriptionManager} :
    Quiet { m with processing := m.processing.submit a } m' → Outside m m'
  | created (id : SubscriptionId) (k : SubscriptionKey) {m' : SubscriptionManager} :
    Quiet { m with registry := m.registry.insert id k } m' → Outside m m'
  | deleted (id : SubscriptionId) {m' : SubscriptionManager} :
    Quiet { m with
      registry := m.registry.erase id
      cursors := m.cursors.erase id
      acknowledgements := m.acknowledgements.discard id } m' → Outside m m'
  /-- The delivery worker has taken a turn. -/
  | delivered {m' : SubscriptionManager} :
    Quiet { m with delivery := m.delivery.turn.2 } m' → Outside m m'
  | stopped : Outside m m.shutDown
  | abandoned : Outside m m.abandon

theorem Outside.refl (m : SubscriptionManager) : m.Outside m := .quiet (.refl m)

theorem quiet_completeAttempt_error (id : WorkId) (a : Attempt) (e : Error) (clock : Nat)
    (m : SubscriptionManager) : m.Quiet (m.completeAttempt id a (.error e) clock) := by
  unfold completeAttempt
  dsimp only
  split
  · exact (quiet_of_eq m ..).trans (quiet_dropAttempt id _)
  · split
    · exact (quiet_of_eq m ..).trans (quiet_dropAttempt id _)
    · split
      · exact ((quiet_of_eq m ..).trans (quiet_dropAttempt id _)).trans (quiet_fillPipeline _)
      · exact (quiet_of_eq m ..).trans (quiet_setAttempt id _ _)

theorem Settles.outside (h : m.Settles m') : m.Outside m' := by
  cases h with
  | notes h => exact .quiet h.quiet
  | created id k h => exact .created id k (h.quiet.trans (quiet_fillPipeline _))
  | modified h => exact .quiet (h.quiet.trans (quiet_fillPipeline _))
  | deleted id h => exact .deleted id (h.quiet.trans (quiet_fillPipeline _))

/-- The end of an operation leaves the queues alone. -/
theorem Settles.queues (h : m.Settles m') :
    m'.processing = m.processing ∧ m'.delivery = m.delivery := by
  cases h with
  | notes h => exact ⟨h.quiet.processing, h.quiet.delivery⟩
  | created id k h =>
    have hq := h.quiet.trans (quiet_fillPipeline _)
    exact ⟨hq.processing, hq.delivery⟩
  | modified h =>
    have hq := h.quiet.trans (quiet_fillPipeline _)
    exact ⟨hq.processing, hq.delivery⟩
  | deleted id h =>
    have hq := h.quiet.trans (quiet_fillPipeline _)
    exact ⟨hq.processing, hq.delivery⟩

/-- What an attempt does to the manager when it runs. -/
inductive AttemptTurn (id : WorkId) (m : SubscriptionManager) : SubscriptionManager → Prop
  /-- There is no such attempt, or its backoff is not over. -/
  | rests : AttemptTurn id m m
  | starts {a : Attempt} (phase : CallPhase) : m.attempt? id = some a → a.stage = .armed →
    AttemptTurn id m ((m.startAttempt a).setAttempt id (.publishing phase))
  /-- There is no session, or the manager is shut down. -/
  | fails {a : Attempt} (e : Error) (clock : Nat) : m.attempt? id = some a → a.stage = .armed →
    AttemptTurn id m ((m.startAttempt a).completeAttempt id a (.error e) clock)
  | waits {a : Attempt} {phase : CallPhase} (phase' : CallPhase) : m.attempt? id = some a →
    a.stage = .publishing phase → AttemptTurn id m (m.setAttempt id (.publishing phase'))
  | ends {a : Attempt} {phase : CallPhase} (outcome : Except Error PublishAnswer) (clock : Nat) :
    m.attempt? id = some a → a.stage = .publishing phase →
    AttemptTurn id m (m.completeAttempt id a outcome clock)
  | resumes {a : Attempt} {due : Nat} : m.attempt? id = some a → a.stage = .backingOff due →
    AttemptTurn id m (m.endBackoff id)

/-- An attempt is quiet unless it brings a response. -/
theorem AttemptTurn.cases {id : WorkId} (h : m.AttemptTurn id m') :
    m.Quiet m' ∨ ∃ a, Quiet { m with processing := m.processing.submit a } m' := by
  cases h with
  | rests => exact .inl (.refl m)
  | @starts a phase ha hs => exact .inl ((quiet_startAttempt a m).trans (quiet_setAttempt id _ _))
  | @fails a e clock ha hs =>
    exact .inl ((quiet_startAttempt a m).trans (quiet_completeAttempt_error id a e clock _))
  | waits phase' ha hs => exact .inl (quiet_setAttempt id _ m)
  | @ends a phase outcome clock ha hs =>
    cases outcome with
    | ok answer =>
      exact .inr ⟨answer,
        ((quiet_of_eq _ ..).trans (quiet_dropAttempt id _)).trans (quiet_fillPipeline _)⟩
    | error e => exact .inl (quiet_completeAttempt_error id a e clock m)
  | resumes ha hs => exact .inl (quiet_endBackoff id m)

theorem AttemptTurn.outside {id : WorkId} (h : m.AttemptTurn id m') : m.Outside m' := by
  rcases h.cases with h | ⟨a, h⟩
  · exact .quiet h
  · exact .answered a h

/-- A relation that holds of what the application does to the manager, apart from the effects of
operations, and of what is done when the client is let go. -/
structure CoversCommon (R : SubscriptionManager → SubscriptionManager → Prop) : Prop where
  refl (m : SubscriptionManager) : R m m
  begins (op : Operation) (clock : Nat) (m : SubscriptionManager) : R m (m.begin op clock).1
  stops (m : SubscriptionManager) : R m m.shutDown
  abandons (m : SubscriptionManager) : R m m.abandon
  listens (l : Listener) (m : SubscriptionManager) : R m (m.addListener l)
  attaches (k : ItemKey) (callbacks : Callbacks) (m : SubscriptionManager) :
    R m (m.setCallbacks k callbacks)

/-- The relation holds of the effects of operations and of what the delivery worker does as well. -/
structure Covers (R : SubscriptionManager → SubscriptionManager → Prop) : Prop
    extends CoversCommon R where
  finishes (clock : Nat) (op : PendingOperation) (outcome : Except Error op.service.Answer)
    (m : SubscriptionManager) : R m (m.finish clock op outcome).1
  delivers (m : SubscriptionManager) : R m m.deliverTurn.1

theorem covers_outside : Covers Outside where
  refl := .refl
  begins op clock m := .quiet (notes_begin op clock m).quiet
  finishes clock op outcome m := (settles_finish clock op outcome m).outside
  delivers m := .delivered (notes_deliverTurn m).quiet
  stops _ := .stopped
  abandons _ := .abandoned
  listens _ m := .quiet (quiet_of_eq m ..)
  attaches _ _ m := .quiet (quiet_of_eq m ..)

end SubscriptionManager

namespace Client

open SubscriptionManager

/-- From `c` to `c'` the manager stays as it is, and no call comes up. -/
structure Keeps (c c' : Client) : Prop where
  calls : ∀ p ∈ c'.calls, ∃ q ∈ c.calls, q.2.job = p.2.job
  manager : c'.manager = c.manager

/-- From `c` to `c'` the manager takes a step of `R`, and no call comes up. -/
structure Moves (R : SubscriptionManager → SubscriptionManager → Prop) (c c' : Client) : Prop where
  calls : ∀ p ∈ c'.calls, ∃ q ∈ c.calls, q.2.job = p.2.job
  manager : ∀ m, c.manager = some m → ∃ m', c'.manager = some m' ∧ R m m'

variable {c c' c'' : Client} {R : SubscriptionManager → SubscriptionManager → Prop}

theorem Keeps.of_eq (hc : c'.calls = c.calls) (hm : c'.manager = c.manager) : c.Keeps c' :=
  ⟨fun p hp => ⟨p, hc ▸ hp, rfl⟩, hm⟩

theorem Keeps.trans (h : c.Keeps c') (h' : c'.Keeps c'') : c.Keeps c'' := by
  refine ⟨fun p hp => ?_, h'.manager.trans h.manager⟩
  obtain ⟨q, hq, e⟩ := h'.calls p hp
  obtain ⟨r, hr, e'⟩ := h.calls q hq
  exact ⟨r, hr, e'.trans e⟩

theorem Keeps.rests (h : c.Keeps c') (hR : ∀ m, R m m) : c.Moves R c' :=
  ⟨h.calls, fun m hm => ⟨m, h.manager.trans hm, hR m⟩⟩

theorem Moves.mono {S : SubscriptionManager → SubscriptionManager → Prop} (h : c.Moves R c')
    (hR : ∀ {m m'}, R m m' → S m m') : c.Moves S c' := by
  refine ⟨h.calls, fun m hm => ?_⟩
  obtain ⟨m', hm', hr⟩ := h.manager m hm
  exact ⟨m', hm', hR hr⟩

theorem Moves.keeps (h : c.Moves R c') (h' : c'.Keeps c'') : c.Moves R c'' := by
  refine ⟨fun p hp => ?_, fun m hm => ?_⟩
  · obtain ⟨q, hq, e⟩ := h'.calls p hp
    obtain ⟨r, hr, e'⟩ := h.calls q hq
    exact ⟨r, hr, e'.trans e⟩
  · obtain ⟨m', hm', ho⟩ := h.manager m hm
    exact ⟨m', h'.manager.trans hm', ho⟩

theorem Keeps.moves (h : c.Keeps c') (h' : c'.Moves R c'') : c.Moves R c'' := by
  refine ⟨fun p hp => ?_, fun m hm => h'.manager m (h.manager.trans hm)⟩
  obtain ⟨q, hq, e⟩ := h'.calls p hp
  obtain ⟨r, hr, e'⟩ := h.calls q hq
  exact ⟨r, hr, e'.trans e⟩

theorem keeps_service (service : ServiceClient) (c : Client) : c.Keeps { c with service } :=
  .of_eq rfl rfl

theorem keeps_withService (f : ServiceClient → ServiceClient) (c : Client) :
    c.Keeps (c.withService f) :=
  .of_eq rfl rfl

theorem keeps_setCall (id : CallId) (stage : CallStage) (c : Client) :
    c.Keeps (c.setCall id stage) := by
  refine ⟨fun p hp => ?_, rfl⟩
  obtain ⟨q, hq, rfl⟩ := List.mem_map.1 hp
  refine ⟨q, hq, ?_⟩
  split <;> rfl

theorem keeps_finish (id : CallId) (result : CallResult) (c : Client) :
    c.Keeps (c.finish id result) :=
  ⟨fun p hp => ⟨p, (List.mem_filter.1 hp).1, rfl⟩, rfl⟩

theorem moves_withManager {f : SubscriptionManager → SubscriptionManager}
    (hf : ∀ m, R m (f m)) (c : Client) : c.Moves R (c.withManager f) :=
  ⟨fun p hp => ⟨p, hp, rfl⟩, fun m h => ⟨f m, by rw [withManager, h, Option.map_some], hf m⟩⟩

theorem moves_manager {m m' : SubscriptionManager} (hm : c.manager = some m) (h : R m m') :
    c.Moves R { c with manager := some m' } :=
  ⟨fun p hp => ⟨p, hp, rfl⟩, fun _ hm₁ => ⟨m', rfl, by rwa [← Option.some.inj (hm.symm.trans hm₁)]⟩⟩

/-! ## Calls -/

theorem keeps_startCall (id : CallId) (j : JobCall) (c : Client) :
    c.Keeps (c.startCall id j).1 := by
  unfold startCall
  dsimp only
  split
  · exact (keeps_service _ c).trans (keeps_finish ..)
  · exact (keeps_service _ c).trans (keeps_setCall ..)

theorem keeps_advanceCall (id : CallId) (j : JobCall) (phase : CallPhase) (c : Client) :
    c.Keeps (c.advanceCall id j phase).1 := by
  unfold advanceCall
  dsimp only
  split
  · exact (keeps_service _ c).trans (keeps_setCall ..)
  · exact (keeps_service _ c).trans (keeps_finish ..)

/-- Only a call that connects starts the manager. -/
theorem keeps_learn (id : CallId) {job : Job} (hj : job ≠ .connect) (news : SessionNews)
    (c : Client) : c.Keeps (c.learn id job news) := by
  unfold learn
  split
  · exact keeps_setCall ..
  · split
    · exact absurd rfl hj
    · exact absurd rfl hj
    · exact keeps_finish ..

theorem keeps_awaitClose (id : CallId) (job : Job) (c : Client) :
    c.Keeps (c.awaitClose id job) := by
  unfold awaitClose
  split
  · exact keeps_setCall ..
  · split
    · exact keeps_finish ..
    · exact keeps_finish ..

theorem keeps_startClose (id : CallId) (job : Job) (c : Client) :
    c.Keeps (c.startClose id job) :=
  (keeps_withService _ c).trans (keeps_awaitClose id job _)

/-! ## Operations -/

/-- An operation that fails has no effect. -/
theorem keeps_endOperation_error (id : CallId) (op : PendingOperation) (e : Error) (c : Client) :
    c.Keeps (c.endOperation id op (.error e)) := by
  unfold endOperation
  split
  · exact .of_eq rfl rfl
  · rename_i m hm
    have h : c.Keeps { c with manager := some m } := .of_eq rfl hm.symm
    exact h.trans (keeps_finish id (.operated (.error e)) _)

theorem keeps_advanceSending (id : CallId) (s : Service) (await : Await) (c : Client) :
    c.Keeps (c.advanceSending id s await) := by
  unfold advanceSending
  split
  · exact .of_eq rfl rfl
  · exact (keeps_withService _ c).trans (keeps_finish id _ _)

section

variable (hR : CoversCommon R)
include hR

theorem moves_startDisconnect (id : CallId) (managed : Bool) (c : Client) :
    c.Moves R (c.startDisconnect id managed) := by
  unfold startDisconnect
  have h : c.Moves R (if managed then c.withManager (·.shutDown) else c) := by
    split
    · exact moves_withManager hR.stops c
    · exact (Keeps.of_eq rfl rfl).rests hR.refl
  exact (h.keeps (keeps_withService _ _)).keeps (keeps_startClose id _ _)

theorem moves_startOperation (id : CallId) (op : Operation) (c : Client) :
    c.Moves R (c.startOperation id op).1 := by
  unfold startOperation
  split
  · exact (Keeps.of_eq rfl rfl).rests hR.refl
  · rename_i m hm
    have hb := hR.begins op c.service.clock m
    split
    · rename_i m' outcome e
      rw [e] at hb
      exact (moves_manager hm hb).keeps (keeps_finish ..)
    · rename_i m' op' e
      rw [e] at hb
      have h := moves_manager hm hb
      dsimp only
      split
      · exact (h.keeps (keeps_service _ _)).keeps (keeps_endOperation_error id op' _ _)
      · exact (h.keeps (keeps_service _ _)).keeps (keeps_setCall ..)

theorem moves_startJob (id : CallId) {job : Job} (hj : job ≠ .connect) (c : Client) :
    c.Moves R (c.startJob id job).1 := by
  unfold startJob
  split
  · exact (keeps_startCall ..).rests hR.refl
  · split
    · exact (keeps_startClose id .close c).rests hR.refl
    · exact moves_startDisconnect hR ..
    · exact ((keeps_service _ c).trans (keeps_setCall ..)).rests hR.refl
    · exact moves_startOperation hR ..
    · exact ((keeps_service _ c).trans (keeps_learn id hj _ _)).rests hR.refl

/-- A call of no operation, or one that only begins. -/
theorem moves_pollCall_of_ne (id : CallId) (hc : c.Settled)
    (hn : ∀ job op phase, c.calls.lookup id ≠ some ⟨job, .operating op phase⟩) :
    c.Moves R (c.pollCall id).1 := by
  unfold pollCall
  split
  · exact (Keeps.of_eq rfl rfl).rests hR.refl
  · rename_i job stage e
    have hj : job ≠ .connect := by
      obtain ⟨l₁, l₂, h, -⟩ := List.lookup_eq_some_iff.1 e
      exact hc (id, ⟨job, stage⟩) (by rw [h]; exact List.mem_append_right _ List.mem_cons_self)
    split
    · exact moves_startJob hR id hj c
    · exact ((keeps_service _ c).trans (keeps_learn id hj _ _)).rests hR.refl
    · exact (keeps_awaitClose ..).rests hR.refl
    · split
      · exact (keeps_advanceCall ..).rests hR.refl
      · exact (Keeps.of_eq rfl rfl).rests hR.refl
    · exact absurd e (hn _ _ _)
    · split
      · exact (keeps_advanceSending ..).rests hR.refl
      · exact (Keeps.of_eq rfl rfl).rests hR.refl

end

theorem pollCall_of_operating {id : CallId} {job : Job} {op : PendingOperation} {phase : CallPhase}
    (h : c.calls.lookup id = some ⟨job, .operating op phase⟩) :
    c.pollCall id = c.advanceOperation id op phase := by
  rw [pollCall, h]

section

variable (hR : CoversCommon R) (hF : ∀ clock op outcome m, R m (m.finish clock op outcome).1)
include hR hF

theorem moves_endOperation (id : CallId) (op : PendingOperation)
    (outcome : Except Error op.service.Answer) (c : Client) :
    c.Moves R (c.endOperation id op outcome) := by
  unfold endOperation
  split
  · exact (Keeps.of_eq rfl rfl).rests hR.refl
  · rename_i m hm
    exact (moves_manager hm (hF ..)).keeps (keeps_finish ..)

theorem moves_advanceOperation (id : CallId) (op : PendingOperation) (phase : CallPhase)
    (c : Client) : c.Moves R (c.advanceOperation id op phase).1 := by
  unfold advanceOperation
  split
  · exact (Keeps.of_eq rfl rfl).rests hR.refl
  · dsimp only
    split
    · exact ((keeps_service _ c).trans (keeps_setCall ..)).rests hR.refl
    · exact (keeps_service _ c).moves (moves_endOperation hR hF ..)

end

/-! ## Attempts -/

theorem manager_withManager {m : SubscriptionManager} (hm : c.manager = some m)
    (f : SubscriptionManager → SubscriptionManager) :
    (c.withManager f).manager = some (f m) := by
  rw [withManager, hm, Option.map_some]

theorem calls_suspendAttempt (id : WorkId) (a : Attempt) (phase : CallPhase)
    (posted : Option Posted) (m : SubscriptionManager) (c : Client) :
    (c.suspendAttempt id a phase posted m).1.calls = c.calls := by
  unfold suspendAttempt
  split <;> rfl

/-- An attempt that has to wait does so, or gives up. -/
theorem manager_suspendAttempt {m : SubscriptionManager} (hm : c.manager = some m) (id : WorkId)
    (a : Attempt) (phase : CallPhase) (posted : Option Posted) (n : SubscriptionManager) :
    (c.suspendAttempt id a phase posted n).1.manager =
        some (m.setAttempt id (.publishing phase)) ∨
      ∃ e clock, (c.suspendAttempt id a phase posted n).1.manager =
        some (m.completeAttempt id a (.error e) clock) := by
  unfold suspendAttempt
  split
  · exact .inl (manager_withManager hm _)
  · exact .inr ⟨_, _, manager_withManager (by exact hm) _⟩

theorem turns_startAttempt {id : WorkId} {a : Attempt} (answerFirst : Bool)
    {m : SubscriptionManager} (hm : c.manager = some m) (ha : m.attempt? id = some a)
    (hs : a.stage = .armed) :
    c.Moves (AttemptTurn id) (c.startAttempt id a answerFirst m).1 := by
  have h := manager_withManager hm (·.startAttempt a)
  unfold startAttempt
  dsimp only
  refine ⟨fun p hp => ⟨p, ?_, rfl⟩, fun m₁ hm₁ => ?_⟩
  · split at hp
    · split at hp
      · exact hp
      · rwa [calls_suspendAttempt] at hp
    · exact hp
  · obtain rfl := Option.some.inj (hm.symm.trans hm₁)
    split
    · split
      · exact ⟨_, manager_withManager h _, .fails _ _ ha hs⟩
      · refine (manager_suspendAttempt ?_ ..).elim (fun e => ⟨_, e, .starts _ ha hs⟩)
          fun ⟨_, _, e⟩ => ⟨_, e, .fails _ _ ha hs⟩
        exact h
    · exact ⟨_, manager_withManager h _, .fails _ _ ha hs⟩

theorem turns_advanceAttempt {id : WorkId} {a : Attempt} {m : SubscriptionManager}
    {phase : CallPhase} (answerFirst : Bool) (hm : c.manager = some m)
    (ha : m.attempt? id = some a) (hs : a.stage = .publishing phase) :
    c.Moves (AttemptTurn id) (c.advanceAttempt id a phase answerFirst m).1 := by
  unfold advanceAttempt
  dsimp only
  refine ⟨fun p hp => ⟨p, ?_, rfl⟩, fun m₁ hm₁ => ?_⟩
  · split at hp
    · split at hp
      · rwa [calls_suspendAttempt] at hp
      · exact hp
    · exact hp
  · obtain rfl := Option.some.inj (hm.symm.trans hm₁)
    split
    · split
      · refine (manager_suspendAttempt ?_ ..).elim (fun e => ⟨_, e, .waits _ ha hs⟩)
          fun ⟨_, _, e⟩ => ⟨_, e, .ends _ _ ha hs⟩
        exact hm
      · exact ⟨_, manager_withManager (by exact hm) _, .ends _ _ ha hs⟩
    · exact ⟨_, manager_withManager (by exact hm) _, .ends _ _ ha hs⟩

theorem turns_pollAttempt (id : WorkId) (answerFirst : Bool) (c : Client) :
    c.Moves (AttemptTurn id) (c.pollAttempt id answerFirst).1 := by
  have h : c.Moves (AttemptTurn id) c := (Keeps.of_eq rfl rfl).rests fun _ => .rests
  unfold pollAttempt
  split
  · exact h
  · rename_i m hm
    split
    · exact h
    · rename_i a ha
      split
      · rename_i hs
        exact turns_startAttempt answerFirst hm ha hs
      · rename_i phase hs
        exact turns_advanceAttempt answerFirst hm ha hs
      · rename_i due hs
        dsimp only
        split
        · refine ⟨fun p hp => ⟨p, hp, rfl⟩, fun m₁ hm₁ => ?_⟩
          obtain rfl := Option.some.inj (hm.symm.trans hm₁)
          exact ⟨_, manager_withManager hm _, .resumes ha hs⟩
        · exact h

/-! ## Sessions and letting go -/

theorem keeps_runCommands (n : Nat) (c : Client) : c.Keeps (c.runCommands n) := by
  induction n generalizing c with
  | zero => exact .of_eq rfl rfl
  | succ n ih =>
    unfold runCommands
    split
    · exact .of_eq rfl rfl
    · dsimp only
      refine Keeps.trans ?_ (ih _)
      split <;> exact .of_eq rfl rfl

theorem keeps_pollSessionTask (id : CallId) (c : Client) : c.Keeps (c.pollSessionTask id).1 := by
  unfold pollSessionTask
  split
  · exact .of_eq rfl rfl
  · dsimp only
    split <;> exact .of_eq rfl rfl

theorem keeps_requestShutdown (b : Bool) (c : Client) :
    c.Keeps (if b then c.withService fun s => { s with driver := s.driver.requestShutdown }
      else c) := by
  split
  · exact keeps_withService _ c
  · exact .of_eq rfl rfl

theorem moves_reclaim (hR : CoversCommon R) (c : Client) : c.Moves R c.reclaim := by
  unfold reclaim
  split
  · refine Moves.keeps ?_ (keeps_requestShutdown _ _)
    split
    · exact (Keeps.of_eq rfl rfl).rests hR.refl
    · exact moves_withManager hR.abandons c
  · exact (Keeps.of_eq rfl rfl).rests hR.refl

/-! ## Actions -/

theorem Moves.settled (h : c.Moves R c') (hc : c.Settled) : c'.Settled := by
  intro p hp
  obtain ⟨q, hq, e⟩ := h.calls p hp
  exact e ▸ hc q hq

/-- What every action does to the manager that is neither a turn of the processing worker nor one of
a recovery or of an attempt. The relation has to hold of turns of the delivery worker and of
operations that go on if the action is one. -/
theorem act_moves_common (hR : CoversCommon R) (hc : c.Settled) {a : Action} (ha : ¬ a.Sequences)
    (hn : ∀ id answerFirst, a ≠ .run (.attempt id answerFirst))
    (hd : a = .run .delivery → ∀ m, R m m.deliverTurn.1)
    (ho : ∀ {id job op phase}, a = .run (.call id) →
      c.calls.lookup id = some ⟨job, .operating op phase⟩ →
      c.Moves R (c.advanceOperation id op phase).1) :
    (c.act a).1.Settled ∧
      ∀ m, c.manager = some m → ∃ m', (c.act a).1.manager = some m' ∧ R m m' := by
  suffices h : c.Moves R (c.act a).1 ∨ ∃ job manages, a = .call job manages by
    rcases h with h | ⟨job, manages, rfl⟩
    · exact ⟨h.settled hc, h.manager⟩
    · refine ⟨fun p hp => ?_, fun m hm => ⟨m, hm, hR.refl m⟩⟩
      rcases List.mem_append.1 hp with hp | hp
      · exact hc p hp
      · rw [List.mem_singleton.1 hp]
        exact manages
  cases a with
  | call job manages => exact .inr ⟨job, manages, rfl⟩
  | run t =>
    refine .inl ?_
    cases t with
    | driver => exact (keeps_runCommands _ c).rests hR.refl
    | processing => exact absurd trivial ha
    | delivery => exact moves_withManager (hd rfl) c
    | session id => exact (keeps_pollSessionTask id c).rests hR.refl
    | call id =>
      by_cases h : ∃ job op phase, c.calls.lookup id = some ⟨job, .operating op phase⟩
      · obtain ⟨job, op, phase, h⟩ := h
        have hmoves := ho rfl h
        rwa [← pollCall_of_operating h] at hmoves
      · exact moves_pollCall_of_ne hR id hc fun job op phase e => h ⟨job, op, phase, e⟩
    | attempt id answerFirst => exact absurd rfl (hn id answerFirst)
    | recovery id => exact absurd trivial ha
  | reclaim => exact .inl (moves_reclaim hR c)
  | release =>
    have h : c.Keeps { c with released := true } := .of_eq rfl rfl
    exact .inl (h.moves (moves_reclaim hR _))
  | reply | elapse | inject | invalidate | takeHandle =>
    refine .inl (Keeps.rests ?_ hR.refl)
    exact .of_eq rfl rfl
  | shutDown => exact .inl (moves_withManager hR.stops c)
  | listen l => exact .inl (moves_withManager (hR.listens l) c)
  | attach k callbacks => exact .inl (moves_withManager (hR.attaches k callbacks) c)

/-- What every action does to the manager that is neither a turn of the processing worker nor one of
a recovery or of an attempt. -/
theorem act_moves_of_ne (hR : Covers R) (hc : c.Settled) {a : Action} (ha : ¬ a.Sequences)
    (hn : ∀ id answerFirst, a ≠ .run (.attempt id answerFirst)) :
    (c.act a).1.Settled ∧
      ∀ m, c.manager = some m → ∃ m', (c.act a).1.manager = some m' ∧ R m m' :=
  act_moves_common hR.toCoversCommon hc ha hn (fun _ => hR.delivers)
    fun _ _ => moves_advanceOperation hR.toCoversCommon hR.finishes ..

/-- What every action does to the manager that is neither a turn of the processing worker nor one of
a recovery. -/
theorem act_moves (hR : Covers R) (hA : ∀ {id m m'}, AttemptTurn id m m' → R m m')
    (hc : c.Settled) {a : Action} (ha : ¬ a.Sequences) :
    (c.act a).1.Settled ∧
      ∀ m, c.manager = some m → ∃ m', (c.act a).1.manager = some m' ∧ R m m' := by
  by_cases hn : ∃ id answerFirst, a = .run (.attempt id answerFirst)
  · obtain ⟨id, answerFirst, rfl⟩ := hn
    have h : c.Moves R (c.pollAttempt id answerFirst).1 :=
      (turns_pollAttempt id answerFirst c).mono hA
    exact ⟨h.settled hc, h.manager⟩
  · exact act_moves_of_ne hR hc ha fun id answerFirst h => hn ⟨id, answerFirst, h⟩

/-- Every other action is a step from outside. -/
theorem act_outside (hc : c.Settled) {a : Action} (ha : ¬ a.Sequences) :
    (c.act a).1.Settled ∧
      ∀ m, c.manager = some m → ∃ m', (c.act a).1.manager = some m' ∧ m.Outside m' :=
  act_moves covers_outside AttemptTurn.outside hc ha

end Client

end OpcUa
