import OpcUa.Proofs.Reissue

/-!
# The responses that arrive

A Publish attempt that ends with a response puts it at the end of the processing queue, and nothing
else does. The responses are evaluated in the order in which they have arrived. One that reveals a
gap is evaluated once more after its recovery, and does not reveal a gap again.

* `Client.arrived`: the responses that Publish attempts bring in a run.
* `Client.Ready.inflow`: they are what is put on the processing queue from outside.
* `InTurn`: responses are evaluated one after the other.
* `Client.Begins.inTurn`: the responses of a run are.
* `Client.Begins.pending_append_arrived`: no response is lost or evaluated to an end twice.
* `Client.inbox`: the responses of one subscription that a run has to do with.
-/

namespace OpcUa

open SequenceNumber (previous evaluate)

/-! ## What arrives -/

namespace SubscriptionManager

variable {m m' : SubscriptionManager} {id : WorkId}

theorem processing_completeAttempt (id : WorkId) (a : Attempt) (answer : PublishAnswer)
    (clock : Nat) (m : SubscriptionManager) :
    (m.completeAttempt id a (.ok answer) clock).processing = m.processing.submit answer :=
  ((quiet_dropAttempt id _).trans (quiet_fillPipeline _)).processing

/-- An attempt that does not wait for a response puts nothing on the processing queue. -/
theorem AttemptTurn.processing (h : m.AttemptTurn id m')
    (hs : ∀ a phase, m.attempt? id = some a → a.stage ≠ .publishing phase) :
    m'.processing = m.processing := by
  cases h with
  | rests => rfl
  | @starts a phase ha hst => rfl
  | @fails a e clock ha hst =>
    exact ((quiet_startAttempt a m).trans (quiet_completeAttempt_error id a e clock _)).processing
  | waits phase' ha hst => exact absurd hst (hs _ _ ha)
  | ends outcome clock ha hst => exact absurd hst (hs _ _ ha)
  | resumes ha hst => exact (quiet_endBackoff id m).processing

/-- What is not done by an attempt leaves the processing queue alone, unless it shuts the manager
down. -/
theorem covers_processing :
    Covers fun m m' => m'.running = true → m'.processing = m.processing where
  refl _ _ := rfl
  begins op clock m _ := (notes_begin op clock m).quiet.processing
  finishes clock op outcome m _ := (settles_finish clock op outcome m).queues.1
  delivers m _ := (notes_deliverTurn m).quiet.processing
  stops m h := by
    rw [running_shutDown] at h
    cases h
  abandons m h := by
    rw [running_abandon] at h
    cases h
  listens _ _ _ := rfl
  attaches _ _ _ _ := rfl

end SubscriptionManager

namespace Client

open SubscriptionManager

variable {c : Client} {a : Action}

/-- The response with which a Publish request ends when its attempt goes on. -/
def response? (t : Attempt) (answerFirst : Bool) (c : Client) : Option PublishAnswer :=
  match t.stage with
  | .publishing phase =>
    if c.managed.running || answerFirst then
      match (c.service.advance t.call phase).2 with
      | .done (.ok answer) => some answer
      | _ => none
    else none
  | _ => none

/-- The response that an action brings. -/
def arrives (a : Action) (c : Client) : List PublishAnswer :=
  match a with
  | .run (.attempt id answerFirst) =>
    ((c.managed.attempt? id).bind (c.response? · answerFirst)).toList
  | _ => []

/-- The responses that a run brings, in the order in which they arrive. -/
def arrived : List Action → Client → List PublishAnswer
  | [], _ => []
  | a :: as, c => c.arrives a ++ arrived as (c.act a).1

@[simp] theorem arrived_nil (c : Client) : c.arrived [] = [] := rfl

theorem arrived_append (as bs : List Action) (c : Client) :
    c.arrived (as ++ bs) = c.arrived as ++ (c.after as).arrived bs := by
  induction as generalizing c with
  | nil => rfl
  | cons a as ih => rw [List.cons_append, arrived, arrived, ih, List.append_assoc, after_cons]

theorem arrived_snoc (as : List Action) (a : Action) (c : Client) :
    c.arrived (as ++ [a]) = c.arrived as ++ (c.after as).arrives a := by
  rw [arrived_append, arrived, arrived_nil, List.append_nil]

theorem arrives_of_ne (h : ∀ id answerFirst, a ≠ .run (.attempt id answerFirst)) :
    c.arrives a = [] := by
  unfold arrives
  split
  · rename_i id answerFirst
    exact absurd rfl (h id answerFirst)
  · rfl

theorem managed_withManager {m : SubscriptionManager} (hm : c.manager = some m)
    (f : SubscriptionManager → SubscriptionManager) : (c.withManager f).managed = f m :=
  managed_of_eq (manager_withManager hm f)

/-- A response that arrives is put at the end of the processing queue. -/
theorem processing_pollAttempt {m : SubscriptionManager} (hm : c.manager = some m) (id : WorkId)
    (answerFirst : Bool) :
    (c.act (.run (.attempt id answerFirst))).1.managed.processing =
      (c.arrives (.run (.attempt id answerFirst))).foldl (fun q x => q.submit x)
        m.processing := by
  have hc := managed_of_eq hm
  unfold arrives
  dsimp only
  rw [hc]
  by_cases hw : ∃ t phase, m.attempt? id = some t ∧ t.stage = .publishing phase
  · obtain ⟨t, phase, ht, hs⟩ := hw
    have hp : (c.act (.run (.attempt id answerFirst))).1 =
        (c.advanceAttempt id t phase answerFirst m).1 := by
      show (c.pollAttempt id answerFirst).1 = _
      unfold pollAttempt
      rw [hm]
      dsimp only
      rw [ht]
      dsimp only
      rw [hs]
    rw [hp, ht, Option.bind_some, response?, hs]
    dsimp only
    rw [hc]
    unfold advanceAttempt
    split
    · rcases he : c.service.advance t.call phase with ⟨service, progress⟩
      have hs : ({ c with service } : Client).manager = some m := hm
      cases progress with
      | pending phase' posted =>
        show (({ c with service } : Client).suspendAttempt id t phase' posted m).1.managed.processing
          = m.processing
        rcases manager_suspendAttempt hs id t phase' posted m with e | ⟨e, clock, hm'⟩
        · rw [managed_of_eq e]
          rfl
        · rw [managed_of_eq hm']
          exact (quiet_completeAttempt_error id t e clock m).processing
      | done outcome =>
        show (withManager (fun m => m.completeAttempt id t outcome service.clock)
          { c with service }).managed.processing = _
        rw [managed_withManager hs]
        cases outcome with
        | ok answer => exact processing_completeAttempt id t answer _ m
        | error e => exact (quiet_completeAttempt_error id t e _ m).processing
    · rw [cancelAttempt, completeAttempt, managed_withManager (by exact hm)]
      exact (quiet_completeAttempt_error id t _ _ m).processing
  · have hs : ∀ t phase, m.attempt? id = some t → t.stage ≠ .publishing phase :=
      fun t phase ht hs => hw ⟨t, phase, ht, hs⟩
    have hnone : (m.attempt? id).bind (c.response? · answerFirst) = none := by
      cases ht : m.attempt? id with
      | none => rfl
      | some t =>
        rw [Option.bind_some, response?]
        split
        · rename_i phase hst
          exact absurd hst (hs t phase ht)
        · rfl
    obtain ⟨m', hm', hturn⟩ := (turns_pollAttempt id answerFirst c).manager m hm
    have ha : (c.act (.run (.attempt id answerFirst))).1.managed = m' := managed_of_eq hm'
    rw [ha, hnone]
    exact hturn.processing hs

/-- From outside the responses that arrive are put on the processing queue, and nothing else. -/
theorem Ready.inflow (h : c.Ready) (ha : ¬ a.Sequences)
    (hr : (c.act a).1.managed.running = true) :
    (c.act a).1.managed.processing =
      (c.arrives a).foldl (fun q x => q.submit x) c.managed.processing := by
  by_cases hn : ∃ id answerFirst, a = .run (.attempt id answerFirst)
  · obtain ⟨id, answerFirst, rfl⟩ := hn
    exact processing_pollAttempt h.manager id answerFirst
  · have hne : ∀ id answerFirst, a ≠ .run (.attempt id answerFirst) :=
      fun id answerFirst e => hn ⟨id, answerFirst, e⟩
    obtain ⟨-, hm⟩ := act_moves_of_ne covers_processing h.settled ha hne
    obtain ⟨m', hm', hq⟩ := hm _ h.manager
    rw [managed_of_eq hm'] at hr ⊢
    rw [arrives_of_ne hne]
    exact hq hr

theorem arrives_of_sequences (ha : a.Sequences) : c.arrives a = [] :=
  arrives_of_ne fun _ _ e => by rw [e] at ha; exact ha

/-- A worker or a recovery that evaluates nothing leaves what is pending alone. -/
theorem Ready.tasks_of_sequences (h : c.Ready) (ha : a.Sequences)
    (he : ∀ x v, .evaluates x v ∉ c.events a) :
    (c.act a).1.managed.processing.tasks = c.managed.processing.tasks := by
  cases a with
  | run t =>
    cases t with
    | processing =>
      rw [managed_processTurn h.manager, processTurn]
      have hsame (hn : ∀ x yields, c.managed.processing.turn.1 ≠ .run x yields) :
          c.managed.processing.turn.2.tasks = c.managed.processing.tasks :=
        (WorkQueue.turn_same hn).1
      have hnone : ∀ x yields, c.managed.processing.turn.1 ≠ .run x yields := by
        intro x yields ht
        have hmem : .evaluates x (c.managed.verdict? x) ∈ c.evaluated (.run .processing) := by
          unfold evaluated
          dsimp only
          rw [ht]
          exact List.mem_singleton_self _
        exact he x _ (List.mem_append_left _ (List.mem_append_left _ (List.mem_append_left _ hmem)))
      have hq := hsame hnone
      rcases ht : c.managed.processing.turn with ⟨x, q⟩
      rw [ht] at hq hnone
      cases x with
      | run x yields => exact absurd rfl (hnone x yields)
      | again => exact hq
      | sleeps => exact hq
      | stops => exact hq
    | recovery id =>
      cases hr : c.managed.recovery? id with
      | none =>
        have hp : (c.act (.run (.recovery id))).1 = c := by
          show (c.pollRecovery id).1 = c
          unfold pollRecovery
          rw [h.manager]
          dsimp only
          rw [hr]
        rw [hp]
      | some r =>
        obtain ⟨stats, hm⟩ := foldl_perform_eq r.subscription (c.recoveryLog id) c.managed
        rcases (recounts_pollRecovery h.manager hr).course with ⟨stage, -, hm'⟩ | ⟨-, hm'⟩
        · have ha : (c.act (.run (.recovery id))).1.managed = _ := managed_of_eq hm'
          rw [ha, hm]
          rfl
        · have ha : (c.act (.run (.recovery id))).1.managed = _ := managed_of_eq hm'
          rw [ha, endRecovery_eq, hm]
          exact WorkQueue.tasks_resume _
    | driver | delivery | session | call | attempt => exact ha.elim
  | call | reclaim | release | reply | elapse | inject | invalidate | takeHandle | shutDown
  | listen | attach => exact ha.elim

/-- What is pending after an action that evaluates nothing. -/
theorem Ready.tasks (h : c.Ready) (a : Action) (hr : (c.act a).1.managed.running = true)
    (he : ∀ x v, .evaluates x v ∉ c.events a) :
    (c.act a).1.managed.processing.tasks = c.managed.processing.tasks ++ c.arrives a := by
  by_cases ha : a.Sequences
  · rw [arrives_of_sequences ha, List.append_nil, h.tasks_of_sequences ha he]
  · have hopen : c.managed.processing.closed = false := by
      rw [h.orderly.closed, (h.step a).2.2.running h.orderly hr]
      rfl
    rw [h.inflow ha hr, WorkQueue.tasks_foldl_submit hopen]

theorem arrives_of_evaluates {a : Action} {x : PublishAnswer}
    {v : Option SequenceNumber.Verdict} (h : .evaluates x v ∈ c.events a) : c.arrives a = [] := by
  obtain ⟨rfl, -⟩ := of_evaluates_mem h
  exact arrives_of_sequences trivial

end Client

/-! ## One after the other -/

/-- The response that is evaluated, and the verdict on it. -/
def SequencerEvent.judgement? :
    SequencerEvent → Option (PublishAnswer × Option SequenceNumber.Verdict)
  | evaluates a v => some (a, v)
  | _ => none

/-- The responses that are evaluated in a history, with the verdicts on them. -/
def judged (h : List SequencerEvent) : List (PublishAnswer × Option SequenceNumber.Verdict) :=
  h.filterMap (·.judgement?)

theorem judged_append (h h' : List SequencerEvent) : judged (h ++ h') = judged h ++ judged h' :=
  List.filterMap_append

theorem judged_run {w : WorkId} {s : SubscriptionId} {log : List RecoveryEvent}
    {requests : List Request} {deliveries : List Delivery} :
    judged (log.map (.recovers w s) ++ requests.map (.posts w) ++ deliveries.map .hands) = [] := by
  rw [judged_append, judged_append, judged, judged, judged, filterMap_map_none (fun _ => rfl),
    filterMap_map_none (fun _ => rfl), filterMap_map_none (fun _ => rfl)]
  rfl

/-- The responses that are evaluated without revealing a gap. -/
def settledOf (judged : List (PublishAnswer × Option SequenceNumber.Verdict)) :
    List PublishAnswer :=
  judged.filterMap fun
    | (_, some (.gap _)) => none
    | (a, _) => some a

theorem settledOf_append (js js' : List (PublishAnswer × Option SequenceNumber.Verdict)) :
    settledOf (js ++ js') = settledOf js ++ settledOf js' :=
  List.filterMap_append

theorem settledOf_gap (a : PublishAnswer) (n : SequenceNumber)
    (judged : List (PublishAnswer × Option SequenceNumber.Verdict)) :
    settledOf ((a, some (.gap n)) :: judged) = settledOf judged := rfl

theorem settledOf_cons {a : PublishAnswer} {v : Option SequenceNumber.Verdict}
    (hv : ∀ n, v ≠ some (.gap n))
    (judged : List (PublishAnswer × Option SequenceNumber.Verdict)) :
    settledOf ((a, v) :: judged) = a :: settledOf judged := by
  cases v with
  | none => rfl
  | some v =>
    cases v with
    | accept => rfl
    | gap n => exact absurd rfl (hv n)

/-- Responses are evaluated one after the other, and `pending` are left. A response that reveals a
gap is evaluated a second time, and does not reveal a gap again. `again`: the first of those that
are left has revealed one. -/
inductive InTurn : List PublishAnswer → List (PublishAnswer × Option SequenceNumber.Verdict) →
    List PublishAnswer → Option PublishAnswer → Prop
  | waits (pending : List PublishAnswer) : InTurn pending [] pending none
  | reveals (a : PublishAnswer) (n : SequenceNumber) (pending : List PublishAnswer) :
    InTurn (a :: pending) [(a, some (.gap n))] (a :: pending) (some a)
  | settles {a : PublishAnswer} {v : Option SequenceNumber.Verdict} {arrived pending judged again} :
    (∀ n, v ≠ some (.gap n)) → InTurn arrived judged pending again →
    InTurn (a :: arrived) ((a, v) :: judged) pending again
  | recovers {a : PublishAnswer} {n : SequenceNumber} {v : Option SequenceNumber.Verdict}
    {arrived pending judged again} : (∀ n, v ≠ some (.gap n)) →
    InTurn arrived judged pending again →
    InTurn (a :: arrived) ((a, some (.gap n)) :: (a, v) :: judged) pending again

namespace InTurn

variable {arrived pending : List PublishAnswer} {a : PublishAnswer}
  {judged : List (PublishAnswer × Option SequenceNumber.Verdict)} {again : Option PublishAnswer}

/-- More responses arrive. -/
theorem arrives (h : InTurn arrived judged pending again) (new : List PublishAnswer) :
    InTurn (arrived ++ new) judged (pending ++ new) again := by
  induction h with
  | waits => exact .waits _
  | reveals a n pending => exact .reveals a n (pending ++ new)
  | settles hv _ ih => exact .settles hv ih
  | recovers hv _ ih => exact .recovers hv ih

/-- The next response is evaluated to an end. -/
theorem settle (h : InTurn arrived judged (a :: pending) again)
    {v : Option SequenceNumber.Verdict} (hv : ∀ n, v ≠ some (.gap n)) :
    InTurn arrived (judged ++ [(a, v)]) pending none := by
  generalize hp : a :: pending = l at h
  induction h with
  | waits l =>
    subst hp
    exact .settles hv (.waits pending)
  | reveals a' n l =>
    cases hp
    exact .recovers hv (.waits pending)
  | settles hv' _ ih => exact .settles hv' (ih hp)
  | recovers hv' _ ih => exact .recovers hv' (ih hp)

/-- The next response, which has not been evaluated yet, reveals a gap. -/
theorem reveal (h : InTurn arrived judged (a :: pending) none) (n : SequenceNumber) :
    InTurn arrived (judged ++ [(a, some (.gap n))]) (a :: pending) (some a) := by
  generalize hp : a :: pending = l at h
  generalize hn : none = again at h
  induction h with
  | waits l =>
    subst hp
    exact .reveals a n pending
  | reveals => cases hn
  | settles hv' _ ih => exact .settles hv' (ih hp hn)
  | recovers hv' _ ih => exact .recovers hv' (ih hp hn)

/-- A response that has revealed a gap is the first of those that are left. -/
theorem head (h : InTurn arrived judged pending (some a)) : ∃ rest, pending = a :: rest := by
  generalize hn : some a = again at h
  induction h with
  | waits => cases hn
  | reveals a' n pending =>
    cases hn
    exact ⟨pending, rfl⟩
  | settles _ _ ih => exact ih hn
  | recovers _ _ ih => exact ih hn

/-- Of the responses that have arrived, those that have been evaluated to an end come first, each
of them once, and the others are left. -/
theorem settled (h : InTurn arrived judged pending again) :
    arrived = settledOf judged ++ pending := by
  induction h with
  | waits => rfl
  | reveals => rfl
  | settles hv _ ih => rw [settledOf_cons hv, List.cons_append, ih]
  | recovers hv _ ih => rw [settledOf_gap, settledOf_cons hv, List.cons_append, ih]

end InTurn

/-! ## The responses of a run -/

namespace SubscriptionManager

variable {m m' : SubscriptionManager} {events : List SequencerEvent} {a : PublishAnswer}

/-- The response `a` has revealed a gap: its recovery goes on, or it is over and nothing is missing
before `a` any more. -/
def Reopened (m : SubscriptionManager) (a : PublishAnswer) : Prop :=
  (∃ id r, m.recovery? id = some r ∧ r.subscription = a.subscription ∧
    r.received = a.message.sequenceNumber) ∨
  m.recoveries = [] ∧ ∀ x, m.cursors.find? a.subscription = some x →
    x = previous a.message.sequenceNumber

/-- What has been evaluated of the responses that have arrived. -/
structure Works (m : SubscriptionManager) (arrived : List PublishAnswer)
    (judged : List (PublishAnswer × Option SequenceNumber.Verdict)) (pending : List PublishAnswer)
    (again : Option PublishAnswer) : Prop where
  inTurn : InTurn arrived judged pending again
  tasks : m.running = true → m.processing.tasks = pending
  idle : m.running = true → again = none → m.recoveries = []
  reopened : m.running = true → ∀ a, again = some a → m.Reopened a

variable {arrived pending : List PublishAnswer} {again : Option PublishAnswer}
  {js : List (PublishAnswer × Option SequenceNumber.Verdict)}

theorem works_fresh (config : ClientConfig) : (fresh config).Works [] [] [] none :=
  ⟨.waits [], fun _ => rfl, fun _ _ => rfl, nofun⟩

/-- With the cursor just before it, or without one, a response does not reveal a gap. -/
theorem evaluate_ne_gap {cursor : Option SequenceNumber} {n k : SequenceNumber}
    (h : ∀ x, cursor = some x → x = previous n) : evaluate cursor n ≠ .gap k := by
  cases cursor with
  | none => nofun
  | some x =>
    rw [h x rfl]
    by_cases hn : n = 0
    · subst hn
      nofun
    · rw [SequenceNumber.evaluate_previous hn]
      nofun

/-- From outside more responses arrive. -/
theorem Works.outside (h : m.Works arrived js pending again) (ho : m.Orderly) (hs : m.Outside m')
    {new : List PublishAnswer}
    (hin : m'.running = true → m'.processing.tasks = m.processing.tasks ++ new) :
    m'.Works (arrived ++ new) js (pending ++ new) again where
  inTurn := h.inTurn.arrives new
  tasks hr := by rw [hin hr, h.tasks (hs.tasks ho hr).1]
  idle hr he := hs.recoveries.trans (h.idle (hs.tasks ho hr).1 he)
  reopened hr a ha := by
    rcases h.reopened (hs.tasks ho hr).1 a ha with ⟨id, r, hrec, hr⟩ | ⟨hidle, hc⟩
    · exact .inl ⟨id, r, by rw [recovery?, hs.recoveries]; exact hrec, hr⟩
    · refine .inr ⟨hs.recoveries.trans hidle, fun x hx => ?_⟩
      rcases hs.cursor a.subscription with he | ⟨-, he⟩
      · exact hc x (he ▸ hx)
      · rw [he] at hx
        cases hx

/-- The next response is evaluated to an end. -/
theorem Works.settle (h : m.Works arrived js pending again) (ho : m.Orderly) {yields : Bool}
    {q : WorkQueue PublishAnswer} (ht : m.processing.turn = (.run a yields, q))
    {v : Option SequenceNumber.Verdict} (hv : ∀ n, v ≠ some (.gap n)) (hq : m'.processing = q)
    (hr : m'.recoveries = m.recoveries) : m'.Works arrived (js ++ [(a, v)]) q.tasks none := by
  obtain ⟨hidle, hrun, -⟩ := ho.of_turn_run ht
  obtain ⟨-, -, -, -, htasks⟩ := WorkQueue.turn_run ht
  have hturn := h.inTurn
  rw [← h.tasks hrun, htasks] at hturn
  exact ⟨hturn.settle hv, fun _ => by rw [hq], fun _ _ => hr.trans hidle, nofun⟩

/-- A step that puts nothing on the processing queue evaluates the next response, or none. -/
theorem Works.step (h : m.Works arrived js pending again) (ho : m.Orderly) (hc : m.Cleared)
    (hs : m.Step events m') (ht : (∀ x v, .evaluates x v ∉ events) →
      m'.processing.tasks = m.processing.tasks) :
    ∃ pending' again', m'.Works arrived (js ++ judged events) pending' again' := by
  have rests (he : judged events = []) (ht : m'.processing.tasks = m.processing.tasks)
      (hi : m'.running = true → again = none → m'.recoveries = [])
      (hr : m'.running = true → ∀ a, again = some a → m'.Reopened a) :
      ∃ pending' again', m'.Works arrived (js ++ judged events) pending' again' := by
    rw [he, List.append_nil]
    exact ⟨pending, again, h.inTurn, fun hrun => ht.trans (h.tasks (hs.running ho hrun)), hi, hr⟩
  cases hs with
  | outside hs =>
    have hw : m'.Works (arrived ++ []) js (pending ++ []) again :=
      h.outside ho hs fun _ => by rw [ht (by simp), List.append_nil]
    exact rests rfl (ht (by simp)) hw.idle hw.reopened
  | idles hn => exact rests rfl (ht (by simp)) h.idle h.reopened
  | @drops a yields q hturn hv =>
    exact ⟨_, _, h.settle ho hturn (v := none) (by simp) rfl rfl⟩
  | @accepts a yields q hturn hv =>
    refine ⟨_, _, h.settle ho hturn (v := some .accept) (by simp) ?_ ?_⟩
    · rw [accept_eq]
    · rw [accept_eq]
  | @gaps a yields q n hturn hv =>
    obtain ⟨hidle, hrun, -⟩ := ho.of_turn_run hturn
    obtain ⟨-, -, hopen, -, htasks⟩ := WorkQueue.turn_run hturn
    have hin := h.inTurn
    rw [← h.tasks hrun, htasks] at hin
    -- A response that has revealed a gap before does not reveal one now.
    have hagain : again = none := by
      rw [Option.eq_none_iff_forall_ne_some]
      rintro a' rfl
      obtain ⟨rest, he⟩ := hin.head
      obtain ⟨rfl, -⟩ := List.cons.inj he
      rcases h.reopened hrun a rfl with ⟨id, r, hr, -⟩ | ⟨-, hcur⟩
      · rw [recovery?, hidle] at hr
        cases hr
      · exact evaluate_ne_gap hcur (verdict?_eq_some hv).2
    subst hagain
    refine ⟨_, _, hin.reveal n, fun _ => ?_, by simp, fun _ a' ha' => ?_⟩
    · exact WorkQueue.tasks_submitFirst (show q.pause.closed = false from hopen) a
    · cases ha'
      refine .inl ⟨m.nextWork, ⟨a.subscription, a.message.sequenceNumber, .republishing n none⟩, ?_,
        rfl, rfl⟩
      rw [recovery?, (beginRecovery_eq ..).2.2.2.2, show _ = _ from hidle]
      exact List.lookup_cons_self
  | rests => exact rests rfl rfl h.idle h.reopened
  | @recovers id r log stage requests hr hp hf hq =>
    obtain ⟨stats, hm⟩ := setRecovery_foldl_eq id r.subscription log stage m
    have hrec := ho.of_recovery? hr
    have hrec' := setRecovery_recoveries hrec stage
    refine rests judged_run (by rw [hm]; rfl) (fun hrun he => ?_) fun hrun a ha => ?_
    · rw [hm] at hrun
      rw [h.idle hrun he] at hrec
      cases hrec
    · rw [hm] at hrun
      rcases h.reopened hrun a ha with ⟨id', r', hr', hs', hn'⟩ | ⟨hidle, -⟩
      · obtain ⟨rfl, rfl⟩ := (recovery?_eq_some_iff hrec).1 hr'
        refine .inl ⟨id', { r' with stage }, ?_, hs', hn'⟩
        rw [hm]
        exact (recovery?_eq_some_iff hrec').2 ⟨rfl, rfl⟩
      · rw [hidle] at hrec
        cases hrec
  | @ends id r log requests hr hp hf hq =>
    obtain ⟨stats, hm⟩ := foldl_perform_eq r.subscription log m
    have hrec := ho.of_recovery? hr
    have hend := recoveries_endRecovery ho hr log
    refine rests judged_run ?_ (fun _ _ => hend) fun hrun a ha => ?_
    · rw [endRecovery_eq, hm]
      exact WorkQueue.tasks_resume _
    · rw [running_endRecovery] at hrun
      rcases h.reopened hrun a ha with ⟨id', r', hr', hs', hn'⟩ | ⟨hidle, -⟩
      · obtain ⟨rfl, rfl⟩ := (recovery?_eq_some_iff hrec).1 hr'
        refine .inr ⟨hend, fun x hx => ?_⟩
        -- The cursor was set, unless the subscription is deleted: then there is none.
        rw [← hs'] at hx
        by_cases hreg : m.registry.contains r'.subscription = true
        · rw [((finishes_run hr hp hf hq).settles ho hrun hreg).2.2.1] at hx
          rw [← hn']
          exact (Option.some.inj hx).symm
        · rcases find?_endRecovery (s := r'.subscription) id' r'
            (log.foldl (RecoveryEvent.perform r'.subscription) m) with he | ⟨-, -, he, -⟩
          · rw [he, hm] at hx
            rw [(hc _ (Bool.eq_false_iff.2 hreg)).1] at hx
            cases hx
          · rw [hm] at he
            exact absurd he hreg
      · rw [hidle] at hrec
        cases hrec

end SubscriptionManager

namespace Client

open SubscriptionManager

variable {c : Client}

theorem Begins.works (hc : c.Begins) (as : List Action) :
    ∃ pending again,
      (c.after as).managed.Works (c.arrived as) (judged (c.history as)) pending again := by
  induction as using List.reverseRecOn with
  | nil =>
    refine ⟨[], none, ?_⟩
    rw [after_nil, managed_of_eq hc.manager]
    exact works_fresh _
  | append_singleton as b ih =>
    obtain ⟨pending, again, hw⟩ := ih
    have hready := hc.ready.after as
    rw [after_snoc, arrived_snoc, history_snoc, judged_append]
    by_cases hb : b.Sequences
    · rw [arrives_of_sequences hb, List.append_nil]
      exact hw.step hready.orderly (hc.cleared as) (hready.step b).2.2
        (hready.tasks_of_sequences hb)
    · obtain ⟨-, hm⟩ := act_outside hready.settled hb
      obtain ⟨m', hm', hout⟩ := hm _ hready.manager
      have hb' := managed_of_eq hm'
      rw [← hb'] at hout
      refine ⟨pending ++ (c.after as).arrives b, again, ?_⟩
      rw [events_outside hb hout, show judged [] = [] from rfl, List.append_nil]
      refine hw.outside hready.orderly hout fun hr => ?_
      have hopen : (c.after as).managed.processing.closed = false := by
        rw [hready.orderly.closed, (hout.tasks hready.orderly hr).1]
        rfl
      rw [hready.inflow hb hr, WorkQueue.tasks_foldl_submit hopen]

/-- The responses of a run are evaluated in the order in which they arrive; as long as the manager
runs, those that are left are the ones that are pending. -/
theorem Begins.inTurn (hc : c.Begins) (as : List Action) :
    ∃ pending again, InTurn (c.arrived as) (judged (c.history as)) pending again ∧
      ((c.after as).managed.running = true → pending = (c.after as).managed.processing.tasks) := by
  obtain ⟨pending, again, hw⟩ := hc.works as
  exact ⟨pending, again, hw.inTurn, fun hr => (hw.tasks hr).symm⟩

/-- What is pending at first and what arrives is evaluated to an end, or is pending in the end. -/
theorem Begins.pending_append_arrived (hc : c.Begins) (as bs : List Action)
    (hr : (c.after (as ++ bs)).managed.running = true) :
    (c.after as).managed.processing.tasks ++ (c.after as).arrived bs =
      settledOf (judged ((c.after as).history bs)) ++
        (c.after (as ++ bs)).managed.processing.tasks := by
  have hr₀ : (c.after as).managed.running = true := by
    rw [after_append] at hr
    exact (hc.ready.after as).running_of_after hr
  obtain ⟨pending, again, h, hp⟩ := hc.inTurn as
  obtain ⟨pending', again', h', hp'⟩ := hc.inTurn (as ++ bs)
  have hs := h.settled
  have hs' := h'.settled
  rw [hp hr₀] at hs
  rw [hp' hr, arrived_append, history_append, judged_append, settledOf_append, hs,
    List.append_assoc, List.append_assoc] at hs'
  exact List.append_cancel_left hs'

/-- The responses of a subscription that a run has to do with: those that are pending at first, and
those that arrive. -/
def inbox (s : SubscriptionId) (as : List Action) (c : Client) : List PublishAnswer :=
  (c.managed.processing.tasks ++ c.arrived as).filter (·.subscription = s)

theorem inbox_mono {s : SubscriptionId} {as bs : List Action} (h : as <+: bs) :
    c.inbox s as <+: c.inbox s bs := by
  obtain ⟨bs, rfl⟩ := h
  refine ⟨((c.after as).arrived bs).filter (·.subscription = s), ?_⟩
  rw [inbox, inbox, ← List.filter_append, arrived_append, List.append_assoc]

/-- A response that is evaluated has been pending, or has arrived. -/
theorem Begins.mem_inbox (hc : c.Begins) {as bs : List Action} {a : PublishAnswer}
    {v : Option SequenceNumber.Verdict} (h : .evaluates a v ∈ (c.after as).history bs) :
    a ∈ (c.after as).inbox a.subscription bs := by
  obtain ⟨p, b, hp, he⟩ := mem_history h
  rw [← after_append] at he
  obtain ⟨-, ⟨yields, ht⟩, -⟩ := of_evaluates_mem he
  have hready := hc.ready.after (as ++ p)
  obtain ⟨-, hr, -⟩ := hready.orderly.of_turn_run (Prod.ext ht rfl)
  have htasks := (WorkQueue.turn_run (Prod.ext ht rfl)).2.2.2.2
  have hp' : p <+: bs := (List.prefix_append p [b]).trans hp
  refine (inbox_mono hp').subset (List.mem_filter.2 ⟨?_, decide_eq_true rfl⟩)
  rw [hc.pending_append_arrived as p hr, htasks]
  exact List.mem_append_right _ List.mem_cons_self

/-- The manager runs, and no response of the subscription is pending. -/
def WorkedOff (s : SubscriptionId) (c : Client) : Prop :=
  c.managed.running = true ∧ ∀ a ∈ c.managed.processing.tasks, a.subscription ≠ s

end Client

end OpcUa
