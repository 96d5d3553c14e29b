import OpcUa.Proofs.AcknowledgementCourse
import OpcUa.Proofs.FailedOperations
import OpcUa.Proofs.ItemHandles

/-!
# A turn of a call

What happens when the task of a call runs, as far as the operations of the subscription manager are
concerned: an operation begins, waits once more or ends, or the call has nothing to do with any.

* `Posts`: a call waits for the session, or has just sent its request.
* `Client.CallTurn`: what a turn of a call comes to.
* `Client.callTurn_pollCall`: there is nothing else.
* `Client.undergo_of_outcome`: an operation whose exchange has ended takes effect.
* `Client.Begins.corresponds`: in every run, the operation of a call is what its job has come to,
  and so is the request that it has sent.
-/

namespace OpcUa

/-- The client handles that a request has. -/
def Request.itemHandles (r : Request) : List ClientHandle :=
  match r.question with
  | ⟨.createMonitoredItems, q⟩ => q.items.map (·.1)
  | _ => []

theorem Request.itemHandles_of_service {r : Request} {s : Service} {q : s.Query}
    (hq : r.question = ⟨s, q⟩) (hs : s ≠ .createMonitoredItems) : r.itemHandles = [] := by
  unfold itemHandles
  rw [hq]
  split
  · rename_i e
    cases e
    exact absurd rfl hs
  · rfl

/-! ## Requests of a call -/

/-- A call waits for the session, or it has just sent its request and waits for the reply. -/
def Posts (question : (s : Service) × s.Query) (phase : CallPhase) (posted : Option Posted) :
    Prop :=
  (phase.isSent = false ∧ posted = none) ∨
    ∃ session await p, phase = .exchange session await ∧ posted = some p ∧
      p.exchange = await.exchange ∧ p.request.question = question

namespace ServiceClient

variable {s : Service} {call : ServiceCall s} {c c' : ServiceClient} {phase phase' : CallPhase}
  {posted : Option Posted}

theorem posts_proceed {news : SessionNews}
    (h : c.proceed call news = (c', .pending phase posted)) :
    Posts ⟨s, call.query⟩ phase posted := by
  unfold proceed at h
  split at h
  · cases h
    exact .inl ⟨rfl, rfl⟩
  · cases h
  · cases h
    exact .inr ⟨_, _, _, rfl, rfl, rfl, rfl⟩

theorem posts_start (h : (c.start call).2 = .pending phase posted) :
    Posts ⟨s, call.query⟩ phase posted :=
  posts_proceed (Prod.ext rfl h)

theorem posts_advance (h : (c.advance call phase).2 = .pending phase' posted) :
    (phase.isSent = false ∧ Posts ⟨s, call.query⟩ phase' posted) ∨
      (phase' = phase ∧ posted = none) := by
  cases phase with
  | session w =>
    unfold advance at h
    dsimp only at h
    split at h
    · cases h
    · rename_i e
      cases h
      exact .inl ⟨rfl, posts_proceed e⟩
  | exchange session await =>
    unfold advance at h
    dsimp only at h
    split at h
    · cases h
      exact .inr ⟨rfl, rfl⟩
    · cases h

end ServiceClient

theorem Posts.question {question : (s : Service) × s.Query} {phase : CallPhase}
    {posted : Option Posted} (h : Posts question phase posted) :
    ∀ p ∈ posted, p.request.question = question := by
  rintro p hp
  rcases h with ⟨-, rfl⟩ | ⟨_, _, p', -, rfl, -, hq⟩
  · cases hp
  · cases hp
    exact hq

/-! ## Turns -/

namespace SubscriptionManager

/-- An operation that does not come to wait leaves the manager alone. -/
theorem begin_of_finished {m : SubscriptionManager} {op : Operation} {clock : Nat}
    {outcome : Except Error OperationResult} (h : (m.begin op clock).2 = .finished outcome) :
    (m.begin op clock).1 = m := by
  cases op with
  | createItems k requests =>
    unfold SubscriptionManager.begin at h ⊢
    dsimp only at h ⊢
    split at h
    · rfl
    · split at h
      · rename_i hempty
        rw [if_pos hempty]
      · cases h
  | deleteItems k items =>
    unfold SubscriptionManager.begin
    dsimp only
    repeat' split
    all_goals rfl
  | create | createWithInterval | modify | modifyInterval | delete | setPublishing => rfl

end SubscriptionManager

namespace Client

open SubscriptionManager

variable {c c' : Client} {id : CallId} {job : Job} {op : PendingOperation} {phase : CallPhase}

/-- What a turn of the call `id` comes to. -/
inductive CallTurn (id : CallId) (c : Client) : Run → Prop
  /-- No operation begins, goes on or ends. -/
  | rests {run : Run} :
    (run.1.managed = c.managed ∨ run.1.managed = c.managed.shutDown) →
    run.1.Operates (fun _ => False) id →
    (∀ p ∈ run.2, p.request.itemHandles = []) →
    (∀ o op, c.calls.lookup id = some ⟨.operate o, .fresh⟩ →
      (c.managed.begin o c.service.clock).2 ≠ .pending op) → CallTurn id c run
  /-- An operation begins and waits. -/
  | begins {run : Run} {o : Operation} {op : PendingOperation} {phase : CallPhase} :
    c.calls.lookup id = some ⟨.operate o, .fresh⟩ →
    (c.managed.begin o c.service.clock).2 = .pending op →
    run.1.managed = (c.managed.begin o c.service.clock).1 →
    run.1.calls.lookup id = some ⟨.operate o, .operating op phase⟩ →
    Posts ⟨op.service, run.1.managed.operationQuery op⟩ phase run.2 → CallTurn id c run
  /-- An operation begins, but there is no session. -/
  | fails {run : Run} {o : Operation} {op : PendingOperation} :
    c.calls.lookup id = some ⟨.operate o, .fresh⟩ →
    (c.managed.begin o c.service.clock).2 = .pending op →
    run.1.managed = (c.managed.begin o c.service.clock).1 →
    run.1.calls.lookup id = none → run.2 = none → CallTurn id c run
  /-- An operation goes on and waits once more. -/
  | waits {run : Run} {job : Job} {op : PendingOperation} {phase phase' : CallPhase} :
    c.calls.lookup id = some ⟨job, .operating op phase⟩ →
    run.1.managed = c.managed →
    run.1.calls.lookup id = some ⟨job, .operating op phase'⟩ →
    (phase.isSent = false ∧ Posts ⟨op.service, c.managed.operationQuery op⟩ phase' run.2) ∨
      (phase' = phase ∧ run.2 = none) → CallTurn id c run
  /-- An operation ends. -/
  | ends {run : Run} {job : Job} {op : PendingOperation} {phase : CallPhase} (clock : Nat)
      (outcome : Except Error op.service.Answer) :
    c.calls.lookup id = some ⟨job, .operating op phase⟩ →
    run.1.managed = (c.managed.finish clock op outcome).1 →
    run.1.calls.lookup id = none → run.2 = none → CallTurn id c run

/-- A turn of a call that has another job, or that has begun. -/
theorem callTurn_of_keeps {run : Run} (hm : c.manager = some c.managed) {call : Call}
    (hl : c.calls.lookup id = some call) (hn : ∀ o, call ≠ ⟨.operate o, .fresh⟩)
    (hk : c.Keeps run.1) (ho : run.1.Operates (fun _ => False) id)
    (hp : ∀ p ∈ run.2, p.request.itemHandles = []) : c.CallTurn id run := by
  refine .rests (.inl (managed_of_eq (hk.manager.trans hm))) ho hp fun o _ hl' => ?_
  exact absurd (Option.some.inj (hl.symm.trans hl')) (hn o)

/-- Without a request, nothing is sent. -/
theorem itemHandles_none (p : Posted) (hp : p ∈ (none : Option Posted)) :
    p.request.itemHandles = [] :=
  absurd hp (Option.not_mem_none p)

theorem itemHandles_startCall (j : JobCall) (hj : j.service ≠ .createMonitoredItems) (c : Client) :
    ∀ p ∈ (c.startCall id j).2, p.request.itemHandles = [] := by
  unfold startCall
  dsimp only
  split
  · exact itemHandles_none
  · rename_i phase posted e
    exact fun p hp => Request.itemHandles_of_service
      ((ServiceClient.posts_start e).question p hp) hj

theorem itemHandles_advanceCall (j : JobCall) (hj : j.service ≠ .createMonitoredItems)
    (phase : CallPhase) (c : Client) :
    ∀ p ∈ (c.advanceCall id j phase).2, p.request.itemHandles = [] := by
  unfold advanceCall
  dsimp only
  split
  · rename_i phase' posted e
    intro p hp
    rcases ServiceClient.posts_advance e with ⟨-, h⟩ | ⟨-, rfl⟩
    · exact Request.itemHandles_of_service (h.question p hp) hj
    · exact itemHandles_none p hp
  · exact itemHandles_none

theorem service_of_serviceCall? {s : ServiceClient} {j : JobCall}
    (h : job.serviceCall? s = some j) : j.service ≠ .createMonitoredItems := by
  cases job <;> cases h <;> nofun

/-- A request without a session has no items. -/
theorem itemHandles_startSending (s : Service) (handle : UInt32) (limit : Option Duration)
    (c : Client) : ∀ p ∈ (c.startSending id s handle limit).2, p.request.itemHandles = [] := by
  rintro p hp
  cases hp
  cases s <;> rfl

theorem managed_startDisconnect (hm : c.manager = some c.managed) (managed : Bool) :
    (c.startDisconnect id managed).managed = c.managed ∨
      (c.startDisconnect id managed).managed = c.managed.shutDown := by
  have hkeeps (c : Client) : c.Keeps
      ((c.withService fun s => { s with disconnected := true }).startClose id
        (.disconnect managed)) := (keeps_withService _ c).trans (keeps_startClose id _ _)
  unfold startDisconnect
  cases managed with
  | false => exact .inl (managed_of_eq ((hkeeps c).manager.trans hm))
  | true =>
    refine .inr (managed_of_eq ((hkeeps _).manager.trans ?_))
    exact manager_withManager hm _

theorem callTurn_startOperation (hm : c.manager = some c.managed) {o : Operation}
    (hl : c.calls.lookup id = some ⟨.operate o, .fresh⟩) :
    c.CallTurn id (c.startOperation id o) := by
  have hl' {c' : Client} (h : c'.calls = c.calls) :
      c'.calls.lookup id = some ⟨.operate o, .fresh⟩ := by rw [h, hl]
  unfold startOperation
  rw [hm]
  dsimp only
  rcases e : c.managed.begin o c.service.clock with ⟨m, _ | op⟩
  · rename_i outcome
    have hsame := begin_of_finished (congrArg Prod.snd e)
    rw [e] at hsame
    dsimp only at hsame
    subst hsame
    refine .rests (.inl (managed_of_eq rfl)) (operates_finish ..) itemHandles_none
      fun o' op hl' => ?_
    cases hl.symm.trans hl'
    rw [e]
    rintro ⟨⟩
  · dsimp only
    split
    · exact .fails hl (by rw [e]) (by rw [e]; exact managed_of_eq rfl) (lookup_finish ..).1 rfl
    · rename_i phase posted hs
      refine .begins hl (by rw [e]) (by rw [e]; exact managed_of_eq rfl)
        (lookup_setCall (hl' rfl) _) ?_
      rw [show Client.managed _ = m from managed_of_eq rfl]
      exact ServiceClient.posts_start hs

theorem callTurn_startJob (hc : c.Serving) {job : Job}
    (hl : c.calls.lookup id = some ⟨job, .fresh⟩) : c.CallTurn id (c.startJob id job) := by
  have hjob : job ≠ .connect := hc.settled _ (mem_of_lookup hl)
  have hne (hop : ∀ o, job ≠ .operate o) (o : Operation) :
      (⟨job, .fresh⟩ : Call) ≠ ⟨.operate o, .fresh⟩ := fun e => hop o (congrArg Call.job e)
  unfold startJob
  split
  · rename_i j hj
    have hop (o : Operation) : job ≠ .operate o := by
      rintro rfl
      cases hj
    exact callTurn_of_keeps hc.manager hl (hne hop) (keeps_startCall ..) (operates_startCall ..)
      (itemHandles_startCall j (service_of_serviceCall? hj) c)
  · split
    · exact callTurn_of_keeps hc.manager hl (hne nofun) (keeps_startClose id .close c)
        (operates_startClose .close c) itemHandles_none
    · exact .rests (managed_startDisconnect hc.manager _) (operates_startDisconnect ..)
        itemHandles_none fun o _ hl' =>
          absurd (Option.some.inj (hl.symm.trans hl')) (hne (by rintro _ ⟨⟩) o)
    · exact callTurn_of_keeps hc.manager hl (hne nofun)
        ((keeps_service _ c).trans (keeps_setCall ..))
        (operates_setCall (fun _ _ e => by cases e) _) (itemHandles_startSending _ _ _ c)
    · exact callTurn_startOperation hc.manager hl
    · rename_i hop
      exact callTurn_of_keeps hc.manager hl (hne hop)
        ((keeps_service _ c).trans (keeps_learn id hjob _ _)) (operates_learn ..) itemHandles_none

theorem callTurn_advanceOperation (hm : c.manager = some c.managed)
    (hl : c.calls.lookup id = some ⟨job, .operating op phase⟩) :
    c.CallTurn id (c.advanceOperation id op phase) := by
  rcases advanceOperation_cases hm id op phase with
    ⟨phase', posted, hs, e⟩ | ⟨outcome, -, clock, e⟩
  · rw [e]
    exact .waits hl (managed_of_eq hm) (lookup_setCall (by exact hl) _)
      (ServiceClient.posts_advance hs)
  · rw [e]
    exact .ends clock outcome hl (managed_of_eq rfl) (lookup_finish ..).1 rfl

theorem callTurn_pollCall (hc : c.Serving) (id : CallId) : c.CallTurn id (c.pollCall id) := by
  unfold pollCall
  split
  · rename_i hl
    exact .rests (.inl rfl) (operates_of_none hl) itemHandles_none fun o _ hl' =>
      absurd (hl.symm.trans hl') (Option.some_ne_none _).symm
  · rename_i job stage hl
    have hjob : job ≠ .connect := hc.settled _ (mem_of_lookup hl)
    -- A call that has begun does not begin again.
    have hrest {run : Run} (hs : stage ≠ .fresh) (hk : c.Keeps run.1)
        (ho : run.1.Operates (fun _ => False) id)
        (hp : ∀ p ∈ run.2, p.request.itemHandles = []) : c.CallTurn id run :=
      callTurn_of_keeps hc.manager hl (fun o e => hs (congrArg Call.stage e)) hk ho hp
    -- A call of another kind stays one.
    have hnot (hs : ∀ op phase, stage ≠ .operating op phase) : c.Operates (fun _ => False) id :=
      ⟨fun {job op phase} hl' => hs op phase
        (congrArg Call.stage (Option.some.inj (hl.symm.trans hl')))⟩
    have hsame : c.Keeps c := .of_eq rfl rfl
    split
    · exact callTurn_startJob hc hl
    · exact hrest nofun ((keeps_service _ c).trans (keeps_learn id hjob _ _)) (operates_learn ..)
        itemHandles_none
    · exact hrest nofun (keeps_awaitClose ..) (operates_awaitClose ..) itemHandles_none
    · split
      · rename_i j hj
        exact hrest nofun (keeps_advanceCall ..) (operates_advanceCall ..)
          (itemHandles_advanceCall j (service_of_serviceCall? hj) _ c)
      · exact hrest nofun hsame (hnot fun _ _ e => by cases e) itemHandles_none
    · exact callTurn_advanceOperation hc.manager hl
    · split
      · exact hrest nofun (keeps_advanceSending ..)
          ((hnot fun _ _ e => by cases e).advanceSending _ _) itemHandles_none
      · exact hrest nofun hsame (hnot fun _ _ e => by cases e) itemHandles_none

/-! ## Answers -/

/-- An operation ends when its call runs and the outcome of its exchange is there. -/
theorem undergo_of_outcome (hm : c.manager = some c.managed) {session : Session} {await : Await}
    (hl : c.calls.lookup id = some ⟨job, .operating op (.exchange session await)⟩)
    {outcome : Except Error op.service.Answer}
    (ho : c.service.outcome? op.service await = some outcome) :
    ∃ clock, ∀ {m result}, c.managed.finish clock op outcome = (m, result) →
      (c.undergo (.act (.run (.call id)))).managed = m ∧
      (c.undergo (.act (.run (.call id)))).finished.lookup id = some (.operated result) := by
  rw [undergo_act (by nofun), act_of_operating hl]
  have hdone : (c.service.advance (c.operationCall op c.managed) (.exchange session await)).2 =
      .done outcome := by
    unfold ServiceClient.advance
    dsimp only
    rw [ho]
  rcases advanceOperation_cases hm id op (.exchange session await) with
    ⟨phase', posted, hs, -⟩ | ⟨outcome', hs, clock, e⟩
  · cases hs.symm.trans hdone
  · cases hs.symm.trans hdone
    refine ⟨clock, fun hend => ?_⟩
    rw [e, hend]
    exact ⟨managed_of_eq rfl, (lookup_finish ..).2⟩

/-! ## Whole runs -/

/-- The call that a happening is about: it runs, is given up or begins. -/
def subject (h : Happening) (c : Client) : CallId :=
  match h with
  | .act (.run (.call id)) => id
  | .cancel id => id
  | .act _ => c.nextCall

/-- The request that is sent. -/
def posting (c : Client) (h : Happening) : List Posted :=
  match h with
  | .act a => (c.act a).2.toList
  | .cancel _ => []

variable {h : Happening}

theorem spares_of_ne_subject (hid : id ≠ c.subject h) : c.Spares id (c.undergo h) := by
  refine spares_undergo ?_ ?_ ?_
  · rintro rfl
    exact hid rfl
  · rintro rfl
    exact hid rfl
  · rintro job hj rfl
    exact hid

/-- A call that does not run has been given up, or begins. -/
theorem NumbersCalls.lookup_subject (hc : c.NumbersCalls)
    (hrun : ∀ id, h ≠ .act (.run (.call id))) :
    (c.undergo h).calls.lookup (c.subject h) = none ∨
      ∃ job, (c.undergo h).calls.lookup (c.subject h) = some ⟨job, .fresh⟩ := by
  have hnone := hc.lookup_eq_none (Nat.le_refl c.nextCall)
  cases h with
  | cancel id => exact .inl lookup_filter_self
  | act a =>
    have hsubject : c.subject (.act a) = c.nextCall := by
      unfold subject
      split
      · rename_i id e
        exact absurd e (hrun id)
      · rename_i e
        cases e
      · rfl
    rw [hsubject]
    by_cases hcall : ∃ job hj, a = .call job hj
    · obtain ⟨job, hj, rfl⟩ := hcall
      exact .inr ⟨job, hc.lookup_call hj⟩
    · have hs : c.Spares c.nextCall (c.undergo (.act a)) := by
        refine spares_undergo (hrun _) (by rintro ⟨⟩) ?_
        rintro job hj e -
        cases e
        exact hcall ⟨job, hj, rfl⟩
      exact .inl (hs.calls.trans hnone)

/-- No call of the manager is under way. -/
def Idle (c : Client) : Prop := ∀ id, c.Operates (fun _ => False) id

/-- The call of a job waits with an operation that the job has begun. If it waits for a reply, then
`posted` has its request. -/
structure Corresponds (posted : List Posted) (job : Job) (op : PendingOperation)
    (phase : CallPhase) : Prop where
  job : ∃ o m clock, job = .operate o ∧ (SubscriptionManager.begin o clock m).2 = .pending op
  request : ∀ session await, phase = .exchange session await →
    ∃ p ∈ posted, p.exchange = await.exchange ∧
      ∃ m, p.request.question = ⟨op.service, operationQuery m op⟩

variable {posted : List Posted}

theorem Corresponds.append (hr : Corresponds posted job op phase) (new : List Posted) :
    Corresponds (posted ++ new) job op phase where
  job := hr.job
  request session await e := by
    obtain ⟨p, hp, he⟩ := hr.request session await e
    exact ⟨p, List.mem_append_left _ hp, he⟩

/-- A request that has been sent has gone to the server. -/
theorem exists_posted_of_posts {m : SubscriptionManager} {new : Option Posted} {session : Session}
    {await : Await} (hp : Posts ⟨op.service, m.operationQuery op⟩ (.exchange session await) new) :
    ∃ p ∈ posted ++ new.toList, p.exchange = await.exchange ∧
      ∃ m, p.request.question = ⟨op.service, operationQuery m op⟩ := by
  rcases hp with ⟨⟨⟩, -⟩ | ⟨_, _, p, ⟨⟩, rfl, he, hq⟩
  exact ⟨p, List.mem_append_right _ (List.mem_singleton_self p), he, m, hq⟩

/-- A turn of a call keeps to its operation. -/
theorem corresponds_run (hc : c.Serving) (id : CallId)
    (ih : ∀ {job op phase}, c.calls.lookup id = some ⟨job, .operating op phase⟩ →
      Corresponds posted job op phase)
    (hl : (c.pollCall id).1.calls.lookup id = some ⟨job, .operating op phase⟩) :
    Corresponds (posted ++ (c.pollCall id).2.toList) job op phase := by
  have hturn := callTurn_pollCall hc id
  generalize c.pollCall id = run at hturn hl ⊢
  cases hturn with
  | rests _ ho => exact (ho.holds hl).elim
  | begins hl₀ hop _ hl' hp =>
    cases hl.symm.trans hl'
    refine ⟨⟨_, _, _, rfl, hop⟩, ?_⟩
    rintro session await rfl
    exact exists_posted_of_posts hp
  | fails _ _ _ hl' => cases hl.symm.trans hl'
  | waits hl₀ _ hl' hp =>
    cases hl.symm.trans hl'
    rcases hp with ⟨-, hp⟩ | ⟨rfl, -⟩
    · refine ⟨(ih hl₀).job, ?_⟩
      rintro session await rfl
      exact exists_posted_of_posts hp
    · exact (ih hl₀).append _
  | ends _ _ _ _ hl' => cases hl.symm.trans hl'

/-- What a call waits with is what its job has begun, in every run. -/
theorem Begins.corresponds (hc : c.Begins) (hn : c.NumbersCalls) (hi : c.Idle)
    (hs : List Happening)
    (hl : (c.later hs).calls.lookup id = some ⟨job, .operating op phase⟩) :
    Corresponds (c.gather posting hs) job op phase := by
  induction hs using List.reverseRecOn generalizing id job op phase with
  | nil => exact ((hi id).holds hl).elim
  | append_singleton hs h ih =>
    have hserves := (hc.serving hn).later hs
    rw [later_snoc] at hl
    rw [gather_snoc]
    by_cases hid : id = (c.later hs).subject h
    · by_cases hrun : ∃ id, h = .act (.run (.call id))
      · obtain ⟨id', rfl⟩ := hrun
        obtain rfl : id = id' := hid
        exact corresponds_run hserves id ih hl
      · rcases hserves.numbers.lookup_subject fun id e => hrun ⟨id, e⟩ with h | ⟨_, h⟩ <;>
          cases (hid ▸ hl).symm.trans h
    · exact (ih ((spares_of_ne_subject hid).calls.symm.trans hl)).append _

end Client

end OpcUa
