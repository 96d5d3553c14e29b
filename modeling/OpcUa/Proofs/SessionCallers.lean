import Mathlib.Data.List.Induction
import OpcUa.Proofs.Bookkeeping
import OpcUa.Proofs.SessionSide

/-!
# What the callers of a client do to its session

Function by function: a call, a Publish attempt and a recovery ask for the session, wait for it and
let go of it by the steps of `SessionSide.Stirs` alone.

* `SubscriptionManager.Quiets`: no task of the manager begins to wait for the session.
* `Client.Advances`: a caller goes on after it has learnt something.
* `Client.Consults`: a client takes steps of `SessionSide.Stirs`.
* `Client.step_undergo`: all that may happen to the session of a client.
-/

namespace OpcUa

/-- When the entries under one key are set, nothing is new but what they are set to. -/
theorem filterMap_set_subset {κ α β : Type} [DecidableEq κ] (f : α → Option β) (k : κ) (g : α → α)
    {b : Option β} (l : List (κ × α)) (hb : ∀ a, f (g a) = b) :
    (l.map fun p => if p.1 = k then (k, g p.2) else p).filterMap (fun p => f p.2) ⊆
      b.toList ++ l.filterMap (fun p => f p.2) := by
  intro x hx
  obtain ⟨p, hp, e⟩ := List.mem_filterMap.1 hx
  obtain ⟨q, hq, rfl⟩ := List.mem_map.1 hp
  split at e
  · rw [hb] at e
    exact List.mem_append_left _ (Option.mem_toList.2 e)
  · exact List.mem_append_right _ (List.mem_filterMap.2 ⟨q, hq, e⟩)

namespace SubscriptionManager

/-- The waits of the tasks of a manager. -/
def waits (m : SubscriptionManager) : List SessionWait :=
  m.attempts.filterMap (·.2.stage.wait?) ++ m.recoveries.filterMap (·.2.stage.wait?)

/-- No task of the manager begins to wait for the session. -/
def Quiets (m m' : SubscriptionManager) : Prop := m'.waits ⊆ m.waits

variable {m m' m'' : SubscriptionManager}

theorem Quiets.refl (m : SubscriptionManager) : m.Quiets m := List.Subset.refl _

theorem Quiets.trans (h : m.Quiets m') (h' : m'.Quiets m'') : m.Quiets m'' := List.Subset.trans h' h

/-- The tasks stay as they are. -/
theorem Quiets.of_eq {n : SubscriptionManager} (ha : n.attempts = m.attempts)
    (hr : n.recoveries = m.recoveries) : m.Quiets n := by
  rw [Quiets, waits, ha, hr]
  exact List.Subset.refl _

theorem Notes.quiets (h : m.Notes m') : m.Quiets m' := by
  obtain ⟨_, _, _, _, _, _, rfl, -⟩ := h
  exact .of_eq rfl rfl

/-! ## Queues -/

theorem quiets_deliverTurn (m : SubscriptionManager) : m.Quiets m.deliverTurn.1 := by
  have h : m.Quiets { m with delivery := m.delivery.turn.2 } := .of_eq rfl rfl
  exact h.trans (notes_deliverTurn m).quiets

theorem quiets_process (a : PublishAnswer) (m : SubscriptionManager) : m.Quiets (m.process a) := by
  unfold process
  split
  · split
    · unfold accept
      dsimp only
      have h : m.Quiets (m.advanceCursor a.subscription (consumed a.message)) := by
        unfold advanceCursor
        split
        · exact .of_eq rfl rfl
        · split <;> exact .of_eq rfl rfl
      exact h.trans (.of_eq rfl rfl)
    · -- A recovery begins without a wait.
      unfold Quiets waits beginRecovery
      simp only [nextId, List.filterMap_append]
      simp [RecoveryStage.wait?, RecoveryStage.phase?]
  · exact .refl m

theorem quiets_processTurn (m : SubscriptionManager) : m.Quiets m.processTurn.1 := by
  unfold processTurn
  split
  · exact Quiets.trans (.of_eq rfl rfl) (quiets_process ..)
  · exact .of_eq rfl rfl
  · exact .of_eq rfl rfl
  · exact .of_eq rfl rfl

/-! ## The Publish pipeline -/

theorem quiets_dropAttempt (id : WorkId) (m : SubscriptionManager) : m.Quiets (m.dropAttempt id) :=
  ((List.filter_sublist.filterMap _).append_right _).subset

/-- An attempt that is armed does not wait yet. -/
theorem quiets_armNext? (h : m.armNext? = some m') : m.Quiets m' := by
  unfold armNext? at h
  dsimp only at h
  split at h
  · rw [← Option.some.inj h]
    unfold Quiets waits
    simp [arm, claim, nextId, AttemptStage.wait?]
  · cases h

theorem quiets_fillPipeline (m : SubscriptionManager) : m.Quiets m.fillPipeline := by
  have h : ∀ (n : Nat) (m : SubscriptionManager), m.Quiets (m.armUpTo n) := by
    intro n
    induction n with
    | zero => exact fun m => .refl m
    | succ n ih =>
      intro m
      unfold armUpTo
      split
      · rename_i m' e
        exact (quiets_armNext? e).trans (ih m')
      · exact .refl m
  unfold fillPipeline
  split
  · exact h _ m
  · exact .refl m

theorem waits_setAttempt (id : WorkId) (stage : AttemptStage) (m : SubscriptionManager) :
    (m.setAttempt id stage).waits ⊆ stage.wait?.toList ++ m.waits := by
  unfold waits
  rw [← List.append_assoc, List.append_subset]
  refine ⟨List.subset_append_of_subset_left _ ?_, List.subset_append_of_subset_right _ ?_⟩
  · exact filterMap_set_subset (fun a : Attempt => a.stage.wait?) id
      (fun a : Attempt => { a with stage }) m.attempts fun _ => rfl
  · exact List.Subset.refl _

theorem waits_setRecovery (id : WorkId) (stage : RecoveryStage) (m : SubscriptionManager) :
    (m.setRecovery id stage).waits ⊆ stage.wait?.toList ++ m.waits := by
  unfold waits
  rw [List.append_subset]
  refine ⟨List.subset_append_of_subset_right _ (List.subset_append_left _ _), ?_⟩
  refine List.Subset.trans (filterMap_set_subset (fun r : Recovery => r.stage.wait?) id
    (fun r : Recovery => { r with stage }) (b := stage.wait?) m.recoveries fun _ => rfl) ?_
  rw [List.append_subset]
  exact ⟨List.subset_append_left _ _,
    List.subset_append_of_subset_right _ (List.subset_append_right _ _)⟩

theorem quiets_completeAttempt (id : WorkId) (a : Attempt) (outcome : Except Error PublishAnswer)
    (clock : Nat) (m : SubscriptionManager) : m.Quiets (m.completeAttempt id a outcome clock) := by
  cases outcome with
  | ok answer =>
    have h := (quiets_dropAttempt id m).trans (.of_eq rfl rfl)
    exact h.trans (quiets_fillPipeline _)
  | error e =>
    unfold completeAttempt
    dsimp only
    split
    · exact quiets_dropAttempt id m
    · split
      · exact quiets_dropAttempt id m
      · split
        · have h := (quiets_dropAttempt id m).trans (.of_eq rfl rfl)
          exact h.trans (quiets_fillPipeline _)
        · exact waits_setAttempt id (.backingOff _) m

theorem quiets_endBackoff (id : WorkId) (m : SubscriptionManager) : m.Quiets (m.endBackoff id) :=
  (quiets_dropAttempt id m).trans (quiets_fillPipeline _)

/-! ## Operations -/

theorem Settles.quiets (h : m.Settles m') : m.Quiets m' := by
  cases h with
  | notes h => exact h.quiets
  | created _ _ h => exact Quiets.trans (.of_eq rfl rfl) (h.quiets.trans (quiets_fillPipeline _))
  | modified h => exact h.quiets.trans (quiets_fillPipeline _)
  | deleted _ h => exact Quiets.trans (.of_eq rfl rfl) (h.quiets.trans (quiets_fillPipeline _))

theorem quiets_shutDown (m : SubscriptionManager) : m.Quiets m.shutDown := by
  unfold shutDown
  split <;> exact .of_eq rfl rfl

theorem quiets_abandon (m : SubscriptionManager) : m.Quiets m.abandon := by
  unfold abandon
  dsimp only
  split
  · exact quiets_shutDown m
  · exact (quiets_shutDown m).trans (.of_eq rfl rfl)

/-! ## Recoveries -/

theorem quiets_valueRead (k : ItemKey) (outcome : Except Error (List DataValue))
    (m : SubscriptionManager) : m.Quiets (m.valueRead k outcome) := by
  unfold valueRead
  split <;> exact .of_eq rfl rfl

theorem quiets_endRecovery (id : WorkId) (r : Recovery) (m : SubscriptionManager) :
    m.Quiets (m.endRecovery id r) := by
  have h : (m.endRecovery id r).attempts = m.attempts := by
    unfold endRecovery
    dsimp only
    split <;> rfl
  have h' : (m.endRecovery id r).recoveries = m.recoveries.filter (·.1 != id) := by
    unfold endRecovery
    dsimp only
    split <;> rfl
  rw [Quiets, waits, h, h']
  exact ((List.filter_sublist.filterMap _).append_left _).subset

end SubscriptionManager

/-! ## Service calls -/

/-- What a call waits for that has just begun. -/
def CallStart.waits : CallStart → List SessionWait
  | pending phase _ => phase.wait?.toList
  | failed _ => []

/-- What a call waits for that has gone on. -/
def CallProgress.waits {s : Service} : CallProgress s → List SessionWait
  | pending phase _ => phase.wait?.toList
  | done _ => []

namespace ServiceClient

variable {s : Service}

/-- What was learnt about the session does not change it. -/
theorem proceed_eq (call : ServiceCall s) (news : SessionNews) (c : ServiceClient) :
    (c.proceed call news).1.driver = c.driver ∧
      (c.proceed call news).1.disconnected = c.disconnected ∧
      (c.proceed call news).2.waits ⊆ news.waits := by
  unfold proceed
  split
  · exact ⟨rfl, rfl, List.Subset.refl _⟩
  · exact ⟨rfl, rfl, List.Subset.refl _⟩
  · exact ⟨rfl, rfl, List.Subset.refl _⟩

theorem disconnected_ask (c : ServiceClient) : c.ask.1.disconnected = c.disconnected := by
  unfold ask
  split <;> rfl

/-- A call that waits for the session goes on with its wait. -/
theorem advance_session (call : ServiceCall s) (w : SessionWait) (c : ServiceClient) :
    (c.advance call (.session w)).1 = ((c.resume w).1.proceed call (c.resume w).2).1 ∧
      (c.advance call (.session w)).2.waits =
        ((c.resume w).1.proceed call (c.resume w).2).2.waits := by
  unfold advance
  dsimp only
  split
  · rename_i e
    rw [e]
    exact ⟨rfl, rfl⟩
  · rename_i e
    rw [e]
    exact ⟨rfl, rfl⟩

theorem disconnected_reportFault {α : Type} (session : Session) (outcome : Except Error α)
    (c : ServiceClient) : (c.reportFault session outcome).disconnected = c.disconnected := by
  unfold reportFault
  split
  · split <;> rfl
  · rfl

theorem driver_reportFault {α : Type} (session : Session) (outcome : Except Error α)
    (c : ServiceClient) : (c.reportFault session outcome).driver = c.driver ∨
      ∃ fault e, outcome = .error (.service fault) ∧ fault.endsSession = true ∧
        (c.reportFault session outcome).driver = c.driver.invalidate session e := by
  unfold reportFault
  split
  · rename_i fault
    split
    · rename_i hf
      exact .inr ⟨fault, _, rfl, hf, rfl⟩
    · exact .inl rfl
  · exact .inl rfl

end ServiceClient

namespace Client

variable {c c' c'' : Client} {ws ws' : List SessionWait} {gs gs' : List Session}

/-- From `c` to `c'` callers go on that have learnt something: some may begin to wait, and some
have got sessions. -/
structure Advances (c c' : Client) (ws : List SessionWait) (gs : List Session) : Prop where
  service : c'.service = c.service
  tasks : c'.sessionTasks = c.sessionTasks
  nextCall : c'.nextCall = c.nextCall
  waits : c'.waits ⊆ ws ++ c.waits
  granted : c'.granted ⊆ gs ++ c.granted

/-- From `c` to `c'` callers take steps that concern the session. They may report sessions of `R` as
lost. -/
def Consults (R : Session → Prop) (c c' : Client) : Prop :=
  Relation.ReflTransGen (SessionSide.Stirs R) c.side c'.side

variable {R : Session → Prop}

theorem Consults.refl (c : Client) : c.Consults R c := Relation.ReflTransGen.refl

theorem Consults.trans (h : c.Consults R c') (h' : c'.Consults R c'') : c.Consults R c'' :=
  Relation.ReflTransGen.trans h h'

/-! ## Going on -/

theorem Advances.refl (c : Client) : c.Advances c [] [] :=
  ⟨rfl, rfl, rfl, List.Subset.refl _, List.Subset.refl _⟩

theorem Advances.mono (h : c.Advances c' ws gs) (hw : ws ⊆ ws') (hg : gs ⊆ gs') :
    c.Advances c' ws' gs' :=
  ⟨h.service, h.tasks, h.nextCall,
    List.Subset.trans h.waits (List.append_subset.2
      ⟨List.subset_append_of_subset_left _ hw, List.subset_append_right _ _⟩),
    List.Subset.trans h.granted (List.append_subset.2
      ⟨List.subset_append_of_subset_left _ hg, List.subset_append_right _ _⟩)⟩

theorem Advances.trans (h : c.Advances c' ws gs) (h' : c'.Advances c'' ws' gs') :
    c.Advances c'' (ws' ++ ws) (gs' ++ gs) where
  service := h'.service.trans h.service
  tasks := h'.tasks.trans h.tasks
  nextCall := h'.nextCall.trans h.nextCall
  waits := by
    rw [List.append_assoc]
    refine List.Subset.trans h'.waits (List.append_subset.2 ⟨List.subset_append_left _ _, ?_⟩)
    exact List.subset_append_of_subset_right _ h.waits
  granted := by
    rw [List.append_assoc]
    refine List.Subset.trans h'.granted (List.append_subset.2 ⟨List.subset_append_left _ _, ?_⟩)
    exact List.subset_append_of_subset_right _ h.granted

theorem mem_waits {w : SessionWait} : w ∈ c.waits ↔
    (∃ p ∈ c.calls, p.2.stage.wait? = some w) ∨ ∃ m, c.manager = some m ∧ w ∈ m.waits := by
  unfold waits SubscriptionManager.waits
  rw [List.mem_append, List.mem_filterMap]
  cases c.manager with
  | none => simp
  | some m => simp

theorem advances_setCall (id : CallId) (stage : CallStage) (c : Client) :
    c.Advances (c.setCall id stage) stage.wait?.toList [] := by
  refine ⟨rfl, rfl, rfl, ?_, List.Subset.refl _⟩
  have h := filterMap_set_subset (fun call : Call => call.stage.wait?) id
    (fun call : Call => { call with stage }) (b := stage.wait?) c.calls fun _ => rfl
  intro w hw
  rcases List.mem_append.1 hw with hw | hw
  · rcases List.mem_append.1 (h hw) with hw | hw
    · exact List.mem_append_left _ hw
    · exact List.mem_append_right _ (List.mem_append_left _ hw)
  · exact List.mem_append_right _ (List.mem_append_right _ hw)

theorem advances_finish (id : CallId) (result : CallResult) (c : Client) :
    c.Advances (c.finish id result) [] result.grants :=
  ⟨rfl, rfl, rfl, ((List.filter_sublist.filterMap _).append_right _).subset, by
    rw [granted, finish, List.flatMap_cons]
    exact List.Subset.refl _⟩

theorem advances_withManager {f : SubscriptionManager → SubscriptionManager}
    (hf : ∀ m, (f m).waits ⊆ ws ++ m.waits) (c : Client) : c.Advances (c.withManager f) ws [] := by
  refine ⟨rfl, rfl, rfl, fun w hw => ?_, List.Subset.refl _⟩
  rw [List.mem_append]
  rcases mem_waits.1 hw with hw | ⟨m', hm', hw⟩
  · exact .inr (mem_waits.2 (.inl hw))
  · obtain ⟨m, hm, rfl⟩ := Option.map_eq_some_iff.1 hm'
    rcases List.mem_append.1 (hf m hw) with hw | hw
    · exact .inl hw
    · exact .inr (mem_waits.2 (.inr ⟨m, hm, hw⟩))

theorem advances_of_quiets {f : SubscriptionManager → SubscriptionManager}
    (hf : ∀ m : SubscriptionManager, m.Quiets (f m)) (c : Client) :
    c.Advances (c.withManager f) [] [] :=
  advances_withManager hf c

theorem advances_manager {m m' : SubscriptionManager} (hm : c.manager = some m) (h : m.Quiets m') :
    c.Advances { c with manager := some m' } [] [] := by
  have e : ({ c with manager := some m' } : Client) = c.withManager fun _ => m' := by
    rw [withManager, hm, Option.map_some]
  rw [e]
  refine ⟨rfl, rfl, rfl, fun w hw => ?_, List.Subset.refl _⟩
  rcases mem_waits.1 hw with hw | ⟨m₁, hm₁, hw⟩
  · exact mem_waits.2 (.inl hw)
  · rw [withManager, hm, Option.map_some, Option.some.injEq] at hm₁
    exact mem_waits.2 (.inr ⟨m, hm, h (hm₁ ▸ hw)⟩)

/-! ## Consulting the driver -/

theorem Advances.side_eq (h : c.Advances c' ws gs) :
    c'.side = { c.side with waits := c'.waits, granted := c'.granted } := by
  unfold side driver
  rw [h.service, h.tasks, h.nextCall]

theorem Advances.consults (h : c.Advances c' [] []) : c.Consults R c' := by
  rw [Consults, h.side_eq]
  exact .single (.rests (Nat.le_refl _) h.waits h.granted)

/-- A caller asks for a session. -/
theorem consults_of_ask (service : ServiceClient) (hd : service.driver = c.service.ask.1.driver)
    (hs : service.disconnected = c.service.disconnected)
    (h : ({ c with service } : Client).Advances c' ws gs) (hw : ws ⊆ c.service.ask.2.waits)
    (hg : gs ⊆ c.service.ask.2.grants) : c.Consults R c' := by
  have h := h.mono hw hg
  have e : c'.side = { c.side with
      driver := c.service.ask.1.driver, waits := c'.waits, granted := c'.granted } := by
    rw [h.side_eq]
    unfold side driver
    rw [hd, hs]
  have hwaits : c'.waits ⊆ c.service.ask.2.waits ++ c.side.waits := h.waits
  have hgranted : c'.granted ⊆ c.service.ask.2.grants ++ c.side.granted := h.granted
  rw [Consults, e]
  unfold ServiceClient.ask at hwaits hgranted ⊢
  cases hdis : c.service.disconnected with
  | true =>
    rw [hdis] at hwaits hgranted
    exact .single (.rests (Nat.le_refl _) hwaits hgranted)
  | false =>
    rw [hdis] at hwaits hgranted
    exact .single (.asks hdis hwaits hgranted)

/-- A caller goes on with its wait. -/
theorem consults_of_resume {w : SessionWait} (hm : w ∈ c.waits) (service : ServiceClient)
    (hd : service.driver = (c.driver.resume w).1)
    (hs : service.disconnected = c.service.disconnected)
    (h : ({ c with service } : Client).Advances c' ws gs) (hw : ws ⊆ (c.driver.resume w).2.waits)
    (hg : gs ⊆ (c.driver.resume w).2.grants) : c.Consults R c' := by
  have h := h.mono hw hg
  have e : c'.side = { c.side with
      driver := (c.driver.resume w).1, waits := c'.waits, granted := c'.granted } := by
    rw [h.side_eq]
    unfold side driver
    rw [hd, hs]
  rw [Consults, e]
  exact .single (.resumes hm h.waits h.granted)

theorem consults_of_start {s : Service} (call : ServiceCall s)
    (h : ({ c with service := (c.service.start call).1 } : Client).Advances c' ws [])
    (hw : ws ⊆ (c.service.start call).2.waits) : c.Consults R c' := by
  obtain ⟨hd, hs, hsub⟩ := ServiceClient.proceed_eq call c.service.ask.2 c.service.ask.1
  exact consults_of_ask _ hd (hs.trans (ServiceClient.disconnected_ask _)) h
    (List.Subset.trans hw hsub) (List.nil_subset _)

/-- What a call has come to may be reported to the driver. -/
theorem consults_of_reportFault {α : Type} (session : Session) (outcome : Except Error α)
    (hR : ∀ fault, outcome = .error (.service fault) → fault.endsSession = true → R session)
    (service : ServiceClient) (hd : service.driver = c.driver)
    (hs : service.disconnected = c.service.disconnected)
    (h : ({ c with service := service.reportFault session outcome } : Client).Advances c' [] []) :
    c.Consults R c' := by
  have e : c'.side = { c.side with
      driver := (service.reportFault session outcome).driver
      waits := c'.waits, granted := c'.granted } := by
    rw [h.side_eq]
    unfold side driver
    rw [ServiceClient.disconnected_reportFault, hs]
  rw [Consults, e]
  rcases service.driver_reportFault session outcome with e | ⟨fault, error, ho, hf, e⟩
  · rw [e, hd]
    exact .single (.rests (Nat.le_refl _) h.waits h.granted)
  · rw [e, hd]
    exact .tail (.single (.reports (hR fault ho hf) error)) (.rests (Nat.le_refl _) h.waits h.granted)

/-- A call goes on. -/
theorem consults_of_advance {s : Service} (call : ServiceCall s) {phase : CallPhase}
    (hp : ∀ w, phase.wait? = some w → w ∈ c.waits)
    (hR : ∀ x, c.service.faulted? s phase = some x → R x)
    (h : ({ c with service := (c.service.advance call phase).1 } : Client).Advances c' ws [])
    (hw : ws ⊆ (c.service.advance call phase).2.waits) : c.Consults R c' := by
  cases phase with
  | session w =>
    obtain ⟨hd, hs, hsub⟩ := ServiceClient.proceed_eq call (c.driver.resume w).2
      (c.service.resume w).1
    obtain ⟨e, hwaits⟩ := ServiceClient.advance_session call w c.service
    rw [e] at h
    rw [hwaits] at hw
    exact consults_of_resume (hp w rfl) _ hd hs h (List.Subset.trans hw hsub) (List.nil_subset _)
  | exchange session await =>
    unfold ServiceClient.advance at h hw
    dsimp only at h hw
    cases hout : c.service.outcome? s await with
    | none =>
      rw [hout] at h hw
      exact (h.mono hw (List.nil_subset _)).consults
    | some outcome =>
      rw [hout] at h hw
      have h := h.mono hw (List.Subset.refl _)
      refine consults_of_reportFault session outcome (fun fault ho hf => hR session ?_)
        (c.service.forget await) rfl rfl h
      unfold ServiceClient.faulted?
      dsimp only
      rw [hout, ho]
      exact if_pos hf

/-! ## Calls -/

/-- Only a call for a session gets one. -/
theorem grants_serviceCall {job : Job} {j : JobCall} (h : job.serviceCall? c.service = some j)
    (outcome : Except Error j.service.Answer) : (j.result outcome).grants = [] := by
  cases job <;> cases h <;> rfl

theorem consults_startCall (id : CallId) {j : JobCall}
    (hj : ∀ outcome, (j.result outcome).grants = []) (c : Client) :
    c.Consults R (c.startCall id j).1 := by
  unfold startCall
  dsimp only
  split
  · rename_i e h
    have h := (advances_finish id (j.result (.error (.session e)))
      { c with service := (c.service.start j.call).1 })
    rw [hj] at h
    exact consults_of_start j.call h (List.nil_subset _)
  · rename_i phase posted h
    refine consults_of_start j.call (advances_setCall id (.calling phase) _) ?_
    rw [h]
    exact List.Subset.refl _

theorem consults_advanceCall (id : CallId) {j : JobCall}
    (hj : ∀ outcome, (j.result outcome).grants = []) {phase : CallPhase}
    (hp : ∀ w, phase.wait? = some w → w ∈ c.waits)
    (hR : ∀ x, c.service.faulted? j.service phase = some x → R x) :
    c.Consults R (c.advanceCall id j phase).1 := by
  unfold advanceCall
  dsimp only
  split
  · rename_i phase' posted h
    refine consults_of_advance j.call hp hR (advances_setCall id (.calling phase') _) ?_
    rw [h]
    exact List.Subset.refl _
  · rename_i outcome h
    have h := (advances_finish id (j.result outcome)
      { c with service := (c.service.advance j.call phase).1 })
    rw [hj] at h
    exact consults_of_advance j.call hp hR h (List.nil_subset _)

/-! ## Sessions -/

theorem advances_learn (id : CallId) (job : Job) (news : SessionNews) (c : Client) :
    c.Advances (c.learn id job news) news.waits news.grants := by
  have hstart : c.Advances c.startManager [] [] := by
    refine ⟨rfl, rfl, rfl, fun w hw => ?_, List.Subset.refl _⟩
    rcases mem_waits.1 hw with hw | ⟨m, hm, hw⟩
    · exact mem_waits.2 (.inl hw)
    · cases hm
      cases hw
  cases news with
  | wait w => exact advances_setCall id (.session w) c
  | done outcome =>
    unfold learn
    dsimp only
    split
    · exact (hstart.trans (advances_finish ..)).mono (List.nil_subset _) (List.nil_subset _)
    · exact (advances_finish ..).mono (List.nil_subset _) (List.nil_subset _)
    · cases outcome with
      | ok s => exact advances_finish ..
      | error e => exact advances_finish ..

theorem consults_startSession (id : CallId) (job : Job) (c : Client) :
    c.Consults R (c.startSession id job) :=
  consults_of_ask c.service.ask.1 rfl (ServiceClient.disconnected_ask _)
    (advances_learn id job _ _) (List.Subset.refl _) (List.Subset.refl _)

theorem consults_resumeSession (id : CallId) (job : Job) {w : SessionWait} (hw : w ∈ c.waits) :
    c.Consults R (c.resumeSession id job w) :=
  consults_of_resume hw (c.service.resume w).1 rfl rfl (advances_learn id job _ _)
    (List.Subset.refl _) (List.Subset.refl _)

theorem advances_awaitClose (id : CallId) (job : Job) (c : Client) :
    c.Advances (c.awaitClose id job) [] [] := by
  unfold awaitClose
  split
  · exact advances_setCall id .closing c
  · split <;> exact advances_finish ..

theorem consults_startClose (id : CallId) (job : Job) (c : Client) :
    c.Consults R (c.startClose id job) :=
  have h : c.Consults R (c.withService fun s => { s with driver := s.driver.enqueue (.close id) }) :=
    .single (.closes id)
  h.trans (advances_awaitClose id job _).consults

theorem consults_startDisconnect (id : CallId) (managed : Bool) (c : Client) :
    c.Consults R (c.startDisconnect id managed) := by
  unfold startDisconnect
  dsimp only
  have h : c.Consults R (if managed then c.withManager (·.shutDown) else c) := by
    split
    · exact (advances_of_quiets SubscriptionManager.quiets_shutDown c).consults
    · exact .refl c
  refine h.trans (Consults.trans ?_ (consults_startClose id _ _))
  exact .single .disconnects

theorem consults_advanceSending (id : CallId) (s : Service) (await : Await) (c : Client) :
    c.Consults R (c.advanceSending id s await) := by
  unfold advanceSending
  split
  · exact .refl c
  · have h : c.Consults R (c.withService (·.forget await)) := Relation.ReflTransGen.refl
    exact h.trans (advances_finish id _ _).consults

/-! ## Operations -/

theorem advances_endOperation (id : CallId) (op : PendingOperation)
    (outcome : Except Error op.service.Answer) (c : Client) :
    c.Advances (c.endOperation id op outcome) [] [] := by
  unfold endOperation
  split
  · exact .refl c
  · rename_i m hm
    exact (advances_manager hm (SubscriptionManager.settles_finish ..).quiets).trans (advances_finish ..)

theorem consults_startOperation (id : CallId) (op : Operation) (c : Client) :
    c.Consults R (c.startOperation id op).1 := by
  unfold startOperation
  split
  · exact .refl c
  · rename_i m hm
    have hr := (SubscriptionManager.notes_begin op c.service.clock m).quiets
    split
    · rename_i m' outcome e
      rw [e] at hr
      exact ((advances_manager hm hr).trans (advances_finish ..)).consults
    · rename_i m' op' e
      rw [e] at hr
      have h := advances_manager (c := { c with service := (c.service.start
        (c.operationCall op' m')).1 }) hm hr
      dsimp only at h ⊢
      split
      · rename_i error _
        have h := h.trans (advances_endOperation id op' (.error (.session error)) _)
        exact consults_of_start (c.operationCall op' m') h (List.nil_subset _)
      · rename_i phase posted e
        have h := h.trans (advances_setCall id (.operating op' phase) _)
        refine consults_of_start (c.operationCall op' m') h ?_
        rw [e, List.append_nil]
        exact List.Subset.refl _

theorem consults_advanceOperation (id : CallId) (op : PendingOperation) {phase : CallPhase}
    (hp : ∀ w, phase.wait? = some w → w ∈ c.waits)
    (hR : ∀ x, c.service.faulted? op.service phase = some x → R x) :
    c.Consults R (c.advanceOperation id op phase).1 := by
  unfold advanceOperation
  split
  · exact .refl c
  · dsimp only
    rename_i m _
    split
    · rename_i phase' posted e
      refine consults_of_advance (c.operationCall op m) hp hR
        (advances_setCall id (.operating op phase') _) ?_
      rw [e]
      exact List.Subset.refl _
    · rename_i outcome _
      exact consults_of_advance (c.operationCall op m) hp hR (advances_endOperation id op outcome _)
        (List.nil_subset _)

theorem consults_pollCall (id : CallId) (hR : ∀ x, c.faulted? (.call id) = some x → R x) :
    c.Consults R (c.pollCall id).1 := by
  unfold pollCall
  split
  · exact .refl c
  · rename_i job stage e
    have hw : ∀ w, stage.wait? = some w → w ∈ c.waits := fun w hw =>
      mem_waits.2 (.inl ⟨(id, ⟨job, stage⟩), mem_of_lookup e, hw⟩)
    unfold faulted? at hR
    dsimp only at hR
    rw [e, Option.bind_some] at hR
    split
    · unfold startJob
      split
      · rename_i j hj
        exact consults_startCall id (grants_serviceCall hj) c
      · split
        · exact consults_startClose id .close c
        · exact consults_startDisconnect ..
        · exact (advances_setCall id (.sending _) _).consults
        · exact consults_startOperation ..
        · exact consults_startSession ..
    · exact consults_resumeSession id job (hw _ rfl)
    · exact (advances_awaitClose id job c).consults
    · split
      · rename_i j hj
        dsimp only at hR
        rw [hj, Option.bind_some] at hR
        exact consults_advanceCall id (grants_serviceCall hj) hw hR
      · exact .refl c
    · exact consults_advanceOperation id _ hw hR
    · split
      · exact consults_advanceSending ..
      · exact .refl c

/-! ## Attempts -/

/-- Nothing that the session depends on differs. -/
theorem consults_withService {f : ServiceClient → ServiceClient}
    (hd : (f c.service).driver = c.driver)
    (hs : (f c.service).disconnected = c.service.disconnected) :
    c.Consults R (c.withService f) := by
  have e : (c.withService f).side = c.side := by
    unfold side driver withService
    dsimp only
    rw [hd, hs]
    rfl
  rw [Consults, e]

theorem consults_abandon (phase : CallPhase) (c : Client) :
    c.Consults R (c.withService (·.abandon phase)) := by
  cases phase with
  | session w => exact consults_withService rfl rfl
  | exchange session await => exact consults_withService rfl rfl

theorem advances_completeAttempt (id : WorkId) (a : Attempt)
    (outcome : Except Error PublishAnswer) (c : Client) :
    c.Advances (c.completeAttempt id a outcome) [] [] :=
  advances_of_quiets (SubscriptionManager.quiets_completeAttempt id a outcome _) c

theorem advances_setAttempt (id : WorkId) (phase : CallPhase) (c : Client) :
    c.Advances (c.withManager (·.setAttempt id (.publishing phase))) phase.wait?.toList [] :=
  advances_withManager (SubscriptionManager.waits_setAttempt id (.publishing phase)) c

theorem consults_cancelAttempt (id : WorkId) (a : Attempt) (phase : CallPhase) (c : Client) :
    c.Consults R ((c.withService (·.abandon phase)).cancelAttempt id a) :=
  (consults_abandon phase c).trans (advances_completeAttempt id a _ _).consults

theorem consults_startAttempt (id : WorkId) (a : Attempt) (answerFirst : Bool)
    (m : SubscriptionManager) (c : Client) :
    c.Consults R (c.startAttempt id a answerFirst m).1 := by
  unfold startAttempt suspendAttempt
  dsimp only
  refine (advances_of_quiets (fun m => .of_eq (n := m.startAttempt a) rfl rfl) c).consults.trans ?_
  split
  · split
    · exact consults_of_start a.call (advances_completeAttempt id a _ _) (List.nil_subset _)
    · rename_i phase posted e
      split
      · refine consults_of_start a.call (advances_setAttempt id phase _) ?_
        rw [e]
        exact List.Subset.refl _
      · exact (consults_of_start a.call (.refl _) (List.nil_subset _)).trans
          (consults_cancelAttempt id a phase _)
  · exact (advances_completeAttempt id a _ _).consults

theorem consults_advanceAttempt (id : WorkId) (a : Attempt) {phase : CallPhase}
    (answerFirst : Bool) (m : SubscriptionManager)
    (hp : ∀ w, phase.wait? = some w → w ∈ c.waits)
    (hR : (m.running || answerFirst) = true →
      ∀ x, c.service.faulted? .publish phase = some x → R x) :
    c.Consults R (c.advanceAttempt id a phase answerFirst m).1 := by
  unfold advanceAttempt suspendAttempt
  split
  · rename_i hlooks
    have hR := hR hlooks
    dsimp only
    split
    · rename_i phase' posted e
      split
      · refine consults_of_advance a.call hp hR (advances_setAttempt id phase' _) ?_
        rw [e]
        exact List.Subset.refl _
      · exact (consults_of_advance a.call hp hR (.refl _) (List.nil_subset _)).trans
          (consults_cancelAttempt id a phase' _)
    · exact consults_of_advance a.call hp hR (advances_completeAttempt id a _ _) (List.nil_subset _)
  · exact consults_cancelAttempt id a phase c

theorem consults_pollAttempt (id : WorkId) (answerFirst : Bool)
    (hR : ∀ x, c.faulted? (.attempt id answerFirst) = some x → R x) :
    c.Consults R (c.pollAttempt id answerFirst).1 := by
  unfold pollAttempt
  split
  · exact .refl c
  · rename_i m hm
    split
    · exact .refl c
    · rename_i a ha
      split
      · exact consults_startAttempt id a answerFirst m c
      · rename_i phase e
        refine consults_advanceAttempt id a answerFirst m
          (fun w hw => mem_waits.2 (.inr ⟨m, hm, List.mem_append_left _
            (List.mem_filterMap.2 ⟨(id, a), mem_of_lookup ha, ?_⟩)⟩))
          fun hlooks x hx => hR x ?_
        · rw [e]
          exact hw
        · unfold faulted?
          dsimp only
          rw [hm, Option.bind_some, ha, Option.bind_some, e]
          dsimp only
          rw [if_pos hlooks]
          exact hx
      · dsimp only
        split
        · exact (advances_of_quiets (SubscriptionManager.quiets_endBackoff id) c).consults
        · exact .refl c

/-! ## Recoveries -/

theorem advances_setRecovery (id : WorkId) (stage : RecoveryStage) (c : Client) :
    c.Advances (c.withManager (·.setRecovery id stage)) stage.wait?.toList [] :=
  advances_withManager (SubscriptionManager.waits_setRecovery id stage) c

theorem consults_endRecovery (id : WorkId) (r : Recovery) (c : Client) :
    c.Consults R (c.endRecovery id r).1 :=
  (advances_of_quiets (SubscriptionManager.quiets_endRecovery id r) c).consults

theorem consults_readItems (id : WorkId) (r : Recovery) (ks : List ItemKey) (c : Client) :
    c.Consults R (readItems id r ks c).1 := by
  induction ks generalizing c with
  | nil => exact consults_endRecovery id r c
  | cons k rest ih =>
    unfold readItems
    split
    · exact .refl c
    · rename_i m hm
      split
      · have h := advances_manager (c := { c with service := (c.service.start (c.itemCall k m)).1 })
          hm (SubscriptionManager.Quiets.of_eq (n := m.startRead) rfl rfl)
        dsimp only at h ⊢
        split
        · exact (consults_of_start (c.itemCall k m) h (List.nil_subset _)).trans (ih _)
        · rename_i phase posted e
          have h := h.trans (advances_setRecovery id (.reading k rest phase) _)
          refine consults_of_start (c.itemCall k m) h ?_
          rw [e, List.append_nil]
          exact List.Subset.refl _
      · exact consults_endRecovery id r c

theorem consults_fallBack (id : WorkId) (r : Recovery) (c : Client) :
    c.Consults R (c.fallBack id r).1 := by
  unfold fallBack
  split
  · exact .refl c
  · split
    · refine Consults.trans ?_ (consults_readItems ..)
      exact (advances_of_quiets (fun m => .of_eq (n := m.fallBack) rfl rfl) c).consults
    · exact consults_endRecovery id r c

theorem consults_republishFrom (id : WorkId) (r : Recovery) (number : SequenceNumber)
    (c : Client) : c.Consults R (c.republishFrom id r number).1 := by
  unfold republishFrom
  split
  · exact .refl c
  · split
    · exact consults_endRecovery id r c
    · dsimp only
      split
      · exact (consults_of_start _ (.refl _) (List.nil_subset _)).trans (consults_fallBack ..)
      · rename_i phase posted e
        refine consults_of_start (c.republishCall r.subscription number)
          (advances_setRecovery id (.republishing number (some phase)) _) ?_
        rw [e]
        exact List.Subset.refl _

theorem consults_afterRepublish (id : WorkId) (r : Recovery) (number : SequenceNumber)
    (outcome : Except Error NotificationMessage) (c : Client) :
    c.Consults R (c.afterRepublish id r number outcome).1 := by
  unfold afterRepublish
  split
  · exact consults_fallBack id r c
  · rename_i message
    split
    · refine Consults.trans ?_ (consults_republishFrom ..)
      exact (advances_of_quiets
        (fun m => .of_eq (n := m.republished r.subscription message) rfl rfl) c).consults
    · exact consults_fallBack id r c

theorem consults_pollRecovery (id : WorkId) (hR : ∀ x, c.faulted? (.recovery id) = some x → R x) :
    c.Consults R (c.pollRecovery id).1 := by
  unfold pollRecovery
  split
  · exact .refl c
  · rename_i m hm
    split
    · exact .refl c
    · rename_i r hr
      have hw : ∀ w, r.stage.wait? = some w → w ∈ c.waits := fun w hw =>
        mem_waits.2 (.inr ⟨m, hm, List.mem_append_right _
          (List.mem_filterMap.2 ⟨(id, r), mem_of_lookup hr, hw⟩)⟩)
      unfold faulted? at hR
      dsimp only at hR
      rw [hm, Option.bind_some, hr, Option.bind_some] at hR
      split
      · exact consults_republishFrom ..
      · rename_i number phase e
        rw [e] at hw hR
        dsimp only
        split
        · rename_i phase' posted e
          refine consults_of_advance (c.republishCall r.subscription number) hw hR
            (advances_setRecovery id (.republishing number (some phase')) _) ?_
          rw [e]
          exact List.Subset.refl _
        · exact (consults_of_advance (c.republishCall r.subscription number) hw hR (.refl _)
            (List.nil_subset _)).trans (consults_afterRepublish ..)
      · rename_i k rest phase e
        rw [e] at hw hR
        dsimp only
        split
        · rename_i phase' posted e
          refine consults_of_advance (c.itemCall k m) hw hR
            (advances_setRecovery id (.reading k rest phase') _) ?_
          rw [e]
          exact List.Subset.refl _
        · rename_i outcome e
          refine (consults_of_advance (c.itemCall k m) hw hR
            (advances_of_quiets (SubscriptionManager.quiets_valueRead k outcome) _)
            (List.nil_subset _)).trans (consults_readItems ..)

/-! ## Letting go -/

theorem consults_requestShutdown (b : Bool) (c : Client) :
    c.Consults R (if b then c.withService fun s =>
      { s with driver := s.driver.requestShutdown } else c) := by
  split
  · exact .single .leaves
  · exact .refl c

theorem consults_releaseManager (b : Bool) (c : Client) :
    c.Consults R (if b then c else c.withManager (·.abandon)) := by
  split
  · exact .refl c
  · exact (advances_of_quiets SubscriptionManager.quiets_abandon c).consults

theorem consults_reclaim (c : Client) : c.Consults R c.reclaim := by
  unfold reclaim
  split
  · exact (consults_releaseManager _ c).trans (consults_requestShutdown _ _)
  · exact .refl c

/-! ## All that may happen -/

theorem consults_begin (job : Job) (c : Client) : c.Consults R (c.begin job).2 := by
  have hw : (c.begin job).2.waits ⊆ c.waits := by
    intro w hw
    rcases mem_waits.1 hw with ⟨p, hp, hw⟩ | h
    · rcases List.mem_append.1 hp with hp | hp
      · exact mem_waits.2 (.inl ⟨p, hp, hw⟩)
      · rw [List.mem_singleton.1 hp] at hw
        cases hw
    · exact mem_waits.2 (.inr h)
  exact .single (.rests (Nat.le_succ _) hw (List.Subset.refl _))

theorem consults_cancel (id : CallId) (c : Client) :
    c.Consults R { c with calls := c.calls.filter (·.1 != id) } :=
  Advances.consults ⟨rfl, rfl, rfl,
    ((List.filter_sublist.filterMap _).append_right _).subset, List.Subset.refl _⟩

/-- What callers do, one of which may have been told that a session is lost. -/
theorem consults_undergo (h : Happening) (hR : ∀ x, c.reports h = some x → R x) :
    c.Consults R (c.undergo h) ∨ h = .act (.run .driver) ∨ (∃ id, h = .act (.run (.session id))) ∨
      ∃ e, h = .act (.inject e) := by
  cases h with
  | cancel id => exact .inl (consults_cancel id c)
  | act a =>
    cases a with
    | call job manages => exact .inl (consults_begin job c)
    | run t =>
      cases t with
      | driver => exact .inr (.inl rfl)
      | processing =>
        exact .inl (advances_of_quiets SubscriptionManager.quiets_processTurn c).consults
      | delivery =>
        exact .inl (advances_of_quiets SubscriptionManager.quiets_deliverTurn c).consults
      | session id => exact .inr (.inr (.inl ⟨id, rfl⟩))
      | call id => exact .inl (consults_pollCall id hR)
      | attempt id answerFirst => exact .inl (consults_pollAttempt id answerFirst hR)
      | recovery id => exact .inl (consults_pollRecovery id hR)
    | reclaim => exact .inl (consults_reclaim c)
    | release =>
      have h : c.Consults R { c with released := true } := Relation.ReflTransGen.refl
      exact .inl (h.trans (consults_reclaim _))
    | reply | elapse | takeHandle => exact .inl (consults_withService rfl rfl)
    | inject e => exact .inr (.inr (.inr ⟨e, rfl⟩))
    | invalidate s e => exact .inl (.single (.reports (hR s rfl) e))
    | shutDown => exact .inl (advances_of_quiets SubscriptionManager.quiets_shutDown c).consults
    | listen l =>
      exact .inl (advances_of_quiets (fun m => .of_eq (n := m.addListener l) rfl rfl) c).consults
    | attach k callbacks =>
      exact .inl
        (advances_of_quiets (fun m => .of_eq (n := m.setCallbacks k callbacks) rfl rfl) c).consults

/-- What happens to a client is a step of the part that its session depends on. -/
theorem step_undergo (hn : c.side.Numbered) (h : Happening) :
    c.side.Step h (c.falters h) (c.undergo h).side := by
  rcases consults_undergo h (fun _ _ => trivial) with hs | rfl | ⟨id, rfl⟩ | ⟨e, rfl⟩
  · exact .stirred hs
  · have e : (c.undergo (.act (.run .driver))).side = c.side.turn := side_runCommands c
    exact e ▸ .turned rfl
  · exact step_pollSessionTask hn id
  · exact .injected rfl

theorem IsNew.numbered (hc : c.IsNew) : c.side.Numbered := by
  cases hc <;> exact ⟨List.nodup_nil, nofun⟩

theorem IsNew.numbered_later (hc : c.IsNew) (hs : List Happening) : (c.later hs).side.Numbered := by
  induction hs using List.reverseRecOn with
  | nil => exact hc.numbered
  | append_singleton hs h ih =>
    rw [later_snoc]
    exact ih.step (step_undergo ih h)

/-- The steps that a run takes. -/
theorem IsNew.step (hc : c.IsNew) (hs : List Happening) (h : Happening) :
    (c.later hs).side.Step h ((c.later hs).falters h) (c.later (hs ++ [h])).side := by
  rw [later_snoc]
  exact step_undergo (hc.numbered_later hs) h

end Client

end OpcUa
