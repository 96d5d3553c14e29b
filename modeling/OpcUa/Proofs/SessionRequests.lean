import OpcUa.Proofs.CallCourse
import OpcUa.Proofs.Disconnecting
import OpcUa.Proofs.SessionFaults

/-!
# Who asks for a session

A caller that asks for a session puts a request before the driver, and waits for the present promise
if that is not resolved yet. So as long as no caller gives up, an attempt to get a session is one
that somebody waits for, unless it is begun for a request that is older than its promise: that of a
caller whose own attempt has failed meanwhile.

* `Client.Engages`: who asks for a session that is not there yet waits for it.
* `Client.NeverDrops`: no caller gives up its wait.
* `Client.LeftOver`: the next request is older than the present promise.
* `Client.attempts_are_awaited`: the attempts of a driver.
* `Client.attempt_for_nobody`: a request that is left over begins an attempt.
-/

namespace OpcUa

namespace SessionDriver

variable {d d' d'' : SessionDriver}

/-- From `d` to `d'` nobody asks for a session. -/
def Unasked (d d' : SessionDriver) : Prop := ∃ cs, d'.commands = d.commands ++ cs ∧ NoRequest cs

theorem Unasked.of_eq (h : d' = d) : d.Unasked d' :=
  ⟨[], by rw [h, List.append_nil], List.forall_mem_nil _⟩

theorem unasked_enqueue {c : SessionCommand} (hc : c.event? ≠ some .sessionRequested)
    (d : SessionDriver) : d.Unasked (d.enqueue c) := by
  unfold enqueue
  split
  · exact .of_eq rfl
  · exact ⟨[c], rfl, fun c' hm => List.mem_singleton.1 hm ▸ hc⟩

theorem unasked_invalidate (s : Session) (e : SessionError) (d : SessionDriver) :
    d.Unasked (d.invalidate s e) := by
  unfold invalidate
  split
  · split
    · exact unasked_enqueue (d := d.revoke s) (by simp [SessionCommand.event?])
    · exact .of_eq rfl
  · exact .of_eq rfl

theorem unasked_requestShutdown (d : SessionDriver) : d.Unasked d.requestShutdown := by
  unfold requestShutdown
  split
  · exact .of_eq rfl
  · exact unasked_enqueue (by simp [SessionCommand.event?]) d

theorem current?_of_none (h : d.present = none) : d.current? = none := by
  unfold current?
  rw [h]
  cases d.state <;> rfl

/-- Whoever asks for a session, or has to ask once more, waits for the present promise if that is
open. -/
theorem ask_of_none (h : d.present = none) :
    d.ask.1 = d ∨ d.ask.2 = .wait (.outcome d.promise) := by
  unfold ask
  split
  · exact .inl rfl
  · rename_i hd
    refine .inr ?_
    rw [enqueue_of_running (Bool.eq_false_iff.2 hd)]
    unfold look
    dsimp only
    rw [h]
    rfl

theorem resume_of_none (h : d.present = none) (w : SessionWait) :
    (d.resume w).1 = d ∨ (d.resume w).2 = .wait (.outcome d.promise) := by
  unfold resume
  repeat' split
  all_goals first | exact .inl rfl | exact ask_of_none h

end SessionDriver

namespace ServiceClient

variable {c : ServiceClient} {s : Service}

theorem ask_of_none (h : c.driver.present = none) :
    c.ask.1.driver = c.driver ∨ c.ask.2 = .wait (.outcome c.driver.promise) := by
  unfold ask
  split
  · exact .inl rfl
  · exact SessionDriver.ask_of_none h

theorem start_of_none (h : c.driver.present = none) (call : ServiceCall s) :
    (c.start call).1.driver = c.driver ∨
      (c.start call).2 = .pending (.session (.outcome c.driver.promise)) none := by
  unfold start
  dsimp only
  rw [(proceed_eq call c.ask.2 c.ask.1).1]
  refine (ask_of_none h).imp_right fun e => ?_
  rw [e]
  rfl

theorem advance_of_none (h : c.driver.present = none) (call : ServiceCall s) (phase : CallPhase) :
    (c.advance call phase).1.driver = c.driver ∨
      (c.advance call phase).2 = .pending (.session (.outcome c.driver.promise)) none := by
  cases phase with
  | session w =>
    rw [(advance_session call w c).1, (proceed_eq call (c.resume w).2 (c.resume w).1).1]
    refine (SessionDriver.resume_of_none h w).imp_right fun e => ?_
    have e : (c.resume w).2 = .wait (.outcome c.driver.promise) := e
    unfold advance
    dsimp only
    rw [e]
    rfl
  | exchange session await =>
    refine .inl ?_
    unfold advance
    dsimp only
    split
    · rfl
    · rename_i outcome _
      rcases driver_reportFault session outcome (c.forget await) with e | ⟨_, e', -, -, e⟩
      · exact e
      · refine e.trans ?_
        unfold SessionDriver.invalidate
        rw [show (c.forget await).driver.current? = none from SessionDriver.current?_of_none h]
        rfl

end ServiceClient

namespace Client

variable {c c' c'' : Client} {id : CallId} {w : SessionWait}

/-! ## Who waits -/

theorem mem_waits_setCall {call : Call} (stage : CallStage) (hl : c.calls.lookup id = some call)
    (hw : stage.wait? = some w) : w ∈ (c.setCall id stage).waits :=
  mem_waits.2 (.inl ⟨_, mem_of_lookup (lookup_setCall hl stage), hw⟩)

/-- The recovery `id` is in progress. -/
def Recovers (id : WorkId) (c : Client) : Prop :=
  ∃ m r, c.manager = some m ∧ m.recovery? id = some r

theorem mem_waits_setRecovery {id : WorkId} (stage : RecoveryStage) (h : c.Recovers id)
    (hw : stage.wait? = some w) : w ∈ (c.withManager (·.setRecovery id stage)).waits := by
  obtain ⟨m, r, hm, hr⟩ := h
  refine mem_waits.2 (.inr ⟨_, by rw [withManager, hm, Option.map_some], ?_⟩)
  refine List.mem_append_right _ (List.mem_filterMap.2 ⟨(id, { r with stage }), ?_, hw⟩)
  exact mem_of_lookup ((lookup_map_self fun r : Recovery => { r with stage }).trans (by
    rw [show m.recoveries.lookup id = some r from hr]
    rfl))

/-! ## Who gives up -/

/-- What an attempt begins to wait for when it runs. -/
def begun (c : Client) (h : Happening) : List SessionWait :=
  match h with
  | .act (.run (.attempt id answerFirst)) =>
    match c.managed.attempt? id with
    | none => []
    | some a =>
      if c.managed.running || answerFirst then
        match a.stage with
        | .armed => (c.service.start a.call).2.waits
        | .publishing phase => (c.service.advance a.call phase).2.waits
        | .backingOff _ => []
      else []
  | _ => []

/-- Whether a caller gives up its wait. The attempt of a manager that is shut down may do so as soon
as it begins to wait. -/
def drops (c : Client) (h : Happening) : Bool :=
  (c.waits ++ c.begun h).any fun w => !c.driver.isOver w && !(c.undergo h).waits.contains w

/-- Who waits for a promise that is open, or begins to, goes on to wait. -/
theorem mem_waits_of_drops {h : Happening} (hd : c.drops h = false) (hp : c.driver.present = none)
    (hw : .outcome c.driver.promise ∈ c.waits ++ c.begun h) :
    .outcome c.driver.promise ∈ (c.undergo h).waits := by
  have hover : c.driver.isOver (.outcome c.driver.promise) = false := by
    simp [SessionDriver.isOver, SessionDriver.outcome?_promise, hp, SessionDriver.isRetired]
  have h := List.any_eq_false.1 hd _ hw
  rw [hover] at h
  exact List.contains_iff_mem.1 (by simpa using h)

/-! ## Who asks -/

/-- Whoever asks for a session from `c` to `c'`, when the present promise is open, waits for it
then. -/
def Engages (c c' : Client) : Prop :=
  c.driver.present = none →
    c.driver.Unasked c'.driver ∨ .outcome c.driver.promise ∈ c'.waits

theorem Engages.of_unasked (h : c.driver.Unasked c'.driver) : c.Engages c' := fun _ => .inl h

theorem Engages.of_eq (h : c'.driver = c.driver) : c.Engages c' := .of_unasked (.of_eq h)

/-- Nobody asks at first. -/
theorem Engages.of_same (h : c'.Engages c'') (hd : c.driver.present = none → c'.driver = c.driver) :
    c.Engages c'' := by
  intro hp
  have e := hd hp
  unfold Engages at h
  rw [e] at h
  exact h hp

theorem engages_of_start_of_mem {s : Service} (call : ServiceCall s)
    (hd : c'.driver = (c.service.start call).1.driver)
    (hw : c.driver.present = none →
      .outcome c.driver.promise ∈ (c.service.start call).2.waits →
        .outcome c.driver.promise ∈ c'.waits) : c.Engages c' := by
  intro hp
  refine (ServiceClient.start_of_none hp call).imp (fun e => .of_eq (hd.trans e))
    fun e => hw hp ?_
  rw [e]
  exact List.mem_singleton_self _

theorem engages_of_start {s : Service} (call : ServiceCall s)
    (hd : c'.driver = (c.service.start call).1.driver)
    (hw : (c.service.start call).2.waits ⊆ c'.waits) : c.Engages c' :=
  engages_of_start_of_mem call hd fun _ hm => hw hm

theorem engages_of_advance_of_mem {s : Service} (call : ServiceCall s) (phase : CallPhase)
    (hd : c'.driver = (c.service.advance call phase).1.driver)
    (hw : c.driver.present = none →
      .outcome c.driver.promise ∈ (c.service.advance call phase).2.waits →
        .outcome c.driver.promise ∈ c'.waits) : c.Engages c' := by
  intro hp
  refine (ServiceClient.advance_of_none hp call phase).imp (fun e => .of_eq (hd.trans e))
    fun e => hw hp ?_
  rw [e]
  exact List.mem_singleton_self _

theorem engages_of_advance {s : Service} (call : ServiceCall s) (phase : CallPhase)
    (hd : c'.driver = (c.service.advance call phase).1.driver)
    (hw : (c.service.advance call phase).2.waits ⊆ c'.waits) : c.Engages c' :=
  engages_of_advance_of_mem call phase hd fun _ hm => hw hm

theorem toList_wait_subset {phase : CallPhase} {ws : List SessionWait}
    (h : ∀ w, phase.wait? = some w → w ∈ ws) : phase.wait?.toList ⊆ ws :=
  fun w hw => h w (Option.mem_toList.1 hw)

section

variable {call : Call} (hl : c.calls.lookup id = some call)

include hl

theorem engages_startCall (j : JobCall) : c.Engages (c.startCall id j).1 := by
  unfold startCall
  dsimp only
  split
  · rename_i e
    exact engages_of_start j.call rfl (e ▸ List.nil_subset _)
  · rename_i phase posted e
    refine engages_of_start j.call rfl ?_
    rw [e]
    exact toList_wait_subset fun w hw => mem_waits_setCall (.calling phase) hl hw

theorem engages_advanceCall (j : JobCall) (phase : CallPhase) :
    c.Engages (c.advanceCall id j phase).1 := by
  unfold advanceCall
  dsimp only
  split
  · rename_i phase' posted e
    refine engages_of_advance j.call phase rfl ?_
    rw [e]
    exact toList_wait_subset fun w hw => mem_waits_setCall (.calling phase') hl hw
  · rename_i e
    exact engages_of_advance j.call phase rfl (e ▸ List.nil_subset _)

/-- A call goes on with what it has learnt. -/
theorem engages_learn {job : Job} {service : ServiceClient} {news : SessionNews}
    (h : c.driver.present = none →
      service.driver = c.driver ∨ news = .wait (.outcome c.driver.promise)) :
    c.Engages ({ c with service }.learn id job news) := by
  intro hp
  refine (h hp).imp (fun e => .of_eq (Eq.trans ?_ e)) fun e => ?_
  · exact congrArg ServiceClient.driver (advances_learn id job news { c with service }).service
  · rw [e]
    exact mem_waits_setCall (c := { c with service }) _ hl rfl

theorem engages_startSession (job : Job) : c.Engages (c.startSession id job) :=
  engages_learn hl fun hp => ServiceClient.ask_of_none hp

theorem engages_resumeSession (job : Job) (w : SessionWait) :
    c.Engages (c.resumeSession id job w) :=
  engages_learn hl fun hp => SessionDriver.resume_of_none hp w

theorem engages_startOperation (op : Operation) : c.Engages (c.startOperation id op).1 := by
  unfold startOperation
  split
  · exact .of_eq rfl
  · split
    · exact .of_eq rfl
    · rename_i m' op' _
      dsimp only
      split
      · rename_i e he
        dsimp only
        refine engages_of_start (c.operationCall op' m') ?_ (he ▸ List.nil_subset _)
        unfold endOperation
        rfl
      · rename_i phase posted he
        refine engages_of_start (c.operationCall op' m') rfl ?_
        rw [he]
        exact toList_wait_subset fun w hw => mem_waits_setCall (.operating op' phase)
          (c := { c with service := _, manager := some m' }) hl hw

theorem engages_advanceOperation (op : PendingOperation) (phase : CallPhase) :
    c.Engages (c.advanceOperation id op phase).1 := by
  unfold advanceOperation
  split
  · exact .of_eq rfl
  · rename_i m _
    dsimp only
    split
    · rename_i phase' posted he
      refine engages_of_advance (c.operationCall op m) phase rfl ?_
      rw [he]
      exact toList_wait_subset fun w hw => mem_waits_setCall (.operating op phase')
        (c := { c with service := _ }) hl hw
    · rename_i outcome he
      refine engages_of_advance (c.operationCall op m) phase ?_
        (he ▸ List.nil_subset _)
      exact congrArg ServiceClient.driver (advances_endOperation id op outcome _).service

theorem engages_startJob (job : Job) : c.Engages (c.startJob id job).1 := by
  unfold startJob
  split
  · exact engages_startCall hl _
  · split
    · refine .of_unasked ?_
      have e : (c.startClose id .close).driver = c.driver.enqueue (.close id) :=
        congrArg ServiceClient.driver (advances_awaitClose id .close _).service
      exact e ▸ SessionDriver.unasked_enqueue (by simp [SessionCommand.event?]) _
    · rename_i managed _
      refine .of_unasked ?_
      have e : (c.startDisconnect id managed).driver = c.driver.enqueue (.close id) := by
        unfold startDisconnect startClose
        refine (congrArg ServiceClient.driver (advances_awaitClose id _ _).service).trans ?_
        cases managed <;> rfl
      exact e ▸ SessionDriver.unasked_enqueue (by simp [SessionCommand.event?]) _
    · exact .of_eq rfl
    · exact engages_startOperation hl _
    · exact engages_startSession hl _

end

theorem engages_pollCall (id : CallId) (c : Client) : c.Engages (c.pollCall id).1 := by
  unfold pollCall
  split
  · exact .of_eq rfl
  · rename_i job stage hl
    split
    · exact engages_startJob hl job
    · exact engages_resumeSession hl job _
    · exact .of_eq (congrArg ServiceClient.driver (advances_awaitClose id job c).service)
    · split
      · exact engages_advanceCall hl _ _
      · exact .of_eq rfl
    · exact engages_advanceOperation hl _ _
    · split
      · unfold advanceSending
        split <;> exact .of_eq rfl
      · exact .of_eq rfl

/-! ## Attempts and recoveries -/

theorem driver_cancelAttempt (id : WorkId) (a : Attempt) (phase : CallPhase) (c : Client) :
    ((c.withService (·.abandon phase)).cancelAttempt id a).driver = c.driver := by
  cases phase <;> rfl

theorem driver_suspendAttempt (id : WorkId) (a : Attempt) (phase : CallPhase)
    (posted : Option Posted) (m : SubscriptionManager) (c : Client) :
    (c.suspendAttempt id a phase posted m).1.driver = c.driver := by
  unfold suspendAttempt
  split
  · rfl
  · exact driver_cancelAttempt id a phase c

theorem driver_startAttempt (id : WorkId) (a : Attempt) (answerFirst : Bool)
    (m : SubscriptionManager) (c : Client) : (c.startAttempt id a answerFirst m).1.driver =
      if m.running || answerFirst then (c.service.start a.call).1.driver else c.driver := by
  unfold startAttempt
  dsimp only
  split
  · split
    · rfl
    · exact driver_suspendAttempt ..
  · rfl

theorem driver_advanceAttempt (id : WorkId) (a : Attempt) (phase : CallPhase) (answerFirst : Bool)
    (m : SubscriptionManager) (c : Client) : (c.advanceAttempt id a phase answerFirst m).1.driver =
      if m.running || answerFirst then (c.service.advance a.call phase).1.driver
      else c.driver := by
  unfold advanceAttempt
  dsimp only
  split
  · split
    · exact driver_suspendAttempt ..
    · rfl
  · exact driver_cancelAttempt id a phase c

/-- An attempt that asks for the session waits for it, unless it gives up at once. -/
theorem engages_pollAttempt {id : WorkId} {answerFirst : Bool}
    (hd : c.drops (.act (.run (.attempt id answerFirst))) = false) :
    c.Engages (c.pollAttempt id answerFirst).1 := by
  have hwaits (hp : c.driver.present = none)
      (hw : .outcome c.driver.promise ∈ c.begun (.act (.run (.attempt id answerFirst)))) :
      .outcome c.driver.promise ∈ (c.pollAttempt id answerFirst).1.waits :=
    mem_waits_of_drops hd hp (List.mem_append_right _ hw)
  revert hwaits
  unfold pollAttempt begun
  cases hm : c.manager with
  | none => exact fun _ => .of_eq rfl
  | some m =>
    dsimp only
    rw [managed_of_eq hm]
    cases m.attempt? id with
    | none => exact fun _ => .of_eq rfl
    | some a =>
      intro hwaits
      dsimp only at hwaits ⊢
      by_cases hlooks : (m.running || answerFirst) = true
      · rw [if_pos hlooks] at hwaits
        split
        · rename_i hs
          refine engages_of_start_of_mem a.call ?_ ?_
          · rw [driver_startAttempt, if_pos hlooks]
          · rwa [hs] at hwaits
        · rename_i phase hs
          refine engages_of_advance_of_mem a.call phase ?_ ?_
          · rw [driver_advanceAttempt, if_pos hlooks]
          · rwa [hs] at hwaits
        · dsimp only
          split <;> exact .of_eq rfl
      · split
        · exact .of_eq (by rw [driver_startAttempt, if_neg hlooks])
        · exact .of_eq (by rw [driver_advanceAttempt, if_neg hlooks])
        · dsimp only
          split <;> exact .of_eq rfl

theorem Recovers.withManager {id : WorkId} (h : c.Recovers id)
    {f : SubscriptionManager → SubscriptionManager} (hf : ∀ m, (f m).recoveries = m.recoveries) :
    (c.withManager f).Recovers id := by
  obtain ⟨m, r, hm, hr⟩ := h
  refine ⟨f m, r, by rw [Client.withManager, hm, Option.map_some], ?_⟩
  rw [SubscriptionManager.recovery?, hf]
  exact hr

theorem engages_readItems (id : WorkId) (r : Recovery) (ks : List ItemKey) {c : Client}
    (h : c.Recovers id) : c.Engages (readItems id r ks c).1 := by
  induction ks generalizing c with
  | nil => exact .of_eq rfl
  | cons k rest ih =>
    unfold readItems
    split
    · exact .of_eq rfl
    · rename_i m hm
      have hrec : ({ c with manager := some m.startRead } : Client).Recovers id := by
        obtain ⟨m', r, hm', hr⟩ := h
        cases hm.symm.trans hm'
        exact ⟨m.startRead, r, rfl, hr⟩
      split
      · dsimp only
        split
        · rename_i e he
          refine (ih (c := { c with
            service := (c.service.start (c.itemCall k m)).1
            manager := some m.startRead }) hrec).of_same fun hp => ?_
          refine (ServiceClient.start_of_none hp (c.itemCall k m)).resolve_right fun e' => ?_
          rw [he] at e'
          cases e'
        · rename_i phase posted he
          refine engages_of_start (c.itemCall k m) rfl ?_
          rw [he]
          exact toList_wait_subset fun w hw => mem_waits_setRecovery
            (c := { c with service := _, manager := some m.startRead })
            (.reading k rest phase) hrec hw
      · exact .of_eq rfl

theorem engages_fallBack (id : WorkId) (r : Recovery) (h : c.Recovers id) :
    c.Engages (c.fallBack id r).1 := by
  unfold fallBack
  split
  · exact .of_eq rfl
  · split
    · have h := h.withManager (f := (·.fallBack)) fun _ => rfl
      exact (engages_readItems id r _ h).of_same fun _ => rfl
    · exact .of_eq rfl

theorem engages_republishFrom (id : WorkId) (r : Recovery) (number : SequenceNumber)
    (h : c.Recovers id) : c.Engages (c.republishFrom id r number).1 := by
  unfold republishFrom
  split
  · exact .of_eq rfl
  · split
    · exact .of_eq rfl
    · dsimp only
      split
      · rename_i e he
        refine (engages_fallBack (c := { c with
          service := (c.service.start (c.republishCall r.subscription number)).1 }) id r h).of_same
          fun hp => ?_
        refine (ServiceClient.start_of_none hp
          (c.republishCall r.subscription number)).resolve_right fun e' => ?_
        rw [he] at e'
        cases e'
      · rename_i phase posted he
        refine engages_of_start (c.republishCall r.subscription number) rfl ?_
        rw [he]
        exact toList_wait_subset fun w hw => mem_waits_setRecovery (c := { c with service := _ })
          (.republishing number (some phase)) h hw

theorem engages_afterRepublish (id : WorkId) (r : Recovery) (number : SequenceNumber)
    (outcome : Except Error NotificationMessage) (h : c.Recovers id) :
    c.Engages (c.afterRepublish id r number outcome).1 := by
  unfold afterRepublish
  split
  · exact engages_fallBack id r h
  · rename_i message
    split
    · have h := h.withManager (f := (·.republished r.subscription message)) fun _ => rfl
      exact (engages_republishFrom id r _ h).of_same fun _ => rfl
    · exact engages_fallBack id r h

theorem engages_pollRecovery (id : WorkId) (c : Client) : c.Engages (c.pollRecovery id).1 := by
  unfold pollRecovery
  split
  · exact .of_eq rfl
  · rename_i m hm
    split
    · exact .of_eq rfl
    · rename_i r hr
      have h : c.Recovers id := ⟨m, r, hm, hr⟩
      split
      · exact engages_republishFrom id r _ h
      · rename_i number phase _
        dsimp only
        split
        · rename_i phase' posted he
          refine engages_of_advance (c.republishCall r.subscription number)
            phase rfl ?_
          rw [he]
          exact toList_wait_subset fun w hw => mem_waits_setRecovery
            (c := { c with service := _ }) (.republishing number (some phase')) h hw
        · rename_i outcome he
          refine (engages_afterRepublish (c := { c with
            service := (c.service.advance (c.republishCall r.subscription number) phase).1 }) id r
            number outcome h).of_same fun hp => ?_
          refine (ServiceClient.advance_of_none hp (c.republishCall r.subscription number)
            phase).resolve_right fun e' => ?_
          rw [he] at e'
          cases e'
      · rename_i k rest phase _
        dsimp only
        split
        · rename_i phase' posted he
          refine engages_of_advance (c.itemCall k m) phase rfl ?_
          rw [he]
          exact toList_wait_subset fun w hw => mem_waits_setRecovery
            (c := { c with service := _ }) (.reading k rest phase') h hw
        · rename_i outcome he
          have h' := Recovers.withManager (c := { c with
              service := (c.service.advance (c.itemCall k m) phase).1 }) h
            (f := (·.valueRead k outcome)) fun m => by
              unfold SubscriptionManager.valueRead
              split <;> rfl
          refine (engages_readItems id r rest h').of_same fun hp => ?_
          refine (ServiceClient.advance_of_none hp (c.itemCall k m) phase).resolve_right
            fun e' => ?_
          rw [he] at e'
          cases e'

/-! ## All that may happen -/

theorem engages_pollSessionTask (id : CallId) (c : Client) :
    c.Engages (c.pollSessionTask id).1 := by
  refine .of_unasked ?_
  cases ht : c.sessionTasks.lookup id with
  | none =>
    simp only [pollSessionTask, ht]
    exact .of_eq rfl
  | some t =>
    cases hawait : t.await with
    | none =>
      simp only [pollSessionTask, ht, ServiceClient.advanceTask, hawait]
      exact .of_eq rfl
    | some await =>
      cases hout : c.service.outcome? t.exchange.service await with
      | none =>
        simp only [pollSessionTask, ht, ServiceClient.advanceTask, hawait, hout]
        exact .of_eq rfl
      | some outcome =>
        simp only [pollSessionTask, ht, ServiceClient.advanceTask, hawait, hout]
        change c.driver.Unasked
          ((c.service.forget await).conclude t.epoch t.exchange outcome).driver
        obtain ⟨-, ⟨event, d, hd, e⟩ | ⟨e, -⟩⟩ :=
          driver_conclude t.epoch (c.service.forget await) t.exchange outcome
        · rw [e]
          have hne := hd.endsWith.ne_sessionRequested
          obtain ⟨key, keys, rfl⟩ := hd.eq
          exact SessionDriver.unasked_enqueue (c := .event (some t.epoch) event)
            (fun h => hne (Option.some.inj h)) _
        · exact .of_eq e

theorem engages_reclaim (c : Client) : c.Engages c.reclaim := by
  refine .of_unasked ?_
  unfold reclaim
  dsimp only
  split
  · split
    · split
      · exact SessionDriver.unasked_requestShutdown _
      · exact .of_eq rfl
    · split
      · exact SessionDriver.unasked_requestShutdown _
      · exact .of_eq rfl
  · exact .of_eq rfl

/-- Whoever asks for a session that is not there yet waits for it, if nobody gives up. -/
theorem engages_undergo {h : Happening} (hd : c.drops h = false) (hr : h.requests = false)
    (ht : h ≠ .act (.run .driver)) : c.Engages (c.undergo h) := by
  cases h with
  | cancel id => exact .of_eq rfl
  | act a =>
    cases a with
    | run t =>
      cases t with
      | driver => exact absurd rfl ht
      | processing | delivery => exact .of_eq rfl
      | session id => exact engages_pollSessionTask id c
      | call id => exact engages_pollCall id c
      | attempt id answerFirst => exact engages_pollAttempt hd
      | recovery id => exact engages_pollRecovery id c
    | reclaim => exact engages_reclaim c
    | release => exact (engages_reclaim { c with released := true }).of_same fun _ => rfl
    | inject e =>
      refine .of_unasked (SessionDriver.unasked_enqueue (c := .event none e) (fun h => ?_) _)
      cases h
      cases hr
    | invalidate s e => exact .of_unasked (SessionDriver.unasked_invalidate s e _)
    | call | reply | elapse | takeHandle | shutDown | listen | attach => exact .of_eq rfl

/-! ## Requests and promises -/

/-- No caller gives up its wait before that is over. -/
def NeverDrops (hs : List Happening) (c : Client) : Prop := c.tally drops hs = 0

instance (hs : List Happening) (c : Client) : Decidable (c.NeverDrops hs) :=
  inferInstanceAs (Decidable (_ = _))

theorem neverDrops_snoc {hs : List Happening} {h : Happening} :
    c.NeverDrops (hs ++ [h]) ↔ c.NeverDrops hs ∧ (c.later hs).drops h = false := by
  rw [NeverDrops, NeverDrops, tally_snoc, Nat.add_eq_zero_iff, Bool.toNat_eq_zero]

/-- The command that the driver performs after `n` others was put before it when the present promise
had not been made. -/
def Precedes (hs : List Happening) (n : Nat) (command : SessionCommand) (c : Client) : Prop :=
  ∃ before after, hs = before ++ after ∧
    (c.later before).driver.promise < (c.later hs).driver.promise ∧
    (c.later before).driver.commands[after.countP (·.isTurn) + n]? = some command

/-- The driver is about to perform a request that is older than the present promise. -/
def LeftOver (hs : List Happening) (c : Client) : Prop :=
  ∃ command rest, (c.later hs).driver.commands = command :: rest ∧
    command.event? = some .sessionRequested ∧ c.Precedes hs 0 command

/-- Behind what is older than the present promise, all requests are made by callers that wait. -/
def Answers (hs : List Happening) (c : Client) : Prop :=
  (c.later hs).driver.stopped = false → ∃ old new, (c.later hs).driver.commands = old ++ new ∧
    (∀ n command, old[n]? = some command → c.Precedes hs n command) ∧
    ((c.later hs).driver.present = none →
      (∃ command ∈ new, command.event? = some .sessionRequested) →
        .outcome (c.later hs).driver.promise ∈ (c.later hs).waits)

end Client

namespace SessionDriver

variable {d d' : SessionDriver} {awaited : Bool} {x : Option SessionExchange}

/-- Without commands, the driver does nothing. -/
theorem Turns.of_nil (hT : Turns d awaited d' x) (hc : d.commands = []) : d' = d := by
  cases hT with
  | rests => rfl
  | drops h | moves h | joins h | answers h | stops h => cases hc.symm.trans h

/-- Only a request begins an attempt, and the promise stays. -/
theorem Turns.of_creating (hT : Turns d awaited d' x) (hi : d.state.kind = .inactive)
    (ho : d'.state.kind = .creating) :
    ∃ c rest, d.commands = c :: rest ∧ c.event? = some .sessionRequested ∧ d'.past = d.past ∧
      d'.present = d.present := by
  have hne : d'.state.kind ≠ d.state.kind := fun h => nomatch ho.symm.trans (h.trans hi)
  cases hT with
  | rests | drops | joins | answers => exact absurd rfl hne
  | stops =>
    rw [shutDown_eq] at ho
    cases ho
  | @moves c rest _ _ _ h he _ hm =>
    have hpast : (d.take c rest).past = d.past := take_past ..
    have hpres : (d.take c rest).present = d.present := take_present ..
    cases hm with
    | opens => exact ⟨c, rest, h, he, hpast, hpres⟩
    | created | activated | closes | carries | ends => cases ho

/-- The driver takes a command. It asks for the next session if somebody waits for that, or makes
another promise. -/
theorem Turns.promise_cases {c : SessionCommand} {rest : List SessionCommand}
    (hc : d.commands = c :: rest) (hT : Turns d awaited d' x) (hd : d'.stopped = false) :
    (d'.promise = d.promise ∧ (d'.present = none → d.present = none) ∧
        ∃ cs, d'.commands = rest ++ cs ∧ (cs ≠ [] → awaited = true)) ∨
      d.promise < d'.promise ∧ d'.commands = rest := by
  have nil : ∃ cs, rest = rest ++ cs ∧ (cs ≠ [] → awaited = true) :=
    ⟨[], (List.append_nil rest).symm, fun h => absurd rfl h⟩
  cases hT with
  | rests h => cases hc.symm.trans h
  | drops h | joins h | answers h =>
    cases hc.symm.trans h
    exact .inl ⟨rfl, id, nil⟩
  | stops =>
    rw [shutDown_eq] at hd
    cases hd
  | moves h _ _ hm =>
    cases hc.symm.trans h
    have hpast : (d.take c rest).past = d.past := take_past ..
    have hpres : (d.take c rest).present = d.present := take_present ..
    have hcs : (d.take c rest).commands = rest := take_commands ..
    cases hm with
    | opens | created =>
      refine .inl ⟨congrArg List.length hpast, fun hn => hpres ▸ hn, ?_⟩
      rw [hcs]
      exact nil
    | activated =>
      refine .inl ⟨congrArg List.length hpast, fun hn => ?_, ?_⟩
      · dsimp only at hn
        cases hp : (d.take c rest).present <;> rw [hp] at hn <;> cases hn
      · rw [hcs]
        exact nil
    | carries _ _ ha =>
      refine .inl ⟨congrArg List.length hpast, fun hn => hpres ▸ hn, ?_⟩
      rw [hcs]
      exact ⟨_, rfl, fun _ => ha⟩
    | closes | ends =>
      refine .inr ⟨?_, hcs⟩
      rw [promise, promise, hpast, List.length_append]
      exact Nat.lt_succ_self _

end SessionDriver

namespace Client

variable {c : Client}

theorem Precedes.snoc {hs : List Happening} {h : Happening} {n m : Nat} {command : SessionCommand}
    (hp : c.Precedes hs n command)
    (hle : (c.later hs).driver.promise ≤ (c.later (hs ++ [h])).driver.promise)
    (hn : n = h.isTurn.toNat + m) : c.Precedes (hs ++ [h]) m command := by
  obtain ⟨before, after, rfl, hlt, hcmd⟩ := hp
  refine ⟨before, after ++ [h], List.append_assoc .., Nat.lt_of_lt_of_le hlt hle, ?_⟩
  rw [hn, ← Nat.add_assoc] at hcmd
  rw [List.countP_append, List.countP_singleton]
  cases ht : h.isTurn <;> rw [ht] at hcmd <;> exact hcmd

/-- The driver performs a command. -/
theorem IsNew.answers_turn (hc : c.IsNew) {hs : List Happening} (ha : c.Answers hs) :
    c.Answers (hs ++ [.act (.run .driver)]) := by
  obtain ⟨x, hT⟩ := hc.turns hs
  have hw := waits_later_turn (c := c) hs
  intro hd'
  obtain ⟨old, new, hcs, hold, hnew⟩ := ha (hT.stopped_eq_false hd')
  cases hq : (c.later hs).driver.commands with
  | nil =>
    have hq' : (c.later (hs ++ [.act (.run .driver)])).driver.commands = [] :=
      (congrArg SessionDriver.commands (hT.of_nil hq)).trans hq
    exact ⟨[], [], hq', nofun, fun _ ⟨_, hm, _⟩ => nomatch hm⟩
  | cons command rest =>
    rcases hT.promise_cases hq hd' with ⟨hp, hpres, cs, hcs', haw⟩ | ⟨hlt, hcs'⟩
    · -- The promise stays; what is behind the older commands stays as well.
      have demand {new' : List SessionCommand} (hsub : new' ⊆ new)
          (hn : (c.later (hs ++ [.act (.run .driver)])).driver.present = none)
          (hr : ∃ command ∈ new' ++ cs, command.event? = some .sessionRequested) :
          .outcome (c.later (hs ++ [.act (.run .driver)])).driver.promise ∈
            (c.later (hs ++ [.act (.run .driver)])).waits := by
        rw [hw, show (c.later (hs ++ [.act (.run .driver)])).driver.promise =
          (c.later hs).driver.promise from hp]
        obtain ⟨command, hm, hreq⟩ := hr
        rcases List.mem_append.1 hm with hm | hm
        · exact hnew (hpres hn) ⟨command, hsub hm, hreq⟩
        · exact List.contains_iff_mem.1 (haw (List.ne_nil_of_mem hm))
      rw [hq] at hcs
      cases old with
      | nil =>
        refine ⟨[], rest ++ cs, hcs', nofun, demand ?_⟩
        rw [← show command :: rest = new from hcs]
        exact List.subset_cons_self _ _
      | cons command' old =>
        cases hcs
        refine ⟨old, new ++ cs, hcs'.trans (List.append_assoc ..), fun n command h => ?_,
          demand (List.Subset.refl _)⟩
        exact (hold (n + 1) command h).snoc (Nat.le_of_eq hp.symm) (Nat.add_comm n 1)
    · -- All that is in the queue is older than the promise that has just been made.
      refine ⟨_, [], (List.append_nil _).symm, fun n command' h => ?_,
        fun _ ⟨_, hm, _⟩ => nomatch hm⟩
      refine ⟨hs, [.act (.run .driver)], rfl, hlt, ?_⟩
      have h : rest[n]? = some command' := hcs' ▸ h
      change (c.later hs).driver.commands[1 + n]? = some command'
      rw [hq, Nat.add_comm, List.getElem?_cons_succ]
      exact h

/-- Others put commands before the driver. -/
theorem IsNew.answers_grow (hc : c.IsNew) {hs : List Happening} {h : Happening}
    (ha : c.Answers hs) (hd : (c.later hs).drops h = false) (hr : h.requests = false)
    (ht : h ≠ .act (.run .driver)) : c.Answers (hs ++ [h]) := by
  have hturn : h.isTurn = false := by
    unfold Happening.isTurn
    split
    · exact absurd rfl ht
    · rfl
  obtain ⟨cs, keys, key, e⟩ := (hc.turns_or hs h).resolve_left fun hl => ht hl.1
  have hengages := engages_undergo hd hr ht
  have hstays := mem_waits_of_drops hd
  rw [← later_snoc] at hengages hstays
  unfold Engages at hengages
  unfold Answers
  rw [e] at hengages ⊢
  intro hd'
  obtain ⟨old, new, hcs, hold, hnew⟩ := ha hd'
  refine ⟨old, new ++ cs, ?_, fun n command hm => ?_, fun hp ⟨command, hm, hreq⟩ => ?_⟩
  · dsimp only
    rw [hcs, List.append_assoc]
  · refine (hold n command hm).snoc ?_ (by rw [hturn]; exact (Nat.zero_add n).symm)
    rw [e]
    exact Nat.le_refl _
  · rcases List.mem_append.1 hm with hm | hm
    · exact hstays hp (List.mem_append_left _ (hnew hp ⟨command, hm, hreq⟩))
    · refine (hengages hp).resolve_left fun ⟨cs', hcs', hno⟩ => ?_
      exact hno command (List.append_cancel_left hcs' ▸ hm) hreq

theorem IsNew.answers (hc : c.IsNew) {hs : List Happening} (hn : c.NeverDrops hs)
    (hr : ∀ h ∈ hs, h.requests = false) : c.Answers hs := by
  induction hs using List.reverseRecOn with
  | nil =>
    intro _
    rw [later_nil, hc.driver_eq]
    exact ⟨[], [], rfl, nofun, fun _ ⟨_, hm, _⟩ => nomatch hm⟩
  | append_singleton hs h ih =>
    obtain ⟨hn, hd⟩ := neverDrops_snoc.1 hn
    obtain ⟨hr, hrh⟩ := List.forall_mem_append.1 hr
    by_cases ht : h = .act (.run .driver)
    · exact ht ▸ hc.answers_turn (ih hn hr)
    · exact hc.answers_grow (ih hn hr) hd (hrh h (List.mem_singleton_self h)) ht

/-- When the driver begins an attempt to get a session, some caller waits for the promise of that
attempt, unless the request for it is older than the promise. Nobody must put requests before the
driver but the callers, and they must not give up. -/
theorem attempts_are_awaited (hc : c.IsNew) {hs : List Happening} (hn : c.NeverDrops hs)
    (hr : ∀ h ∈ hs, h.requests = false) {h : Happening}
    (hi : (c.later hs).driver.state.kind = .inactive)
    (ho : (c.later (hs ++ [h])).driver.state.kind = .creating) :
    (c.later (hs ++ [h])).driver.outcome? (c.later (hs ++ [h])).driver.promise = none ∧
      ((c.later (hs ++ [h])).awaits (c.later (hs ++ [h])).driver.promise = true ∨
        c.LeftOver hs) := by
  rcases hc.turns_or hs h with ⟨rfl, -⟩ | ⟨cs, keys, key, e⟩
  · obtain ⟨x, hT⟩ := hc.turns hs
    obtain ⟨command, rest, hcs, hreq, hpast, hpres⟩ := hT.of_creating hi ho
    have hd : (c.later hs).driver.stopped = false :=
      (hc.tidy_later hs).stopped_eq (hcs ▸ List.cons_ne_nil command rest)
    have hnone := (hc.kept hs).present_eq_none hd (by rw [hi]; decide)
    have hp : (c.later (hs ++ [.act (.run .driver)])).driver.promise =
        (c.later hs).driver.promise := congrArg List.length hpast
    have hw := waits_later_turn (c := c) hs
    refine ⟨(SessionDriver.outcome?_promise _).trans (hpres.trans hnone), ?_⟩
    obtain ⟨old, new, hq, hold, hnew⟩ := hc.answers hn hr hd
    cases old with
    | nil =>
      refine .inl ?_
      rw [awaits, hw, hp]
      have hm : command ∈ new := by
        rw [← show command :: rest = new from hcs.symm.trans hq]
        exact List.mem_cons_self
      exact List.contains_iff_mem.2 (hnew hnone ⟨command, hm, hreq⟩)
    | cons command' old =>
      obtain ⟨rfl, -⟩ := List.cons.inj (hcs.symm.trans hq)
      exact .inr ⟨command, rest, hcs, hreq, hold 0 command rfl⟩
  · rw [e] at ho
    cases hi.symm.trans ho

section

open Simulation

/-- A session cannot be created. A caller comes when the driver has not been told so yet, and both
callers learn that they get no session. -/
def forsaken : List Happening :=
  calling 0 .session session_ne_connect ++ exchanging 1 0 (.error (.transport .notConnected)) ++
    [.act (.call .session session_ne_connect), .act (.run (.call 2)), .act (.run .driver),
      .act (.run (.call 0)), .act (.run (.call 2))]

/-- What the driver does next, it does for a request that is left over. -/
theorem attempts_are_awaited_sample :
    newcomer.NeverDrops forsaken ∧ (∀ h ∈ forsaken, h.requests = false) ∧
      (newcomer.later forsaken).driver.state.kind = .inactive ∧
      (newcomer.later (forsaken ++ [.act (.run .driver)])).driver.state.kind = .creating ∧
      newcomer.LeftOver forsaken := by
  have hn : newcomer.NeverDrops forsaken := by decide +kernel
  have hr : ∀ h ∈ forsaken, h.requests = false := by decide
  have hi : (newcomer.later forsaken).driver.state.kind = .inactive := by decide +kernel
  have ho : (newcomer.later (forsaken ++ [.act (.run .driver)])).driver.state.kind = .creating := by
    decide +kernel
  have ha : (newcomer.later (forsaken ++ [.act (.run .driver)])).awaits
      (newcomer.later (forsaken ++ [.act (.run .driver)])).driver.promise = false := by
    decide +kernel
  exact ⟨hn, hr, hi, ho, (attempts_are_awaited newcomer_isNew hn hr hi ho).2.resolve_left
    (Bool.eq_false_iff.1 ha)⟩

/-- Both calls have returned with a failure, and the driver begins another attempt, which nobody
waits for. -/
theorem attempt_for_nobody :
    newcomer.NeverDrops forsaken ∧ (∀ h ∈ forsaken, h.requests = false) ∧
      ((newcomer.later forsaken).finished.map fun p => (p.1, p.2 matches .session (.error _))) =
        [(2, true), (0, true)] ∧
      (newcomer.later forsaken).driver.state.kind = .inactive ∧
      (newcomer.later (forsaken ++ [.act (.run .driver)])).driver.state.kind = .creating ∧
      (newcomer.later (forsaken ++ [.act (.run .driver)])).calls.length = 0 ∧
      (newcomer.later (forsaken ++ [.act (.run .driver)])).awaits
        (newcomer.later (forsaken ++ [.act (.run .driver)])).driver.promise = false := by
  decide +kernel

end

end Client

end OpcUa
