import OpcUa.Proofs.GapRecovery
import OpcUa.Proofs.SessionRun

/-!
# Recoveries after a shutdown

A recovery looks whether the manager still runs before it begins a call, and the request of the call
goes out as soon as there is a session. So the shutdown stops every call but one: the call that has
begun and still waits for its session.

* `RecoveryPoint.Owes`: the question of a call that waits for its session.
* `Client.Ready.requests_of_stopped`: what a recovery sends after the manager was shut down.
* `Client.stopped_sends_owed`: the same, at every point of a run.
* `Client.asks_after_shutdown`: a recovery that does send a request after the shutdown.
-/

namespace OpcUa

/-- Whether a call begins. -/
def RecoveryEvent.BeginsCall : RecoveryEvent → Prop
  | asks _ | reads _ => True
  | _ => False

theorem RecoveryEvent.Fits.not_beginsCall {s : SubscriptionId} {m : SubscriptionManager}
    {e : RecoveryEvent} (h : e.Fits s m) (hr : m.running = false) : ¬ e.BeginsCall := by
  intro hb
  cases e with
  | asks | reads => exact absurd (h.symm.trans hr) (by simp)
  | republished | fallsBack | valueRead | sends | ends | stops => exact hb

namespace RecoveryPoint

variable {received : SequenceNumber} {p q : RecoveryPoint} {e : RecoveryEvent}
  {log : List RecoveryEvent}

/-- The call for this question has begun and its request has not gone out. -/
inductive Owes : RecoveryPoint → RecoveryQuestion → Prop
  | message (n : SequenceNumber) : Owes (awaiting n false) (.republish n)
  | value (k : ItemKey) (rest : List ItemKey) (target : ReadValueId) :
    Owes (reading k rest false) (.read k target)

/-- No request is about to go out. -/
def Clear (p : RecoveryPoint) : Prop := ∀ x, ¬ p.Owes x

theorem Moves.clear (h : Moves received p e q) (hp : p.Clear) (he : ¬ e.BeginsCall) :
    e.question? = none ∧ q.Clear := by
  cases h with
  | asks | reads => exact absurd trivial he
  | sendsAsk => exact absurd (.message _) (hp _)
  | sendsRead target => exact absurd (.value _ _ target) (hp _)
  | came | unasked | refused | fallsBack | unread | read | endsAsking | endsReading | stopsAsking
  | stopsFailing | stopsReading => exact ⟨rfl, by rintro x ⟨⟩⟩

/-- Where no request is about to go out and no call begins, none goes out. -/
theorem Path.clear (h : Path received p log q) (hp : p.Clear) (he : ∀ e ∈ log, ¬ e.BeginsCall) :
    log.filterMap (·.question?) = [] ∧ q.Clear := by
  induction h with
  | nil => exact ⟨rfl, hp⟩
  | cons hm _ ih =>
    obtain ⟨hq, hclear⟩ := hm.clear hp (he _ List.mem_cons_self)
    rw [List.filterMap_cons_none hq]
    exact ih hclear fun e h => he e (List.mem_cons_of_mem _ h)

/-- Where no call begins, nothing goes out but the request that is about to. -/
theorem Path.of_no_call (h : Path received p log q) (he : ∀ e ∈ log, ¬ e.BeginsCall) :
    log.filterMap (·.question?) = [] ∧ (q = p ∨ q.Clear) ∨
      ∃ x, p.Owes x ∧ log.filterMap (·.question?) = [x] ∧ q.Clear := by
  cases h with
  | nil => exact .inl ⟨rfl, .inl rfl⟩
  | @cons _ p' _ e log hm hrest =>
    have hrest' : p'.Clear → log.filterMap (·.question?) = [] ∧ q.Clear := fun hc =>
      hrest.clear hc fun e h => he e (List.mem_cons_of_mem _ h)
    have hnone (hq : e.question? = none) (hc : p'.Clear) :
        (e :: log).filterMap (·.question?) = [] ∧ q.Clear := by
      rw [List.filterMap_cons_none hq]
      exact hrest' hc
    have hsome {x : RecoveryQuestion} (hq : e.question? = some x) (hc : p'.Clear) :
        (e :: log).filterMap (·.question?) = [x] ∧ q.Clear := by
      rw [List.filterMap_cons_some hq, (hrest' hc).1]
      exact ⟨rfl, (hrest' hc).2⟩
    cases hm with
    | asks | reads => exact absurd trivial (he _ List.mem_cons_self)
    | sendsAsk => exact .inr ⟨_, .message _, hsome rfl (by rintro x ⟨⟩)⟩
    | sendsRead target => exact .inr ⟨_, .value _ _ target, hsome rfl (by rintro x ⟨⟩)⟩
    | came | unasked | refused | fallsBack | unread | read | endsAsking | endsReading | stopsAsking
    | stopsFailing | stopsReading =>
      exact .inl ⟨(hnone rfl (by rintro x ⟨⟩)).1, .inr (hnone rfl (by rintro x ⟨⟩)).2⟩

end RecoveryPoint

/-- The requests of another recovery do not count. -/
theorem recoveryRequests_run_of_ne {id id' : WorkId} (h : id' ≠ id) (s : SubscriptionId)
    (log : List RecoveryEvent) (requests : List Request) (deliveries : List Delivery) :
    recoveryRequests id (log.map (.recovers id' s) ++ requests.map (.posts id') ++
      deliveries.map .hands) = [] := by
  have hposts : recoveryRequests id (requests.map (.posts id')) = [] :=
    filterMap_map_none (g := SequencerEvent.posts id') (fun _ => if_neg h) requests
  rw [recoveryRequests_append, recoveryRequests_append, hposts, List.append_nil]
  simp [recoveryRequests]

namespace SubscriptionManager

variable {m m' : SubscriptionManager} {events : List SequencerEvent} {id : WorkId} {r : Recovery}

theorem Step.requests_of_none (h : m.Step events m') (hr : m.recovery? id = none) :
    recoveryRequests id events = [] := by
  have hne {id' : WorkId} {r : Recovery} (h : m.recovery? id' = some r) : id' ≠ id := by
    rintro rfl
    rw [hr] at h
    cases h
  cases h with
  | outside | idles | drops | accepts | gaps | rests => rfl
  | recovers h | ends h => exact recoveryRequests_run_of_ne (hne h) _ _ _ _

/-- No recovery begins when the manager is shut down. -/
theorem Step.continues_of_stopped (h : m.Step events m') (ho : m.Orderly)
    (hrun : m.running = false) (hr : m'.recovery? id = some r) :
    ∃ r₀, m.Continues events m' id r₀ r := by
  rcases h.of_recovery? ho hr with ⟨a, n, ha, -⟩ | hc
  · rw [h.running_of_evaluates ho ha] at hrun
    cases hrun
  · exact hc

/-- The recovery is as far as it was, or no request of it is about to go out. -/
def Stays (m m' : SubscriptionManager) (id : WorkId) : Prop :=
  ∀ r', m'.recovery? id = some r' → r'.stage.point.Clear ∨
    ∃ r, m.recovery? id = some r ∧ r'.subscription = r.subscription ∧
      r'.stage.point = r.stage.point

/-- What a recovery sends in a step when the manager is shut down. -/
theorem Step.requests_of_stopped (h : m.Step events m') (ho : m.Orderly)
    (hrun : m.running = false) (id : WorkId) :
    recoveryRequests id events = [] ∧ m.Stays m' id ∨
      ∃ r q x, m.recovery? id = some r ∧ r.stage.point.Owes q ∧
        recoveryRequests id events = [x] ∧ x.question = q.request r.subscription ∧
        ∀ r', m'.recovery? id = some r' → r'.stage.point.Clear := by
  cases hr : m.recovery? id with
  | none =>
    refine .inl ⟨h.requests_of_none hr, fun r' hr' => ?_⟩
    obtain ⟨r₀, hc⟩ := h.continues_of_stopped ho hrun hr'
    cases hr.symm.trans hc.recovery
  | some r =>
    -- The recovery goes on up to some point, without a new call.
    obtain ⟨p, hp, hrec, hnext⟩ : ∃ p, r.stage.point.Path r.received (recoveryEvents id events) p ∧
        m.Recounted events id r ∧ ∀ r', m'.recovery? id = some r' →
          r'.subscription = r.subscription ∧ r'.stage.point = p := by
      cases hr' : m'.recovery? id with
      | none =>
        have hf := h.finishes ho hr hr'
        exact ⟨_, hf.path, hf.recounted, fun _ e => nomatch e⟩
      | some r' =>
        obtain ⟨r₀, hc⟩ := h.continues_of_stopped ho hrun hr'
        obtain rfl := Option.some.inj (hr.symm.trans hc.recovery)
        exact ⟨_, hc.path, hc.recounted, fun _ e => Option.some.inj e ▸ ⟨hc.subscription, rfl⟩⟩
    have hquestions := hrec.requests
    rcases hp.of_no_call fun e he => (hrec.fits e he).not_beginsCall hrun with
      ⟨hnone, hstay⟩ | ⟨q, hq, hone, hclear⟩
    · rw [hnone] at hquestions
      refine .inl ⟨List.map_eq_nil_iff.1 hquestions, fun r' hr' => ?_⟩
      obtain ⟨hs, he⟩ := hnext r' hr'
      rcases hstay with hstay | hstay
      · exact .inr ⟨r, hr, hs, he.trans hstay⟩
      · exact .inl (he ▸ hstay)
    · rw [hone] at hquestions
      obtain ⟨x, hx, he⟩ := List.map_eq_singleton_iff.1 hquestions
      exact .inr ⟨r, q, x, rfl, hq, hx, he, fun r' hr' => (hnext r' hr').2 ▸ hclear⟩

end SubscriptionManager

namespace Client

open SubscriptionManager

variable {c : Client}

/-- After the manager was shut down a recovery sends nothing but the request that was about to go
out. -/
theorem Ready.requests_of_stopped (h : c.Ready) (hrun : c.managed.running = false) (id : WorkId)
    (bs : List Action) :
    recoveryRequests id (c.history bs) = [] ∨
      ∃ r q x, c.managed.recovery? id = some r ∧ r.stage.point.Owes q ∧
        recoveryRequests id (c.history bs) = [x] ∧ x.question = q.request r.subscription := by
  induction bs generalizing c with
  | nil => exact .inl rfl
  | cons b bs ih =>
    have hstep := (h.step b).2.2
    have hrun' : (c.act b).1.managed.running = false := by
      rw [Bool.eq_false_iff]
      intro hr
      rw [hstep.running h.orderly hr] at hrun
      cases hrun
    rw [history, recoveryRequests_append]
    rcases hstep.requests_of_stopped h.orderly hrun id with
      ⟨hnone, hstays⟩ | ⟨r, q, x, hr, hq, hx, he, hclear⟩
    · rw [hnone, List.nil_append]
      rcases ih (h.act b) hrun' with hrest | ⟨r', q, x, hr', hq, hx, he⟩
      · exact .inl hrest
      · rcases hstays r' hr' with hclear | ⟨r, hr, hs, hp⟩
        · exact absurd hq (hclear q)
        · exact .inr ⟨r, q, x, hr, hp ▸ hq, hx, hs ▸ he⟩
    · rcases ih (h.act b) hrun' with hrest | ⟨r', q', x', hr', hq', -⟩
      · exact .inr ⟨r, q, x, hr, hq, by rw [hx, hrest]; rfl, he⟩
      · exact absurd hq' (hclear r' hr' q')

/-- A shutdown stops the recoveries, at whatever point they are: whatever happens afterwards, a
recovery sends nothing more, but for the one request whose call had begun before and was waiting for
the session. -/
theorem stopped_sends_owed (hc : c.Begins) (as bs : List Action) (id : WorkId)
    (hrun : (c.after as).managed.running = false) :
    recoveryRequests id ((c.after as).history bs) = [] ∨
      ∃ r q x, (c.after as).managed.recovery? id = some r ∧ r.stage.point.Owes q ∧
        recoveryRequests id ((c.after as).history bs) = [x] ∧
        x.question = q.request r.subscription :=
  (hc.ready.after as).requests_of_stopped hrun id bs

/-! ## A sample -/

section

open Simulation

/-- A client that has opened a session and started its manager. -/
def sampleConnected : Client := (newcomer.later opening).startManager

theorem sampleConnected_begins : sampleConnected.Begins := by
  have h : sampleConnected.calls.isEmpty = true := by decide +kernel
  refine ⟨rfl, fun p hp => ?_⟩
  rw [List.isEmpty_iff.1 h] at hp
  cases hp

/-- The session is closed, the recovery of the message 2 waits for the next one, and the manager is
shut down. -/
def sampleShutdown : List Action :=
  operating 3 2 (.create ⟨100.0, 30, 10, 0, true, 0⟩)
      (goodReply .createSubscription ⟨7, ⟨100.0, 30, 10⟩⟩) ++
    publishing 0 3 (sampleAnswer 1) ++ [.run .processing] ++ publishing 1 4 (sampleAnswer 3) ++
    [.call .close close_ne_connect, .run (.call 4), .run .driver, .run .processing,
      .run (.recovery 3), .shutDown]

/-- The next session is opened, and the recovery goes on. -/
def sampleReopening : List Action :=
  [.run (.session 5), .reply 5 (goodReply .closeSession ()), .run (.session 5), .run .driver,
    .run (.recovery 3), .run .driver, .run (.session 6),
    .reply 6 (goodReply .createSession ⟨.null, .null, 60000.0, [], [], 0⟩), .run (.session 6),
    .run .driver, .run (.session 7), .reply 7 (goodReply .activateSession ⟨[], []⟩),
    .run (.session 7), .run .driver, .run (.recovery 3)]

theorem stopped_sends_owed_sample :
    (sampleConnected.after sampleShutdown).managed.running = false ∧
      (recoveryRequests 3
        ((sampleConnected.after sampleShutdown).history sampleReopening)).length ≤ 1 := by
  have hrun : (sampleConnected.after sampleShutdown).managed.running = false := by decide +kernel
  refine ⟨hrun, ?_⟩
  rcases stopped_sends_owed sampleConnected_begins sampleShutdown sampleReopening 3 hrun with
    h | ⟨r, q, x, -, -, h, -⟩ <;> simp [h]

/-- The request goes out although the manager was shut down. -/
theorem asks_after_shutdown :
    sampleConnected.Begins ∧ (sampleConnected.after sampleShutdown).managed.running = false ∧
      (recoveryRequests 3 ((sampleConnected.after sampleShutdown).history sampleReopening)).map
        (·.service) = [.republish] :=
  ⟨sampleConnected_begins, by decide +kernel, by decide +kernel⟩

end

end Client

end OpcUa
