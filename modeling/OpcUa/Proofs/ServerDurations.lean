import Mathlib.Data.List.Infix
import OpcUa.Proofs.CallCourse
import OpcUa.Proofs.DurationRange
import OpcUa.Proofs.SessionRelease

/-!
# Durations that the server sends

The server revises the timeout of a session and the publishing interval of a subscription, and the
client takes the numbers as durations. A timeout that is too long for one ends the activation
without a report, and the driver waits for it for good.

* `SubscriptionManager.publishHint_cases`: the timeout hint of a Publish request is always there.
* `Client.undergo_of_activating`: the activation of a session is reported once when it ends, unless
  the timeout is too long.
* `Client.Timely`: the run activates no session whose timeout is too long.
* `Client.server_numbers_as_durations`: the numbers of the server that are durations, and what
  follows for those who wait for a session.
* `Client.waits_forever`: a timeout and a publishing interval that are none.
-/

namespace OpcUa

/-! ## Publish requests -/

theorem leastFloat?_mem {l : List Float} {x : Float} (h : leastFloat? l = some x) : x ∈ l := by
  cases l with
  | nil => cases h
  | cons y rest =>
    obtain rfl := Option.some.inj h
    induction rest generalizing y with
    | nil => exact List.mem_cons_self
    | cons z rest ih =>
      rw [List.foldl_cons]
      split
      · exact List.mem_cons_of_mem _ (ih z rfl)
      · rcases List.mem_cons.1 (ih y rfl) with e | hmem
        · rw [e]
          exact List.mem_cons_self
        · exact List.mem_cons_of_mem _ (List.mem_cons_of_mem _ hmem)

namespace SubscriptionManager

/-- The hint of a Publish request is the time that some number of keep-alives takes of a registered
subscription, with a margin, or the timeout of other requests if that is no duration. -/
theorem publishHint_cases (n : Nat) (m : SubscriptionManager) :
    m.publishHint n = m.config.requestTimeout ∨
      ∃ k ∈ m.registry.values, ∃ s, m.subscription? k = some s ∧
        Duration.ofSeconds? (n.toFloat * s.parameters.keepAlivePeriod * 1.25 / 1000.0) =
          some (m.publishHint n) := by
  unfold publishHint
  dsimp only
  split
  · exact .inl rfl
  · rename_i period hperiod
    split
    · exact .inl rfl
    · cases hd : Duration.ofSeconds? (n.toFloat * period * 1.25 / 1000.0) with
      | none => exact .inl rfl
      | some d =>
        obtain ⟨hmem, -⟩ := List.mem_filter.1 (leastFloat?_mem hperiod)
        obtain ⟨p, hp, rfl⟩ := List.mem_map.1 hmem
        obtain ⟨k, hk, hmap⟩ := List.mem_filterMap.1 hp
        obtain ⟨s, hs, rfl⟩ := Option.map_eq_some_iff.1 hmap
        exact .inr ⟨k, hk, s, hs, hd⟩

end SubscriptionManager

/-! ## Sessions -/

/-- Whether the exchange activates no session whose timeout is too long. -/
def SessionExchange.isTimely : SessionExchange → Bool
  | activate created => !decide (Duration.tooLong ≤ created.sessionTimeout)
  | create | close _ => true

/-- The end of an activation is reported once, unless the session is granted and its timeout is too
long. -/
theorem ServiceClient.conclude_activate (s : ServiceClient) (epoch : UInt64)
    (created : CreateSessionAnswer) (outcome : Except Error ActivateSessionAnswer)
    (hd : s.driver.stopped = false) :
    ∃ events : List SessionEvent,
      (s.conclude epoch (.activate created) outcome).driver.commands =
        s.driver.commands ++ events.map (.event (some epoch)) ∧
      (∀ event ∈ events, (SessionExchange.activate created).EndsWith event) ∧
      events.length =
        if outcome.isOk ∧ Duration.tooLong ≤ created.sessionTimeout then 0 else 1 := by
  have hreport (event : SessionEvent) {d : SessionDriver} (hd : d.stopped = false) :
      (d.enqueue (.event (some epoch) event)).commands =
        d.commands ++ [event].map (.event (some epoch)) :=
    congrArg SessionDriver.commands (SessionDriver.enqueue_of_running hd _)
  cases outcome with
  | error e =>
    exact ⟨[_], hreport _ hd, fun event he => List.mem_singleton.1 he ▸ trivial, rfl⟩
  | ok activated =>
    let renewed := { s with driver := { s.driver with nextKey := s.driver.nextKey + 1 } }
    have hestablish : s.establish? created activated =
        (Session.establish? s.driver.nextKey created activated).map fun x => (x, renewed) := rfl
    unfold conclude
    dsimp only
    rw [hestablish]
    cases hs : Session.establish? s.driver.nextKey created activated with
    | none =>
      have hlong := Session.timeout?_eq_none_iff.1 (Client.establish?_eq_none hs)
      exact ⟨[], (List.append_nil _).symm, List.forall_mem_nil _, (if_pos ⟨rfl, hlong⟩).symm⟩
    | some x =>
      have htimely : ¬ Duration.tooLong ≤ created.sessionTimeout := by
        intro hlong
        rw [Session.establish?, Session.timeout?_eq_none_iff.2 hlong] at hs
        cases hs
      refine ⟨[.activateSucceeded x], hreport (d := renewed.driver) _ hd, fun event he => ?_,
        (if_neg fun h => htimely h.2).symm⟩
      rw [List.mem_singleton.1 he]
      exact ⟨_, activated, hs⟩

namespace Client

variable {c : Client} {id : CallId}

/-- The run activates no session whose timeout is too long. -/
def Timely (hs : List Happening) (c : Client) : Prop :=
  ∀ p ∈ hs.inits, ∀ q ∈ (c.later p).sessionTasks, q.2.exchange.isTimely = true

instance (hs : List Happening) (c : Client) : Decidable (c.Timely hs) :=
  inferInstanceAs (Decidable (∀ p ∈ _, ∀ q ∈ _, _))

/-- Only the activation of a session whose timeout is too long ends without a report. -/
theorem falters_eq_false {h : Happening}
    (hq : ∀ q ∈ c.sessionTasks, q.2.exchange.isTimely = true) : c.falters h = false := by
  unfold falters
  split
  · rename_i id
    cases ht : c.sessionTasks.lookup id with
    | none => rfl
    | some t =>
      have htimely := hq _ (mem_of_lookup ht)
      rw [Option.any_some]
      unfold ServiceClient.falters
      split
      · rename_i created await hx _
        rw [hx] at htimely
        have hlong : ¬ Duration.tooLong ≤ created.sessionTimeout := by
          simpa [SessionExchange.isTimely] using htimely
        split
        · rw [Option.isNone_eq_false_iff, Option.isSome_iff_ne_none]
          exact fun h => hlong (Session.timeout?_eq_none_iff.1 h)
        · rfl
      · rfl
  · rfl

theorem Timely.neverFalters {hs : List Happening} (ht : c.Timely hs) : c.NeverFalters hs := by
  induction hs using List.reverseRecOn with
  | nil => rfl
  | append_singleton hs h ih =>
    have hshorter {p : List Happening} (hp : p <+: hs) : p ∈ (hs ++ [h]).inits :=
      (List.mem_inits ..).2 (hp.trans (List.prefix_append ..))
    refine neverFalters_snoc.2 ⟨ih fun p hp => ht p (hshorter ((List.mem_inits ..).1 hp)), ?_⟩
    exact falters_eq_false (ht hs (hshorter (List.prefix_refl hs)))

/-- From `c` to `c'` the exchange `id` of the session driver ends, and `events` are reported. -/
structure EndsExchange (id : CallId) (epoch : UInt64) (events : List SessionEvent)
    (c c' : Client) : Prop where
  gone : c'.sessionTasks.lookup id = none
  reported : c'.driver.commands = c.driver.commands ++ events.map (.event (some epoch))

/-- When the server has answered, the activation of a session ends. It is reported once, unless the
server grants the session and its timeout is too long; then it is not reported at all. -/
theorem undergo_of_activating {epoch : UInt64} {created : CreateSessionAnswer} {await : Await}
    {outcome : Except Error ActivateSessionAnswer}
    (hl : c.sessionTasks.lookup id = some ⟨epoch, .activate created, some await⟩)
    (ho : c.service.outcome? .activateSession await = some outcome)
    (hd : c.driver.stopped = false) :
    ∃ events, c.EndsExchange id epoch events (c.undergo (.act (.run (.session id)))) ∧
      (∀ event ∈ events, (SessionExchange.activate created).EndsWith event) ∧
      events.length =
        if outcome.isOk ∧ Duration.tooLong ≤ created.sessionTimeout then 0 else 1 := by
  let service := (c.service.forget await).conclude epoch (.activate created) outcome
  have hend : c.undergo (.act (.run (.session id))) =
      ({ c with service } : Client).dropSessionTask id := by
    change (c.pollSessionTask id).1 = _
    simp only [pollSessionTask, hl, ServiceClient.advanceTask, SessionExchange.service, ho, service]
  obtain ⟨events, hreported, hevents, hcount⟩ :=
    (c.service.forget await).conclude_activate epoch created outcome hd
  refine ⟨events, ⟨?_, ?_⟩, hevents, hcount⟩
  · rw [hend]
    exact lookup_filter_self
  · rw [hend]
    exact hreported

/-! ## What those who wait for a session can rely on -/

/-- With the numbers that are durations the server keeps nobody waiting: the activation of a session
is reported once unless its timeout is `2 ^ 64` seconds or more, the driver waits for no exchange
that is neither under way nor reported, and nobody waits for a session when nothing is left to do. A
publishing interval is a duration unless it is finite and that long, and the timeout hint of a
Publish request is a duration at all times. -/
theorem server_numbers_as_durations (hc : c.IsNew) (hs : List Happening) :
    let d := c.later hs
    (∀ id epoch created await outcome,
      d.sessionTasks.lookup id = some ⟨epoch, .activate created, some await⟩ →
      d.service.outcome? .activateSession await = some outcome → d.driver.stopped = false →
        ∃ events, d.EndsExchange id epoch events (d.undergo (.act (.run (.session id)))) ∧
          (∀ event ∈ events, (SessionExchange.activate created).EndsWith event) ∧
          events.length =
            if outcome.isOk ∧ Duration.tooLong ≤ created.sessionTimeout then 0 else 1) ∧
    (c.Timely hs → (∀ h ∈ hs, h.forges = false) →
      (d.driver.stopped = false → ∀ x, d.driver.state.exchange? = some x →
        (∃ p ∈ d.sessionTasks, p.2.epoch = d.driver.epoch ∧ p.2.exchange = x) ∨
          ∃ event, x.EndsWith event ∧ .event (some d.driver.epoch) event ∈ d.driver.commands) ∧
      (d.driver.commands = [] → d.sessionTasks = [] → d.CallersRest → d.waits = [])) ∧
    (∀ s : Subscription, s.publishingDuration? = none ↔
      s.parameters.publishingInterval.isFinite = true ∧
        Duration.tooLong ≤ s.parameters.publishingInterval) ∧
    ∀ n, d.managed.publishHint n = d.managed.config.requestTimeout ∨
      ∃ k ∈ d.managed.registry.values, ∃ s, d.managed.subscription? k = some s ∧
        Duration.ofSeconds? (n.toFloat * s.parameters.keepAlivePeriod * 1.25 / 1000.0) =
          some (d.managed.publishHint n) := by
  intro d
  refine ⟨fun _ _ _ _ _ => undergo_of_activating, fun ht hg => ⟨fun hd x hx => ?_, ?_⟩,
    fun _ => Subscription.publishingDuration?_eq_none_iff, fun n => d.managed.publishHint_cases n⟩
  · refine (hc.pursued ht.neverFalters hg hd x hx).imp_left fun ⟨id, hm⟩ => ?_
    obtain ⟨p, hp, e⟩ := List.mem_map.1 hm
    obtain ⟨-, hepoch, hexchange⟩ := by simpa only [Prod.mk.injEq] using e
    exact ⟨p, hp, hepoch, hexchange⟩
  · exact hc.waits_eq_nil ht.neverFalters hg

/-- A caller asks for a session, and the server grants it one with the given timeout. -/
def activating (timeout : Float) : List Happening :=
  calling 0 .session session_ne_connect ++
    exchanging 1 0 (goodReply .createSession ⟨.null, .null, timeout, [], [], 0⟩) ++
    [.act (.run .driver), .act (.run (.session 2)),
      .act (.reply 1 (goodReply .activateSession ⟨[], []⟩))]

/-- The activation ends, and the caller hears of it. -/
def activated (timeout : Float) : List Happening :=
  activating timeout ++
    [.act (.run (.session 2)), .act (.run .driver), .act (.run (.call 0))]

/-- The longest timeout that is a duration. -/
def longest : Float := 18446744073709549518848.0

set_option maxRecDepth 2000 in
/-- With the longest timeout the activation is reported, and the caller has its session. -/
theorem server_numbers_as_durations_sample :
    newcomer.IsNew ∧
      (let d := newcomer.later (activating longest)
      ∃ epoch created await outcome,
        d.sessionTasks.lookup 2 = some ⟨epoch, .activate created, some await⟩ ∧
        d.service.outcome? .activateSession await = some outcome ∧ d.driver.stopped = false ∧
        ∃ events, d.EndsExchange 2 epoch events (d.undergo (.act (.run (.session 2)))) ∧
          events.length = 1) ∧
      newcomer.Timely (activated longest) ∧ (∀ h ∈ activated longest, h.forges = false) ∧
      (newcomer.later (activated longest)).driver.state.kind = .active ∧
      (newcomer.later (activated longest)).waits = [] := by
  let d := newcomer.later (activated longest)
  have ht : newcomer.Timely (activated longest) := by decide +kernel
  have hg : ∀ h ∈ activated longest, h.forges = false := by decide
  have hcs : d.driver.commands = [] := List.isEmpty_iff.1 (by decide +kernel)
  have hx : d.sessionTasks = [] := List.isEmpty_iff.1 (by decide +kernel)
  have hm : d.manager = none := Option.isNone_iff_eq_none.1 (by decide +kernel)
  have hrest : d.CallersRest :=
    ⟨by decide +kernel, fun m h => (nomatch hm.symm.trans h), fun m h => nomatch hm.symm.trans h⟩
  refine ⟨newcomer_isNew, ?_, ht, hg, by decide +kernel, ?_⟩
  · intro d
    obtain ⟨epoch, created, await, outcome, hl, ho, hok, htimeout⟩ :
        ∃ epoch created await outcome,
          d.sessionTasks.lookup 2 = some ⟨epoch, .activate created, some await⟩ ∧
          d.service.outcome? .activateSession await = some outcome ∧ outcome.isOk = true ∧
          created.sessionTimeout = longest := ⟨_, _, _, _, rfl, rfl, rfl, rfl⟩
    have hd : d.driver.stopped = false := rfl
    have hshort : ¬ Duration.tooLong ≤ longest := by decide +kernel
    obtain ⟨hends, -⟩ := server_numbers_as_durations newcomer_isNew (activating longest)
    obtain ⟨events, he, -, hcount⟩ := hends 2 epoch created await outcome hl ho hd
    rw [htimeout, if_neg fun h => hshort h.2] at hcount
    exact ⟨epoch, created, await, outcome, hl, ho, hd, events, he, hcount⟩
  · obtain ⟨-, hnobody, -⟩ := server_numbers_as_durations newcomer_isNew (activated longest)
    exact (hnobody ht hg).2 hcs hx hrest

/-- A subscription is created with the given publishing interval. -/
def creating (interval : Float) : List Happening :=
  (operating 0 0 (.create ⟨100.0, 30, 10, 0, true, 0⟩)
    (goodReply .createSubscription ⟨7, ⟨interval, 30, 10⟩⟩)).map .act

set_option maxRecDepth 2000 in
/-- An infinite timeout of a session: its activation ends with nothing to report, and the caller
waits although nothing is left to do. A publishing interval that is no duration: the subscription is
created with it. -/
theorem waits_forever :
    (newcomer.IsNew ∧
      let before := newcomer.later (activating (1.0 / 0.0))
      let after := before.undergo (.act (.run (.session 2)))
      (before.sessionTasks.map fun p => (p.1, p.2.exchange.service)) = [(2, .activateSession)] ∧
        before.driver.commands = [] ∧
        after.driver.stopped = false ∧ after.driver.state.kind = .activating ∧
        after.driver.commands = [] ∧ after.sessionTasks = [] ∧ after.CallersRest ∧
        after.waits.length = 1) ∧
    sample.Begins ∧
      ((sample.later (creating 1e300)).managed.subscription? 0).map (·.publishingDuration?) =
        some none := by
  refine ⟨⟨newcomer_isNew, ?_⟩, sample_begins, by decide +kernel⟩
  intro before after
  have hcs : before.driver.commands = [] := List.isEmpty_iff.1 (by decide +kernel)
  have hcs' : after.driver.commands = [] := List.isEmpty_iff.1 (by decide +kernel)
  have hx : after.sessionTasks = [] := List.isEmpty_iff.1 (by decide +kernel)
  have hm : after.manager = none := Option.isNone_iff_eq_none.1 (by decide +kernel)
  have hrest : after.CallersRest :=
    ⟨by decide +kernel, fun m h => (nomatch hm.symm.trans h), fun m h => nomatch hm.symm.trans h⟩
  exact ⟨by decide +kernel, hcs, by decide +kernel, by decide +kernel, hcs', hx, hrest,
    by decide +kernel⟩

end Client

end OpcUa
