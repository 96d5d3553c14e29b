import OpcUa.Proofs.Arrivals

/-!
# Messages in any order

The first messages after the cursor come in any order, each of them once. Those that come too early
reveal gaps, and those that come too late are taken all the same. In the end the cursor is at the
last of them, in whichever order they have come and whatever the recoveries in between have been
told.

* `SequenceNumber.lt_of_gap`, `SequenceNumber.isAfter_iterate_iff`: the verdicts on such messages.
* `SubscriptionManager.Stands`: how far the messages are consumed.
* `SubscriptionManager.Step.stands`: a step never goes back, and never beyond the last message.
* `Client.consumed_in_any_order`: after all of them have come, all of them are consumed.
-/

namespace OpcUa

open SequenceNumber (next previous isAfter evaluate walk distance circle)

/-! ## Numbers -/

namespace SequenceNumber

variable {x : SequenceNumber} {i j k : Nat}

/-- A message that reveals a gap is ahead of the next one. -/
theorem lt_of_gap (hx : x ≠ 0) (hj0 : 1 ≤ j) (hj : j ≤ 2 ^ 31 - 1) (hk : k ≤ 2 ^ 31 - 1)
    {e : SequenceNumber} (h : evaluate (some (next^[k] x)) (next^[j] x) = .gap e) :
    e = next^[k + 1] x ∧ k + 1 < j := by
  obtain ⟨rfl, h1, h2⟩ := (evaluate_eq_gap_iff (iterate_next_ne_zero hx j)).1 h
  rw [← Function.iterate_succ_apply' next k x,
    distance_iterate hx (by unfold circle; omega) (by unfold circle; omega)] at h1 h2
  refine ⟨(Function.iterate_succ_apply' next k x).symm, ?_⟩
  have h12 := And.intro h1 h2
  unfold circle at h12
  split at h12 <;> omega

/-- A message that does not reveal a gap is the next one or comes late. -/
theorem le_of_accept (hx : x ≠ 0) (hj : j ≤ 2 ^ 31 - 1) (hk : k ≤ 2 ^ 31 - 1)
    (h : evaluate (some (next^[k] x)) (next^[j] x) = .accept) : j ≤ k + 1 := by
  by_contra hlt
  have hg := (evaluate_eq_gap_iff (iterate_next_ne_zero hx j) (x := next^[k] x)
    (e := next^[k + 1] x)).2 ?_
  · rw [h] at hg
    cases hg
  · rw [distance_iterate hx (by unfold circle; omega) (by unfold circle; omega), if_pos (by omega)]
    exact ⟨Function.iterate_succ_apply' next k x, by omega, by omega⟩

theorem isAfter_iterate_iff (hx : x ≠ 0) (hj : j ≤ 2 ^ 31 - 1) (hk : k ≤ 2 ^ 31 - 1) :
    isAfter (next^[j] x) (next^[k] x) = true ↔ k < j := by
  rw [isAfter_iff (iterate_next_ne_zero hx j) (iterate_next_ne_zero hx k),
    distance_iterate hx (by unfold circle; omega) (by unfold circle; omega)]
  unfold circle
  split <;> omega

end SequenceNumber

/-! ## How far the messages are consumed -/

/-- A message with the number `n` of the subscription is put on the delivery queue. -/
def Handed (s : SubscriptionId) (h : List SequencerEvent) (n : SequenceNumber) : Prop :=
  ∃ message, message.sequenceNumber = n ∧ .message s message ∈ handedOut h

theorem Handed.append {s : SubscriptionId} {h : List SequencerEvent} {n : SequenceNumber}
    (hn : Handed s h n) (h' : List SequencerEvent) : Handed s (h ++ h') n := by
  obtain ⟨message, hm, hmem⟩ := hn
  exact ⟨message, hm, by rw [handedOut_append]; exact List.mem_append_left _ hmem⟩

/-- Every call of a recovery for a message of the subscription returns it. -/
def AllReturned (s : SubscriptionId) (h : List SequencerEvent) : Prop :=
  ∀ p ∈ Client.republishOutcomes s h, Returned p.1 p.2

instance (s : SubscriptionId) (h : List SequencerEvent) : Decidable (AllReturned s h) :=
  inferInstanceAs (Decidable (∀ p ∈ Client.republishOutcomes s h, Returned p.1 p.2))

theorem AllReturned.left {s : SubscriptionId} {h h' : List SequencerEvent}
    (hr : AllReturned s (h ++ h')) : AllReturned s h := fun p hp =>
  hr p (by rw [Client.republishOutcomes, List.filterMap_append]; exact List.mem_append_left _ hp)

theorem AllReturned.of_mem {s : SubscriptionId} {h h' : List SequencerEvent} {id : WorkId}
    {n : SequenceNumber} {outcome : Except Error NotificationMessage}
    (hr : AllReturned s (h ++ h')) (hm : .recovers id s (.republished n outcome) ∈ h') :
    Returned n outcome := by
  refine hr (n, outcome) ?_
  rw [Client.republishOutcomes, List.filterMap_append]
  exact List.mem_append_right _ (List.mem_filterMap.2 ⟨_, hm, if_pos rfl⟩)

namespace SubscriptionManager

/-- The first `k` messages after `x` are put on the delivery queue, and a recovery of the
subscription has gone on from there. -/
structure Filled (m : SubscriptionManager) (s : SubscriptionId) (x : SequenceNumber)
    (h : List SequencerEvent) (k : Nat) : Prop where
  handed : ∀ i, 1 ≤ i → i ≤ k → Handed s h (next^[i] x)
  fetched : ∀ id r, m.recovery? id = some r → r.subscription = s →
    ∃ f underWay, k ≤ f ∧ r.stage.point.At (next^[f + 1] x) underWay ∧
      ∀ i, 1 ≤ i → i ≤ f → Handed s h (next^[i] x)

/-- Of the `n` messages after `x` the first `k` are consumed, and none that has been accepted is
beyond them. -/
structure Stands (m : SubscriptionManager) (s : SubscriptionId) (x : SequenceNumber) (n : Nat)
    (h : List SequencerEvent) (k : Nat) : Prop where
  bound : k ≤ n
  cursor : m.cursors.find? s = some (next^[k] x)
  accepted : ∀ a ∈ acceptedOf s h, ∀ j, 1 ≤ j → j ≤ n → a.message.sequenceNumber = next^[j] x →
    j ≤ k
  /-- A recovery of the subscription was set off by a message that is still to be accepted. -/
  recovery : ∀ id r, m.recovery? id = some r → r.subscription = s →
    ∃ j, k < j ∧ j ≤ n ∧ r.received = next^[j] x
  filled : AllReturned s h → m.Filled s x h k

variable {m m' : SubscriptionManager} {events h : List SequencerEvent} {s : SubscriptionId}
  {x : SequenceNumber} {n k : Nat}

/-- Nothing is done about the subscription. -/
theorem Stands.of_same (hst : m.Stands s x n h k)
    (hc : m'.cursors.find? s = m.cursors.find? s)
    (hr : ∀ id r, m'.recovery? id = some r → r.subscription = s → m.recovery? id = some r)
    (ha : acceptedOf s events = []) : m'.Stands s x n (h ++ events) k where
  bound := hst.bound
  cursor := hc.trans hst.cursor
  accepted := by
    rw [acceptedOf_append, ha, List.append_nil]
    exact hst.accepted
  recovery id r hrec hs := hst.recovery id r (hr id r hrec hs) hs
  filled hret := by
    obtain ⟨handed, fetched⟩ := hst.filled hret.left
    refine ⟨fun i h1 h2 => (handed i h1 h2).append _, fun id r hrec hs => ?_⟩
    obtain ⟨f, underWay, hf, hat, hall⟩ := fetched id r (hr id r hrec hs) hs
    exact ⟨f, underWay, hf, hat, fun i h1 h2 => (hall i h1 h2).append _⟩

/-- A response is taken from the processing queue. -/
theorem Stands.take (hst : m.Stands s x n h k) (q : WorkQueue PublishAnswer) :
    ({ m with processing := q } : SubscriptionManager).Stands s x n h k where
  bound := hst.bound
  cursor := hst.cursor
  accepted := hst.accepted
  recovery := hst.recovery
  filled hret := ⟨(hst.filled hret).handed, (hst.filled hret).fetched⟩

/-- A response that is accepted brings the next message, or one that comes late. -/
theorem Stands.accept (hst : m.Stands s x n h k) (hx : x ≠ 0) (hn : n ≤ 2 ^ 31 - 1)
    (hidle : m.recoveries = []) {a : PublishAnswer} (hs : a.subscription = s)
    (hk : a.message.isKeepAlive = false) {j : Nat} (hj : j ≤ n)
    (hnum : a.message.sequenceNumber = next^[j] x)
    (hv : evaluate (m.cursors.find? s) a.message.sequenceNumber = .accept) :
    (m.accept a).Stands s x n
      (h ++ [.evaluates a (some .accept), .hands (.message a.subscription a.message)])
      (max k j) := by
  subst hs
  have hkn := hst.bound
  rw [hst.cursor, hnum] at hv
  have hle := SequenceNumber.le_of_accept hx (by omega) (by omega) hv
  have hnone (id : WorkId) (r : Recovery) (hr : (m.accept a).recovery? id = some r) : False := by
    rw [recovery?, accept_eq, show _ = _ from hidle] at hr
    cases hr
  refine ⟨by omega, ?_, fun a' ha' j' hj1 hj2 hnum' => ?_, fun id r hr => (hnone id r hr).elim,
    fun hret => ⟨fun i hi1 hi2 => ?_, fun id r hr => (hnone id r hr).elim⟩⟩
  · have hconsumed : consumed a.message = next^[j] x := by
      rw [consumed, if_neg (by rw [hk]; exact Bool.false_ne_true), hnum]
    rw [accept_eq]
    dsimp only
    rw [find?_advanceCursor, hst.cursor, Option.all_some, hconsumed]
    split
    · rename_i hafter
      have := (SequenceNumber.isAfter_iterate_iff hx (by omega) (by omega)).1 hafter.2
      rw [Nat.max_eq_right (by omega)]
    · rename_i hafter
      have : ¬ k < j := fun hlt => hafter
        ⟨rfl, (SequenceNumber.isAfter_iterate_iff hx (by omega) (by omega)).2 hlt⟩
      rw [Nat.max_eq_left (by omega)]
  · rw [acceptedOf_append] at ha'
    rcases List.mem_append.1 ha' with ha' | ha'
    · have := hst.accepted a' ha' j' hj1 hj2 hnum'
      omega
    · obtain rfl : a' = a := by simpa [acceptedOf] using ha'
      have : j = j' := SequenceNumber.iterate_next_injective hx (by unfold circle; omega)
        (by unfold circle; omega) (hnum.symm.trans hnum')
      omega
  · by_cases hik : i ≤ k
    · exact ((hst.filled hret.left).handed i hi1 hik).append _
    · obtain rfl : i = j := by omega
      refine ⟨a.message, hnum, ?_⟩
      rw [handedOut_append]
      exact List.mem_append_right _ List.mem_cons_self

/-- A response that reveals a gap brings a message that comes too early. -/
theorem Stands.gap (hst : m.Stands s x n h k) (hx : x ≠ 0) (hn : n ≤ 2 ^ 31 - 1)
    (hidle : m.recoveries = []) {a : PublishAnswer} {j : Nat} (hj1 : 1 ≤ j) (hj : j ≤ n)
    (hnum : a.message.sequenceNumber = next^[j] x)
    {e : SequenceNumber} (hv : evaluate (m.cursors.find? s) a.message.sequenceNumber = .gap e) :
    (m.beginRecovery a e).Stands s x n (h ++ [.evaluates a (some (.gap e))]) k := by
  have hkn := hst.bound
  rw [hst.cursor, hnum] at hv
  obtain ⟨rfl, hlt⟩ := SequenceNumber.lt_of_gap hx hj1 (by omega) (by omega) hv
  obtain ⟨-, -, -, -, hrecs⟩ := beginRecovery_eq a (next^[k + 1] x) m
  rw [hidle] at hrecs
  refine ⟨hkn, hst.cursor, ?_, fun id r hr _ => ?_, fun hret => ?_⟩
  · rw [acceptedOf_append, show acceptedOf s [.evaluates a (some (.gap _))] = [] from rfl,
      List.append_nil]
    exact hst.accepted
  · obtain ⟨-, rfl⟩ := (recovery?_eq_some_iff hrecs).1 hr
    exact ⟨j, by omega, hj, hnum⟩
  · refine ⟨fun i h1 h2 => ((hst.filled hret.left).handed i h1 h2).append _, fun id r hr _ => ?_⟩
    obtain ⟨-, rfl⟩ := (recovery?_eq_some_iff hrecs).1 hr
    exact ⟨k, [], Nat.le_refl k, ⟨rfl, rfl⟩,
      fun i h1 h2 => ((hst.filled hret.left).handed i h1 h2).append _⟩

section

variable {id : WorkId} {r : Recovery} {log : List RecoveryEvent} {requests : List Request}

/-- As long as every message comes that is asked for, a run of a recovery goes on with the
messages that follow. -/
theorem Stands.fetches (hst : m.Stands r.subscription x n h k) (hr : m.recovery? id = some r)
    {q : RecoveryPoint} (hp : r.stage.point.Path r.received log q)
    (he : events = log.map (.recovers id r.subscription) ++ requests.map (.posts id) ++
      (log.flatMap (·.deliveries r.subscription)).map .hands)
    (hret : AllReturned r.subscription (h ++ events)) :
    ∃ f underWay, k ≤ f ∧
      (∀ i, 1 ≤ i → i ≤ f → Handed r.subscription (h ++ events) (next^[i] x)) ∧
      (q.At (next^[f + 1] x) underWay ∨
        q = .ended ∧ (.stops ∈ log ∨ next^[f + 1] x = r.received)) := by
  obtain ⟨-, fetched⟩ := hst.filled hret.left
  obtain ⟨f, underWay, hf, hat, hall⟩ := fetched id r hr rfl
  subst he
  obtain ⟨messages, underWay', hnum, hdel, -, -, hend⟩ := hp.fetches (s := r.subscription)
    (fun k o hm => hret.of_mem (List.mem_append_left _
      (List.mem_append_left _ (List.mem_map_of_mem hm)))) hat
  have hiter : next^[messages.length] (next^[f + 1] x) = next^[f + messages.length + 1] x := by
    rw [← Function.iterate_add_apply, show messages.length + (f + 1) = f + messages.length + 1 by
      omega]
  rw [hiter] at hend
  refine ⟨f + messages.length, underWay', by omega, fun i h1 h2 => ?_,
    hend.imp_right fun h => ⟨h.1, h.2.2⟩⟩
  by_cases hif : i ≤ f
  · exact (hall i h1 hif).append _
  · have hmem : next^[i] x ∈ messages.map (·.sequenceNumber) := by
      rw [hnum, SequenceNumber.mem_walk]
      refine ⟨i - (f + 1), by omega, ?_⟩
      rw [← Function.iterate_add_apply, Nat.sub_add_cancel (by omega)]
    obtain ⟨message, hmessage, he⟩ := List.mem_map.1 hmem
    refine ⟨message, he, ?_⟩
    rw [handedOut_append, handedOut_run, hdel]
    exact List.mem_append_right _ (List.mem_map_of_mem hmessage)

/-- A recovery that waits again consumes nothing. -/
theorem Stands.recovers (hst : m.Stands r.subscription x n h k) (ho : m.Orderly)
    (hr : m.recovery? id = some r) {stage : RecoveryStage}
    (hp : r.stage.point.Path r.received log stage.point)
    (he : events = log.map (.recovers id r.subscription) ++ requests.map (.posts id) ++
      (log.flatMap (·.deliveries r.subscription)).map .hands) :
    ((log.foldl (RecoveryEvent.perform r.subscription) m).setRecovery id stage).Stands
      r.subscription x n (h ++ events) k := by
  obtain ⟨stats, hm⟩ := setRecovery_foldl_eq id r.subscription log stage m
  have hrecs := setRecovery_recoveries (ho.of_recovery? hr) stage
  rw [hm]
  refine ⟨hst.bound, hst.cursor, ?_, fun id' r' hr' hs' => ?_, fun hret => ?_⟩
  · rw [acceptedOf_append, he, acceptedOf_run, List.append_nil]
    exact hst.accepted
  · obtain ⟨rfl, rfl⟩ := (recovery?_eq_some_iff hrecs).1 hr'
    exact hst.recovery id' r hr rfl
  · refine ⟨fun i h1 h2 => ((hst.filled hret.left).handed i h1 h2).append _,
      fun id' r' hr' _ => ?_⟩
    obtain ⟨rfl, rfl⟩ := (recovery?_eq_some_iff hrecs).1 hr'
    obtain ⟨f, underWay, hf, hall, hat | ⟨hover, -⟩⟩ := hst.fetches hr hp he hret
    · exact ⟨f, underWay, hf, hat, hall⟩
    · exact absurd hover stage.point_ne_ended

/-- The end of a recovery takes the cursor to the message before the one that has set it off. -/
theorem Stands.ends (hst : m.Stands r.subscription x n h k) (ho : m.Orderly)
    (hs : m.registry.contains r.subscription = true) (hx : x ≠ 0) (hn : n ≤ 2 ^ 31 - 1)
    (hr : m.recovery? id = some r) (hp : r.stage.point.Path r.received log .ended)
    (hf : ∀ e ∈ log, e.Fits r.subscription m)
    (hq : requests.map (·.question) =
      (log.filterMap (·.question?)).map (·.request r.subscription))
    (he : events = log.map (.recovers id r.subscription) ++ requests.map (.posts id) ++
      (log.flatMap (·.deliveries r.subscription)).map .hands) :
    ∃ k', k ≤ k' ∧
      ((log.foldl (RecoveryEvent.perform r.subscription) m).endRecovery id r).Stands
        r.subscription x n (h ++ events) k' := by
  obtain ⟨j, hkj, hjn, hj⟩ := hst.recovery id r hr rfl
  have haccepted : acceptedOf r.subscription events = [] := by rw [he, acceptedOf_run]
  have hnone (id' : WorkId) (r' : Recovery) (hr' : ((log.foldl (RecoveryEvent.perform
      r.subscription) m).endRecovery id r).recovery? id' = some r') : False := by
    rw [recovery?, recoveries_endRecovery ho hr] at hr'
    cases hr'
  cases hrun : m.running with
  | false =>
    refine ⟨k, Nat.le_refl k, hst.of_same ?_ (fun id' r' hr' => (hnone id' r' hr').elim) haccepted⟩
    obtain ⟨stats, hm⟩ := foldl_perform_eq r.subscription log m
    rcases find?_endRecovery (s := r.subscription) id r
        (log.foldl (RecoveryEvent.perform r.subscription) m) with he | ⟨-, hrun', -⟩
    · rw [he, hm]
    · rw [hm, show _ = _ from hrun] at hrun'
      cases hrun'
  | true =>
    obtain ⟨j, rfl⟩ := Nat.exists_eq_add_of_lt hkj
    have hcursor := ((finishes_run hr hp hf hq).settles ho hrun hs).2.2.1
    rw [hj, Function.iterate_succ_apply',
      SequenceNumber.previous_next (SequenceNumber.iterate_next_ne_zero hx _)] at hcursor
    refine ⟨k + j, by omega, by omega, hcursor, fun a ha i h1 h2 hi => ?_,
      fun id' r' hr' => (hnone id' r' hr').elim,
      fun hret => ⟨fun i h1 h2 => ?_, fun id' r' hr' => (hnone id' r' hr').elim⟩⟩
    · rw [acceptedOf_append, haccepted, List.append_nil] at ha
      have := hst.accepted a ha i h1 h2 hi
      omega
    · obtain ⟨f, underWay, hf', hall, hat | ⟨-, hend⟩⟩ := hst.fetches hr hp he hret
      · exact hat.elim
      -- The recovery has fetched all messages up to the one that has set it off.
      have hend := hend.resolve_left fun hstops => by
        have hdown : m.running = false := hf _ hstops
        rw [hdown] at hrun
        cases hrun
      refine hall i h1 ?_
      by_contra hlt
      have := SequenceNumber.iterate_next_injective hx (by unfold circle; omega)
        (by unfold circle; omega) (hend.trans hj)
      omega

end

/-- A step never goes back, and never beyond the last message. -/
theorem Step.stands (hstep : m.Step events m') (ho : m.Orderly)
    (hs' : m'.registry.contains s = true) (hx : x ≠ 0) (hn : n ≤ 2 ^ 31 - 1)
    (hst : m.Stands s x n h k)
    (ha : ∀ a v, .evaluates a v ∈ events → a.subscription = s → a.message.isKeepAlive = false ∧
      ∃ j, 1 ≤ j ∧ j ≤ n ∧ a.message.sequenceNumber = next^[j] x) :
    ∃ k', k ≤ k' ∧ m'.Stands s x n (h ++ events) k' := by
  cases hstep with
  | outside hout =>
    refine ⟨k, Nat.le_refl k, hst.of_same ?_ (fun id r hr _ => ?_) rfl⟩
    · exact (hout.cursor s).resolve_right fun hc => by rw [hc.1] at hs'; cases hs'
    · rwa [recovery?, hout.recoveries] at hr
  | idles => exact ⟨k, Nat.le_refl k, hst.of_same rfl (fun _ _ hr _ => hr) rfl⟩
  | drops => exact ⟨k, Nat.le_refl k, hst.of_same rfl (fun _ _ hr _ => hr) rfl⟩
  | @accepts a yields q ht hv =>
    obtain ⟨hidle, -, -⟩ := ho.of_turn_run ht
    by_cases hsub : a.subscription = s
    · obtain ⟨hk, j, -, hj, hnum⟩ := ha _ _ List.mem_cons_self hsub
      exact ⟨max k j, Nat.le_max_left k j,
        (hst.take q).accept hx hn hidle hsub hk hj hnum (hsub ▸ (verdict?_eq_some hv).2)⟩
    · obtain ⟨h1, -, h3⟩ := events_accept_other (m := { m with processing := q }) hsub
      refine ⟨k, Nat.le_refl k, hst.of_same h3 (fun id r hr _ => ?_) h1⟩
      rwa [recovery?, accept_eq] at hr
  | @gaps a yields q e ht hv =>
    obtain ⟨hidle, -, -⟩ := ho.of_turn_run ht
    by_cases hsub : a.subscription = s
    · obtain ⟨-, j, hj1, hj, hnum⟩ := ha _ _ List.mem_cons_self hsub
      exact ⟨k, Nat.le_refl k,
        (hst.take q).gap hx hn hidle hj1 hj hnum (hsub ▸ (verdict?_eq_some hv).2)⟩
    · refine ⟨k, Nat.le_refl k, hst.of_same rfl (fun id r hr hrs => ?_) rfl⟩
      rw [recovery?, (beginRecovery_eq ..).2.2.2.2, show _ = _ from hidle] at hr
      obtain ⟨-, rfl⟩ := (recovery?_eq_some_iff (m := { m with recoveries := _ }) rfl).1 hr
      exact absurd hrs hsub
  | rests => exact ⟨k, Nat.le_refl k, hst.of_same rfl (fun _ _ hr _ => hr) rfl⟩
  | @recovers id r log stage requests hr hp hf hq =>
    by_cases hsub : r.subscription = s
    · subst hsub
      exact ⟨k, Nat.le_refl k, hst.recovers ho hr hp rfl⟩
    · obtain ⟨stats, hm⟩ := setRecovery_foldl_eq id r.subscription log stage m
      have hrecs := setRecovery_recoveries (ho.of_recovery? hr) stage
      rw [hm]
      refine ⟨k, Nat.le_refl k, hst.of_same rfl (fun id' r' hr' hs' => ?_) acceptedOf_run⟩
      obtain ⟨-, rfl⟩ := (recovery?_eq_some_iff hrecs).1 hr'
      exact absurd hs' hsub
  | @ends id r log requests hr hp hf hq =>
    by_cases hsub : r.subscription = s
    · subst hsub
      rw [registry_endRecovery] at hs'
      exact hst.ends ho hs' hx hn hr hp hf hq rfl
    · refine ⟨k, Nat.le_refl k, hst.of_same (find?_endRecovery_other hsub) (fun id' r' hr' _ => ?_)
        acceptedOf_run⟩
      rw [recovery?, recoveries_endRecovery ho hr] at hr'
      cases hr'

end SubscriptionManager

/-! ## Runs -/

/-- Of the responses of a subscription that is registered, those that are evaluated to an end are
accepted. -/
theorem acceptedOf_eq_filter {s : SubscriptionId} {h : List SequencerEvent}
    (hd : ∀ a, .evaluates a none ∈ h → a.subscription ≠ s) :
    acceptedOf s h = (settledOf (judged h)).filter (·.subscription = s) := by
  induction h with
  | nil => rfl
  | cons e h ih =>
    have hd' := ih fun a ha => hd a (List.mem_cons_of_mem _ ha)
    cases e with
    | hands | recovers | posts => exact hd'
    | evaluates a v =>
      match v with
      | none =>
        have hne := hd a List.mem_cons_self
        show acceptedOf s h = (a :: settledOf (judged h)).filter (·.subscription = s)
        rw [List.filter_cons_of_neg (by simpa using hne), hd']
      | some (.gap n) => exact hd'
      | some .accept =>
        show acceptedOf s (_ :: h) = (a :: settledOf (judged h)).filter (·.subscription = s)
        rw [List.filter_cons, ← hd']
        by_cases hs : a.subscription = s
        · simp [acceptedOf, hs]
        · simp [acceptedOf, hs]

namespace Client

open SubscriptionManager

variable {c : Client} {s : SubscriptionId} {x : SequenceNumber} {n : Nat}

/-- The responses of a subscription that a run has to do with are data messages with the numbers
`order`, in this order. -/
structure Receives (s : SubscriptionId) (as : List Action) (order : List SequenceNumber)
    (c : Client) : Prop where
  data : ∀ a ∈ c.inbox s as, a.message.isKeepAlive = false
  numbers : (c.inbox s as).map (·.message.sequenceNumber) = order

/-- What is left of the messages is consumed step by step. -/
theorem Begins.stands (hc : c.Begins) {as bs : List Action} (hx : x ≠ 0) (hn : n ≤ 2 ^ 31 - 1)
    (hs : (c.after as).Throughout (Registers s) bs) (hrest : (c.after as).managed.Rests s)
    (hcursor : (c.after as).managed.lastSequenceNumber? s = some x)
    (hin : ∀ a ∈ (c.after as).inbox s bs, a.message.isKeepAlive = false ∧
      ∃ j, 1 ≤ j ∧ j ≤ n ∧ a.message.sequenceNumber = next^[j] x) :
    ∃ k, (c.after (as ++ bs)).managed.Stands s x n ((c.after as).history bs) k := by
  induction bs using List.reverseRecOn with
  | nil =>
    rw [List.append_nil]
    have hnone (id : WorkId) (r : Recovery) (hr : (c.after as).managed.recovery? id = some r) :
        r.subscription ≠ s := hrest.subscription_ne (hc.ready.after as).orderly hr
    exact ⟨0, Nat.zero_le n, hcursor, nofun, fun id r hr hrs => (hnone id r hr hrs).elim,
      fun _ => ⟨fun i h1 h2 => by omega, fun id r hr hrs => (hnone id r hr hrs).elim⟩⟩
  | append_singleton bs b ih =>
    have hp := List.prefix_append bs [b]
    obtain ⟨k, hk⟩ := ih (hs.mono hp) fun a ha => hin a ((inbox_mono hp).subset ha)
    have hready := hc.ready.after (as ++ bs)
    have hlast := hs.last
    rw [after_snoc, ← after_append] at hlast
    have hmem (a : PublishAnswer) (v : Option SequenceNumber.Verdict)
        (ha : .evaluates a v ∈ (c.after (as ++ bs)).events b) (hsub : a.subscription = s) :
        a ∈ (c.after as).inbox s (bs ++ [b]) := by
      refine hsub ▸ hc.mem_inbox (v := v) ?_
      rw [history_snoc, ← after_append]
      exact List.mem_append_right _ ha
    obtain ⟨k', -, hk'⟩ := (hready.step b).2.2.stands hready.orderly hlast hx hn hk
      fun a v ha hsub => hin a (hmem a v ha hsub)
    refine ⟨k', ?_⟩
    rw [← List.append_assoc, after_snoc, history_snoc, ← after_append]
    exact hk'

/-- No response of a subscription that is registered is dropped. -/
theorem not_dropped {as : List Action} (hs : c.Throughout (Registers s) as) (a : PublishAnswer)
    (ha : .evaluates a none ∈ c.history as) : a.subscription ≠ s := by
  rintro rfl
  obtain ⟨p, b, hp, he⟩ := mem_history ha
  obtain ⟨-, -, hv⟩ := of_evaluates_mem he
  have hreg : (c.after p).managed.registry.contains a.subscription = true :=
    hs p ((List.prefix_append p [b]).trans hp)
  rw [verdict?, if_pos hreg] at hv
  cases hv

/-- As long as a subscription is registered, its responses are accepted or still pending. -/
theorem Begins.inbox_eq (hc : c.Begins) {as bs : List Action}
    (hs : (c.after as).Throughout (Registers s) bs)
    (hr : (c.after (as ++ bs)).managed.running = true) :
    (c.after as).inbox s bs = acceptedOf s ((c.after as).history bs) ++
      (c.after (as ++ bs)).managed.processing.tasks.filter (·.subscription = s) := by
  rw [inbox, hc.pending_append_arrived as bs hr, List.filter_append,
    acceptedOf_eq_filter (not_dropped hs)]

/-- A message that is accepted is put on the delivery queue. -/
theorem Ready.handed_of_accepted {as : List Action} {a : PublishAnswer} (h : c.Ready)
    (ha : a ∈ acceptedOf s (c.history as)) :
    Handed s (c.history as) a.message.sequenceNumber := by
  obtain ⟨hmem, rfl⟩ := mem_acceptedOf.1 ha
  obtain ⟨p, b, ⟨bs, rfl⟩, he⟩ := mem_history hmem
  have hevents := ((h.after p).step b).2.2.events_of_accept he
  have hb : Handed a.subscription ((c.after p).events b) a.message.sequenceNumber := by
    rw [hevents]
    exact ⟨a.message, rfl, List.mem_cons_self⟩
  rw [history_append, history_snoc]
  obtain ⟨message, hm, hmem⟩ := hb
  refine Handed.append ⟨message, hm, ?_⟩ _
  rw [handedOut_append]
  exact List.mem_append_right _ hmem

/-- The `n` messages after the cursor `x` come in any order. -/
theorem consumed_in_any_order (hc : c.Begins) (as bs : List Action) (s : SubscriptionId)
    (x : SequenceNumber) (n : Nat) (order : List SequenceNumber) (hx : x ≠ 0)
    (hn : n ≤ 2 ^ 31 - 1) (hs : (c.after as).Throughout (Registers s) bs)
    (hrest : (c.after as).managed.Rests s)
    (hcursor : (c.after as).managed.lastSequenceNumber? s = some x)
    (horder : order.Perm (walk (next x) n)) (hin : (c.after as).Receives s bs order)
    (hend : (c.after (as ++ bs)).WorkedOff s) :
    (c.after (as ++ bs)).managed.lastSequenceNumber? s = some (next^[n] x) ∧
      (acceptedOf s ((c.after as).history bs)).map (·.message.sequenceNumber) = order ∧
      (∀ i ∈ walk (next x) n, Handed s ((c.after as).history bs) i) ∧
      (AllReturned s ((c.after as).history bs) → ∀ p, p <+: bs → ∃ k, k ≤ n ∧
        (c.after (as ++ p)).managed.lastSequenceNumber? s = some (next^[k] x) ∧
        ∀ i ∈ walk (next x) k, Handed s ((c.after as).history p) i) := by
  have hmem {i : SequenceNumber} (hi : i ∈ order) : ∃ j, 1 ≤ j ∧ j ≤ n ∧ i = next^[j] x := by
    obtain ⟨j, hj, rfl⟩ := SequenceNumber.mem_walk.1 (horder.mem_iff.1 hi)
    exact ⟨j + 1, by omega, by omega, rfl⟩
  have hdata (a : PublishAnswer) (ha : a ∈ (c.after as).inbox s bs) :
      a.message.isKeepAlive = false ∧
        ∃ j, 1 ≤ j ∧ j ≤ n ∧ a.message.sequenceNumber = next^[j] x :=
    ⟨hin.data a ha, hmem (hin.numbers ▸ List.mem_map_of_mem ha)⟩
  have stands (p : List Action) (hp : p <+: bs) :
      ∃ k, (c.after (as ++ p)).managed.Stands s x n ((c.after as).history p) k :=
    hc.stands hx hn (hs.mono hp) hrest hcursor fun a ha => hdata a ((inbox_mono hp).subset ha)
  have haccepted : acceptedOf s ((c.after as).history bs) = (c.after as).inbox s bs := by
    have hnone : (c.after (as ++ bs)).managed.processing.tasks.filter (·.subscription = s) = [] :=
      List.filter_eq_nil_iff.2 fun a ha => by simpa using hend.2 a ha
    rw [hc.inbox_eq hs hend.1, hnone, List.append_nil]
  have hnumbers := hin.numbers
  rw [← haccepted] at hnumbers
  refine ⟨?_, hnumbers, fun i hi => ?_, fun hret p hp => ?_⟩
  · obtain ⟨k, hk⟩ := stands bs (List.prefix_refl bs)
    have hkn := hk.bound
    have hle : n ≤ k := by
      by_contra hlt
      -- The last of the messages has been accepted, and so all of them are consumed.
      have hlast : next^[n] x ∈ order := by
        rw [horder.mem_iff, SequenceNumber.mem_walk]
        exact ⟨n - 1, by omega, by rw [← Function.iterate_succ_apply, Nat.succ_eq_add_one,
          Nat.sub_add_cancel (by omega)]⟩
      rw [← hnumbers] at hlast
      obtain ⟨a, ha, hnum⟩ := List.mem_map.1 hlast
      exact hlt (hk.accepted a ha n (by omega) (Nat.le_refl n) hnum)
    obtain rfl : k = n := by omega
    exact hk.cursor
  · rw [← horder.mem_iff, ← hnumbers] at hi
    obtain ⟨a, ha, rfl⟩ := List.mem_map.1 hi
    exact (hc.ready.after as).handed_of_accepted ha
  · obtain ⟨k, hk⟩ := stands p hp
    refine ⟨k, hk.bound, hk.cursor, fun i hi => ?_⟩
    obtain ⟨j, hj, rfl⟩ := SequenceNumber.mem_walk.1 hi
    refine (hk.filled ?_).handed (j + 1) (by omega) (by omega)
    obtain ⟨q, rfl⟩ := hp
    rw [history_append] at hret
    exact hret.left

/-- The message 1 is consumed. -/
def sampleOpened : List Action :=
  sampleStart ++ publishing 0 2 (sampleAnswer 1) ++ [.run .processing]

/-- The message 4 comes first, and the messages 2 and 3 are returned by the server before they come
late. -/
def sampleShuffled : List Action :=
  publishing 1 3 (sampleAnswer 4) ++
    [.run .processing, .run (.recovery 3),
      .reply 4 (goodReply .republish (Simulation.Sample.dataChange 2 [1] 5)), .run (.recovery 3),
      .reply 5 (goodReply .republish (Simulation.Sample.dataChange 3 [1] 5)), .run (.recovery 3),
      .run .processing] ++
    publishing 2 6 (sampleAnswer 2) ++ .run .processing ::
    publishing 4 7 (sampleAnswer 3) ++ [.run .processing]

/-- In the end the cursor is at the message 4, which has come first. -/
theorem consumed_in_any_order_sample :
    sample.Begins ∧ (sample.after sampleOpened).Throughout (Registers 7) sampleShuffled ∧
      (sample.after sampleOpened).managed.Rests 7 ∧
      (sample.after sampleOpened).managed.lastSequenceNumber? 7 = some 1 ∧
      (sample.after sampleOpened).Receives 7 sampleShuffled [4, 2, 3] ∧
      (sample.after (sampleOpened ++ sampleShuffled)).WorkedOff 7 ∧
      (sample.after (sampleOpened ++ sampleShuffled)).managed.lastSequenceNumber? 7 =
        some (next^[3] 1) ∧
      (∀ i ∈ walk (next 1) 3, Handed 7 ((sample.after sampleOpened).history sampleShuffled) i) ∧
      ∀ p, p <+: sampleShuffled → ∃ k, k ≤ 3 ∧
        (sample.after (sampleOpened ++ p)).managed.lastSequenceNumber? 7 = some (next^[k] 1) ∧
        ∀ i ∈ walk (next 1) k, Handed 7 ((sample.after sampleOpened).history p) i := by
  have hs : (sample.after sampleOpened).Throughout (Registers 7) sampleShuffled := by decide
  have hrest : (sample.after sampleOpened).managed.Rests 7 := by decide
  have hcursor : (sample.after sampleOpened).managed.lastSequenceNumber? 7 = some 1 := by decide
  have hin : (sample.after sampleOpened).Receives 7 sampleShuffled [4, 2, 3] :=
    ⟨by decide, by decide⟩
  have hend : (sample.after (sampleOpened ++ sampleShuffled)).WorkedOff 7 :=
    ⟨by decide, by decide⟩
  have hret : AllReturned 7 ((sample.after sampleOpened).history sampleShuffled) := by decide
  obtain ⟨h1, -, h2, h3⟩ := consumed_in_any_order sample_begins sampleOpened sampleShuffled 7 1 3
    [4, 2, 3] (by decide) (by decide) hs hrest hcursor (by decide) hin hend
  exact ⟨sample_begins, hs, hrest, hcursor, hin, hend, h1, h2, h3 hret⟩

end Client

end OpcUa
