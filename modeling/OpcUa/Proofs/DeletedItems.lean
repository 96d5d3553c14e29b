import OpcUa.Proofs.ItemTables

/-!
# Items that are deleted

A message finds its items when it is dispatched, so it does not reach an item that has been deleted
by then. The values that a recovery reads are different: the recovery takes down which items to
read when it begins to, and the delivery queue takes each value to its item directly. A value that
is read for an item that is deleted in the meantime still reaches it.

* `SubscriptionManager.Captures`: a value of the item is being read, or waits to be delivered.
* `SubscriptionManager.Ignores`: a turn of the delivery worker has nothing to do with the item.
* `SubscriptionManager.ignores_of_forgotten`: it has not, unless it delivers a value that was read.
* `SubscriptionManager.Carries`: an item that is forgotten stays so, and is not captured any more.
* `Client.deleted_item_left_alone`: what holds of an item after its deletion.
* `Client.deleted_item_receives`: a value that was read reaches it nevertheless.
-/

namespace OpcUa

/-! ## Values that are read -/

/-- The items whose values are asked for. -/
def RecoveryStage.items : RecoveryStage → List ItemKey
  | republishing .. => []
  | reading k rest _ => k :: rest

namespace RecoveryPoint

def items : RecoveryPoint → List ItemKey
  | choosing items => items
  | reading k rest _ => k :: rest
  | asking _ | awaiting .. | failing | ended => []

theorem items_point (stage : RecoveryStage) : stage.point.items = stage.items := by
  rcases stage with ⟨n, _ | phase⟩ | ⟨k, rest, phase⟩ <;> rfl

variable {received : SequenceNumber} {p q : RecoveryPoint} {e : RecoveryEvent}
  {log : List RecoveryEvent} {i : ItemKey}

/-- The item `i` is not read if it is not one of those to be read, and it only becomes one of them
when it is chosen. -/
theorem Moves.items (h : Moves received p e q) (hp : i ∉ p.items)
    (he : ∀ items, e = .fallsBack items → i ∉ items) :
    i ∉ q.items ∧ ∀ outcome, e ≠ .valueRead i outcome := by
  cases h with
  | fallsBack => exact ⟨he _ rfl, nofun⟩
  | reads | sendsRead => exact ⟨hp, nofun⟩
  | unread | read =>
    refine ⟨fun hmem => hp (List.mem_cons_of_mem _ hmem), ?_⟩
    rintro outcome e
    cases e
    exact hp List.mem_cons_self
  | asks | sendsAsk | came | unasked | refused | endsAsking | endsReading | stopsAsking
  | stopsFailing | stopsReading => exact ⟨List.not_mem_nil, nofun⟩

theorem Path.items (h : Path received p log q) (hp : i ∉ p.items)
    (hlog : ∀ items, .fallsBack items ∈ log → i ∉ items) :
    i ∉ q.items ∧ ∀ outcome, .valueRead i outcome ∉ log := by
  induction h with
  | nil => exact ⟨hp, fun _ => List.not_mem_nil⟩
  | cons hm _ ih =>
    obtain ⟨hq, he⟩ := hm.items hp fun items e => hlog items (e ▸ List.mem_cons_self)
    obtain ⟨hr, hrest⟩ := ih hq fun items hmem => hlog items (List.mem_cons_of_mem _ hmem)
    refine ⟨hr, fun outcome hmem => ?_⟩
    rcases List.mem_cons.1 hmem with e | hmem
    · exact he outcome e.symm
    · exact hrest outcome hmem

end RecoveryPoint

/-- The item whose value is delivered. A message names its items by their handles. -/
def Delivery.item? : Delivery → Option ItemKey
  | value k _ => some k
  | message .. => none

/-- A recovery only delivers the values that it has read. -/
theorem RecoveryEvent.valueRead_of_mem_deliveries {s : SubscriptionId} {e : RecoveryEvent}
    {d : Delivery} {i : ItemKey} (h : d ∈ e.deliveries s) (hd : d.item? = some i) :
    ∃ outcome, e = .valueRead i outcome := by
  unfold deliveries at h
  split at h
  · split at h
    · rw [List.mem_singleton.1 h] at hd
      cases hd
    · cases h
  · split at h
    · rw [List.mem_singleton.1 h] at hd
      cases hd
      exact ⟨_, rfl⟩
    · cases h
  · cases h

namespace WorkQueue

variable {α : Type} {a b : α} {q : WorkQueue α}

theorem mem_submit (h : b ∈ (q.submit a).tasks) : b = a ∨ b ∈ q.tasks := by
  cases hc : q.closed with
  | true =>
    rw [submit_closed hc] at h
    exact .inr h
  | false =>
    rw [tasks_submit hc] at h
    exact (List.mem_append.1 h).symm.imp_left List.mem_singleton.1

theorem mem_foldl_submit {l : List α} (h : b ∈ (l.foldl (fun q a => q.submit a) q).tasks) :
    b ∈ l ∨ b ∈ q.tasks := by
  induction l generalizing q with
  | nil => exact .inr h
  | cons a l ih =>
    rcases ih h with h | h
    · exact .inl (List.mem_cons_of_mem a h)
    · refine (mem_submit h).imp_left ?_
      rintro rfl
      exact List.mem_cons_self

theorem tasks_turn_subset (q : WorkQueue α) : q.turn.2.tasks ⊆ q.tasks := by
  by_cases h : ∃ a yields, q.turn.1 = .run a yields
  · obtain ⟨a, yields, h⟩ := h
    obtain ⟨-, -, -, -, ht⟩ := turn_run (Prod.ext h rfl)
    rw [ht]
    exact List.subset_cons_self ..
  · rw [(turn_same fun a yields e => h ⟨a, yields, e⟩).1]
    exact List.Subset.refl _

end WorkQueue

namespace SubscriptionManager

variable {m m' : SubscriptionManager} {i : ItemKey}

/-- A value of the item is being read, or waits to be delivered. -/
def Captures (i : ItemKey) (m : SubscriptionManager) : Prop :=
  (∃ d ∈ m.delivery.tasks, d.item? = some i) ∨ ∃ p ∈ m.recoveries, i ∈ p.2.stage.items

instance (i : ItemKey) (m : SubscriptionManager) : Decidable (m.Captures i) :=
  inferInstanceAs (Decidable (_ ∨ _))

/-! ## Turns of the delivery worker -/

/-- The next turn of the delivery worker has nothing to do with the item: the item stays as it is,
and whatever were in its place, with whatever callback, the turn would do the same to all else. -/
structure Ignores (i : ItemKey) (m : SubscriptionManager) : Prop where
  item? : m.deliverTurn.1.item? i = m.item? i
  others : ∀ x, (m.setItem i x).deliverTurn.1 = m.deliverTurn.1.setItem i x

section

variable {j : ItemKey} {x : MonitoredItem}

theorem deliverTo_setItem (hj : j ≠ i) (f : MonitoredItem → Delivered) (m : SubscriptionManager) :
    (m.setItem i x).deliverTo j f = ((m.deliverTo j f).1.setItem i x, (m.deliverTo j f).2) := by
  have hitem : (m.setItem i x).item? j = m.item? j := by
    rw [item?_setItem, if_neg (Ne.symm hj)]
  unfold deliverTo
  rw [hitem]
  cases m.item? j with
  | none => rfl
  | some item =>
    have hset : (m.items.set i x).set j (f item).item = (m.items.set j (f item).item).set i x :=
      List.set_comm _ _ (Ne.symm hj)
    unfold setItem observe
    dsimp only
    rw [hset]

theorem deliverParts_setItem {s : Subscription} (hs : ∀ h, s.items.find? h ≠ some i)
    (parts : List NotificationPart) (m : SubscriptionManager) :
    (m.setItem i x).deliverParts s parts =
      ((m.deliverParts s parts).1.setItem i x, (m.deliverParts s parts).2) := by
  have hpart (part : NotificationPart) (m : SubscriptionManager) :
      (m.setItem i x).deliverPart s part =
        ((m.deliverPart s part).1.setItem i x, (m.deliverPart s part).2) := by
    cases part with
    | value handle v =>
      unfold deliverPart
      dsimp only
      split
      · rename_i j hj
        refine deliverTo_setItem ?_ _ m
        rintro rfl
        exact hs handle hj
      · rfl
    | event handle fields =>
      unfold deliverPart
      dsimp only
      split
      · rename_i j hj
        refine deliverTo_setItem ?_ _ m
        rintro rfl
        exact hs handle hj
      · rfl
    | status status => rfl
  induction parts generalizing m with
  | nil => rfl
  | cons part rest ih =>
    unfold deliverParts
    rw [hpart]
    rcases m.deliverPart s part with ⟨m₁, _ | _⟩
    · rfl
    · exact ih m₁

/-- A message does not get to an item that no subscription has which is registered. -/
theorem dispatch_setItem (hi : ¬ m.Attached i) (id : SubscriptionId)
    (message : NotificationMessage) :
    (m.setItem i x).dispatch id message = (m.dispatch id message).setItem i x := by
  have hregistry : (m.setItem i x).registry = m.registry := rfl
  unfold dispatch
  rw [hregistry]
  cases hk : m.registry.find? id with
  | none => rfl
  | some k =>
    have hsubscription : (m.setItem i x).subscription? k = m.subscription? k := rfl
    dsimp only
    rw [hsubscription]
    cases hs : m.subscription? k with
    | none => rfl
    | some s =>
      have hfind (h : ClientHandle) : s.items.find? h ≠ some i := fun hf =>
        hi ⟨id, k, h, hk, s, hs, hf⟩
      dsimp only
      split
      · rfl
      · have hparts := deliverParts_setItem (x := x) hfind message.parts
          { m.modifySubscription k fun s =>
            { s with notificationMessages := s.notificationMessages + 1 } with
            stats := m.stats.recordNotificationMessage }
        split <;> rename_i e <;> split <;> rename_i e' <;>
          cases e.symm.trans (hparts.trans (congrArg (fun p => (p.1.setItem i x, p.2)) e'))
        · rfl
        · rfl

theorem deliverTurn_setItem (hi : ¬ m.Attached i)
    (hv : ∀ v yields, m.delivery.turn.1 ≠ .run (.value i v) yields) :
    (m.setItem i x).deliverTurn.1 = m.deliverTurn.1.setItem i x := by
  have hdelivery : (m.setItem i x).delivery = m.delivery := rfl
  unfold deliverTurn
  rw [hdelivery]
  rcases e : m.delivery.turn with ⟨t, q⟩
  cases t with
  | run d yields =>
    cases d with
    | message id message => exact dispatch_setItem (m := { m with delivery := q }) hi id message
    | value j v =>
      have hj : j ≠ i := by
        rintro rfl
        exact hv v yields (by rw [e])
      exact congrArg Prod.fst (deliverTo_setItem hj (·.deliverValue v) { m with delivery := q })
  | again | sleeps | stops => rfl

end

theorem setItem_self {item : MonitoredItem} (hi : m.item? i = some item) :
    m.setItem i item = m := by
  obtain ⟨hlt, hget⟩ := List.getElem?_eq_some_iff.1 hi
  unfold setItem
  rw [← hget, List.set_getElem_self hlt]

/-- An item that is forgotten has nothing to do with the delivery worker, unless that delivers a
value that was read for it. -/
theorem ignores_of_forgotten (hi : m.Forgotten i)
    (hv : ∀ v yields, m.delivery.turn.1 ≠ .run (.value i v) yields) : m.Ignores i where
  others _ := deliverTurn_setItem hi.unattached hv
  item? := by
    obtain ⟨item, hitem⟩ := hi.item
    obtain ⟨item', hitem', -⟩ := (sameTables_deliverTurn m).symm.item hitem
    have hsame := deliverTurn_setItem (x := item) hi.unattached hv
    rw [setItem_self hitem] at hsame
    rw [hsame, item?_setItem, if_pos rfl, hitem', hitem]
    rfl

/-! ## Items that stay forgotten -/

/-- From `m` to `m'` the tables stay in order, no subscription is registered again, and an item that
is forgotten stays so and no value of it is asked for. -/
structure Carries (m m' : SubscriptionManager) : Prop where
  filed : m.Filed → m'.Filed
  orphaned : ∀ k, m.Orphaned k → m'.Orphaned k
  forgotten : ∀ i, m.Forgotten i → m'.Forgotten i
  captured : ∀ i, m.Forgotten i → m'.Captures i → m.Captures i

theorem Carries.trans {m'' : SubscriptionManager} (h : m.Carries m') (h' : m'.Carries m'') :
    m.Carries m'' where
  filed hf := h'.filed (h.filed hf)
  orphaned k hk := h'.orphaned k (h.orphaned k hk)
  forgotten i hi := h'.forgotten i (h.forgotten i hi)
  captured i hi hc := h.captured i hi (h'.captured i (h.forgotten i hi) hc)

/-- A step that leaves the tables and the recoveries alone, and puts no values on the delivery
queue. -/
theorem SameTables.carries (h : m.SameTables m')
    (hd : ∀ d ∈ m'.delivery.tasks, d.item? = none ∨ d ∈ m.delivery.tasks)
    (hr : m'.recoveries = m.recoveries) : m.Carries m' where
  filed := h.filed
  orphaned _ := h.orphaned
  forgotten _ := h.forgotten
  captured i _ := by
    rintro (⟨d, hmem, hitem⟩ | hread)
    · exact .inl ⟨d, (hd d hmem).resolve_left (hitem ▸ nofun), hitem⟩
    · exact .inr (hr ▸ hread)

theorem carries_of_eq (htables : m'.registry = m.registry ∧ m'.subscriptions = m.subscriptions ∧
    m'.items = m.items) (hd : m'.delivery = m.delivery) (hr : m'.recoveries = m.recoveries) :
    m.Carries m' :=
  (sameTables_of_eq htables.1 htables.2.1 htables.2.2).carries (fun _ h => .inr (hd ▸ h)) hr

theorem Settles.recoveries (h : m.Settles m') : m'.recoveries = m.recoveries := by
  cases h with
  | notes h => exact h.quiet.recoveries
  | created id k h => exact (h.quiet.trans (quiet_fillPipeline _)).recoveries
  | modified h => exact (h.quiet.trans (quiet_fillPipeline _)).recoveries
  | deleted id h => exact (h.quiet.trans (quiet_fillPipeline _)).recoveries

theorem carries_finish (clock : Nat) (op : PendingOperation)
    (outcome : Except Error op.service.Answer) (m : SubscriptionManager) :
    m.Carries (m.finish clock op outcome).1 := by
  have hs := settles_finish clock op outcome m
  have hcaptured (i : ItemKey) (h : (m.finish clock op outcome).1.Captures i) : m.Captures i := by
    unfold Captures at h ⊢
    rwa [hs.queues.2, hs.recoveries] at h
  cases outcome with
  | error e => exact ⟨id, fun _ => id, fun _ => id, fun i _ => id⟩
  | ok answer =>
    have h := applies_apply clock op answer m
    exact ⟨fun hf => hf.applied h, fun _ hk => hk.applied h, fun _ hi => hi.applied h,
      fun i _ => hcaptured i⟩

theorem covers_carries : Covers Carries where
  refl m := (SameTables.refl m).carries (fun _ => .inr) rfl
  begins op clock m := by
    have h := notes_begin op clock m
    exact (unaltered_begin op clock m).sameTables.carries
      (fun _ hd => .inr (h.quiet.delivery ▸ hd)) h.quiet.recoveries
  stops m := by
    refine (sameTables_shutDown m).carries (fun d hd => .inr ?_) (shutDown_same m).1
    unfold shutDown at hd
    split at hd <;> exact hd
  abandons m := by
    refine (sameTables_abandon m).carries (fun d hd => .inr ?_) (abandon_same m).1
    have hshut : m.shutDown.delivery = m.delivery := by
      unfold shutDown
      split <;> rfl
    unfold abandon at hd
    dsimp only at hd
    split at hd
    · rwa [hshut] at hd
    · rw [WorkQueue.tasks_close] at hd
      cases hd
  listens _ _ := carries_of_eq ⟨rfl, rfl, rfl⟩ rfl rfl
  attaches k callbacks m := (sameTables_setCallbacks k callbacks m).carries (fun _ => .inr) rfl
  finishes := carries_finish
  delivers m := by
    have h := (notes_deliverTurn m).quiet
    refine (sameTables_deliverTurn m).carries (fun d hd => .inr ?_) h.recoveries
    rw [h.delivery] at hd
    exact WorkQueue.tasks_turn_subset _ hd

theorem AttemptTurn.carries {w : WorkId} (ht : m.AttemptTurn w m') : m.Carries m' := by
  refine ht.sameTables.carries (fun d hd => .inr (ht.same.1 ▸ hd)) ?_
  rcases ht.cases with h | ⟨a, h⟩
  · exact h.recoveries
  · exact h.recoveries

theorem carries_process (a : PublishAnswer) (m : SubscriptionManager) :
    m.Carries (m.process a) := by
  unfold process
  split
  · split
    · rw [accept_eq]
      refine SameTables.carries (sameTables_of_eq rfl rfl rfl) (fun d hd => ?_) rfl
      exact (WorkQueue.mem_submit hd).imp_left fun e => congrArg Delivery.item? e
    · -- The recovery begins to ask for messages.
      have h : m.SameTables (m.beginRecovery a ‹_›) := sameTables_of_eq rfl rfl rfl
      refine ⟨h.filed, fun _ => h.orphaned, fun _ => h.forgotten, fun i _ => Or.imp_right ?_⟩
      rintro ⟨p, hp, hi⟩
      rcases List.mem_append.1 hp with hp | hp
      · exact ⟨p, hp, hi⟩
      · rw [List.mem_singleton.1 hp] at hi
        cases hi
  · exact covers_carries.refl m

theorem carries_processTurn (m : SubscriptionManager) : m.Carries m.processTurn.1 := by
  unfold processTurn
  split
  · rename_i a yields q e
    have hq : m.Carries { m with processing := q } := carries_of_eq ⟨rfl, rfl, rfl⟩ rfl rfl
    exact hq.trans (carries_process a _)
  all_goals exact carries_of_eq ⟨rfl, rfl, rfl⟩ rfl rfl

/-! ### Recoveries -/

/-- The items that a recovery reads are those of a subscription that is registered. -/
theorem attached_of_readableItems {s : SubscriptionId} (h : i ∈ m.readableItems s) :
    m.Attached i := by
  unfold readableItems registered? at h
  cases hk : m.registry.find? s with
  | none =>
    rw [hk] at h
    cases h
  | some k =>
    rw [hk, Option.bind_some] at h
    cases hs : m.subscription? k with
    | none =>
      rw [hs] at h
      cases h
    | some sub =>
      rw [hs] at h
      obtain ⟨handle, hfind⟩ := Table.exists_find?_of_mem_values (List.mem_filter.1 h).1
      exact ⟨s, k, handle, hk, sub, hs, hfind⟩

/-- A recovery that has come to the point `q` leaves its deliveries on the queue. -/
theorem carries_of_path {id : WorkId} {r : Recovery} {log : List RecoveryEvent}
    {q : RecoveryPoint} (hr : (id, r) ∈ m.recoveries) (hfits : ∀ e ∈ log, e.Fits r.subscription m)
    (hpath : r.stage.point.Path r.received log q) (htables : m.SameTables m')
    (hdelivery : ∀ d ∈ m'.delivery.tasks,
      d ∈ log.flatMap (·.deliveries r.subscription) ∨ d ∈ m.delivery.tasks)
    (hrecoveries : ∀ p ∈ m'.recoveries, p ∈ m.recoveries ∨ p.2.stage.point = q) :
    m.Carries m' where
  filed := htables.filed
  orphaned _ := htables.orphaned
  forgotten _ := htables.forgotten
  captured i hi h := by
    by_cases hread : i ∈ r.stage.items
    · exact .inr ⟨_, hr, hread⟩
    · rw [← RecoveryPoint.items_point] at hread
      obtain ⟨hq, hlog⟩ := hpath.items hread fun items hmem hitem =>
        hi.unattached (attached_of_readableItems ((hfits _ hmem).2 ▸ hitem))
      rcases h with ⟨d, hd, hitem⟩ | ⟨p, hp, hitem⟩
      · rcases hdelivery _ hd with hd | hd
        · obtain ⟨e, he, hd⟩ := List.mem_flatMap.1 hd
          obtain ⟨outcome, rfl⟩ := RecoveryEvent.valueRead_of_mem_deliveries hd hitem
          exact absurd he (hlog outcome)
        · exact .inl ⟨d, hd, hitem⟩
      · rcases hrecoveries p hp with hp | hp
        · exact .inr ⟨p, hp, hitem⟩
        · rw [← RecoveryPoint.items_point, hp] at hitem
          exact absurd hitem hq

end SubscriptionManager

namespace Client

open SubscriptionManager

variable {c : Client} {i : ItemKey}

theorem carries_pollRecovery (id : WorkId) (c : Client) :
    c.Moves Carries (c.pollRecovery id).1 := by
  refine moves_pollRecovery covers_carries.refl fun {m r} hm hr => ?_
  have h := recounts_pollRecovery hm hr
  have hmem := mem_of_lookup hr
  rcases h.course with ⟨stage, hpath, hm'⟩ | ⟨hpath, hm'⟩
  · refine ⟨_, hm', ?_⟩
    obtain ⟨stats, e⟩ := setRecovery_foldl_eq id r.subscription (c.recoveryLog id) stage m
    rw [e]
    refine carries_of_path hmem h.fits hpath (sameTables_of_eq rfl rfl rfl)
      (fun d hd => WorkQueue.mem_foldl_submit hd) fun p hp => ?_
    obtain ⟨p', hp', rfl⟩ := List.mem_map.1 hp
    split
    · exact .inr rfl
    · exact .inl hp'
  · refine ⟨_, hm', ?_⟩
    obtain ⟨stats, e⟩ := foldl_perform_eq r.subscription (c.recoveryLog id) m
    rw [endRecovery_eq, e]
    refine carries_of_path hmem h.fits hpath (sameTables_of_eq rfl rfl rfl)
      (fun d hd => WorkQueue.mem_foldl_submit (WorkQueue.tasks_resume _ ▸ hd)) fun p hp => ?_
    unfold SubscriptionManager.endRecovery at hp
    exact .inl (List.mem_filter.1 (by split at hp <;> exact hp)).1

/-- Whatever happens, an item that is forgotten stays so. -/
theorem carries_undergo (hc : c.Serving) (h : Happening) :
    c.managed.Carries (c.undergo h).managed := by
  obtain ⟨m', hm', hcarries⟩ := (moves_undergo covers_carries.toCoversCommon AttemptTurn.carries
    covers_carries.delivers carries_processTurn (carries_pollRecovery · c) hc.settled fun _ _ =>
      moves_advanceOperation covers_carries.toCoversCommon covers_carries.finishes ..).2 _ hc.manager
  rwa [managed_of_eq hm']

/-- Nothing that holds of the tables and of what is forgotten is lost in a run. -/
theorem Serving.carries_later (hc : c.Serving) (hs : List Happening) :
    c.managed.Carries (c.later hs).managed := by
  induction hs generalizing c with
  | nil => exact covers_carries.refl _
  | cons h hs ih => exact (carries_undergo hc h).trans (ih (hc.undergo h))

theorem Begins.filed_later (hc : c.Begins) (hn : c.NumbersCalls) (hs : List Happening) :
    (c.later hs).managed.Filed := by
  refine ((hc.serving hn).carries_later hs).filed ?_
  rw [managed_of_eq hc.manager]
  exact filed_fresh _

/-! ## Deletions -/

variable {id : CallId} {job : Job} {phase : CallPhase} {k : SubscriptionKey} {h : Happening}

/-- A call ends with which the application has deleted the item `i`, among others. The caller is
told a status of the item with which it is removed from the subscription `k`. -/
inductive DeletesItem (k : SubscriptionKey) (i : ItemKey) (c : Client) : Happening → Prop
  | ends {id : CallId} {job : Job} {items : List ItemKey} {phase : CallPhase}
      {statuses : List StatusCode} {status : StatusCode} :
    c.calls.lookup id = some ⟨job, .operating (.deleteItems k items) phase⟩ →
    (c.undergo (.act (.run (.call id)))).finished.lookup id =
      some (.operated (.ok (.statuses statuses))) →
    (i, status) ∈ items.zip statuses → removes status = true →
    DeletesItem k i c (.act (.run (.call id)))

/-- A call ends with which the application has deleted the subscription `k`. -/
inductive DeletesSubscription (k : SubscriptionKey) (c : Client) : Happening → Prop
  | ends {id : CallId} {job : Job} {phase : CallPhase} :
    c.calls.lookup id = some ⟨job, .operating (.delete k) phase⟩ →
    (c.undergo (.act (.run (.call id)))).finished.lookup id = some (.operated (.ok .done)) →
    DeletesSubscription k c (.act (.run (.call id)))

/-- The run has deleted an item, or a subscription that has the item now. -/
inductive Deleted (i : ItemKey) (c : Client) : List Happening → Prop
  | item {hs hs' : List Happening} {h : Happening} {k : SubscriptionKey} {handle : ClientHandle} :
    (c.later hs).DeletesItem k i h → (c.later hs).managed.Files k handle i →
    Deleted i c (hs ++ h :: hs')
  | subscription {hs hs' : List Happening} {h : Happening} {k : SubscriptionKey}
      {handle : ClientHandle} :
    (c.later hs).DeletesSubscription k h →
    (∃ s, (c.later hs).managed.subscription? k = some s) →
    (c.later (hs ++ h :: hs')).managed.Files k handle i →
    Deleted i c (hs ++ h :: hs')

/-- A call that ends with a result has taken an answer, and has applied it. -/
theorem Serving.applied (hc : c.Serving) {op : PendingOperation} {result : OperationResult}
    (hl : c.calls.lookup id = some ⟨job, .operating op phase⟩)
    (hf : (c.undergo (.act (.run (.call id)))).finished.lookup id =
      some (.operated (.ok result))) :
    ∃ clock answer, (c.undergo (.act (.run (.call id)))).managed =
        (c.managed.apply clock op answer).1 ∧
      (c.managed.apply clock op answer).2 = .ok result := by
  have hnone := (((hc.undergo (.act (.run (.call id)))).numbers).finished hf).2
  rw [undergo_act (by nofun), act_of_operating hl] at hf hnone ⊢
  rcases advanceOperation_cases hc.manager id op phase with
    ⟨phase', posted, -, e⟩ | ⟨outcome, -, clock, e⟩
  · -- The call would still be there.
    rw [e] at hnone
    exact nomatch hnone.symm.trans (lookup_setCall (by exact hl) _)
  · rw [e] at hf ⊢
    have hresult := Option.some.inj ((lookup_finish ..).2.symm.trans hf)
    cases outcome with
    | error err => cases hresult
    | ok answer =>
      refine ⟨clock, answer, managed_of_eq rfl, ?_⟩
      injection hresult

theorem DeletesItem.forgotten {handle : ClientHandle} (hd : c.DeletesItem k i h) (hc : c.Serving)
    (hf : c.managed.Filed) (hfile : c.managed.Files k handle i) :
    (c.undergo h).managed.Forgotten i := by
  obtain ⟨hl, hresult, hmem, hstatus⟩ := hd
  obtain ⟨clock, answer, e, hok⟩ := hc.applied hl hresult
  rw [e]
  injection hok with hok
  injection hok with hok
  exact forgotten_of_removeItems hf hfile (hok ▸ hmem) hstatus

theorem DeletesSubscription.orphaned (hd : c.DeletesSubscription k h) (hc : c.Serving)
    (hf : c.managed.Filed) (hs : ∃ s, c.managed.subscription? k = some s) :
    (c.undergo h).managed.Orphaned k := by
  obtain ⟨hl, hresult⟩ := hd
  obtain ⟨clock, answer, e, hok⟩ := hc.applied hl hresult
  rw [e]
  unfold SubscriptionManager.apply at hok ⊢
  dsimp only at hok ⊢
  split at hok
  · cases hok
  · rename_i hgood
    rw [if_neg hgood]
    exact orphaned_of_removeSubscription hf hs

theorem Deleted.forgotten {hs : List Happening} (hd : c.Deleted i hs) (hc : c.Begins)
    (hn : c.NumbersCalls) : (c.later hs).managed.Forgotten i := by
  cases hd with
  | @item hs hs' h k handle hd hfile =>
    have hserves := (hc.serving hn).later hs
    have hi := hd.forgotten hserves (hc.filed_later hn hs) hfile
    rw [later_append, later_cons]
    exact ((hserves.undergo h).carries_later hs').forgotten i hi
  | @subscription hs hs' h k handle hd hsub hfile =>
    have hserves := (hc.serving hn).later hs
    have hk := hd.orphaned hserves (hc.filed_later hn hs) hsub
    have hlater := (hserves.undergo h).carries_later hs'
    rw [← later_cons, ← later_append] at hlater
    exact (hlater.orphaned k hk).forgotten (hc.filed_later hn _) hfile

/-- After an item or its subscription has been deleted, no message reaches the item any more,
neither one from a Publish response nor one that has been asked for again: whatever the delivery
worker does next has nothing to do with the item, unless it delivers a value that has been read for
it. No more values are asked for, so if none was being read or waiting to be delivered, the delivery
worker has nothing to do with the item for good. -/
theorem deleted_item_left_alone (hc : c.Begins) (hn : c.NumbersCalls) {hs : List Happening}
    (hd : c.Deleted i hs) (hs' : List Happening) :
    let m := (c.later hs).managed
    let m' := (c.later (hs ++ hs')).managed
    m'.Forgotten i ∧ (m'.Captures i → m.Captures i) ∧
      ((∃ v yields, m'.delivery.turn.1 = .run (.value i v) yields) ∨ m'.Ignores i) ∧
      (¬ m.Captures i → m'.Ignores i) := by
  intro m m'
  have hi := hd.forgotten hc hn
  have hcarries : m.Carries m' := by
    have h := ((hc.serving hn).later hs).carries_later hs'
    rwa [← later_append] at h
  have hi' := hcarries.forgotten i hi
  have hcaptured := hcarries.captured i hi
  have hturn : (∃ v yields, m'.delivery.turn.1 = .run (.value i v) yields) ∨ m'.Ignores i := by
    by_cases h : ∃ v yields, m'.delivery.turn.1 = .run (.value i v) yields
    · exact .inl h
    · exact .inr (ignores_of_forgotten hi' fun v yields e => h ⟨v, yields, e⟩)
  refine ⟨hi', hcaptured, hturn, fun hnot => hturn.resolve_left ?_⟩
  rintro ⟨v, yields, e⟩
  obtain ⟨-, -, -, -, ht⟩ := WorkQueue.turn_run (Prod.ext e rfl)
  exact hnot (hcaptured (.inl ⟨_, by rw [ht]; exact List.mem_cons_self, rfl⟩))

section

open Simulation

/-- The first message waits to be delivered when its item is deleted. -/
def sampleDeletion : List Action :=
  sampleStart ++ publishing 0 2 (sampleAnswer 1) ++ .run .processing ::
    operating 2 3 (.deleteItems 0 [0]) (goodReply .deleteMonitoredItems [.good])

/-- When the message is dispatched, its value does not find the item any more. -/
theorem deleted_item_left_alone_sample :
    let hs := sampleDeletion.map .act
    sample.Begins ∧ sample.NumbersCalls ∧ sample.Deleted 0 hs ∧
      ¬ (sample.later hs).managed.Captures 0 ∧
      (sample.later (hs ++ [])).managed.delivery.tasks.length = 1 ∧
      (sample.later (hs ++ [])).managed.Ignores 0 := by
  intro hs
  have hn : sample.NumbersCalls := ⟨nofun, nofun⟩
  have hd : sample.Deleted 0 hs := by
    let c := sample.later hs.dropLast
    have hfile : c.managed.Files 0 1 0 := ⟨_, rfl, rfl⟩
    obtain ⟨phase, hl⟩ : ∃ phase, c.calls.lookup 2 =
      some ⟨.operate (.deleteItems 0 [0]), .operating (.deleteItems 0 [0]) phase⟩ := ⟨_, rfl⟩
    have hsplit : hs = hs.dropLast ++ [.act (.run (.call 2))] := rfl
    rw [hsplit]
    exact .item (.ends hl rfl List.mem_cons_self rfl) hfile
  have hnot : ¬ (sample.later hs).managed.Captures 0 := by decide +kernel
  exact ⟨sample_begins, hn, hd, hnot, by decide +kernel,
    (deleted_item_left_alone sample_begins hn hd []).2.2.2 hnot⟩

/-- The item or its subscription is deleted after the value of the item has been read. -/
def sampleCaptured (op : Operation) (reply : Reply) : List Action :=
  sampleRun ++ .attach 0 (.always "changed" false) :: operating 2 7 op reply

/-- The recovery ends, and the messages 1 and 2 are dispatched before the value. -/
def sampleLate : List Happening :=
  [.act (.run (.recovery 3)), .act (.run .delivery), .act (.run .delivery)]

set_option maxRecDepth 2000 in
/-- A value that is being read when the item is deleted reaches it nevertheless: it is remembered
and counted, and the callback is called. It is the same if the subscription is deleted. -/
theorem deleted_item_receives :
    sample.Begins ∧ sample.NumbersCalls ∧
      ∀ p ∈ [(.deleteItems 0 [0], goodReply .deleteMonitoredItems [.good]),
          (.delete 0, goodReply .deleteSubscriptions [.good])],
        let hs := (sampleCaptured p.1 p.2).map .act
        let m := (sample.later (hs ++ sampleLate)).managed
        sample.Deleted 0 hs ∧ ¬ m.Ignores 0 ∧
          (m.item? 0).map (·.valuesReceived) = some 0 ∧ m.journal = [] ∧
          (m.deliverTurn.1.item? 0).map (·.valuesReceived) = some 1 ∧
          m.deliverTurn.1.journal = [.value "changed" 1 (.taken (.int32 5) default)] := by
  have hreceives {m : SubscriptionManager} (hb : (m.item? 0).map (·.valuesReceived) = some 0)
      (ha : (m.deliverTurn.1.item? 0).map (·.valuesReceived) = some 1) : ¬ m.Ignores 0 := by
    intro h
    rw [h.item?, hb] at ha
    cases ha
  refine ⟨sample_begins, ⟨nofun, nofun⟩, fun p hp => ?_⟩
  rcases List.mem_cons.1 hp with rfl | hp
  · intro hs m
    let c := sample.later hs.dropLast
    have hfile : c.managed.Files 0 1 0 := ⟨_, rfl, rfl⟩
    obtain ⟨phase, hl⟩ : ∃ phase, c.calls.lookup 2 =
      some ⟨.operate (.deleteItems 0 [0]), .operating (.deleteItems 0 [0]) phase⟩ := ⟨_, rfl⟩
    have hsplit : hs = hs.dropLast ++ [.act (.run (.call 2))] := rfl
    have hd : sample.Deleted 0 hs := by
      rw [hsplit]
      exact .item (.ends hl rfl List.mem_cons_self rfl) hfile
    have hb : (m.item? 0).map (·.valuesReceived) = some 0 := by decide +kernel
    have ha : (m.deliverTurn.1.item? 0).map (·.valuesReceived) = some 1 := by decide +kernel
    exact ⟨hd, hreceives hb ha, hb, rfl, ha, rfl⟩
  · obtain rfl := List.mem_singleton.1 hp
    intro hs m
    let c := sample.later hs.dropLast
    have hfile : (sample.later hs).managed.Files 0 1 0 := ⟨_, rfl, rfl⟩
    obtain ⟨phase, hl⟩ : ∃ phase, c.calls.lookup 2 =
      some ⟨.operate (.delete 0), .operating (.delete 0) phase⟩ := ⟨_, rfl⟩
    have hsplit : hs = hs.dropLast ++ [.act (.run (.call 2))] := rfl
    have hd : sample.Deleted 0 hs := by
      rw [hsplit] at hfile ⊢
      exact .subscription (.ends hl rfl) ⟨_, rfl⟩ hfile
    have hb : (m.item? 0).map (·.valuesReceived) = some 0 := by decide +kernel
    have ha : (m.deliverTurn.1.item? 0).map (·.valuesReceived) = some 1 := by decide +kernel
    exact ⟨hd, hreceives hb ha, hb, rfl, ha, rfl⟩

end

end Client

end OpcUa
