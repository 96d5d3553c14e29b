import OpcUa.Proofs.ItemCourse
import OpcUa.Proofs.Reordering

/-!
# The first messages of a subscription

The client knows a new subscription once the task of the call that creates it has taken the answer,
and a new item likewise. The server may publish before that: its response is dropped if it is
evaluated first, and so is a value that is dispatched before its item is there. Nothing is dropped
from then on.

* `SubscriptionManager.Backed`: the subscriptions that are registered are there.
* `Client.Reaches`: a message that reaches a subscription, and its parts the items.
* `Client.created_receives`: all messages that are evaluated after the creation reach the
  subscription.
* `Client.dropped_before_creation`: those that are evaluated earlier do not.
-/

namespace OpcUa

theorem Delivery.eq_message {s : SubscriptionId} {d : Delivery} {m : NotificationMessage}
    (h : d.data? s = some m) : d = .message s m := by
  cases d with
  | value i v => cases h
  | message id m' =>
    obtain ⟨hid, hm⟩ : (id = s ∧ m'.isKeepAlive = false) ∧ some m' = some m :=
      Option.ite_none_right_eq_some.1 h
    rw [hid.1, Option.some.inj hm]

namespace SubscriptionManager

variable {m m' : SubscriptionManager} {k : SubscriptionKey} {h : ClientHandle} {i : ItemKey}

/-! ## Subscriptions that are there -/

/-- Every subscription that is registered is there. -/
def Backed (m : SubscriptionManager) : Prop :=
  ∀ id k, m.registry.find? id = some k → ∃ s, m.subscription? k = some s

theorem backed_fresh (config : ClientConfig) : (fresh config).Backed := nofun

theorem Backed.retains (hm : m.Backed) (hr : m'.registry = m.registry) (hs : m.Retains m') :
    m'.Backed := by
  intro id k hk
  rw [hr] at hk
  obtain ⟨s, hs₀⟩ := hm id k hk
  obtain ⟨s', hs', -⟩ := hs k s hs₀
  exact ⟨s', hs'⟩

theorem Backed.modify (hm : m.Backed) (k : SubscriptionKey) (f : Subscription → Subscription) :
    (m.modifySubscription k f).Backed := by
  intro id k' hk
  obtain ⟨s, hs⟩ := hm id k' hk
  exact ⟨_, by rw [subscription?_modify, hs, Option.map_some]⟩

theorem Backed.fillPipeline (hm : m.Backed) : m.fillPipeline.Backed :=
  hm.retains (quiet_fillPipeline m).registry (.of_eq (subscriptions_fillPipeline m))

theorem Backed.applied {op : PendingOperation} (hm : m.Backed) (h : m.Applies op m') :
    m'.Backed := by
  cases h with
  | refused => exact hm
  | created =>
    refine Backed.fillPipeline fun id k hk => ?_
    rw [Table.find?_insert] at hk
    split at hk
    · cases hk
      exact ⟨_, List.getElem?_concat_length⟩
    · obtain ⟨s, hs⟩ := hm id k hk
      exact ⟨s, (List.getElem?_append_left (List.getElem?_eq_some_iff.1 hs).1).trans hs⟩
  | modified k => exact (hm.modify k _).fillPipeline
  | deleted k =>
    refine Backed.fillPipeline fun id k' hk => ?_
    rw [Table.find?_erase] at hk
    split at hk
    · cases hk
    · exact hm id k' hk
  | publishingSet k => exact hm.modify k _
  | itemsCreated => exact hm.retains (notes_addItems ..).quiet.registry (retains_addItems _ _ m)
  | itemsDeleted =>
    exact hm.retains (notes_removeItems ..).quiet.registry (retains_removeItems _ _ m)

theorem covers_backed : Covers fun m m' => m.Backed → m'.Backed where
  refl _ hm := hm
  begins op clock m hm :=
    hm.retains (notes_begin op clock m).quiet.registry (retains_begin op clock m)
  stops m hm := hm.retains (shutDown_same m).2.2.1 (retains_shutDown m)
  abandons m hm := hm.retains (abandon_same m).2.2.1 (retains_abandon m)
  listens _ _ hm := hm
  attaches _ _ _ hm := hm
  finishes clock op outcome m hm := by
    cases outcome with
    | error e => exact hm
    | ok answer => exact hm.applied (applies_apply clock op answer m)
  delivers m hm := hm.retains (notes_deliverTurn m).quiet.registry (retains_deliverTurn m)

theorem AttemptTurn.backed {w : WorkId} (ht : m.AttemptTurn w m') (hm : m.Backed) : m'.Backed :=
  hm.retains ht.same.2 ht.retains

end SubscriptionManager

namespace Client

open SubscriptionManager

variable {c : Client} {k : SubscriptionKey} {s : SubscriptionId} {h : ClientHandle} {i : ItemKey}
  {message : NotificationMessage}

theorem Begins.backed (hc : c.Begins) (as : List Action) : (c.after as).managed.Backed := by
  induction as using List.reverseRecOn with
  | nil =>
    rw [after_nil, managed_of_eq hc.manager]
    exact backed_fresh _
  | append_singleton as a ih =>
    have hready := hc.ready.after as
    rw [after_snoc]
    by_cases ha : a.Sequences
    · obtain ⟨_, _, _, _, _, _, _, hm⟩ := manager_of_sequences hready.manager ha
      rw [managed_of_eq hm]
      exact ih.retains rfl (.of_eq rfl)
    · obtain ⟨-, hm⟩ := act_moves covers_backed AttemptTurn.backed hready.settled ha
      obtain ⟨m', hm', hb⟩ := hm _ hready.manager
      rw [managed_of_eq hm']
      exact hb ih

/-! ## What reaches a subscription -/

/-- In the next turn of the delivery worker the item receives the part. -/
def Hands (c : Client) (i : ItemKey) (part : NotificationPart) : Prop :=
  ∃ item before after, c.managed.item? i = some item ∧
    (c.act (.run .delivery)).1.managed.item? i =
      some ((before ++ part :: after).foldl MonitoredItem.receive item)

/-- In the next turn of the delivery worker the message is counted by the subscription, and its
parts, up to one on which a callback or a listener fails, are received by the items that have their
handles. -/
structure Reaches (c : Client) (k : SubscriptionKey) (s : Subscription)
    (message : NotificationMessage) : Prop where
  subscription : c.managed.subscription? k = some s
  counts : (c.act (.run .delivery)).1.managed.subscription? k = some (s.counted message)
  parts : message.isKeepAlive = false → ∀ {before part after h i},
    message.parts = before ++ part :: after → (∀ p ∈ before, c.managed.fails s p = false) →
    part.handle? = some h → c.managed.HasItem k h i → c.Hands i part

/-- The message that the delivery worker takes reaches the subscription that is registered. -/
theorem Ready.reaches (hc : c.Ready) (hb : c.managed.Backed)
    (hk : c.managed.registry.find? s = some k)
    (ht : c.takes? (.run .delivery) = some (.message s message)) :
    ∃ sub, c.Reaches k sub message := by
  obtain ⟨sub, hsub⟩ := hb s k hk
  obtain ⟨yields, hturn⟩ : ∃ yields,
      c.managed.delivery.turn.1 = .run (.message s message) yields := by
    unfold takes? at ht
    dsimp only at ht
    split at ht
    · rename_i d yields e
      cases ht
      exact ⟨yields, e⟩
    · cases ht
  rcases hq : c.managed.delivery.turn with ⟨t, q⟩
  rw [hq] at hturn
  obtain rfl : t = .run (.message s message) yields := hturn
  have hm : (c.act (.run .delivery)).1.managed =
      SubscriptionManager.dispatch s message { c.managed with delivery := q } := by
    have hact : (c.act (.run .delivery)).1.managed = c.managed.deliverTurn.1 :=
      managed_withManager hc.manager _
    rw [hact, deliverTurn, hq]
    rfl
  obtain ⟨hcounts, hitems⟩ := dispatch_spec (m := { c.managed with delivery := q }) message hk hsub
  refine ⟨sub, hsub, by rw [hm]; exact hcounts, fun hkeep => ?_⟩
  intro before part after h i hparts hbefore hh ⟨sub', item, hsub', hfind, hitem⟩
  cases hsub.symm.trans hsub'
  have haddr : sub.addresses i part = true := by
    rw [Subscription.addresses, hh, Option.bind_some, hfind]
    exact beq_self_eq_true _
  have hgiven := given_append (m := { c.managed with delivery := q }) hbefore part after
  have hnext := hitems hkeep i
  rw [hparts, hgiven, List.filter_append, List.filter_cons_of_pos haddr] at hnext
  exact ⟨item, _, _, hitem, by rw [hm, hnext]; exact congrArg (Option.map _) hitem⟩

/-- The messages that are accepted are put on the delivery queue, in their order. -/
theorem Ready.accepted_sublist (hc : c.Ready) (s : SubscriptionId) (as : List Action) :
    ((acceptedOf s (c.history as)).map fun a => Delivery.message s a.message).Sublist
      (handedOut (c.history as)) := by
  induction as generalizing c with
  | nil => exact .slnil
  | cons a as ih =>
    have hstep : ((acceptedOf s (c.events a)).map fun a => Delivery.message s a.message).Sublist
        (handedOut (c.events a)) := by
      by_cases e : acceptedOf s (c.events a) = []
      · rw [e]
        exact List.nil_sublist _
      · obtain ⟨x, hx⟩ := List.exists_mem_of_ne_nil _ e
        obtain ⟨haccept, rfl⟩ := mem_acceptedOf.1 hx
        rw [(hc.step a).2.2.events_of_accept haccept]
        simp [acceptedOf, handedOut]
    rw [history, acceptedOf_append, handedOut_append, List.map_append]
    exact hstep.append (ih (hc.act a))

/-! ## The messages after a creation -/

/-- The subscription `k` is registered with the id `s`. -/
def HasSubscription (k : SubscriptionKey) (s : SubscriptionId) (c : Client) : Prop :=
  c.managed.registry.find? s = some k

instance (k : SubscriptionKey) (s : SubscriptionId) (c : Client) :
    Decidable (c.HasSubscription k s) :=
  inferInstanceAs (Decidable (_ = some k))

/-- A new subscription is registered when the call that has created it goes on with the answer. As
long as it stays so, and the manager runs, none of its responses is dropped, of those that are
pending then as well as of those that come later: the ones that are evaluated are accepted, their
messages come to the delivery worker in the same order, and what comes to it reaches the
subscription. An item is there when the call that has added it goes on with the answer, and as long
as no operation takes its handle. -/
theorem created_receives (hc : c.Begins) (hd : c.DistinctHandles) (as bs : List Action) (b : Action)
    (hb : (c.after as).Creates b k s) :
    let d := c.after (as ++ [b])
    let e := d.after bs
    d.HasSubscription k s ∧
      (d.Throughout (HasSubscription k s) bs → e.managed.running = true →
        d.inbox s bs = acceptedOf s (d.history bs) ++
          e.managed.processing.tasks.filter (·.subscription = s) ∧
        ((acceptedOf s (d.history bs)).map fun a => Delivery.message s a.message).Sublist
          (d.delivered bs ++ e.managed.delivery.tasks) ∧
        (∀ p message, p ++ [.run .delivery] <+: bs →
          (d.after p).takes? (.run .delivery) = some (.message s message) →
          ∃ sub, (d.after p).Reaches k sub message) ∧
        ∀ p b r h i, p ++ b :: r <+: bs → (d.after p).Adds b k h i →
          (d.after (p ++ [b])).keepsHandle k h r = true →
          (d.after (p ++ b :: r)).managed.HasItem k h i) := by
  have hready := hc.ready.after (as ++ [b])
  have hbacked (p : List Action) : ((c.after (as ++ [b])).after p).managed.Backed := by
    rw [← after_append]
    exact hc.backed _
  refine ⟨?_, fun hs hr => ⟨?_, ?_, ?_, ?_⟩⟩
  · show HasSubscription k s _
    rw [after_snoc]
    exact (hc.ready.after as).registered_of_creates hb
  · have hreg : (c.after (as ++ [b])).Throughout (Registers s) bs := fun p hp =>
      Option.isSome_iff_exists.2 ⟨k, hs p hp⟩
    rw [← after_append] at hr ⊢
    exact hc.inbox_eq hreg hr
  · rw [← hready.delivery_conserved bs hr]
    exact (hready.accepted_sublist s bs).trans (List.sublist_append_right _ _)
  · intro p message hp ht
    exact (hready.after p).reaches (hbacked p) (hs p ((List.prefix_append p _).trans hp)) ht
  · intro p b' r h i hp hadds hkeeps
    obtain ⟨sub, hsub⟩ := hbacked p s k (hs p ((List.prefix_append p _).trans hp))
    have hready' := (hready.after p).act b'
    have hdistinct : ((c.after (as ++ [b])).after p).DistinctHandles := (hd.after _).after p
    have hi := (hready.after p).hasItem_of_adds hdistinct hsub hadds
    rw [after_snoc] at hkeeps
    rw [after_append]
    exact hready'.hasItem_after hi hkeeps

/-! ## Samples -/

section

open Simulation

/-- A second subscription is created, and then its first message is published. Both answers are
there, but the call has not gone on yet. -/
def sampleEarly : List Action :=
  sampleStart ++ [.run (.attempt 0 false), .call (.operate (.create ⟨200.0, 30, 10, 0, true, 0⟩)) nofun,
    .run (.call 2), .reply 3 (goodReply .createSubscription ⟨8, ⟨200.0, 30, 10⟩⟩),
    .reply 2 (goodReply .publish (Sample.publication 8 (Sample.statusChange 1 .good) none)),
    .run (.attempt 0 false)]

/-- The first message is delivered, and the subscription gets an item. -/
def sampleItem : List Action :=
  [.run .processing, .run .delivery, .call (.operate (.createItems 1 [.value .null])) nofun,
    .run (.call 3), .reply 4 (goodReply .createMonitoredItems [default])]

/-- A value of the item waits to be delivered. -/
def sampleValue : List Action :=
  publishing 1 5 (Sample.publication 8 (Sample.dataChange 2 [2] 5) none) ++ [.run .processing]

set_option maxRecDepth 2000 in
/-- The call that creates the subscription goes on before its first response is evaluated. -/
theorem created_receives_sample :
    let d := sample.after (sampleEarly ++ [.run (.call 2)])
    let bs := sampleItem ++ .run (.call 3) :: sampleValue
    sample.Begins ∧ sample.DistinctHandles ∧
      (sample.after sampleEarly).Creates (.run (.call 2)) 1 8 ∧
      d.Throughout (HasSubscription 1 8) (bs ++ [.run .delivery]) ∧
      (d.after (bs ++ [.run .delivery])).managed.running = true ∧
      (d.after sampleItem).Adds (.run (.call 3)) 1 2 1 ∧
      (d.after (sampleItem ++ [.run (.call 3)])).keepsHandle 1 2 sampleValue = true ∧
      (d.after bs).managed.HasItem 1 2 1 ∧
      ∃ sub message, message.sequenceNumber = 2 ∧ (d.after bs).Reaches 1 sub message := by
  intro d bs
  have hd : sample.DistinctHandles := distinctHandles_of_calls_eq_nil rfl
  have hb : (sample.after sampleEarly).Creates (.run (.call 2)) 1 8 :=
    ⟨⟨2, rfl, rfl⟩, by decide +kernel⟩
  have hs : d.Throughout (HasSubscription 1 8) (bs ++ [.run .delivery]) := by decide +kernel
  have hr : (d.after (bs ++ [.run .delivery])).managed.running = true := by decide +kernel
  have hi : (d.after sampleItem).Adds (.run (.call 3)) 1 2 1 :=
    ⟨⟨3, _, _, _, _, rfl, rfl, rfl, by decide, 0, _, rfl, rfl⟩⟩
  have hk : (d.after (sampleItem ++ [.run (.call 3)])).keepsHandle 1 2 sampleValue = true := by
    decide +kernel
  obtain ⟨message, hm, hn⟩ : ∃ message,
      ((d.after bs).takes? (.run .delivery)).bind (·.data? 8) = some message ∧
        message.sequenceNumber = 2 := Option.map_eq_some_iff.1 (by decide +kernel)
  obtain ⟨δ, ht, hδ⟩ := Option.bind_eq_some_iff.1 hm
  have h := created_receives sample_begins hd sampleEarly (bs ++ [.run .delivery])
    (.run (.call 2)) hb
  obtain ⟨-, -, hreach, hitem⟩ := h.2 hs hr
  obtain ⟨sub, hsub⟩ := hreach bs message (List.prefix_refl _)
    (ht.trans (congrArg some (Delivery.eq_message hδ)))
  have hp : sampleItem ++ .run (.call 3) :: sampleValue <+: bs ++ [.run .delivery] :=
    List.prefix_append _ _
  exact ⟨sample_begins, hd, hb, hs, hr, hi, hk, hitem _ _ _ _ _ hp hi hk, sub, message, hn, hsub⟩

/-- An item is added, and then a value of it is published. Both answers are there, but the call has
not gone on yet. -/
def sampleEarlyValue : List Action :=
  sampleStart ++ [.run (.attempt 0 false), .call (.operate (.createItems 0 [.value .null])) nofun,
    .run (.call 2), .reply 3 (goodReply .createMonitoredItems [default]),
    .reply 2 (goodReply .publish (Sample.publication 7 (Sample.dataChange 1 [2] 5) none)),
    .run (.attempt 0 false)]

set_option maxRecDepth 2000 in
/-- If the first response of the subscription is evaluated before the call that creates it goes on,
then it is dropped, and its message is not delivered at all. If the message with the first value of
an item is dispatched before the call that adds it goes on, then the value does not reach the
item. -/
theorem dropped_before_creation :
    let early := sampleEarly ++ [.run .processing]
    let c := sample.after (early ++ [.run (.call 2)])
    let earlyValue := sampleEarlyValue ++ [.run .processing, .run .delivery]
    let c' := sample.after (earlyValue ++ [.run (.call 2)])
    sample.Begins ∧
      (sample.after sampleEarly).managed.processing.tasks.map
        (fun a => (a.subscription, a.message.sequenceNumber)) = [(8, 1)] ∧
      (sample.after early).Creates (.run (.call 2)) 1 8 ∧
      c.managed.processing.tasks.isEmpty = true ∧ c.managed.delivery.tasks.isEmpty = true ∧
      c.managed.recoveries.isEmpty = true ∧ c.managed.lastSequenceNumber? 8 = none ∧
      (c.managed.subscription? 1).map (·.notificationMessages) = some 0 ∧
      (sample.after earlyValue).Adds (.run (.call 2)) 0 2 1 ∧
      ((sample.delivered earlyValue).filterMap (·.data? 7)).map (·.sequenceNumber) = [1] ∧
      c'.managed.delivery.tasks.isEmpty = true ∧
      (c'.managed.item? 1).map (fun item => (item.handle, item.valuesReceived)) = some (2, 0) :=
  ⟨sample_begins, by decide +kernel, ⟨⟨2, rfl, rfl⟩, by decide +kernel⟩, by decide +kernel,
    by decide +kernel, by decide +kernel, by decide +kernel, by decide +kernel,
    ⟨⟨2, _, _, _, _, rfl, rfl, rfl, by decide, 0, _, rfl, rfl⟩⟩, by decide +kernel,
    by decide +kernel, by decide +kernel⟩

end

end Client

end OpcUa
