import OpcUa.Proofs.HeldQueues

/-!
# The course of deliveries

What is put on the delivery queue is delivered in the same order. A message goes to the subscription
that is registered when its turn comes, and each of its parts to the item that has the handle then.

* `SubscriptionManager.given`, `SubscriptionManager.Hands`: the parts of a message that are handed
  out, and what the items make of them.
* `SubscriptionManager.dispatch_spec`: what becomes of a message.
* `Client.delivered`: what the delivery worker takes from its queue in a run.
* `Client.Ready.delivery_conserved`: it is what has been put there, in this order.
-/

namespace OpcUa

/-! ## What becomes of a message -/

/-- The handle that a part is for, if it is for an item. -/
def NotificationPart.handle? : NotificationPart → Option ClientHandle
  | value h _ | event h _ => some h
  | status _ => none

namespace MonitoredItem

/-- The item after a part of a message. -/
def receive (item : MonitoredItem) : NotificationPart → MonitoredItem
  | .value _ v => (item.deliverValue v).item
  | .event _ fields => (item.deliverEvent fields).item
  | .status _ => item

/-- Whether the callback of the item fails on a part of a message. -/
def failsOn (item : MonitoredItem) : NotificationPart → Bool
  | .value _ v => item.failsOnValue v
  | .event _ fields => item.failsOnEvent fields
  | .status _ => false

theorem failsOn_congr {item item' : MonitoredItem} (h : item'.callbacks = item.callbacks) :
    item'.failsOn = item.failsOn := by
  funext part
  cases part with
  | value handle v => exact congrArg (·.onValue.any (·.fails v)) h
  | event handle fields => exact congrArg (·.onEvent.any (·.fails fields)) h
  | status status => rfl

theorem callbacks_receive (item : MonitoredItem) (part : NotificationPart) :
    (item.receive part).callbacks = item.callbacks := by
  cases part with
  | value handle v =>
    unfold receive deliverValue
    dsimp only
    split <;> rfl
  | event handle fields =>
    unfold receive deliverEvent
    dsimp only
    split <;> rfl
  | status status => rfl

theorem callbacks_foldl_receive (parts : List NotificationPart) (item : MonitoredItem) :
    (parts.foldl receive item).callbacks = item.callbacks := by
  induction parts generalizing item with
  | nil => rfl
  | cons part parts ih => rw [List.foldl_cons, ih, callbacks_receive]

end MonitoredItem

namespace Subscription

/-- The subscription after a message that is dispatched to it. -/
def counted (message : NotificationMessage) (s : Subscription) : Subscription :=
  if message.isKeepAlive then { s with keepAlives := s.keepAlives + 1 }
  else { s with notificationMessages := s.notificationMessages + 1 }

/-- Whether a part is for the item `i` of the subscription. -/
def addresses (s : Subscription) (i : ItemKey) (part : NotificationPart) : Bool :=
  part.handle?.bind s.items.find? == some i

end Subscription

namespace SubscriptionManager

variable {m m' : SubscriptionManager} {s : Subscription} {k : SubscriptionKey} {i : ItemKey}
  {id : SubscriptionId} {part : NotificationPart} {parts : List NotificationPart}

theorem subscription?_modify (k k' : SubscriptionKey) (f : Subscription → Subscription)
    (m : SubscriptionManager) : (m.modifySubscription k f).subscription? k' =
      (m.subscription? k').map fun s => if k = k' then f s else s := by
  unfold subscription? modifySubscription
  exact List.getElem?_modify ..

theorem item?_setItem (i j : ItemKey) (item : MonitoredItem) (m : SubscriptionManager) :
    (m.setItem i item).item? j = if i = j then (m.item? j).map fun _ => item else m.item? j := by
  unfold item? setItem
  dsimp only
  rw [List.getElem?_set]
  by_cases h : i = j
  · subst h
    rw [if_pos rfl, if_pos rfl]
    split
    · rename_i hlt
      rw [List.getElem?_eq_getElem hlt]
      rfl
    · rename_i hlt
      rw [List.getElem?_eq_none (Nat.le_of_not_lt hlt)]
      rfl
  · rw [if_neg h, if_neg h]

/-! ### Parts -/

/-- Whether a callback or a listener fails on a part. -/
def fails (s : Subscription) (m : SubscriptionManager) (part : NotificationPart) : Bool :=
  match part with
  | .value .. | .event .. => ((part.handle?.bind s.items.find?).bind m.item?).any (·.failsOn part)
  | .status status => m.disturbs (.statusChanged s.id status)

/-- The parts that are handed out: those up to the first on which a callback or a listener fails. -/
def given (s : Subscription) (m : SubscriptionManager) :
    List NotificationPart → List NotificationPart
  | [] => []
  | part :: rest => part :: if m.fails s part then [] else given s m rest

theorem fails_of_find? {j : ItemKey} (hj : part.handle?.bind s.items.find? = some j) :
    m.fails s part = (m.item? j).any (·.failsOn part) := by
  cases part with
  | value | event =>
    unfold fails
    dsimp only
    rw [hj, Option.bind_some]
  | status => cases hj

theorem fails_of_none {h : ClientHandle} (hh : part.handle? = some h)
    (hnone : s.items.find? h = none) : m.fails s part = false := by
  cases part with
  | value | event =>
    unfold fails
    dsimp only
    rw [hh, Option.bind_some, hnone]
    rfl
  | status => cases hh

/-- From `m` to `m'` some parts of a message of the subscription `s` are handed out. -/
structure Hands (s : Subscription) (parts : List NotificationPart) (m m' : SubscriptionManager) :
    Prop where
  item? : ∀ i, m'.item? i =
    (m.item? i).map fun item => (parts.filter (s.addresses i)).foldl MonitoredItem.receive item
  subscriptions : m'.subscriptions = m.subscriptions
  registry : m'.registry = m.registry
  listeners : m'.listeners = m.listeners

theorem Hands.nil (h : m'.items = m.items) (hs : m'.subscriptions = m.subscriptions)
    (hr : m'.registry = m.registry) (hl : m'.listeners = m.listeners) : m.Hands s [] m' :=
  ⟨fun i => by rw [SubscriptionManager.item?, h]; exact Option.map_id'.symm, hs, hr, hl⟩

theorem Hands.append {parts' : List NotificationPart} {m'' : SubscriptionManager}
    (h : m.Hands s parts m') (h' : m'.Hands s parts' m'') : m.Hands s (parts ++ parts') m'' where
  item? i := by
    rw [h'.item?, h.item?, Option.map_map, List.filter_append]
    simp only [Function.comp_def, List.foldl_append]
  subscriptions := h'.subscriptions.trans h.subscriptions
  registry := h'.registry.trans h.registry
  listeners := h'.listeners.trans h.listeners

/-- Whether the callback of an item fails does not depend on what the item has received. -/
theorem Hands.fails (h : m.Hands s parts m') : m'.fails s = m.fails s := by
  funext part
  cases part with
  | value | event =>
    unfold SubscriptionManager.fails
    dsimp only
    cases Option.bind _ s.items.find? with
    | none => rfl
    | some i =>
      rw [Option.bind_some, Option.bind_some, h.item?, Option.any_map]
      simp only [MonitoredItem.failsOn_congr (MonitoredItem.callbacks_foldl_receive ..)]
  | status status =>
    show m'.attentive.any _ = m.attentive.any _
    rw [attentive, h.listeners]
    rfl

/-- A part for the item `j` is handed out. -/
theorem hands_deliverTo {j : ItemKey} {f : MonitoredItem → Delivered}
    (hj : part.handle?.bind s.items.find? = some j)
    (hf : ∀ item, (f item).item = item.receive part ∧ (f item).failed = item.failsOn part) :
    m.Hands s [part] (m.deliverTo j f).1 ∧ (m.deliverTo j f).2 = !m.fails s part := by
  have haddr (i : ItemKey) : s.addresses i part = (j == i) := by
    rw [Subscription.addresses, hj]
    rfl
  unfold deliverTo
  rw [fails_of_find? hj]
  split
  · rename_i hnone
    refine ⟨⟨fun i => ?_, rfl, rfl, rfl⟩, by rw [hnone]; rfl⟩
    rw [List.filter_singleton, haddr]
    by_cases hi : j = i
    · subst hi
      rw [hnone]
      rfl
    · rw [beq_false_of_ne hi]
      exact Option.map_id'.symm
  · rename_i item hitem
    refine ⟨⟨fun i => ?_, rfl, rfl, rfl⟩, ?_⟩
    case refine_2 =>
      rw [hitem, Option.any_some, ← (hf item).2]
    change (m.setItem j (f item).item).item? i = _
    rw [item?_setItem, List.filter_singleton, haddr]
    by_cases hi : j = i
    · subst hi
      rw [if_pos rfl, hitem, beq_self_eq_true]
      exact congrArg some (hf item).1
    · rw [if_neg hi, beq_false_of_ne hi]
      exact Option.map_id'.symm

/-- A part that is for no item leaves all items alone. -/
theorem hands_of_none (hnone : part.handle?.bind s.items.find? = none)
    (h : m'.items = m.items) (hs : m'.subscriptions = m.subscriptions)
    (hr : m'.registry = m.registry) (hl : m'.listeners = m.listeners) : m.Hands s [part] m' := by
  have haddr (i : ItemKey) : s.addresses i part = false := by
    rw [Subscription.addresses, hnone]
    rfl
  refine ⟨fun i => ?_, hs, hr, hl⟩
  rw [List.filter_singleton, haddr]
  exact (Hands.nil (s := s) h hs hr hl).item? i

theorem hands_deliverPart (s : Subscription) (part : NotificationPart)
    (m : SubscriptionManager) : m.Hands s [part] (m.deliverPart s part).1 ∧
      (m.deliverPart s part).2 = !m.fails s part := by
  cases part with
  | value handle v =>
    unfold deliverPart
    dsimp only
    split
    · rename_i j hj
      exact hands_deliverTo hj fun item => ⟨rfl, rfl⟩
    · rename_i hnone
      exact ⟨hands_of_none hnone rfl rfl rfl rfl, by rw [fails_of_none rfl hnone]; rfl⟩
  | event handle fields =>
    unfold deliverPart
    dsimp only
    split
    · rename_i j hj
      exact hands_deliverTo hj fun item => ⟨rfl, rfl⟩
    · rename_i hnone
      exact ⟨hands_of_none hnone rfl rfl rfl rfl, by rw [fails_of_none rfl hnone]; rfl⟩
  | status status => exact ⟨hands_of_none rfl rfl rfl rfl rfl, rfl⟩

theorem given_congr (h : m'.fails s = m.fails s) (parts : List NotificationPart) :
    m'.given s parts = m.given s parts := by
  induction parts with
  | nil => rfl
  | cons part rest ih => rw [given, given, ih, h]

theorem hands_deliverParts (s : Subscription) (parts : List NotificationPart)
    (m : SubscriptionManager) : m.Hands s (m.given s parts) (m.deliverParts s parts).1 := by
  induction parts generalizing m with
  | nil => exact .nil rfl rfl rfl rfl
  | cons part rest ih =>
    obtain ⟨hpart, hflag⟩ := hands_deliverPart s part m
    unfold deliverParts given
    rcases e : m.deliverPart s part with ⟨m₁, comes⟩
    rw [e] at hpart hflag
    cases comes with
    | true =>
      rw [if_neg (by simpa using hflag), ← given_congr hpart.fails]
      exact hpart.append (ih m₁)
    | false =>
      rw [if_pos (by simpa using hflag)]
      exact hpart

/-- A part is handed out unless a callback or a listener fails on one before it. -/
theorem given_append {before : List NotificationPart} (h : ∀ p ∈ before, m.fails s p = false)
    (part : NotificationPart) (after : List NotificationPart) :
    m.given s (before ++ part :: after) =
      before ++ part :: if m.fails s part then [] else m.given s after := by
  induction before with
  | nil => rfl
  | cons p before ih =>
    obtain ⟨hp, hbefore⟩ := List.forall_mem_cons.1 h
    rw [List.cons_append, given, hp, if_neg Bool.false_ne_true, ih hbefore, List.cons_append]

/-! ### Messages -/

/-- What a message does to the subscription that is registered under its id, and to the items. -/
theorem dispatch_spec (message : NotificationMessage) (hreg : m.registry.find? id = some k)
    (hs : m.subscription? k = some s) :
    (m.dispatch id message).subscription? k = some (s.counted message) ∧
      (message.isKeepAlive = false → ∀ i, (m.dispatch id message).item? i =
        (m.item? i).map fun item =>
          ((m.given s message.parts).filter (s.addresses i)).foldl MonitoredItem.receive item) := by
  unfold dispatch Subscription.counted
  rw [hreg]
  dsimp only
  rw [hs]
  dsimp only
  cases hk : message.isKeepAlive with
  | true =>
    refine ⟨?_, nofun⟩
    change (m.modifySubscription k _).subscription? k = _
    rw [subscription?_modify, hs]
    simp
  | false =>
    rw [if_neg nofun]
    let m₁ := { m.modifySubscription k fun s =>
      { s with notificationMessages := s.notificationMessages + 1 } with
      stats := m.stats.recordNotificationMessage }
    have hm₁ : m₁.subscription? k =
        some { s with notificationMessages := s.notificationMessages + 1 } := by
      change (m.modifySubscription k _).subscription? k = _
      rw [subscription?_modify, hs]
      simp
    -- The items are as they were before the message was counted.
    have hfails : m₁.fails s = m.fails s := rfl
    have hgiven := given_congr hfails message.parts
    have hhands := hands_deliverParts s message.parts m₁
    rw [hgiven] at hhands
    rw [if_neg nofun]
    split
    all_goals
      rename_i m₂ e
      have hm₂ : (m₁.deliverParts s message.parts).1 = m₂ := congrArg Prod.fst e
      rw [hm₂] at hhands
      refine ⟨?_, fun _ i => hhands.item? i⟩
      show m₂.subscription? k = _
      rw [subscription?, hhands.subscriptions]
      exact hm₁

/-! ## The delivery queue -/

/-- Attempts leave the delivery queue and the registry alone. -/
theorem AttemptTurn.same {w : WorkId} (h : m.AttemptTurn w m') :
    m'.delivery = m.delivery ∧ m'.registry = m.registry := by
  rcases h.cases with h | ⟨a, h⟩
  · exact ⟨h.delivery, h.registry⟩
  · exact ⟨h.delivery, h.registry⟩

/-- What an application does leaves the delivery queue alone, unless it shuts the manager down. -/
theorem coversCommon_delivery :
    CoversCommon fun m m' => m'.running = true → m'.delivery = m.delivery where
  refl _ _ := rfl
  begins op clock m _ := (notes_begin op clock m).quiet.delivery
  stops m h := by
    rw [running_shutDown] at h
    cases h
  abandons m h := by
    rw [running_abandon] at h
    cases h
  listens _ _ _ := rfl
  attaches _ _ _ _ := rfl

/-- The processing worker puts things at the end of the delivery queue. -/
theorem delivery_processTurn (hd : m.delivery.closed = false) :
    ∃ new, m.processTurn.1.delivery.tasks = m.delivery.tasks ++ new := by
  have hsame : ∃ new, m.delivery.tasks = m.delivery.tasks ++ new := ⟨[], (List.append_nil _).symm⟩
  unfold processTurn
  split
  · rename_i a yields q e
    dsimp only
    unfold process
    split
    · split
      · rw [accept_eq]
        exact ⟨_, WorkQueue.tasks_submit hd _⟩
      · exact hsame
    · exact hsame
  all_goals exact hsame

end SubscriptionManager

namespace Client

open SubscriptionManager

variable {c : Client} {a : Action}

/-- What an action takes from the delivery queue. -/
def takes? (a : Action) (c : Client) : Option Delivery :=
  match a with
  | .run .delivery =>
    match c.managed.delivery.turn.1 with
    | .run d _ => some d
    | _ => none
  | _ => none

/-- What the delivery worker takes from its queue in a run. -/
def delivered : List Action → Client → List Delivery
  | [], _ => []
  | a :: as, c => (c.takes? a).toList ++ delivered as (c.act a).1

theorem handedOut_events (a : Action) (c : Client) : handedOut (c.events a) = c.handed a := by
  have hevaluated : handedOut (c.evaluated a) = [] := by
    unfold evaluated
    repeat' split
    all_goals rfl
  have hrecovered : handedOut (c.recovered a) = [] := by
    unfold recovered
    repeat' split
    all_goals first | exact filterMap_map_none (fun _ => rfl) _ | rfl
  have hposted : handedOut (c.posted a) = [] := by
    unfold posted
    split
    · exact filterMap_map_none (fun _ => rfl) _
    · rfl
  rw [events, handedOut_append, handedOut_append, handedOut_append, hevaluated, hrecovered, hposted]
  exact filterMap_map_some (g := SequencerEvent.hands) (fun _ => rfl) _

/-- Only its worker takes anything from the delivery queue of a manager that runs. -/
theorem Ready.delivery_grows (h : c.Ready) (ha : a ≠ .run .delivery)
    (hr : (c.act a).1.managed.running = true) :
    ∃ new, (c.act a).1.managed.delivery.tasks = c.managed.delivery.tasks ++ new := by
  have hsame {q : WorkQueue Delivery} (hq : q = c.managed.delivery) :
      ∃ new, q.tasks = c.managed.delivery.tasks ++ new := ⟨[], by rw [hq, List.append_nil]⟩
  by_cases hs : a.Sequences
  · cases a with
    | run t =>
      cases t with
      | processing =>
        rw [managed_processTurn h.manager]
        refine delivery_processTurn (Bool.eq_false_iff.2 fun hd => ?_)
        have hrun := (h.step _).2.2.running h.orderly hr
        rw [(h.orderly.delivers hd).1] at hrun
        cases hrun
      | recovery w =>
        cases hw : c.managed.recovery? w with
        | none =>
          have hp : (c.act (.run (.recovery w))).1 = c := by
            show (c.pollRecovery w).1 = c
            unfold pollRecovery
            rw [h.manager]
            dsimp only
            rw [hw]
          exact hsame (by rw [hp])
        | some r => exact (h.step _).2.2.delivery_of_recovery h.orderly hw
      | driver | delivery | session | call | attempt => exact hs.elim
    | call | reclaim | release | reply | elapse | inject | invalidate | takeHandle | shutDown
    | listen | attach => exact hs.elim
  · by_cases hn : ∃ w answerFirst, a = .run (.attempt w answerFirst)
    · obtain ⟨w, answerFirst, rfl⟩ := hn
      obtain ⟨m', hm', ht⟩ := (turns_pollAttempt w answerFirst c).manager _ h.manager
      have hm : (c.act (.run (.attempt w answerFirst))).1.managed = m' := managed_of_eq hm'
      exact hsame (by rw [hm, ht.same.1])
    · have hcovers := coversCommon_delivery
      obtain ⟨-, hm⟩ := act_moves_common hcovers h.settled hs (fun w first e => hn ⟨w, first, e⟩)
        (fun e => absurd e ha) fun _ _ =>
          moves_advanceOperation hcovers (fun clock op outcome m _ =>
            (settles_finish clock op outcome m).queues.2) ..
      obtain ⟨m', hm', hd⟩ := hm _ h.manager
      rw [managed_of_eq hm'] at hr ⊢
      exact hsame (hd hr)

/-- What an action puts on the delivery queue comes after what is there. -/
theorem Ready.delivery_step (h : c.Ready) (a : Action)
    (hr : (c.act a).1.managed.running = true) :
    c.managed.delivery.tasks ++ handedOut (c.events a) =
      (c.takes? a).toList ++ (c.act a).1.managed.delivery.tasks := by
  rw [handedOut_events]
  by_cases ha : a = .run .delivery
  · subst ha
    have hq : (c.act (.run .delivery)).1.managed.delivery = c.managed.delivery.turn.2 := by
      have hm : (c.act (.run .delivery)).1.managed = c.managed.deliverTurn.1 :=
        managed_withManager h.manager _
      rw [hm]
      exact (notes_deliverTurn c.managed).quiet.delivery
    rw [hq, takes?, handed, List.append_nil]
    split
    · rename_i d yields e
      exact (WorkQueue.turn_run (Prod.ext e rfl)).2.2.2.2
    · rename_i e
      exact (WorkQueue.turn_same e).1.symm
  · have htakes : c.takes? a = none := by
      unfold takes?
      split
      · exact absurd rfl ha
      · rfl
    obtain ⟨new, hnew⟩ := h.delivery_grows ha hr
    have hhanded : c.handed a = new := by
      unfold handed
      split
      · exact absurd rfl ha
      · rw [hnew, List.drop_left]
    rw [htakes, hhanded, hnew]
    rfl

/-- As long as the manager runs, the delivery worker takes what has been put on its queue, in the
same order. -/
theorem Ready.delivery_conserved (h : c.Ready) (as : List Action)
    (hr : (c.after as).managed.running = true) :
    c.managed.delivery.tasks ++ handedOut (c.history as) =
      c.delivered as ++ (c.after as).managed.delivery.tasks := by
  induction as generalizing c with
  | nil => exact List.append_nil _
  | cons a as ih =>
    have hstep := h.delivery_step a ((h.act a).running_of_after hr)
    rw [history, handedOut_append, ← List.append_assoc, hstep, List.append_assoc, ih (h.act a) hr,
      delivered, List.append_assoc]
    rfl

end Client

end OpcUa
