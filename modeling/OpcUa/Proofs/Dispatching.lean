import OpcUa.Proofs.ItemTables

/-!
# Messages that are dispatched one after the other

What a series of messages does to the items, the subscriptions and the listeners, while nothing else
changes the registry, the tables of items or the listeners.

A message that comes under an id that is not registered is dropped. The parts of another one are
handed out up to the first on which a callback or a listener fails, and that part with them
(`SubscriptionManager.given`).

* `SubscriptionManager.SameRoutes`: a step leaves alone all that decides where a part goes.
* `SubscriptionManager.shown`: what the application sees of a message.
* `SubscriptionManager.notices`: what listeners are called with for it.
* `SubscriptionManager.dispatchAll_spec`: what becomes of a series of messages.
-/

namespace OpcUa

/-! ## Parts -/

namespace NotificationPart

variable {h : ClientHandle} {part : NotificationPart}

def value? : NotificationPart → Option DataValue
  | value _ v => some v
  | event .. | status _ => none

def event? : NotificationPart → Option (List Variant)
  | event _ fields => some fields
  | value .. | status _ => none

def status? : NotificationPart → Option StatusCode
  | status s => some s
  | value .. | event .. => none

/-- The value that a part has for the item with the handle `h`. -/
def valueFor? (h : ClientHandle) (part : NotificationPart) : Option DataValue :=
  if part.handle? = some h then part.value? else none

/-- The event that a part has for the item with the handle `h`. -/
def eventFor? (h : ClientHandle) (part : NotificationPart) : Option (List Variant) :=
  if part.handle? = some h then part.event? else none

theorem filterMap_valueFor? (h : ClientHandle) (parts : List NotificationPart) :
    parts.filterMap (·.valueFor? h) = (parts.filter (·.handle? == some h)).filterMap value? := by
  rw [List.filterMap_filter]
  simp only [beq_iff_eq]
  rfl

theorem filterMap_eventFor? (h : ClientHandle) (parts : List NotificationPart) :
    parts.filterMap (·.eventFor? h) = (parts.filter (·.handle? == some h)).filterMap event? := by
  rw [List.filterMap_filter]
  simp only [beq_iff_eq]
  rfl

end NotificationPart

theorem NotificationMessage.parts_of_isKeepAlive {message : NotificationMessage}
    (h : message.isKeepAlive = true) : message.parts = [] := by
  rw [parts, List.isEmpty_iff.1 h]
  rfl

/-- The listener that an observation is of, if it is not of a callback. -/
def Observation.listener? : Observation → Option String
  | notice l _ => some l
  | value .. | event .. => none

/-! ## Items -/

namespace MonitoredItem

/-- What the callback of the item sees of a part. -/
def sees (item : MonitoredItem) : NotificationPart → List Observation
  | .value _ v => (item.callbacks.onValue.map fun c => .value c.label item.handle v).toList
  | .event _ fields =>
    (item.callbacks.onEvent.map fun c => .event c.label item.handle fields).toList
  | .status _ => []

/-- The item after these values and events. One on which its callback fails is counted, and such a
value is also remembered. -/
def received (values : List DataValue) (events : List (List Variant)) (item : MonitoredItem) :
    MonitoredItem :=
  { item with
    valuesReceived := item.valuesReceived + values.length
    lastValue := values.getLast?.or item.lastValue
    eventsReceived := item.eventsReceived + events.length
    lastEvent := (events.filter fun fields => !item.failsOnEvent fields).getLast?.or item.lastEvent
    channel := (values.filter fun v => !item.failsOnValue v).foldl
      (fun channel v => channel.send v) item.channel }

theorem receive_eq_received (item : MonitoredItem) (part : NotificationPart) :
    item.receive part = item.received part.value?.toList part.event?.toList := by
  cases part with
  | value handle v =>
    by_cases hf : item.callbacks.onValue.any (·.fails v) = true <;>
      simp [receive, deliverValue, received, failsOnValue, NotificationPart.value?,
        NotificationPart.event?, hf]
  | event handle fields =>
    by_cases hf : item.callbacks.onEvent.any (·.fails fields) = true <;>
      simp [receive, deliverEvent, received, failsOnEvent, NotificationPart.value?,
        NotificationPart.event?, hf]
  | status status => simp [receive, received, NotificationPart.value?, NotificationPart.event?]

theorem received_received (item : MonitoredItem) (values values' : List DataValue)
    (events events' : List (List Variant)) :
    (item.received values events).received values' events' =
      item.received (values ++ values') (events ++ events') := by
  simp [received, failsOnValue, failsOnEvent, Nat.add_assoc, List.getLast?_append,
    Option.or_assoc]

theorem foldl_receive (parts : List NotificationPart) (item : MonitoredItem) :
    parts.foldl receive item =
      item.received (parts.filterMap (·.value?)) (parts.filterMap (·.event?)) := by
  induction parts generalizing item with
  | nil => simp [received]
  | cons part rest ih =>
    rw [List.foldl_cons, ih, receive_eq_received, received_received]
    cases part <;> rfl

end MonitoredItem

namespace SubscriptionManager

variable {m m' : SubscriptionManager} {s s' : Subscription} {k : SubscriptionKey} {i : ItemKey}
  {id : SubscriptionId} {h : ClientHandle}

/-! ## What the application sees -/

/-- What the listeners see that a notice comes to: each of them once. -/
def told (n : Notice) (m : SubscriptionManager) : List Observation :=
  (m.reached n).map fun l => .notice l.label n

/-- What the application sees of a part of a message of `s`. -/
def shownOfPart (s : Subscription) (m : SubscriptionManager) (part : NotificationPart) :
    List Observation :=
  match part with
  | .value .. | .event .. => ((part.handle?.bind s.items.find?).bind m.item?).elim [] (·.sees part)
  | .status status => m.told (.statusChanged s.id status)

/-- What the application sees of a message. -/
def shown (m : SubscriptionManager) (x : SubscriptionId × NotificationMessage) :
    List Observation :=
  match m.registered? x.1 with
  | none => []
  | some s =>
    if x.2.isKeepAlive then m.told (.keepAlive s.id x.2.publishTime)
    else (m.given s x.2.parts).flatMap (m.shownOfPart s) ++
      if x.2.parts.any (m.fails s) then [] else m.told (.message s.id x.2.sequenceNumber)

/-- What the listeners are called with for a message: for one without data that it is there, and for
another one with each change of the status that is handed out and, if nothing fails, with the
message at the end. -/
def notices (m : SubscriptionManager) (x : SubscriptionId × NotificationMessage) : List Notice :=
  match m.registered? x.1 with
  | none => []
  | some s =>
    if x.2.isKeepAlive then [.keepAlive s.id x.2.publishTime]
    else ((m.given s x.2.parts).filterMap (·.status?)).map (.statusChanged s.id) ++
      if x.2.parts.any (m.fails s) then [] else [.message s.id x.2.sequenceNumber]

/-- The parts of a message that are handed out and are for the item `i`. -/
def partsFor (i : ItemKey) (m : SubscriptionManager) (x : SubscriptionId × NotificationMessage) :
    List NotificationPart :=
  match m.registered? x.1 with
  | none => []
  | some s => (m.given s x.2.parts).filter (s.addresses i)

/-- Dispatches messages one after the other, each to the subscription of its id. -/
def dispatchAll (messages : List (SubscriptionId × NotificationMessage))
    (m : SubscriptionManager) : SubscriptionManager :=
  messages.foldl (fun m x => m.dispatch x.1 x.2) m

/-! ## Where the parts go -/

/-- From `m` to `m'` all that decides where a part goes, and who sees it, stays as it is. -/
structure SameRoutes (m m' : SubscriptionManager) : Prop extends SameTables m m' where
  listeners : m'.listeners = m.listeners
  callbacks : ∀ i, (m'.item? i).map (·.callbacks) = (m.item? i).map (·.callbacks)

theorem Hands.callbacks {parts : List NotificationPart} (hm : m.Hands s parts m') (i : ItemKey) :
    (m'.item? i).map (·.callbacks) = (m.item? i).map (·.callbacks) := by
  rw [hm.item?, Option.map_map]
  congr 1
  funext item
  exact MonitoredItem.callbacks_foldl_receive ..

/-- The handle and the callbacks of an item are all that is looked at when a part is handed out. -/
theorem SameRoutes.item_cases (hm : m.SameRoutes m') (i : ItemKey) :
    (m.item? i = none ∧ m'.item? i = none) ∨
      ∃ item item', m.item? i = some item ∧ m'.item? i = some item' ∧
        item'.handle = item.handle ∧ item'.callbacks = item.callbacks := by
  have hh := hm.item? i
  have hc := hm.callbacks i
  cases e : m.item? i with
  | none =>
    rw [e] at hh
    exact .inl ⟨rfl, Option.map_eq_none_iff.1 hh⟩
  | some item =>
    rw [e] at hh hc
    obtain ⟨item', e', hh⟩ := Option.map_eq_some_iff.1 hh
    rw [e'] at hc
    exact .inr ⟨item, item', rfl, e', hh, Option.some.inj hc⟩

theorem SameRoutes.attentive (hm : m.SameRoutes m') : m'.attentive = m.attentive := by
  rw [SubscriptionManager.attentive, hm.listeners]
  rfl

theorem SameRoutes.fails (hm : m.SameRoutes m') (hid : s'.id = s.id) (hs : s'.items = s.items) :
    m'.fails s' = m.fails s := by
  funext part
  cases part with
  | value | event =>
    unfold SubscriptionManager.fails
    dsimp only
    rw [hs]
    cases Option.bind _ s.items.find? with
    | none => rfl
    | some i =>
      rw [Option.bind_some, Option.bind_some]
      rcases hm.item_cases i with ⟨e, e'⟩ | ⟨item, item', e, e', -, hc⟩
      · rw [e, e']
      · rw [e, e', Option.any_some, Option.any_some, MonitoredItem.failsOn_congr hc]
  | status status =>
    show m'.attentive.any _ = m.attentive.any _
    rw [hm.attentive, hid]

theorem SameRoutes.given (hm : m.SameRoutes m') (hid : s'.id = s.id) (hs : s'.items = s.items)
    (parts : List NotificationPart) : m'.given s' parts = m.given s parts := by
  induction parts with
  | nil => rfl
  | cons part rest ih =>
    rw [SubscriptionManager.given, SubscriptionManager.given, ih, hm.fails hid hs]

theorem SameRoutes.told (hm : m.SameRoutes m') (n : Notice) : m'.told n = m.told n := by
  unfold SubscriptionManager.told reached
  rw [hm.attentive]

theorem SameRoutes.shownOfPart (hm : m.SameRoutes m') (hid : s'.id = s.id)
    (hs : s'.items = s.items) (part : NotificationPart) :
    m'.shownOfPart s' part = m.shownOfPart s part := by
  have hsees : ((part.handle?.bind s'.items.find?).bind m'.item?).elim [] (·.sees part) =
      ((part.handle?.bind s.items.find?).bind m.item?).elim [] (·.sees part) := by
    rw [hs]
    cases part.handle?.bind s.items.find? with
    | none => rfl
    | some i =>
      rw [Option.bind_some, Option.bind_some]
      rcases hm.item_cases i with ⟨e, e'⟩ | ⟨item, item', e, e', hh, hc⟩
      · rw [e, e']
      · rw [e, e', Option.elim_some, Option.elim_some]
        cases part <;> simp only [MonitoredItem.sees, hh, hc]
  cases part with
  | value | event => exact hsees
  | status status =>
    show m'.told (.statusChanged s'.id status) = _
    rw [hm.told, hid]
    rfl

/-- The subscription under an id has the same id and the same table. -/
theorem SameRoutes.registered_cases (hm : m.SameRoutes m') (id : SubscriptionId) :
    (m.registered? id = none ∧ m'.registered? id = none) ∨
      ∃ s s', m.registered? id = some s ∧ m'.registered? id = some s' ∧ s'.id = s.id ∧
        s'.items = s.items := by
  unfold registered?
  rw [hm.registry]
  cases m.registry.find? id with
  | none => exact .inl ⟨rfl, rfl⟩
  | some k =>
    rw [Option.bind_some, Option.bind_some]
    have he := hm.subscription? k
    cases e : m.subscription? k with
    | none =>
      rw [e] at he
      exact .inl ⟨rfl, Option.map_eq_none_iff.1 he⟩
    | some s =>
      rw [e] at he
      obtain ⟨s', e', he⟩ := Option.map_eq_some_iff.1 he
      exact .inr ⟨s, s', rfl, e', (Prod.mk.inj he).1, (Prod.mk.inj he).2⟩

theorem SameRoutes.shown (hm : m.SameRoutes m') : m'.shown = m.shown := by
  funext x
  unfold SubscriptionManager.shown
  rcases hm.registered_cases x.1 with ⟨e, e'⟩ | ⟨s, s', e, e', hid, hs⟩
  · rw [e, e']
  · rw [e, e']
    dsimp only
    rw [hm.told, hm.told, hm.given hid hs, hm.fails hid hs, hid, funext (hm.shownOfPart hid hs)]

theorem SameRoutes.partsFor (hm : m.SameRoutes m') (i : ItemKey) :
    m'.partsFor i = m.partsFor i := by
  funext x
  unfold SubscriptionManager.partsFor
  rcases hm.registered_cases x.1 with ⟨e, e'⟩ | ⟨s, s', e, e', hid, hs⟩
  · rw [e, e']
  · rw [e, e']
    dsimp only
    rw [hm.given hid hs]
    congr 1
    funext part
    rw [Subscription.addresses, hs]
    rfl

/-! ## One message -/

/-- A part for an item changes the items, and what its callback sees is written down. -/
theorem deliverTo_eq {j : ItemKey} {f : MonitoredItem → Delivered} {part : NotificationPart}
    (hf : ∀ item, (f item).seen = item.sees part) : ∃ items, (m.deliverTo j f).1 =
      { m with items, journal := m.journal ++ (m.item? j).elim [] (·.sees part) } := by
  unfold deliverTo
  cases m.item? j with
  | none => exact ⟨m.items, by rw [Option.elim_none, List.append_nil]⟩
  | some item => exact ⟨m.items.set j (f item).item, by rw [Option.elim_some, ← hf]; rfl⟩

theorem deliverPart_eq (s : Subscription) (part : NotificationPart) (m : SubscriptionManager) :
    ∃ items, (m.deliverPart s part).1 =
      { m with items, journal := m.journal ++ m.shownOfPart s part } := by
  -- A part for an item that the subscription does not have.
  have hnone : ∃ items, m = { m with items, journal := m.journal ++ ([] : List Observation) } :=
    ⟨m.items, by rw [List.append_nil]⟩
  cases part with
  | value handle v =>
    unfold deliverPart shownOfPart
    dsimp only [NotificationPart.handle?, Option.bind_some]
    cases s.items.find? handle with
    | none => exact hnone
    | some j => exact deliverTo_eq fun item => rfl
  | event handle fields =>
    unfold deliverPart shownOfPart
    dsimp only [NotificationPart.handle?, Option.bind_some]
    cases s.items.find? handle with
    | none => exact hnone
    | some j => exact deliverTo_eq fun item => rfl
  | status status => exact ⟨m.items, rfl⟩

theorem sameRoutes_deliverPart (s : Subscription) (part : NotificationPart)
    (m : SubscriptionManager) : m.SameRoutes (m.deliverPart s part).1 where
  toSameTables := (hands_deliverPart s part m).1.sameTables
  listeners := by
    obtain ⟨items, e⟩ := deliverPart_eq s part m
    rw [e]
  callbacks := (hands_deliverPart s part m).1.callbacks

/-- The parts that are handed out are written down in order, and whether all of them are. -/
theorem deliverParts_eq (s : Subscription) (parts : List NotificationPart)
    (m : SubscriptionManager) : ∃ items, m.deliverParts s parts =
      ({ m with items, journal := m.journal ++ (m.given s parts).flatMap (m.shownOfPart s) },
        !parts.any (m.fails s)) := by
  induction parts generalizing m with
  | nil => exact ⟨m.items, by rw [given, List.flatMap_nil, List.append_nil]; rfl⟩
  | cons part rest ih =>
    obtain ⟨items, hpart⟩ := deliverPart_eq s part m
    have hflag := (hands_deliverPart s part m).2
    have hroutes := sameRoutes_deliverPart s part m
    unfold deliverParts given
    rcases e : m.deliverPart s part with ⟨m₁, comes⟩
    rw [e] at hpart hflag hroutes
    dsimp only at hpart hflag
    cases comes with
    | true =>
      have hcomes : m.fails s part = false := by simpa using hflag
      obtain ⟨items', hrest⟩ := ih m₁
      refine ⟨items', hrest.trans ?_⟩
      rw [hroutes.given rfl rfl, funext (hroutes.shownOfPart rfl rfl), hroutes.fails rfl rfl, hcomes,
        if_neg Bool.false_ne_true, List.flatMap_cons, ← List.append_assoc, List.any_cons, hcomes,
        Bool.false_or, hpart]
    | false =>
      have hfails : m.fails s part = true := by simpa using hflag
      refine ⟨items, ?_⟩
      rw [hfails, if_pos rfl, List.flatMap_singleton, List.any_cons, hfails, ← hpart]
      rfl

/-- The messages that are dispatched as messages without data, or with. -/
def dispatched (keepAlive : Bool) (m : SubscriptionManager)
    (messages : List (SubscriptionId × NotificationMessage)) : Nat :=
  messages.countP fun x => (m.registered? x.1).isSome && x.2.isKeepAlive == keepAlive

/-- The counters after these messages. -/
def tallied (m : SubscriptionManager) (messages : List (SubscriptionId × NotificationMessage)) :
    SubscriptionStats :=
  { m.stats with
    keepAlives := m.stats.keepAlives + m.dispatched true messages
    notificationMessages := m.stats.notificationMessages + m.dispatched false messages }

theorem dispatched_singleton (b : Bool) (m : SubscriptionManager)
    (x : SubscriptionId × NotificationMessage) : m.dispatched b [x] =
      if (m.registered? x.1).isSome && x.2.isKeepAlive == b then 1 else 0 :=
  List.countP_singleton

theorem registered?_of_find? (hk : m.registry.find? id = some k) :
    m.registered? id = m.subscription? k := by
  rw [registered?, hk]
  rfl

theorem dispatch_of_none (x : SubscriptionId × NotificationMessage)
    (h : m.registered? x.1 = none) : m.dispatch x.1 x.2 = m := by
  unfold dispatch
  cases hk : m.registry.find? x.1 with
  | none => rfl
  | some k =>
    dsimp only
    rw [← registered?_of_find? hk, h]

/-- A message is counted, changes items, and what the application sees of it is written down. -/
theorem dispatch_of_some (x : SubscriptionId × NotificationMessage)
    (hk : m.registry.find? x.1 = some k) (hs : m.subscription? k = some s) :
    ∃ items, m.dispatch x.1 x.2 =
      { m.modifySubscription k (·.counted x.2) with
        items, stats := m.tallied [x], journal := m.journal ++ m.shown x } := by
  have hreg : m.registered? x.1 = some s := (registered?_of_find? hk).trans hs
  rw [tallied, dispatched_singleton, dispatched_singleton, shown, hreg]
  unfold dispatch Subscription.counted
  rw [hk]
  dsimp only
  rw [hs]
  dsimp only
  cases x.2.isKeepAlive with
  | true => exact ⟨m.items, rfl⟩
  | false =>
    rw [if_neg Bool.false_ne_true, if_neg Bool.false_ne_true]
    -- The items are as they were before the message was counted.
    let m₁ := { m.modifySubscription k fun s =>
      { s with notificationMessages := s.notificationMessages + 1 } with
      stats := m.stats.recordNotificationMessage }
    obtain ⟨items, e⟩ := deliverParts_eq s x.2.parts m₁
    have hfails : m₁.fails s = m.fails s := rfl
    have hgiven := given_congr hfails x.2.parts
    rw [hgiven, hfails] at e
    split
    · rename_i hd
      obtain ⟨rfl, hany⟩ := Prod.mk.inj (hd.symm.trans e)
      rw [Bool.not_inj (y := false) hany.symm, if_neg Bool.false_ne_true]
      exact ⟨items, by rw [← List.append_assoc]; rfl⟩
    · rename_i hd
      obtain ⟨rfl, hany⟩ := Prod.mk.inj (hd.symm.trans e)
      rw [Bool.not_inj (y := true) hany.symm, if_pos rfl]
      exact ⟨items, by rw [List.append_nil]; rfl⟩

/-- A message is dropped, or counted and handed out. -/
theorem dispatch_cases (x : SubscriptionId × NotificationMessage) (m : SubscriptionManager) :
    (m.registered? x.1 = none ∧ m.dispatch x.1 x.2 = m) ∨
      ∃ k s, m.registry.find? x.1 = some k ∧ m.subscription? k = some s := by
  cases hs : m.registered? x.1 with
  | none => exact .inl ⟨rfl, dispatch_of_none x hs⟩
  | some s =>
    obtain ⟨k, hk, hs⟩ := Option.bind_eq_some_iff.1 hs
    exact .inr ⟨k, s, hk, hs⟩

theorem dispatch_eq (x : SubscriptionId × NotificationMessage) (m : SubscriptionManager) :
    ∃ subscriptions items, m.dispatch x.1 x.2 =
      { m with
        subscriptions, items, stats := m.tallied [x], journal := m.journal ++ m.shown x } := by
  rcases dispatch_cases x m with ⟨hnone, e⟩ | ⟨k, s, hk, hs⟩
  · refine ⟨m.subscriptions, m.items, e.trans ?_⟩
    rw [tallied, dispatched_singleton, dispatched_singleton, shown, hnone, List.append_nil]
    rfl
  · obtain ⟨items, e⟩ := dispatch_of_some x hk hs
    exact ⟨_, items, e⟩

theorem item?_dispatch (i : ItemKey) (x : SubscriptionId × NotificationMessage)
    (m : SubscriptionManager) : (m.dispatch x.1 x.2).item? i =
      (m.item? i).map fun item => (m.partsFor i x).foldl MonitoredItem.receive item := by
  unfold partsFor
  rcases dispatch_cases x m with ⟨hnone, e⟩ | ⟨k, s, hk, hs⟩
  · rw [hnone, e]
    exact Option.map_id'.symm
  · rw [registered?_of_find? hk, hs]
    cases hx : x.2.isKeepAlive with
    | true =>
      rw [NotificationMessage.parts_of_isKeepAlive hx]
      simp only [dispatch, hk, hs, hx, if_true]
      exact Option.map_id'.symm
    | false => exact (dispatch_spec x.2 hk hs).2 hx i

theorem subscription?_dispatch (k : SubscriptionKey) (x : SubscriptionId × NotificationMessage)
    (m : SubscriptionManager) : (m.dispatch x.1 x.2).subscription? k =
      (m.subscription? k).map fun s =>
        if m.registry.find? x.1 = some k then s.counted x.2 else s := by
  rcases dispatch_cases x m with ⟨hnone, e⟩ | ⟨k', s, hk, hs⟩
  · rw [e]
    by_cases hk : m.registry.find? x.1 = some k
    · rw [← registered?_of_find? hk, hnone]
      rfl
    · simp [hk]
  · obtain ⟨items, e⟩ := dispatch_of_some x hk hs
    rw [e, hk]
    simp only [Option.some.injEq]
    exact subscription?_modify ..

theorem sameRoutes_dispatch (x : SubscriptionId × NotificationMessage)
    (m : SubscriptionManager) : m.SameRoutes (m.dispatch x.1 x.2) where
  toSameTables := sameTables_dispatch x.1 x.2 m
  listeners := by
    obtain ⟨_, _, e⟩ := dispatch_eq x m
    rw [e]
  callbacks i := by
    rw [item?_dispatch, Option.map_map]
    congr 1
    funext item
    exact MonitoredItem.callbacks_foldl_receive ..

/-! ## A series of messages -/

variable {messages : List (SubscriptionId × NotificationMessage)}

theorem SameRoutes.dispatched (hm : m.SameRoutes m') (b : Bool)
    (messages : List (SubscriptionId × NotificationMessage)) :
    m'.dispatched b messages = m.dispatched b messages := by
  unfold SubscriptionManager.dispatched
  congr 1
  funext x
  rcases hm.registered_cases x.1 with ⟨e, e'⟩ | ⟨s, s', e, e', -⟩ <;> rw [e, e']
  rfl

theorem dispatched_cons (b : Bool) (x : SubscriptionId × NotificationMessage)
    (messages : List (SubscriptionId × NotificationMessage)) (m : SubscriptionManager) :
    m.dispatched b (x :: messages) = m.dispatched b [x] + m.dispatched b messages :=
  (List.countP_append : ([x] ++ messages).countP _ = _)

theorem SameRoutes.tallied (hm : m.SameRoutes m') {x : SubscriptionId × NotificationMessage}
    (hx : m'.stats = m.tallied [x]) : m'.tallied messages = m.tallied (x :: messages) := by
  simp only [SubscriptionManager.tallied] at hx ⊢
  rw [hx, hm.dispatched, hm.dispatched, dispatched_cons true x messages,
    dispatched_cons false x messages, Nat.add_assoc, Nat.add_assoc]

theorem dispatchAll_cons (x : SubscriptionId × NotificationMessage)
    (messages : List (SubscriptionId × NotificationMessage)) (m : SubscriptionManager) :
    m.dispatchAll (x :: messages) = (m.dispatch x.1 x.2).dispatchAll messages := rfl

/-- Nothing changes but the subscriptions, the items, the counters and the journal, which is
continued by what the application sees. -/
theorem dispatchAll_eq (messages : List (SubscriptionId × NotificationMessage))
    (m : SubscriptionManager) : ∃ subscriptions items, m.dispatchAll messages =
      { m with
        subscriptions, items, stats := m.tallied messages,
        journal := m.journal ++ messages.flatMap m.shown } := by
  induction messages generalizing m with
  | nil => exact ⟨m.subscriptions, m.items, by rw [List.flatMap_nil, List.append_nil]; rfl⟩
  | cons x messages ih =>
    have hroutes := sameRoutes_dispatch x m
    obtain ⟨_, _, e⟩ := dispatch_eq x m
    obtain ⟨subscriptions, items, hrest⟩ := ih (m.dispatch x.1 x.2)
    refine ⟨subscriptions, items, hrest.trans ?_⟩
    rw [hroutes.shown, hroutes.tallied (congrArg stats e), List.flatMap_cons,
      ← List.append_assoc, e]

theorem item?_dispatchAll (i : ItemKey) (messages : List (SubscriptionId × NotificationMessage))
    (m : SubscriptionManager) : (m.dispatchAll messages).item? i = (m.item? i).map fun item =>
      (messages.flatMap (m.partsFor i)).foldl MonitoredItem.receive item := by
  induction messages generalizing m with
  | nil => exact Option.map_id'.symm
  | cons x messages ih =>
    rw [dispatchAll_cons, ih, item?_dispatch, (sameRoutes_dispatch x m).partsFor, Option.map_map]
    simp only [Function.comp_def, List.flatMap_cons, List.foldl_append]

theorem subscription?_dispatchAll (k : SubscriptionKey)
    (messages : List (SubscriptionId × NotificationMessage)) (m : SubscriptionManager) :
    (m.dispatchAll messages).subscription? k = (m.subscription? k).map fun s =>
      { s with
        notificationMessages := s.notificationMessages +
          messages.countP fun x => m.registry.find? x.1 = some k && !x.2.isKeepAlive
        keepAlives := s.keepAlives +
          messages.countP fun x => m.registry.find? x.1 = some k && x.2.isKeepAlive } := by
  induction messages generalizing m with
  | nil => exact Option.map_id'.symm
  | cons x messages ih =>
    rw [dispatchAll_cons, ih, subscription?_dispatch, (sameRoutes_dispatch x m).registry,
      Option.map_map]
    congr 1
    funext s
    rw [Function.comp_apply, Subscription.counted, List.countP_cons, List.countP_cons]
    by_cases hk : m.registry.find? x.1 = some k <;> cases x.2.isKeepAlive <;>
      simp [hk, Nat.add_assoc, Nat.add_comm 1]

/-! ### What a listener is told -/

/-- A notice on which no listener fails comes to all that look at anything. -/
theorem reached_of_disturbs {n : Notice} (hn : m.disturbs n = false) :
    m.reached n = m.attentive := by
  have hidx : m.attentive.findIdx (·.fails n) = m.attentive.length :=
    List.findIdx_eq_length_of_false fun l hl => Bool.eq_false_iff.2 (List.any_eq_false.1 hn l hl)
  rw [reached, hidx, List.take_of_length_le (Nat.le_succ _)]

/-- What a listener sees of a notice, if it comes to it. -/
def hears (label : String) (m : SubscriptionManager) (n : Notice) : List Observation :=
  List.replicate ((m.reached n).countP (·.label == label)) (.notice label n)

theorem filter_told (label : String) (n : Notice) (m : SubscriptionManager) :
    (m.told n).filter (·.listener? == some label) = m.hears label n := by
  unfold told hears
  induction m.reached n with
  | nil => rfl
  | cons l listeners ih =>
    rw [List.countP_cons, Nat.add_comm, List.replicate_add, ← ih]
    by_cases hl : l.label = label <;> simp [hl, Observation.listener?]

theorem filter_shownOfPart (label : String) (s : Subscription) (part : NotificationPart)
    (m : SubscriptionManager) : (m.shownOfPart s part).filter (·.listener? == some label) =
      (part.status?.map (Notice.statusChanged s.id)).toList.flatMap (m.hears label) := by
  -- What callbacks see no listener does.
  have hsees (item : MonitoredItem) :
      (item.sees part).filter (·.listener? == some label) = [] := by
    cases part with
    | value =>
      cases h : item.callbacks.onValue <;> simp [MonitoredItem.sees, h, Observation.listener?]
    | event =>
      cases h : item.callbacks.onEvent <;> simp [MonitoredItem.sees, h, Observation.listener?]
    | status => rfl
  cases part with
  | value | event =>
    unfold shownOfPart
    dsimp only
    cases (NotificationPart.handle? _ |>.bind s.items.find?).bind m.item? with
    | none => rfl
    | some item => exact hsees item
  | status status => exact (filter_told ..).trans (List.flatMap_singleton ..).symm

theorem filter_shown (label : String) (x : SubscriptionId × NotificationMessage)
    (m : SubscriptionManager) : (m.shown x).filter (·.listener? == some label) =
      (m.notices x).flatMap (m.hears label) := by
  unfold shown notices
  cases m.registered? x.1 with
  | none => rfl
  | some s =>
    dsimp only
    split
    · exact (filter_told ..).trans (List.flatMap_singleton ..).symm
    · rw [List.filter_append, List.flatMap_append, List.filter_flatMap, List.flatMap_map]
      congr 1
      · simp only [filter_shownOfPart]
        induction m.given s x.2.parts with
        | nil => rfl
        | cons part rest ih =>
          rw [List.flatMap_cons, ih]
          cases part <;> simp [NotificationPart.status?]
      · split
        · rfl
        · exact (filter_told ..).trans (List.flatMap_singleton ..).symm

/-! ### What an item receives -/

/-- The parts that are handed out are those up to the first on which something fails. -/
theorem given_eq_take (s : Subscription) (parts : List NotificationPart)
    (m : SubscriptionManager) : m.given s parts = parts.take (parts.findIdx (m.fails s) + 1) := by
  induction parts with
  | nil => rfl
  | cons part rest ih =>
    rw [given, List.findIdx_cons, List.take_succ_cons, ih]
    cases m.fails s part <;> rfl

/-- A part is for an item if it has its handle. -/
theorem Filed.addresses (hf : m.Filed) (hs : m.subscription? k = some s)
    (hi : s.items.find? h = some i) (part : NotificationPart) :
    s.addresses i part = (part.handle? == some h) := by
  rw [Subscription.addresses]
  cases part.handle? with
  | none => rfl
  | some h' =>
    obtain ⟨item, hitem, rfl⟩ := hf.item ⟨s, hs, hi⟩
    rw [Option.bind_some, Bool.eq_iff_iff, beq_iff_eq, beq_iff_eq]
    refine ⟨fun hi' => ?_, fun e => Option.some.inj e ▸ hi⟩
    obtain ⟨item', hitem', rfl⟩ := hf.item ⟨s, hs, hi'⟩
    rw [Option.some.inj (hitem'.symm.trans hitem)]

/-- An item receives nothing from the messages of other subscriptions. -/
theorem Filed.partsFor (hf : m.Filed) (hk : m.registry.find? id = some k)
    (hs : m.subscription? k = some s) (hi : s.items.find? h = some i)
    (x : SubscriptionId × NotificationMessage) : m.partsFor i x =
      if x.1 = id then (m.given s x.2.parts).filter (·.handle? == some h) else [] := by
  unfold SubscriptionManager.partsFor
  by_cases hx : x.1 = id
  · rw [if_pos hx, hx, registered?_of_find? hk, hs]
    exact List.filter_congr fun part _ => hf.addresses hs hi part
  · rw [if_neg hx]
    cases hreg : m.registered? x.1 with
    | none => rfl
    | some s' =>
      obtain ⟨k', hk', hs'⟩ := Option.bind_eq_some_iff.1 hreg
      refine List.filter_eq_nil_iff.2 fun part _ ha => hx ?_
      obtain ⟨h', -, hi'⟩ := Option.bind_eq_some_iff.1 (beq_iff_eq.1 ha)
      obtain rfl := hf.unique ⟨s, hs, hi⟩ ⟨s', hs', hi'⟩
      obtain ⟨s₁, hs₁, rfl⟩ := hf.id hk
      obtain ⟨s₂, hs₂, e⟩ := hf.id hk'
      rw [← e, Option.some.inj (hs₁.symm.trans hs₂)]

theorem partsFor_of_unattached (hi : ¬ m.Attached i) (x : SubscriptionId × NotificationMessage) :
    m.partsFor i x = [] := by
  unfold partsFor
  cases hreg : m.registered? x.1 with
  | none => rfl
  | some s =>
    obtain ⟨k, hk, hs⟩ := Option.bind_eq_some_iff.1 hreg
    refine List.filter_eq_nil_iff.2 fun part _ ha => hi ?_
    obtain ⟨h, -, hfind⟩ := Option.bind_eq_some_iff.1 (beq_iff_eq.1 ha)
    exact ⟨x.1, k, h, hk, s, hs, hfind⟩

/-- An item receives what is handed out of the messages of its subscription under its handle. -/
theorem Filed.flatMap_partsFor (hf : m.Filed) (hk : m.registry.find? id = some k)
    (hs : m.subscription? k = some s) (hi : s.items.find? h = some i)
    (messages : List (SubscriptionId × NotificationMessage)) : messages.flatMap (m.partsFor i) =
      ((messages.filter (·.1 == id)).flatMap fun x => m.given s x.2.parts).filter
        (·.handle? == some h) := by
  induction messages with
  | nil => rfl
  | cons x messages ih =>
    rw [List.flatMap_cons, ih, hf.partsFor hk hs hi]
    by_cases hx : x.1 = id <;> simp [hx]

/-- Two ids of one subscription are the same. -/
theorem Filed.find?_iff (hf : m.Filed) (hk : m.registry.find? id = some k) (id' : SubscriptionId) :
    m.registry.find? id' = some k ↔ id' = id := by
  refine ⟨fun hk' => ?_, fun e => e ▸ hk⟩
  obtain ⟨s, hs, rfl⟩ := hf.id hk
  obtain ⟨s', hs', rfl⟩ := hf.id hk'
  rw [Option.some.inj (hs.symm.trans hs')]

/-! ## The result -/

/-- What becomes of a series of messages.

* A message whose id is not registered is dropped. The parts of another one are handed out up to the
  first on which a callback or a listener fails.
* An item receives the values and the events that are handed out under its handle, of the messages
  of its own subscription, in order. No other item is touched.
* The subscriptions count their messages, with data and without. No other subscription is touched.
* The listeners are told of each message without data, of each change of the status that is handed
  out, and of each message with data at its end, unless something has failed. Each of them sees what
  comes to it, which is all if no listener before it fails. What the application sees is written
  down in this order, and nothing else changes. -/
theorem dispatchAll_spec (hf : m.Filed)
    (messages : List (SubscriptionId × NotificationMessage)) :
    (∀ s parts, m.given s parts = parts.take (parts.findIdx (m.fails s) + 1)) ∧
    (∀ id s h i item, m.registered? id = some s → s.items.find? h = some i →
      m.item? i = some item →
      let parts := (messages.filter (·.1 == id)).flatMap fun x => m.given s x.2.parts
      (m.dispatchAll messages).item? i = some
        (item.received (parts.filterMap (·.valueFor? h)) (parts.filterMap (·.eventFor? h)))) ∧
    (∀ i, ¬ m.Attached i → (m.dispatchAll messages).item? i = m.item? i) ∧
    (∀ id k s, m.registry.find? id = some k → m.subscription? k = some s →
      (m.dispatchAll messages).subscription? k = some { s with
        notificationMessages := s.notificationMessages +
          messages.countP fun x => x.1 = id && !x.2.isKeepAlive
        keepAlives := s.keepAlives + messages.countP fun x => x.1 = id && x.2.isKeepAlive }) ∧
    (∀ k, (∀ id, m.registry.find? id ≠ some k) →
      (m.dispatchAll messages).subscription? k = m.subscription? k) ∧
    (∃ subscriptions items, m.dispatchAll messages =
      { m with
        subscriptions, items, stats := m.tallied messages,
        journal := m.journal ++ messages.flatMap m.shown }) ∧
    (∀ n, m.disturbs n = false → m.reached n = m.attentive) ∧
    ∀ label, (messages.flatMap m.shown).filter (·.listener? == some label) =
      (messages.flatMap m.notices).flatMap fun n =>
        List.replicate ((m.reached n).countP (·.label == label)) (.notice label n) := by
  refine ⟨fun s parts => given_eq_take s parts m, fun id s h i item hreg hi hitem => ?items,
    fun i hi => ?others, fun id k s hk hs => ?subscriptions, fun k hk => ?unregistered,
    dispatchAll_eq messages m, fun n => reached_of_disturbs, fun label => ?listeners⟩
  case items =>
    obtain ⟨k, hk, hs⟩ := Option.bind_eq_some_iff.1 hreg
    dsimp only
    rw [item?_dispatchAll, hitem, Option.map_some, hf.flatMap_partsFor hk hs hi,
      MonitoredItem.foldl_receive, NotificationPart.filterMap_valueFor?,
      NotificationPart.filterMap_eventFor?]
  case others =>
    rw [item?_dispatchAll, funext (partsFor_of_unattached hi),
      List.flatMap_eq_nil_iff.2 fun _ _ => rfl]
    exact Option.map_id'
  case subscriptions =>
    rw [subscription?_dispatchAll, hs, Option.map_some]
    simp only [hf.find?_iff hk]
  case unregistered =>
    rw [subscription?_dispatchAll]
    simp only [hk, decide_false, Bool.false_and, List.countP_false]
    exact Option.map_id'
  case listeners =>
    rw [List.filter_flatMap, List.flatMap_assoc]
    simp only [filter_shown]
    rfl

section

open Simulation

/-- A subscription with two items. -/
def samplePair : SubscriptionManager :=
  (((fresh Sample.config).addSubscription 7 (.ofInterval 0.0) .zero).1.addItems 0
    [((1, .value .null), default), ((2, .value .null), default)]).1

/-- The callback of the first item fails. -/
def sampleItems : SubscriptionManager :=
  (samplePair.setCallbacks 0 (.always "callback" true)).addListener (.steady "listener" true)

/-- A message with a value for each item, and one for a subscription that is not there. -/
def sampleMessages : List (SubscriptionId × NotificationMessage) :=
  [(7, Sample.dataChange 1 [1, 2] 5), (8, Sample.statusChange 1 .badTimeout)]

theorem sameTables_addListener (l : Listener) (m : SubscriptionManager) :
    m.SameTables (m.addListener l) :=
  sameTables_of_eq rfl rfl rfl

theorem filed_sampleItems : sampleItems.Filed := by
  have hpair : samplePair.Filed := ((filed_fresh _).addSubscription ..).addItems ..
  have hcallback := (sameTables_setCallbacks 0 (.always "callback" true) samplePair).filed hpair
  exact (sameTables_addListener _ _).filed hcallback

/-- The first item gets its value, and only its callback sees anything. -/
theorem sampleItems_receives :
    (sampleItems.dispatchAll sampleMessages).item? 0 =
      (sampleItems.item? 0).map (·.received [.taken (.int32 5) default] []) ∧
    (sampleItems.dispatchAll sampleMessages).journal =
      [.value "callback" 1 (.taken (.int32 5) default)] := by
  obtain ⟨-, hitems, -, -, -, ⟨_, _, hjournal⟩, -, -⟩ :=
    dispatchAll_spec filed_sampleItems sampleMessages
  exact ⟨hitems 7 _ 1 0 _ rfl rfl rfl, congrArg journal hjournal⟩

/-- The message has a value for the second item, which does not get it. The listener is not told of
it, nor of the change of the status. -/
theorem sampleItems_misses :
    (sampleMessages.flatMap (·.2.parts)).filterMap (·.valueFor? 2) = [.taken (.int32 5) default] ∧
    (sampleItems.dispatchAll sampleMessages).item? 1 = sampleItems.item? 1 ∧
    sampleMessages.all (!·.2.isKeepAlive) = true ∧
    (sampleItems.dispatchAll sampleMessages).journal.filterMap (·.listener?) = [] :=
  ⟨rfl, rfl, rfl, rfl⟩

end

end SubscriptionManager

end OpcUa
