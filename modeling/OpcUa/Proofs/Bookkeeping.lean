import OpcUa.Client.Poll

/-!
# The bookkeeping of the manager

Much of what the manager does concerns its subscriptions and items alone: messages are delivered,
operations are checked, items are added and removed. This file says so function by function.

* `SubscriptionManager.Notes`: only subscriptions and items differ, and what is written down about
  them.
* `SubscriptionManager.Applies`: what the answer to an operation does to the manager.
* `SubscriptionManager.Settles`: the same for the end of an operation, with less detail.
-/

namespace OpcUa

/-- How many Publish requests were sent, how many of them have ended either way, and how many
acknowledgements were sent and were dropped with them. -/
def SubscriptionStats.publishes (s : SubscriptionStats) : Nat × Nat × Nat × Nat × Nat :=
  (s.publishRequests, s.publishResponses, s.publishFailures, s.acknowledgementsSent,
    s.acknowledgementsDropped)

namespace SubscriptionManager

variable {m m' m'' : SubscriptionManager}

/-- Only subscriptions and items differ, and what is written down about them. -/
def Notes (m m' : SubscriptionManager) : Prop :=
  ∃ subscriptions items clientHandles listeners stats journal,
    m' = { m with subscriptions, items, clientHandles, listeners, stats, journal } ∧
      stats.publishes = m.stats.publishes

theorem Notes.refl (m : SubscriptionManager) : m.Notes m := ⟨_, _, _, _, _, _, rfl, rfl⟩

theorem Notes.trans (h : m.Notes m') (h' : m'.Notes m'') : m.Notes m'' := by
  obtain ⟨_, _, _, _, _, _, rfl, hs⟩ := h
  obtain ⟨_, _, _, _, _, _, rfl, hs'⟩ := h'
  exact ⟨_, _, _, _, _, _, rfl, hs'.trans hs⟩

theorem notes_modifySubscription (k : SubscriptionKey) (f : Subscription → Subscription)
    (m : SubscriptionManager) : m.Notes (m.modifySubscription k f) :=
  ⟨_, _, _, _, _, _, rfl, rfl⟩

/-! ## Delivery -/

theorem notes_notify (n : Notice) (m : SubscriptionManager) : m.Notes (m.notify n).1 :=
  ⟨_, _, _, _, _, _, rfl, rfl⟩

theorem notes_deliverTo (k : ItemKey) (f : MonitoredItem → Delivered) (m : SubscriptionManager) :
    m.Notes (m.deliverTo k f).1 := by
  unfold deliverTo
  split
  · exact .refl m
  · exact ⟨_, _, _, _, _, _, rfl, rfl⟩

theorem notes_deliverPart (s : Subscription) (p : NotificationPart) (m : SubscriptionManager) :
    m.Notes (m.deliverPart s p).1 := by
  cases p with
  | value handle v =>
    unfold deliverPart
    dsimp only
    split
    · exact notes_deliverTo ..
    · exact .refl m
  | event handle fields =>
    unfold deliverPart
    dsimp only
    split
    · exact notes_deliverTo ..
    · exact .refl m
  | status status => exact notes_notify (.statusChanged s.id status) m

theorem notes_of_deliverParts {s : Subscription} {ps : List NotificationPart} {b : Bool}
    (h : m.deliverParts s ps = (m', b)) : m.Notes m' := by
  induction ps generalizing m with
  | nil =>
    cases h
    exact .refl _
  | cons p rest ih =>
    have hp := notes_deliverPart s p m
    unfold deliverParts at h
    split at h
    · rename_i m₁ e
      rw [e] at hp
      exact hp.trans (ih h)
    · rename_i m₁ e
      rw [e] at hp
      cases h
      exact hp

theorem notes_dispatch (id : SubscriptionId) (message : NotificationMessage)
    (m : SubscriptionManager) : m.Notes (m.dispatch id message) := by
  unfold dispatch
  split
  · exact .refl m
  · rename_i k _
    split
    · exact .refl m
    · rename_i s _
      split
      · exact ⟨_, _, _, _, _, _, rfl, rfl⟩
      · dsimp only
        have h : m.Notes { m.modifySubscription k fun s =>
            { s with notificationMessages := s.notificationMessages + 1 } with
          stats := m.stats.recordNotificationMessage } := ⟨_, _, _, _, _, _, rfl, rfl⟩
        split
        · rename_i e
          exact (h.trans (notes_of_deliverParts e)).trans (notes_notify _ _)
        · rename_i e
          exact h.trans (notes_of_deliverParts e)

theorem notes_deliver (d : Delivery) (m : SubscriptionManager) : m.Notes (m.deliver d) := by
  cases d with
  | message id message => exact notes_dispatch id message m
  | value k v => exact notes_deliverTo k _ m

/-- A turn of the delivery worker changes the queue and makes notes. -/
theorem notes_deliverTurn (m : SubscriptionManager) :
    Notes { m with delivery := m.delivery.turn.2 } m.deliverTurn.1 := by
  unfold deliverTurn
  split
  · rename_i e
    rw [e]
    exact notes_deliver ..
  · rename_i e
    rw [e]
    exact .refl _
  · rename_i e
    rw [e]
    exact .refl _
  · rename_i e
    rw [e]
    exact .refl _

/-! ## Operations -/

theorem notes_begin (op : Operation) (clock : Nat) (m : SubscriptionManager) :
    m.Notes (m.begin op clock).1 := by
  cases op with
  | createItems k requests =>
    unfold SubscriptionManager.begin
    dsimp only
    split
    · exact .refl m
    · split
      · exact .refl m
      · exact ⟨_, _, _, _, _, _, rfl, rfl⟩
  | deleteItems k items =>
    unfold SubscriptionManager.begin
    dsimp only
    split
    · exact .refl m
    · split <;> exact .refl m
  | create | createWithInterval | modify | modifyInterval | delete | setPublishing => exact .refl m

theorem notes_addItems (k : SubscriptionKey)
    (l : List ((ClientHandle × MonitoredItemRequest) × MonitoredItemResult))
    (m : SubscriptionManager) : m.Notes (m.addItems k l).1 := by
  induction l generalizing m with
  | nil => exact .refl m
  | cons p rest ih =>
    have h : m.Notes (m.addItem k p.1.1 p.1.2 p.2).1 := by
      unfold addItem
      split
      · exact .refl m
      · exact ⟨_, _, _, _, _, _, rfl, rfl⟩
    exact h.trans (ih _)

theorem notes_removeItems (k : SubscriptionKey) (results : List (ItemKey × StatusCode))
    (m : SubscriptionManager) : m.Notes (m.removeItems k results) := by
  unfold removeItems
  induction results generalizing m with
  | nil => exact .refl m
  | cons p rest ih =>
    have h : m.Notes (m.removeItem k p.1 p.2) := by
      unfold removeItem
      split
      · split
        · exact notes_modifySubscription ..
        · exact .refl m
      · exact .refl m
    exact h.trans (ih _)

/-- What an operation does to the manager when its answer comes. An answer that is refused has no
effect. -/
inductive Applies (m : SubscriptionManager) : PendingOperation → SubscriptionManager → Prop
  | refused (op : PendingOperation) : Applies m op m
  | created (p : SubscriptionParameters) (since : Nat) (id : SubscriptionId)
    (granted : SubscriptionParameters) (took : Duration) :
    Applies m (.create p since) (m.addSubscription id granted took).1
  | modified (k : SubscriptionKey) (p : SubscriptionParameters) (revised : RevisedSubscription) :
    Applies m (.modify k p) (m.modifySubscription k (·.applyRevised revised p)).fillPipeline
  | deleted (k : SubscriptionKey) : Applies m (.delete k) (m.removeSubscription (m.idOf k))
  | publishingSet (k : SubscriptionKey) (enabled : Bool) :
    Applies m (.setPublishing k enabled) (m.modifySubscription k (·.setPublishingEnabled enabled))
  | itemsCreated (k : SubscriptionKey) (requests : List (ClientHandle × MonitoredItemRequest))
    (results : List MonitoredItemResult) :
    Applies m (.createItems k requests) (m.addItems k (requests.zip results)).1
  | itemsDeleted (k : SubscriptionKey) (items : List ItemKey) (results : List StatusCode) :
    Applies m (.deleteItems k items) (m.removeItems k (items.zip results))

theorem applies_apply (clock : Nat) (op : PendingOperation) (answer : op.service.Answer)
    (m : SubscriptionManager) : m.Applies op (m.apply clock op answer).1 := by
  cases op with
  | create => exact .created ..
  | modify => exact .modified ..
  | deleteItems => exact .itemsDeleted ..
  | delete | setPublishing | createItems =>
    unfold apply
    dsimp only
    split
    · exact .refused _
    · constructor

/-- What the end of an operation does to the manager. Where a subscription is created, modified or
deleted, the pipeline is filled afterwards. -/
inductive Settles (m : SubscriptionManager) : SubscriptionManager → Prop
  | notes {m' : SubscriptionManager} : m.Notes m' → Settles m m'
  | created (id : SubscriptionId) (k : SubscriptionKey) {m' : SubscriptionManager} :
    Notes { m with registry := m.registry.insert id k } m' → Settles m m'.fillPipeline
  | modified {m' : SubscriptionManager} : m.Notes m' → Settles m m'.fillPipeline
  | deleted (id : SubscriptionId) {m' : SubscriptionManager} :
    Notes { m with
      registry := m.registry.erase id
      cursors := m.cursors.erase id
      acknowledgements := m.acknowledgements.discard id } m' → Settles m m'.fillPipeline

theorem Applies.settles {op : PendingOperation} {m m' : SubscriptionManager} (h : m.Applies op m') :
    m.Settles m' := by
  cases h with
  | refused => exact .notes (.refl m)
  | created p since id => exact .created id m.subscriptions.length ⟨_, _, _, _, _, _, rfl, rfl⟩
  | modified => exact .modified (notes_modifySubscription ..)
  | deleted k => exact .deleted (m.idOf k) ⟨_, _, _, _, _, _, rfl, rfl⟩
  | publishingSet => exact .notes (notes_modifySubscription ..)
  | itemsCreated => exact .notes (notes_addItems ..)
  | itemsDeleted => exact .notes (notes_removeItems ..)

theorem settles_finish (clock : Nat) (op : PendingOperation)
    (outcome : Except Error op.service.Answer) (m : SubscriptionManager) :
    m.Settles (m.finish clock op outcome).1 := by
  cases outcome with
  | error e => exact .notes (.refl m)
  | ok answer => exact (applies_apply clock op answer m).settles

end SubscriptionManager

end OpcUa
