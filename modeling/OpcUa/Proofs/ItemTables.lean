import OpcUa.Proofs.FailedOperations
import OpcUa.Proofs.ItemCourse

/-!
# The tables of items

Every subscription has a table of its items, by their handles. This file says which items it has and
what becomes of them: an item is put into one table when it is added, and is never put into another
one.

* `SubscriptionManager.SameTables`: a step leaves the tables and the registry alone.
* `SubscriptionManager.Filed`: every item is in at most one table, under its own handle.
* `SubscriptionManager.Attached`: a subscription that is registered has the item.
* `SubscriptionManager.Forgotten`: the item is there, but no subscription that is registered has it.
* `SubscriptionManager.Orphaned`: the subscription is there, but is not registered any more.
* `SubscriptionManager.forgotten_of_removeItems`,
  `SubscriptionManager.orphaned_of_removeSubscription`: what deletions come to.
-/

namespace OpcUa

namespace Table

variable {α : Type} {a : α}

theorem search_of_mem {k : UInt32} {l : List (UInt32 × α)}
    (hl : l.Pairwise (fun a b => a.1 < b.1)) (h : (k, a) ∈ l) : search k l = some a := by
  induction l with
  | nil => cases h
  | cons e rest ih =>
    obtain ⟨hfirst, hrest⟩ := List.pairwise_cons.1 hl
    unfold search
    rcases List.mem_cons.1 h with rfl | h
    · exact if_pos rfl
    · rw [if_neg fun hk => UInt32.lt_irrefl k (by simpa only [← hk] using hfirst _ h)]
      exact ih hrest h

/-- What is in a table is found in it, since no two entries have the same key. -/
theorem exists_find?_of_mem_values {t : Table α} (h : a ∈ t.values) :
    ∃ k, t.find? k = some a := by
  obtain ⟨⟨k, a⟩, he, rfl⟩ := List.mem_map.1 h
  exact ⟨k, search_of_mem t.ascending he⟩

end Table

theorem MonitoredItem.handle_receive (item : MonitoredItem) (part : NotificationPart) :
    (item.receive part).handle = item.handle := by
  cases part with
  | value handle v =>
    unfold receive deliverValue
    dsimp only
    split <;> rfl
  | event handle fields =>
    unfold receive deliverEvent
    dsimp only
    split <;> rfl
  | status status => rfl

namespace SubscriptionManager

variable {m m' m'' : SubscriptionManager} {k k' : SubscriptionKey} {h h' : ClientHandle}
  {i j : ItemKey}

/-! ## Steps that leave the tables alone -/

/-- From `m` to `m'` the tables of items and the registry stay as they are, and so do the handles of
the items and the ids of the subscriptions. -/
structure SameTables (m m' : SubscriptionManager) : Prop where
  registry : m'.registry = m.registry
  subscription? : ∀ k, (m'.subscription? k).map (fun s => (s.id, s.items)) =
    (m.subscription? k).map fun s => (s.id, s.items)
  item? : ∀ i, (m'.item? i).map (·.handle) = (m.item? i).map (·.handle)

theorem SameTables.refl (m : SubscriptionManager) : m.SameTables m :=
  ⟨rfl, fun _ => rfl, fun _ => rfl⟩

theorem SameTables.trans (h : m.SameTables m') (h' : m'.SameTables m'') : m.SameTables m'' where
  registry := h'.registry.trans h.registry
  subscription? k := (h'.subscription? k).trans (h.subscription? k)
  item? i := (h'.item? i).trans (h.item? i)

theorem sameTables_of_eq (hr : m'.registry = m.registry)
    (hs : m'.subscriptions = m.subscriptions) (hi : m'.items = m.items) : m.SameTables m' where
  registry := hr
  subscription? k := by rw [SubscriptionManager.subscription?, hs]; rfl
  item? i := by rw [SubscriptionManager.item?, hi]; rfl

theorem SameTables.subscription (hm : m.SameTables m') {s' : Subscription}
    (hs : m'.subscription? k = some s') :
    ∃ s, m.subscription? k = some s ∧ s.id = s'.id ∧ s.items = s'.items := by
  have he := hm.subscription? k
  rw [hs] at he
  obtain ⟨s, hs, e⟩ := Option.map_eq_some_iff.1 he.symm
  exact ⟨s, hs, (Prod.mk.inj e).1, (Prod.mk.inj e).2⟩

theorem SameTables.item (hm : m.SameTables m') {item' : MonitoredItem}
    (hi : m'.item? i = some item') :
    ∃ item, m.item? i = some item ∧ item.handle = item'.handle := by
  have he := hm.item? i
  rw [hi] at he
  exact Option.map_eq_some_iff.1 he.symm

theorem SameTables.symm (hm : m.SameTables m') : m'.SameTables m :=
  ⟨hm.registry.symm, fun k => (hm.subscription? k).symm, fun i => (hm.item? i).symm⟩

/-- A subscription keeps its id and its table. -/
theorem sameTables_modify {f : Subscription → Subscription}
    (hf : ∀ s, ((f s).id, (f s).items) = (s.id, s.items)) (k : SubscriptionKey)
    (m : SubscriptionManager) : m.SameTables (m.modifySubscription k f) := by
  refine ⟨rfl, fun k' => ?_, fun _ => rfl⟩
  rw [subscription?_modify, Option.map_map]
  congr 1
  funext s
  dsimp only [Function.comp_apply]
  split
  · exact hf s
  · rfl

theorem sameTables_fillPipeline (m : SubscriptionManager) : m.SameTables m.fillPipeline :=
  sameTables_of_eq (quiet_fillPipeline m).registry (subscriptions_fillPipeline m)
    (items_fillPipeline m)

theorem Unaltered.sameTables (hm : m.Unaltered m') : m.SameTables m' := by
  obtain ⟨_, rfl⟩ := hm
  exact sameTables_of_eq rfl rfl rfl

theorem sameTables_shutDown (m : SubscriptionManager) : m.SameTables m.shutDown := by
  unfold shutDown
  split <;> exact sameTables_of_eq rfl rfl rfl

theorem sameTables_abandon (m : SubscriptionManager) : m.SameTables m.abandon := by
  have hm := sameTables_shutDown m
  unfold abandon
  dsimp only
  split
  · exact hm
  · exact hm.trans (sameTables_of_eq rfl rfl rfl)

theorem sameTables_setCallbacks (k : ItemKey) (callbacks : Callbacks) (m : SubscriptionManager) :
    m.SameTables (m.setCallbacks k callbacks) := by
  refine ⟨rfl, fun _ => rfl, fun i => ?_⟩
  have hget : (m.setCallbacks k callbacks).item? i =
      (m.item? i).map fun item =>
        if k = i then { item with callbacks := callbacks.replace item.callbacks } else item :=
    List.getElem?_modify ..
  rw [hget, Option.map_map]
  congr 1
  funext item
  dsimp only [Function.comp_apply]
  split <;> rfl

theorem Hands.sameTables {s : Subscription} {parts : List NotificationPart}
    (hm : m.Hands s parts m') : m.SameTables m' := by
  refine ⟨hm.registry, fun k => ?_, fun i => ?_⟩
  · rw [SubscriptionManager.subscription?, hm.subscriptions]
    rfl
  · rw [hm.item?, Option.map_map]
    congr 1
    funext item
    dsimp only [Function.comp_apply]
    induction parts.filter (s.addresses i) generalizing item with
    | nil => rfl
    | cons part rest ih => rw [List.foldl_cons, ih, MonitoredItem.handle_receive]

theorem sameTables_of_deliverParts {s : Subscription} {parts : List NotificationPart} {b : Bool}
    (e : m.deliverParts s parts = (m', b)) : m.SameTables m' := by
  have hm := hands_deliverParts s parts m
  rw [e] at hm
  exact hm.sameTables

theorem sameTables_deliverTo {f : MonitoredItem → Delivered}
    (hf : ∀ item, (f item).item.handle = item.handle) (k : ItemKey) (m : SubscriptionManager) :
    m.SameTables (m.deliverTo k f).1 := by
  unfold deliverTo
  split
  · exact .refl m
  · rename_i item hitem
    refine ⟨rfl, fun _ => rfl, fun i => ?_⟩
    change ((m.setItem k (f item).item).item? i).map _ = _
    rw [item?_setItem]
    split
    · rename_i hki
      subst hki
      rw [hitem]
      exact congrArg some (hf item)
    · rfl

theorem sameTables_dispatch (id : SubscriptionId) (message : NotificationMessage)
    (m : SubscriptionManager) : m.SameTables (m.dispatch id message) := by
  unfold dispatch
  split
  · exact .refl m
  · rename_i k _
    split
    · exact .refl m
    · rename_i s _
      split
      · exact (sameTables_modify (f := fun s => { s with keepAlives := s.keepAlives + 1 })
          (fun _ => rfl) k m).trans (sameTables_of_eq rfl rfl rfl)
      · dsimp only
        have hcount : m.SameTables { m.modifySubscription k fun s =>
            { s with notificationMessages := s.notificationMessages + 1 } with
            stats := m.stats.recordNotificationMessage } :=
          (sameTables_modify
            (f := fun s => { s with notificationMessages := s.notificationMessages + 1 })
            (fun _ => rfl) k m).trans (sameTables_of_eq rfl rfl rfl)
        split
        · rename_i e
          exact (hcount.trans (sameTables_of_deliverParts e)).trans (sameTables_of_eq rfl rfl rfl)
        · rename_i e
          exact hcount.trans (sameTables_of_deliverParts e)

theorem sameTables_deliverTurn (m : SubscriptionManager) : m.SameTables m.deliverTurn.1 := by
  unfold deliverTurn
  split
  · rename_i d yields q e
    have hq : m.SameTables { m with delivery := q } := sameTables_of_eq rfl rfl rfl
    refine hq.trans ?_
    cases d with
    | message id message => exact sameTables_dispatch id message _
    | value k v =>
      refine sameTables_deliverTo (fun item => ?_) k _
      exact item.handle_receive (.value 0 v)
  all_goals exact sameTables_of_eq rfl rfl rfl

theorem AttemptTurn.sameTables {w : WorkId} (ht : m.AttemptTurn w m') : m.SameTables m' :=
  sameTables_of_eq ht.same.2 ht.subscriptions ht.items

/-! ## Items in tables -/

/-- The subscription `k` has `i` in its table, under the handle `h`. -/
def Files (k : SubscriptionKey) (h : ClientHandle) (i : ItemKey) (m : SubscriptionManager) : Prop :=
  ∃ s, m.subscription? k = some s ∧ s.items.find? h = some i

/-- Every item is in at most one table, under its own handle, and every subscription that is
registered is there, under its own id. -/
structure Filed (m : SubscriptionManager) : Prop where
  item : ∀ {k h i}, m.Files k h i → ∃ item, m.item? i = some item ∧ item.handle = h
  unique : ∀ {k k' h h' i}, m.Files k h i → m.Files k' h' i → k = k'
  id : ∀ {id k}, m.registry.find? id = some k → ∃ s, m.subscription? k = some s ∧ s.id = id

/-- A subscription that is registered has the item. -/
def Attached (i : ItemKey) (m : SubscriptionManager) : Prop :=
  ∃ id k h, m.registry.find? id = some k ∧ m.Files k h i

/-- The item is there, but no subscription that is registered has it. -/
structure Forgotten (i : ItemKey) (m : SubscriptionManager) : Prop where
  item : ∃ item, m.item? i = some item
  unattached : ¬ m.Attached i

/-- The subscription is there, but is not registered any more. -/
structure Orphaned (k : SubscriptionKey) (m : SubscriptionManager) : Prop where
  subscription : ∃ s, m.subscription? k = some s
  unregistered : ∀ id, m.registry.find? id ≠ some k

/-- The items of a subscription that is not registered any more are forgotten. -/
theorem Orphaned.forgotten (hk : m.Orphaned k) (hf : m.Filed) (hi : m.Files k h i) :
    m.Forgotten i where
  item := by
    obtain ⟨item, hitem, -⟩ := hf.item hi
    exact ⟨item, hitem⟩
  unattached := by
    rintro ⟨id, k', h', hreg, hi'⟩
    obtain rfl := hf.unique hi hi'
    exact hk.unregistered id hreg

theorem filed_fresh (config : ClientConfig) : (fresh config).Filed where
  item := fun ⟨_, h, _⟩ => nomatch h
  unique := fun ⟨_, h, _⟩ => nomatch h
  id := nofun

theorem SameTables.files (hm : m.SameTables m') (hi : m'.Files k h i) : m.Files k h i := by
  obtain ⟨s', hs', hfind⟩ := hi
  obtain ⟨s, hs, -, htable⟩ := hm.subscription hs'
  exact ⟨s, hs, htable ▸ hfind⟩

theorem SameTables.filed (hm : m.SameTables m') (hf : m.Filed) : m'.Filed where
  item hi := by
    obtain ⟨item, hitem, hh⟩ := hf.item (hm.files hi)
    obtain ⟨item', hitem', e⟩ := hm.symm.item hitem
    exact ⟨item', hitem', e.trans hh⟩
  unique hi hi' := hf.unique (hm.files hi) (hm.files hi')
  id hk := by
    rw [hm.registry] at hk
    obtain ⟨s, hs, hid⟩ := hf.id hk
    obtain ⟨s', hs', e, -⟩ := hm.symm.subscription hs
    exact ⟨s', hs', e.trans hid⟩

theorem SameTables.forgotten (hm : m.SameTables m') (hi : m.Forgotten i) : m'.Forgotten i where
  item := by
    obtain ⟨item, hitem⟩ := hi.item
    obtain ⟨item', hitem', -⟩ := hm.symm.item hitem
    exact ⟨item', hitem'⟩
  unattached := fun ⟨id, k, h, hk, hfile⟩ =>
    hi.unattached ⟨id, k, h, hm.registry ▸ hk, hm.files hfile⟩

theorem SameTables.orphaned (hm : m.SameTables m') (hk : m.Orphaned k) : m'.Orphaned k where
  subscription := by
    obtain ⟨s, hs⟩ := hk.subscription
    obtain ⟨s', hs', -⟩ := hm.symm.subscription hs
    exact ⟨s', hs'⟩
  unregistered id := by
    rw [hm.registry]
    exact hk.unregistered id

/-! ### Items that are added -/

variable {request : MonitoredItemRequest} {result : MonitoredItemResult}

/-- Only the new item is put into a table. -/
theorem files_addItem (hi : (m.addItem k h request result).1.Files k' h' i) :
    m.Files k' h' i ∨
      (k' = k ∧ h' = h ∧ i = m.items.length) ∧ result.status.isBad = false := by
  unfold addItem at hi
  split at hi
  · exact .inl hi
  · rename_i hgood
    obtain ⟨s', hs', hfind⟩ := hi
    rw [subscription?_modify] at hs'
    obtain ⟨s, hs, rfl⟩ := Option.map_eq_some_iff.1 hs'
    split at hfind
    · rename_i hk
      rw [Table.find?_insert] at hfind
      split at hfind
      · rename_i hh
        exact .inr ⟨⟨hk.symm, hh, (Option.some.inj hfind).symm⟩, Bool.eq_false_iff.2 hgood⟩
      · exact .inl ⟨s, hs, hfind⟩
    · exact .inl ⟨s, hs, hfind⟩

/-- The items that there are stay. -/
theorem item?_addItem {item : MonitoredItem} (hi : m.item? i = some item) :
    (m.addItem k h request result).1.item? i = some item := by
  unfold addItem
  split
  · exact hi
  · exact (List.getElem?_append_left (List.getElem?_eq_some_iff.1 hi).1).trans hi

theorem Filed.addItem (hf : m.Filed) (k : SubscriptionKey) (h : ClientHandle)
    (request : MonitoredItemRequest) (result : MonitoredItemResult) :
    (m.addItem k h request result).1.Filed where
  item hi := by
    rcases files_addItem hi with hi | ⟨⟨rfl, rfl, rfl⟩, hgood⟩
    · obtain ⟨item, hitem, hh⟩ := hf.item hi
      exact ⟨item, item?_addItem hitem, hh⟩
    · unfold SubscriptionManager.addItem
      rw [if_neg (Bool.eq_false_iff.1 hgood)]
      exact ⟨_, List.getElem?_concat_length, rfl⟩
  unique {k₁ k₂ h₁ h₂ j} hi hi' := by
    -- The key of the new item has not been in use.
    have hnew {k h} (hi : m.Files k h j) : j ≠ m.items.length := by
      obtain ⟨item, hitem, -⟩ := hf.item hi
      exact Nat.ne_of_lt (List.getElem?_eq_some_iff.1 hitem).1
    rcases files_addItem hi with hold | ⟨⟨hk, -, hj⟩, -⟩ <;>
      rcases files_addItem hi' with hold' | ⟨⟨hk', -, hj'⟩, -⟩
    · exact hf.unique hold hold'
    · exact absurd hj' (hnew hold)
    · exact absurd hj (hnew hold')
    · exact hk.trans hk'.symm
  id hk := by
    unfold SubscriptionManager.addItem at hk ⊢
    split
    · rename_i hbad
      rw [if_pos hbad] at hk
      exact hf.id hk
    · rename_i hgood
      rw [if_neg hgood] at hk
      obtain ⟨s, hs, hid⟩ := hf.id hk
      refine ⟨_, (subscription?_modify ..).trans (congrArg _ hs), ?_⟩
      dsimp only
      split <;> exact hid

theorem Forgotten.addItem (hi : m.Forgotten i) (k : SubscriptionKey) (h : ClientHandle)
    (request : MonitoredItemRequest) (result : MonitoredItemResult) :
    (m.addItem k h request result).1.Forgotten i where
  item := by
    obtain ⟨item, hitem⟩ := hi.item
    exact ⟨item, item?_addItem hitem⟩
  unattached := by
    rintro ⟨id, k', h', hk, hfile⟩
    have hr : (m.addItem k h request result).1.registry = m.registry := by
      unfold SubscriptionManager.addItem
      split <;> rfl
    rcases files_addItem hfile with hfile | ⟨⟨-, -, rfl⟩, -⟩
    · exact hi.unattached ⟨id, k', h', hr ▸ hk, hfile⟩
    · obtain ⟨item, hitem⟩ := hi.item
      exact Nat.lt_irrefl _ (List.getElem?_eq_some_iff.1 hitem).1

theorem Filed.addItems (hf : m.Filed) (k : SubscriptionKey)
    (l : List ((ClientHandle × MonitoredItemRequest) × MonitoredItemResult)) :
    (m.addItems k l).1.Filed := by
  induction l generalizing m with
  | nil => exact hf
  | cons x rest ih => exact ih (hf.addItem k x.1.1 x.1.2 x.2)

theorem Forgotten.addItems (hi : m.Forgotten i) (k : SubscriptionKey)
    (l : List ((ClientHandle × MonitoredItemRequest) × MonitoredItemResult)) :
    (m.addItems k l).1.Forgotten i := by
  induction l generalizing m with
  | nil => exact hi
  | cons x rest ih => exact ih (hi.addItem k x.1.1 x.1.2 x.2)

/-! ### Items that are removed -/

variable {status : StatusCode} {results : List (ItemKey × StatusCode)}

/-- Whether the item is removed that the server has answered about. -/
def removes (status : StatusCode) : Bool := status.isGood || status == .badMonitoredItemIdInvalid

/-- What is in a table after the removal of the item `j` has been there before, and is not `j`. -/
theorem files_removeItem (hi : (m.removeItem k j status).Files k' h i) :
    m.Files k' h i ∧ ∀ item, removes status = true → m.item? j = some item → k' = k →
      item.handle ≠ h := by
  unfold removeItem at hi
  split at hi
  · split at hi
    · rename_i item hitem
      obtain ⟨s', hs', hfind⟩ := hi
      rw [subscription?_modify] at hs'
      obtain ⟨s, hs, rfl⟩ := Option.map_eq_some_iff.1 hs'
      split at hfind
      · rename_i hk
        rw [Table.find?_erase] at hfind
        split at hfind
        · cases hfind
        · rename_i hh
          refine ⟨⟨s, hs, hfind⟩, fun item' _ hitem' _ e => hh ?_⟩
          rw [← Option.some.inj (hitem.symm.trans hitem')] at e
          exact e.symm
      · rename_i hk
        exact ⟨⟨s, hs, hfind⟩, fun _ _ _ e => absurd e.symm hk⟩
    · rename_i hnone
      exact ⟨hi, fun item _ hitem => nomatch hnone.symm.trans hitem⟩
  · rename_i hnot
    exact ⟨hi, fun _ hr => absurd hr hnot⟩

theorem removeItem_eq (k : SubscriptionKey) (j : ItemKey) (status : StatusCode)
    (m : SubscriptionManager) : (m.removeItem k j status).items = m.items ∧
      (m.removeItem k j status).registry = m.registry ∧
      ∀ k' s, m.subscription? k' = some s →
        ∃ s', (m.removeItem k j status).subscription? k' = some s' ∧ s'.id = s.id := by
  unfold removeItem
  split
  · split
    · refine ⟨rfl, rfl, fun k' s hs => ⟨_, (subscription?_modify ..).trans (congrArg _ hs), ?_⟩⟩
      dsimp only
      split <;> rfl
    · exact ⟨rfl, rfl, fun k' s hs => ⟨s, hs, rfl⟩⟩
  · exact ⟨rfl, rfl, fun k' s hs => ⟨s, hs, rfl⟩⟩

theorem Filed.removeItem (hf : m.Filed) (k : SubscriptionKey) (j : ItemKey) (status : StatusCode) :
    (m.removeItem k j status).Filed := by
  obtain ⟨hitems, hregistry, hsubscriptions⟩ := removeItem_eq k j status m
  refine ⟨fun hi => ?_, fun hi hi' => hf.unique (files_removeItem hi).1 (files_removeItem hi').1,
    fun hk => ?_⟩
  · rw [item?, hitems]
    exact hf.item (files_removeItem hi).1
  · rw [hregistry] at hk
    obtain ⟨s, hs, hid⟩ := hf.id hk
    obtain ⟨s', hs', e⟩ := hsubscriptions _ _ hs
    exact ⟨s', hs', e.trans hid⟩

theorem Forgotten.removeItem (hi : m.Forgotten i) (k : SubscriptionKey) (j : ItemKey)
    (status : StatusCode) : (m.removeItem k j status).Forgotten i := by
  obtain ⟨hitems, hregistry, -⟩ := removeItem_eq k j status m
  refine ⟨?_, fun ⟨id, k', h', hk, hfile⟩ => ?_⟩
  · rw [item?, hitems]
    exact hi.item
  · exact hi.unattached ⟨id, k', h', hregistry ▸ hk, (files_removeItem hfile).1⟩

theorem files_removeItems (hi : (m.removeItems k results).Files k' h i) : m.Files k' h i := by
  unfold removeItems at hi
  induction results generalizing m with
  | nil => exact hi
  | cons x rest ih => exact (files_removeItem (ih hi)).1

theorem Filed.removeItems (hf : m.Filed) (k : SubscriptionKey)
    (results : List (ItemKey × StatusCode)) : (m.removeItems k results).Filed := by
  unfold SubscriptionManager.removeItems
  induction results generalizing m with
  | nil => exact hf
  | cons x rest ih => exact ih (hf.removeItem k x.1 x.2)

theorem Forgotten.removeItems (hi : m.Forgotten i) (k : SubscriptionKey)
    (results : List (ItemKey × StatusCode)) : (m.removeItems k results).Forgotten i := by
  unfold SubscriptionManager.removeItems
  induction results generalizing m with
  | nil => exact hi
  | cons x rest ih => exact ih (hi.removeItem k x.1 x.2)

/-- An item that is removed is not in the table any more. -/
theorem not_files_removeItems (hf : m.Filed) (hi : (i, status) ∈ results)
    (hr : removes status = true) : ¬ (m.removeItems k results).Files k h i := by
  induction results generalizing m with
  | nil => cases hi
  | cons x rest ih =>
    rcases List.mem_cons.1 hi with rfl | hi
    · intro hfile
      have hfile : (m.removeItem k i status).Files k h i := files_removeItems hfile
      obtain ⟨hfile, hne⟩ := files_removeItem hfile
      obtain ⟨item, hitem, hh⟩ := hf.item hfile
      exact hne item hr hitem rfl hh
    · exact ih (hf.removeItem k x.1 x.2) hi

theorem forgotten_of_removeItems (hf : m.Filed) (hfile : m.Files k h i)
    (hi : (i, status) ∈ results) (hr : removes status = true) :
    (m.removeItems k results).Forgotten i where
  item := by
    have hitems : (m.removeItems k results).items = m.items := by
      unfold removeItems
      clear hi hf hfile
      induction results generalizing m with
      | nil => rfl
      | cons x rest ih => exact ih.trans (items_removeItem ..)
    obtain ⟨item, hitem, -⟩ := hf.item hfile
    exact ⟨item, by rw [item?, hitems]; exact hitem⟩
  unattached := by
    rintro ⟨id, k', h', -, hfile'⟩
    obtain rfl := hf.unique hfile (files_removeItems hfile')
    exact not_files_removeItems hf hi hr hfile'

/-! ### Subscriptions that come and go -/

/-- A new subscription has no items. -/
theorem files_append {id : SubscriptionId} {p : SubscriptionParameters} {registry : Registry}
    {stats : SubscriptionStats}
    (hi : Files k h i { m with
      subscriptions := m.subscriptions ++ [Subscription.ofParameters id p], registry, stats }) :
    m.Files k h i := by
  obtain ⟨s, hs, hfind⟩ := hi
  have hs : (m.subscriptions ++ [Subscription.ofParameters id p])[k]? = some s := hs
  rw [List.getElem?_append] at hs
  split at hs
  · exact ⟨s, hs, hfind⟩
  · obtain rfl := List.mem_singleton.1 (List.mem_of_getElem? hs)
    cases hfind

theorem Filed.addSubscription (hf : m.Filed) (id : SubscriptionId) (p : SubscriptionParameters)
    (took : Duration) : (m.addSubscription id p took).1.Filed := by
  refine (sameTables_fillPipeline _).filed
    ⟨fun hi => hf.item (files_append hi),
      fun hi hi' => hf.unique (files_append hi) (files_append hi'), fun {id' k} hk => ?_⟩
  have hk : (m.registry.insert id m.subscriptions.length).find? id' = some k := hk
  rw [Table.find?_insert] at hk
  split at hk
  · rename_i hid
    obtain rfl := Option.some.inj hk
    exact ⟨_, List.getElem?_concat_length, hid.symm⟩
  · obtain ⟨s, hs, hid⟩ := hf.id hk
    exact ⟨s, (List.getElem?_append_left (List.getElem?_eq_some_iff.1 hs).1).trans hs, hid⟩

theorem Forgotten.addSubscription (hi : m.Forgotten i) (id : SubscriptionId)
    (p : SubscriptionParameters) (took : Duration) :
    (m.addSubscription id p took).1.Forgotten i := by
  refine (sameTables_fillPipeline _).forgotten ⟨hi.item, ?_⟩
  rintro ⟨id', k, h, hk, hfile⟩
  obtain ⟨s, hs, hfind⟩ := files_append hfile
  have hk : (m.registry.insert id m.subscriptions.length).find? id' = some k := hk
  rw [Table.find?_insert] at hk
  split at hk
  · -- The new subscription has not been there.
    obtain rfl := Option.some.inj hk
    exact Nat.lt_irrefl _ (List.getElem?_eq_some_iff.1 hs).1
  · exact hi.unattached ⟨id', k, h, hk, s, hs, hfind⟩

theorem Filed.removeSubscription (hf : m.Filed) (id : SubscriptionId) :
    (m.removeSubscription id).Filed := by
  refine (sameTables_fillPipeline _).filed ⟨hf.item, hf.unique, fun {id' k} hk => ?_⟩
  have hk : (m.registry.erase id).find? id' = some k := hk
  rw [Table.find?_erase] at hk
  split at hk
  · cases hk
  · exact hf.id hk

theorem Forgotten.removeSubscription (hi : m.Forgotten i) (id : SubscriptionId) :
    (m.removeSubscription id).Forgotten i := by
  refine (sameTables_fillPipeline _).forgotten ⟨hi.item, ?_⟩
  rintro ⟨id', k, h, hk, hfile⟩
  have hk : (m.registry.erase id).find? id' = some k := hk
  rw [Table.find?_erase] at hk
  split at hk
  · cases hk
  · exact hi.unattached ⟨id', k, h, hk, hfile⟩

/-- The key of a new subscription has not been in use. -/
theorem Orphaned.addSubscription (hk : m.Orphaned k) (id : SubscriptionId)
    (p : SubscriptionParameters) (took : Duration) :
    (m.addSubscription id p took).1.Orphaned k := by
  obtain ⟨s, hs⟩ := hk.subscription
  have hlt := (List.getElem?_eq_some_iff.1 hs).1
  refine (sameTables_fillPipeline _).orphaned
    ⟨⟨s, (List.getElem?_append_left hlt).trans hs⟩, fun id' => ?_⟩
  change (m.registry.insert id m.subscriptions.length).find? id' ≠ some k
  rw [Table.find?_insert]
  split
  · exact fun e => Nat.ne_of_gt hlt (Option.some.inj e)
  · exact hk.unregistered id'

theorem Orphaned.removeSubscription (hk : m.Orphaned k) (id : SubscriptionId) :
    (m.removeSubscription id).Orphaned k := by
  refine (sameTables_fillPipeline _).orphaned ⟨hk.subscription, fun id' => ?_⟩
  change (m.registry.erase id).find? id' ≠ some k
  rw [Table.find?_erase]
  split
  · exact (Option.some_ne_none k).symm
  · exact hk.unregistered id'

theorem Orphaned.retains (hk : m.Orphaned k) (hr : m'.registry = m.registry) (h : m.Retains m') :
    m'.Orphaned k where
  subscription := by
    obtain ⟨s, hs⟩ := hk.subscription
    obtain ⟨s', hs', -⟩ := h k s hs
    exact ⟨s', hs'⟩
  unregistered id := hr ▸ hk.unregistered id

/-- A subscription that is removed is not registered any more. -/
theorem orphaned_of_removeSubscription (hf : m.Filed) (hs : ∃ s, m.subscription? k = some s) :
    (m.removeSubscription (m.idOf k)).Orphaned k := by
  refine (sameTables_fillPipeline _).orphaned ⟨hs, fun id hk => ?_⟩
  have hk : (m.registry.erase (m.idOf k)).find? id = some k := hk
  rw [Table.find?_erase] at hk
  split at hk
  · cases hk
  · rename_i hne
    obtain ⟨s, hs, hid⟩ := hf.id hk
    exact hne (by rw [idOf, hs, ← hid]; rfl)

/-! ### Operations -/

theorem sameTables_modified (k : SubscriptionKey) (p : SubscriptionParameters)
    (revised : RevisedSubscription) (m : SubscriptionManager) :
    m.SameTables (m.modifySubscription k (·.applyRevised revised p)).fillPipeline :=
  (sameTables_modify (f := (·.applyRevised revised p)) (fun _ => rfl) k m).trans
    (sameTables_fillPipeline _)

theorem sameTables_publishingSet (k : SubscriptionKey) (enabled : Bool) (m : SubscriptionManager) :
    m.SameTables (m.modifySubscription k (·.setPublishingEnabled enabled)) :=
  sameTables_modify (f := (·.setPublishingEnabled enabled)) (fun _ => rfl) k m

variable {op : PendingOperation}

theorem Filed.applied (hf : m.Filed) (h : m.Applies op m') : m'.Filed := by
  cases h with
  | refused => exact hf
  | created => exact hf.addSubscription ..
  | modified => exact (sameTables_modified ..).filed hf
  | deleted => exact hf.removeSubscription _
  | publishingSet => exact (sameTables_publishingSet ..).filed hf
  | itemsCreated => exact hf.addItems ..
  | itemsDeleted => exact hf.removeItems ..

theorem Forgotten.applied (hi : m.Forgotten i) (h : m.Applies op m') : m'.Forgotten i := by
  cases h with
  | refused => exact hi
  | created => exact hi.addSubscription ..
  | modified => exact (sameTables_modified ..).forgotten hi
  | deleted => exact hi.removeSubscription _
  | publishingSet => exact (sameTables_publishingSet ..).forgotten hi
  | itemsCreated => exact hi.addItems ..
  | itemsDeleted => exact hi.removeItems ..

/-- A subscription that is not registered any more is not registered again. -/
theorem Orphaned.applied (hk : m.Orphaned k) (h : m.Applies op m') : m'.Orphaned k := by
  cases h with
  | refused => exact hk
  | created => exact hk.addSubscription ..
  | modified => exact (sameTables_modified ..).orphaned hk
  | deleted => exact hk.removeSubscription _
  | publishingSet => exact (sameTables_publishingSet ..).orphaned hk
  | itemsCreated => exact hk.retains (notes_addItems ..).quiet.registry (retains_addItems _ _ m)
  | itemsDeleted =>
    exact hk.retains (notes_removeItems ..).quiet.registry (retains_removeItems _ _ m)

end SubscriptionManager

end OpcUa
