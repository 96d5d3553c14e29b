import OpcUa.Proofs.ItemTables

/-!
# The results for several items

A request that is about several items is answered with one result for each. This is what all the
results together do to the manager.

* `SubscriptionManager.addItems_eq`: the items that are granted get the next keys, in their order,
  and are filed in the table of their subscription.
* `SubscriptionManager.outcome?_addItems`: the outcome of a request depends on its own result.
* `SubscriptionManager.files_addItems_iff`, `SubscriptionManager.files_removeItems_iff`: what is in
  the tables afterwards.
-/

namespace OpcUa

/-! ## Tables of items -/

namespace Table

variable {items : List MonitoredItem} {n : ItemKey} {t : Table ItemKey} {h : ClientHandle}
  {i : ItemKey}

/-- The table with the items in it, one after the other, which have the keys from `n` on. -/
def putItems (n : ItemKey) : List MonitoredItem → Table ItemKey → Table ItemKey
  | [], t => t
  | item :: rest, t => putItems (n + 1) rest (t.insert item.handle n)

theorem putItems_append (items rest : List MonitoredItem) (n : ItemKey) (t : Table ItemKey) :
    putItems n (items ++ rest) t = putItems (n + items.length) rest (putItems n items t) := by
  induction items generalizing n t with
  | nil => rfl
  | cons item items ih =>
    rw [List.cons_append, putItems, putItems, ih, List.length_cons, Nat.add_comm items.length,
      Nat.add_assoc]

end Table

/-! ## Results -/

/-- What a filter keeps is at the place that the number of those before it gives. -/
theorem getElem?_filter_iff {α : Type} {p : α → Bool} {l : List α} {d : Nat} {x : α} :
    (l.filter p)[d]? = some x ↔
      ∃ j : Nat, l[j]? = some x ∧ p x = true ∧ (l.take j).countP p = d := by
  induction l generalizing d with
  | nil =>
    constructor
    · rintro ⟨⟩
    · rintro ⟨j, ⟨⟩, -⟩
  | cons y l ih =>
    by_cases hy : p y = true
    · rw [List.filter_cons_of_pos hy]
      cases d with
      | zero =>
        constructor
        · rintro ⟨⟩
          exact ⟨0, rfl, hy, rfl⟩
        · rintro ⟨_ | j, hj, -, hcount⟩
          · exact hj
          · rw [List.take_succ_cons, List.countP_cons_of_pos hy] at hcount
            cases hcount
      | succ d =>
        rw [List.getElem?_cons_succ]
        refine ih.trans ⟨?_, ?_⟩
        · rintro ⟨j, hj, hx, hcount⟩
          exact ⟨j + 1, hj, hx, by rw [List.take_succ_cons, List.countP_cons_of_pos hy, hcount]⟩
        · rintro ⟨_ | j, hj, hx, hcount⟩
          · cases hcount
          · rw [List.take_succ_cons, List.countP_cons_of_pos hy] at hcount
            exact ⟨j, hj, hx, Nat.succ.inj hcount⟩
    · rw [List.filter_cons_of_neg hy]
      refine ih.trans ⟨?_, ?_⟩
      · rintro ⟨j, hj, hx, hcount⟩
        exact ⟨j + 1, hj, hx, by rw [List.take_succ_cons, List.countP_cons_of_neg hy, hcount]⟩
      · rintro ⟨_ | j, hj, hx, hcount⟩
        · cases hj
          exact absurd hx hy
        · rw [List.take_succ_cons, List.countP_cons_of_neg hy] at hcount
          exact ⟨j, hj, hx, hcount⟩

/-- A request for an item with its result. -/
abbrev AnsweredRequest := (ClientHandle × MonitoredItemRequest) × MonitoredItemResult

namespace AnsweredRequest

/-- Whether the server has created the item. -/
def isGranted (x : AnsweredRequest) : Bool := !x.2.status.isBad

/-- The item that is created, for the subscription `id`. -/
def item (id : SubscriptionId) (capacity : Nat) (x : AnsweredRequest) : MonitoredItem :=
  .ofResult id x.1.1 x.1.2 x.2 capacity

/-- What the request comes to, if the item gets the key `i`. -/
def outcome (i : ItemKey) (x : AnsweredRequest) : Except Error ItemKey :=
  if x.isGranted then .ok i
  else .error (.subscription (.itemFailed x.1.2.target.node.toText x.2.status))

end AnsweredRequest

namespace SubscriptionManager

open AnsweredRequest

variable {m : SubscriptionManager} {k k' : SubscriptionKey} {h : ClientHandle} {i j : ItemKey}

/-! ### Items that are added -/

/-- The manager with new items, which the subscription `k` has. -/
def fileItems (k : SubscriptionKey) (items : List MonitoredItem) (m : SubscriptionManager) :
    SubscriptionManager :=
  { m with items := m.items ++ items }.modifySubscription k fun s =>
    { s with items := s.items.putItems m.items.length items }

theorem fileItems_nil (k : SubscriptionKey) (m : SubscriptionManager) : m.fileItems k [] = m := by
  unfold fileItems modifySubscription
  rw [List.append_nil]
  congr 1
  exact List.modify_id ..

theorem fileItems_append (k : SubscriptionKey) (items rest : List MonitoredItem)
    (m : SubscriptionManager) :
    m.fileItems k (items ++ rest) = (m.fileItems k items).fileItems k rest := by
  unfold fileItems modifySubscription
  dsimp only
  rw [List.modify_modify_eq, List.append_assoc, List.length_append]
  congr 2
  funext s
  rw [Table.putItems_append]
  rfl

theorem idOf_fileItems (k k' : SubscriptionKey) (items : List MonitoredItem)
    (m : SubscriptionManager) : (m.fileItems k items).idOf k' = m.idOf k' := by
  have hm : { m with items := m.items ++ items }.subscription? k' = m.subscription? k' := rfl
  unfold idOf fileItems
  rw [subscription?_modify, hm]
  cases m.subscription? k' with
  | none => rfl
  | some s =>
    dsimp only [Option.map_some, Option.getD_some]
    split <;> rfl

theorem addItem_eq (k : SubscriptionKey) (x : AnsweredRequest) (m : SubscriptionManager) :
    m.addItem k x.1.1 x.1.2 x.2 =
      (m.fileItems k (([x].filter isGranted).map
        (item (m.idOf k) m.config.valueChannelCapacity.toNat)),
        x.outcome m.items.length) := by
  unfold addItem outcome
  cases hbad : x.2.status.isBad with
  | true =>
    have hx : x.isGranted = false := congrArg not hbad
    rw [List.filter_singleton, hx]
    exact Prod.ext (fileItems_nil k m).symm rfl
  | false =>
    have hx : x.isGranted = true := congrArg not hbad
    rw [List.filter_singleton, hx]
    rfl

/-- The items that are granted are filed in the order of the requests. -/
theorem addItems_eq (k : SubscriptionKey) (l : List AnsweredRequest) (m : SubscriptionManager) :
    (m.addItems k l).1 = m.fileItems k ((l.filter isGranted).map
      (item (m.idOf k) m.config.valueChannelCapacity.toNat)) := by
  induction l generalizing m with
  | nil => exact (fileItems_nil k m).symm
  | cons x rest ih =>
    have hx : (m.addItems k (x :: rest)).1 =
        (addItems k rest (m.addItem k x.1.1 x.1.2 x.2).1).1 := rfl
    have hl : x :: rest = [x] ++ rest := rfl
    rw [hx, ih, addItem_eq, idOf_fileItems, hl, List.filter_append, List.map_append,
      fileItems_append]
    rfl

theorem length_addItems (k : SubscriptionKey) (l : List AnsweredRequest)
    (m : SubscriptionManager) : (m.addItems k l).2.length = l.length := by
  induction l generalizing m with
  | nil => rfl
  | cons x rest ih => exact congrArg (· + 1) (ih _)

/-- A request whose item is granted comes to the next key, any other to an error. -/
theorem outcome?_addItems (k : SubscriptionKey) (l : List AnsweredRequest) (j : Nat)
    (m : SubscriptionManager) : (m.addItems k l).2[j]? =
      l[j]?.map (outcome (m.items.length + (l.take j).countP isGranted)) := by
  induction l generalizing m j with
  | nil => rfl
  | cons x rest ih =>
    cases j with
    | zero => exact congrArg (fun y => some y.2) (addItem_eq k x m)
    | succ j =>
      have hx : (m.addItems k (x :: rest)).2[j + 1]? =
          (addItems k rest (m.addItem k x.1.1 x.1.2 x.2).1).2[j]? := rfl
      rw [hx, ih, addItem_eq, List.take_succ_cons, List.countP_cons]
      change rest[j]?.map (outcome ((m.items ++ _).length + _)) = _
      rw [List.length_append, List.length_map, ← List.countP_eq_length_filter,
        List.countP_singleton, Nat.add_assoc, Nat.add_comm (List.countP ..)]
      rfl

/-- The keys that are returned are those of the items that are added. -/
theorem outcome?_eq_ok_iff {l : List AnsweredRequest} {n : Nat} :
    (m.addItems k l).2[n]? = some (.ok i) ↔
      ∃ x, l[n]? = some x ∧ x.isGranted = true ∧
        i = m.items.length + (l.take n).countP isGranted := by
  rw [outcome?_addItems, Option.map_eq_some_iff]
  refine exists_congr fun x => and_congr_right fun _ => ?_
  unfold outcome
  cases x.isGranted with
  | true => exact ⟨fun e => ⟨rfl, (Except.ok.inj e).symm⟩, fun e => congrArg _ e.2.symm⟩
  | false =>
    constructor
    · rintro ⟨⟩
    · rintro ⟨⟨⟩, -⟩

/-- An item that is granted has the key that its request returns. -/
theorem item?_addItems {l : List AnsweredRequest} {n : Nat} {x : AnsweredRequest}
    (hx : l[n]? = some x) (hg : x.isGranted = true) :
    (m.addItems k l).1.item? (m.items.length + (l.take n).countP isGranted) =
      some (x.item (m.idOf k) m.config.valueChannelCapacity.toNat) := by
  rw [addItems_eq]
  refine (List.getElem?_append_right (Nat.le_add_right ..)).trans ?_
  rw [Nat.add_sub_cancel_left, List.getElem?_map, getElem?_filter_iff.2 ⟨n, hx, hg, rfl⟩]
  rfl

/-- No two requests return the same key. -/
theorem outcome?_injective {l : List AnsweredRequest} {n n' : Nat}
    (h : (m.addItems k l).2[n]? = some (.ok i)) (h' : (m.addItems k l).2[n']? = some (.ok i)) :
    n = n' := by
  have hlt {n n' : Nat} (hn : n < n') (h : (m.addItems k l).2[n]? = some (.ok i))
      (h' : (m.addItems k l).2[n']? = some (.ok i)) : False := by
    obtain ⟨x, hx, hg, hi⟩ := outcome?_eq_ok_iff.1 h
    obtain ⟨-, -, -, hi'⟩ := outcome?_eq_ok_iff.1 h'
    have hle : (l.take (n + 1)).countP isGranted ≤ (l.take n').countP isGranted :=
      (List.take_sublist_take_left hn).countP_le
    rw [List.take_add_one, hx, List.countP_append] at hle
    have hone : (some x).toList.countP isGranted = 1 := by
      rw [Option.toList_some, List.countP_singleton, if_pos hg]
    have hsame := Nat.add_left_cancel (hi.symm.trans hi')
    omega
  rcases Nat.lt_trichotomy n n' with hn | hn | hn
  · exact (hlt hn h h').elim
  · exact hn
  · exact (hlt hn h' h).elim

/-- The items that are granted have handles of the requests, each at most once. -/
theorem sublist_handles_granted (requests : List (ClientHandle × MonitoredItemRequest))
    (results : List MonitoredItemResult) (id : SubscriptionId) (capacity : Nat) :
    ((((requests.zip results).filter isGranted).map (item id capacity)).map (·.handle)).Sublist
      (requests.map (·.1)) := by
  rw [List.map_map]
  change (((requests.zip results).filter _).map (·.1.1)).Sublist _
  refine (List.filter_sublist.map _).trans ?_
  induction requests generalizing results with
  | nil => exact List.nil_sublist _
  | cons x requests ih =>
    cases results with
    | nil => exact List.nil_sublist _
    | cons result results => exact (ih results).cons_cons x.1

theorem files_modify_iff {f : Subscription → Subscription} :
    (m.modifySubscription k f).Files k' h i ↔ ∃ s, m.subscription? k' = some s ∧
      (if k = k' then f s else s).items.find? h = some i := by
  unfold Files
  simp only [subscription?_modify, Option.map_eq_some_iff]
  constructor
  · rintro ⟨_, ⟨s, hs, rfl⟩, hf⟩
    exact ⟨s, hs, hf⟩
  · rintro ⟨s, hs, hf⟩
    exact ⟨_, ⟨s, hs, rfl⟩, hf⟩

variable {status : StatusCode} {results : List (ItemKey × StatusCode)}

theorem files_removeItem_iff : (m.removeItem k j status).Files k' h i ↔ m.Files k' h i ∧
    ¬ (k' = k ∧ removes status = true ∧ (m.item? j).map (·.handle) = some h) := by
  unfold removeItem
  split
  · rename_i hr
    cases hj : m.item? j with
    | none =>
      refine (and_iff_left ?_).symm
      rintro ⟨-, -, ⟨⟩⟩
    | some item =>
      refine files_modify_iff.trans ?_
      rw [Option.map_some, Option.some_inj]
      by_cases hkk : k = k'
      · subst hkk
        simp only [if_true, Table.find?_erase]
        constructor
        · rintro ⟨s, hs, hf⟩
          split at hf
          · cases hf
          · rename_i hh
            exact ⟨⟨s, hs, hf⟩, fun hx => hh hx.2.2.symm⟩
        · rintro ⟨⟨s, hs, hf⟩, hnot⟩
          exact ⟨s, hs, by rw [if_neg fun hh => hnot ⟨trivial, hr, hh.symm⟩, hf]⟩
      · simp only [if_neg hkk]
        exact (and_iff_left fun hx => hkk hx.1.symm).symm
  · rename_i hr
    exact (and_iff_left fun hx => hr hx.2.1).symm

/-- An item leaves the table when the server has deleted it or does not know it. -/
theorem files_removeItems_iff : (m.removeItems k results).Files k' h i ↔ m.Files k' h i ∧
    ¬ (k' = k ∧ ∃ x ∈ results, removes x.2 = true ∧ (m.item? x.1).map (·.handle) = some h) := by
  unfold removeItems
  induction results generalizing m with
  | nil =>
    refine (and_iff_left ?_).symm
    rintro ⟨-, x, hx, -⟩
    cases hx
  | cons x rest ih =>
    have hitem (j : ItemKey) : (m.removeItem k x.1 x.2).item? j = m.item? j := by
      rw [item?, items_removeItem]
      rfl
    refine (ih (m := m.removeItem k x.1 x.2)).trans ?_
    rw [files_removeItem_iff, and_assoc, ← not_or, ← and_or_left]
    simp only [hitem, List.exists_mem_cons_iff]

/-- Removals change nothing but the tables of the subscriptions. -/
theorem exists_removeItems_eq (k : SubscriptionKey) (results : List (ItemKey × StatusCode))
    (m : SubscriptionManager) : ∃ subscriptions, m.removeItems k results =
      { m with subscriptions } := by
  unfold removeItems
  induction results generalizing m with
  | nil => exact ⟨_, rfl⟩
  | cons x rest ih =>
    obtain ⟨subscriptions, h⟩ := ih (m.removeItem k x.1 x.2)
    refine ⟨subscriptions, h.trans ?_⟩
    unfold removeItem
    split
    · split <;> rfl
    · rfl

end SubscriptionManager

end OpcUa
