import OpcUa.Proofs.ItemHandles
import OpcUa.Proofs.ParameterUpdates

/-!
# The course of an item

An item is there when the call that adds it goes on with the answer, and it stays until an operation
takes its handle away: one that deletes it, or one that adds another item with the same handle.

* `SubscriptionManager.HasItem`: the item of a handle.
* `Client.Adds`: a call that adds an item.
* `Client.keepsHandle`: no operation in a run takes the handle away.
* `Client.Ready.hasItem_of_adds`, `Client.Ready.hasItem_after`: the item is there, and stays.
-/

namespace OpcUa

namespace SubscriptionManager

variable {m m' : SubscriptionManager} {k : SubscriptionKey} {h : ClientHandle} {i : ItemKey}

/-- The subscription `k` has the item `i` with the handle `h`. -/
def HasItem (k : SubscriptionKey) (h : ClientHandle) (i : ItemKey) (m : SubscriptionManager) :
    Prop :=
  ∃ s item, m.subscription? k = some s ∧ s.items.find? h = some i ∧ m.item? i = some item

variable {s : Subscription} {request : MonitoredItemRequest} {result : MonitoredItemResult}

theorem hasItem_addItem (hs : m.subscription? k = some s)
    (hi : (m.addItem k h request result).2 = .ok i) :
    (m.addItem k h request result).1.HasItem k h i := by
  unfold addItem at hi ⊢
  split at hi
  · cases hi
  · rename_i hgood
    rw [if_neg hgood]
    cases hi
    refine ⟨{ s with items := s.items.insert h m.items.length }, _, ?_, ?_,
      List.getElem?_concat_length⟩
    · rw [subscription?_modify]
      exact (congrArg (Option.map _) hs).trans (by rw [Option.map_some, if_pos rfl])
    · rw [Table.find?_insert, if_pos rfl]

/-! ### What keeps an item -/

theorem HasItem.of_eq (hm : m.HasItem k h i) (hs : m'.subscriptions = m.subscriptions)
    (hi : m'.items = m.items) : m'.HasItem k h i := by
  obtain ⟨s, item, hsub, hfind, hitem⟩ := hm
  exact ⟨s, item, by rw [subscription?, hs]; exact hsub, hfind, by rw [item?, hi]; exact hitem⟩

theorem HasItem.modify (hm : m.HasItem k h i) (k' : SubscriptionKey)
    {f : Subscription → Subscription}
    (hf : k' = k → ∀ s, s.items.find? h = some i → (f s).items.find? h = some i) :
    (m.modifySubscription k' f).HasItem k h i := by
  obtain ⟨s, item, hsub, hfind, hitem⟩ := hm
  refine ⟨_, item, by rw [subscription?_modify, hsub, Option.map_some], ?_, hitem⟩
  split
  · rename_i hk
    exact hf hk s hfind
  · exact hfind

theorem HasItem.append (hm : m.HasItem k h i) (items : List MonitoredItem) :
    { m with items := m.items ++ items }.HasItem k h i := by
  obtain ⟨s, item, hsub, hfind, hitem⟩ := hm
  exact ⟨s, item, hsub, hfind,
    (List.getElem?_append_left (List.getElem?_eq_some_iff.1 hitem).1).trans hitem⟩

theorem HasItem.setItem (hm : m.HasItem k h i) (j : ItemKey) (item : MonitoredItem) :
    (m.setItem j item).HasItem k h i := by
  obtain ⟨s, item₀, hsub, hfind, hitem⟩ := hm
  rcases Decidable.em (j = i) with hj | hj
  · exact ⟨s, item, hsub, hfind, by rw [item?_setItem, if_pos hj, hitem, Option.map_some]⟩
  · exact ⟨s, item₀, hsub, hfind, by rw [item?_setItem, if_neg hj, hitem]⟩

theorem HasItem.of_deliverParts {s : Subscription} {parts : List NotificationPart} {b : Bool}
    (hm : m.HasItem k h i) (e : m.deliverParts s parts = (m', b)) : m'.HasItem k h i := by
  have hh := hands_deliverParts s parts m
  rw [e] at hh
  obtain ⟨s', item, hsub, hfind, hitem⟩ := hm
  exact ⟨s', _, by rw [subscription?, hh.subscriptions]; exact hsub, hfind,
    by rw [hh.item?, hitem, Option.map_some]⟩

theorem HasItem.deliverTo (hm : m.HasItem k h i) (j : ItemKey) (f : MonitoredItem → Delivered) :
    (m.deliverTo j f).1.HasItem k h i := by
  unfold SubscriptionManager.deliverTo
  split
  · exact hm
  · exact (hm.setItem j _).of_eq rfl rfl

theorem HasItem.dispatch (hm : m.HasItem k h i) (id : SubscriptionId)
    (message : NotificationMessage) : (m.dispatch id message).HasItem k h i := by
  unfold SubscriptionManager.dispatch
  split
  · exact hm
  · split
    · exact hm
    · rename_i k' _ _ s _
      split
      · exact (hm.modify k' (f := fun s => { s with keepAlives := s.keepAlives + 1 })
          fun _ _ hfind => hfind).of_eq rfl rfl
      · have hcount : HasItem k h i { m.modifySubscription k' fun s =>
            { s with notificationMessages := s.notificationMessages + 1 } with
          stats := m.stats.recordNotificationMessage } :=
          (hm.modify k'
            (f := fun s => { s with notificationMessages := s.notificationMessages + 1 })
            fun _ _ hfind => hfind).of_eq rfl rfl
        dsimp only
        split
        · rename_i e
          exact (hcount.of_deliverParts e).of_eq rfl rfl
        · rename_i e
          exact hcount.of_deliverParts e

theorem HasItem.deliverTurn (hm : m.HasItem k h i) : m.deliverTurn.1.HasItem k h i := by
  unfold SubscriptionManager.deliverTurn
  split
  · rename_i d yields q e
    have hm' : HasItem k h i { m with delivery := q } := hm
    cases d with
    | value j v => exact hm'.deliverTo j _
    | message id message => exact hm'.dispatch id message
  all_goals exact hm

theorem HasItem.shutDown (hm : m.HasItem k h i) : m.shutDown.HasItem k h i := by
  unfold SubscriptionManager.shutDown
  split
  · exact hm.of_eq rfl rfl
  · exact hm

theorem items_armUpTo (n : Nat) (m : SubscriptionManager) : (m.armUpTo n).items = m.items := by
  induction n generalizing m with
  | zero => rfl
  | succ n ih =>
    unfold armUpTo
    split
    · rename_i m' e
      unfold armNext? at e
      dsimp only at e
      split at e
      · cases e
        exact ih _
      · cases e
    · rfl

theorem items_fillPipeline (m : SubscriptionManager) : m.fillPipeline.items = m.items := by
  unfold fillPipeline
  split
  · exact items_armUpTo _ m
  · rfl

theorem HasItem.fillPipeline (hm : m.HasItem k h i) : m.fillPipeline.HasItem k h i :=
  hm.of_eq (subscriptions_fillPipeline m) (items_fillPipeline m)

theorem AttemptTurn.items {w : WorkId} (ht : m.AttemptTurn w m') : m'.items = m.items := by
  have hcomplete (a : Attempt) (outcome : Except Error PublishAnswer) (clock : Nat)
      (m : SubscriptionManager) : (m.completeAttempt w a outcome clock).items = m.items := by
    unfold completeAttempt
    dsimp only
    repeat' split
    all_goals first | exact items_fillPipeline _ | rfl
  cases ht with
  | rests | starts | waits => rfl
  | fails | ends => exact hcomplete ..
  | resumes => exact items_fillPipeline _

/-! ### Operations -/

variable {request : MonitoredItemRequest} {result : MonitoredItemResult} {k' : SubscriptionKey}

theorem HasItem.addItem (hm : m.HasItem k h i) {h' : ClientHandle} (hne : k' = k → h ≠ h') :
    (m.addItem k' h' request result).1.HasItem k h i := by
  unfold SubscriptionManager.addItem
  split
  · exact hm
  · refine (hm.append _).modify k' fun hk s hfind => ?_
    rw [Table.find?_insert, if_neg (hne hk), hfind]

theorem HasItem.addItems (hm : m.HasItem k h i)
    {l : List ((ClientHandle × MonitoredItemRequest) × MonitoredItemResult)}
    (hl : k' = k → ∀ x ∈ l, h ≠ x.1.1) : (m.addItems k' l).1.HasItem k h i := by
  induction l generalizing m with
  | nil => exact hm
  | cons x rest ih =>
    exact ih (hm.addItem fun hk => hl hk x List.mem_cons_self)
      fun hk y hy => hl hk y (List.mem_cons_of_mem x hy)

theorem HasItem.removeItem (hm : m.HasItem k h i) {j : ItemKey} {status : StatusCode}
    (hne : k' = k → ∀ item, m.item? j = some item → item.handle ≠ h) :
    (m.removeItem k' j status).HasItem k h i := by
  unfold SubscriptionManager.removeItem
  split
  · split
    · rename_i item hitem
      refine hm.modify k' fun hk s hfind => ?_
      rw [Table.find?_erase, if_neg (hne hk item hitem).symm, hfind]
    · exact hm
  · exact hm

theorem items_removeItem (k : SubscriptionKey) (j : ItemKey) (status : StatusCode)
    (m : SubscriptionManager) : (m.removeItem k j status).items = m.items := by
  unfold SubscriptionManager.removeItem
  repeat' split
  all_goals rfl

theorem HasItem.removeItems (hm : m.HasItem k h i) {results : List (ItemKey × StatusCode)}
    (hne : k' = k → ∀ x ∈ results, ∀ item, m.item? x.1 = some item → item.handle ≠ h) :
    (m.removeItems k' results).HasItem k h i := by
  unfold SubscriptionManager.removeItems
  induction results generalizing m with
  | nil => exact hm
  | cons x rest ih =>
    refine ih (hm.removeItem fun hk => hne hk x List.mem_cons_self) fun hk y hy item hitem => ?_
    rw [item?, items_removeItem] at hitem
    exact hne hk y (List.mem_cons_of_mem x hy) item hitem

end SubscriptionManager

/-- Whether the operation takes the handle `h` from the subscription `k`. -/
def PendingOperation.frees (k : SubscriptionKey) (h : ClientHandle) (m : SubscriptionManager) :
    PendingOperation → Bool
  | createItems k' requests => k' == k && requests.any (·.1 == h)
  | deleteItems k' items => k' == k && items.any fun i => (m.item? i).any (·.handle == h)
  | create .. | modify .. | delete _ | setPublishing .. => false

namespace SubscriptionManager

variable {m m' : SubscriptionManager} {k : SubscriptionKey} {h : ClientHandle} {i : ItemKey}

/-- An item stays when an operation takes effect that does not take its handle away. -/
theorem HasItem.applied (hm : m.HasItem k h i) {op : PendingOperation}
    (hf : op.frees k h m = false) (ha : m.Applies op m') : m'.HasItem k h i := by
  cases ha with
  | refused => exact hm
  | created =>
    refine HasItem.fillPipeline ?_
    obtain ⟨s, item, hsub, hfind, hitem⟩ := hm
    exact ⟨s, item,
      (List.getElem?_append_left (List.getElem?_eq_some_iff.1 hsub).1).trans hsub, hfind, hitem⟩
  | modified k' p revised =>
    exact (hm.modify k' (f := (·.applyRevised revised p)) fun _ _ hfind => hfind).fillPipeline
  | deleted => exact HasItem.fillPipeline (hm.of_eq rfl rfl)
  | publishingSet k' enabled =>
    exact hm.modify k' (f := (·.setPublishingEnabled enabled)) fun _ _ hfind => hfind
  | itemsCreated k' requests results =>
    refine hm.addItems fun hk x hx e => ?_
    have hx' := (List.of_mem_zip hx).1
    simp only [PendingOperation.frees, hk, beq_self_eq_true, Bool.true_and,
      List.any_eq_false, beq_iff_eq] at hf
    exact hf _ hx' e.symm
  | itemsDeleted k' items results =>
    refine hm.removeItems fun hk x hx item hitem e => ?_
    have hx' := (List.of_mem_zip hx).1
    simp only [PendingOperation.frees, hk, beq_self_eq_true, Bool.true_and,
      List.any_eq_false] at hf
    exact hf _ hx' (by rw [hitem, Option.any_some, e]; exact beq_self_eq_true h)

/-! ### Items that are added -/

variable {s : Subscription} {request : MonitoredItemRequest} {result : MonitoredItemResult}

/-- An item that is added is there with its handle, if the handles are distinct. -/
theorem hasItem_addItems
    {l : List ((ClientHandle × MonitoredItemRequest) × MonitoredItemResult)} {n : Nat}
    (hs : m.subscription? k = some s) (hd : (l.map (·.1.1)).Nodup)
    (hl : l[n]? = some ((h, request), result))
    (hi : (m.addItems k l).2[n]? = some (.ok i)) : (m.addItems k l).1.HasItem k h i := by
  induction l generalizing m s n with
  | nil => cases hl
  | cons x rest ih =>
    obtain ⟨hx, hrest⟩ := List.nodup_cons.1 hd
    cases n with
    | zero =>
      cases hl
      refine (hasItem_addItem hs ?_).addItems fun _ x hmem e => ?_
      · exact Option.some.inj hi
      · exact hx (List.mem_map.2 ⟨x, hmem, e.symm⟩)
    | succ n =>
      obtain ⟨s', hs', -⟩ := retains_addItem k x.1.1 x.1.2 x.2 m k s hs
      exact ih hs' hrest hl hi

/-- What a request for items returns is there. -/
theorem hasItem_finish {clock : Nat} {requests : List (ClientHandle × MonitoredItemRequest)}
    {outcome : Except Error (List MonitoredItemResult)} {outcomes : List (Except Error ItemKey)}
    {n : Nat} (hs : m.subscription? k = some s) (hd : (requests.map (·.1)).Nodup)
    (hr : requests[n]? = some (h, request)) (hi : outcomes[n]? = some (.ok i))
    (hret : (m.finish clock (.createItems k requests) outcome).2 = .ok (.items outcomes)) :
    (m.finish clock (.createItems k requests) outcome).1.HasItem k h i := by
  cases outcome with
  | error e => cases hret
  | ok results =>
    unfold finish SubscriptionManager.apply at hret ⊢
    dsimp only at hret ⊢
    split at hret
    · cases hret
    · rename_i hlen
      rw [if_neg hlen]
      replace hlen := Decidable.of_not_not hlen
      have hout : (m.addItems k (requests.zip results)).2 = outcomes := by
        injection hret with hret
        injection hret
      have hn : n < results.length := hlen ▸ (List.getElem?_eq_some_iff.1 hr).1
      have hzip : (requests.zip results)[n]? = some ((h, request), results[n]) :=
        List.getElem?_zip_eq_some.2 ⟨hr, List.getElem?_eq_getElem hn⟩
      have hkeys : (requests.zip results).map (·.1.1) = requests.map (·.1) :=
        List.map_map.symm.trans
          (congrArg (List.map Prod.fst) (List.map_fst_zip (Nat.le_of_eq hlen.symm)))
      exact hasItem_addItems hs (hkeys ▸ hd) hzip (by rw [hout]; exact hi)

end SubscriptionManager

namespace Client

open SubscriptionManager

variable {c : Client} {k : SubscriptionKey} {h : ClientHandle} {i : ItemKey}

/-! ## Calls that add items -/

/-- In the action `b` a call ends that has added the item `i` with the handle `h` to the
subscription `k`. The call is not for so many items that their handles come round again. -/
structure Adds (c : Client) (b : Action) (k : SubscriptionKey) (h : ClientHandle) (i : ItemKey) :
    Prop where
  returns : ∃ id job requests phase outcomes, b = .run (.call id) ∧
    c.calls.lookup id = some ⟨job, .operating (.createItems k requests) phase⟩ ∧
    (c.act b).1.finished = (id, .operated (.ok (.items outcomes))) :: c.finished ∧
    requests.length < UInt32.size ∧
    ∃ (n : Nat) (r : MonitoredItemRequest), requests[n]? = some (h, r) ∧ outcomes[n]? = some (.ok i)

/-- An item that is returned is there. -/
theorem Ready.hasItem_of_adds {sub : Subscription} {b : Action} (hc : c.Ready)
    (hd : c.DistinctHandles) (hsub : c.managed.subscription? k = some sub)
    (hb : c.Adds b k h i) :
    (c.act b).1.managed.HasItem k h i := by
  obtain ⟨id, job, requests, phase, outcomes, rfl, hl, hf, hlt, n, r, hr, hi⟩ := hb.returns
  rw [act_of_operating hl] at hf ⊢
  rcases advanceOperation_cases hc.manager id (.createItems k requests) phase with
    ⟨phase', posted, -, e⟩ | ⟨outcome, -, clock, e⟩
  · rw [e] at hf
    exact absurd (congrArg List.length hf) (by simp [setCall])
  · rw [e] at hf ⊢
    injection hf with hf
    injection hf with _ hf
    injection hf with hf
    exact hasItem_finish hsub ((hd id).holds hl hlt) hr hi hf

/-! ## Items that stay -/

/-- Whether an operation takes effect in the action that takes the handle `h` from the subscription
`k`. -/
def frees (k : SubscriptionKey) (h : ClientHandle) (a : Action) (c : Client) : Bool :=
  match a with
  | .run (.call id) =>
    match c.calls.lookup id with
    | some ⟨_, .operating op phase⟩ =>
      match (c.service.advance (c.operationCall op c.managed) phase).2 with
      | .done (.ok _) => op.frees k h c.managed
      | _ => false
    | _ => false
  | _ => false

/-- No operation of the run takes the handle `h` from the subscription `k`. -/
def keepsHandle (k : SubscriptionKey) (h : ClientHandle) : List Action → Client → Bool
  | [], _ => true
  | a :: as, c => !c.frees k h a && keepsHandle k h as (c.act a).1

/-- What is no operation keeps the item. -/
theorem coversCommon_hasItem :
    CoversCommon fun m m' => m.HasItem k h i → m'.HasItem k h i where
  refl _ hm := hm
  begins op clock m hm := by
    unfold SubscriptionManager.begin
    repeat' split
    all_goals exact hm.of_eq rfl rfl
  stops _ hm := hm.shutDown
  abandons m hm := by
    unfold SubscriptionManager.abandon
    dsimp only
    split
    · exact hm.shutDown
    · exact hm.shutDown.of_eq rfl rfl
  listens _ _ hm := hm.of_eq rfl rfl
  attaches j callbacks m hm := by
    obtain ⟨s, item, hsub, hfind, hitem⟩ := hm
    exact ⟨s, _, hsub, hfind,
      (List.getElem?_modify ..).trans (congrArg (Option.map _) hitem)⟩

/-- An operation that is answered keeps the item if it does not take its handle. -/
theorem Ready.hasItem_advanceOperation (hc : c.Ready) (hi : c.managed.HasItem k h i)
    {id : CallId} {job : Job} {op : PendingOperation} {phase : CallPhase}
    (hl : c.calls.lookup id = some ⟨job, .operating op phase⟩)
    (hf : c.frees k h (.run (.call id)) = false) :
    (c.advanceOperation id op phase).1.managed.HasItem k h i := by
  rcases advanceOperation_cases hc.manager id op phase with
    ⟨phase', posted, -, e⟩ | ⟨outcome, hdone, clock, e⟩
  · have hkeep {c' : Client} (hm : c'.manager = c.manager) : c'.managed.HasItem k h i := by
      rwa [managed_of_eq (hm.trans hc.manager)]
    rw [e]
    exact hkeep rfl
  · rw [e]
    cases outcome with
    | error e => exact hi
    | ok answer =>
      unfold frees at hf
      dsimp only at hf
      rw [hl] at hf
      dsimp only at hf
      rw [hdone] at hf
      exact hi.applied hf (applies_apply clock op answer _)

/-- An item stays in an action that does not take its handle. -/
theorem Ready.hasItem_act (hc : c.Ready) {a : Action} (hi : c.managed.HasItem k h i)
    (hf : c.frees k h a = false) : (c.act a).1.managed.HasItem k h i := by
  by_cases ho : ∃ id job op phase, a = .run (.call id) ∧
      c.calls.lookup id = some ⟨job, .operating op phase⟩
  · obtain ⟨id, job, op, phase, rfl, hl⟩ := ho
    rw [act_of_operating hl]
    exact hc.hasItem_advanceOperation hi hl hf
  · suffices h : ∃ m', (c.act a).1.manager = some m' ∧ m'.HasItem k h i by
      obtain ⟨m', hm', hi'⟩ := h
      rwa [managed_of_eq hm']
    by_cases hn : ∃ id answerFirst, a = .run (.attempt id answerFirst)
    · obtain ⟨id, answerFirst, rfl⟩ := hn
      obtain ⟨m', hm', ht⟩ := (turns_pollAttempt id answerFirst c).manager _ hc.manager
      exact ⟨m', hm', hi.of_eq ht.subscriptions ht.items⟩
    · by_cases hs : a.Sequences
      · obtain ⟨_, _, _, _, _, _, _, hm'⟩ := manager_of_sequences hc.manager hs
        exact ⟨_, hm', hi.of_eq rfl rfl⟩
      · obtain ⟨-, hm⟩ := act_moves_common coversCommon_hasItem hc.settled hs
          (fun id first e => hn ⟨id, first, e⟩) (fun _ _ hm => hm.deliverTurn)
          fun e hl => absurd ⟨_, _, _, _, e, hl⟩ ho
        obtain ⟨m', hm', hi'⟩ := hm _ hc.manager
        exact ⟨m', hm', hi' hi⟩

/-- An item stays as long as no operation takes its handle. -/
theorem Ready.hasItem_after (hc : c.Ready) {as : List Action} (hi : c.managed.HasItem k h i)
    (hk : c.keepsHandle k h as = true) : (c.after as).managed.HasItem k h i := by
  induction as generalizing c with
  | nil => exact hi
  | cons a as ih =>
    obtain ⟨hf, hk⟩ := Bool.and_eq_true_iff.1 hk
    exact ih (hc.act a) (hc.hasItem_act hi (Bool.not_eq_true' _ ▸ hf)) hk

end Client

end OpcUa
