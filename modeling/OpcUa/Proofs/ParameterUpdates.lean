import OpcUa.Proofs.CallCourse
import OpcUa.Proofs.DeliveryCourse

/-!
# The parameters of a subscription

The parameters are changed by the calls that modify the subscription or set its publishing mode,
each when its task takes the answer. Several such calls may be under way at once, and the answers
may be taken in any order. The server makes its changes in the order of the requests.

* `Adjustment`: what an answer changes; `SubscriptionParameters.adjustAll`: many of them, in order.
* `SubscriptionManager.Retains`: nothing else changes the parameters.
* `Client.adjustments`, `Client.asked`: the answers that are taken in a run, and the requests.
* `Client.heldBy`: what the server holds after the requests of a run.
* `Client.parameters_as_held`: the parameters are those that the server holds if the last answer of
  each kind is that to the last request.
* `Client.parameters_differ`: otherwise they may differ.
-/

namespace OpcUa

/-! ## Adjustments -/

/-- The two sets of parameters that are changed apart from each other. -/
inductive ParameterKind where
  | limits
  | publishing
  deriving DecidableEq

/-- What an answer changes of the parameters. -/
inductive Adjustment where
  /-- The revised values, and the requested ones that the server does not revise. -/
  | revised (values : RevisedSubscription) (maxNotifications : UInt32) (priority : UInt8)
  | publishing (enabled : Bool)

def Adjustment.kind : Adjustment → ParameterKind
  | revised .. => .limits
  | publishing _ => .publishing

deriving instance DecidableEq for SubscriptionParameters

namespace SubscriptionParameters

def adjust (p : SubscriptionParameters) : Adjustment → SubscriptionParameters
  | .revised values maxNotifications priority => { p.revise values with maxNotifications, priority }
  | .publishing enabled => { p with publishingEnabled := enabled }

/-- The parameters after some adjustments, the first one first. -/
def adjustAll (p : SubscriptionParameters) (l : List Adjustment) : SubscriptionParameters :=
  l.foldl adjust p

end SubscriptionParameters

/-- The last adjustment of a kind. -/
def lastAdjustment? (κ : ParameterKind) (l : List Adjustment) : Option Adjustment :=
  (l.filter fun a => a.kind = κ).getLast?

theorem lastAdjustment?_snoc (κ : ParameterKind) (l : List Adjustment) (a : Adjustment) :
    lastAdjustment? κ (l ++ [a]) = if a.kind = κ then some a else lastAdjustment? κ l := by
  unfold lastAdjustment?
  rw [List.filter_append, List.filter_singleton]
  split <;> simp_all

namespace SubscriptionParameters

variable {p : SubscriptionParameters} {l l' : List Adjustment}

theorem adjustAll_append (p : SubscriptionParameters) (l l' : List Adjustment) :
    p.adjustAll (l ++ l') = (p.adjustAll l).adjustAll l' :=
  List.foldl_append

theorem adjustAll_snoc (p : SubscriptionParameters) (l : List Adjustment) (a : Adjustment) :
    p.adjustAll (l ++ [a]) = (p.adjustAll l).adjust a :=
  adjustAll_append p l [a]

/-- Adjustments of different kinds do not get in each other's way. -/
theorem adjust_comm {a b : Adjustment} (h : a.kind ≠ b.kind) (p : SubscriptionParameters) :
    (p.adjust a).adjust b = (p.adjust b).adjust a := by
  cases a <;> cases b <;> first | exact absurd rfl h | rfl

/-- An adjustment undoes the one of its kind before it. -/
theorem adjust_adjust {a b : Adjustment} (h : a.kind = b.kind) (p : SubscriptionParameters) :
    (p.adjust a).adjust b = p.adjust b := by
  cases a <;> cases b <;> first | rfl | cases h

theorem kind_of_lastAdjustment? {κ : ParameterKind} {a : Adjustment}
    (h : lastAdjustment? κ l = some a) : a.kind = κ := by
  simpa using (List.mem_filter.1 (List.mem_of_getLast? h)).2

/-- Of each kind the last adjustment is the one that counts. -/
theorem adjustAll_eq (p : SubscriptionParameters) (l : List Adjustment) :
    p.adjustAll l = p.adjustAll
      ((lastAdjustment? .limits l).toList ++ (lastAdjustment? .publishing l).toList) := by
  induction l using List.reverseRecOn with
  | nil => rfl
  | append_singleton l a ih =>
    have hu {u : Adjustment} (h : lastAdjustment? .limits l = some u) : u.kind = .limits :=
      kind_of_lastAdjustment? h
    have hv {v : Adjustment} (h : lastAdjustment? .publishing l = some v) : v.kind = .publishing :=
      kind_of_lastAdjustment? h
    rw [adjustAll_snoc, ih, lastAdjustment?_snoc, lastAdjustment?_snoc]
    generalize lastAdjustment? .limits l = u at hu
    generalize lastAdjustment? .publishing l = v at hv
    cases ha : a.kind with
    | limits =>
      rw [if_pos rfl, if_neg nofun]
      have hstart : (p.adjustAll u.toList).adjust a = p.adjust a := by
        cases u with
        | none => rfl
        | some u => exact adjust_adjust ((hu rfl).trans ha.symm) p
      cases v with
      | none => rw [Option.toList_none, List.append_nil, List.append_nil, hstart]; rfl
      | some v =>
        have hne : v.kind ≠ a.kind := by rw [hv rfl, ha]; nofun
        rw [Option.toList_some, adjustAll_snoc, adjust_comm hne, hstart, adjustAll_snoc]
        rfl
    | publishing =>
      rw [if_neg nofun, if_pos rfl, Option.toList_some, adjustAll_snoc]
      cases v with
      | none => rw [Option.toList_none, List.append_nil]
      | some v => rw [Option.toList_some, adjustAll_snoc, adjust_adjust ((hv rfl).trans ha.symm)]

theorem adjustAll_congr (h : ∀ κ, lastAdjustment? κ l = lastAdjustment? κ l') :
    p.adjustAll l = p.adjustAll l' := by
  rw [adjustAll_eq p l, adjustAll_eq p l', h, h]

end SubscriptionParameters

/-! ## The last call of a kind -/

/-- The call that comes last of those that concern parameters of a kind. -/
def lastCall? (κ : ParameterKind) (l : List (CallId × ParameterKind)) : Option CallId :=
  ((l.filter fun r => r.2 = κ).getLast?).map (·.1)

theorem lastCall?_snoc (κ : ParameterKind) (l : List (CallId × ParameterKind))
    (r : CallId × ParameterKind) :
    lastCall? κ (l ++ [r]) = if r.2 = κ then some r.1 else lastCall? κ l := by
  unfold lastCall?
  rw [List.filter_append, List.filter_singleton]
  split <;> simp_all

theorem lookup_of_mem {α : Type} {l : List (CallId × α)} {id : CallId} {a : α}
    (h : (l.map (·.1)).Nodup) (hm : (id, a) ∈ l) : l.lookup id = some a := by
  induction l with
  | nil => cases hm
  | cons p l ih =>
    obtain ⟨hp, hl⟩ := List.nodup_cons.1 h
    rcases List.mem_cons.1 hm with rfl | hm
    · exact List.lookup_cons_self
    · have hne : id ≠ p.1 := by
        rintro rfl
        exact hp (List.mem_map.2 ⟨_, hm, rfl⟩)
      rw [List.lookup_cons, beq_false_of_ne hne]
      exact ih hl hm

/-- If calls make adjustments of the kinds that they are for, then the last adjustment of a kind is
that of the last call. -/
theorem lastAdjustment?_calls {l : List (CallId × Adjustment)} (κ : ParameterKind)
    {calls : List (CallId × ParameterKind)}
    (h : ∀ r ∈ calls, ∃ a, l.lookup r.1 = some a ∧ a.kind = r.2) :
    lastAdjustment? κ (calls.filterMap fun r => l.lookup r.1) =
      (lastCall? κ calls).bind fun id => l.lookup id := by
  induction calls using List.reverseRecOn with
  | nil => rfl
  | append_singleton calls r ih =>
    obtain ⟨a, ha, hκ⟩ := h r (List.mem_append_right _ (List.mem_singleton_self r))
    have hstep : (calls ++ [r]).filterMap (fun r => l.lookup r.1) =
        calls.filterMap (fun r => l.lookup r.1) ++ [a] := by
      rw [List.filterMap_append, List.filterMap_cons, ha]
      rfl
    rw [hstep, lastAdjustment?_snoc, lastCall?_snoc, hκ,
      ih fun r hr => h r (List.mem_append_left _ hr)]
    split
    · exact ha.symm
    · rfl

/-! ## What changes the parameters -/

/-- What an answer to the operation changes of the parameters of the subscription `k`. -/
def PendingOperation.adjustment? (k : SubscriptionKey) :
    (op : PendingOperation) → op.service.Answer → Option Adjustment
  | .modify k' p, values =>
    if k' = k then some (.revised values p.maxNotifications p.priority) else none
  | .setPublishing k' enabled, results =>
    if k' = k ∧ (SubscriptionManager.onlyStatus results).isBad = false then
      some (.publishing enabled)
    else none
  | .create .., _ | .delete _, _ | .createItems .., _ | .deleteItems .., _ => none

namespace SubscriptionManager

variable {m m' m'' : SubscriptionManager} {k : SubscriptionKey} {p : SubscriptionParameters}

def parameters? (k : SubscriptionKey) (m : SubscriptionManager) : Option SubscriptionParameters :=
  (m.subscription? k).map (·.parameters)

/-- From `m` to `m'` every subscription keeps its id and its parameters. -/
def Retains (m m' : SubscriptionManager) : Prop :=
  ∀ k s, m.subscription? k = some s →
    ∃ s', m'.subscription? k = some s' ∧ s'.id = s.id ∧ s'.parameters = s.parameters

theorem Retains.of_eq (h : m'.subscriptions = m.subscriptions) : m.Retains m' := fun k s hs =>
  ⟨s, by rw [subscription?, h]; exact hs, rfl, rfl⟩

theorem Retains.refl (m : SubscriptionManager) : m.Retains m := .of_eq rfl

theorem Retains.trans (h : m.Retains m') (h' : m'.Retains m'') : m.Retains m'' := by
  intro k s hs
  obtain ⟨s', hs', hid, hp⟩ := h k s hs
  obtain ⟨s'', hs'', hid', hp'⟩ := h' k s' hs'
  exact ⟨s'', hs'', hid'.trans hid, hp'.trans hp⟩

theorem Retains.parameters? (h : m.Retains m') (hp : m.parameters? k = some p) :
    m'.parameters? k = some p := by
  obtain ⟨s, hs, rfl⟩ := Option.map_eq_some_iff.1 hp
  obtain ⟨s', hs', -, hp'⟩ := h k s hs
  exact Option.map_eq_some_iff.2 ⟨s', hs', hp'⟩

theorem retains_modifySubscription (k : SubscriptionKey) {f : Subscription → Subscription}
    (hf : ∀ s, (f s).id = s.id ∧ (f s).parameters = s.parameters) (m : SubscriptionManager) :
    m.Retains (m.modifySubscription k f) := by
  intro k' s hs
  rw [subscription?_modify, hs]
  refine ⟨_, rfl, ?_⟩
  split
  · exact hf s
  · exact ⟨rfl, rfl⟩

theorem subscriptions_fillPipeline (m : SubscriptionManager) :
    m.fillPipeline.subscriptions = m.subscriptions := by
  obtain ⟨new, hf, -⟩ := fills_fillPipeline m
  exact hf.subscriptions

/-! ### Workers -/

theorem subscriptions_deliverTo (i : ItemKey) (f : MonitoredItem → Delivered)
    (m : SubscriptionManager) : (m.deliverTo i f).1.subscriptions = m.subscriptions := by
  unfold deliverTo
  split <;> rfl

theorem subscriptions_of_deliverParts {s : Subscription} {parts : List NotificationPart} {b : Bool}
    (h : m.deliverParts s parts = (m', b)) : m'.subscriptions = m.subscriptions := by
  have hsubs := (hands_deliverParts s parts m).subscriptions
  rwa [h] at hsubs

/-- A message that is dispatched is counted. -/
theorem retains_dispatch (id : SubscriptionId) (message : NotificationMessage)
    (m : SubscriptionManager) : m.Retains (m.dispatch id message) := by
  unfold dispatch
  split
  · exact .refl m
  · rename_i k _
    split
    · exact .refl m
    · split
      · exact retains_modifySubscription k
          (f := fun s => { s with keepAlives := s.keepAlives + 1 }) (fun s => ⟨rfl, rfl⟩) m
      · have hcount : m.Retains { m.modifySubscription k fun s =>
            { s with notificationMessages := s.notificationMessages + 1 } with
          stats := m.stats.recordNotificationMessage } :=
          retains_modifySubscription k
            (f := fun s => { s with notificationMessages := s.notificationMessages + 1 })
            (fun s => ⟨rfl, rfl⟩) m
        dsimp only
        split
        · rename_i e
          exact (hcount.trans (.of_eq (subscriptions_of_deliverParts e))).trans (.of_eq rfl)
        · rename_i e
          exact hcount.trans (.of_eq (subscriptions_of_deliverParts e))

theorem retains_deliver (d : Delivery) (m : SubscriptionManager) : m.Retains (m.deliver d) := by
  cases d with
  | value i v => exact .of_eq (subscriptions_deliverTo ..)
  | message id message => exact retains_dispatch id message m

theorem retains_deliverTurn (m : SubscriptionManager) : m.Retains m.deliverTurn.1 := by
  unfold deliverTurn
  split
  · rename_i d yields q e
    exact retains_deliver d { m with delivery := q }
  all_goals exact .refl m

/-- A turn of the processing worker leaves the subscriptions and the items alone. -/
theorem processTurn_eq (m : SubscriptionManager) :
    ∃ stats cursors acknowledgements processing delivery recoveries nextWork, m.processTurn.1 =
      { m with stats, cursors, acknowledgements, processing, delivery, recoveries, nextWork } := by
  unfold processTurn
  split
  · rename_i a yields q e
    dsimp only
    unfold process
    split
    · split
      · exact ⟨_, _, _, _, _, _, _, accept_eq a { m with processing := q }⟩
      · exact ⟨_, _, _, _, _, _, _, rfl⟩
    · exact ⟨_, _, _, _, _, _, _, rfl⟩
  all_goals exact ⟨_, _, _, _, _, _, _, rfl⟩

theorem retains_processTurn (m : SubscriptionManager) : m.Retains m.processTurn.1 := by
  obtain ⟨_, _, _, _, _, _, _, h⟩ := processTurn_eq m
  exact .of_eq (by rw [h])

theorem retains_shutDown (m : SubscriptionManager) : m.Retains m.shutDown := by
  unfold shutDown
  split <;> exact .refl m

theorem retains_abandon (m : SubscriptionManager) : m.Retains m.abandon := by
  have h := retains_shutDown m
  unfold abandon
  dsimp only
  split <;> exact h

theorem subscriptions_completeAttempt (id : WorkId) (a : Attempt)
    (outcome : Except Error PublishAnswer) (clock : Nat) (m : SubscriptionManager) :
    (m.completeAttempt id a outcome clock).subscriptions = m.subscriptions := by
  unfold completeAttempt
  dsimp only
  repeat' split
  all_goals first | exact subscriptions_fillPipeline _ | rfl

theorem AttemptTurn.subscriptions {id : WorkId} (h : m.AttemptTurn id m') :
    m'.subscriptions = m.subscriptions := by
  cases h with
  | rests | starts | waits => rfl
  | fails | ends => exact subscriptions_completeAttempt ..
  | resumes => exact subscriptions_fillPipeline _

theorem AttemptTurn.retains {id : WorkId} (h : m.AttemptTurn id m') : m.Retains m' :=
  .of_eq h.subscriptions

/-! ### Operations -/

theorem retains_begin (op : Operation) (clock : Nat) (m : SubscriptionManager) :
    m.Retains (m.begin op clock).1 := by
  unfold SubscriptionManager.begin
  repeat' split
  all_goals exact .refl m

theorem retains_addItem (k : SubscriptionKey) (handle : ClientHandle)
    (request : MonitoredItemRequest) (result : MonitoredItemResult) (m : SubscriptionManager) :
    m.Retains (m.addItem k handle request result).1 := by
  unfold addItem
  split
  · exact .refl m
  · refine Retains.trans (.of_eq rfl)
      (retains_modifySubscription k (fun s => ?_) { m with items := _ })
    exact ⟨rfl, rfl⟩

theorem retains_addItems (k : SubscriptionKey)
    (l : List ((ClientHandle × MonitoredItemRequest) × MonitoredItemResult))
    (m : SubscriptionManager) : m.Retains (m.addItems k l).1 := by
  induction l generalizing m with
  | nil => exact .refl m
  | cons x rest ih => exact (retains_addItem k x.1.1 x.1.2 x.2 m).trans (ih _)

theorem retains_removeItems (k : SubscriptionKey) (results : List (ItemKey × StatusCode))
    (m : SubscriptionManager) : m.Retains (m.removeItems k results) := by
  unfold removeItems
  induction results generalizing m with
  | nil => exact .refl m
  | cons x rest ih =>
    have h : m.Retains (m.removeItem k x.1 x.2) := by
      unfold removeItem
      split
      · split
        · refine retains_modifySubscription k (fun s => ?_) m
          exact ⟨rfl, rfl⟩
        · exact .refl m
      · exact .refl m
    exact h.trans (ih _)

theorem parameters?_modify {k' : SubscriptionKey} {f : Subscription → Subscription}
    {a : Adjustment} (hf : ∀ s, (f s).parameters = s.parameters.adjust a)
    (hp : m.parameters? k = some p) :
    (m.modifySubscription k' f).parameters? k =
      some (p.adjustAll (if k' = k then some a else none).toList) := by
  obtain ⟨s, hs, rfl⟩ := Option.map_eq_some_iff.1 hp
  rw [SubscriptionManager.parameters?, subscription?_modify, hs, Option.map_some, Option.map_some]
  split
  · exact congrArg some (hf s)
  · rfl

/-- An answer makes its adjustment, and no other. -/
theorem parameters?_apply (clock : Nat) (op : PendingOperation) (answer : op.service.Answer)
    (hp : m.parameters? k = some p) :
    (m.apply clock op answer).1.parameters? k =
      some (p.adjustAll (op.adjustment? k answer).toList) := by
  have hkeep {m' : SubscriptionManager} (h : m.Retains m') : m'.parameters? k = some p :=
    h.parameters? hp
  have hfill {m' : SubscriptionManager} {q : SubscriptionParameters}
      (h : m'.parameters? k = some q) : m'.fillPipeline.parameters? k = some q :=
    Retains.parameters? (.of_eq (subscriptions_fillPipeline m')) h
  cases op with
  | create q since =>
    refine hfill (hkeep fun k s hs => ⟨s, ?_, rfl, rfl⟩)
    exact (List.getElem?_append_left (List.getElem?_eq_some_iff.1 hs).1).trans hs
  | modify k' q => exact hfill (parameters?_modify (fun s => rfl) hp)
  | delete k' =>
    unfold apply
    dsimp only
    split
    · exact hp
    · exact hfill hp
  | setPublishing k' enabled =>
    unfold apply PendingOperation.adjustment?
    dsimp only
    split
    · rename_i hbad
      rw [hbad, if_neg (by simp)]
      exact hp
    · rename_i hgood
      rw [parameters?_modify (a := .publishing enabled) (fun s => rfl) hp]
      simp [hgood]
  | createItems k' requests =>
    unfold apply
    dsimp only
    split
    · exact hp
    · exact hkeep (retains_addItems k' _ m)
  | deleteItems k' items => exact hkeep (retains_removeItems k' _ m)

end SubscriptionManager

/-! ## The answers and the requests of a run -/

/-- The parameters that the operation on the subscription `k` is to change. -/
def PendingOperation.adjusts? (k : SubscriptionKey) : PendingOperation → Option ParameterKind
  | modify k' _ => if k' = k then some .limits else none
  | setPublishing k' _ => if k' = k then some .publishing else none
  | create .. | delete _ | createItems .. | deleteItems .. => none

theorem PendingOperation.kind_of_adjustment? {k : SubscriptionKey} {op : PendingOperation}
    {answer : op.service.Answer} {a : Adjustment} (h : op.adjustment? k answer = some a) :
    op.adjusts? k = some a.kind := by
  cases op with
  | modify k' p =>
    simp only [adjustment?, Option.ite_none_right_eq_some, Option.some.injEq] at h
    obtain ⟨hk, rfl⟩ := h
    exact if_pos hk
  | setPublishing k' enabled =>
    simp only [adjustment?, Option.ite_none_right_eq_some, Option.some.injEq] at h
    obtain ⟨⟨hk, -⟩, rfl⟩ := h
    exact if_pos hk
  | create | delete | createItems | deleteItems => cases h

namespace SubscriptionManager

/-- An operation that is to change the parameters and succeeds has changed them. -/
theorem adjustment?_of_apply_ok {m : SubscriptionManager} {k : SubscriptionKey} {clock : Nat}
    {op : PendingOperation} {answer : op.service.Answer} {κ : ParameterKind}
    {result : OperationResult} (hop : op.adjusts? k = some κ)
    (h : (m.apply clock op answer).2 = .ok result) : ∃ a, op.adjustment? k answer = some a := by
  cases op with
  | modify k' p =>
    simp only [PendingOperation.adjusts?, Option.ite_none_right_eq_some] at hop
    exact ⟨_, if_pos hop.1⟩
  | setPublishing k' enabled =>
    simp only [PendingOperation.adjusts?, Option.ite_none_right_eq_some] at hop
    unfold apply at h
    dsimp only at h
    split at h
    · cases h
    · rename_i hgood
      exact ⟨_, if_pos ⟨hop.1, Bool.eq_false_iff.2 hgood⟩⟩
  | create | delete | createItems | deleteItems => cases hop

end SubscriptionManager

/-- Whether an operation has ended well. -/
def CallResult.isGood : CallResult → Bool
  | operated (.ok _) => true
  | _ => false

namespace Client

open SubscriptionManager

variable {c : Client} {k : SubscriptionKey} {p : SubscriptionParameters} {id : CallId}
  {h : Happening} {hs : List Happening}

/-! ## The answers and the requests of a run -/

/-- The operation that a call has begun. -/
def operation? (id : CallId) (c : Client) : Option PendingOperation :=
  match c.calls.lookup id with
  | some ⟨_, .operating op _⟩ => some op
  | _ => none

/-- A call takes a good answer, and adjusts the parameters of the subscription `k`. -/
def adjusted? (k : SubscriptionKey) (h : Happening) (c : Client) : Option (CallId × Adjustment) :=
  match h with
  | .act (.run (.call id)) =>
    match c.calls.lookup id with
    | some ⟨_, .operating op phase⟩ =>
      match (c.service.advance (c.operationCall op c.managed) phase).2 with
      | .done (.ok answer) => (op.adjustment? k answer).map (id, ·)
      | _ => none
    | _ => none
  | _ => none

/-- A call sends its request, which is for the parameters of the subscription `k`. -/
def asked? (k : SubscriptionKey) (h : Happening) (c : Client) : Option (CallId × ParameterKind) :=
  match h with
  | .act (.run (.call id)) =>
    if (c.pollCall id).2.isSome then
      ((c.pollCall id).1.operation? id).bind fun op => (op.adjusts? k).map (id, ·)
    else none
  | _ => none

/-- The calls that have adjusted the parameters in a run, in the order in which they have taken the
answers. -/
def adjustments (k : SubscriptionKey) : List Happening → Client → List (CallId × Adjustment)
  | [], _ => []
  | h :: hs, c => (c.adjusted? k h).toList ++ adjustments k hs (c.undergo h)

/-- The calls that have sent a request for the parameters in a run, in the order of the requests. -/
def asked (k : SubscriptionKey) : List Happening → Client → List (CallId × ParameterKind)
  | [], _ => []
  | h :: hs, c => (c.asked? k h).toList ++ asked k hs (c.undergo h)

theorem adjustments_snoc (k : SubscriptionKey) (hs : List Happening) (h : Happening) (c : Client) :
    c.adjustments k (hs ++ [h]) = c.adjustments k hs ++ ((c.later hs).adjusted? k h).toList := by
  induction hs generalizing c with
  | nil => exact List.append_nil _
  | cons h' hs ih => rw [List.cons_append, adjustments, ih, adjustments, List.append_assoc]; rfl

theorem asked_snoc (k : SubscriptionKey) (hs : List Happening) (h : Happening) (c : Client) :
    c.asked k (hs ++ [h]) = c.asked k hs ++ ((c.later hs).asked? k h).toList := by
  induction hs generalizing c with
  | nil => exact List.append_nil _
  | cons h' hs ih => rw [List.cons_append, asked, ih, asked, List.append_assoc]; rfl

/-- A call of an operation has returned a good result. -/
def Succeeded (id : CallId) (c : Client) : Prop :=
  ∃ result ∈ c.finished.lookup id, result.isGood = true

instance (id : CallId) (c : Client) : Decidable (c.Succeeded id) :=
  inferInstanceAs (Decidable (∃ result ∈ c.finished.lookup id, result.isGood = true))

/-! ## What happens to the parameters -/

theorem coversCommon_retains : CoversCommon Retains where
  refl := .refl
  begins := retains_begin
  stops := retains_shutDown
  abandons := retains_abandon
  listens _ m := .refl m
  attaches _ _ m := .refl m

/-- The processing worker and the recoveries leave the subscriptions and the items alone. -/
theorem manager_of_sequences {m : SubscriptionManager} (hm : c.manager = some m) {a : Action}
    (ha : a.Sequences) :
    ∃ stats cursors acknowledgements processing delivery recoveries nextWork,
      (c.act a).1.manager = some { m with
        stats, cursors, acknowledgements, processing, delivery, recoveries, nextWork } := by
  cases a with
  | run t =>
    cases t with
    | processing =>
      obtain ⟨_, _, _, _, _, _, _, h⟩ := processTurn_eq m
      exact ⟨_, _, _, _, _, _, _, (manager_withManager hm _).trans (congrArg some h)⟩
    | recovery id =>
      cases hr : m.recovery? id with
      | none =>
        have hnone : (c.act (.run (.recovery id))).1 = c := by
          show (c.pollRecovery id).1 = c
          unfold pollRecovery
          rw [hm]
          dsimp only
          rw [hr]
        exact ⟨_, _, _, _, _, _, _, (congrArg Client.manager hnone).trans hm⟩
      | some r =>
        obtain ⟨stats, hlog⟩ := foldl_perform_eq r.subscription (c.recoveryLog id) m
        rcases (recounts_pollRecovery hm hr).course with ⟨stage, -, hm'⟩ | ⟨-, hm'⟩
        · rw [hlog] at hm'
          exact ⟨_, _, _, _, _, _, _, hm'⟩
        · rw [endRecovery_eq, hlog] at hm'
          exact ⟨_, _, _, _, _, _, _, hm'⟩
    | driver | delivery | session | call | attempt => exact ha.elim
  | call | reclaim | release | reply | elapse | inject | invalidate | takeHandle | shutDown
  | listen | attach => exact ha.elim

theorem retains_pollRecovery (id : WorkId) (c : Client) :
    c.Moves Retains (c.pollRecovery id).1 := by
  refine moves_pollRecovery .refl fun hm _ => ?_
  obtain ⟨_, _, _, _, _, _, _, hm'⟩ :=
    manager_of_sequences hm (show Action.Sequences (.run (.recovery id)) from trivial)
  exact ⟨_, hm', .of_eq rfl⟩

/-- A call that is no operation of the manager, or one that has not been answered, retains the
subscriptions, and so does everything else. -/
theorem retains_undergo (hc : c.Settled) {m : SubscriptionManager} (hm : c.manager = some m)
    (ho : ∀ id job op phase, h = .act (.run (.call id)) →
      c.calls.lookup id ≠ some ⟨job, .operating op phase⟩) :
    ∃ m', (c.undergo h).manager = some m' ∧ m.Retains m' :=
  (moves_undergo coversCommon_retains AttemptTurn.retains retains_deliverTurn
    retains_processTurn (retains_pollRecovery · c) hc
    fun e hl => absurd hl (ho _ _ _ _ e)).2 m hm

theorem act_of_operating {job : Job} {op : PendingOperation} {phase : CallPhase}
    (hl : c.calls.lookup id = some ⟨job, .operating op phase⟩) :
    (c.act (.run (.call id))).1 = (c.advanceOperation id op phase).1 :=
  congrArg Prod.fst (pollCall_of_operating hl)

/-- An operation that goes on waits once more, or ends with the answer that it takes. -/
theorem advanceOperation_cases (hm : c.manager = some c.managed) (id : CallId)
    (op : PendingOperation) (phase : CallPhase) :
    let taken := c.service.advance (c.operationCall op c.managed) phase
    (∃ phase' posted, taken.2 = .pending phase' posted ∧ c.advanceOperation id op phase =
      (({ c with service := taken.1 } : Client).setCall id (.operating op phase'), posted)) ∨
    ∃ outcome, taken.2 = .done outcome ∧ ∃ clock, c.advanceOperation id op phase =
      (({ c with
          service := taken.1
          manager := some (c.managed.finish clock op outcome).1 } : Client).finish id
        (.operated (c.managed.finish clock op outcome).2), none) := by
  dsimp only
  unfold advanceOperation
  rw [hm]
  dsimp only
  split
  · rename_i phase' posted e
    exact .inl ⟨phase', posted, e, rfl⟩
  · rename_i outcome e
    exact .inr ⟨outcome, e, _, rfl⟩

theorem adjusted?_of_operating {job : Job} {op : PendingOperation} {phase : CallPhase}
    (hl : c.calls.lookup id = some ⟨job, .operating op phase⟩) :
    c.adjusted? k (.act (.run (.call id))) =
      match (c.service.advance (c.operationCall op c.managed) phase).2 with
      | .done (.ok answer) => (op.adjustment? k answer).map (id, ·)
      | _ => none := by
  unfold adjusted?
  dsimp only
  rw [hl]

/-- What happens changes the parameters by what an answer says. -/
theorem parameters?_undergo (hc : c.Settled) (hm : c.manager = some c.managed)
    (hp : c.managed.parameters? k = some p) (h : Happening) :
    (c.undergo h).managed.parameters? k =
      some (p.adjustAll ((c.adjusted? k h).map (·.2)).toList) := by
  by_cases ho : ∃ id job op phase, h = .act (.run (.call id)) ∧
      c.calls.lookup id = some ⟨job, .operating op phase⟩
  · obtain ⟨id, job, op, phase, rfl, hl⟩ := ho
    have hact : c.undergo (.act (.run (.call id))) = (c.advanceOperation id op phase).1 :=
      act_of_operating hl
    have hkeep {c' : Client} (h : c'.manager = c.manager) : c'.managed.parameters? k = some p := by
      rwa [managed_of_eq (h.trans hm)]
    rw [adjusted?_of_operating hl]
    rcases advanceOperation_cases hm id op phase with
      ⟨phase', posted, e, hr⟩ | ⟨outcome, e, clock, hr⟩
    · rw [hact, e, hr]
      exact hkeep rfl
    · rw [hact, e, hr]
      cases outcome with
      | error e => exact hp
      | ok answer =>
        dsimp only
        rw [Option.map_map, Function.comp_def, Option.map_id']
        exact parameters?_apply clock op answer hp
  · obtain ⟨m', hm', hr⟩ := retains_undergo hc hm fun id job op phase e hl =>
      ho ⟨id, job, op, phase, e, hl⟩
    have hnone : c.adjusted? k h = none := by
      unfold adjusted?
      split
      · split
        · rename_i hl
          exact absurd ⟨_, _, _, _, rfl, hl⟩ ho
        · rfl
      · rfl
    rw [hnone, managed_of_eq hm']
    exact hr.parameters? hp

/-! ## What happens to a call -/

theorem operation?_eq_some {op : PendingOperation} (h : c.operation? id = some op) :
    ∃ job phase, c.calls.lookup id = some ⟨job, .operating op phase⟩ := by
  unfold operation? at h
  split at h
  · rename_i job op' phase e
    cases h
    exact ⟨job, phase, e⟩
  · cases h

/-- Who sends a request for the parameters waits for its answer. -/
theorem asked?_eq_some {κ : ParameterKind} (h' : c.asked? k h = some (id, κ)) :
    h = .act (.run (.call id)) ∧ ∃ job op phase,
      (c.undergo h).calls.lookup id = some ⟨job, .operating op phase⟩ ∧ op.adjusts? k = some κ := by
  unfold asked? at h'
  split at h'
  · split at h'
    · obtain ⟨op, hop, h'⟩ := Option.bind_eq_some_iff.1 h'
      obtain ⟨κ', hκ, h'⟩ := Option.map_eq_some_iff.1 h'
      cases h'
      obtain ⟨job, phase, hl⟩ := operation?_eq_some hop
      exact ⟨rfl, job, op, phase, hl, hκ⟩
    · cases h'
  · cases h'

/-- Who adjusts the parameters has been answered, and is over. -/
theorem adjusted?_eq_some (hm : c.manager = some c.managed) {a : Adjustment}
    (h' : c.adjusted? k h = some (id, a)) :
    h = .act (.run (.call id)) ∧ (c.undergo h).calls.lookup id = none ∧ ∃ job op phase,
      c.calls.lookup id = some ⟨job, .operating op phase⟩ ∧ op.adjusts? k = some a.kind := by
  unfold adjusted? at h'
  split at h'
  · split at h'
    · rename_i id' _ job op phase hl
      split at h'
      · rename_i answer e
        obtain ⟨a', ha, h'⟩ := Option.map_eq_some_iff.1 h'
        cases h'
        refine ⟨rfl, ?_, job, op, phase, hl, PendingOperation.kind_of_adjustment? ha⟩
        have hact : c.undergo (.act (.run (.call id))) = (c.advanceOperation id op phase).1 :=
          act_of_operating hl
        rcases advanceOperation_cases hm id op phase with ⟨_, _, e', -⟩ | ⟨outcome, -, clock, hr⟩
        · cases e.symm.trans e'
        · rw [hact, hr]
          exact (lookup_finish ..).1
      · cases h'
    · cases h'
  · cases h'

/-- An operation that is to change the parameters goes on waiting, or is over. If it has succeeded
then it has changed them. -/
theorem operation_undergo (hm : c.manager = some c.managed) {job : Job} {op : PendingOperation}
    {phase : CallPhase} {κ : ParameterKind}
    (hl : c.calls.lookup id = some ⟨job, .operating op phase⟩) (hκ : op.adjusts? k = some κ) :
    let c' := c.undergo (.act (.run (.call id)))
    (∃ phase', c'.calls.lookup id = some ⟨job, .operating op phase'⟩ ∧ c'.finished = c.finished) ∨
      c'.calls.lookup id = none ∧
        (c'.Succeeded id → ∃ a, c.adjusted? k (.act (.run (.call id))) = some (id, a)) := by
  have hact : c.undergo (.act (.run (.call id))) = (c.advanceOperation id op phase).1 :=
    act_of_operating hl
  rw [adjusted?_of_operating hl, hact]
  rcases advanceOperation_cases hm id op phase with
    ⟨phase', posted, e, hr⟩ | ⟨outcome, e, clock, hr⟩
  · rw [hr]
    exact .inl ⟨phase', lookup_setCall hl _, rfl⟩
  · rw [hr, e]
    refine .inr ⟨(lookup_finish ..).1, ?_⟩
    rintro ⟨result, hres, hgood⟩
    obtain rfl := Option.some.inj ((lookup_finish ..).2.symm.trans hres)
    cases outcome with
    | error e => cases hgood
    | ok answer =>
      cases happly : (c.managed.apply clock op answer).2 with
      | error e =>
        rw [SubscriptionManager.finish, happly] at hgood
        cases hgood
      | ok result =>
        obtain ⟨a, ha⟩ := adjustment?_of_apply_ok hκ happly
        exact ⟨a, by dsimp only; rw [ha]; rfl⟩

/-! ## Runs -/

/-- A client between two happenings: it has a manager, which no call is about to start, and its
calls have numbers of their own. -/
structure Serving (c : Client) : Prop where
  manager : c.manager = some c.managed
  settled : c.Settled
  numbers : c.NumbersCalls

theorem Begins.serving (hc : c.Begins) (hn : c.NumbersCalls) : c.Serving :=
  ⟨hc.ready.manager, hc.settled, hn⟩

theorem Serving.undergo (hc : c.Serving) (h : Happening) : (c.undergo h).Serving := by
  obtain ⟨hs, hm⟩ := pumps_undergo hc.settled h
  obtain ⟨m', hm', -⟩ := hm _ hc.manager
  exact ⟨by rw [managed_of_eq hm', hm'], hs, hc.numbers.undergo h⟩

theorem Serving.later (hc : c.Serving) (hs : List Happening) : (c.later hs).Serving := by
  induction hs generalizing c with
  | nil => exact hc
  | cons h hs ih => exact ih (hc.undergo h)

/-- The parameters are those that the answers say, in the order in which they have been taken. -/
theorem Serving.parameters?_later (hc : c.Serving) (hp : c.managed.parameters? k = some p)
    (hs : List Happening) : (c.later hs).managed.parameters? k =
      some (p.adjustAll ((c.adjustments k hs).map (·.2))) := by
  induction hs generalizing c p with
  | nil => exact hp
  | cons h hs ih =>
    rw [later_cons, ih (hc.undergo h) (parameters?_undergo hc.settled hc.manager hp h), adjustments,
      List.map_append, SubscriptionParameters.adjustAll_append]
    cases c.adjusted? k h <;> rfl

/-- What has become of a call since it has sent its request for parameters of the kind `κ`. -/
structure HasAsked (k : SubscriptionKey) (hs : List Happening) (c : Client) (id : CallId)
    (κ : ParameterKind) : Prop where
  lt : id < (c.later hs).nextCall
  operates : ∀ {call}, (c.later hs).calls.lookup id = some call →
    ∃ op phase, call.stage = .operating op phase ∧ op.adjusts? k = some κ
  succeeds : (c.later hs).Succeeded id → ∃ a, (id, a) ∈ c.adjustments k hs

/-- What has become of a call since it has made the adjustment `a`. -/
structure HasAdjusted (k : SubscriptionKey) (hs : List Happening) (c : Client) (id : CallId)
    (a : Adjustment) : Prop where
  lt : id < (c.later hs).nextCall
  ended : (c.later hs).calls.lookup id = none
  kind : ∀ {κ}, (id, κ) ∈ c.asked k hs → κ = a.kind

/-- Each call takes one answer, which is for what it has asked. -/
structure Attributes (k : SubscriptionKey) (hs : List Happening) (c : Client) : Prop where
  asked : ∀ {id κ}, (id, κ) ∈ c.asked k hs → c.HasAsked k hs id κ
  adjusted : ∀ {id a}, (id, a) ∈ c.adjustments k hs → c.HasAdjusted k hs id a
  nodup : ((c.adjustments k hs).map (·.1)).Nodup

/-- A call that has asked keeps to what it has asked for. -/
theorem HasAsked.snoc {κ : ParameterKind} (hr : c.HasAsked k hs id κ)
    (hd : (c.later hs).Serving) (h : Happening) : c.HasAsked k (hs ++ [h]) id κ := by
  have hlt := Nat.lt_of_lt_of_le hr.lt (nextCall_later_le c hs h)
  have hgrow : (c.later hs).Succeeded id → ∃ a, (id, a) ∈ c.adjustments k (hs ++ [h]) := by
    intro hsucc
    obtain ⟨a, ha⟩ := hr.succeeds hsucc
    rw [adjustments_snoc]
    exact ⟨a, List.mem_append_left _ ha⟩
  by_cases hrun : h = .act (.run (.call id))
  · cases hl : (c.later hs).calls.lookup id with
    | none =>
      have hsame : c.later (hs ++ [h]) = c.later hs := by
        rw [later_snoc, hrun, undergo_of_none hl]
      exact ⟨hlt, fun h => hr.operates (hsame ▸ h), fun h => hgrow (hsame ▸ h)⟩
    | some call =>
      obtain ⟨op, phase, hstage, hκ⟩ := hr.operates hl
      obtain ⟨job, stage⟩ := call
      obtain rfl : stage = .operating op phase := hstage
      have hop := operation_undergo hd.manager hl hκ
      rw [← hrun, ← later_snoc] at hop
      rcases hop with ⟨phase', hl', hf⟩ | ⟨hnone, hsucc⟩
      · refine ⟨hlt, fun h => ?_, fun ⟨result, h⟩ => hgrow ⟨result, hf ▸ h⟩⟩
        cases hl'.symm.trans h
        exact ⟨op, phase', rfl, hκ⟩
      · refine ⟨hlt, fun h => (nomatch hnone.symm.trans h), fun h => ?_⟩
        obtain ⟨a, ha⟩ := hsucc h
        rw [adjustments_snoc, ha]
        exact ⟨a, List.mem_append_right _ (List.mem_singleton_self _)⟩
  · by_cases hcancel : h = .cancel id
    · have hnone : (c.later (hs ++ [h])).calls.lookup id = none := by
        rw [later_snoc, hcancel]
        exact lookup_filter_self
      have hsame : (c.later (hs ++ [h])).finished = (c.later hs).finished := by
        rw [later_snoc, hcancel]
        rfl
      exact ⟨hlt, fun h => (nomatch hnone.symm.trans h),
        fun ⟨result, h⟩ => hgrow ⟨result, hsame ▸ h⟩⟩
    · have hspares := spares_later hr.lt hrun hcancel
      exact ⟨hlt, fun h => hr.operates (hspares.calls.symm.trans h),
        fun ⟨result, h, hgood⟩ => hgrow ⟨result, hspares.finished.symm.trans h, hgood⟩⟩

theorem mem_asked_snoc {κ : ParameterKind} : (id, κ) ∈ c.asked k (hs ++ [h]) ↔
    (id, κ) ∈ c.asked k hs ∨ (c.later hs).asked? k h = some (id, κ) := by
  rw [asked_snoc, List.mem_append, Option.mem_toList]

theorem mem_adjustments_snoc {a : Adjustment} : (id, a) ∈ c.adjustments k (hs ++ [h]) ↔
    (id, a) ∈ c.adjustments k hs ∨ (c.later hs).adjusted? k h = some (id, a) := by
  rw [adjustments_snoc, List.mem_append, Option.mem_toList]

/-- A call that has made its adjustment is over for good. -/
theorem HasAdjusted.snoc {a : Adjustment} (hr : c.HasAdjusted k hs id a) (h : Happening) :
    c.HasAdjusted k (hs ++ [h]) id a := by
  have hover : (c.later (hs ++ [h])).calls.lookup id = none := by
    rw [later_snoc]
    exact lookup_undergo_of_none hr.ended hr.lt h
  refine ⟨Nat.lt_of_lt_of_le hr.lt (nextCall_later_le c hs h), hover, fun hκ => ?_⟩
  rcases mem_asked_snoc.1 hκ with hκ | hκ
  · exact hr.kind hκ
  · obtain ⟨-, job, op, phase, hl, -⟩ := asked?_eq_some hκ
    rw [← later_snoc] at hl
    cases hover.symm.trans hl

theorem Serving.attributes (hc : c.Serving) (k : SubscriptionKey) (hs : List Happening) :
    c.Attributes k hs := by
  induction hs using List.reverseRecOn with
  | nil => exact ⟨nofun, nofun, List.nodup_nil⟩
  | append_singleton hs h ih =>
    have hd := hc.later hs
    have hd' := hc.later (hs ++ [h])
    refine ⟨fun {id κ} hr => ?_, fun {id a} hr => ?_, ?_⟩
    · rcases mem_asked_snoc.1 hr with hr | hr
      · exact (ih.asked hr).snoc hd h
      · obtain ⟨-, job, op, phase, hl, hκ⟩ := asked?_eq_some hr
        rw [← later_snoc] at hl
        refine ⟨hd'.numbers.calls hl, fun h => ?_, fun ⟨result, h, _⟩ => ?_⟩
        · cases hl.symm.trans h
          exact ⟨op, phase, rfl, hκ⟩
        · cases hl.symm.trans (hd'.numbers.finished h).2
    · rcases mem_adjustments_snoc.1 hr with hr | hr
      · exact (ih.adjusted hr).snoc h
      · obtain ⟨-, hnone, job, op, phase, hl, hκ⟩ := adjusted?_eq_some hd.manager hr
        rw [← later_snoc] at hnone
        have hlt := Nat.lt_of_lt_of_le (hd.numbers.calls hl) (nextCall_later_le c hs h)
        refine ⟨hlt, hnone, fun {κ} hasked => ?_⟩
        rcases mem_asked_snoc.1 hasked with hasked | hasked
        · obtain ⟨op', phase', hstage, hκ'⟩ := (ih.asked hasked).operates hl
          cases hstage
          exact Option.some.inj (hκ'.symm.trans hκ)
        · obtain ⟨-, job, op, phase, hl', -⟩ := asked?_eq_some hasked
          rw [← later_snoc] at hl'
          cases hnone.symm.trans hl'
    · rw [adjustments_snoc, List.map_append]
      cases hr : (c.later hs).adjusted? k h with
      | none => exact (List.append_nil _).symm ▸ ih.nodup
      | some r =>
        obtain ⟨-, -, job, op, phase, hl, -⟩ := adjusted?_eq_some hd.manager hr
        refine List.nodup_append.2 ⟨ih.nodup, List.nodup_singleton _, fun i hi j hj => ?_⟩
        obtain ⟨x, hx, rfl⟩ := List.mem_map.1 hi
        obtain rfl : j = r.1 := List.mem_singleton.1 hj
        intro e
        rw [← e] at hl
        cases (ih.adjusted hx).ended.symm.trans hl

/-- What the server holds after a run if it held `p` before. It makes its changes in the order in
which the requests have been sent, and answers what it holds then. -/
def heldBy (k : SubscriptionKey) (hs : List Happening) (p : SubscriptionParameters) (c : Client) :
    SubscriptionParameters :=
  p.adjustAll ((c.asked k hs).filterMap fun r => (c.adjustments k hs).lookup r.1)

/-- A call that has returned a good result has adjusted what it has asked for. -/
theorem Serving.exists_adjustment (hc : c.Serving) {κ : ParameterKind} (hr : (id, κ) ∈ c.asked k hs)
    (hsucc : (c.later hs).Succeeded id) :
    ∃ a, (c.adjustments k hs).lookup id = some a ∧ a.kind = κ := by
  have hattr := hc.attributes k hs
  obtain ⟨a, ha⟩ := (hattr.asked hr).succeeds hsucc
  exact ⟨a, lookup_of_mem hattr.nodup ha, ((hattr.adjusted ha).kind hr).symm⟩

/-- The adjustments, looked up by their calls. -/
theorem Serving.filterMap_adjustments (hc : c.Serving) (k : SubscriptionKey)
    (hs : List Happening) :
    ((c.adjustments k hs).map fun r => (r.1, r.2.kind)).filterMap
      (fun r => (c.adjustments k hs).lookup r.1) = (c.adjustments k hs).map (·.2) := by
  rw [List.filterMap_map, ← List.filterMap_eq_map]
  exact List.filterMap_congr fun r hr => lookup_of_mem (hc.attributes k hs).nodup hr

/-- The parameters of a subscription are those that the answers to the calls say, in the order in
which the calls have taken them. When all calls that have sent a request have returned a good
result, each of them has made one adjustment, of the kind that it has asked for; and if of each kind
the call that has asked last has also been the last one to take its answer, then the parameters are
those that the server holds. -/
theorem parameters_as_held (hc : c.Begins) (hn : c.NumbersCalls) (hs hs' : List Happening)
    (hp : (c.later hs).managed.parameters? k = some p) :
    let c' := c.later hs
    let now := (c'.later hs').managed.parameters? k
    now = some (p.adjustAll ((c'.adjustments k hs').map (·.2))) ∧
      ((∀ r ∈ c'.asked k hs', (c'.later hs').Succeeded r.1) →
        (∀ r ∈ c'.asked k hs', ∃ a, (c'.adjustments k hs').lookup r.1 = some a ∧ a.kind = r.2) ∧
          ((∀ κ, lastCall? κ (c'.asked k hs') =
              lastCall? κ ((c'.adjustments k hs').map fun r => (r.1, r.2.kind))) →
            now = some (c'.heldBy k hs' p))) := by
  have hserves := (hc.serving hn).later hs
  have hnow := hserves.parameters?_later hp hs'
  refine ⟨hnow, fun hsucc => ?_⟩
  have hasked := fun r hr => hserves.exists_adjustment hr (hsucc r hr)
  refine ⟨hasked, fun hlast => hnow.trans (congrArg some ?_)⟩
  refine SubscriptionParameters.adjustAll_congr fun κ => ?_
  rw [lastAdjustment?_calls κ hasked, hlast, ← hserves.filterMap_adjustments k hs',
    lastAdjustment?_calls κ fun r hr => ?_]
  obtain ⟨x, hx, rfl⟩ := List.mem_map.1 hr
  exact ⟨x.2, lookup_of_mem (hserves.attributes k hs').nodup hx, rfl⟩

/-! ## Samples -/

/-- The sample client changes its subscription twice, and sets its publishing mode in between. The
second change is answered first. -/
def sampleUpdates : List Happening :=
  let revised (lifetimeCount : UInt32) : Reply :=
    goodReply .modifySubscription ⟨100.0, lifetimeCount, 10⟩
  [.act (.call (.operate (.modify 0 ⟨100.0, 60, 10, 0, true, 0⟩)) nofun),
    .act (.call (.operate (.setPublishing 0 false)) nofun),
    .act (.call (.operate (.modify 0 ⟨100.0, 90, 10, 0, true, 0⟩)) nofun),
    .act (.run (.call 2)), .act (.run (.call 3)), .act (.run (.call 4)),
    .act (.reply 4 (revised 90)), .act (.reply 3 (goodReply .setPublishingMode [.good])),
    .act (.reply 2 (revised 60))]

/-- The calls take their answers in another order than that of the requests, but the second change
after the first one. -/
theorem parameters_as_held_sample :
    let c := sample.later (sampleStart.map .act)
    let hs := sampleUpdates ++
      [.act (.run (.call 3)), .act (.run (.call 2)), .act (.run (.call 4))]
    sample.Begins ∧ sample.NumbersCalls ∧
      c.managed.parameters? 0 = some ⟨100.0, 30, 10, 0, true, 0⟩ ∧
      (∀ r ∈ c.asked 0 hs, (c.later hs).Succeeded r.1) ∧
      (∀ κ, lastCall? κ (c.asked 0 hs) =
        lastCall? κ ((c.adjustments 0 hs).map fun r => (r.1, r.2.kind))) ∧
      (c.later hs).managed.parameters? 0 = some ⟨100.0, 90, 10, 0, false, 0⟩ := by
  intro c hs
  have hn : sample.NumbersCalls := ⟨nofun, nofun⟩
  have hp : c.managed.parameters? 0 = some ⟨100.0, 30, 10, 0, true, 0⟩ := by decide +kernel
  have hsucc : ∀ r ∈ c.asked 0 hs, (c.later hs).Succeeded r.1 := by decide +kernel
  have hlast (κ : ParameterKind) : lastCall? κ (c.asked 0 hs) =
      lastCall? κ ((c.adjustments 0 hs).map fun r => (r.1, r.2.kind)) := by
    cases κ <;> decide +kernel
  have h := parameters_as_held sample_begins hn (sampleStart.map .act) hs hp
  exact ⟨sample_begins, hn, hp, hsucc, hlast, ((h.2 hsucc).2 hlast).trans (by decide +kernel)⟩

/-- If the call that has asked first is the last one to take its answer, then the client goes by
that, and the server by the other one. -/
theorem parameters_differ :
    let c := sample.later (sampleStart.map .act)
    let hs := sampleUpdates ++
      [.act (.run (.call 4)), .act (.run (.call 3)), .act (.run (.call 2))]
    sample.Begins ∧ sample.NumbersCalls ∧
      c.managed.parameters? 0 = some ⟨100.0, 30, 10, 0, true, 0⟩ ∧
      c.asked 0 hs = [(2, .limits), (3, .publishing), (4, .limits)] ∧
      (∀ r ∈ c.asked 0 hs, (c.later hs).Succeeded r.1) ∧
      c.heldBy 0 hs ⟨100.0, 30, 10, 0, true, 0⟩ = ⟨100.0, 90, 10, 0, false, 0⟩ ∧
      (c.later hs).managed.parameters? 0 = some ⟨100.0, 60, 10, 0, false, 0⟩ :=
  ⟨sample_begins, ⟨nofun, nofun⟩, by decide +kernel, by decide +kernel, by decide +kernel,
    by decide +kernel, by decide +kernel⟩

end Client

end OpcUa
