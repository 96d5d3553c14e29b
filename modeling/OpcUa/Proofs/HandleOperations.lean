import OpcUa.Proofs.CreatedItems
import OpcUa.Proofs.SubscriptionAccount

/-!
# Operations on a handle

Who creates a subscription has a handle on it, whereas messages go to what is registered under their
id. An operation on a handle asks first whether anything is registered under its id. When it has its
answer it changes the subscription of the handle, without asking again.

* `SubscriptionManager.Reflects`: what an answer has changed, and what the call returns.
* `SubscriptionManager.reflects_apply`: it does so whatever is registered by then.
* `Client.Begins.registers_of_operating`: as long as nobody deletes it, the id stays registered.
* `Client.operation_reaches_handle`: what a call on a handle does that succeeds, and which calls are
  refused.
* `Client.operation_misses_registered`: a call that succeeds for a handle whose id has been used
  again.
-/

namespace OpcUa

/-- The subscription that an operation is to change or to give new items. -/
def Operation.changes? : Operation → Option SubscriptionKey
  | .modify k _ | .modifyInterval k _ | .setPublishing k _ | .createItems k _ => some k
  | .create _ | .createWithInterval _ | .delete _ | .deleteItems .. => none

def PendingOperation.changes? : PendingOperation → Option SubscriptionKey
  | .modify k _ | .setPublishing k _ | .createItems k _ => some k
  | .create .. | .delete _ | .deleteItems .. => none

/-- The subscription that a call is to delete. -/
def Job.deletes? : Job → Option SubscriptionKey
  | .operate (.delete k) => some k
  | _ => none

namespace SubscriptionManager

variable {m m' : SubscriptionManager} {k : SubscriptionKey} {s : SubscriptionId} {clock : Nat}
  {o : Operation} {op : PendingOperation}

/-! ## The beginning -/

theorem ensureUsable_of_not_registered (h : m.registry.contains (m.idOf k) = false) :
    m.ensureUsable k =
      .error (.subscription (if m.running then .notFound (m.idOf k) else .managerShutdown)) := by
  unfold ensureUsable ensureRunning ensureRegistered
  rw [h]
  cases m.running <;> rfl

/-- What the first check refuses does not begin. -/
theorem begin_of_unusable (ho : o.changes? = some k) {e : Error}
    (h : m.ensureUsable k = .error e) (clock : Nat) :
    m.begin o clock = (m, .finished (.error e)) := by
  cases o with
  | modify | modifyInterval =>
    cases ho
    unfold SubscriptionManager.begin checkModify
    dsimp only
    rw [h]
    rfl
  | setPublishing =>
    cases ho
    unfold SubscriptionManager.begin
    dsimp only
    rw [h]
    rfl
  | createItems =>
    cases ho
    unfold SubscriptionManager.begin
    dsimp only
    rw [h]
  | create | createWithInterval | delete | deleteItems => cases ho

/-- What is not refused at once is about an id that is registered. -/
theorem registered_of_begin (ho : o.changes? = some k) {start : OperationStart}
    (h : (m.begin o clock).2 = start) (hr : ∀ e, start ≠ .finished (.error e)) :
    m.registry.contains (m.idOf k) = true := by
  by_contra hnot
  rw [Bool.not_eq_true] at hnot
  rw [begin_of_unusable ho (ensureUsable_of_not_registered hnot)] at h
  exact hr _ h.symm

theorem changes?_of_begin (ho : o.changes? = some k)
    (h : (m.begin o clock).2 = .pending op) : op.changes? = some k := by
  cases o with
  | modify | modifyInterval | setPublishing =>
    cases eq_of_startIf h
    exact ho
  | createItems =>
    obtain ⟨_, -, rfl⟩ := exists_handles_of_begin h
    exact ho
  | create | createWithInterval | delete | deleteItems => cases ho

/-- Only a call for no items succeeds at once. -/
theorem createItems_of_begin (ho : o.changes? = some k) {result : OperationResult}
    (h : (m.begin o clock).2 = .finished (.ok result)) :
    o = .createItems k [] ∧ result = .items [] := by
  cases o with
  | modify | modifyInterval | setPublishing => exact absurd h (startIf_ne_ok _ _ _)
  | createItems k' requests =>
    cases ho
    unfold SubscriptionManager.begin at h
    dsimp only at h
    split at h
    · cases h
    · split at h
      · rename_i hempty
        cases h
        exact ⟨by rw [List.isEmpty_iff.1 hempty], rfl⟩
      · cases h
  | create | createWithInterval | delete | deleteItems => cases ho

theorem delete_of_begin (h : (m.begin o clock).2 = .pending (.delete k)) : o = .delete k := by
  cases o with
  | delete =>
    cases eq_of_startIf h
    rfl
  | create | createWithInterval | modify | modifyInterval | setPublishing =>
    cases eq_of_startIf h
  | createItems =>
    obtain ⟨_, -, h⟩ := exists_handles_of_begin h
    cases h
  | deleteItems =>
    unfold SubscriptionManager.begin at h
    dsimp only at h
    split at h
    · cases h
    · split at h <;> cases h

/-! ## The end -/

/-- From `m` to `m'` the subscription `k` has changed from `sub` to `sub'` as the answer to the
operation says, and the call returns `result`. -/
inductive Reflects (k : SubscriptionKey) (m m' : SubscriptionManager) (sub sub' : Subscription) :
    (op : PendingOperation) → op.service.Answer → OperationResult → Prop
  | modified (p : SubscriptionParameters) (revised : RevisedSubscription) :
    sub' = sub.applyRevised revised p →
    Reflects k m m' sub sub' (.modify k p) revised (.modified k)
  | publishingSet (enabled : Bool) (results : List StatusCode) :
    sub' = sub.setPublishingEnabled enabled →
    Reflects k m m' sub sub' (.setPublishing k enabled) results .done
  | itemsCreated (requests : List (ClientHandle × MonitoredItemRequest))
      (results : List MonitoredItemResult) (outcomes : List (Except Error ItemKey))
      (new : List MonitoredItem) :
    Grants k requests results outcomes m m' → m'.items = m.items ++ new →
    sub' = { sub with items := sub.items.putItems m.items.length new } →
    Reflects k m m' sub sub' (.createItems k requests) results (.items outcomes)

theorem subscription?_modify_self {f : Subscription → Subscription} {sub : Subscription}
    (hs : m.subscription? k = some sub) :
    (m.modifySubscription k f).subscription? k = some (f sub) := by
  rw [subscription?_modify, hs, Option.map_some, if_pos rfl]

theorem subscription?_modify_of_ne {k' : SubscriptionKey} (hk : k' ≠ k)
    (f : Subscription → Subscription) (m : SubscriptionManager) :
    (m.modifySubscription k f).subscription? k' = m.subscription? k' := by
  rw [subscription?_modify]
  simp only [if_neg (Ne.symm hk)]
  exact Option.map_id'

/-- An operation that succeeds has changed the subscription of its handle, and no other one. -/
theorem reflects_apply (hk : op.changes? = some k) {sub : Subscription}
    (hs : m.subscription? k = some sub) {answer : op.service.Answer} {result : OperationResult}
    (h : m.apply clock op answer = (m', .ok result)) :
    (∃ sub', m'.subscription? k = some sub' ∧ Reflects k m m' sub sub' op answer result) ∧
      ∀ k', k' ≠ k → m'.subscription? k' = m.subscription? k' := by
  cases op with
  | modify k₀ p =>
    cases hk
    cases h
    have hfill (k') (m : SubscriptionManager) : m.fillPipeline.subscription? k' = m.subscription? k' :=
      congrArg (·[k']?) (subscriptions_fillPipeline m)
    exact ⟨⟨_, (hfill k _).trans (subscription?_modify_self hs), .modified p answer rfl⟩,
      fun k' hne => (hfill k' _).trans (subscription?_modify_of_ne hne _ m)⟩
  | setPublishing k₀ enabled =>
    cases hk
    unfold apply at h
    dsimp only at h
    split at h
    · cases h
    · cases h
      exact ⟨⟨_, subscription?_modify_self hs, .publishingSet enabled answer rfl⟩,
        fun k' hne => subscription?_modify_of_ne hne _ m⟩
  | createItems k₀ requests =>
    cases hk
    by_cases hlen : List.length answer = requests.length
    · have happly := (finish_createItems_of_eq hlen k clock m).symm.trans h
      cases happly
      have hgrants := grants_addItems hlen k m
      obtain ⟨new, hm', -⟩ := hgrants.filed
      refine ⟨⟨_, ?_, .itemsCreated requests answer _ new hgrants ?_ rfl⟩, fun k' hne => ?_⟩
      all_goals rw [hm']
      · exact subscription?_modify_self (by exact hs)
      · rfl
      · exact subscription?_modify_of_ne hne _ _
    · cases (finish_createItems_of_ne hlen k clock m).symm.trans h
  | create | delete | deleteItems => cases hk

/-- An answer to such an operation registers nothing and removes nothing. -/
theorem registry_apply (hk : op.changes? = some k) (clock : Nat) (answer : op.service.Answer)
    (m : SubscriptionManager) : (m.apply clock op answer).1.registry = m.registry := by
  have h := enrols_apply clock op answer m
  cases op with
  | modify | setPublishing | createItems =>
    cases h with
    | rests h => exact h.registry
  | create | delete | deleteItems => cases hk

/-! ## What is registered -/

/-- An id stays registered unless what has it is removed. -/
theorem Enrols.contains {e : Option Enrolment} (h : m.Enrols m' e)
    (hs : m.registry.contains s = true) (he : e ≠ some (.removes s)) :
    m'.registry.contains s = true := by
  unfold Table.contains at hs ⊢
  cases h with
  | rests h => rwa [h.registry]
  | registers s' hr =>
    rw [hr, Table.find?_insert]
    split
    · rfl
    · exact hs
  | removes s' hr =>
    rw [hr, Table.find?_erase, if_neg fun hss => he (by rw [hss])]
    exact hs

/-- Only a deletion removes what is registered. -/
theorem delete_of_removes {answer : op.service.Answer}
    (h : op.enrolment? m answer = some (.removes s)) : ∃ k, op = .delete k ∧ m.idOf k = s := by
  cases op with
  | delete k => exact ⟨k, rfl, (Enrolment.removes.inj (eq_removes_of_delete h)).symm⟩
  | create | modify | setPublishing | createItems | deleteItems => cases h

/-- There is a later subscription with the same id. -/
def Superseded (k : SubscriptionKey) (m : SubscriptionManager) : Prop :=
  ∃ k', k < k' ∧ m.ids[k']? = m.ids[k]?

/-- An id that is registered has a subscription. -/
theorem KeepsLatest.find?_eq_none (hm : m.KeepsLatest) (h : m.registered? s = none) :
    m.registry.find? s = none := by
  cases hk : m.registry.find? s with
  | none => rfl
  | some k =>
    have hid := hm.id hk
    rw [getElem?_ids, ← registered?_of_find? hk, h] at hid
    cases hid

/-- When the subscription `k` has changed and no other one has, the registered one has changed if it
is `k`, which it is unless there is a later one with the same id. -/
theorem KeepsLatest.registered_of_changed (hm : m.KeepsLatest) (hid : m.ids[k]? = some s)
    (hr : m.registry.contains s = true) (hreg : m'.registry = m.registry)
    {sub sub' : Subscription} (hs : m.subscription? k = some sub)
    (hs' : m'.subscription? k = some sub')
    (hother : ∀ k', k' ≠ k → m'.subscription? k' = m.subscription? k') :
    (¬ m.Superseded k → m.registered? s = some sub ∧ m'.registered? s = some sub') ∧
      (m.Superseded k → m'.registered? s = m.registered? s) := by
  obtain ⟨k', hk'⟩ := Option.isSome_iff_exists.1 hr
  rw [registered?_of_find? hk', registered?_of_find? (hreg ▸ hk')]
  have hle := hm.latest hk' hid
  refine ⟨fun hnot => ?_, fun ⟨n, hlt, hn⟩ => hother k' ?_⟩
  · obtain rfl | hlt := Nat.eq_or_lt_of_le hle
    · exact ⟨hs, hs'⟩
    · exact absurd ⟨k', hlt, (hm.id hk').trans hid.symm⟩ hnot
  · exact Nat.ne_of_gt (Nat.lt_of_lt_of_le hlt (hm.latest hk' (hn.trans hid)))

end SubscriptionManager

namespace Client

open SubscriptionManager

variable {c : Client} {id : CallId} {o : Operation} {op : PendingOperation} {phase : CallPhase}
  {k : SubscriptionKey} {s : SubscriptionId} {h : Happening} {result : OperationResult}

/-- A call is under way that is to delete a subscription with this id. -/
def Deletes (s : SubscriptionId) (c : Client) : Prop :=
  ∃ p ∈ c.calls, ∃ k ∈ p.2.job.deletes?, c.managed.idOf k = s

instance (s : SubscriptionId) (c : Client) : Decidable (c.Deletes s) :=
  inferInstanceAs (Decidable (∃ p ∈ c.calls, ∃ k ∈ p.2.job.deletes?, c.managed.idOf k = s))

/-! ## A turn of the call -/

theorem act_of_fresh (hl : c.calls.lookup id = some ⟨.operate o, .fresh⟩) :
    c.act (.run (.call id)) = c.startOperation id o := by
  change c.pollCall id = _
  rw [pollCall, hl]
  rfl

/-- A call that succeeds at once is for no items. -/
theorem begin_of_returned (hm : c.manager = some c.managed)
    (hl : c.calls.lookup id = some ⟨.operate o, .fresh⟩) (hf : c.finished.lookup id = none)
    (hr : (c.undergo (.act (.run (.call id)))).finished.lookup id =
      some (.operated (.ok result))) :
    (c.managed.begin o c.service.clock).2 = .finished (.ok result) ∧
      (c.undergo (.act (.run (.call id)))).managed = c.managed := by
  rw [undergo_act (by nofun), act_of_fresh hl] at hr ⊢
  unfold startOperation at hr ⊢
  rw [hm] at hr ⊢
  dsimp only at hr ⊢
  rcases e : c.managed.begin o c.service.clock with ⟨m, outcome | op⟩
  · have hsame := begin_of_finished (congrArg Prod.snd e)
    rw [e] at hr hsame
    cases (lookup_finish ..).2.symm.trans hr
    exact ⟨rfl, (managed_of_eq rfl).trans hsame⟩
  · rw [e] at hr
    dsimp only at hr
    split at hr
    · cases (lookup_finish ..).2.symm.trans hr
    · cases hf.symm.trans hr

/-- A call that is refused at once sends nothing. -/
theorem refused_of_begin (hm : c.manager = some c.managed)
    (hl : c.calls.lookup id = some ⟨.operate o, .fresh⟩) {e : Error}
    (h : c.managed.begin o c.service.clock = (c.managed, .finished (.error e))) :
    (c.undergo (.act (.run (.call id)))).managed = c.managed ∧
      (c.undergo (.act (.run (.call id)))).finished.lookup id = some (.operated (.error e)) ∧
      c.posting (.act (.run (.call id))) = [] := by
  have hstart : c.startOperation id o =
      (({ c with manager := some c.managed } : Client).finish id (.operated (.error e)), none) := by
    unfold startOperation
    rw [hm]
    dsimp only
    rw [h]
  rw [undergo_act (by nofun), posting, act_of_fresh hl, hstart]
  exact ⟨managed_of_eq rfl, (lookup_finish ..).2, rfl⟩

/-- A call that has waited and succeeds has taken an answer. -/
theorem apply_of_returned (hc : c.Serving) {job : Job}
    (hl : c.calls.lookup id = some ⟨job, .operating op phase⟩) (hf : c.finished.lookup id = none)
    (hr : (c.undergo (.act (.run (.call id)))).finished.lookup id =
      some (.operated (.ok result))) :
    ∃ answer clock, c.answered? (.act (.run (.call id))) = some ⟨op, answer⟩ ∧
      c.managed.apply clock op answer =
        ((c.undergo (.act (.run (.call id)))).managed, .ok result) := by
  rw [answered?_of_operating hl]
  rw [undergo_act (by nofun), act_of_operating hl] at hr ⊢
  rcases advanceOperation_cases hc.manager id op phase with
    ⟨phase', posted, -, e⟩ | ⟨outcome, hdone, clock, e⟩
  · rw [e] at hr
    cases hf.symm.trans hr
  · rw [e] at hr ⊢
    rw [hdone]
    have hresult := Option.some.inj ((lookup_finish ..).2.symm.trans hr)
    cases outcome with
    | error e => cases hresult
    | ok answer => exact ⟨answer, clock, rfl, Prod.ext rfl (CallResult.operated.inj hresult)⟩

/-! ## Runs -/

/-- An id stays registered as long as nobody deletes it. -/
theorem Begins.registers_undergo (hc : c.Begins) (hn : c.NumbersCalls) (hi : c.Idle)
    {hs : List Happening} (hr : (c.later hs).Registers s) (hq : ¬ (c.later hs).Deletes s)
    (h : Happening) : ((c.later hs).undergo h).Registers s := by
  refine (enrols_undergo ((hc.serving hn).later hs) h).contains hr fun he => hq ?_
  obtain ⟨⟨op, answer⟩, ha, he⟩ := Option.bind_eq_some_iff.1 he
  obtain ⟨k, rfl, hk⟩ := delete_of_removes he
  obtain ⟨id, job, phase, -, hl⟩ := answered?_eq_some ha
  obtain ⟨o, m, clock, rfl, hbegin⟩ := (hc.corresponds hn hi hs hl).job
  obtain rfl := delete_of_begin hbegin
  exact ⟨_, mem_of_lookup hl, k, rfl, hk⟩

/-- From its beginning on, the call of an operation has the id of its handle registered, as long as
nobody deletes it. -/
theorem Begins.registers_of_operating (hc : c.Begins) (hn : c.NumbersCalls) (hi : c.Idle)
    (ho : o.changes? = some k) {hs : List Happening}
    (hfresh : (c.later hs).calls.lookup id = some ⟨.operate o, .fresh⟩)
    (hk : (c.later hs).managed.ids[k]? = some s) {hs' : List Happening}
    (hq : ∀ p, p <+: hs' → ¬ (c.later (hs ++ p)).Deletes s)
    (hl : (c.later (hs ++ hs')).calls.lookup id = some ⟨.operate o, .operating op phase⟩) :
    (c.later (hs ++ hs')).Registers s := by
  have hserves := hc.serving hn
  -- By induction on the run: the call has asked when it began, and the id has stayed since.
  induction hs' using List.reverseRecOn generalizing op phase with
  | nil =>
    rw [List.append_nil] at hl
    cases hfresh.symm.trans hl
  | append_singleton p h ih =>
    have hbefore {op phase} := @ih op phase fun p' hp => hq p' (hp.trans (List.prefix_append ..))
    have hserves' := hserves.later (hs ++ p)
    have hids := idOf_of_ids ((hserves.later hs).getElem?_ids_later hk p)
    rw [← List.append_assoc, later_snoc] at hl ⊢
    rw [← later_append] at hids
    by_cases hid : id = (c.later (hs ++ p)).subject h
    · by_cases hrun : ∃ id, h = .act (.run (.call id))
      · obtain ⟨id', rfl⟩ := hrun
        obtain rfl : id = id' := hid
        have hturn := callTurn_pollCall hserves' id
        rw [undergo_act (by nofun)] at hl ⊢
        change ((c.later (hs ++ p)).pollCall id).1.calls.lookup id = _ at hl
        change ((c.later (hs ++ p)).pollCall id).1.Registers s
        generalize (c.later (hs ++ p)).pollCall id = run at hturn hl ⊢
        cases hturn with
        | rests _ hnot => exact (hnot.holds hl).elim
        | begins _ hop hm hl' =>
          cases hl.symm.trans hl'
          unfold Registers
          rw [hm, (coversCommon_sameRoll.begins ..).registry, ← hids]
          exact registered_of_begin ho hop (by rintro _ ⟨⟩)
        | fails _ _ _ hl' => cases hl.symm.trans hl'
        | waits hl₀ hm hl' =>
          cases hl.symm.trans hl'
          have hr := hbefore hl₀
          unfold Registers at hr ⊢
          rwa [hm]
        | ends _ _ _ _ hl' => cases hl.symm.trans hl'
      · rcases hserves'.numbers.lookup_subject fun id e => hrun ⟨id, e⟩ with h | ⟨_, h⟩ <;>
          cases (hid ▸ hl).symm.trans h
    · have hr := hbefore ((spares_of_ne_subject hid).calls.symm.trans hl)
      exact hc.registers_undergo hn hi hr (hq p (List.prefix_append ..)) h

/-- In every run, what a call does on the handle `k`, whose subscription has the id `s`. If the call
succeeds, and nobody is about to delete a subscription with this id, then it has had its effect on
the subscription of the handle: nothing for no items, and else what the answer to its request says.
This is the subscription that is registered, unless there is a later one with the same id; that one
has not changed then. If nothing is registered under the id when the call begins, then it is
refused, and there is no request. -/
theorem operation_reaches_handle (hc : c.Begins) (hn : c.NumbersCalls) (hi : c.Idle)
    (ho : o.changes? = some k) (hj : Job.operate o ≠ .connect) (hs hs' : List Happening)
    (hk : (c.later hs).managed.ids[k]? = some s) :
    let id := (c.later hs).nextCall
    let made := hs ++ [.act (.call (.operate o) hj)]
    let c₁ := c.later (made ++ hs')
    let c₂ := c₁.undergo (.act (.run (.call id)))
    let m₁ := c₁.managed
    let m₂ := c₂.managed
    (∀ result, c₁.finished.lookup id = none →
      c₂.finished.lookup id = some (.operated (.ok result)) →
      (∀ p, p <+: hs' → ¬ (c.later (made ++ p)).Deletes s) →
      ∃ sub sub', m₁.subscription? k = some sub ∧ m₂.subscription? k = some sub' ∧
        ((o = .createItems k [] ∧ result = .items [] ∧ m₂ = m₁) ∨
          ∃ op answer, c₁.answered? (.act (.run (.call id))) = some ⟨op, answer⟩ ∧
            (∃ m clock, (SubscriptionManager.begin o clock m).2 = .pending op) ∧
            Reflects k m₁ m₂ sub sub' op answer result) ∧
        (¬ m₁.Superseded k → m₁.registered? s = some sub ∧ m₂.registered? s = some sub') ∧
        (m₁.Superseded k → m₂.registered? s = m₁.registered? s)) ∧
      (c₁.calls.lookup id = some ⟨.operate o, .fresh⟩ → m₁.registered? s = none →
        c₂.finished.lookup id = some (.operated
          (.error (.subscription (if m₁.running then .notFound s else .managerShutdown)))) ∧
        m₂ = m₁ ∧ c₁.posting (.act (.run (.call id))) = []) := by
  intro id made c₁ c₂ m₁ m₂
  have hserves := (hc.serving hn).later hs
  have hserves₁ : c₁.Serving := (hc.serving hn).later (made ++ hs')
  have hlatest : m₁.KeepsLatest := hc.keepsLatest_later hn (made ++ hs')
  have hmade : c.later made = (c.later hs).undergo (.act (.call (.operate o) hj)) := later_snoc ..
  have hk : (c.later made).managed.ids[k]? = some s := by
    rw [hmade]
    exact hserves.getElem?_ids_later hk [.act (.call (.operate o) hj)]
  have hid : m₁.ids[k]? = some s := by
    have h := ((hc.serving hn).later made).getElem?_ids_later hk hs'
    rwa [← later_append] at h
  have hidOf := idOf_of_ids hid
  refine ⟨fun result hf hr hq => ?_, fun hl hnone => ?_⟩
  · have hperforms : c₁.Performs id o := by
      have h := hserves.performs_call o hj hs'
      rwa [← hmade, ← later_append] at h
    obtain ⟨sub, hs, -⟩ := Option.map_eq_some_iff.1 ((getElem?_ids k m₁).symm.trans hid)
    cases hl : c₁.calls.lookup id with
    | none =>
      have hsame : c₂ = c₁ := undergo_of_none hl
      rw [hsame, hf] at hr
      cases hr
    | some call =>
      obtain ⟨job, stage⟩ := call
      obtain ⟨rfl, rfl | ⟨op, phase, rfl⟩⟩ := hperforms _ hl
      · -- The call begins and ends at once.
        obtain ⟨hbegin, hsame⟩ := begin_of_returned hserves₁.manager hl hf hr
        obtain ⟨rfl, rfl⟩ := createItems_of_begin ho hbegin
        have hreg : m₁.registry.contains s = true := by
          rw [← hidOf]
          exact registered_of_begin ho hbegin (by rintro _ ⟨⟩)
        have hsame : m₂ = m₁ := hsame
        rw [hsame]
        exact ⟨sub, sub, hs, hs, .inl ⟨rfl, rfl, rfl⟩,
          hlatest.registered_of_changed hid hreg rfl hs hs fun _ _ => rfl⟩
      · -- The call has begun before, when the id was registered, and takes its answer now.
        obtain ⟨answer, clock, ha, happly⟩ := apply_of_returned hserves₁ hl hf hr
        obtain ⟨o', m, clock', hjob, hbegin⟩ := (hc.corresponds hn hi (made ++ hs') hl).job
        cases hjob
        have hchanges := changes?_of_begin ho hbegin
        have hreg : m₁.registry.contains s = true := by
          refine hc.registers_of_operating hn hi ho ?_ hk hq hl
          rw [hmade]
          exact hserves.numbers.lookup_call hj
        obtain ⟨⟨sub', hs', hreflects⟩, hother⟩ := reflects_apply hchanges hs happly
        have hregistry := registry_apply hchanges clock answer m₁
        rw [happly] at hregistry
        exact ⟨sub, sub', hs, hs', .inr ⟨op, answer, ha, ⟨m, clock', hbegin⟩, hreflects⟩,
          hlatest.registered_of_changed hid hreg hregistry hs hs' hother⟩
  · have hmiss : m₁.registry.contains (m₁.idOf k) = false := by
      rw [hidOf, Table.contains, hlatest.find?_eq_none hnone]
      rfl
    obtain ⟨hm, hf, hp⟩ := refused_of_begin hserves₁.manager hl
      (begin_of_unusable ho (ensureUsable_of_not_registered hmiss) _)
    rw [hidOf] at hf
    exact ⟨hf, hm, hp⟩

/-! ## Samples -/

/-- Nobody deletes a subscription with this id while this happens. -/
theorem quiet_of_inits {hs hs' : List Happening}
    (h : ∀ p ∈ hs'.inits, ¬ (c.later (hs ++ p)).Deletes s) (p : List Happening) (hp : p <+: hs') :
    ¬ (c.later (hs ++ p)).Deletes s :=
  h p ((List.mem_inits ..).2 hp)

/-- The request of the sample client is sent, and its answer comes. -/
def sampleAnswered (id : CallId) (x : ExchangeId) : List Happening :=
  [.act (.run (.call id)), .act (.reply x (goodReply .setPublishingMode [.good]))]

set_option maxRecDepth 2000 in
/-- The subscription of the sample client is not to send anything any more. Once it is deleted, a
call that is to change this again is refused. -/
theorem operation_reaches_handle_sample :
    let hs := sampleStart.map .act
    let made : List Happening :=
      hs ++ [.act (.call (.operate (.setPublishing 0 false)) nofun)]
    let c₁ := sample.later (made ++ sampleAnswered 2 2)
    let c₂ := c₁.undergo (.act (.run (.call 2)))
    let deleted := (sampleStart ++
      operating 2 2 (.delete 0) (goodReply .deleteSubscriptions [.good])).map .act
    let c₃ := sample.later (deleted ++ [.act (.call (.operate (.setPublishing 0 true)) nofun)])
    let c₄ := c₃.undergo (.act (.run (.call 3)))
    sample.Begins ∧ sample.NumbersCalls ∧ sample.Idle ∧ (sample.later hs).managed.ids = [7] ∧
      (∃ sub sub' op answer, c₁.managed.registered? 7 = some sub ∧
        c₂.managed.registered? 7 = some sub' ∧
        Reflects 0 c₁.managed c₂.managed sub sub' op answer .done) ∧
      (c₂.managed.registered? 7).map (·.parameters.publishingEnabled) = some false ∧
      c₃.managed.registered? 7 = none ∧
      c₄.finished.lookup 3 = some (.operated (.error (.subscription (.notFound 7)))) ∧
      c₄.managed = c₃.managed ∧ c₃.posting (.act (.run (.call 3))) = [] := by
  intro hs made c₁ c₂ deleted c₃ c₄
  have hn : sample.NumbersCalls := ⟨nofun, nofun⟩
  have hi : sample.Idle := fun _ => operates_of_none rfl
  have hids : c₁.managed.ids = [7] := by decide +kernel
  have hnot : ¬ c₁.managed.Superseded 0 := by
    rintro ⟨_ | n, hlt, hn⟩
    · cases hlt
    · rw [hids] at hn
      cases hn
  have hquiet : ∀ p ∈ (sampleAnswered 2 2).inits, ¬ (sample.later (made ++ p)).Deletes 7 := by
    decide +kernel
  have hnone : c₃.managed.registered? 7 = none := rfl
  obtain ⟨hreach, -⟩ := operation_reaches_handle sample_begins hn hi (o := .setPublishing 0 false)
    rfl nofun hs (sampleAnswered 2 2) (s := 7) (by decide +kernel)
  obtain ⟨-, hrefuse⟩ := operation_reaches_handle sample_begins hn hi (o := .setPublishing 0 true)
    rfl nofun deleted [] (s := 7) (by decide +kernel)
  obtain ⟨sub, sub', -, -, heffect, hregistered, -⟩ := hreach .done rfl rfl (quiet_of_inits hquiet)
  obtain ⟨hsub, hsub'⟩ := hregistered hnot
  obtain ⟨hf, hm, hp⟩ := hrefuse rfl hnone
  rcases heffect with ⟨⟨⟩, -⟩ | ⟨op, answer, -, -, hreflects⟩
  exact ⟨sample_begins, hn, hi, by decide +kernel, ⟨sub, sub', op, answer, hsub, hsub', hreflects⟩,
    by decide +kernel, hnone, hf, hm, hp⟩

/-- The server uses the id of the subscription again while it is registered. A call on the handle of
the first subscription succeeds, but the one that is registered goes on sending. -/
theorem operation_misses_registered :
    let hs := sampleReplaced.map .act
    let made : List Happening :=
      hs ++ [.act (.call (.operate (.setPublishing 0 false)) nofun)]
    let c₁ := sample.later (made ++ sampleAnswered 3 3)
    let c₂ := c₁.undergo (.act (.run (.call 3)))
    let enabled (sub : Option Subscription) := sub.map (·.parameters.publishingEnabled)
    sample.Begins ∧ sample.NumbersCalls ∧ sample.Idle ∧ (sample.later hs).managed.ids = [7, 7] ∧
      (∀ p ∈ (sampleAnswered 3 3).inits, ¬ (sample.later (made ++ p)).Deletes 7) ∧
      c₁.finished.lookup 3 = none ∧ c₂.finished.lookup 3 = some (.operated (.ok .done)) ∧
      enabled (c₂.managed.subscription? 0) = some false ∧
      enabled (c₂.managed.registered? 7) = some true :=
  ⟨sample_begins, ⟨nofun, nofun⟩, fun _ => operates_of_none rfl, by decide +kernel,
    by decide +kernel, rfl, rfl, by decide +kernel, by decide +kernel⟩

end Client

end OpcUa
