import OpcUa.Proofs.DeletedItems
import OpcUa.Proofs.Dispatching
import OpcUa.Proofs.ItemResults
import OpcUa.Proofs.OperationTurn

/-!
# The account of subscriptions

The manager counts the subscriptions that it has created and those that it has deleted. The registry
has one entry for each id, so a new subscription takes the place of one with the same id, and a
deletion takes away what is registered under its id.

* `SubscriptionManager.Enrols`: what an answer does to the registry and the counters.
* `Client.enrols_undergo`: nothing else changes them.
* `Client.balanced`: the registry has as many entries as the counters and the run say.
* `SubscriptionManager.KeepsLatest`: the entry under an id is the last subscription with it.
* `Client.subscriptions_accounted`: the account, and what a deletion takes away.
* `Client.subscriptions_miscounted`: runs in which the counters alone do not say it.
-/

namespace OpcUa

namespace Table

variable {α : Type}

theorem length_filter_ne (k : UInt32) {l : List (UInt32 × α)}
    (h : l.Pairwise (fun a b => a.1 < b.1)) :
    l.length = (l.filter (·.1 != k)).length + if (search k l).isSome then 1 else 0 := by
  induction l with
  | nil => rfl
  | cons e rest ih =>
    obtain ⟨he, hr⟩ := List.pairwise_cons.1 h
    unfold search
    by_cases hk : k = e.1
    · -- No other entry has the key of the first one.
      have hrest : rest.filter (·.1 != k) = rest := by
        refine List.filter_eq_self.2 fun x hx => bne_iff_ne.2 fun hkx => ?_
        have hlt := he x hx
        rw [hkx, ← hk] at hlt
        exact UInt32.lt_irrefl _ hlt
      rw [List.filter_cons_of_neg (by simp [hk]), hrest, if_pos hk]
      rfl
    · rw [List.filter_cons_of_pos (by simpa using Ne.symm hk), if_neg hk, List.length_cons,
        List.length_cons, ih hr]
      omega

theorem size_erase (t : Table α) (k : UInt32) :
    t.size = (t.erase k).size + if t.contains k then 1 else 0 :=
  length_filter_ne k t.ascending

end Table

/-- How many subscriptions have been created, and how many have been deleted. -/
def SubscriptionStats.turnover (s : SubscriptionStats) : Nat × Nat :=
  (s.subscriptionsCreated, s.subscriptionsDeleted)

/-- What an answer does to the registry. -/
inductive Enrolment where
  | registers (s : SubscriptionId)
  | removes (s : SubscriptionId)
  deriving DecidableEq

/-- What an answer to the operation does to the registry. The server may not know a subscription
that is to be deleted, but it must not refuse. -/
def PendingOperation.enrolment? (m : SubscriptionManager) :
    (op : PendingOperation) → op.service.Answer → Option Enrolment
  | .create .., answer => some (.registers answer.subscription)
  | .delete k, results =>
    let status := SubscriptionManager.onlyStatus results
    if status.isBad ∧ status ≠ .badSubscriptionIdInvalid then none
    else some (.removes (m.idOf k))
  | .modify .., _ | .setPublishing .., _ | .createItems .., _ | .deleteItems .., _ => none

namespace SubscriptionManager

variable {m m' m'' : SubscriptionManager} {k k' : SubscriptionKey} {s : SubscriptionId}

/-- The ids of all subscriptions there ever were. -/
def ids (m : SubscriptionManager) : List SubscriptionId := m.subscriptions.map (·.id)

theorem length_ids (m : SubscriptionManager) : m.ids.length = m.subscriptions.length :=
  List.length_map _

theorem getElem?_ids (k : SubscriptionKey) (m : SubscriptionManager) :
    m.ids[k]? = (m.subscription? k).map (·.id) :=
  List.getElem?_map

theorem idOf_of_ids (h : m.ids[k]? = some s) : m.idOf k = s := by
  rw [getElem?_ids] at h
  obtain ⟨sub, hs, rfl⟩ := Option.map_eq_some_iff.1 h
  rw [idOf, hs]
  rfl

/-! ## Steps that leave the registry alone -/

/-- From `m` to `m'` the same subscriptions are registered, and none is created or deleted. -/
structure SameRoll (m m' : SubscriptionManager) : Prop where
  registry : m'.registry = m.registry
  ids : m'.ids = m.ids
  turnover : m'.stats.turnover = m.stats.turnover

theorem SameRoll.refl (m : SubscriptionManager) : m.SameRoll m := ⟨rfl, rfl, rfl⟩

theorem SameRoll.trans (h : m.SameRoll m') (h' : m'.SameRoll m'') : m.SameRoll m'' :=
  ⟨h'.registry.trans h.registry, h'.ids.trans h.ids, h'.turnover.trans h.turnover⟩

theorem SameTables.sameRoll (h : m.SameTables m')
    (ht : m'.stats.turnover = m.stats.turnover) : m.SameRoll m' := by
  refine ⟨h.registry, List.ext_getElem? fun k => ?_, ht⟩
  have hk := congrArg (Option.map (·.1)) (h.subscription? k)
  rw [Option.map_map, Option.map_map] at hk
  rw [getElem?_ids, getElem?_ids]
  exact hk

theorem sameRoll_modifySubscription {f : Subscription → Subscription} (hf : ∀ s, (f s).id = s.id)
    (k : SubscriptionKey) (m : SubscriptionManager) : m.SameRoll (m.modifySubscription k f) := by
  refine ⟨rfl, List.ext_getElem? fun k' => ?_, rfl⟩
  rw [getElem?_ids, getElem?_ids, subscription?_modify, Option.map_map]
  congr 1
  funext s
  rw [Function.comp_apply]
  split
  · exact hf s
  · rfl

theorem sameRoll_fillPipeline (m : SubscriptionManager) : m.SameRoll m.fillPipeline := by
  obtain ⟨new, hf, -⟩ := fills_fillPipeline m
  exact ⟨hf.registry, by rw [ids, hf.subscriptions]; rfl, by rw [hf.stats]⟩

theorem sameRoll_addItems (k : SubscriptionKey)
    (l : List ((ClientHandle × MonitoredItemRequest) × MonitoredItemResult))
    (m : SubscriptionManager) : m.SameRoll (m.addItems k l).1 := by
  rw [addItems_eq]
  have hitems (items : List MonitoredItem) : m.SameRoll { m with items } := ⟨rfl, rfl, rfl⟩
  exact (hitems _).trans (sameRoll_modifySubscription
    (f := fun s => { s with items := s.items.putItems m.items.length _ }) (fun s => rfl) k _)

theorem sameRoll_removeItems (k : SubscriptionKey) (results : List (ItemKey × StatusCode))
    (m : SubscriptionManager) : m.SameRoll (m.removeItems k results) := by
  unfold removeItems
  induction results generalizing m with
  | nil => exact .refl m
  | cons x rest ih =>
    have h : m.SameRoll (m.removeItem k x.1 x.2) := by
      unfold removeItem
      split
      · split
        · refine sameRoll_modifySubscription (fun s => ?_) k m
          rfl
        · exact .refl m
      · exact .refl m
    exact h.trans (ih _)

/-! ### Workers, attempts and recoveries -/

theorem sameRoll_deliverTurn (m : SubscriptionManager) : m.SameRoll m.deliverTurn.1 := by
  refine (sameTables_deliverTurn m).sameRoll ?_
  unfold deliverTurn
  split
  · rename_i d yields q e
    cases d with
    | message id message =>
      obtain ⟨_, _, e⟩ := dispatch_eq (id, message) { m with delivery := q }
      exact congrArg (fun m => m.stats.turnover) e
    | value i v =>
      change ((deliverTo i _ _).1).stats.turnover = _
      unfold deliverTo
      split <;> rfl
  all_goals rfl

theorem sameRoll_processTurn (m : SubscriptionManager) : m.SameRoll m.processTurn.1 := by
  unfold processTurn
  split
  · rename_i a yields q e
    unfold process
    split
    · split
      · rw [accept_eq]
        exact ⟨rfl, rfl, rfl⟩
      · exact ⟨rfl, rfl, rfl⟩
    · exact ⟨rfl, rfl, rfl⟩
  all_goals exact ⟨rfl, rfl, rfl⟩

theorem AttemptTurn.sameRoll {id : WorkId} (h : m.AttemptTurn id m') : m.SameRoll m' := by
  refine h.sameTables.sameRoll ?_
  have hfill (m : SubscriptionManager) : m.fillPipeline.stats.turnover = m.stats.turnover :=
    (sameRoll_fillPipeline m).turnover
  have hcomplete (a : Attempt) (outcome : Except Error PublishAnswer) (clock : Nat)
      (m : SubscriptionManager) :
      (m.completeAttempt id a outcome clock).stats.turnover = m.stats.turnover := by
    unfold completeAttempt
    dsimp only
    repeat' split
    all_goals first | exact hfill _ | rfl
  cases h with
  | rests | starts | waits => rfl
  | fails | ends => exact hcomplete ..
  | resumes => exact hfill _

theorem sameRoll_perform (s : SubscriptionId) (e : RecoveryEvent) (m : SubscriptionManager) :
    m.SameRoll (e.perform s m) := by
  cases e with
  | republished number outcome =>
    cases outcome with
    | error e => exact .refl m
    | ok message =>
      unfold RecoveryEvent.perform
      dsimp only
      split
      · exact ⟨rfl, rfl, rfl⟩
      · exact .refl m
  | valueRead i outcome =>
    unfold RecoveryEvent.perform valueRead
    dsimp only
    split <;> exact ⟨rfl, rfl, rfl⟩
  | fallsBack | reads => exact ⟨rfl, rfl, rfl⟩
  | asks | sends | stops | ends => exact .refl m

theorem sameRoll_foldl_perform (s : SubscriptionId) (log : List RecoveryEvent)
    (m : SubscriptionManager) : m.SameRoll (log.foldl (RecoveryEvent.perform s) m) := by
  induction log generalizing m with
  | nil => exact .refl m
  | cons e log ih => exact (sameRoll_perform s e m).trans (ih _)

theorem coversCommon_sameRoll : CoversCommon SameRoll where
  refl := .refl
  begins op clock m := by
    obtain ⟨_, h⟩ := unaltered_begin op clock m
    rw [h]
    exact ⟨rfl, rfl, rfl⟩
  stops m := by
    unfold shutDown
    split <;> exact ⟨rfl, rfl, rfl⟩
  abandons m := by
    unfold abandon shutDown
    dsimp only
    repeat' split
    all_goals exact ⟨rfl, rfl, rfl⟩
  listens _ _ := ⟨rfl, rfl, rfl⟩
  attaches _ _ _ := ⟨rfl, rfl, rfl⟩

/-! ## Answers -/

/-- From `m` to `m'` a subscription is registered, one is removed, or neither. The one that is
registered has a key of its own. -/
inductive Enrols (m m' : SubscriptionManager) : Option Enrolment → Prop
  | rests : m.SameRoll m' → Enrols m m' none
  | registers (s : SubscriptionId) : m'.registry = m.registry.insert s m.ids.length →
    m'.ids = m.ids ++ [s] →
    m'.stats.turnover = (m.stats.subscriptionsCreated + 1, m.stats.subscriptionsDeleted) →
    Enrols m m' (some (.registers s))
  | removes (s : SubscriptionId) : m'.registry = m.registry.erase s → m'.ids = m.ids →
    m'.stats.turnover = (m.stats.subscriptionsCreated, m.stats.subscriptionsDeleted + 1) →
    Enrols m m' (some (.removes s))

theorem enrols_apply (clock : Nat) (op : PendingOperation) (answer : op.service.Answer)
    (m : SubscriptionManager) :
    m.Enrols (m.apply clock op answer).1 (op.enrolment? m answer) := by
  cases op with
  | create p since =>
    have hfill := sameRoll_fillPipeline { m with
      subscriptions := m.subscriptions ++
        [.ofParameters answer.subscription (p.revise answer.revised)]
      registry := m.registry.insert answer.subscription m.subscriptions.length
      stats := m.stats.recordSubscriptionCreated (.ofMillis (UInt64.ofNat (clock - since))) }
    refine .registers answer.subscription ?_ (hfill.ids.trans ?_) hfill.turnover
    · rw [length_ids]
      exact hfill.registry
    · exact List.map_append
  | delete k =>
    unfold apply PendingOperation.enrolment?
    dsimp only
    split
    · exact .rests (.refl m)
    · have hfill := sameRoll_fillPipeline { m with
        registry := m.registry.erase (m.idOf k)
        cursors := m.cursors.erase (m.idOf k)
        acknowledgements := m.acknowledgements.discard (m.idOf k)
        stats := m.stats.recordSubscriptionDeleted }
      exact .removes (m.idOf k) hfill.registry hfill.ids hfill.turnover
  | modify k p =>
    exact .rests ((sameRoll_modifySubscription (f := (·.applyRevised answer p)) (fun s => rfl) k
      m).trans (sameRoll_fillPipeline _))
  | setPublishing k enabled =>
    unfold apply
    dsimp only
    split
    · exact .rests (.refl m)
    · exact .rests (sameRoll_modifySubscription (f := (·.setPublishingEnabled enabled))
        (fun s => rfl) k m)
  | createItems k requests =>
    unfold apply
    dsimp only
    split
    · exact .rests (.refl m)
    · exact .rests (sameRoll_addItems k _ m)
  | deleteItems k items => exact .rests (sameRoll_removeItems k _ m)

/-- What has passed its check waits, and does not succeed at once. -/
theorem eq_of_startIf {check : Except Error Unit} {op op' : PendingOperation}
    (h : startIf check op = .pending op') : op = op' := by
  unfold startIf at h
  split at h
  · exact OperationStart.pending.inj h
  · cases h

theorem startIf_ne_ok (check : Except Error Unit) (op : PendingOperation)
    (result : OperationResult) : startIf check op ≠ .finished (.ok result) := by
  unfold startIf
  split <;> nofun

theorem pending_of_begin_delete {clock : Nat} {op : PendingOperation}
    (h : (m.begin (.delete k) clock).2 = .pending op) : op = .delete k :=
  (eq_of_startIf h).symm

/-- An answer to a deletion removes what is registered under the id, if it does anything. -/
theorem eq_removes_of_delete {results : List StatusCode} {e : Enrolment}
    (h : (PendingOperation.delete k).enrolment? m results = some e) : e = .removes (m.idOf k) := by
  unfold PendingOperation.enrolment? at h
  dsimp only at h
  split at h
  · cases h
  · exact (Option.some.inj h).symm

/-- The id of a subscription that another one takes the place of. -/
def replaced (m : SubscriptionManager) : Option Enrolment → List SubscriptionId
  | some (.registers s) => if m.registry.contains s then [s] else []
  | some (.removes _) | none => []

/-- The id of a subscription that is deleted and is not registered. -/
def missed (m : SubscriptionManager) : Option Enrolment → List SubscriptionId
  | some (.removes s) => if m.registry.contains s then [] else [s]
  | some (.registers _) | none => []

theorem Enrols.balance {e : Option Enrolment} (h : m.Enrols m' e) :
    m'.registry.size + m'.stats.subscriptionsDeleted + (m.replaced e).length +
        m.stats.subscriptionsCreated =
      m.registry.size + m.stats.subscriptionsDeleted + m'.stats.subscriptionsCreated +
        (m.missed e).length := by
  cases h with
  | rests h =>
    obtain ⟨hcreated, hdeleted⟩ := Prod.mk.inj h.turnover
    rw [h.registry, hcreated, hdeleted]
    rfl
  | registers s hr _ ht =>
    obtain ⟨hcreated, hdeleted⟩ := Prod.mk.inj ht
    rw [hr, hcreated, hdeleted, Table.size_insert, replaced, missed]
    split
    · rw [List.length_singleton, List.length_nil]
      omega
    · rw [List.length_nil]
      omega
  | removes s hr _ ht =>
    obtain ⟨hcreated, hdeleted⟩ := Prod.mk.inj ht
    rw [hr, hcreated, hdeleted, m.registry.size_erase s, replaced, missed]
    split
    · rw [List.length_nil]
      omega
    · rw [List.length_singleton, List.length_nil]
      omega

/-! ## The entry under an id -/

/-- The entry under an id is the last subscription with this id. -/
structure KeepsLatest (m : SubscriptionManager) : Prop where
  id : ∀ {s k}, m.registry.find? s = some k → m.ids[k]? = some s
  latest : ∀ {s k k'}, m.registry.find? s = some k → m.ids[k']? = some s → k' ≤ k

theorem keepsLatest_fresh (config : ClientConfig) : (fresh config).KeepsLatest := ⟨nofun, nofun⟩

theorem Enrols.keepsLatest {e : Option Enrolment} (h : m.Enrols m' e) (hm : m.KeepsLatest) :
    m'.KeepsLatest := by
  cases h with
  | rests h =>
    obtain ⟨hr, hi, -⟩ := h
    exact ⟨fun hk => hi ▸ hm.id (hr ▸ hk), fun hk hk' => hm.latest (hr ▸ hk) (hi ▸ hk')⟩
  | registers s hr hi =>
    refine ⟨fun {s' k} hk => ?_, fun {s' k k'} hk hk' => ?_⟩
    · rw [hr, Table.find?_insert] at hk
      rw [hi]
      split at hk
      · rename_i hs
        obtain rfl := Option.some.inj hk
        rw [hs, List.getElem?_concat_length]
      · have hid := hm.id hk
        rwa [List.getElem?_append_left (List.getElem?_eq_some_iff.1 hid).1]
    · rw [hr, Table.find?_insert] at hk
      have hlt := (List.getElem?_eq_some_iff.1 hk').1
      rw [hi, List.length_append, List.length_singleton] at hlt
      rw [hi, List.getElem?_append] at hk'
      split at hk
      · obtain rfl := Option.some.inj hk
        exact Nat.le_of_lt_succ hlt
      · rename_i hs
        split at hk'
        · exact hm.latest hk hk'
        · -- The new subscription has another id.
          exact absurd (List.mem_singleton.1 (List.mem_of_getElem? hk')) hs
  | removes s hr hi =>
    have hfind {s' k} (hk : m'.registry.find? s' = some k) : m.registry.find? s' = some k := by
      rw [hr, Table.find?_erase] at hk
      split at hk
      · cases hk
      · exact hk
    exact ⟨fun hk => hi ▸ hm.id (hfind hk), fun hk hk' => hm.latest (hfind hk) (hi ▸ hk')⟩

theorem Enrols.keeps_ids {e : Option Enrolment} (h : m.Enrols m' e) : m.ids <+: m'.ids := by
  cases h with
  | rests h => exact h.ids ▸ List.prefix_refl _
  | registers s _ hi => exact hi ▸ List.prefix_append ..
  | removes s _ hi => exact hi ▸ List.prefix_refl _

/-- An entry is only taken away by an answer about its id. -/
theorem Enrols.of_find? {e : Option Enrolment} (h : m.Enrols m' e)
    (hk : m.registry.find? s = some k) (hk' : m'.registry.find? s ≠ some k) :
    e = some (.registers s) ∨ e = some (.removes s) := by
  cases h with
  | rests h => exact absurd (h.registry ▸ hk) hk'
  | registers s' hr =>
    rw [hr, Table.find?_insert] at hk'
    split at hk'
    · rename_i hs
      exact .inl (hs ▸ rfl)
    · exact absurd hk hk'
  | removes s' hr =>
    rw [hr, Table.find?_erase] at hk'
    split at hk'
    · rename_i hs
      exact .inr (hs ▸ rfl)
    · exact absurd hk hk'

end SubscriptionManager

namespace Client

open SubscriptionManager

variable {c : Client} {h : Happening} {s : SubscriptionId} {k k' : SubscriptionKey}

/-! ## Runs -/

/-- The operation whose call takes its answer, and the answer. -/
def answered? (c : Client) (h : Happening) : Option ((op : PendingOperation) × op.service.Answer) :=
  match h with
  | .act (.run (.call id)) =>
    match c.calls.lookup id with
    | some ⟨_, .operating op phase⟩ =>
      match (c.service.advance (c.operationCall op c.managed) phase).2 with
      | .done (.ok answer) => some ⟨op, answer⟩
      | _ => none
    | _ => none
  | _ => none

/-- What is done to the registry. -/
def enrolment? (c : Client) (h : Happening) : Option Enrolment :=
  (c.answered? h).bind fun x => x.1.enrolment? c.managed x.2

theorem answered?_of_operating {id : CallId} {job : Job} {op : PendingOperation}
    {phase : CallPhase} (hl : c.calls.lookup id = some ⟨job, .operating op phase⟩) :
    c.answered? (.act (.run (.call id))) =
      match (c.service.advance (c.operationCall op c.managed) phase).2 with
      | .done (.ok answer) => some ⟨op, answer⟩
      | _ => none := by
  unfold answered?
  dsimp only
  rw [hl]

theorem answered?_eq_some {op : PendingOperation} {answer : op.service.Answer}
    (ha : c.answered? h = some ⟨op, answer⟩) : ∃ id job phase, h = .act (.run (.call id)) ∧
      c.calls.lookup id = some ⟨job, .operating op phase⟩ := by
  unfold answered? at ha
  split at ha
  · split at ha
    · rename_i hl
      split at ha
      · cases ha
        exact ⟨_, _, _, rfl, hl⟩
      · cases ha
    · cases ha
  · cases ha

theorem sameRoll_pollRecovery (id : WorkId) (c : Client) :
    c.Moves SameRoll (c.pollRecovery id).1 := by
  refine moves_pollRecovery SameRoll.refl fun hm hr => ?_
  rename_i m r
  have hlog := sameRoll_foldl_perform r.subscription (c.recoveryLog id) m
  rcases (recounts_pollRecovery hm hr).course with ⟨stage, -, hm'⟩ | ⟨-, hm'⟩
  · exact ⟨_, hm', hlog.trans ⟨rfl, rfl, rfl⟩⟩
  · refine ⟨_, hm', hlog.trans ?_⟩
    rw [endRecovery_eq]
    exact ⟨rfl, rfl, rfl⟩

/-- A call that takes an answer has the manager apply it, and returns what comes of that. -/
theorem undergo_of_answered (hc : c.Serving) {id : CallId} {op : PendingOperation}
    {answer : op.service.Answer} (ha : c.answered? (.act (.run (.call id))) = some ⟨op, answer⟩) :
    ∃ clock, ∀ {m result}, c.managed.apply clock op answer = (m, result) →
      (c.undergo (.act (.run (.call id)))).managed = m ∧
      (c.undergo (.act (.run (.call id)))).finished.lookup id = some (.operated result) := by
  obtain ⟨id', job, phase, e, hl⟩ := answered?_eq_some ha
  cases e
  rw [answered?_of_operating hl] at ha
  rw [undergo_act (by nofun), act_of_operating hl]
  rcases advanceOperation_cases hc.manager id op phase with
    ⟨phase', posted, e, -⟩ | ⟨outcome, e, clock, hr⟩
  · rw [e] at ha
    cases ha
  · rw [e] at ha
    cases outcome with
    | error e => cases ha
    | ok answer' =>
      cases ha
      refine ⟨clock, fun happly => ?_⟩
      have hfinish : c.managed.finish clock op (.ok answer) = (_, _) := happly
      rw [hr, hfinish]
      exact ⟨managed_of_eq rfl, (lookup_finish ..).2⟩

/-- Where no answer is taken, the registry stays as it is. -/
theorem sameRoll_of_unanswered (hc : c.Serving) (ha : c.answered? h = none) :
    c.managed.SameRoll (c.undergo h).managed := by
  -- An operation that goes on waits once more, or its exchange has failed.
  have hmoves {id : CallId} {job : Job} {op : PendingOperation} {phase : CallPhase}
      (e : h = .act (.run (.call id))) (hl : c.calls.lookup id = some ⟨job, .operating op phase⟩) :
      c.Moves SameRoll (c.advanceOperation id op phase).1 := by
    subst e
    rw [answered?_of_operating hl] at ha
    rcases advanceOperation_cases hc.manager id op phase with
      ⟨phase', posted, -, hr⟩ | ⟨outcome, e, clock, hr⟩
    · rw [hr]
      exact ((keeps_service _ c).trans (keeps_setCall ..)).rests .refl
    · cases outcome with
      | error error =>
        rw [hr]
        exact ((keeps_service _ c).moves
          (moves_manager (by exact hc.manager) (.refl _))).keeps (keeps_finish ..)
      | ok answer =>
        rw [e] at ha
        cases ha
  obtain ⟨m', hm', hroll⟩ := (moves_undergo coversCommon_sameRoll AttemptTurn.sameRoll
    sameRoll_deliverTurn sameRoll_processTurn (sameRoll_pollRecovery · c) hc.settled hmoves).2 _
    hc.manager
  rwa [managed_of_eq hm']

/-- Answers register and remove subscriptions, and nothing else does. -/
theorem enrols_undergo (hc : c.Serving) (h : Happening) :
    c.managed.Enrols (c.undergo h).managed (c.enrolment? h) := by
  unfold enrolment?
  cases ha : c.answered? h with
  | none => exact .rests (sameRoll_of_unanswered hc ha)
  | some x =>
    obtain ⟨op, answer⟩ := x
    obtain ⟨id, job, phase, rfl, -⟩ := answered?_eq_some ha
    obtain ⟨clock, happlied⟩ := undergo_of_answered hc ha
    rw [(happlied rfl).1]
    exact enrols_apply clock op answer c.managed

/-- What takes an entry away is an answer about its id. -/
theorem exists_answer_of_gone (hc : c.Serving) (hk : c.managed.registry.find? s = some k)
    (hk' : (c.undergo h).managed.registry.find? s ≠ some k) :
    ∃ op answer, c.answered? h = some ⟨op, answer⟩ ∧
      (op.enrolment? c.managed answer = some (.registers s) ∨
        op.enrolment? c.managed answer = some (.removes s)) := by
  rcases (enrols_undergo hc h).of_find? hk hk' with he | he
  · obtain ⟨⟨op, answer⟩, ha, he⟩ := Option.bind_eq_some_iff.1 he
    exact ⟨op, answer, ha, .inl he⟩
  · obtain ⟨⟨op, answer⟩, ha, he⟩ := Option.bind_eq_some_iff.1 he
    exact ⟨op, answer, ha, .inr he⟩

theorem Serving.keepsLatest_later (hc : c.Serving) (hm : c.managed.KeepsLatest)
    (hs : List Happening) : (c.later hs).managed.KeepsLatest := by
  induction hs generalizing c with
  | nil => exact hm
  | cons h hs ih => exact ih (hc.undergo h) ((enrols_undergo hc h).keepsLatest hm)

theorem Begins.keepsLatest_later (hc : c.Begins) (hn : c.NumbersCalls) (hs : List Happening) :
    (c.later hs).managed.KeepsLatest := by
  refine (hc.serving hn).keepsLatest_later ?_ hs
  rw [managed_of_eq hc.manager]
  exact keepsLatest_fresh _

/-- Subscriptions keep their keys and their ids. -/
theorem Serving.ids_prefix_later (hc : c.Serving) (hs : List Happening) :
    c.managed.ids <+: (c.later hs).managed.ids := by
  induction hs generalizing c with
  | nil => exact List.prefix_refl _
  | cons h hs ih => exact (enrols_undergo hc h).keeps_ids.trans (ih (hc.undergo h))

theorem Serving.getElem?_ids_later (hc : c.Serving) (hk : c.managed.ids[k]? = some s)
    (hs : List Happening) : (c.later hs).managed.ids[k]? = some s := by
  obtain ⟨l, hl⟩ := hc.ids_prefix_later hs
  rw [← hl, List.getElem?_append_left (List.getElem?_eq_some_iff.1 hk).1]
  exact hk

/-- A call takes an answer to what the operation has begun that it performs. -/
theorem Begins.begin_of_answered (hc : c.Begins) (hn : c.NumbersCalls) (hi : c.Idle)
    {hs : List Happening} {id : CallId} {o : Operation} (hp : (c.later hs).Performs id o)
    {op : PendingOperation} {answer : op.service.Answer}
    (ha : (c.later hs).answered? (.act (.run (.call id))) = some ⟨op, answer⟩) :
    ∃ m clock, (SubscriptionManager.begin o clock m).2 = .pending op := by
  obtain ⟨id', job, phase, e, hl⟩ := answered?_eq_some ha
  cases e
  obtain ⟨o', m, clock, rfl, hbegin⟩ := (hc.corresponds hn hi hs hl).job
  obtain ⟨hjob, -⟩ := hp _ hl
  cases hjob
  exact ⟨m, clock, hbegin⟩

/-! ## The account -/

/-- The ids whose subscriptions others take the place of. -/
def replaces (c : Client) (h : Happening) : List SubscriptionId :=
  c.managed.replaced (c.enrolment? h)

/-- The ids under which nothing is registered any more when they are deleted. -/
def misses (c : Client) (h : Happening) : List SubscriptionId := c.managed.missed (c.enrolment? h)

/-- As many subscriptions are registered as have been created, less those that have been deleted,
apart from those that others have taken the place of and those that were not registered when they
were deleted. -/
theorem balanced (hc : c.Begins) (hn : c.NumbersCalls) (hs : List Happening) :
    let m := (c.later hs).managed
    m.registry.size + m.stats.subscriptionsDeleted + (c.gather replaces hs).length =
      m.stats.subscriptionsCreated + (c.gather misses hs).length := by
  induction hs using List.reverseRecOn with
  | nil =>
    rw [later_nil, managed_of_eq hc.manager]
    rfl
  | append_singleton hs h ih =>
    have hstep := (enrols_undergo ((hc.serving hn).later hs) h).balance
    dsimp only at ih ⊢
    rw [gather_snoc, gather_snoc, later_snoc, List.length_append, List.length_append, replaces,
      misses]
    omega

/-- In every run, as long as whatever has been deleted was registered until then, as many
subscriptions are registered as have been created, less those that have been deleted and those that
others have taken the place of. What a call takes away that deletes the subscription `k` has the id
of `k`, and is either `k` itself or was created later. So it does not take away what has been
created since it was made, unless the server has used the id again. -/
theorem subscriptions_accounted (hc : c.Begins) (hn : c.NumbersCalls) (hi : c.Idle) :
    (∀ hs, c.gather misses hs = [] →
      let m := (c.later hs).managed
      m.registry.size + m.stats.subscriptionsDeleted + (c.gather replaces hs).length =
        m.stats.subscriptionsCreated) ∧
    ∀ hs hs' k (hj : Job.operate (.delete k) ≠ .connect),
      let c₀ := c.later hs
      let c₁ := c.later (hs ++ .act (.call (.operate (.delete k)) hj) :: hs')
      k < c₀.managed.ids.length → ∀ {s k'}, c₁.managed.registry.find? s = some k' →
        (c₁.undergo (.act (.run (.call c₀.nextCall)))).managed.registry.find? s ≠ some k' →
        c₀.managed.ids[k]? = some s ∧ c₁.managed.ids[k']? = some s ∧ k ≤ k' ∧
          ((∀ n, c₀.managed.ids.length ≤ n → c₁.managed.ids[n]? ≠ some s) →
            k' < c₀.managed.ids.length) := by
  refine ⟨fun hs hmiss => ?_, ?_⟩
  · have hbalance := balanced hc hn hs
    rw [hmiss] at hbalance
    exact hbalance
  intro hs hs' k hj c₀ c₁ hk s k' hfind hgone
  have hserves₀ := (hc.serving hn).later hs
  have hserves₁ := (hc.serving hn).later (hs ++ .act (.call (.operate (.delete k)) hj) :: hs')
  have hlater : c₁ = (c₀.undergo (.act (.call (.operate (.delete k)) hj))).later hs' := by
    rw [← later_cons, ← later_append]
  -- The call has deleted what was registered under the id of `k`.
  obtain ⟨op, answer, ha, henrol⟩ := exists_answer_of_gone hserves₁ hfind hgone
  have hperforms : c₁.Performs c₀.nextCall (.delete k) := by
    rw [hlater]
    exact hserves₀.performs_call (.delete k) hj hs'
  obtain ⟨m, clock, hbegin⟩ := hc.begin_of_answered hn hi hperforms ha
  obtain rfl := pending_of_begin_delete hbegin
  have hids : c₁.managed.idOf k = s := by
    rcases henrol with henrol | henrol
    · cases eq_removes_of_delete henrol
    · exact (Enrolment.removes.inj (eq_removes_of_delete henrol)).symm
  have hget := List.getElem?_eq_getElem hk
  have hlast : c₁.managed.ids[k]? = some c₀.managed.ids[k] := by
    rw [hlater]
    exact (hserves₀.undergo _).getElem?_ids_later (hserves₀.getElem?_ids_later hget [_]) hs'
  rw [idOf_of_ids hlast] at hids
  rw [hids] at hget hlast
  have hlatest := hc.keepsLatest_later hn (hs ++ .act (.call (.operate (.delete k)) hj) :: hs')
  have hk' := hlatest.id hfind
  refine ⟨hget, hk', hlatest.latest hfind hlast, fun hnew => ?_⟩
  by_contra hge
  exact hnew k' (Nat.le_of_not_lt hge) hk'

/-! ## Samples -/

/-- The sample client creates another subscription, and the server uses the id of the first one. -/
def sampleReplaced : List Action := sampleStart ++ recreating 2 2 ++ [.run (.call 2)]

/-- While the second subscription is being deleted, a third one is created. -/
def sampleThird : List Happening :=
  .act (.run (.call 3)) :: (operating 4 4 (.create ⟨100.0, 30, 10, 0, true, 0⟩)
    (goodReply .createSubscription ⟨8, ⟨100.0, 30, 10⟩⟩)).map .act ++
      [.act (.reply 3 (goodReply .deleteSubscriptions [.good]))]

set_option maxRecDepth 2000 in
/-- The deletion takes away the second subscription, and not the third one. -/
theorem subscriptions_accounted_sample :
    let hs := sampleReplaced.map .act
    let hs' := .act (.call (.operate (.delete 1)) nofun) :: sampleThird
    let m := (sample.later (hs ++ hs')).managed
    let m' := ((sample.later (hs ++ hs')).undergo (.act (.run (.call 3)))).managed
    sample.Begins ∧ sample.NumbersCalls ∧ sample.Idle ∧
      sample.gather misses (hs ++ hs') = [] ∧ sample.gather replaces (hs ++ hs') = [7] ∧
      m.registry.size + m.stats.subscriptionsDeleted + 1 = m.stats.subscriptionsCreated ∧
      m.registry.find? 7 = some 1 ∧ m'.registry.find? 7 ≠ some 1 ∧
      m.ids = [7, 7, 8] ∧ 1 < (sample.later hs).managed.ids.length := by
  intro hs hs' m m'
  have hn : sample.NumbersCalls := ⟨nofun, nofun⟩
  have hi : sample.Idle := fun _ => operates_of_none rfl
  have hmiss : sample.gather misses (hs ++ hs') = [] := by decide +kernel
  have hreplaced : sample.gather replaces (hs ++ hs') = [7] := by decide +kernel
  have hfind : m.registry.find? 7 = some 1 := by decide +kernel
  have hgone : m'.registry.find? 7 ≠ some 1 := by decide +kernel
  have hids : m.ids = [7, 7, 8] := by decide +kernel
  obtain ⟨hcount, hdelete⟩ := subscriptions_accounted sample_begins hn hi
  have hsize := hcount (hs ++ hs') hmiss
  rw [hreplaced] at hsize
  obtain ⟨-, -, -, hlt⟩ := hdelete hs sampleThird 1 nofun (by decide +kernel) hfind hgone
  refine ⟨sample_begins, hn, hi, hmiss, hreplaced, hsize, hfind, hgone, hids, hlt fun n hle => ?_⟩
  have hlen : (sample.later hs).managed.ids.length = 2 := by decide +kernel
  change m.ids[n]? ≠ some 7
  rw [hids]
  match n, hlen ▸ hle with
  | 2, _ => decide
  | n + 3, _ => exact nofun

/-- The sample client deletes its subscription twice at once, and the server answers the second
request that there is no such subscription. -/
def sampleDeletes : List Action :=
  sampleStart ++ [.call (.operate (.delete 0)) nofun, .call (.operate (.delete 0)) nofun,
    .run (.call 2), .run (.call 3), .reply 2 (goodReply .deleteSubscriptions [.good]),
    .run (.call 2), .reply 3 (goodReply .deleteSubscriptions [.badSubscriptionIdInvalid])]

/-- Before the answer to the second request is taken, a new subscription gets the same id. -/
def sampleRecreates : List Action := sampleDeletes ++ recreating 4 4 ++ [.run (.call 4)]

/-- A subscription that another one takes the place of is not counted as deleted, and one that is
deleted twice is counted twice. If the server has used the id again before the second deletion
ends, then that takes away the new subscription. -/
theorem subscriptions_miscounted :
    let replaced := (sample.later (sampleReplaced.map .act)).managed
    let deleted := (sample.later (sampleDeletes.map .act ++ [.act (.run (.call 3))])).managed
    let recreated := (sample.later (sampleRecreates.map .act)).managed
    let removed := (sample.later (sampleRecreates.map .act ++ [.act (.run (.call 3))])).managed
    sample.Begins ∧ sample.NumbersCalls ∧ sample.Idle ∧
      (replaced.registry.size = 1 ∧ replaced.stats.turnover = (2, 0)) ∧
      (deleted.registry.size = 0 ∧ deleted.stats.turnover = (1, 2)) ∧
      recreated.registry.find? 7 = some 1 ∧ removed.registry.find? 7 = none ∧
      (sample.later (sampleStart.map .act)).managed.ids.length = 1 :=
  ⟨sample_begins, ⟨nofun, nofun⟩, fun _ => operates_of_none rfl, by decide +kernel,
    by decide +kernel, by decide +kernel, by decide +kernel, by decide +kernel⟩

end Client

end OpcUa
