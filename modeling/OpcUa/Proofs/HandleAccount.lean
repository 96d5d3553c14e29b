import Mathlib.Algebra.Order.BigOperators.Group.Finset
import OpcUa.Proofs.Dispatching
import OpcUa.Proofs.ItemResults
import OpcUa.Proofs.OperationTurn

/-!
# The account of client handles

Handles are given out when a call begins to create items. The call keeps them until its request is
sent, and the items that come of it have them for good. Nothing is given out twice before the
handles have gone round, so no handle is sent twice until then, and no two items share one.

* `Client.issuing`, `Client.sending`: the handles that a happening gives out, and those that it
  sends.
* `Client.Passes`: where the handles go in one step.
* `Client.Accounts`: the handles that were sent, that items have and that calls keep are among those
  that were given out.
* `Client.Begins.accounts`: it is so in every run.
-/

namespace OpcUa

namespace Handles

theorem take_takeMany {h : Handles} {s : Nat} (hs : h.take.1 = nth s) (n : Nat) :
    (takeMany n h).2.take.1 = nth (s + n) := by
  induction n generalizing h s with
  | zero => exact hs
  | succ n ih =>
    have h := ih (take_take hs)
    rwa [Nat.add_assoc, Nat.add_comm 1] at h

/-- The first handles are distinct, as long as they have not gone round. -/
theorem nodup_map_nth {n : Nat} (hn : n < UInt32.size) : ((List.range' 0 n).map nth).Nodup := by
  have h := nodup_takeMany hn fresh
  rwa [takeMany_fst (s := 0) rfl] at h

end Handles

/-! ## Where handles are -/

/-- The handles of the items that an operation is to add. -/
def PendingOperation.handles : PendingOperation → List ClientHandle
  | createItems _ requests => requests.map (·.1)
  | create .. | modify .. | delete _ | setPublishing .. | deleteItems .. => []

namespace CallStage

/-- The handles that a call keeps. -/
def handles : CallStage → List ClientHandle
  | operating op _ => op.handles
  | fresh | session _ | closing | calling _ | sending _ => []

/-- The handles that a call has not sent yet. -/
def unsent : CallStage → List ClientHandle
  | operating op phase => if phase.isSent then [] else op.handles
  | fresh | session _ | closing | calling _ | sending _ => []

end CallStage

/-- The handles of an operation are those of its request. -/
theorem itemHandles_operationQuery {m : SubscriptionManager} {op : PendingOperation} {p : Posted}
    (hp : p.request.question = ⟨op.service, m.operationQuery op⟩) :
    p.request.itemHandles = op.handles := by
  cases op with
  | createItems k requests =>
    unfold Request.itemHandles
    rw [hp]
    rfl
  | create | modify | delete | setPublishing | deleteItems =>
    refine Request.itemHandles_of_service hp ?_
    rintro ⟨⟩

namespace SubscriptionManager

variable {m m' : SubscriptionManager}

/-! ## Steps that do not touch handles -/

/-- From `m` to `m'` no handle is given out, and no item comes up. -/
structure SparesHandles (m m' : SubscriptionManager) : Prop where
  clientHandles : m'.clientHandles = m.clientHandles
  items : m'.items.map (·.handle) = m.items.map (·.handle)

theorem SparesHandles.refl (m : SubscriptionManager) : m.SparesHandles m := ⟨rfl, rfl⟩

/-- The items stay as they are. -/
theorem sparesHandles_of_eq (hc : m'.clientHandles = m.clientHandles) (hi : m'.items = m.items) :
    m.SparesHandles m' :=
  ⟨hc, hi ▸ rfl⟩

theorem SameTables.handles (h : m.SameTables m') :
    m'.items.map (·.handle) = m.items.map (·.handle) := by
  apply List.ext_getElem?
  intro i
  rw [List.getElem?_map, List.getElem?_map]
  exact h.item? i

theorem clientHandles_armUpTo (n : Nat) (m : SubscriptionManager) :
    (m.armUpTo n).clientHandles = m.clientHandles := by
  induction n generalizing m with
  | zero => rfl
  | succ n ih =>
    unfold armUpTo
    split
    · rename_i m' e
      unfold armNext? at e
      dsimp only at e
      split at e
      · cases e
        exact ih _
      · cases e
    · rfl

theorem clientHandles_fillPipeline (m : SubscriptionManager) :
    m.fillPipeline.clientHandles = m.clientHandles := by
  unfold fillPipeline
  split
  · exact clientHandles_armUpTo _ m
  · rfl

theorem AttemptTurn.sparesHandles {w : WorkId} (h : m.AttemptTurn w m') : m.SparesHandles m' := by
  refine sparesHandles_of_eq ?_ h.items
  have hcomplete (a : Attempt) (outcome : Except Error PublishAnswer) (clock : Nat)
      (m : SubscriptionManager) :
      (m.completeAttempt w a outcome clock).clientHandles = m.clientHandles := by
    unfold completeAttempt
    dsimp only
    repeat' split
    all_goals first | exact clientHandles_fillPipeline _ | rfl
  cases h with
  | rests | starts | waits => rfl
  | fails | ends => exact hcomplete ..
  | resumes => exact clientHandles_fillPipeline _

theorem sparesHandles_deliverTurn (m : SubscriptionManager) : m.SparesHandles m.deliverTurn.1 := by
  refine ⟨?_, (sameTables_deliverTurn m).handles⟩
  unfold deliverTurn
  split
  · rename_i d yields q e
    cases d with
    | message id message =>
      obtain ⟨_, _, h⟩ := dispatch_eq (id, message) { m with delivery := q }
      exact (congrArg (·.clientHandles) h).trans rfl
    | value k v =>
      have hsees (item : MonitoredItem) : (item.deliverValue v).seen = item.sees (.value 0 v) := rfl
      obtain ⟨_, h⟩ := deliverTo_eq (m := { m with delivery := q }) (j := k) hsees
      exact (congrArg (·.clientHandles) h).trans rfl
  all_goals rfl

theorem sparesHandles_shutDown (m : SubscriptionManager) : m.SparesHandles m.shutDown := by
  unfold shutDown
  split <;> exact sparesHandles_of_eq rfl rfl

theorem sparesHandles_abandon (m : SubscriptionManager) : m.SparesHandles m.abandon := by
  have h := sparesHandles_shutDown m
  unfold abandon
  dsimp only
  split <;> exact ⟨h.clientHandles, h.items⟩

/-! ## Operations -/

/-- The end of an operation gives no handles out, and adds items with the handles that it keeps. -/
theorem handles_finish (clock : Nat) (op : PendingOperation)
    (outcome : Except Error op.service.Answer) (m : SubscriptionManager) :
    (m.finish clock op outcome).1.clientHandles = m.clientHandles ∧
      ∃ new, new.Sublist op.handles ∧
        (m.finish clock op outcome).1.items.map (·.handle) = m.items.map (·.handle) ++ new := by
  have hspares {m' : SubscriptionManager} (h : m.SparesHandles m') :
      m'.clientHandles = m.clientHandles ∧ ∃ new, new.Sublist op.handles ∧
        m'.items.map (·.handle) = m.items.map (·.handle) ++ new :=
    ⟨h.clientHandles, [], List.nil_sublist _, h.items.trans (List.append_nil _).symm⟩
  cases outcome with
  | error e => exact hspares (.refl m)
  | ok answer =>
    have happlies := applies_apply clock op answer m
    change (m.apply clock op answer).1.clientHandles = _ ∧ ∃ new, _ ∧
      (m.apply clock op answer).1.items.map _ = _
    generalize (m.apply clock op answer).1 = m' at happlies ⊢
    cases happlies with
    | refused => exact hspares (.refl m)
    | created | modified | deleted =>
      exact hspares (sparesHandles_of_eq (clientHandles_fillPipeline _) (items_fillPipeline _))
    | publishingSet => exact hspares (sparesHandles_of_eq rfl rfl)
    | itemsDeleted k items results =>
      obtain ⟨_, h⟩ := exists_removeItems_eq k (items.zip results) m
      rw [h]
      exact hspares (sparesHandles_of_eq rfl rfl)
    | itemsCreated k requests results =>
      rw [addItems_eq]
      exact ⟨rfl, _, sublist_handles_granted requests results _ _, List.map_append⟩

/-- An operation that begins gets the handles that come next. -/
theorem handles_begin {o : Operation} {clock : Nat} {op : PendingOperation}
    (h : (m.begin o clock).2 = .pending op) :
    let taken := Handles.takeMany op.handles.length m.clientHandles
    (m.begin o clock).1.items = m.items ∧ (m.begin o clock).1.clientHandles = taken.2 ∧
      op.handles = taken.1 := by
  have hstart {check : Except Error Unit} {p : PendingOperation} (hp : p.handles = [])
      (e : startIf check p = .pending op) : op.handles = [] := by
    unfold startIf at e
    split at e
    · cases e
      exact hp
    · cases e
  have hnone (e : op.handles = []) (hm : (m.begin o clock).1 = m) :
      (m.begin o clock).1.items = m.items ∧
        (m.begin o clock).1.clientHandles =
          (Handles.takeMany op.handles.length m.clientHandles).2 ∧
        op.handles = (Handles.takeMany op.handles.length m.clientHandles).1 := by
    rw [hm, e]
    exact ⟨rfl, rfl, rfl⟩
  cases o with
  | create | createWithInterval | modify | modifyInterval | delete | setPublishing =>
    exact hnone (hstart rfl h) rfl
  | deleteItems k items =>
    refine hnone ?_ ?_
    · unfold SubscriptionManager.begin at h
      dsimp only at h
      repeat' split at h
      all_goals cases h
      rfl
    · unfold SubscriptionManager.begin
      dsimp only
      repeat' split
      all_goals rfl
  | createItems k requests =>
    unfold SubscriptionManager.begin at h ⊢
    dsimp only at h ⊢
    split at h
    · cases h
    · split at h
      · cases h
      · rename_i hne
        rw [if_neg hne]
        cases h
        have hlen := length_takeMany requests.length m.clientHandles
        have hop : (PendingOperation.createItems k
            ((Handles.takeMany requests.length m.clientHandles).1.zip requests)).handles =
            (Handles.takeMany requests.length m.clientHandles).1 :=
          List.map_fst_zip (Nat.le_of_eq hlen)
        dsimp only
        rw [hop, hlen]
        exact ⟨rfl, rfl, rfl⟩

end SubscriptionManager

namespace Client

open SubscriptionManager

variable {c c' : Client} {id : CallId} {h : Happening} {f : CallStage → List ClientHandle}

/-! ## Handles that calls keep -/

/-- What the call `id` keeps, where `f` says what that is at each stage of a call. -/
def kept (f : CallStage → List ClientHandle) (id : CallId) (c : Client) : List ClientHandle :=
  ((c.calls.lookup id).map fun call => f call.stage).getD []

theorem kept_of_lookup {job : Job} {stage : CallStage}
    (hl : c.calls.lookup id = some ⟨job, stage⟩) : c.kept f id = f stage := by
  unfold kept
  rw [hl]
  rfl

theorem kept_of_none (hl : c.calls.lookup id = none) : c.kept f id = [] := by
  unfold kept
  rw [hl]
  rfl

/-- How often calls keep the handle `x`. -/
def keptCount (f : CallStage → List ClientHandle) (x : ClientHandle) (c : Client) : Nat :=
  ∑ id ∈ Finset.range c.nextCall, (c.kept f id).count x

theorem kept_undergo_of_ne (hid : id ≠ c.subject h) : (c.undergo h).kept f id = c.kept f id := by
  unfold kept
  rw [(spares_of_ne_subject hid).calls]

theorem NumbersCalls.kept_eq_nil (hc : c.NumbersCalls) (hid : c.nextCall ≤ id) :
    c.kept f id = [] :=
  kept_of_none (hc.lookup_eq_none hid)

/-- The other calls keep what they have. -/
theorem NumbersCalls.exists_keptCount (hc : c.NumbersCalls) (f : CallStage → List ClientHandle)
    (x : ClientHandle) (h : Happening) : ∃ rest,
      c.keptCount f x = (c.kept f (c.subject h)).count x + rest ∧
      (c.undergo h).keptCount f x = ((c.undergo h).kept f (c.subject h)).count x + rest := by
  have hc' := hc.undergo h
  have hle := c.nextCall_le h
  -- Numbers that are still free make no difference.
  have hext : c.keptCount f x =
      ∑ id ∈ Finset.range (c.undergo h).nextCall, (c.kept f id).count x := by
    refine Finset.sum_subset (Finset.range_mono hle) fun id _ hid => ?_
    rw [hc.kept_eq_nil (Nat.le_of_not_lt (Finset.mem_range.not.1 hid)), List.count_nil]
  -- The call that the happening is about is taken out of the sum.
  have hsplit (g : CallId → Nat)
      (hg : (c.undergo h).nextCall ≤ c.subject h → g (c.subject h) = 0) :
      ∑ id ∈ Finset.range (c.undergo h).nextCall, g id = g (c.subject h) +
        ∑ id ∈ (Finset.range (c.undergo h).nextCall).erase (c.subject h), g id := by
    by_cases hid : c.subject h ∈ Finset.range (c.undergo h).nextCall
    · exact (Finset.add_sum_erase _ g hid).symm
    · rw [Finset.erase_eq_of_notMem hid, hg (Nat.le_of_not_lt (Finset.mem_range.not.1 hid)),
        Nat.zero_add]
  refine ⟨_, hext.trans (hsplit _ fun hid => ?_), (hsplit _ fun hid => ?_).trans ?_⟩
  · rw [hc.kept_eq_nil (Nat.le_trans hle hid), List.count_nil]
  · rw [hc'.kept_eq_nil hid, List.count_nil]
  · refine congrArg _ (Finset.sum_congr rfl fun id hid => ?_)
    rw [kept_undergo_of_ne (Finset.ne_of_mem_erase hid)]

/-- A call that does not run keeps nothing more. -/
theorem NumbersCalls.kept_undergo (hc : c.NumbersCalls) (hf : f .fresh = [])
    (hrun : ∀ id, h ≠ .act (.run (.call id))) : (c.undergo h).kept f (c.subject h) = [] := by
  rcases hc.lookup_subject hrun with hl | ⟨job, hl⟩
  · exact kept_of_none hl
  · exact (kept_of_lookup hl).trans hf

/-! ## What goes out -/

/-- The handles that are given out when a call begins. -/
def issuing (c : Client) (h : Happening) : List ClientHandle :=
  match h with
  | .act (.run (.call id)) =>
    match c.calls.lookup id with
    | some ⟨.operate o, .fresh⟩ =>
      match (c.managed.begin o c.service.clock).2 with
      | .pending op => op.handles
      | .finished _ => []
    | _ => []
  | _ => []

/-- The handles that are sent. -/
def sending (c : Client) (h : Happening) : List ClientHandle :=
  (c.posting h).flatMap (·.request.itemHandles)

theorem issuing_of_begins {o : Operation} {op : PendingOperation}
    (hl : c.calls.lookup id = some ⟨.operate o, .fresh⟩)
    (hop : (c.managed.begin o c.service.clock).2 = .pending op) :
    c.issuing (.act (.run (.call id))) = op.handles := by
  unfold issuing
  dsimp only
  rw [hl]
  dsimp only
  rw [hop]

theorem issuing_of_not_begins (hb : ∀ o op, c.calls.lookup id = some ⟨.operate o, .fresh⟩ →
    (c.managed.begin o c.service.clock).2 ≠ .pending op) :
    c.issuing (.act (.run (.call id))) = [] := by
  unfold issuing
  dsimp only
  split
  · rename_i o hl
    split
    · rename_i op hop
      exact absurd hop (hb o op hl)
    · rfl
  · rfl

theorem sending_run_call (c : Client) (id : CallId) : c.sending (.act (.run (.call id))) =
    (c.pollCall id).2.toList.flatMap (·.request.itemHandles) := rfl

/-- Where the handles go in one step. -/
structure Passes (issued sent : List ClientHandle) (id : CallId) (c c' : Client) : Prop where
  takes : c'.managed.clientHandles = (Handles.takeMany issued.length c.managed.clientHandles).2
  gives : issued = (Handles.takeMany issued.length c.managed.clientHandles).1
  items : ∃ new, c'.managed.items.map (·.handle) = c.managed.items.map (·.handle) ++ new ∧
    ∀ x, new.count x + (c'.kept CallStage.handles id).count x ≤
      (c.kept CallStage.handles id).count x + issued.count x
  sends : ∀ x, sent.count x + (c'.kept CallStage.unsent id).count x ≤
    (c.kept CallStage.unsent id).count x + issued.count x

/-- No handle is given out, and no item comes up. -/
theorem passes_of_spares (hm : c.managed.SparesHandles c'.managed)
    (hk : ∀ x, (c'.kept CallStage.handles id).count x ≤ (c.kept CallStage.handles id).count x)
    {sent : List ClientHandle} (hs : ∀ x, sent.count x + (c'.kept CallStage.unsent id).count x ≤
      (c.kept CallStage.unsent id).count x) : Passes [] sent id c c' where
  takes := hm.clientHandles
  gives := rfl
  items := ⟨[], hm.items.trans (List.append_nil _).symm, fun x => by simpa using hk x⟩
  sends x := by simpa using hs x

theorem flatMap_itemHandles {posted : Option Posted}
    (h : ∀ p ∈ posted, p.request.itemHandles = []) :
    posted.toList.flatMap (·.request.itemHandles) = [] :=
  List.flatMap_eq_nil_iff.2 fun p hp => h p (Option.mem_toList.1 hp)

/-- The handles of an operation are kept until its request is sent. -/
theorem count_of_posts {op : PendingOperation} {m : SubscriptionManager} {phase : CallPhase}
    {posted : Option Posted} {job : Job} (h : Posts ⟨op.service, m.operationQuery op⟩ phase posted)
    (hl : c.calls.lookup id = some ⟨job, .operating op phase⟩) (x : ClientHandle) :
    (posted.toList.flatMap (·.request.itemHandles)).count x +
      (c.kept CallStage.unsent id).count x = op.handles.count x := by
  rw [kept_of_lookup hl]
  unfold CallStage.unsent
  dsimp only
  rcases h with ⟨hs, rfl⟩ | ⟨session, await, p, rfl, rfl, -, hq⟩
  · rw [if_neg (Bool.eq_false_iff.1 hs)]
    exact Nat.zero_add _
  · have hp := itemHandles_operationQuery hq
    rw [Option.toList_some, List.flatMap_singleton, hp]
    rfl

/-- A call without an operation keeps nothing. -/
theorem kept_of_operates (ho : c.Operates (fun _ => False) id)
    (hf : ∀ stage : CallStage, (∀ op phase, stage ≠ .operating op phase) → f stage = []) :
    c.kept f id = [] := by
  cases hl : c.calls.lookup id with
  | none => exact kept_of_none hl
  | some call =>
    obtain ⟨job, stage⟩ := call
    refine (kept_of_lookup hl).trans (hf _ fun op phase e => ?_)
    subst e
    exact ho.holds hl

theorem handles_of_not_operating {stage : CallStage}
    (hs : ∀ op phase, stage ≠ .operating op phase) : stage.handles = [] ∧ stage.unsent = [] := by
  cases stage with
  | operating op phase => exact absurd rfl (hs op phase)
  | fresh | session | closing | calling | sending => exact ⟨rfl, rfl⟩

theorem passes_run_call (hc : c.Serving) (id : CallId) :
    Passes (c.issuing (.act (.run (.call id)))) (c.sending (.act (.run (.call id)))) id c
      (c.undergo (.act (.run (.call id)))) := by
  have hu : c.undergo (.act (.run (.call id))) = (c.pollCall id).1 := rfl
  rw [sending_run_call, hu]
  have hturn := callTurn_pollCall hc id
  generalize c.pollCall id = run at hturn
  cases hturn with
  | rests hm ho hp hb =>
    rw [issuing_of_not_begins hb, flatMap_itemHandles hp]
    have hm : c.managed.SparesHandles run.1.managed := by
      rcases hm with hm | hm
      · exact hm ▸ .refl _
      · exact hm ▸ sparesHandles_shutDown _
    refine passes_of_spares hm (fun x => ?_) fun x => ?_
    · rw [kept_of_operates ho fun _ hs => (handles_of_not_operating hs).1]
      exact Nat.zero_le _
    · rw [kept_of_operates ho fun _ hs => (handles_of_not_operating hs).2]
      exact Nat.zero_le _
  | begins hl hop hm hl' hp =>
    obtain ⟨hitems, htakes, hgives⟩ := handles_begin hop
    rw [issuing_of_begins hl hop]
    refine ⟨hm ▸ htakes, hgives, ⟨[], ?_, fun x => ?_⟩, fun x => ?_⟩
    · rw [hm, hitems, List.append_nil]
    · rw [kept_of_lookup hl', kept_of_lookup hl]
      exact Nat.le_refl _
    · rw [count_of_posts hp hl']
      exact Nat.le_add_left ..
  | fails hl hop hm hl' hp =>
    obtain ⟨hitems, htakes, hgives⟩ := handles_begin hop
    rw [issuing_of_begins hl hop, hp]
    refine ⟨hm ▸ htakes, hgives, ⟨[], ?_, fun x => ?_⟩, fun x => ?_⟩
    · rw [hm, hitems, List.append_nil]
    · rw [kept_of_none hl']
      exact Nat.zero_le _
    · rw [kept_of_none hl']
      exact Nat.zero_le _
  | waits hl hm hl' hp =>
    rw [issuing_of_not_begins (fun o op hl'' => by cases hl.symm.trans hl'')]
    refine passes_of_spares (hm ▸ .refl _) (fun x => ?_) fun x => ?_
    · rw [kept_of_lookup hl, kept_of_lookup hl']
      exact Nat.le_refl _
    · rcases hp with ⟨hs, hp⟩ | ⟨rfl, hp⟩
      · rw [count_of_posts hp hl', kept_of_lookup hl]
        unfold CallStage.unsent
        dsimp only
        rw [if_neg (Bool.eq_false_iff.1 hs)]
      · rw [hp, kept_of_lookup hl, kept_of_lookup hl']
        exact Nat.le_of_eq (Nat.zero_add _)
  | ends clock outcome hl hm hl' hp =>
    obtain ⟨htakes, new, hnew, he⟩ := handles_finish clock _ outcome c.managed
    rw [issuing_of_not_begins (fun o op hl'' => by cases hl.symm.trans hl''), hp]
    refine ⟨hm ▸ htakes, rfl, ⟨new, hm ▸ he, fun x => ?_⟩, fun x => ?_⟩
    · rw [kept_of_none hl', kept_of_lookup hl]
      exact hnew.count_le x
    · rw [kept_of_none hl']
      exact Nat.zero_le _

/-- What is not a turn of a call gives no handles out and adds no items. -/
theorem sparesHandles_undergo (hc : c.Serving) (hrun : ∀ id, h ≠ .act (.run (.call id))) :
    c.managed.SparesHandles (c.undergo h).managed := by
  have hkeeps (hk : (c.undergo h).manager = c.manager) :
      c.managed.SparesHandles (c.undergo h).managed := by
    rw [managed_of_eq (hk.trans hc.manager)]
    exact .refl _
  have hmaps {f : SubscriptionManager → SubscriptionManager}
      (hk : (c.undergo h).manager = (c.withManager f).manager)
      (hf : c.managed.SparesHandles (f c.managed)) :
      c.managed.SparesHandles (c.undergo h).managed := by
    rw [managed_of_eq (hk.trans (manager_withManager hc.manager f))]
    exact hf
  have hreclaim (c' : Client) (hc' : c'.manager = c.manager)
      (hk : (c.undergo h).manager = c'.reclaim.manager) :
      c.managed.SparesHandles (c.undergo h).managed := by
    have hmoves : c'.Moves SparesHandles c'.reclaim := by
      unfold reclaim
      split
      · refine Moves.keeps ?_ (keeps_requestShutdown _ _)
        split
        · exact (Keeps.of_eq rfl rfl).rests SparesHandles.refl
        · exact moves_withManager sparesHandles_abandon c'
      · exact (Keeps.of_eq rfl rfl).rests SparesHandles.refl
    obtain ⟨m', hm', hs⟩ := hmoves.manager _ (hc'.trans hc.manager)
    rwa [managed_of_eq (hk.trans hm')]
  cases h with
  | cancel id => exact hkeeps rfl
  | act a =>
    cases a with
    | call job hj => exact hkeeps rfl
    | run t =>
      cases t with
      | driver => exact hkeeps (keeps_runCommands 1 c).manager
      | processing =>
        obtain ⟨_, _, _, _, _, _, _, hm'⟩ :=
          manager_of_sequences (a := .run .processing) hc.manager trivial
        exact managed_of_eq hm' ▸ sparesHandles_of_eq rfl rfl
      | delivery => exact hmaps rfl (sparesHandles_deliverTurn _)
      | session id => exact hkeeps (keeps_pollSessionTask id c).manager
      | call id => exact absurd rfl (hrun id)
      | attempt id answerFirst =>
        obtain ⟨m', hm', ht⟩ := (turns_pollAttempt id answerFirst c).manager _ hc.manager
        exact managed_of_eq (c := c.undergo (.act (.run (.attempt id answerFirst)))) hm' ▸
          ht.sparesHandles
      | recovery id =>
        obtain ⟨_, _, _, _, _, _, _, hm'⟩ :=
          manager_of_sequences (a := .run (.recovery id)) hc.manager trivial
        exact managed_of_eq hm' ▸ sparesHandles_of_eq rfl rfl
    | reclaim => exact hreclaim c rfl rfl
    | release => exact hreclaim { c with released := true } rfl rfl
    | reply | elapse | inject | invalidate | takeHandle => exact hkeeps rfl
    | shutDown => exact hmaps rfl (sparesHandles_shutDown _)
    | listen l => exact hmaps (f := (·.addListener l)) rfl (sparesHandles_of_eq rfl rfl)
    | attach k callbacks =>
      exact hmaps (f := (·.setCallbacks k callbacks)) rfl
        ⟨rfl, (sameTables_setCallbacks k callbacks _).handles⟩

theorem itemHandles_pollSessionTask (id : CallId) (c : Client) :
    ∀ p ∈ (c.pollSessionTask id).2, p.request.itemHandles = [] := by
  unfold pollSessionTask
  split
  · exact itemHandles_none
  · rename_i task hl
    dsimp only
    split
    · rename_i task' posted e
      unfold ServiceClient.advanceTask at e
      split at e
      · intro p hp
        cases e
        cases hp
        refine Request.itemHandles_of_service (s := task.exchange.service) rfl ?_
        cases task.exchange <;> rintro ⟨⟩
      · split at e
        · cases e
          exact itemHandles_none
        · cases e
    · exact itemHandles_none

theorem itemHandles_pollRecovery {m : SubscriptionManager} (hm : c.manager = some m) {id : WorkId} :
    ∀ p ∈ (c.pollRecovery id).2, p.request.itemHandles = [] := by
  cases hr : m.recovery? id with
  | none =>
    unfold pollRecovery
    rw [hm]
    dsimp only
    rw [hr]
    exact itemHandles_none
  | some r =>
    intro p hp
    have hmem := List.mem_map_of_mem (f := (·.request.question)) (Option.mem_toList.2 hp)
    rw [(recounts_pollRecovery hm hr).posted] at hmem
    obtain ⟨q, -, hq⟩ := List.mem_map.1 hmem
    cases q with
    | republish | read => exact Request.itemHandles_of_service hq.symm (by rintro ⟨⟩)

/-- Only calls send requests for items. -/
theorem sending_eq_nil (hc : c.Serving) (hrun : ∀ id, h ≠ .act (.run (.call id))) :
    c.sending h = [] := by
  cases h with
  | cancel id => rfl
  | act a =>
    refine flatMap_itemHandles fun p hp => ?_
    have hnone (hn : (c.act a).2 = none) : p.request.itemHandles = [] :=
      absurd (hn ▸ hp) (Option.not_mem_none p)
    cases a with
    | run t =>
      cases t with
      | driver | processing | delivery => exact hnone rfl
      | session id => exact itemHandles_pollSessionTask id c p hp
      | call id => exact absurd rfl (hrun id)
      | attempt id answerFirst =>
        obtain ⟨a, -, hq⟩ := question_pollAttempt hc.manager hp
        exact Request.itemHandles_of_service hq (by rintro ⟨⟩)
      | recovery id => exact itemHandles_pollRecovery hc.manager p hp
    | call | reclaim | release | reply | elapse | inject | invalidate | takeHandle | shutDown
    | listen | attach => exact hnone rfl

/-- What any happening does. -/
theorem passes_undergo (hc : c.Serving) (h : Happening) :
    Passes (c.issuing h) (c.sending h) (c.subject h) c (c.undergo h) := by
  by_cases hrun : ∃ id, h = .act (.run (.call id))
  · obtain ⟨id, rfl⟩ := hrun
    exact passes_run_call hc id
  · have hrun : ∀ id, h ≠ .act (.run (.call id)) := fun id e => hrun ⟨id, e⟩
    have hissue : c.issuing h = [] := by
      unfold issuing
      split
      · exact absurd rfl (hrun _)
      · rfl
    rw [hissue, sending_eq_nil hc hrun]
    refine passes_of_spares (sparesHandles_undergo hc hrun) (fun x => ?_) fun x => ?_
    · rw [hc.numbers.kept_undergo rfl hrun]
      exact Nat.zero_le _
    · rw [hc.numbers.kept_undergo rfl hrun]
      exact Nat.zero_le _

/-! ## The account -/

/-- Handles come in turn. Every handle that has been sent, that an item has or that a call keeps has
been given out for it alone. -/
structure Accounts (issued sent : List ClientHandle) (c : Client) : Prop where
  next : c.managed.clientHandles.take.1 = Handles.nth issued.length
  turns : issued = (List.range' 0 issued.length).map Handles.nth
  items : ∀ x, (c.managed.items.map (·.handle)).count x + c.keptCount CallStage.handles x ≤
    issued.count x
  sends : ∀ x, sent.count x + c.keptCount CallStage.unsent x ≤ issued.count x

/-- The account is kept in every step. -/
theorem Accounts.undergo {issued sent : List ClientHandle} (ha : Accounts issued sent c)
    (hc : c.Serving) (h : Happening) :
    Accounts (issued ++ c.issuing h) (sent ++ c.sending h) (c.undergo h) := by
  have hp := passes_undergo hc h
  refine ⟨?_, ?_, fun x => ?_, fun x => ?_⟩
  · rw [hp.takes, List.length_append]
    exact Handles.take_takeMany ha.next _
  · rw [List.length_append, ← List.range'_append_1, List.map_append, ← ha.turns, Nat.zero_add,
      ← Handles.takeMany_fst ha.next, ← hp.gives]
  · obtain ⟨new, hnew, hle⟩ := hp.items
    obtain ⟨rest, hbefore, hafter⟩ := hc.numbers.exists_keptCount CallStage.handles x h
    have hi := ha.items x
    have hx := hle x
    rw [hnew, List.count_append, List.count_append]
    omega
  · obtain ⟨rest, hbefore, hafter⟩ := hc.numbers.exists_keptCount CallStage.unsent x h
    have hs := ha.sends x
    have hx := hp.sends x
    rw [List.count_append, List.count_append]
    omega

theorem Idle.keptCount (hc : c.Idle)
    (hf : ∀ stage : CallStage, (∀ op phase, stage ≠ .operating op phase) → f stage = [])
    (x : ClientHandle) : c.keptCount f x = 0 :=
  Finset.sum_eq_zero fun id _ => by rw [kept_of_operates (hc id) hf, List.count_nil]

/-- The account holds in every run. -/
theorem Begins.accounts (hc : c.Begins) (hn : c.NumbersCalls) (hi : c.Idle)
    (hs : List Happening) :
    Accounts (c.gather issuing hs) (c.gather sending hs) (c.later hs) := by
  induction hs using List.reverseRecOn with
  | nil =>
    rw [later_nil]
    refine ⟨?_, rfl, fun x => ?_, fun x => ?_⟩
    · rw [managed_of_eq hc.manager]
      rfl
    · rw [hi.keptCount (fun _ hs => (handles_of_not_operating hs).1), managed_of_eq hc.manager]
      exact Nat.le_refl _
    · rw [hi.keptCount fun _ hs => (handles_of_not_operating hs).2]
      exact Nat.le_refl _
  | append_singleton hs h ih =>
    rw [gather_snoc, gather_snoc, later_snoc]
    exact ih.undergo ((hc.serving hn).later hs) h

section

variable {issued sent : List ClientHandle} (ha : Accounts issued sent c)
  (hlt : issued.length < UInt32.size)

include ha hlt

/-- Until the handles have gone round, none is given out twice. -/
theorem Accounts.count_le_one (x : ClientHandle) : issued.count x ≤ 1 := by
  rw [ha.turns]
  exact List.nodup_iff_count_le_one.1 (Handles.nodup_map_nth hlt) x

theorem Accounts.nodup_items : (c.managed.items.map (·.handle)).Nodup := by
  refine List.nodup_iff_count_le_one.2 fun x => ?_
  have h := ha.items x
  have hone := ha.count_le_one hlt x
  omega

end

end Client

end OpcUa
