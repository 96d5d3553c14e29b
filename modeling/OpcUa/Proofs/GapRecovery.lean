import OpcUa.Proofs.Cursor

/-!
# What a gap comes to

When a response reveals a gap, a recovery begins that follows a script: the missing messages that
can be had come first, in order, and if one of them cannot be had, the values of the items are read
instead. Then the response is evaluated once more, and accepted. If the manager is shut down before
that, the cursor stays where it was.

* `SubscriptionManager.valueItems`: the items that are read.
* `Client.Recovered`: what has come of a recovery that has ended.
* `Client.Recoverable`: what can come of a recovery that is in progress.
* `Client.gap_is_recovered`: every gap is recovered in this way.
-/

namespace OpcUa

open SequenceNumber (next previous evaluate)

namespace SubscriptionManager

/-! ## The items that are read -/

/-- The items of a subscription that have a value to read, with their handles and their targets. -/
def valueItems (s : SubscriptionId) (m : SubscriptionManager) :
    List (ClientHandle × ItemKey × ReadValueId) :=
  match m.registered? s with
  | none => []
  | some sub =>
    (sub.items.entries.filter fun p => (m.item? p.2).any (!·.isEventItem)).map fun p =>
      (p.1, p.2, m.target p.2)

variable {m m' : SubscriptionManager} {s : SubscriptionId}

/-- The items are read in the order of their handles. -/
theorem valueItems_ascending (s : SubscriptionId) (m : SubscriptionManager) :
    (m.valueItems s).Pairwise fun p q => p.1 < q.1 := by
  unfold valueItems
  split
  · exact .nil
  · rename_i sub _
    rw [List.pairwise_map]
    exact sub.items.ascending.filter _

theorem map_valueItems (s : SubscriptionId) (m : SubscriptionManager) :
    (m.valueItems s).map (·.2) = (m.readableItems s).map fun k => (k, m.target k) := by
  unfold valueItems readableItems
  cases m.registered? s with
  | none => rfl
  | some sub =>
    dsimp only
    unfold Table.values
    rw [List.filter_map, List.map_map, List.map_map]
    rfl

/-- As long as the items are the same, so are their targets. -/
theorem target_of_valueItems (h : m'.valueItems s = m.valueItems s) {k : ItemKey}
    (hk : k ∈ m.readableItems s) : m'.target k = m.target k := by
  have hmem : (k, m.target k) ∈ (m'.valueItems s).map (·.2) := by
    rw [h, map_valueItems]
    exact List.mem_map_of_mem hk
  rw [map_valueItems] at hmem
  obtain ⟨k', -, hk'⟩ := List.mem_map.1 hmem
  injection hk' with h1 h2
  rw [← h2, h1]

/-! ## After the end -/

/-- The response `a` has revealed a gap that is recovered: it is the next one to be evaluated, and
all messages before it are consumed. -/
structure Resumes (m : SubscriptionManager) (a : PublishAnswer) : Prop where
  recoveries : m.recoveries = []
  cursor : m.cursors.find? a.subscription = some (previous a.message.sequenceNumber)
  head : ∃ rest, m.processing.tasks = a :: rest

variable {events : List SequencerEvent} {a : PublishAnswer} {id : WorkId} {r : Recovery}

theorem evaluates_not_mem_run {s : SubscriptionId} {log : List RecoveryEvent}
    {requests : List Request} {deliveries : List Delivery}
    {v : Option SequenceNumber.Verdict} :
    SequencerEvent.evaluates a v ∉ log.map (.recovers id s) ++ requests.map (.posts id) ++
      deliveries.map .hands := by
  simp

/-- A response that is accepted is all that happens in a turn, and its message is delivered. -/
theorem Step.events_of_accept (h : m.Step events m')
    (ha : .evaluates a (some .accept) ∈ events) :
    events = [.evaluates a (some .accept), .hands (.message a.subscription a.message)] := by
  cases h with
  | outside | idles | rests => cases ha
  | drops | gaps => cases List.mem_singleton.1 ha
  | accepts h hv =>
    rcases List.mem_cons.1 ha with ha | ha
    · injection ha with ha
      rw [ha]
    · cases List.mem_singleton.1 ha
  | recovers | ends => exact absurd ha evaluates_not_mem_run

/-- Responses are only evaluated while the manager runs. -/
theorem Step.running_of_evaluates (h : m.Step events m') (ho : m.Orderly)
    {v : Option SequenceNumber.Verdict} (ha : .evaluates a v ∈ events) : m.running = true := by
  cases h with
  | outside | idles | rests => cases ha
  | drops h hv | accepts h hv | gaps h hv => exact (ho.of_turn_run h).2.1
  | recovers | ends => exact absurd ha evaluates_not_mem_run

/-- Until a response is evaluated nothing changes about the one that comes next. -/
theorem Step.resumes (h : m.Step events m') (ho : m.Orderly) (hr : m'.running = true)
    (hs : m'.registry.contains a.subscription = true) (he : ∀ a v, .evaluates a v ∉ events)
    (hm : m.Resumes a) : events = [] ∧ m'.Resumes a := by
  have hnone : ∀ id r, m.recovery? id ≠ some r := fun id r h => by
    rw [recovery?, hm.recoveries] at h
    cases h
  cases h with
  | outside h =>
    obtain ⟨rest, hrest⟩ := hm.head
    obtain ⟨-, new, hnew⟩ := h.tasks ho hr
    refine ⟨rfl, h.recoveries.trans hm.recoveries, ?_, rest ++ new, ?_⟩
    · rw [(h.cursor a.subscription).resolve_right fun hn => by rw [hn.1] at hs; cases hs]
      exact hm.cursor
    · rw [hnew, hrest, List.cons_append]
  | idles h =>
    refine ⟨rfl, hm.recoveries, hm.cursor, ?_⟩
    obtain ⟨rest, hrest⟩ := hm.head
    exact ⟨rest, (WorkQueue.turn_same h).1.trans hrest⟩
  | drops | accepts | gaps => exact absurd List.mem_cons_self (he _ _)
  | rests => exact ⟨rfl, hm⟩
  | recovers h | ends h => exact absurd h (hnone _ _)

/-- A manager that was shut down moves no cursor. -/
theorem Step.cursor_of_stopped (h : m.Step events m') (ho : m.Orderly) (hr : m.running = false)
    (hs : m'.registry.contains s = true) : m'.cursors.find? s = m.cursors.find? s := by
  rcases h.cursor s with h | ⟨h, -⟩ | ⟨a, ha, -⟩ | ⟨id, r, -, -, hrun, -, -⟩
  · exact h
  · rw [h] at hs
    cases hs
  · rw [h.running_of_evaluates ho ha.evaluates] at hr
    cases hr
  · rw [hrun] at hr
    cases hr

end SubscriptionManager

namespace ServiceClient

variable {service : Service} {c : ServiceClient}

theorem exists_outcome? {session : Session} {await : Await}
    (h : c.isReady (.exchange session await) = true) :
    ∃ outcome, c.outcome? service await = some outcome := by
  unfold isReady isAnswered at h
  unfold outcome? reply?
  dsimp only at h
  cases hr : c.exchanges.reply? await.exchange with
  | some reply => exact ⟨_, rfl⟩
  | none =>
    rw [hr] at h
    cases hl : await.limit with
    | none =>
      rw [hl] at h
      cases h
    | some l =>
      obtain ⟨after, due⟩ := l
      rw [hl] at h
      have hd : due ≤ c.clock := by simpa using h
      dsimp only
      rw [if_pos hd]
      exact ⟨_, rfl⟩

/-- A call ends when the reply to its request is there or its time is over. -/
theorem advance_of_isReady (call : ServiceCall service) {phase : CallPhase}
    (hs : phase.isSent = true) (h : c.isReady phase = true) :
    ∃ c' outcome, c.advance call phase = (c', .done outcome) := by
  cases phase with
  | session w => cases hs
  | exchange session await =>
    obtain ⟨outcome, ho⟩ : ∃ outcome, c.outcome? service await = some outcome := exists_outcome? h
    unfold advance
    dsimp only
    rw [ho]
    exact ⟨_, _, rfl⟩

end ServiceClient

namespace Client

open SubscriptionManager

variable {c : Client} {a : PublishAnswer} {x : SequenceNumber} {r : Recovery} {id : WorkId}
  {s : SubscriptionId}

theorem Ready.resumes (h : c.Ready) {ds : List Action} (hd : .run .processing ∉ ds)
    (hs : c.Throughout (Registers a.subscription) ds) (hr : (c.after ds).managed.running = true)
    (hm : c.managed.Resumes a) : c.history ds = [] ∧ (c.after ds).managed.Resumes a := by
  induction ds using List.reverseRecOn with
  | nil => exact ⟨rfl, hm⟩
  | append_singleton ds d ih =>
    have hready := h.after ds
    have hstep := (hready.step d).2.2
    rw [after_snoc] at hr
    obtain ⟨hh, hm⟩ := ih (fun h => hd (List.mem_append_left _ h))
      (hs.mono (List.prefix_append _ _)) (hstep.running hready.orderly hr)
    have hreg := hs.last
    rw [after_snoc] at hreg
    obtain ⟨he, hm⟩ := hstep.resumes hready.orderly hr hreg
      (fun a v h => hd (by rw [(of_evaluates_mem h).1]; simp)) hm
    rw [history_snoc, after_snoc, hh, he]
    exact ⟨rfl, hm⟩

/-- The response is accepted in the next turn of the processing worker. -/
theorem Ready.accepts (h : c.Ready) (hn : a.message.sequenceNumber ≠ 0)
    (hs : c.Registers a.subscription) (hr : c.managed.running = true) (hm : c.managed.Resumes a) :
    c.events (.run .processing) =
      [.evaluates a (some .accept), .hands (.message a.subscription a.message)] := by
  refine ((h.step (.run .processing)).2.2).events_of_accept ?_
  obtain ⟨rest, hrest⟩ := hm.head
  have hshape := h.orderly.shape
  rw [hm.recoveries] at hshape
  have hc : c.managed.processing.closed = false := by rw [h.orderly.closed, hr]; rfl
  obtain ⟨yields, ht⟩ := WorkQueue.turn_of_tasks hc hshape.1 hrest
  have hv : c.managed.verdict? a = some .accept := by
    rw [verdict?, if_pos (show Table.contains _ _ = true from hs), hm.cursor,
      SequenceNumber.evaluate_previous hn]
  have he : SequencerEvent.evaluates a (some .accept) ∈ c.evaluated (.run .processing) := by
    unfold evaluated
    dsimp only
    rw [ht, ← hv]
    exact List.mem_singleton_self _
  exact List.mem_append_left _ (List.mem_append_left _ (List.mem_append_left _ he))

theorem Ready.cursor_of_stopped (h : c.Ready) (hr : c.managed.running = false) {ds : List Action}
    (hs : c.Throughout (Registers s) ds) :
    (c.after ds).managed.cursors.find? s = c.managed.cursors.find? s := by
  induction ds using List.reverseRecOn with
  | nil => rfl
  | append_singleton ds d ih =>
    have hready := h.after ds
    have hdown : (c.after ds).managed.running = false := by
      rw [Bool.eq_false_iff]
      intro hrun
      rw [h.running_of_after hrun] at hr
      cases hr
    have hreg := hs.last
    rw [after_snoc] at hreg ⊢
    rw [(hready.step d).2.2.cursor_of_stopped hready.orderly hdown hreg]
    exact ih (hs.mono (List.prefix_append _ _))

/-! ## Progress -/

/-- The recovery is in progress, and does not wait for its session or for a reply. -/
def Proceeds (id : WorkId) (c : Client) : Prop :=
  ∃ r, c.managed.recovery? id = some r ∧
    ∀ phase, r.stage.phase? = some phase → phase.isSent = true ∧ c.service.isReady phase = true

theorem recoveryLog_ne_nil {m : SubscriptionManager} (hm : c.manager = some m)
    (h : c.Proceeds id) : c.recoveryLog id ≠ [] := by
  obtain ⟨r, hr, hp⟩ := h
  rw [managed_of_eq hm] at hr
  unfold recoveryLog
  rw [hm]
  dsimp only
  rw [hr]
  dsimp only
  rcases hst : r.stage with ⟨n, _ | phase⟩ | ⟨k, rest, phase⟩
  · dsimp only
    unfold logRepublishFrom
    rw [hm]
    dsimp only
    split
    · exact List.cons_ne_nil _ _
    · split
      · split <;> exact List.cons_ne_nil _ _
      · exact List.cons_ne_nil _ _
  · obtain ⟨hs, hready⟩ := hp phase (by rw [hst]; rfl)
    obtain ⟨service, outcome, he⟩ :=
      ServiceClient.advance_of_isReady (c.republishCall r.subscription n) hs hready
    dsimp only
    rw [he]
    exact List.cons_ne_nil _ _
  · obtain ⟨hs, hready⟩ := hp phase (by rw [hst]; rfl)
    obtain ⟨service, outcome, he⟩ :=
      ServiceClient.advance_of_isReady (c.itemCall k m) hs hready
    dsimp only
    rw [he]
    exact List.cons_ne_nil _ _

/-! ## The course of a recovery -/

/-- What has come of the recovery that the response `a` has set off after the message `x`, when it
ends in the action `b` after the run `bs`. -/
structure Recovered (c : Client) (bs : List Action) (b : Action) (id : WorkId) (a : PublishAnswer)
    (x : SequenceNumber) (items : List (ClientHandle × ItemKey × ReadValueId))
    (script : RecoveryScript) : Prop where
  log : recoveryEvents id (c.history (bs ++ [b])) = script.log
  recovers : script.Recovers (next x) (SequenceNumber.distance (next x) a.message.sequenceNumber)
  reads : ∀ f, script.fallback = some f →
    f.reads.map (fun r => (r.item, r.target)) = items.map (·.2)
  requests : (recoveryRequests id (c.history (bs ++ [b]))).map (·.question) =
    script.questions.map (·.request a.subscription)
  /-- Nothing else has been delivered meanwhile. -/
  handed : handedOut (c.history (bs ++ [b])) = script.deliveries a.subscription
  cursor : (c.after (bs ++ [b])).managed.lastSequenceNumber? a.subscription =
    some (previous a.message.sequenceNumber)
  resumed : (c.after (bs ++ [b])).managed.processing.paused = false ∧
    (c.after (bs ++ [b])).managed.delivery.paused = false ∧
    (c.after (bs ++ [b])).isReady .processing = true
  /-- Nothing is delivered until the processing worker has its next turn, in which it accepts the
  response. -/
  accepted : ∀ ds, .run .processing ∉ ds →
    (c.after (bs ++ [b])).Throughout (Registers a.subscription) ds →
    ((c.after (bs ++ [b])).after ds).managed.running = true →
    (c.after (bs ++ [b])).history ds = [] ∧
      ((c.after (bs ++ [b])).after ds).events (.run .processing) =
        [.evaluates a (some .accept), .hands (.message a.subscription a.message)]

/-- What can come of that recovery, when it is in progress after the run `bs`. -/
structure Recoverable (c : Client) (bs : List Action) (id : WorkId) (a : PublishAnswer)
    (x : SequenceNumber) : Prop where
  waits : (c.after bs).managed.lastSequenceNumber? a.subscription = some x ∧
    (c.after bs).managed.processing.paused = true ∧ (c.after bs).managed.delivery.paused = true
  /-- It comes to its end: its log is bounded, and grows whenever the recovery proceeds. -/
  bounded : ∀ items, c.Throughout (·.managed.valueItems a.subscription = items) bs →
    (recoveryEvents id (c.history bs)).length ≤
      3 * SequenceNumber.distance (next x) a.message.sequenceNumber + 3 * items.length + 2
  grows : (c.after bs).Proceeds id →
    recoveryEvents id ((c.after bs).events (.run (.recovery id))) ≠ []
  recovered : (c.after bs).managed.running = true → ∀ b items,
    c.Throughout (·.managed.valueItems a.subscription = items) bs →
    (c.after (bs ++ [b])).managed.recovery? id = none →
    items.Pairwise (·.1 < ·.1) ∧ ∃ script, c.Recovered bs b id a x items script
  /-- When the manager is shut down, the cursor stays where it is. -/
  stays : (c.after bs).managed.running = false → ∀ ds,
    (c.after bs).Throughout (Registers a.subscription) ds →
    ((c.after bs).after ds).managed.lastSequenceNumber? a.subscription = some x

/-- The items are those of the list when the recovery falls back, and so they are read. -/
theorem Told.map_reads {bs : List Action} {b : Action}
    {items : List (ClientHandle × ItemKey × ReadValueId)} {f : Fallback} (ht : c.Told (bs ++ [b]) id s)
    (hi : c.Throughout (·.managed.valueItems s = items) bs)
    (hf : .fallsBack (f.reads.map (·.item)) ∈ recoveryEvents id (c.history (bs ++ [b])))
    (hr : ∀ r ∈ f.reads, ∃ p, p <+: bs ∧ r.target = (c.after p).managed.target r.item) :
    f.reads.map (fun r => (r.item, r.target)) = items.map (·.2) := by
  obtain ⟨p, b', hp, he⟩ := mem_recoveryEvents_history hf
  have hitems := (ht.fits p b' hp _ he).2
  have hvalues := hi p (prefix_of_snoc hp)
  rw [← hvalues, map_valueItems, ← hitems, List.map_map]
  refine List.map_congr_left fun r hmem => ?_
  obtain ⟨q, hq, htarget⟩ := hr r hmem
  rw [Function.comp_apply, htarget, target_of_valueItems ((hi q hq).trans hvalues.symm)]
  rw [← hitems]
  exact List.mem_map_of_mem hmem

/-- A recovery that ends while the manager runs has recovered the gap. -/
theorem Underway.recovered {bs : List Action} {b : Action}
    {items : List (ClientHandle × ItemKey × ReadValueId)} (hc : c.Ready)
    (hu : c.Underway bs id a x r) (hn : a.message.sequenceNumber ≠ 0)
    (hs : c.Throughout (Registers a.subscription) bs)
    (hr : (c.after bs).managed.recovery? id = some r)
    (hrun : (c.after bs).managed.running = true)
    (hi : c.Throughout (·.managed.valueItems a.subscription = items) bs)
    (hend : (c.after (bs ++ [b])).managed.recovery? id = none) :
    ∃ script, c.Recovered bs b id a x items script := by
  have hready := hc.after bs
  have hready' := hc.after (bs ++ [b])
  rw [after_snoc] at hend
  have hf := (hready.step b).2.2.finishes hready.orderly hr hend
  obtain ⟨script, hlog, hrec, htargets⟩ := hu.exists_script hn hf hrun
  have ht := hu.told_finished hf
  have hreg : (c.after bs).managed.registry.contains r.subscription = true := by
    rw [hu.subscription]
    exact hs.last
  obtain ⟨hrun', hrecs, hcursor, hproc, hpause⟩ := hf.settles hready.orderly hrun hreg
  rw [hu.subscription, hu.received] at hcursor
  have hclosed : (c.after bs).managed.processing.closed = false := by
    rw [hready.orderly.closed, hrun]
    rfl
  obtain ⟨rest, hrest⟩ := hu.head hrun
  have hresumes : (c.after (bs ++ [b])).managed.Resumes a := by
    rw [after_snoc]
    refine ⟨hrecs, hcursor, rest, ?_⟩
    rw [hproc, WorkQueue.tasks_resume]
    exact hrest
  refine ⟨script, hlog, hrec, fun f hf => ?_, ?_, ?_, ?_, ⟨?_, ?_, ?_⟩, fun ds hd hds hdr => ?_⟩
  · refine ht.map_reads hi ?_ (htargets f hf)
    rw [hlog]
    exact RecoveryScript.fallsBack_mem_log hf
  · rw [ht.requests, hlog, RecoveryScript.questions_log]
  · rw [ht.handed, hlog, hrec.deliveries_log]
  · exact hresumes.cursor
  · rw [after_snoc, hproc]
    exact WorkQueue.paused_resume _
  · rw [after_snoc]
    exact hpause
  · have hw := hready.orderly.sound.worker_resume hclosed
    rw [← hproc, ← after_snoc] at hw
    unfold isReady
    rw [hready'.manager, Option.any_some, hw]
    rfl
  · obtain ⟨hh, hm⟩ := hready'.resumes hd hds hdr hresumes
    exact ⟨hh, (hready'.after ds).accepts hn hds.last hdr hm⟩

/-- The log of a recovery in progress is bounded by the number of messages and of items. -/
theorem Underway.length_log_le {bs : List Action}
    {items : List (ClientHandle × ItemKey × ReadValueId)} (hu : c.Underway bs id a x r)
    (hn : a.message.sequenceNumber ≠ 0)
    (hi : c.Throughout (·.managed.valueItems a.subscription = items) bs) :
    (recoveryEvents id (c.history bs)).length ≤
      3 * SequenceNumber.distance (next x) a.message.sequenceNumber + 3 * items.length + 2 := by
  have hitems : ∀ l, RecoveryEvent.fallsBack l ∈ recoveryEvents id (c.history bs) →
      l.length ≤ items.length := by
    intro l hl
    obtain ⟨p, b, hp, he⟩ := mem_recoveryEvents_history hl
    have hl := (hu.told.fits p b hp _ he).2
    have hvalues := hi p ((List.prefix_append p [b]).trans hp)
    have hlen := congrArg List.length (map_valueItems a.subscription (c.after p).managed)
    rw [hvalues, List.length_map, List.length_map, ← hl] at hlen
    exact Nat.le_of_eq hlen.symm
  have hle := hu.path.length_log_le hn hitems
  have hle' := RecoveryPoint.left_asking_le items.length hn (SequenceNumber.next_ne_zero x)
  omega

theorem recoveryEvents_ne_nil (h : c.Ready) (hp : c.Proceeds id) :
    recoveryEvents id (c.events (.run (.recovery id))) ≠ [] := by
  have hlog := recoveryLog_ne_nil h.manager hp
  obtain ⟨r, hr, -⟩ := hp
  have he : recoveryEvents id (c.recovered (.run (.recovery id))) = c.recoveryLog id := by
    unfold recovered
    dsimp only
    rw [hr, recoveryEvents]
    exact filterMap_map_some (fun e => if_pos rfl) _
  intro hnil
  unfold events at hnil
  rw [recoveryEvents_append, recoveryEvents_append, recoveryEvents_append, he] at hnil
  exact hlog (List.append_eq_nil_iff.1
    (List.append_eq_nil_iff.1 (List.append_eq_nil_iff.1 hnil).1).1).2

/-- A gap sets off a recovery, which either comes to its end, with the missing messages or the
values in their place, or leaves the cursor where it is. -/
theorem gap_is_recovered (hc : c.Begins) (as : List Action)
    (hg : (c.after as).RevealsGap a x) (hn : a.message.sequenceNumber ≠ 0) :
    1 ≤ SequenceNumber.distance (next x) a.message.sequenceNumber ∧
      SequenceNumber.distance (next x) a.message.sequenceNumber ≤ 2 ^ 31 - 1 ∧
      next^[SequenceNumber.distance (next x) a.message.sequenceNumber] (next x) =
        a.message.sequenceNumber ∧
      ((c.after as).evaluateNext.managed.recovery? (c.after as).managed.nextWork).isSome ∧
      ∀ bs, (c.after as).evaluateNext.Throughout (Registers a.subscription) bs →
        (((c.after as).evaluateNext.after bs).managed.recovery?
          (c.after as).managed.nextWork).isSome →
        (c.after as).evaluateNext.Recoverable bs (c.after as).managed.nextWork a x := by
  have hready := hc.ready.after as
  have hready₁ : (c.after as).evaluateNext.Ready := hready.act _
  obtain ⟨-, hk1, hk2⟩ := (SequenceNumber.evaluate_eq_gap_iff hn).1 hg.gap
  refine ⟨hk1, hk2, SequenceNumber.iterate_next_distance hn (SequenceNumber.next_ne_zero x), ?_,
    fun bs hs hr => ?_⟩
  · rw [recovery?, (hg.recoveries hready).1, List.lookup_cons_self]
    rfl
  obtain ⟨r, hr⟩ := Option.isSome_iff_exists.1 hr
  have hu := hready.underway hg bs hr
  have hready₂ := hready₁.after bs
  have hshape := hready₂.orderly.shape
  rw [hready₂.orderly.of_recovery? hr] at hshape
  refine ⟨⟨hu.cursor hs, hshape.2.1, hshape.2.2.1⟩, fun items hi => hu.length_log_le hn hi,
    recoveryEvents_ne_nil hready₂, fun hrun b items hi hend => ?_, fun hrun ds hds => ?_⟩
  · refine ⟨?_, hu.recovered hready₁ hn hs hr hrun hi hend⟩
    rw [← hi [] List.nil_prefix]
    exact valueItems_ascending _ _
  · exact (hready₂.cursor_of_stopped hrun hds).trans (hu.cursor hs)

/-- In the sample recovery one message comes, and one value is read in place of the other one. -/
theorem gap_is_recovered_sample :
    sample.Begins ∧ (sample.after sampleGap).RevealsGap (sampleAnswer 4) 1 ∧
      (sampleAnswer 4).message.sequenceNumber ≠ 0 ∧
      ∃ script, (sample.after sampleGap).evaluateNext.Recovered sampleRecovery
        (.run (.recovery 3)) 3 (sampleAnswer 4) 1 [(1, 0, .value .null)] script := by
  have hg : (sample.after sampleGap).RevealsGap (sampleAnswer 4) 1 :=
    ⟨⟨false, rfl⟩, by decide, by decide, by decide⟩
  have hn : (sampleAnswer 4).message.sequenceNumber ≠ 0 := by decide
  have hall := (gap_is_recovered sample_begins sampleGap hg hn).2.2.2.2 sampleRecovery
    (by decide) (by decide)
  exact ⟨sample_begins, hg, hn, (hall.recovered (by decide) (.run (.recovery 3))
    [(1, 0, .value .null)] (by decide) rfl).2⟩

end Client

end OpcUa
