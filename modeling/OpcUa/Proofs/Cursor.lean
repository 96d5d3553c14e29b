import OpcUa.Proofs.RecoveryCourse

/-!
# What moves a cursor

The cursor of a subscription is the last sequence number consumed. It is moved when a response is
accepted, and when a recovery comes to its end, and by nothing else.

* `SubscriptionManager.Step.cursor`: the two ways, for one step.
* `Client.Begins.cursor_ne_zero`: a cursor is never zero.
* `Client.cursor_moves`: over a whole run, what lies between the old cursor and the new one has been
  delivered, or the values have been read instead.
-/

namespace OpcUa

open SequenceNumber (next previous isAfter evaluate walk distance)

namespace SubscriptionManager

variable {m m' : SubscriptionManager} {events : List SequencerEvent} {s : SubscriptionId}

/-- The response `a` is accepted in a step, and moves the cursor of its subscription. -/
structure MovesCursor (m : SubscriptionManager) (events : List SequencerEvent)
    (s : SubscriptionId) (a : PublishAnswer) : Prop where
  evaluates : .evaluates a (some .accept) ∈ events
  hands : .hands (.message s a.message) ∈ events
  subscription : a.subscription = s
  verdict : evaluate (m.cursors.find? s) a.message.sequenceNumber = .accept
  ahead : ∀ x, m.cursors.find? s = some x → isAfter (consumed a.message) x = true

/-- Only the cursor of one subscription is moved, and it is only moved forwards. -/
theorem find?_advanceCursor (id : SubscriptionId) (n : SequenceNumber) (m : SubscriptionManager) :
    (m.advanceCursor id n).cursors.find? s =
      if id = s ∧ (m.cursors.find? s).all (isAfter n) = true then some n
      else m.cursors.find? s := by
  by_cases e : id = s
  · subst e
    unfold advanceCursor
    cases h : m.cursors.find? id with
    | none => simp
    | some last =>
      dsimp only
      split
      · rename_i ha
        simp [ha]
      · rename_i ha
        simp [ha, h]
  · rw [if_neg fun h => e h.1]
    have hi : (m.cursors.insert id n).find? s = m.cursors.find? s := by
      rw [Table.find?_insert, if_neg (Ne.symm e)]
    unfold advanceCursor
    split
    · exact hi
    · split
      · exact hi
      · rfl

theorem find?_endRecovery (id : WorkId) (r : Recovery) (m : SubscriptionManager) :
    (m.endRecovery id r).cursors.find? s = m.cursors.find? s ∨
      r.subscription = s ∧ m.running = true ∧ m.registry.contains s = true ∧
        (m.endRecovery id r).cursors.find? s = some (previous r.received) := by
  unfold endRecovery
  dsimp only
  split
  · rename_i h
    rw [Bool.and_eq_true] at h
    dsimp only
    rw [Table.find?_insert]
    split
    · rename_i e
      exact .inr ⟨e.symm, h.1, e ▸ h.2, rfl⟩
    · exact .inl rfl
  · exact .inl rfl

/-- A recovery that ends while the manager runs sets the cursor, and the queues go on. -/
theorem Finishes.settles {id : WorkId} {r : Recovery} (hf : m.Finishes events m' id r)
    (ho : m.Orderly) (hr : m.running = true) (hs : m.registry.contains r.subscription = true) :
    m'.running = true ∧ m'.recoveries = [] ∧
      m'.cursors.find? r.subscription = some (previous r.received) ∧
      m'.processing = m.processing.resume ∧ m'.delivery.paused = false := by
  obtain ⟨stats, hm⟩ := hf.eq
  have he := ho.of_recovery? hf.recovery
  rw [hm]
  refine ⟨?_, endRecovery_recoveries (by exact he), ?_, ?_, ?_⟩
  · rw [endRecovery_eq]
    exact hr
  · unfold endRecovery
    rw [if_pos (by rw [Bool.and_eq_true]; exact ⟨hr, hs⟩)]
    dsimp only
    rw [Table.find?_insert, if_pos rfl]
  · rw [endRecovery_eq]
  · rw [endRecovery_eq]
    exact WorkQueue.paused_resume _

/-- A cursor is left alone or goes away with its subscription, unless a response is accepted or a
recovery ends. -/
theorem Step.cursor (h : m.Step events m') (s : SubscriptionId) :
    m'.cursors.find? s = m.cursors.find? s ∨
    m'.registry.contains s = false ∧ m'.cursors.find? s = none ∨
    (∃ a, m.MovesCursor events s a ∧ m'.cursors.find? s = some (consumed a.message)) ∨
    ∃ id r, m.Finishes events m' id r ∧ r.subscription = s ∧ m.running = true ∧
      m.registry.contains s = true ∧ m'.cursors.find? s = some (previous r.received) := by
  cases h with
  | outside h =>
    rcases h.cursor s with h | h
    · exact .inl h
    · exact .inr (.inl h)
  | idles | drops => exact .inl rfl
  | @accepts a yields q h hv =>
    rw [accept_eq]
    dsimp only
    rw [find?_advanceCursor]
    split
    · rename_i hc
      obtain ⟨rfl, ha⟩ := hc
      refine .inr (.inr (.inl ⟨a, ⟨List.mem_cons_self, ?_, rfl, ?_, fun x hx => ?_⟩, rfl⟩))
      · exact List.mem_cons_of_mem _ List.mem_cons_self
      · exact (verdict?_eq_some hv).2
      · rw [show m.cursors.find? _ = some x from hx] at ha
        exact ha
    · exact .inl rfl
  | gaps h hv => exact .inl rfl
  | rests => exact .inl rfl
  | @recovers id r log stage requests hr hp hf hq =>
    obtain ⟨stats, hm⟩ := setRecovery_foldl_eq id r.subscription log stage m
    rw [hm]
    exact .inl rfl
  | @ends id r log requests hr hp hf hq =>
    have hfin := finishes_run hr hp hf hq
    obtain ⟨stats, hm⟩ := foldl_perform_eq r.subscription log m
    rcases find?_endRecovery (s := s) id r (log.foldl (RecoveryEvent.perform r.subscription) m)
      with hc | ⟨hs, hrun, hreg, hc⟩
    · exact .inl (by rw [hc, hm])
    · rw [hm] at hrun hreg
      exact .inr (.inr (.inr ⟨id, r, hfin, hs, hrun, hreg, hc⟩))

/-- A cursor that a step sets is the number of a message, or the one before. -/
theorem Step.cursor_ne_zero (h : m.Step events m')
    (hz : ∀ a v, .evaluates a v ∈ events → a.message.sequenceNumber ≠ 0)
    (hc : ∀ s x, m.cursors.find? s = some x → x ≠ 0) {x : SequenceNumber}
    (hx : m'.cursors.find? s = some x) : x ≠ 0 := by
  rcases h.cursor s with h | ⟨-, h⟩ | ⟨a, ha, h⟩ | ⟨id, r, -, -, -, -, h⟩
  · exact hc s x (h.symm.trans hx)
  · rw [h] at hx
    cases hx
  · rw [h] at hx
    cases hx
    unfold consumed
    split
    · exact SequenceNumber.previous_ne_zero _
    · exact hz _ _ ha.evaluates
  · rw [h] at hx
    cases hx
    exact SequenceNumber.previous_ne_zero _

end SubscriptionManager

namespace Client

open SubscriptionManager

variable {c : Client}

/-- No Publish response that is evaluated has the number zero. -/
def Numbered (h : List SequencerEvent) : Prop :=
  ∀ a v, .evaluates a v ∈ h → a.message.sequenceNumber ≠ 0

theorem numbered_iff {h : List SequencerEvent} :
    Numbered h ↔ ∀ a ∈ h.filterMap (·.answer?), a.message.sequenceNumber ≠ 0 := by
  constructor
  · intro hn a ha
    obtain ⟨e, he, hea⟩ := List.mem_filterMap.1 ha
    cases e with
    | evaluates a' v =>
      cases hea
      exact hn _ v he
    | hands | recovers | posts => cases hea
  · exact fun hn a v he => hn a (List.mem_filterMap.2 ⟨_, he, rfl⟩)

theorem Numbered.mono {as bs : List Action} (h : Numbered (c.history bs)) (hp : as <+: bs) :
    Numbered (c.history as) := by
  obtain ⟨qs, rfl⟩ := hp
  rw [history_append] at h
  exact fun a v he => h a v (List.mem_append_left _ he)

instance (h : List SequencerEvent) : Decidable (Numbered h) := decidable_of_iff' _ numbered_iff

/-- A cursor is never zero. -/
theorem Begins.cursor_ne_zero (hc : c.Begins) {as : List Action} (hz : Numbered (c.history as)) :
    ∀ s x, (c.after as).managed.cursors.find? s = some x → x ≠ 0 := by
  induction as using List.reverseRecOn with
  | nil =>
    intro s x hx
    rw [after_nil, managed_of_eq hc.manager] at hx
    cases hx
  | append_singleton as b ih =>
    intro s x hx
    have hz₀ := hz.mono (List.prefix_append as [b])
    rw [history_snoc] at hz
    rw [after_snoc] at hx
    exact ((hc.ready.after as).step b).2.2.cursor_ne_zero
      (fun a v h => hz a v (List.mem_append_right _ h)) (ih hz₀) hx

/-- What the recovery `id` of the subscription `s` has made of a missing message by the end of a
run: it has come under its own number and has been put on the delivery queue, or the recovery has
begun to read the values of all items that had one to read when it gave up the messages. -/
inductive MadeUp (c : Client) (as : List Action) (id : WorkId) (s : SubscriptionId)
    (n : SequenceNumber) : Prop
  | delivered (message : NotificationMessage) : message.sequenceNumber = n →
    .republished n (.ok message) ∈ recoveryEvents id (c.history as) →
    .message s message ∈ handedOut (c.history as) → MadeUp c as id s n
  | read (p : List Action) (b : Action) : p ++ [b] <+: as →
    .fallsBack ((c.after p).managed.readableItems s) ∈
      recoveryEvents id ((c.after p).events b) →
    (∀ k ∈ (c.after p).managed.readableItems s,
      .reads k ∈ recoveryEvents id (c.history as)) → MadeUp c as id s n

/-- How the action `b` after the run `as` moves the cursor of the subscription `s`. -/
inductive CursorMove (c : Client) (as : List Action) (b : Action) (s : SubscriptionId) :
    Option SequenceNumber → SequenceNumber → Prop
  /-- A response is accepted, and it is the first one. -/
  | first (a : PublishAnswer) : a.subscription = s →
    .evaluates a (some .accept) ∈ (c.after as).events b →
    CursorMove c as b s none (consumed a.message)
  /-- The expected message is accepted and put on the delivery queue. -/
  | next (a : PublishAnswer) (x : SequenceNumber) : a.subscription = s →
    .evaluates a (some .accept) ∈ (c.after as).events b →
    a.message.isKeepAlive = false → a.message.sequenceNumber = next x →
    .hands (.message s a.message) ∈ (c.after as).events b →
    CursorMove c as b s (some x) (next x)
  /-- A recovery ends. The response `a` has revealed the gap, and the messages before it are made
  up for. -/
  | recovered (a : PublishAnswer) (x : SequenceNumber) (id : WorkId) :
    a.subscription = s → c.Begun as id a x →
    .evaluates a (some (.gap (next x))) ∈ c.history as →
    .ends ∈ recoveryEvents id ((c.after as).events b) →
    next^[distance (next x) a.message.sequenceNumber] x = previous a.message.sequenceNumber →
    (∀ n ∈ walk (next x) (distance (next x) a.message.sequenceNumber),
      MadeUp c (as ++ [b]) id s n) →
    CursorMove c as b s (some x) (previous a.message.sequenceNumber)

/-- The messages of a recovery that ends are made up for. -/
theorem Underway.madeUp {bs : List Action} {b : Action} {m' : SubscriptionManager} {id : WorkId}
    {a : PublishAnswer} {x : SequenceNumber} {r : Recovery} (hu : c.Underway bs id a x r)
    (hn : a.message.sequenceNumber ≠ 0)
    (hf : (c.after bs).managed.Finishes ((c.after bs).events b) m' id r)
    (hrun : (c.after bs).managed.running = true) {n : SequenceNumber}
    (hmem : n ∈ walk (next x) (distance (next x) a.message.sequenceNumber)) :
    c.MadeUp (bs ++ [b]) id a.subscription n := by
  obtain ⟨script, hlog, hs, -⟩ := hu.exists_script hn hf hrun
  have ht := hu.told_finished hf
  obtain ⟨i, hi, rfl⟩ := SequenceNumber.mem_walk.1 hmem
  by_cases hlt : i < script.messages.length
  · have hw : next^[i] (next x) ∈ script.messages.map (·.sequenceNumber) := by
      rw [hs.numbers]
      exact SequenceNumber.mem_walk.2 ⟨i, hlt, rfl⟩
    obtain ⟨message, hmessage, he⟩ := List.mem_map.1 hw
    refine .delivered message he ?_ ?_
    · rw [hlog, ← he]
      exact script.republished_mem_log hmessage
    · rw [ht.handed, hlog, hs.deliveries_log]
      exact List.mem_append_left _ (List.mem_map_of_mem hmessage)
  · obtain ⟨f, hfall⟩ : ∃ f, script.fallback = some f := by
      rw [← Option.ne_none_iff_exists']
      intro hnone
      have := hs.complete.1 hnone
      omega
    have hback : RecoveryEvent.fallsBack (f.reads.map (·.item)) ∈
        recoveryEvents id (c.history (bs ++ [b])) := by
      rw [hlog]
      exact RecoveryScript.fallsBack_mem_log hfall
    obtain ⟨p, b', hp, he⟩ := mem_recoveryEvents_history hback
    have hitems := (ht.fits p b' hp _ he).2
    refine .read p b' hp (hitems ▸ he) fun k hk => ?_
    rw [← hitems] at hk
    obtain ⟨r', hr', rfl⟩ := List.mem_map.1 hk
    rw [hlog]
    exact RecoveryScript.reads_mem_log hfall hr'

/-- What a later part of a run has made up for is made up for in the whole run. -/
theorem MadeUp.of_after {as bs : List Action} {id : WorkId} {s : SubscriptionId}
    {n : SequenceNumber} (h : (c.after as).MadeUp bs id s n) : c.MadeUp (as ++ bs) id s n := by
  have he : ∀ e ∈ recoveryEvents id ((c.after as).history bs),
      e ∈ recoveryEvents id (c.history (as ++ bs)) := by
    intro e he
    rw [history_append, recoveryEvents_append]
    exact List.mem_append_right _ he
  cases h with
  | delivered message h1 h2 h3 =>
    refine .delivered message h1 (he _ h2) ?_
    rw [history_append, handedOut_append]
    exact List.mem_append_right _ h3
  | read p b hp h1 h2 =>
    refine .read (as ++ p) b ?_ ?_ ?_
    · rw [List.append_assoc]
      exact (List.prefix_append_right_inj as).2 hp
    · rw [after_append]
      exact h1
    · rw [after_append]
      exact fun k hk => he _ (h2 k hk)

/-- A response that moves a cursor brings the message after it, and is no keep-alive. -/
theorem eq_next_of_movesCursor {m : SubscriptionManager} {events : List SequencerEvent}
    {s : SubscriptionId} {a : PublishAnswer} {x : SequenceNumber} (h : m.MovesCursor events s a)
    (hx : m.cursors.find? s = some x) (hx0 : x ≠ 0) (hn : a.message.sequenceNumber ≠ 0) :
    a.message.isKeepAlive = false ∧ a.message.sequenceNumber = next x ∧
      consumed a.message = next x := by
  have hv := h.verdict
  have ha := h.ahead x hx
  rw [hx] at hv
  unfold consumed at *
  cases hk : a.message.isKeepAlive with
  | true =>
    rw [hk, if_pos rfl, SequenceNumber.not_isAfter_previous hx0 hn hv] at ha
    cases ha
  | false =>
    rw [if_neg Bool.false_ne_true]
    rw [hk, if_neg Bool.false_ne_true] at ha
    rcases SequenceNumber.eq_next_or_not_isAfter hx0 hn hv with he | he
    · exact ⟨rfl, he, he⟩
    · rw [he] at ha
      cases ha

/-- A recovery that ends while its subscription stays registered moves the cursor on from where it
was when the gap was revealed, over messages that are made up for. -/
theorem Begins.recovered (hc : c.Begins) {as : List Action} {b : Action}
    (hn : c.NeverReissues (as ++ [b])) (hz : Numbered (c.history (as ++ [b]))) {id : WorkId}
    {r : Recovery} {m' : SubscriptionManager} (hs : (c.after as).Registers r.subscription)
    (hf : (c.after as).managed.Finishes ((c.after as).events b) m' id r)
    (hrun : (c.after as).managed.running = true) :
    ∃ x, (c.after as).managed.cursors.find? r.subscription = some x ∧
      c.CursorMove as b r.subscription (some x) (previous r.received) := by
  have hready := hc.ready
  have hnone : c.managed.recoveries = [] := by
    rw [managed_of_eq hc.manager]
    rfl
  obtain ⟨a, x, hbegun⟩ := hready.begun hnone hf.recovery
  obtain ⟨p, bs, rfl, hg, rfl⟩ := hbegun
  have hafter : ∀ qs, c.after (p ++ .run .processing :: qs) = (c.after p).evaluateNext.after qs :=
    fun qs => by rw [after_append, after_cons, evaluateNext]
  have hevaluates :
      .evaluates a (some (.gap (next x))) ∈ c.history (p ++ .run .processing :: bs) := by
    rw [history_append, history]
    exact List.mem_append_right _ (List.mem_append_left _ hg.evaluates_mem)
  have hn0 : a.message.sequenceNumber ≠ 0 := by
    rw [history_append] at hz
    exact hz a _ (List.mem_append_left _ hevaluates)
  have hx0 : x ≠ 0 := by
    have hz' := hz.mono ((List.prefix_append p _).trans (List.prefix_append _ _))
    exact hc.cursor_ne_zero hz' _ _ hg.cursor
  rw [hafter] at hf hrun hs ⊢
  have hu := (hready.after p).underway hg bs hf.recovery
  rw [hu.subscription] at hs ⊢
  rw [hu.received]
  have hstays : (c.after p).evaluateNext.Throughout (Registers a.subscription) bs := by
    intro q hq
    by_contra h
    rw [← hafter] at h hs
    refine hn a.subscription p _ _ (List.prefix_append p _) ?_ (List.prefix_append _ _)
      hg.registers h hs
    exact (List.prefix_append_right_inj p).2 (List.cons_prefix_cons.2 ⟨rfl, hq⟩)
  -- The messages between the old cursor and the new one are those that were missing.
  have hmade := fun n => hu.madeUp hn0 hf hrun (n := n)
  generalize hk : distance (next x) a.message.sequenceNumber = k at *
  have hiter : next^[k] x = previous a.message.sequenceNumber := by
    refine SequenceNumber.next_injective (SequenceNumber.iterate_next_ne_zero hx0 k)
      (SequenceNumber.previous_ne_zero _) ?_
    rw [SequenceNumber.next_previous hn0, ← Function.iterate_succ_apply' next k x,
      Function.iterate_succ_apply, ← hk,
      SequenceNumber.iterate_next_distance hn0 (SequenceNumber.next_ne_zero x)]
  refine ⟨x, hu.cursor hstays, ?_⟩
  refine .recovered a x (c.after p).managed.nextWork rfl ⟨p, bs, rfl, hg, rfl⟩ hevaluates ?_
    (hk ▸ hiter) fun n hmem => ?_
  · rw [hafter]
    refine hf.path.ends_mem r.stage.point_ne_ended rfl fun hstop => ?_
    have hdown : ((c.after p).evaluateNext.after bs).managed.running = false :=
      hf.recounted.fits _ hstop
    rw [hdown] at hrun
    cases hrun
  · have hmade := hmade n (hk ▸ hmem)
    rw [evaluateNext, ← after_snoc] at hmade
    have := hmade.of_after
    rwa [List.append_assoc, List.singleton_append, ← List.cons_append, ← List.append_assoc] at this

/-- A cursor that changes while its subscription stays registered moves in one of three ways. -/
theorem Begins.cursorMove (hc : c.Begins) {as : List Action} {b : Action}
    (hn : c.NeverReissues (as ++ [b])) (hz : Numbered (c.history (as ++ [b])))
    {s : SubscriptionId} (hs : (c.after as).Registers s) (hs' : (c.after (as ++ [b])).Registers s)
    (hne : (c.after (as ++ [b])).managed.lastSequenceNumber? s ≠
      (c.after as).managed.lastSequenceNumber? s) :
    ∃ y, (c.after (as ++ [b])).managed.lastSequenceNumber? s = some y ∧
      c.CursorMove as b s ((c.after as).managed.lastSequenceNumber? s) y := by
  have hz₀ := hz.mono (List.prefix_append as [b])
  unfold lastSequenceNumber? at *
  rw [after_snoc] at hs' hne ⊢
  rcases ((hc.ready.after as).step b).2.2.cursor s with
    h | ⟨h, -⟩ | ⟨a, ha, h⟩ | ⟨id, r, hf, rfl, hrun, -, h⟩
  · exact absurd h hne
  · exact absurd hs' (by rw [Registers, h]; exact Bool.false_ne_true)
  · have hn : a.message.sequenceNumber ≠ 0 := by
      rw [history_snoc] at hz
      exact hz a _ (List.mem_append_right _ ha.evaluates)
    refine ⟨_, h, ?_⟩
    cases hx : (c.after as).managed.cursors.find? s with
    | none => exact .first a ha.subscription ha.evaluates
    | some x =>
      obtain ⟨hk, he, hcons⟩ := eq_next_of_movesCursor ha hx (hc.cursor_ne_zero hz₀ s x hx) hn
      rw [hcons]
      exact .next a x ha.subscription ha.evaluates hk he ha.hands
  · obtain ⟨x, hx, hmove⟩ := hc.recovered hn hz hs hf hrun
    exact ⟨_, h, hx ▸ hmove⟩

/-- A cursor only moves forwards. -/
theorem CursorMove.isAfter {as : List Action} {b : Action} {s : SubscriptionId}
    {x y : SequenceNumber} (h : c.CursorMove as b s (some x) y) (hz : Numbered (c.history as))
    (hx : x ≠ 0) : SequenceNumber.isAfter y x = true := by
  cases h with
  | next a => exact SequenceNumber.isAfter_next hx
  | recovered a x id hs hb he _ hiter _ =>
    obtain ⟨p, bs, -, hg, -⟩ := hb
    obtain ⟨-, hk1, hk2⟩ := (SequenceNumber.evaluate_eq_gap_iff (hz a _ he)).1 hg.gap
    generalize SequenceNumber.distance (SequenceNumber.next x) a.message.sequenceNumber = k at *
    rw [SequenceNumber.isAfter_iff (SequenceNumber.previous_ne_zero _) hx, ← hiter,
      SequenceNumber.distance_eq_of_iterate hx (by unfold SequenceNumber.circle; omega)]
    exact ⟨hk1, hk2⟩

/-- As long as a subscription stays registered, its cursor moves in three ways only, and always
forwards. -/
theorem cursor_moves (hc : c.Begins) (as : List Action) (b : Action)
    (hn : c.NeverReissues (as ++ [b])) (hz : Numbered (c.history (as ++ [b])))
    (s : SubscriptionId) (hs : (c.after as).Registers s)
    (hs' : (c.after (as ++ [b])).Registers s)
    (hne : (c.after (as ++ [b])).managed.lastSequenceNumber? s ≠
      (c.after as).managed.lastSequenceNumber? s) :
    ∃ y, (c.after (as ++ [b])).managed.lastSequenceNumber? s = some y ∧
      c.CursorMove as b s ((c.after as).managed.lastSequenceNumber? s) y ∧
      ∀ x, (c.after as).managed.lastSequenceNumber? s = some x → isAfter y x = true := by
  have hz₀ := hz.mono (List.prefix_append as [b])
  obtain ⟨y, hy, hmove⟩ := hc.cursorMove hn hz hs hs' hne
  refine ⟨y, hy, hmove, fun x hx => ?_⟩
  rw [hx] at hmove
  exact hmove.isAfter hz₀ (hc.cursor_ne_zero hz₀ s x hx)

/-- The sample recovery takes the cursor from 1 to 3. -/
theorem cursor_moves_sample :
    sample.Begins ∧ sample.NeverReissues (sampleRun ++ [.run (.recovery 3)]) ∧
      Numbered (sample.history (sampleRun ++ [.run (.recovery 3)])) ∧
      (sample.after sampleRun).Registers 7 ∧
      (sample.after (sampleRun ++ [.run (.recovery 3)])).Registers 7 ∧
      ∃ y,
        (sample.after (sampleRun ++ [.run (.recovery 3)])).managed.lastSequenceNumber? 7 = some y ∧
        sample.CursorMove sampleRun (.run (.recovery 3)) 7
          ((sample.after sampleRun).managed.lastSequenceNumber? 7) y ∧
        ∀ x, (sample.after sampleRun).managed.lastSequenceNumber? 7 = some x →
          isAfter y x = true := by
  have hn : sample.NeverReissues (sampleRun ++ [.run (.recovery 3)]) :=
    KeepsAll.neverReissues (by decide)
  have hz : Numbered (sample.history (sampleRun ++ [.run (.recovery 3)])) := by decide
  have hs : (sample.after sampleRun).Registers 7 := by decide
  have hs' : (sample.after (sampleRun ++ [.run (.recovery 3)])).Registers 7 := by decide
  exact ⟨sample_begins, hn, hz, hs, hs',
    cursor_moves sample_begins sampleRun (.run (.recovery 3)) hn hz 7 hs hs' (by decide)⟩

end Client

end OpcUa
