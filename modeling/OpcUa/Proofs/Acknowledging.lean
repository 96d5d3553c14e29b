import OpcUa.Proofs.ExactlyOnce
import OpcUa.Proofs.GapRecovery

/-!
# What is acknowledged

The server forgets a message that is acknowledged. A response that is accepted says which messages
the server keeps, and the client acknowledges all of them, whether they have come or not. What lies
between the first message accepted and the cursor has come, or the values have been read instead.
So a message that is acknowledged without having come is older than the first one accepted, or is
ahead of the cursor.

* `SubscriptionManager.Step.acknowledgements`: only a response that is accepted adds any.
* `Client.Complete`: no message up to the cursor is missing.
* `Client.acknowledged_as_listed`: which acknowledgements a run adds, and which ones it sends.
* `Client.acknowledges_unseen`: some of them are for messages that have not come.
-/

namespace OpcUa

open SequenceNumber (next previous isAfter evaluate walk distance)

theorem Acknowledgements.mem_addAll {x : Acknowledgement} {id : SubscriptionId}
    {numbers : List SequenceNumber} {l : Acknowledgements} :
    x ∈ (l.addAll id numbers).pending ↔
      x.subscription = id ∧ x.sequenceNumber ∈ numbers ∨ x ∈ l.pending := by
  induction numbers generalizing l with
  | nil => exact ⟨.inr, fun h => h.resolve_left fun h => absurd h.2 List.not_mem_nil⟩
  | cons n rest ih =>
    rw [show l.addAll id (n :: rest) = (l.add ⟨id, n⟩).addAll id rest from rfl, ih, mem_add,
      List.mem_cons]
    constructor
    · rintro (⟨h1, h2⟩ | rfl | h)
      · exact .inl ⟨h1, .inr h2⟩
      · exact .inl ⟨rfl, .inl rfl⟩
      · exact .inr h
    · rintro (⟨rfl, rfl | h⟩ | h)
      · exact .inr (.inl rfl)
      · exact .inl ⟨rfl, h⟩
      · exact .inr (.inr h)

namespace SubscriptionManager

variable {m m' : SubscriptionManager} {events : List SequencerEvent} {s : SubscriptionId}

/-! ## Steps -/

/-- From outside no acknowledgement is added. -/
theorem Outside.acknowledgements (h : m.Outside m') :
    m'.acknowledgements.pending ⊆ m.acknowledgements.pending ∧ m'.carried ⊆ m.carried := by
  cases h with
  | quiet h => exact ⟨h.pending, h.carried⟩
  | answered a h => exact ⟨h.pending, h.carried⟩
  | created id k h => exact ⟨h.pending, h.carried⟩
  | delivered h => exact ⟨h.pending, h.carried⟩
  | deleted id h =>
    have hd : (m.acknowledgements.discard id).pending ⊆ m.acknowledgements.pending :=
      fun x hx => (Acknowledgements.mem_discard.1 hx).1
    refine ⟨List.Subset.trans h.pending hd, List.Subset.trans h.carried fun x hx => ?_⟩
    rcases List.mem_append.1 hx with hx | hx
    · exact List.mem_append_left _ (hd hx)
    · exact List.mem_append_right _ hx
  | stopped =>
    obtain ⟨-, -, -, -, ha, hb⟩ := shutDown_same m
    unfold SubscriptionManager.carried
    rw [ha, hb]
    exact ⟨List.Subset.refl _, List.Subset.refl _⟩
  | abandoned =>
    obtain ⟨-, -, -, -, ha, hb⟩ := abandon_same m
    unfold SubscriptionManager.carried
    rw [ha, hb]
    exact ⟨List.Subset.refl _, List.Subset.refl _⟩

/-- The response `a` is accepted in a step: its subscription has a cursor from then on, and what the
server keeps of it is acknowledged. -/
structure Accepts (m m' : SubscriptionManager) (a : PublishAnswer) : Prop where
  registers : m.registry.contains a.subscription = true
  registry : m'.registry = m.registry
  cursor : (m'.cursors.find? a.subscription).isSome = true
  pending : ∀ x, x ∈ m'.acknowledgements.pending ↔
    x.subscription = a.subscription ∧ x.sequenceNumber ∈ a.available ∨
      x ∈ m.acknowledgements.pending
  attempts : m'.attempts = m.attempts

theorem accepts_accept {a : PublishAnswer} (h : m.registry.contains a.subscription = true)
    (q : WorkQueue PublishAnswer) :
    m.Accepts (({ m with processing := q } : SubscriptionManager).accept a) a := by
  rw [accept_eq]
  refine ⟨h, rfl, ?_, fun x => Acknowledgements.mem_addAll, rfl⟩
  dsimp only
  rw [find?_advanceCursor]
  split
  · rfl
  · rename_i hc
    -- A cursor that does not move is there.
    rw [← Option.ne_none_iff_isSome]
    intro hnone
    exact hc ⟨rfl, by rw [hnone]; rfl⟩

theorem Step.accepts_of_evaluates (h : m.Step events m') {a : PublishAnswer}
    (ha : .evaluates a (some .accept) ∈ events) : m.Accepts m' a := by
  cases h with
  | outside | idles | rests => cases ha
  | drops | gaps => cases List.mem_singleton.1 ha
  | @accepts a' yields q ht hv =>
    rcases List.mem_cons.1 ha with ha | ha
    · injection ha with ha
      subst ha
      exact accepts_accept (verdict?_eq_some hv).1 q
    · cases List.mem_singleton.1 ha
  | recovers | ends => exact absurd ha evaluates_not_mem_run

/-- Only a response that is accepted adds acknowledgements. -/
theorem Step.acknowledgements (h : m.Step events m') :
    m'.acknowledgements.pending ⊆ m.acknowledgements.pending ∧ m'.carried ⊆ m.carried ∨
      ∃ a, .evaluates a (some .accept) ∈ events ∧ m.Accepts m' a := by
  have hsame : ∀ {m' : SubscriptionManager}, m'.acknowledgements = m.acknowledgements →
      m'.attempts = m.attempts →
      m'.acknowledgements.pending ⊆ m.acknowledgements.pending ∧ m'.carried ⊆ m.carried := by
    intro m' h1 h2
    unfold SubscriptionManager.carried
    rw [h1, h2]
    exact ⟨List.Subset.refl _, List.Subset.refl _⟩
  cases h with
  | outside h => exact .inl h.acknowledgements
  | idles | drops | gaps | rests => exact .inl (hsame rfl rfl)
  | @accepts a yields q ht hv =>
    exact .inr ⟨a, List.mem_cons_self, accepts_accept (verdict?_eq_some hv).1 q⟩
  | @recovers id r log stage requests hr hp hf hq =>
    obtain ⟨stats, hm⟩ := setRecovery_foldl_eq id r.subscription log stage m
    rw [hm]
    exact .inl (hsame rfl rfl)
  | @ends id r log requests hr hp hf hq =>
    obtain ⟨stats, hm⟩ := foldl_perform_eq r.subscription log m
    rw [endRecovery_eq, hm]
    exact .inl (hsame rfl rfl)

end SubscriptionManager

/-! ## What an attempt sends -/

namespace Client

open SubscriptionManager

variable {c : Client} {s : SubscriptionId} {n : SequenceNumber}

theorem posted_suspendAttempt (id : WorkId) (a : Attempt) (phase : CallPhase)
    (posted : Option Posted) (m : SubscriptionManager) (c : Client) :
    (c.suspendAttempt id a phase posted m).2 = posted := by
  unfold suspendAttempt
  split <;> rfl

theorem posted_startAttempt {m : SubscriptionManager} {id : WorkId} {a : Attempt}
    {answerFirst : Bool} {posted : Posted}
    (hp : (c.startAttempt id a answerFirst m).2 = some posted) :
    posted.request.question = ⟨.publish, a.call.query⟩ := by
  unfold startAttempt at hp
  dsimp only at hp
  split at hp
  · split at hp
    · cases hp
    · rename_i phase posted' e
      rw [posted_suspendAttempt] at hp
      subst hp
      rcases ServiceClient.start_pending (Prod.ext rfl e) with ⟨-, hnone⟩ | ⟨-, p, hsome, hq⟩
      · cases hnone
      · cases hsome
        exact hq
  · cases hp

theorem posted_advanceAttempt {m : SubscriptionManager} {id : WorkId} {a : Attempt}
    {phase : CallPhase} {answerFirst : Bool} {posted : Posted}
    (hp : (c.advanceAttempt id a phase answerFirst m).2 = some posted) :
    posted.request.question = ⟨.publish, a.call.query⟩ := by
  unfold advanceAttempt at hp
  dsimp only at hp
  split at hp
  · split at hp
    · rename_i phase posted' e
      rw [posted_suspendAttempt] at hp
      subst hp
      rcases ServiceClient.advance_pending (Prod.ext rfl e) with ⟨-, hnone⟩ | ⟨-, -, p, hsome, hq⟩
      · cases hnone
      · cases hsome
        exact hq
    · cases hp
  · cases hp

/-- The request that an attempt sends has the acknowledgements that the attempt carries. -/
theorem posted_pollAttempt {m : SubscriptionManager} (hm : c.manager = some m) {id : WorkId}
    {answerFirst : Bool} {posted : Posted} (hp : (c.pollAttempt id answerFirst).2 = some posted) :
    ∃ q : Service.publish.Query, posted.request.question = ⟨.publish, q⟩ ∧
      ∀ ack ∈ q.acknowledgements, ack ∈ m.carried := by
  unfold pollAttempt at hp
  rw [hm] at hp
  dsimp only at hp
  cases ha : m.attempt? id with
  | none =>
    rw [ha] at hp
    cases hp
  | some a =>
    have hcarried : ∀ ack ∈ a.acknowledgements, ack ∈ m.carried := by
      obtain ⟨l₁, l₂, hl, -⟩ := List.lookup_eq_some_iff.1 ha
      refine fun ack hack => List.mem_append_right _ (List.mem_flatMap.2 ⟨(id, a), ?_, hack⟩)
      rw [hl]
      exact List.mem_append_right _ List.mem_cons_self
    rw [ha] at hp
    dsimp only at hp
    refine ⟨a.call.query, ?_, hcarried⟩
    split at hp
    · exact posted_startAttempt hp
    · exact posted_advanceAttempt hp
    · split at hp <;> cases hp

/-! ## What has come -/

/-- The message `n` of a subscription has come in a run: a Publish response has brought it, or a
recovery has got it when it asked for it. -/
inductive Received (c : Client) (as : List Action) (s : SubscriptionId) (n : SequenceNumber) : Prop
  | published (p : List Action) (a : PublishAnswer) : p <+: as →
    a ∈ (c.after p).managed.processing.tasks → a.subscription = s →
    a.message.isKeepAlive = false → a.message.sequenceNumber = n → Received c as s n
  | republished (id : WorkId) (a : PublishAnswer) (x : SequenceNumber)
    (message : NotificationMessage) : c.Begun as id a x → a.subscription = s →
    message.sequenceNumber = n → .republished n (.ok message) ∈ recoveryEvents id (c.history as) →
    Received c as s n

/-- The message `n` of a subscription was missing in a run, and the recovery has turned to reading
the values instead. -/
inductive GivenUp (c : Client) (as : List Action) (s : SubscriptionId) (n : SequenceNumber) : Prop
  | intro (id : WorkId) (a : PublishAnswer) (x : SequenceNumber) (items : List ItemKey) :
    c.Begun as id a x → a.subscription = s →
    n ∈ walk (next x) (distance (next x) a.message.sequenceNumber) →
    .fallsBack items ∈ recoveryEvents id (c.history as) → GivenUp c as s n

/-- The message has come or was given up. -/
def Resolved (c : Client) (as : List Action) (s : SubscriptionId) (n : SequenceNumber) : Prop :=
  c.Received as s n ∨ c.GivenUp as s n

/-- The response `first` is the first one of the subscription that was accepted in a run. The `k`
messages from it on, up to the cursor, have come or were given up. -/
structure Complete (c : Client) (as : List Action) (s : SubscriptionId) (first : PublishAnswer)
    (k : Nat) : Prop where
  head : (acceptedOf s (c.history as)).head? = some first
  cursor : (c.after as).managed.lastSequenceNumber? s =
    some (next^[k] (previous first.message.sequenceNumber))
  resolved : ∀ n ∈ walk first.message.sequenceNumber k, c.Resolved as s n

variable {as bs : List Action} {a : PublishAnswer} {b : Action}

theorem Resolved.append (h : c.Resolved as s n) (bs : List Action) : c.Resolved (as ++ bs) s n := by
  rcases h with h | h
  · cases h with
    | published p a hp h1 h2 h3 h4 =>
      exact .inl (.published p a (hp.trans (List.prefix_append as bs)) h1 h2 h3 h4)
    | republished id a x message hb h1 h2 h3 =>
      exact .inl (.republished id a x message (hb.append bs) h1 h2
        (mem_recoveryEvents_append h3 bs))
  · obtain ⟨id, a, x, items, hb, h1, h2, h3⟩ := h
    exact .inr ⟨id, a, x, items, hb.append bs, h1, h2, mem_recoveryEvents_append h3 bs⟩

/-- A message that is accepted has come. -/
theorem received_of_evaluates {v : Option SequenceNumber.Verdict}
    (h : .evaluates a v ∈ (c.after as).events b) (hk : a.message.isKeepAlive = false) :
    c.Received (as ++ [b]) a.subscription a.message.sequenceNumber := by
  obtain ⟨-, ⟨yields, ht⟩, -⟩ := of_evaluates_mem h
  rcases e : (c.after as).managed.processing.turn with ⟨t, q⟩
  rw [e] at ht
  subst ht
  refine .published as a (List.prefix_append as [b]) ?_ rfl hk rfl
  rw [(WorkQueue.turn_run e).2.2.2.2]
  exact List.mem_cons_self

/-- What a recovery has made up for has come or was given up. -/
theorem MadeUp.resolved {id : WorkId} {x : SequenceNumber} (h : c.MadeUp as id a.subscription n)
    (hb : c.Begun as id a x)
    (hn : n ∈ walk (next x) (distance (next x) a.message.sequenceNumber)) :
    c.Resolved as a.subscription n := by
  cases h with
  | delivered message h1 h2 h3 => exact .inl (.republished id a x message hb rfl h1 h2)
  | read p b hp h1 h2 =>
    obtain ⟨qs, rfl⟩ := hp
    have hf : .fallsBack ((c.after p).managed.readableItems a.subscription) ∈
        recoveryEvents id (c.history (p ++ [b])) := by
      rw [history_snoc, recoveryEvents_append]
      exact List.mem_append_right _ h1
    exact .inr ⟨id, a, x, _, hb, rfl, hn, mem_recoveryEvents_append hf qs⟩

/-- Nothing is accepted of a subscription that is not registered, and it gets no cursor. -/
theorem Ready.unregistered (h : c.Ready) (hs : ¬ c.Registers s)
    (hx : c.managed.cursors.find? s = none) (b : Action) :
    acceptedOf s (c.events b) = [] ∧ (c.act b).1.managed.cursors.find? s = none := by
  constructor
  · refine List.eq_nil_iff_forall_not_mem.2 fun a ha => ?_
    obtain ⟨he, rfl⟩ := mem_acceptedOf.1 ha
    exact hs ((h.step b).2.2.accepts_of_evaluates he).registers
  · rcases (h.step b).2.2.cursor s with hc | ⟨-, hc⟩ | ⟨a, ha, -⟩ | ⟨id, r, -, -, -, hreg, -⟩
    · exact hc.trans hx
    · exact hc
    · have hr := ((h.step b).2.2.accepts_of_evaluates ha.evaluates).registers
      rw [ha.subscription] at hr
      exact absurd hr hs
    · exact absurd hreg hs

/-- Of a subscription that has never been registered nothing has been accepted. -/
theorem Begins.unregistered (hc : c.Begins) (hs : c.Throughout (fun c => ¬ c.Registers s) as) :
    acceptedOf s (c.history as) = [] ∧ (c.after as).managed.cursors.find? s = none := by
  induction as using List.reverseRecOn with
  | nil =>
    rw [after_nil, managed_of_eq hc.manager]
    exact ⟨rfl, rfl⟩
  | append_singleton as b ih =>
    have hs₀ := hs.mono (List.prefix_append as [b])
    obtain ⟨h1, h2⟩ := ih hs₀
    obtain ⟨h3, h4⟩ := (hc.ready.after as).unregistered hs₀.last h2 b
    rw [history_snoc, acceptedOf_append, h1, h3, after_snoc]
    exact ⟨rfl, h4⟩

theorem acceptedOf_of_accept (h : c.Ready) (ha : .evaluates a (some .accept) ∈ c.events b) :
    acceptedOf a.subscription (c.events b) = [a] := by
  rw [(h.step b).2.2.events_of_accept ha]
  simp [acceptedOf]

/-- The first response of a subscription is accepted. -/
theorem Ready.complete_of_first (h : c.Ready)
    (ha : .evaluates a (some .accept) ∈ (c.after as).events b)
    (hn : a.message.sequenceNumber ≠ 0) (hnone : acceptedOf a.subscription (c.history as) = [])
    (hx : (c.after (as ++ [b])).managed.lastSequenceNumber? a.subscription =
      some (consumed a.message)) :
    ∃ k, c.Complete (as ++ [b]) a.subscription a k := by
  have hhead : (acceptedOf a.subscription (c.history (as ++ [b]))).head? = some a := by
    rw [history_snoc, acceptedOf_append, hnone, acceptedOf_of_accept (h.after as) ha]
    rfl
  unfold consumed at hx
  cases hk : a.message.isKeepAlive with
  | true =>
    rw [hk, if_pos rfl] at hx
    exact ⟨0, hhead, hx, nofun⟩
  | false =>
    rw [hk, if_neg Bool.false_ne_true] at hx
    refine ⟨1, hhead, ?_, fun n hmem => ?_⟩
    · rw [hx, Function.iterate_one, SequenceNumber.next_previous hn]
    · rw [List.mem_singleton.1 hmem]
      exact .inl (received_of_evaluates ha hk)

/-- The cursor moves on over messages that have come or were given up. -/
theorem Complete.extend {first : PublishAnswer} {k j : Nat} {x : SequenceNumber}
    (h : c.Complete as s first k) (hf : first.message.sequenceNumber ≠ 0)
    (hx : (c.after as).managed.lastSequenceNumber? s = some x)
    (hy : (c.after (as ++ bs)).managed.lastSequenceNumber? s = some (next^[j] x))
    (hr : ∀ n ∈ walk (next x) j, c.Resolved (as ++ bs) s n) :
    c.Complete (as ++ bs) s first (k + j) := by
  have hcur := h.cursor
  rw [hx, Option.some_inj] at hcur
  refine ⟨?_, ?_, fun n hn => ?_⟩
  · rw [history_append, acceptedOf_append, List.head?_append, h.head]
    rfl
  · rw [hy, hcur, Nat.add_comm k j, Function.iterate_add_apply]
  · -- The number after the cursor is the one that the walk has come to.
    have hnext : next x = next^[k] first.message.sequenceNumber := by
      rw [hcur, ← Function.iterate_succ_apply' next, Function.iterate_succ_apply,
        SequenceNumber.next_previous hf]
    rw [SequenceNumber.walk_append, ← hnext] at hn
    rcases List.mem_append.1 hn with hn | hn
    · exact (h.resolved n hn).append bs
    · exact hr n hn

/-- Whatever moves the cursor, no message is left out. -/
theorem Complete.of_move {first : PublishAnswer} {k : Nat} {x y : SequenceNumber}
    (h : c.Complete as s first k) (hf : first.message.sequenceNumber ≠ 0)
    (hx : (c.after as).managed.lastSequenceNumber? s = some x)
    (hmove : c.CursorMove as b s (some x) y)
    (hy : (c.after (as ++ [b])).managed.lastSequenceNumber? s = some y) :
    ∃ k, c.Complete (as ++ [b]) s first k := by
  cases hmove with
  | next a x hsub ha hk he _ =>
    subst hsub
    refine ⟨k + 1, h.extend hf hx hy fun n hmem => ?_⟩
    rw [List.mem_singleton.1 hmem, ← he]
    exact .inl (received_of_evaluates ha hk)
  | recovered a x id hsub hb _ _ hiter hmade =>
    subst hsub
    rw [← hiter] at hy
    exact ⟨_, h.extend hf hx hy fun n hmem => (hmade n hmem).resolved (hb.append [b]) hmem⟩

/-- A response that is accepted leaves its subscription with a cursor. -/
theorem Ready.acceptedOf_eq_nil (h : c.Ready)
    (hx : (c.act b).1.managed.lastSequenceNumber? s = none) : acceptedOf s (c.events b) = [] := by
  refine List.eq_nil_iff_forall_not_mem.2 fun a ha => ?_
  obtain ⟨he, rfl⟩ := mem_acceptedOf.1 ha
  have hsome := ((h.step b).2.2.accepts_of_evaluates he).cursor
  rw [lastSequenceNumber?] at hx
  rw [hx] at hsome
  cases hsome

/-- The messages of a subscription from the first one accepted up to its cursor have come or were
given up. -/
theorem Begins.complete (hc : c.Begins) (hn : c.NeverReissues as) (hz : Numbered (c.history as))
    (hs : (c.after as).Registers s) :
    acceptedOf s (c.history as) = [] ∧ (c.after as).managed.lastSequenceNumber? s = none ∨
      ∃ first k, c.Complete as s first k := by
  induction as using List.reverseRecOn with
  | nil =>
    rw [after_nil, managed_of_eq hc.manager]
    exact .inl ⟨rfl, rfl⟩
  | append_singleton as b ih =>
    have hz₀ := hz.mono (List.prefix_append as [b])
    have hready := hc.ready.after as
    by_cases hs₀ : (c.after as).Registers s
    · rcases ih (hn.mono (List.prefix_append as [b])) hz₀ hs₀ with ⟨hnone, hx⟩ | ⟨first, k, hcomp⟩
      · by_cases hsame : (c.after (as ++ [b])).managed.lastSequenceNumber? s =
            (c.after as).managed.lastSequenceNumber? s
        · have hx' := hsame.trans hx
          refine .inl ⟨?_, hx'⟩
          rw [after_snoc] at hx'
          rw [history_snoc, acceptedOf_append, hnone, hready.acceptedOf_eq_nil hx']
          rfl
        · obtain ⟨y, hy, hmove⟩ := hc.cursorMove hn hz hs₀ hs hsame
          rw [hx] at hmove
          cases hmove with
          | first a hsub ha =>
            subst hsub
            rw [history_snoc] at hz
            have hn := hz a _ (List.mem_append_right _ ha)
            exact .inr ⟨a, hc.ready.complete_of_first ha hn hnone hy⟩
      · have hf := hz₀ first _ (mem_acceptedOf.1 (List.mem_of_mem_head? hcomp.head)).1
        have hx := hcomp.cursor
        by_cases hsame : (c.after (as ++ [b])).managed.lastSequenceNumber? s =
            (c.after as).managed.lastSequenceNumber? s
        · exact .inr ⟨first, k, hcomp.extend (j := 0) hf hx (hsame.trans hx) nofun⟩
        · obtain ⟨y, hy, hmove⟩ := hc.cursorMove hn hz hs₀ hs hsame
          rw [hx] at hmove
          exact .inr ⟨first, hcomp.of_move hf hx hmove hy⟩
    · -- A subscription that is registered now has not been registered before.
      have hnever : c.Throughout (fun c => ¬ c.Registers s) as := fun p hp hreg =>
        hn s p as _ hp (List.prefix_append as [b]) (List.prefix_refl _) hreg hs₀ hs
      obtain ⟨h1, h2⟩ := hc.unregistered hnever
      obtain ⟨h3, h4⟩ := hready.unregistered hs₀ h2 b
      rw [history_snoc, acceptedOf_append, h1, h3, after_snoc]
      exact .inl ⟨rfl, h4⟩

/-! ## Acknowledgements -/

/-- In the action `b` after a run the response `a` is accepted, and says that the server keeps the
message of the acknowledgement. -/
structure Lists (c : Client) (as : List Action) (b : Action) (a : PublishAnswer)
    (ack : Acknowledgement) : Prop where
  subscription : a.subscription = ack.subscription
  registers : (c.after as).Registers ack.subscription
  evaluates : .evaluates a (some .accept) ∈ (c.after as).events b
  available : ack.sequenceNumber ∈ a.available

variable {ack : Acknowledgement}

/-- An acknowledgement that is new is one that an accepted response asks for. -/
theorem Ready.lists (h : c.Ready) (hack : ack ∈ (c.act b).1.managed.acknowledgements.pending)
    (hnew : ack ∉ c.managed.acknowledgements.pending) : ∃ a, c.Lists [] b a ack := by
  rcases (h.step b).2.2.acknowledgements with ⟨hsub, -⟩ | ⟨a, he, ha⟩
  · exact absurd (hsub hack) hnew
  · obtain ⟨hs, hn⟩ := ((ha.pending ack).1 hack).resolve_right hnew
    exact ⟨a, hs.symm, hs ▸ ha.registers, he, hn⟩

/-- Once a response is accepted, no message from the first one up to the cursor is missing. -/
theorem Begins.complete_of_lists (hc : c.Begins) (hn : c.NeverReissues (as ++ [b]))
    (hz : Numbered (c.history (as ++ [b]))) (h : c.Lists as b a ack) :
    ∃ first k, c.Complete (as ++ [b]) ack.subscription first k := by
  have hstep := ((hc.ready.after as).step b).2.2.accepts_of_evaluates h.evaluates
  have hs : (c.after (as ++ [b])).Registers ack.subscription := by
    rw [after_snoc, Registers, hstep.registry]
    exact h.registers
  refine (hc.complete hn hz hs).resolve_left fun hnone => ?_
  have hmem : a ∈ acceptedOf ack.subscription (c.history (as ++ [b])) := by
    rw [history_snoc]
    exact mem_acceptedOf.2 ⟨List.mem_append_right _ h.evaluates, h.subscription⟩
  rw [hnone.1] at hmem
  cases hmem

/-- What an attempt carries has been pending before. -/
theorem Begins.pending_of_carried (hc : c.Begins) (h : ack ∈ (c.after as).managed.carried) :
    ∃ p, p <+: as ∧ ack ∈ (c.after p).managed.acknowledgements.pending := by
  induction as using List.reverseRecOn with
  | nil =>
    rw [after_nil, managed_of_eq hc.manager] at h
    cases h
  | append_singleton as b ih =>
    have hold : ack ∈ (c.after as).managed.carried →
        ∃ p, p <+: as ++ [b] ∧ ack ∈ (c.after p).managed.acknowledgements.pending := by
      intro h
      obtain ⟨p, hp, hack⟩ := ih h
      exact ⟨p, hp.trans (List.prefix_append as [b]), hack⟩
    rw [after_snoc] at h
    rcases ((hc.ready.after as).step b).2.2.acknowledgements with ⟨-, hsub⟩ | ⟨a, -, ha⟩
    · exact hold (hsub h)
    · rcases List.mem_append.1 h with h | h
      · exact ⟨_, List.prefix_refl _, by rw [after_snoc]; exact h⟩
      · rw [ha.attempts] at h
        exact hold (List.mem_append_right _ h)

/-- An acknowledgement is added when a response of its subscription is accepted that says that the
server keeps the message; a Publish request sends what has been added before. If the message is
one of those from the first one accepted up to the cursor, it has come or was given up. -/
theorem acknowledged_as_listed (hc : c.Begins) (as : List Action) :
    (∀ b, ∀ ack ∈ (c.after (as ++ [b])).managed.acknowledgements.pending,
      ack ∉ (c.after as).managed.acknowledgements.pending →
      (∃ a, c.Lists as b a ack) ∧
        (c.NeverReissues (as ++ [b]) → Numbered (c.history (as ++ [b])) →
          ∃ first k, c.Complete (as ++ [b]) ack.subscription first k)) ∧
    ∀ id answerFirst posted,
      ((c.after as).act (.run (.attempt id answerFirst))).2 = some posted →
      ∃ q, posted.request.question = ⟨.publish, q⟩ ∧ ∀ ack ∈ q.acknowledgements,
        ∃ p, p <+: as ∧ ack ∈ (c.after p).managed.acknowledgements.pending := by
  have hready := hc.ready.after as
  refine ⟨fun b ack hack hnew => ?_, fun id answerFirst posted hp => ?_⟩
  · rw [after_snoc] at hack
    obtain ⟨a, h1, h2, h3, h4⟩ := hready.lists hack hnew
    have hlists : c.Lists as b a ack := ⟨h1, h2, h3, h4⟩
    exact ⟨⟨a, hlists⟩, fun hn hz => hc.complete_of_lists hn hz hlists⟩
  · obtain ⟨q, hq, hcarried⟩ := posted_pollAttempt hready.manager hp
    exact ⟨q, hq, fun ack hack => hc.pending_of_carried (hcarried ack hack)⟩

/-- The sample run, and the end of the recovery. -/
def sampleEnd : List Action := sampleRun ++ [.run (.recovery 3)]

/-- With the message 4 of the sample the messages 1 to 4 have come, but for the message 3, which was
given up. -/
theorem acknowledged_as_listed_sample :
    sample.Begins ∧ sample.NeverReissues (sampleEnd ++ [.run .processing]) ∧
      Numbered (sample.history (sampleEnd ++ [.run .processing])) ∧
      ⟨7, 4⟩ ∈ (sample.after (sampleEnd ++ [.run .processing])).managed.acknowledgements.pending ∧
      ⟨7, 4⟩ ∉ (sample.after sampleEnd).managed.acknowledgements.pending ∧
      (∃ a, sample.Lists sampleEnd (.run .processing) a ⟨7, 4⟩) ∧
      ∃ first k, sample.Complete (sampleEnd ++ [.run .processing]) 7 first k := by
  have hn : sample.NeverReissues (sampleEnd ++ [.run .processing]) :=
    KeepsAll.neverReissues (by decide)
  have hz : Numbered (sample.history (sampleEnd ++ [.run .processing])) := by decide
  have hmem : ⟨7, 4⟩ ∈
      (sample.after (sampleEnd ++ [.run .processing])).managed.acknowledgements.pending := by decide
  have hnew : ⟨7, 4⟩ ∉ (sample.after sampleEnd).managed.acknowledgements.pending := by decide
  have h := (acknowledged_as_listed sample_begins sampleEnd).1 (.run .processing) ⟨7, 4⟩ hmem hnew
  exact ⟨sample_begins, hn, hz, hmem, hnew, h.1, h.2 hn hz⟩

/-- The first response brings the message 5 and says that the server keeps 3, 5 and 6. It is the next
one to be evaluated. -/
def sampleUnseen : List Action :=
  sampleStart ++ publishing 0 2
    (Simulation.Sample.publication 7 (Simulation.Sample.dataChange 5 [1] 5) (some [3, 5, 6]))

/-- Two messages are acknowledged that have neither come nor were given up: one of them is older
than the first message, the other one is ahead of the cursor. -/
theorem acknowledges_unseen :
    sample.Begins ∧ ∀ n ∈ [(3 : SequenceNumber), 6],
      ⟨7, n⟩ ∉ (sample.after sampleUnseen).managed.acknowledgements.pending ∧
      ⟨7, n⟩ ∈
        (sample.after (sampleUnseen ++ [.run .processing])).managed.acknowledgements.pending ∧
      ¬ sample.Resolved (sampleUnseen ++ [.run .processing]) 7 n := by
  -- Only the message 5 comes, and there is no recovery.
  have hcome : sample.Throughout
      (fun c => ∀ a ∈ c.managed.processing.tasks, a.message.sequenceNumber = 5)
      (sampleUnseen ++ [.run .processing]) := by decide
  have hquiet : ∀ id, recoveryEvents id
      (sample.history (sampleUnseen ++ [.run .processing])) = [] := fun id => rfl
  have hno : ∀ n, n ≠ 5 → ¬ sample.Resolved (sampleUnseen ++ [.run .processing]) 7 n := by
    rintro n hn (h | ⟨id, a, x, items, -, -, -, h⟩)
    · cases h with
      | published p a hp ha _ _ he => exact hn (he.symm.trans (hcome p hp a ha))
      | republished id a x message _ _ _ h =>
        rw [hquiet] at h
        cases h
    · rw [hquiet] at h
      cases h
  refine ⟨sample_begins, List.forall_mem_cons.2 ⟨?_, List.forall_mem_singleton.2 ?_⟩⟩
  · exact ⟨by decide, by decide, hno 3 (by decide)⟩
  · exact ⟨by decide, by decide, hno 6 (by decide)⟩

end Client

end OpcUa
