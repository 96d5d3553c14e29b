import OpcUa.Proofs.Solo

/-!
# Subscriptions do not disturb each other

All subscriptions share the two queues, their flags, the table of the cursors and the set of the
acknowledgements, and the recovery of one holds up the others. What is done for a subscription still
depends on nothing but its own items, the responses that come for it, and what its own recoveries
are told. So two runs in which these are the same do the same for it.

* `Client.share`: what a run does for one subscription.
* `Client.Ready.requestsFor_eq`, `Client.Ready.deliveriesFor_eq`, `Client.Ready.queues_iff`: what
  comes of it can be read off the deeds.
* `Client.Hosts`, `Client.Alike`: the two runs.
* `Client.independent_of_others`: they do the same for the subscription.
-/

namespace OpcUa

/-! ## What is done for one subscription -/

/-- Whether an event is about the subscription: its response is evaluated, or its recovery does
something. -/
def SequencerEvent.isAbout (s : SubscriptionId) : SequencerEvent → Bool
  | evaluates a _ => a.subscription = s
  | recovers _ s' _ => s' = s
  | hands _ | posts .. => false

/-- The events of one action, if it works for the subscription `s`. -/
def shareOf (s : SubscriptionId) (events : List SequencerEvent) : List SequencerEvent :=
  if events.any (·.isAbout s) then events else []

namespace Deed

/-- What is put on the delivery queue, when it is done for the subscription `s`. -/
def deliveries (s : SubscriptionId) : Deed → List Delivery
  | judges a .accept => [.message s a.message]
  | judges _ (.gap _) => []
  | recovers e => e.deliveries s

def question? : Deed → Option RecoveryQuestion
  | recovers e => e.question?
  | judges .. => none

def accepted? : Deed → Option PublishAnswer
  | judges a .accept => some a
  | judges _ (.gap _) | recovers _ => none

end Deed

theorem acceptedOf_eq_deeds (s : SubscriptionId) (h : List SequencerEvent) :
    acceptedOf s h = (deedsOf s h).filterMap (·.accepted?) := by
  rw [acceptedOf, deedsOf, List.filterMap_filterMap]
  congr 1
  funext e
  cases e with
  | hands | posts => rfl
  | recovers id s' e =>
    dsimp only
    split <;> rfl
  | evaluates a v =>
    rcases v with _ | _ | n
    · rfl
    · dsimp only
      split <;> rfl
    · dsimp only
      split <;> rfl

section

variable {s s' : SubscriptionId} {id : WorkId} {log : List RecoveryEvent} {requests : List Request}

theorem isAbout_run {deliveries : List Delivery} {e : SequencerEvent}
    (he : e ∈ log.map (SequencerEvent.recovers id s') ++ requests.map (SequencerEvent.posts id) ++
      deliveries.map SequencerEvent.hands) (ha : e.isAbout s = true) : s' = s := by
  rcases List.mem_append.1 he with he | he
  · rcases List.mem_append.1 he with he | he
    · obtain ⟨x, -, rfl⟩ := List.mem_map.1 he
      exact of_decide_eq_true ha
    · obtain ⟨x, -, rfl⟩ := List.mem_map.1 he
      cases ha
  · obtain ⟨x, -, rfl⟩ := List.mem_map.1 he
    cases ha

/-- A run of a recovery works for its own subscription, and does nothing if its log is empty. -/
theorem shareOf_run
    (hq : requests.map (·.question) = (log.filterMap (·.question?)).map (·.request s')) :
    shareOf s (log.map (.recovers id s') ++ requests.map (.posts id) ++
        (log.flatMap (·.deliveries s')).map .hands) =
      if s' = s then log.map (.recovers id s') ++ requests.map (.posts id) ++
        (log.flatMap (·.deliveries s')).map .hands else [] := by
  unfold shareOf
  split
  · rename_i h
    obtain ⟨e, he, ha⟩ := List.any_eq_true.1 h
    rw [if_pos (isAbout_run he ha)]
  · rename_i h
    split
    · rename_i hs
      cases log with
      | nil =>
        obtain rfl : requests = [] := List.map_eq_nil_iff.1 hq
        rfl
      | cons e log => simp [SequencerEvent.isAbout, hs] at h
    · rfl

/-- What a run of a recovery puts on the delivery queue and what it asks the server belongs to its
events. -/
theorem share_run
    (hq : requests.map (·.question) = (log.filterMap (·.question?)).map (·.request s'))
    (events : List SequencerEvent) (he : events = log.map (.recovers id s') ++
      requests.map (.posts id) ++ (log.flatMap (·.deliveries s')).map .hands) :
    handedOut (shareOf s events) = (deedsOf s events).flatMap (·.deliveries s) ∧
      ((shareOf s events).filterMap (·.request?)).map (·.question) =
        ((deedsOf s events).filterMap (·.question?)).map (·.request s) := by
  subst he
  rw [shareOf_run hq, deedsOf_run]
  split
  · rename_i hs
    subst hs
    rw [handedOut_run, requests_run, hq, List.flatMap_map, List.filterMap_map]
    exact ⟨rfl, rfl⟩
  · exact ⟨rfl, rfl⟩

end

namespace SubscriptionManager

variable {m m' : SubscriptionManager} {events : List SequencerEvent}

/-- What an action puts on the delivery queue for the subscription and what it asks the server
belongs to the deeds. -/
theorem Step.share (h : m.Step events m') (s : SubscriptionId) :
    handedOut (shareOf s events) = (deedsOf s events).flatMap (·.deliveries s) ∧
      ((shareOf s events).filterMap (·.request?)).map (·.question) =
        ((deedsOf s events).filterMap (·.question?)).map (·.request s) := by
  cases h with
  | outside | idles | rests => exact ⟨rfl, rfl⟩
  | @drops a yields q ht hv =>
    unfold shareOf
    split <;> exact ⟨rfl, rfl⟩
  | @accepts a yields q ht hv =>
    by_cases hs : a.subscription = s
    · subst hs
      simp [shareOf, SequencerEvent.isAbout, handedOut, deedsOf, Deed.deliveries, Deed.question?,
        SequencerEvent.request?]
    · simp [shareOf, SequencerEvent.isAbout, hs, deedsOf, handedOut]
  | @gaps a yields q n ht hv =>
    by_cases hs : a.subscription = s
    · subst hs
      simp [shareOf, SequencerEvent.isAbout, handedOut, deedsOf, Deed.deliveries, Deed.question?,
        SequencerEvent.request?]
    · simp [shareOf, SequencerEvent.isAbout, hs, deedsOf, handedOut]
  | recovers hr hp hf hq => exact share_run hq _ rfl
  | ends hr hp hf hq => exact share_run hq _ rfl

/-- In the other actions no message of the subscription is put on the delivery queue or asked
for. -/
theorem Step.share_complete (h : m.Step events m') (s : SubscriptionId) :
    dataHanded s events = dataHanded s (shareOf s events) ∧
      republishesOf s events = republishesOf s (shareOf s events) := by
  cases h with
  | outside | idles | rests => exact ⟨rfl, rfl⟩
  | @drops a yields q ht hv =>
    unfold shareOf
    split <;> exact ⟨rfl, rfl⟩
  | @accepts a yields q ht hv =>
    unfold shareOf
    split
    · exact ⟨rfl, rfl⟩
    · rename_i hn
      have hs : a.subscription ≠ s := by simpa [SequencerEvent.isAbout] using hn
      exact ⟨(events_accept_other (m := m) hs).2.1, rfl⟩
  | @gaps a yields q n ht hv =>
    unfold shareOf
    split <;> exact ⟨rfl, rfl⟩
  | @recovers id r log stage requests hr hp hf hq =>
    rw [shareOf_run hq]
    split
    · exact ⟨rfl, rfl⟩
    · rename_i hs
      exact (events_run_other hs hq).2
  | @ends id r log requests hr hp hf hq =>
    rw [shareOf_run hq]
    split
    · exact ⟨rfl, rfl⟩
    · rename_i hs
      exact (events_run_other hs hq).2

end SubscriptionManager

/-! ## Runs -/

namespace Client

open SubscriptionManager

variable {c : Client} {s : SubscriptionId} {as bs : List Action}

/-- What is done for the subscription in a run. -/
def share (s : SubscriptionId) : List Action → Client → List SequencerEvent
  | [], _ => []
  | a :: as, c => shareOf s (c.events a) ++ share s as (c.act a).1

/-- The questions that the recoveries of the subscription ask the server in a run. -/
def requestsFor (s : SubscriptionId) (as : List Action) (c : Client) :
    List ((service : Service) × service.Query) :=
  ((c.share s as).filterMap (·.request?)).map (·.question)

/-- What is put on the delivery queue for the subscription in a run. -/
def deliveriesFor (s : SubscriptionId) (as : List Action) (c : Client) : List Delivery :=
  handedOut (c.share s as)

/-- The acknowledgement is pending at some time in a run. -/
def Queues (as : List Action) (x : Acknowledgement) (c : Client) : Prop :=
  ∃ p, p <+: as ∧ x ∈ (c.after p).managed.acknowledgements.pending

theorem Ready.deliveriesFor_eq (h : c.Ready) (s : SubscriptionId) (as : List Action) :
    c.deliveriesFor s as = (deedsOf s (c.history as)).flatMap (·.deliveries s) := by
  induction as generalizing c with
  | nil => rfl
  | cons a as ih =>
    rw [deliveriesFor, share, handedOut_append, ((h.step a).2.2.share s).1, history, deedsOf_append,
      List.flatMap_append]
    exact congrArg _ (ih (h.act a))

theorem Ready.requestsFor_eq (h : c.Ready) (s : SubscriptionId) (as : List Action) :
    c.requestsFor s as =
      ((deedsOf s (c.history as)).filterMap (·.question?)).map (·.request s) := by
  induction as generalizing c with
  | nil => rfl
  | cons a as ih =>
    rw [requestsFor, share, List.filterMap_append, List.map_append, ((h.step a).2.2.share s).2,
      history, deedsOf_append, List.filterMap_append, List.map_append]
    exact congrArg _ (ih (h.act a))

/-- The share of a subscription has all of its messages, and all requests for them. -/
theorem Ready.share_complete (h : c.Ready) (s : SubscriptionId) (as : List Action) :
    dataHanded s (c.history as) = dataHanded s (c.share s as) ∧
      republishesOf s (c.history as) = republishesOf s (c.share s as) := by
  induction as generalizing c with
  | nil => exact ⟨rfl, rfl⟩
  | cons a as ih =>
    obtain ⟨h1, h2⟩ := (h.step a).2.2.share_complete s
    obtain ⟨h3, h4⟩ := ih (h.act a)
    rw [history, share, dataHanded_append, dataHanded_append, republishesOf_append,
      republishesOf_append, h1, h2, h3, h4]
    exact ⟨rfl, rfl⟩

theorem queues_cons {a : Action} {x : Acknowledgement} :
    c.Queues (a :: as) x ↔
      x ∈ c.managed.acknowledgements.pending ∨ (c.act a).1.Queues as x := by
  constructor
  · rintro ⟨p, hp, hx⟩
    cases p with
    | nil => exact .inl hx
    | cons b p =>
      obtain ⟨rfl, hp'⟩ := List.cons_prefix_cons.1 hp
      exact .inr ⟨p, hp', hx⟩
  · rintro (hx | ⟨p, hp, hx⟩)
    · exact ⟨[], List.nil_prefix, hx⟩
    · exact ⟨a :: p, List.cons_prefix_cons.2 ⟨rfl, hp⟩, hx⟩

/-- An acknowledgement is pending at first, or a response that is accepted brings it. -/
theorem Ready.queues_iff (h : c.Ready) (as : List Action) (s : SubscriptionId)
    (n : SequenceNumber) :
    c.Queues as ⟨s, n⟩ ↔ ⟨s, n⟩ ∈ c.managed.acknowledgements.pending ∨
      ∃ a ∈ acceptedOf s (c.history as), n ∈ a.available := by
  induction as generalizing c with
  | nil =>
    refine ⟨fun ⟨p, hp, hx⟩ => .inl ?_, fun hx => ⟨[], List.nil_prefix, hx.resolve_right nofun⟩⟩
    rwa [List.prefix_nil.1 hp] at hx
  | cons b as ih =>
    have hstep := (h.step b).2.2
    rw [queues_cons, ih (h.act b), history, acceptedOf_append]
    constructor
    · rintro (hx | hx | ⟨a, ha, hn⟩)
      · exact .inl hx
      · rcases hstep.acknowledgements with ⟨hsub, -⟩ | ⟨a, ha, hacc⟩
        · exact .inl (hsub hx)
        · rcases (hacc.pending ⟨s, n⟩).1 hx with ⟨hs, hn⟩ | hx
          · exact .inr ⟨a, List.mem_append_left _ (mem_acceptedOf.2 ⟨ha, hs.symm⟩), hn⟩
          · exact .inl hx
      · exact .inr ⟨a, List.mem_append_right _ ha, hn⟩
    · rintro (hx | ⟨a, ha, hn⟩)
      · exact .inl hx
      · rcases List.mem_append.1 ha with ha | ha
        · obtain ⟨he, rfl⟩ := mem_acceptedOf.1 ha
          exact .inr (.inl (((hstep.accepts_of_evaluates he).pending _).2 (.inl ⟨rfl, hn⟩)))
        · exact .inr (.inr ⟨a, ha, hn⟩)

/-- When all its responses are evaluated, no recovery of a subscription is in progress. -/
theorem Ready.rests_of_workedOff (h : c.Ready) (hw : c.WorkedOff s) : c.managed.Rests s := by
  intro p hp hs
  have hshape := h.orderly.shape
  match e : c.managed.recoveries with
  | [] =>
    rw [e] at hp
    cases hp
  | [(id, r)] =>
    rw [e] at hshape hp
    obtain rfl := List.mem_singleton.1 hp
    obtain ⟨a, rest, ht, ha, -⟩ := hshape.2.2.2 hw.1
    refine hw.2 a ?_ (ha.trans hs)
    rw [ht]
    exact List.mem_cons_self
  | _ :: _ :: _ =>
    rw [e] at hshape
    exact hshape.elim

/-- A run from the state after `as`, in which the subscription `s` stays registered and has the
items `items`: no recovery of it is in progress at first, and all its responses are evaluated in the
end. -/
structure Hosts (s : SubscriptionId) (items : List (ClientHandle × ItemKey × ReadValueId))
    (as bs : List Action) (c : Client) : Prop where
  begins : c.Begins
  registers : (c.after as).Throughout (Registers s) bs
  items : (c.after as).Throughout (·.managed.valueItems s = items) bs
  rests : (c.after as).managed.Rests s
  workedOff : (c.after (as ++ bs)).WorkedOff s

/-- The subscription is in the same state at first in two runs, receives the same responses in the
same order, and its recoveries are told the same. -/
structure Alike (s : SubscriptionId) (c₁ : Client) (bs₁ : List Action) (c₂ : Client)
    (bs₂ : List Action) : Prop where
  cursor : c₁.managed.lastSequenceNumber? s = c₂.managed.lastSequenceNumber? s
  acknowledgements : ∀ n, ⟨s, n⟩ ∈ c₁.managed.acknowledgements.pending ↔
    ⟨s, n⟩ ∈ c₂.managed.acknowledgements.pending
  inbox : c₁.inbox s bs₁ = c₂.inbox s bs₂
  republishes : republishReactions s (c₁.history bs₁) = republishReactions s (c₂.history bs₂)
  reads : readReactions s (c₁.history bs₁) = readReactions s (c₂.history bs₂)

section

variable {items : List (ClientHandle × ItemKey × ReadValueId)}

/-- A run takes the machine of the subscription to its end. -/
theorem Hosts.runs (h : c.Hosts s items as bs) {target : ItemKey → ReadValueId}
    (ht : ∀ p ∈ items.map (·.2), p.2 = target p.1) :
    Solo.Runs (items.map (·.2.1)) target
      ⟨(c.after as).managed.lastSequenceNumber? s, none, (c.after as).inbox s bs,
        republishReactions s ((c.after as).history bs), readReactions s ((c.after as).history bs)⟩
      (deedsOf s ((c.after as).history bs))
      ⟨(c.after (as ++ bs)).managed.lastSequenceNumber? s, none, [], [], []⟩ := by
  have hready := h.begins.ready.after as
  have hend := (h.begins.ready.after (as ++ bs)).rests_of_workedOff h.workedOff
  have hread : (c.after as).managed.ReadsOnly s (items.map (·.2.1)) :=
    fun id r hr hs => absurd hs (h.rests.subscription_ne hready.orderly hr)
  have hnone : (c.after (as ++ bs)).managed.processing.tasks.filter (·.subscription = s) = [] :=
    List.filter_eq_nil_iff.2 fun a ha => by simpa using h.workedOff.2 a ha
  have hrun := h.workedOff.1
  rw [after_append] at hend hnone hrun
  have hruns := hready.solo s hrun h.registers h.items ht hread [] []
  rw [solo, solo, recoveryOf_of_rests h.rests, recoveryOf_of_rests hend, List.append_nil,
    List.append_nil, List.append_nil, hnone] at hruns
  rw [after_append]
  exact hruns

/-- Two runs that bring a subscription the same do the same for it, whatever they bring the
others. -/
theorem independent_of_others {c₁ c₂ : Client} (as₁ bs₁ as₂ bs₂ : List Action)
    (s : SubscriptionId) (h₁ : c₁.Hosts s items as₁ bs₁) (h₂ : c₂.Hosts s items as₂ bs₂)
    (h : Alike s (c₁.after as₁) bs₁ (c₂.after as₂) bs₂) :
    (c₁.after (as₁ ++ bs₁)).managed.lastSequenceNumber? s =
        (c₂.after (as₂ ++ bs₂)).managed.lastSequenceNumber? s ∧
      (∀ n, (c₁.after as₁).Queues bs₁ ⟨s, n⟩ ↔ (c₂.after as₂).Queues bs₂ ⟨s, n⟩) ∧
      (c₁.after as₁).requestsFor s bs₁ = (c₂.after as₂).requestsFor s bs₂ ∧
      (c₁.after as₁).deliveriesFor s bs₁ = (c₂.after as₂).deliveriesFor s bs₂ := by
  have hready₁ := h₁.begins.ready.after as₁
  have hready₂ := h₂.begins.ready.after as₂
  obtain ⟨target, htarget⟩ : ∃ target : ItemKey → ReadValueId,
      ∀ p ∈ items.map (·.2), p.2 = target p.1 := by
    refine ⟨fun k => (c₁.after as₁).managed.target k, fun p hp => ?_⟩
    rw [← h₁.items [] List.nil_prefix, map_valueItems] at hp
    obtain ⟨k, -, rfl⟩ := List.mem_map.1 hp
    rfl
  have hruns₁ := h₁.runs htarget
  rw [h.cursor, h.inbox, h.republishes, h.reads] at hruns₁
  obtain ⟨hdeeds, hlast⟩ := hruns₁.unique (h₂.runs htarget) (Solo.next_of_done rfl rfl)
    (Solo.next_of_done rfl rfl)
  refine ⟨congrArg Solo.cursor hlast, fun n => ?_, ?_, ?_⟩
  · rw [hready₁.queues_iff, hready₂.queues_iff, acceptedOf_eq_deeds, acceptedOf_eq_deeds, hdeeds,
      h.acknowledgements]
  · rw [hready₁.requestsFor_eq, hready₂.requestsFor_eq, hdeeds]
  · rw [hready₁.deliveriesFor_eq, hready₂.deliveriesFor_eq, hdeeds]

end

section

open Simulation

/-- The sample client has the subscriptions 7 and 8. -/
def sampleShared : List Action :=
  sampleStart ++ operating 2 2 (.create ⟨100.0, 30, 10, 0, true, 0⟩)
    (goodReply .createSubscription ⟨8, ⟨100.0, 30, 10⟩⟩)

/-- In a recovery of the subscription 7 the message 2 comes, the message 3 does not, and the value
of the item is read. -/
def recoveringSeven (id : WorkId) (x : ExchangeId) : List Action :=
  [.run .processing, .run (.recovery id),
    .reply x (goodReply .republish (Sample.dataChange 2 [1] 5)), .run (.recovery id),
    .reply (x + 1) (.ok ⟨.republish, ⟨default, 0, .badMessageNotAvailable⟩, default⟩),
    .run (.recovery id), .reply (x + 2) (goodReply .read [.taken (.int32 5) default]),
    .run (.recovery id), .run .processing]

/-- Only the subscription 7 receives messages. -/
def sampleQuiet : List Action :=
  publishing 0 3 (sampleAnswer 1) ++ [.run .processing] ++ publishing 1 4 (sampleAnswer 4) ++
    recoveringSeven 4 5

/-- The response with the message `n` of the subscription 8. -/
def otherAnswer (n : SequenceNumber) : PublishAnswer :=
  Sample.publication 8 (Sample.dataChange n [2] 5) none

/-- The subscription 8 receives the messages 1 and 4 as well, and its gap is recovered while the
message 4 of the subscription 7 is waiting. -/
def sampleBusy : List Action :=
  publishing 0 3 (otherAnswer 1) ++ publishing 1 4 (sampleAnswer 1) ++
    [.run .processing, .run .processing] ++ publishing 2 5 (otherAnswer 4) ++
    publishing 3 6 (sampleAnswer 4) ++
    [.run .processing, .run (.recovery 6),
      .reply 7 (goodReply .republish (Sample.dataChange 2 [2] 5)), .run (.recovery 6),
      .reply 8 (goodReply .republish (Sample.dataChange 3 [2] 5)), .run (.recovery 6),
      .run .processing] ++
    recoveringSeven 7 9

/-- The recovery of the subscription 8 makes no difference to the subscription 7. -/
theorem independent_of_others_sample :
    sample.Hosts 7 ((sample.after sampleShared).managed.valueItems 7) sampleShared sampleQuiet ∧
      sample.Hosts 7 ((sample.after sampleShared).managed.valueItems 7) sampleShared sampleBusy ∧
      Alike 7 (sample.after sampleShared) sampleQuiet (sample.after sampleShared) sampleBusy ∧
      ((sample.after sampleShared).requestsFor 8 sampleQuiet).length = 0 ∧
      ((sample.after sampleShared).requestsFor 8 sampleBusy).length = 2 ∧
      (sample.after (sampleShared ++ sampleQuiet)).managed.lastSequenceNumber? 7 =
        (sample.after (sampleShared ++ sampleBusy)).managed.lastSequenceNumber? 7 ∧
      (∀ n, (sample.after sampleShared).Queues sampleQuiet ⟨7, n⟩ ↔
        (sample.after sampleShared).Queues sampleBusy ⟨7, n⟩) ∧
      (sample.after sampleShared).requestsFor 7 sampleQuiet =
        (sample.after sampleShared).requestsFor 7 sampleBusy ∧
      (sample.after sampleShared).deliveriesFor 7 sampleQuiet =
        (sample.after sampleShared).deliveriesFor 7 sampleBusy := by
  have h₁ : sample.Hosts 7 ((sample.after sampleShared).managed.valueItems 7) sampleShared
      sampleQuiet := ⟨sample_begins, by decide, by decide, by decide, by decide, by decide⟩
  have h₂ : sample.Hosts 7 ((sample.after sampleShared).managed.valueItems 7) sampleShared
      sampleBusy := ⟨sample_begins, by decide, by decide, by decide, by decide, by decide⟩
  -- In both runs the calls of the recovery of the subscription 7 are told the same.
  have hrepublishes (as : List Action) (h : as = sampleQuiet ∨ as = sampleBusy) :
      republishReactions 7 ((sample.after sampleShared).history as) =
        [.sent, .ended (.ok (Sample.dataChange 2 [1] 5)), .sent,
          .ended (.error (.service ⟨"Republish", .badMessageNotAvailable⟩))] := by
    rcases h with rfl | rfl <;> rfl
  have hreads (as : List Action) (h : as = sampleQuiet ∨ as = sampleBusy) :
      readReactions 7 ((sample.after sampleShared).history as) =
        [.sent, .ended (.ok [.taken (.int32 5) default])] := by
    rcases h with rfl | rfl <;> rfl
  have h : Alike 7 (sample.after sampleShared) sampleQuiet (sample.after sampleShared) sampleBusy :=
    ⟨rfl, fun _ => Iff.rfl, rfl,
      (hrepublishes _ (.inl rfl)).trans (hrepublishes _ (.inr rfl)).symm,
      (hreads _ (.inl rfl)).trans (hreads _ (.inr rfl)).symm⟩
  exact ⟨h₁, h₂, h, by decide, by decide,
    independent_of_others sampleShared sampleQuiet sampleShared sampleBusy 7 h₁ h₂ h⟩

end

end Client

end OpcUa
