import OpcUa.Proofs.Cursor

/-!
# Every message once

As long as the server returns every message that it is asked for, the messages of a subscription are
delivered with consecutive numbers, each of them once. Those that no Publish response has brought
are asked for, each of them once.

* `Accounts`: what becomes of the messages of a subscription in a history.
* `RecoveryPoint.Path.fetches`: a recovery fetches consecutive messages.
* `SubscriptionManager.Linked`: which message of a subscription is the next one.
* `SubscriptionManager.Step.accounts`: a step goes on with that message.
* `Client.delivered_once_in_order`: so does every run.
-/

namespace OpcUa

open SequenceNumber (next previous isAfter evaluate walk distance)

/-! ## The messages of one subscription -/

/-- The responses of a subscription that are accepted in a history. -/
def acceptedOf (s : SubscriptionId) (h : List SequencerEvent) : List PublishAnswer :=
  h.filterMap fun
    | .evaluates a (some .accept) => if a.subscription = s then some a else none
    | _ => none

/-- The message of a subscription that is delivered, if it has data. -/
def Delivery.data? (s : SubscriptionId) : Delivery → Option NotificationMessage
  | message id m => if id = s ∧ m.isKeepAlive = false then some m else none
  | value .. => none

/-- The messages of a subscription with data that are put on the delivery queue. -/
def dataHanded (s : SubscriptionId) (h : List SequencerEvent) : List NotificationMessage :=
  (handedOut h).filterMap (·.data? s)

/-- The number of the message of a subscription that a question asks for, if it does so. -/
def republishNumber? (s : SubscriptionId) :
    (service : Service) × service.Query → Option SequenceNumber
  | ⟨.republish, q⟩ => if q.subscription = s then some q.sequenceNumber else none
  | _ => none

def SequencerEvent.request? : SequencerEvent → Option Request
  | posts _ r => some r
  | _ => none

/-- The numbers of the messages of a subscription that are asked for in a history. -/
def republishesOf (s : SubscriptionId) (h : List SequencerEvent) : List SequenceNumber :=
  (h.filterMap (·.request?)).filterMap fun r => republishNumber? s r.question

/-- How a message has come. -/
inductive Origin where
  | published
  | republished
  deriving DecidableEq

/-- The messages that have come in one way. -/
def ofOrigin (o : Origin) (l : List (NotificationMessage × Origin)) : List NotificationMessage :=
  (l.filter (·.2 = o)).map (·.1)

/-- In a history the messages `l` of a subscription are delivered, with consecutive numbers from `n`
on. The messages `before` have been asked for earlier, and the messages `after` have not come. -/
structure Accounts (s : SubscriptionId) (n : SequenceNumber)
    (l : List (NotificationMessage × Origin)) (h : List SequencerEvent)
    (before after : List SequenceNumber) : Prop where
  handed : dataHanded s h = l.map (·.1)
  numbers : l.map (·.1.sequenceNumber) = walk n l.length
  accepted : ((acceptedOf s h).map (·.message)).filter (!·.isKeepAlive) = ofOrigin .published l
  asked : before ++ republishesOf s h =
    (ofOrigin .republished l).map (·.sequenceNumber) ++ after

variable {s : SubscriptionId} {n : SequenceNumber} {l l' : List (NotificationMessage × Origin)}
  {h h' : List SequencerEvent} {before after after' : List SequenceNumber}

theorem mem_acceptedOf {a : PublishAnswer} :
    a ∈ acceptedOf s h ↔ .evaluates a (some .accept) ∈ h ∧ a.subscription = s := by
  unfold acceptedOf
  rw [List.mem_filterMap]
  constructor
  · rintro ⟨e, he, hea⟩
    split at hea
    · split at hea
      · rename_i hs
        cases hea
        exact ⟨he, hs⟩
      · cases hea
    · cases hea
  · rintro ⟨he, hs⟩
    exact ⟨_, he, if_pos hs⟩

theorem acceptedOf_append (s : SubscriptionId) (h h' : List SequencerEvent) :
    acceptedOf s (h ++ h') = acceptedOf s h ++ acceptedOf s h' :=
  List.filterMap_append

theorem dataHanded_append (s : SubscriptionId) (h h' : List SequencerEvent) :
    dataHanded s (h ++ h') = dataHanded s h ++ dataHanded s h' := by
  rw [dataHanded, handedOut_append, List.filterMap_append]
  rfl

theorem republishesOf_append (s : SubscriptionId) (h h' : List SequencerEvent) :
    republishesOf s (h ++ h') = republishesOf s h ++ republishesOf s h' := by
  rw [republishesOf, List.filterMap_append, List.filterMap_append]
  rfl

theorem ofOrigin_append (o : Origin) (l l' : List (NotificationMessage × Origin)) :
    ofOrigin o (l ++ l') = ofOrigin o l ++ ofOrigin o l' := by
  rw [ofOrigin, List.filter_append, List.map_append]
  rfl

theorem ofOrigin_self (o : Origin) (messages : List NotificationMessage) :
    ofOrigin o (messages.map (·, o)) = messages := by
  induction messages with
  | nil => rfl
  | cons m rest ih =>
    rw [ofOrigin, List.map_cons, List.filter_cons_of_pos (by simp), List.map_cons]
    exact congrArg (m :: ·) ih

theorem ofOrigin_of_ne {o o' : Origin} (h : o' ≠ o) (messages : List NotificationMessage) :
    ofOrigin o (messages.map (·, o')) = [] := by
  induction messages with
  | nil => rfl
  | cons m rest ih =>
    rw [ofOrigin, List.map_cons, List.filter_cons_of_neg (by simpa using h)]
    exact ih

/-- Messages with data are delivered as they are. -/
theorem filterMap_data? {messages : List NotificationMessage}
    (hk : ∀ m ∈ messages, m.isKeepAlive = false) :
    (messages.map (Delivery.message s)).filterMap (·.data? s) = messages := by
  induction messages with
  | nil => rfl
  | cons m rest ih =>
    obtain ⟨hm, hrest⟩ := List.forall_mem_cons.1 hk
    have hd : (Delivery.message s m).data? s = some m := if_pos ⟨rfl, hm⟩
    rw [List.map_cons, List.filterMap_cons_some hd, ih hrest]

theorem Accounts.append (ha : Accounts s n l h before after)
    (ha' : Accounts s (next^[l.length] n) l' h' after after') :
    Accounts s n (l ++ l') (h ++ h') before after' where
  handed := by rw [dataHanded_append, ha.handed, ha'.handed, List.map_append]
  numbers := by
    rw [List.map_append, ha.numbers, ha'.numbers, List.length_append, SequenceNumber.walk_append]
  accepted := by
    rw [acceptedOf_append, List.map_append, List.filter_append, ha.accepted, ha'.accepted,
      ofOrigin_append]
  asked := by
    rw [republishesOf_append, ← List.append_assoc, ha.asked, List.append_assoc, ha'.asked,
      ofOrigin_append, List.map_append, List.append_assoc]

theorem accounts_nil (ha : acceptedOf s h = []) (hd : dataHanded s h = [])
    (hr : republishesOf s h = []) : Accounts s n [] h before before where
  handed := hd
  numbers := rfl
  accepted := by rw [ha]; rfl
  asked := by rw [hr, List.append_nil]; rfl

/-! ## What a recovery fetches -/

/-- The server has returned the message that was asked for. -/
def Returned (n : SequenceNumber) : Except Error NotificationMessage → Prop
  | .ok message => message.sequenceNumber = n ∧ message.isKeepAlive = false
  | .error _ => False

instance (n : SequenceNumber) : (outcome : Except Error NotificationMessage) →
    Decidable (Returned n outcome)
  | .ok _ => inferInstanceAs (Decidable (_ ∧ _))
  | .error _ => .isFalse id

namespace RecoveryPoint

/-- The message `n` is the next one to come; it is asked for, and no other one, if it is `under
way`. -/
def At (n : SequenceNumber) (underWay : List SequenceNumber) : RecoveryPoint → Prop
  | asking m => m = n ∧ underWay = []
  | awaiting m sent => m = n ∧ underWay = if sent then [n] else []
  | _ => False

/-- The numbers that the questions of a log ask for. -/
def numbersAsked (s : SubscriptionId) (log : List RecoveryEvent) : List SequenceNumber :=
  (log.filterMap (·.question?)).filterMap fun q => republishNumber? s (q.request s)

theorem numbersAsked_sends (s : SubscriptionId) (n : SequenceNumber) (log : List RecoveryEvent) :
    numbersAsked s (.sends (.republish n) :: log) = n :: numbersAsked s log := by
  simp [numbersAsked, RecoveryEvent.question?, RecoveryQuestion.request, republishNumber?]

/-- As long as every message comes that is asked for, a recovery fetches consecutive messages. -/
theorem Path.fetches {received n : SequenceNumber} {p q : RecoveryPoint} {log : List RecoveryEvent}
    {underWay : List SequenceNumber} (h : Path received p log q)
    (hr : ∀ n outcome, .republished n outcome ∈ log → Returned n outcome) (hp : p.At n underWay) :
    ∃ (messages : List NotificationMessage) (underWay' : List SequenceNumber),
      messages.map (·.sequenceNumber) = walk n messages.length ∧
      log.flatMap (·.deliveries s) = messages.map (.message s) ∧
      (∀ message ∈ messages, message.isKeepAlive = false) ∧
      underWay ++ numbersAsked s log = messages.map (·.sequenceNumber) ++ underWay' ∧
      (q.At (next^[messages.length] n) underWay' ∨
        q = ended ∧ underWay' = [] ∧ (.stops ∈ log ∨ next^[messages.length] n = received)) := by
  induction h generalizing n underWay with
  | nil => exact ⟨[], underWay, rfl, rfl, nofun, List.append_nil _, .inl hp⟩
  | @cons p p' q e log hm h ih =>
    have hr' : ∀ n outcome, .republished n outcome ∈ log → Returned n outcome := fun n o h =>
      hr n o (List.mem_cons_of_mem _ h)
    cases hm with
    | asks hn =>
      obtain ⟨rfl, rfl⟩ := hp
      obtain ⟨messages, underWay', h1, h2, h3, h4, h5⟩ := ih hr' ⟨rfl, rfl⟩
      refine ⟨messages, underWay', h1, h2, h3, h4, ?_⟩
      exact h5.imp_right fun h => ⟨h.1, h.2.1, h.2.2.imp_left (List.mem_cons_of_mem _)⟩
    | @sendsAsk m =>
      obtain ⟨rfl, rfl⟩ := hp
      have hask : (awaiting m true).At m [m] := ⟨rfl, rfl⟩
      obtain ⟨messages, underWay', h1, h2, h3, h4, h5⟩ := ih hr' hask
      refine ⟨messages, underWay', h1, h2, h3, ?_, ?_⟩
      · rw [numbersAsked_sends, ← h4]
        rfl
      · exact h5.imp_right fun h => ⟨h.1, h.2.1, h.2.2.imp_left (List.mem_cons_of_mem _)⟩
    | @came message =>
      obtain ⟨rfl, rfl⟩ := hp
      obtain ⟨messages, underWay', h1, h2, h3, h4, h5⟩ := ih hr' ⟨rfl, rfl⟩
      have hk := (hr _ _ List.mem_cons_self).2
      refine ⟨message :: messages, underWay', ?_, ?_, ?_, ?_, ?_⟩
      · rw [List.map_cons, h1, List.length_cons, SequenceNumber.walk_succ]
      · rw [List.flatMap_cons, h2]
        simp [RecoveryEvent.deliveries]
      · exact List.forall_mem_cons.2 ⟨hk, h3⟩
      · show message.sequenceNumber :: numbersAsked s log = _
        rw [← List.nil_append (numbersAsked s log), h4]
        rfl
      · rw [List.length_cons, Function.iterate_succ_apply]
        exact h5.imp_right fun h => ⟨h.1, h.2.1, h.2.2.imp_left (List.mem_cons_of_mem _)⟩
    | unasked => exact (hr _ _ List.mem_cons_self).elim
    | @refused m outcome ho =>
      have hret := hr _ _ List.mem_cons_self
      cases outcome with
      | error e => exact hret.elim
      | ok message => exact absurd hret.1 (ho _ rfl)
    | endsAsking =>
      obtain ⟨rfl, rfl⟩ := hp
      obtain ⟨rfl, rfl⟩ := h.of_ended
      exact ⟨[], [], rfl, rfl, nofun, rfl, .inr ⟨rfl, rfl, .inr rfl⟩⟩
    | stopsAsking =>
      obtain ⟨rfl, rfl⟩ := hp
      obtain ⟨rfl, rfl⟩ := h.of_ended
      exact ⟨[], [], rfl, rfl, nofun, rfl, .inr ⟨rfl, rfl, .inl List.mem_cons_self⟩⟩
    | fallsBack | reads | sendsRead | unread | read | endsReading | stopsFailing | stopsReading =>
      exact hp.elim

end RecoveryPoint

/-! ## The events of one step -/

section

variable {id : WorkId} {s' : SubscriptionId} {log : List RecoveryEvent} {requests : List Request}
  {deliveries : List Delivery}

theorem acceptedOf_run :
    acceptedOf s (log.map (.recovers id s') ++ requests.map (.posts id) ++
      deliveries.map .hands) = [] := by
  rw [acceptedOf_append, acceptedOf_append, acceptedOf, acceptedOf, acceptedOf,
    filterMap_map_none (fun _ => rfl), filterMap_map_none (fun _ => rfl),
    filterMap_map_none (fun _ => rfl)]
  rfl

theorem dataHanded_run :
    dataHanded s (log.map (.recovers id s') ++ requests.map (.posts id) ++
      deliveries.map .hands) = deliveries.filterMap (·.data? s) := by
  rw [dataHanded, handedOut_run]

theorem requests_run :
    (log.map (SequencerEvent.recovers id s') ++ requests.map (SequencerEvent.posts id) ++
      deliveries.map SequencerEvent.hands).filterMap SequencerEvent.request? = requests := by
  rw [List.filterMap_append, List.filterMap_append, filterMap_map_none (fun _ => rfl),
    filterMap_map_some (g := SequencerEvent.posts id) (fun _ => rfl),
    filterMap_map_none (fun _ => rfl), List.append_nil, List.nil_append]

theorem republishesOf_run
    (hq : requests.map (·.question) = (log.filterMap (·.question?)).map (·.request s')) :
    republishesOf s (log.map (.recovers id s') ++ requests.map (.posts id) ++
      deliveries.map .hands) =
        (log.filterMap (·.question?)).filterMap fun q => republishNumber? s (q.request s') := by
  rw [republishesOf, requests_run]
  have h := congrArg (List.filterMap (republishNumber? s)) hq
  rwa [List.filterMap_map, List.filterMap_map] at h

/-- A recovery only delivers messages of its own subscription. -/
theorem subscription_of_mem_deliveries {e : RecoveryEvent} {i : SubscriptionId}
    {m : NotificationMessage} (h : Delivery.message i m ∈ e.deliveries s') : i = s' := by
  unfold RecoveryEvent.deliveries at h
  split at h
  · split at h
    · cases List.mem_singleton.1 h
      rfl
    · cases h
  · split at h
    · cases List.mem_singleton.1 h
    · cases h
  · cases h

/-- What a recovery does is nothing to another subscription. -/
theorem events_run_other (hs : s' ≠ s)
    (hq : requests.map (·.question) = (log.filterMap (·.question?)).map (·.request s')) :
    acceptedOf s (log.map (.recovers id s') ++ requests.map (.posts id) ++
        (log.flatMap (·.deliveries s')).map .hands) = [] ∧
      dataHanded s (log.map (.recovers id s') ++ requests.map (.posts id) ++
        (log.flatMap (·.deliveries s')).map .hands) = [] ∧
      republishesOf s (log.map (.recovers id s') ++ requests.map (.posts id) ++
        (log.flatMap (·.deliveries s')).map .hands) = [] := by
  refine ⟨acceptedOf_run, ?_, ?_⟩
  · rw [dataHanded_run, List.filterMap_eq_nil_iff]
    intro d hd
    obtain ⟨e, -, hd⟩ := List.mem_flatMap.1 hd
    cases d with
    | value => rfl
    | message id m =>
      have hid := subscription_of_mem_deliveries hd
      exact if_neg fun h => hs (hid ▸ h.1)
  · rw [republishesOf_run hq, List.filterMap_eq_nil_iff]
    intro q hq
    cases q with
    | republish n => exact if_neg hs
    | read => rfl

/-- What a recovery fetches is delivered, and was asked for. -/
theorem accounts_run {messages : List NotificationMessage}
    (hq : requests.map (·.question) = (log.filterMap (·.question?)).map (·.request s))
    (hn : messages.map (·.sequenceNumber) = walk n messages.length)
    (hd : log.flatMap (·.deliveries s) = messages.map (.message s))
    (hk : ∀ message ∈ messages, message.isKeepAlive = false)
    (ha : before ++ RecoveryPoint.numbersAsked s log =
      messages.map (·.sequenceNumber) ++ after) :
    Accounts s n (messages.map (·, .republished)) (log.map (.recovers id s) ++
      requests.map (.posts id) ++ (log.flatMap (·.deliveries s)).map .hands) before after where
  handed := by
    rw [dataHanded_run, hd, filterMap_data? hk, List.map_map]
    exact (List.map_id messages).symm
  numbers := by
    rw [List.map_map, List.length_map]
    exact hn
  accepted := by
    rw [acceptedOf_run, ofOrigin_of_ne (by decide)]
    rfl
  asked := by
    rw [republishesOf_run hq, ofOrigin_self]
    exact ha

end

/-! ## Steps -/

/-- The response comes in order, when it is evaluated with a cursor: its message is ahead, at most
half of the circle away. A keep-alive brings the number of the message that is to come. -/
def PublishAnswer.InOrder (a : PublishAnswer) (cursor : Option SequenceNumber) : Prop :=
  a.message.sequenceNumber ≠ 0 ∧
    ∀ x ∈ cursor, 1 ≤ distance x a.message.sequenceNumber ∧
      distance x a.message.sequenceNumber ≤ 2 ^ 31

instance (a : PublishAnswer) (cursor : Option SequenceNumber) : Decidable (a.InOrder cursor) :=
  have := Option.decidableForallMem
    (p := fun x => 1 ≤ distance x a.message.sequenceNumber ∧
      distance x a.message.sequenceNumber ≤ 2 ^ 31) cursor
  instDecidableAnd

namespace SubscriptionManager

/-- No recovery of the subscription is in progress. -/
def Rests (m : SubscriptionManager) (s : SubscriptionId) : Prop :=
  ∀ p ∈ m.recoveries, p.2.subscription ≠ s

instance (m : SubscriptionManager) (s : SubscriptionId) : Decidable (m.Rests s) :=
  inferInstanceAs (Decidable (∀ p ∈ m.recoveries, p.2.subscription ≠ s))

/-- The message `n` is the next one of a subscription. Messages of it are only asked for by a
recovery of this subscription. -/
inductive Linked (m : SubscriptionManager) (s : SubscriptionId) (n : SequenceNumber) :
    List SequenceNumber → Prop
  | consuming : m.Rests s →
    (m.running = true → ∃ x, m.cursors.find? s = some x ∧ x ≠ 0 ∧ next x = n) → Linked m s n []
  | fetching {id : WorkId} {r : Recovery} {underWay : List SequenceNumber} :
    m.recovery? id = some r → r.subscription = s → r.stage.point.At n underWay →
    Linked m s n underWay

variable {m m' : SubscriptionManager} {events : List SequencerEvent} {a : PublishAnswer}
  {x : SequenceNumber}

/-- Nothing changes that tells which message is the next one. -/
theorem Linked.of_same {underWay : List SequenceNumber} (h : m.Linked s n underWay)
    (hr : m'.recoveries = m.recoveries) (hrun : m'.running = true → m.running = true)
    (hc : m'.cursors.find? s = m.cursors.find? s) : m'.Linked s n underWay := by
  cases h with
  | consuming h1 h2 =>
    refine .consuming (fun p hp => h1 p (hr ▸ hp)) fun h => ?_
    rw [hc]
    exact h2 (hrun h)
  | fetching h1 h2 h3 => exact .fetching (by rw [recovery?, hr]; exact h1) h2 h3

/-- Without a recovery, the cursor is just before the next message. -/
theorem Linked.of_idle {underWay : List SequenceNumber} (h : m.Linked s n underWay)
    (hi : m.recoveries = []) (hr : m.running = true) :
    underWay = [] ∧ ∃ x, m.cursors.find? s = some x ∧ x ≠ 0 ∧ next x = n := by
  cases h with
  | consuming _ hx => exact ⟨rfl, hx hr⟩
  | fetching h =>
    rw [recovery?, hi] at h
    cases h

/-- A response with the next message, or with the first one, takes the cursor with it. -/
theorem find?_accept (hx : ∀ x ∈ m.cursors.find? a.subscription,
    x ≠ 0 ∧ next x = a.message.sequenceNumber) :
    (m.accept a).cursors.find? a.subscription = some (consumed a.message) := by
  rw [accept_eq]
  dsimp only
  rw [find?_advanceCursor]
  cases hc : m.cursors.find? a.subscription with
  | none => exact if_pos ⟨rfl, rfl⟩
  | some x =>
    obtain ⟨hx0, hnext⟩ := hx x hc
    unfold consumed
    rw [← hnext]
    split
    · rw [SequenceNumber.previous_next hx0]
      split <;> rfl
    · exact if_pos ⟨rfl, SequenceNumber.isAfter_next hx0⟩

/-- A response with the next message, or with the first one, brings it or announces it. -/
theorem accounts_accept (hn : a.message.sequenceNumber ≠ 0) (hi : m.recoveries = [])
    (hx : ∀ x ∈ m.cursors.find? a.subscription, x ≠ 0 ∧ next x = a.message.sequenceNumber) :
    ∃ l, Accounts a.subscription a.message.sequenceNumber l
        [.evaluates a (some .accept), .hands (.message a.subscription a.message)] [] [] ∧
      (m.accept a).Linked a.subscription (next^[l.length] a.message.sequenceNumber) [] := by
  have hrest : (m.accept a).Rests a.subscription := by
    rw [accept_eq]
    intro p hp
    rw [show _ = _ from hi] at hp
    cases hp
  have hcursor := find?_accept hx
  cases hk : a.message.isKeepAlive with
  | true =>
    rw [consumed, if_pos hk] at hcursor
    refine ⟨[], ⟨?_, rfl, ?_, rfl⟩, .consuming hrest fun _ => ⟨_, hcursor,
      SequenceNumber.previous_ne_zero _, SequenceNumber.next_previous hn⟩⟩
    · simp [dataHanded, handedOut, Delivery.data?, hk]
    · simp [acceptedOf, hk, ofOrigin]
  | false =>
    rw [consumed, if_neg (by rw [hk]; exact Bool.false_ne_true)] at hcursor
    refine ⟨[(a.message, .published)], ⟨?_, rfl, ?_, rfl⟩,
      .consuming hrest fun _ => ⟨_, hcursor, hn, rfl⟩⟩
    · simp [dataHanded, handedOut, Delivery.data?, hk]
    · simp [acceptedOf, hk, ofOrigin]

/-- A response of another subscription does not matter. -/
theorem events_accept_other (hs : a.subscription ≠ s) :
    acceptedOf s [.evaluates a (some .accept), .hands (.message a.subscription a.message)] = [] ∧
      dataHanded s [.evaluates a (some .accept), .hands (.message a.subscription a.message)] = [] ∧
      (m.accept a).cursors.find? s = m.cursors.find? s := by
  refine ⟨by simp [acceptedOf, hs], by simp [dataHanded, handedOut, Delivery.data?, hs], ?_⟩
  rw [accept_eq]
  dsimp only
  rw [find?_advanceCursor, if_neg fun h => hs h.1]

/-- A response that reveals a gap is the start of a recovery from the next message on. -/
theorem linked_beginRecovery {underWay : List SequenceNumber} {yields : Bool}
    {q : WorkQueue PublishAnswer} (ho : m.Orderly) (ht : m.processing.turn = (.run a yields, q))
    {e : SequenceNumber} (hv : m.verdict? a = some (.gap e)) (hl : m.Linked s n underWay) :
    (({ m with processing := q } : SubscriptionManager).beginRecovery a e).Linked s n underWay := by
  obtain ⟨hidle, hrun, -⟩ := ho.of_turn_run ht
  have hrec : (({ m with processing := q } : SubscriptionManager).beginRecovery a e).recoveries =
      [(m.nextWork, ⟨a.subscription, a.message.sequenceNumber, .republishing e none⟩)] := by
    rw [(beginRecovery_eq ..).2.2.2.2, show _ = _ from hidle]
    rfl
  obtain ⟨rfl, x, hc, hx0, rfl⟩ := hl.of_idle hidle hrun
  by_cases hs : a.subscription = s
  · obtain ⟨x', hx', rfl⟩ := SequenceNumber.evaluate_eq_gap (verdict?_eq_some hv).2
    rw [hs, hc] at hx'
    cases hx'
    exact .fetching ((recovery?_eq_some_iff hrec).2 ⟨rfl, rfl⟩) hs ⟨rfl, rfl⟩
  · refine .consuming (fun p hp => ?_) fun _ => ⟨x, hc, hx0, rfl⟩
    rw [hrec] at hp
    rw [List.mem_singleton.1 hp]
    exact hs

theorem Rests.subscription_ne (h : m.Rests s) (ho : m.Orderly) {id : WorkId} {r : Recovery}
    (hr : m.recovery? id = some r) : r.subscription ≠ s := by
  refine h (id, r) ?_
  rw [ho.of_recovery? hr]
  exact List.mem_singleton_self _

/-- A recovery of the subscription is at the next message. -/
theorem Linked.at_of_recovery {underWay : List SequenceNumber} {id : WorkId} {r : Recovery}
    (h : m.Linked s n underWay) (ho : m.Orderly) (hr : m.recovery? id = some r)
    (hs : r.subscription = s) : r.stage.point.At n underWay := by
  cases h with
  | consuming hrest => exact absurd hs (hrest.subscription_ne ho hr)
  | fetching hr' hs' hat =>
    cases (ho.of_recovery? hr).symm.trans (ho.of_recovery? hr')
    exact hat

/-- A recovery of another subscription does not matter. -/
theorem Linked.of_recovery {underWay : List SequenceNumber} {id : WorkId} {r : Recovery}
    (h : m.Linked s n underWay) (ho : m.Orderly) (hr : m.recovery? id = some r)
    (hs : r.subscription ≠ s) :
    underWay = [] ∧ (m.running = true → ∃ x, m.cursors.find? s = some x ∧ x ≠ 0 ∧ next x = n) := by
  cases h with
  | consuming _ hx => exact ⟨rfl, hx⟩
  | fetching hr' hs' hat =>
    cases (ho.of_recovery? hr).symm.trans (ho.of_recovery? hr')
    exact absurd hs' hs

section

variable {id : WorkId} {r : Recovery} {log : List RecoveryEvent} {requests : List Request}

/-- A run of its recovery goes on with the next messages of a subscription. -/
theorem Linked.fetches {underWay : List SequenceNumber} {q : RecoveryPoint}
    (hl : m.Linked r.subscription n underWay) (ho : m.Orderly) (hrec : m.recovery? id = some r)
    (hp : r.stage.point.Path r.received log q)
    (hq : requests.map (·.question) =
      (log.filterMap (·.question?)).map (·.request r.subscription))
    (hr : ∀ k outcome, .republished k outcome ∈ log → Returned k outcome) :
    ∃ l underWay', Accounts r.subscription n l (log.map (.recovers id r.subscription) ++
        requests.map (.posts id) ++ (log.flatMap (·.deliveries r.subscription)).map .hands)
        underWay underWay' ∧
      (q.At (next^[l.length] n) underWay' ∨
        q = .ended ∧ underWay' = [] ∧ (.stops ∈ log ∨ next^[l.length] n = r.received)) := by
  obtain ⟨messages, underWay', h1, h2, h3, h4, h5⟩ := hp.fetches (s := r.subscription) hr
    (hl.at_of_recovery ho hrec rfl)
  refine ⟨messages.map (·, .republished), underWay', accounts_run hq h1 h2 h3 h4, ?_⟩
  rw [List.length_map]
  exact h5

/-- The end of a recovery leaves none behind. -/
theorem recoveries_endRecovery (ho : m.Orderly) (hrec : m.recovery? id = some r)
    (log : List RecoveryEvent) :
    ((log.foldl (RecoveryEvent.perform r.subscription) m).endRecovery id r).recoveries = [] := by
  obtain ⟨stats, hm⟩ := foldl_perform_eq r.subscription log m
  exact endRecovery_recoveries (by rw [hm]; exact ho.of_recovery? hrec)

theorem rests_endRecovery (ho : m.Orderly) (hrec : m.recovery? id = some r)
    (log : List RecoveryEvent) (s : SubscriptionId) :
    ((log.foldl (RecoveryEvent.perform r.subscription) m).endRecovery id r).Rests s := by
  intro p hp
  rw [recoveries_endRecovery ho hrec log] at hp
  cases hp

theorem registry_endRecovery (id : WorkId) (r : Recovery) (log : List RecoveryEvent)
    (m : SubscriptionManager) :
    ((log.foldl (RecoveryEvent.perform r.subscription) m).endRecovery id r).registry =
      m.registry := by
  obtain ⟨stats, hm⟩ := foldl_perform_eq r.subscription log m
  rw [endRecovery_eq, hm]

theorem running_endRecovery (id : WorkId) (r : Recovery) (log : List RecoveryEvent)
    (m : SubscriptionManager) :
    ((log.foldl (RecoveryEvent.perform r.subscription) m).endRecovery id r).running =
      m.running := by
  obtain ⟨stats, hm⟩ := foldl_perform_eq r.subscription log m
  rw [endRecovery_eq, hm]

/-- The end of a recovery is nothing to the cursor of another subscription. -/
theorem find?_endRecovery_other (hs : r.subscription ≠ s) :
    ((log.foldl (RecoveryEvent.perform r.subscription) m).endRecovery id r).cursors.find? s =
      m.cursors.find? s := by
  obtain ⟨stats, hm⟩ := foldl_perform_eq r.subscription log m
  rcases find?_endRecovery (s := s) id r (log.foldl (RecoveryEvent.perform r.subscription) m)
    with he | ⟨he, -⟩
  · rw [he, hm]
  · exact absurd he hs

/-- When its recovery has fetched all that was missing, a subscription is at the message that was
received. -/
theorem Finishes.linked (hf : m.Finishes events m' id r) (ho : m.Orderly) (hn : n ≠ 0)
    (hrest : m'.Rests r.subscription) (hrun : m'.running = true → m.running = true)
    (hs : m.registry.contains r.subscription = true)
    (hend : m.running = true → n = r.received) : m'.Linked r.subscription n [] := by
  refine .consuming hrest fun h => ?_
  have hreceived := hend (hrun h)
  refine ⟨previous r.received, (hf.settles ho (hrun h) hs).2.2.1,
    SequenceNumber.previous_ne_zero _, ?_⟩
  rw [hreceived]
  exact SequenceNumber.next_previous (hreceived ▸ hn)

end

/-- A step goes on with the next messages of a subscription. -/
theorem Step.accounts {underWay : List SequenceNumber} (h : m.Step events m') (ho : m.Orderly)
    (hs : m.registry.contains s = true) (hs' : m'.registry.contains s = true) (hn : n ≠ 0)
    (hl : m.Linked s n underWay)
    (ha : ∀ a v, .evaluates a v ∈ events → a.subscription = s →
      a.InOrder (m.cursors.find? s))
    (hr : ∀ id n outcome, .recovers id s (.republished n outcome) ∈ events → Returned n outcome) :
    ∃ l underWay', Accounts s n l events underWay underWay' ∧
      m'.Linked s (next^[l.length] n) underWay' := by
  cases h with
  | outside h =>
    refine ⟨[], underWay, accounts_nil rfl rfl rfl, hl.of_same h.recoveries (fun hrun => ?_) ?_⟩
    · exact (h.tasks ho hrun).1
    · exact (h.cursor s).resolve_right fun hc => by rw [hc.1] at hs'; cases hs'
  | idles => exact ⟨[], underWay, accounts_nil rfl rfl rfl, hl.of_same rfl id rfl⟩
  | drops => exact ⟨[], underWay, accounts_nil rfl rfl rfl, hl.of_same rfl id rfl⟩
  | @accepts a yields q ht hv =>
    obtain ⟨hidle, hrun, -⟩ := ho.of_turn_run ht
    by_cases hsub : a.subscription = s
    · subst hsub
      obtain ⟨hn0, hahead⟩ := ha _ _ List.mem_cons_self rfl
      obtain ⟨rfl, x, hc, hx0, rfl⟩ := hl.of_idle hidle hrun
      obtain ⟨h1, h2⟩ := hahead x hc
      have hval := (verdict?_eq_some hv).2
      rw [hc] at hval
      have hnext := SequenceNumber.eq_next_of_distance hx0 hn0 hval h1 h2
      rw [← hnext]
      obtain ⟨l, hacc, hlink⟩ := accounts_accept (m := { m with processing := q }) hn0 hidle
        fun y hy => by
          cases hc.symm.trans hy
          exact ⟨hx0, hnext.symm⟩
      exact ⟨l, [], hacc, hlink⟩
    · obtain ⟨h1, h2, h3⟩ := events_accept_other (m := { m with processing := q }) hsub
      refine ⟨[], underWay, accounts_nil h1 h2 rfl, hl.of_same ?_ (fun _ => hrun) h3⟩
      rw [accept_eq]
  | gaps ht hv =>
    exact ⟨[], underWay, accounts_nil rfl rfl rfl, linked_beginRecovery ho ht hv hl⟩
  | rests => exact ⟨[], underWay, accounts_nil rfl rfl rfl, hl⟩
  | @recovers id r log stage requests hrec hp hf hq =>
    obtain ⟨stats, hm⟩ := setRecovery_foldl_eq id r.subscription log stage m
    have hrecs := setRecovery_recoveries (ho.of_recovery? hrec) stage
    rw [hm] at hs' ⊢
    by_cases hsub : r.subscription = s
    · subst hsub
      obtain ⟨l, underWay', hacc, hat | ⟨hover, -⟩⟩ := hl.fetches ho hrec hp hq fun k o h =>
        hr id k o (List.mem_append_left _ (List.mem_append_left _ (List.mem_map_of_mem h)))
      · exact ⟨l, underWay', hacc, .fetching ((recovery?_eq_some_iff hrecs).2 ⟨rfl, rfl⟩) rfl hat⟩
      · exact absurd hover stage.point_ne_ended
    · obtain ⟨rfl, hx⟩ := hl.of_recovery ho hrec hsub
      obtain ⟨h1, h2, h3⟩ := events_run_other hsub hq
      refine ⟨[], [], accounts_nil h1 h2 h3, .consuming (fun p hp => ?_) hx⟩
      rw [show _ = _ from hrecs] at hp
      rw [List.mem_singleton.1 hp]
      exact hsub
  | @ends id r log requests hrec hp hf hq =>
    have hrest := rests_endRecovery ho hrec log s
    have hrun := running_endRecovery id r log m
    by_cases hsub : r.subscription = s
    · subst hsub
      obtain ⟨l, underWay', hacc, hat | ⟨-, rfl, hend⟩⟩ := hl.fetches ho hrec hp hq fun k o h =>
        hr id k o (List.mem_append_left _ (List.mem_append_left _ (List.mem_map_of_mem h)))
      · exact hat.elim
      refine ⟨l, [], hacc, (finishes_run hrec hp hf hq).linked ho
        (SequenceNumber.iterate_next_ne_zero hn _) hrest hrun.symm.trans hs fun h => ?_⟩
      refine hend.resolve_left fun hstops => ?_
      have hdown : m.running = false := hf _ hstops
      rw [hdown] at h
      cases h
    · obtain ⟨rfl, hx⟩ := hl.of_recovery ho hrec hsub
      obtain ⟨h1, h2, h3⟩ := events_run_other hsub hq
      refine ⟨[], [], accounts_nil h1 h2 h3, .consuming hrest fun h => ?_⟩
      rw [hrun] at h
      rw [find?_endRecovery_other hsub]
      exact hx h

/-- Nothing has been taken of the subscription yet. -/
structure Untouched (m : SubscriptionManager) (s : SubscriptionId) : Prop where
  rests : m.Rests s
  cursor : m.cursors.find? s = none

/-- The first response of a subscription that is accepted says which message is the next one. -/
theorem Step.first (h : m.Step events m') (ho : m.Orderly) (hs' : m'.registry.contains s = true)
    (hu : m.Untouched s)
    (hn : ∀ a v, .evaluates a v ∈ events → a.subscription = s → a.message.sequenceNumber ≠ 0) :
    (acceptedOf s events = [] ∧ dataHanded s events = [] ∧ republishesOf s events = [] ∧
      m'.Untouched s) ∨
    ∃ a l, acceptedOf s events = [a] ∧ a.message.sequenceNumber ≠ 0 ∧
      Accounts s a.message.sequenceNumber l events [] [] ∧
      m'.Linked s (next^[l.length] a.message.sequenceNumber) [] := by
  have hmem : ∀ {id r}, m.recovery? id = some r → r.subscription ≠ s := fun {id r} hr =>
    hu.rests (id, r) (by rw [ho.of_recovery? hr]; exact List.mem_singleton_self _)
  cases h with
  | outside h =>
    refine .inl ⟨rfl, rfl, rfl, fun p hp => hu.rests p (h.recoveries ▸ hp), ?_⟩
    rw [(h.cursor s).resolve_right fun hc => by rw [hc.1] at hs'; cases hs']
    exact hu.cursor
  | idles | drops => exact .inl ⟨rfl, rfl, rfl, hu.rests, hu.cursor⟩
  | rests => exact .inl ⟨rfl, rfl, rfl, hu⟩
  | @accepts a yields q ht hv =>
    have hidle := (ho.of_turn_run ht).1
    by_cases hsub : a.subscription = s
    · subst hsub
      have hn0 := hn _ _ List.mem_cons_self rfl
      obtain ⟨l, hacc, hlink⟩ := accounts_accept (m := { m with processing := q }) hn0 hidle
        fun y hy => by cases hu.cursor.symm.trans hy
      exact .inr ⟨a, l, by simp [acceptedOf], hn0, hacc, hlink⟩
    · obtain ⟨h1, h2, h3⟩ := events_accept_other (m := { m with processing := q }) hsub
      refine .inl ⟨h1, h2, rfl, ?_, h3.trans hu.cursor⟩
      rw [accept_eq]
      exact hu.rests
  | @gaps a yields q e ht hv =>
    refine .inl ⟨rfl, rfl, rfl, fun p hp => ?_, hu.cursor⟩
    rw [(beginRecovery_eq ..).2.2.2.2, show _ = _ from (ho.of_turn_run ht).1] at hp
    rw [List.mem_singleton.1 hp]
    rintro rfl
    obtain ⟨x, hx, -⟩ := SequenceNumber.evaluate_eq_gap (verdict?_eq_some hv).2
    cases hu.cursor.symm.trans hx
  | @recovers id r log stage requests hrec hp hf hq =>
    obtain ⟨h1, h2, h3⟩ := events_run_other (hmem hrec) hq
    obtain ⟨stats, hm⟩ := setRecovery_foldl_eq id r.subscription log stage m
    have hrecs := setRecovery_recoveries (ho.of_recovery? hrec) stage
    rw [hm]
    refine .inl ⟨h1, h2, h3, fun p hp => ?_, hu.cursor⟩
    rw [show _ = _ from hrecs] at hp
    rw [List.mem_singleton.1 hp]
    show r.subscription ≠ s
    exact hmem hrec
  | @ends id r log requests hrec hp hf hq =>
    obtain ⟨h1, h2, h3⟩ := events_run_other (hmem hrec) hq
    refine .inl ⟨h1, h2, h3, rests_endRecovery ho hrec log s, ?_⟩
    rw [find?_endRecovery_other (hmem hrec)]
    exact hu.cursor

end SubscriptionManager

/-! ## Runs -/

namespace Client

open SubscriptionManager

/-- The responses that are evaluated in a run, each with the cursor of its subscription. -/
def evaluations : List Action → Client → List (PublishAnswer × Option SequenceNumber)
  | [], _ => []
  | b :: bs, c =>
    ((c.events b).filterMap (·.answer?)).map
        (fun a => (a, c.managed.lastSequenceNumber? a.subscription)) ++
      evaluations bs (c.act b).1

/-- How the calls of recoveries for the messages of a subscription have ended. -/
def republishOutcomes (s : SubscriptionId) (h : List SequencerEvent) :
    List (SequenceNumber × Except Error NotificationMessage) :=
  h.filterMap fun
    | .recovers _ s' (.republished n outcome) => if s' = s then some (n, outcome) else none
    | _ => none

variable {c : Client} {bs : List Action} {b : Action}

theorem evaluations_snoc :
    c.evaluations (bs ++ [b]) = c.evaluations bs ++
      (((c.after bs).events b).filterMap (·.answer?)).map
        (fun a => (a, (c.after bs).managed.lastSequenceNumber? a.subscription)) := by
  induction bs generalizing c with
  | nil => exact List.append_nil _
  | cons d bs ih =>
    rw [List.cons_append, evaluations, evaluations, ih, List.append_assoc, after_cons]

theorem mem_evaluations_of_evaluates {a : PublishAnswer} {v : Option SequenceNumber.Verdict}
    (h : .evaluates a v ∈ (c.after bs).events b) :
    (a, (c.after bs).managed.lastSequenceNumber? a.subscription) ∈
      c.evaluations (bs ++ [b]) := by
  rw [evaluations_snoc]
  exact List.mem_append_right _
    (List.mem_map.2 ⟨a, List.mem_filterMap.2 ⟨_, h, rfl⟩, rfl⟩)

/-- The responses of a subscription come in order, and all messages asked for are returned. -/
structure Served (c : Client) (bs : List Action) (s : SubscriptionId) : Prop where
  inOrder : ∀ p ∈ c.evaluations bs, p.1.subscription = s → p.1.InOrder p.2
  returned : ∀ p ∈ republishOutcomes s (c.history bs), Returned p.1 p.2

theorem Served.of_snoc (h : c.Served (bs ++ [b]) s) : c.Served bs s where
  inOrder p hp := h.inOrder p (by rw [evaluations_snoc]; exact List.mem_append_left _ hp)
  returned p hp := by
    refine h.returned p ?_
    rw [history_snoc, republishOutcomes, List.filterMap_append]
    exact List.mem_append_left _ hp

theorem Served.inOrder_last (h : c.Served (bs ++ [b]) s) {a : PublishAnswer}
    {v : Option SequenceNumber.Verdict} (ha : .evaluates a v ∈ (c.after bs).events b)
    (hs : a.subscription = s) : a.InOrder ((c.after bs).managed.cursors.find? s) := by
  have hord := h.inOrder _ (mem_evaluations_of_evaluates ha) hs
  rwa [lastSequenceNumber?, hs] at hord

theorem Served.returned_last (h : c.Served (bs ++ [b]) s) {id : WorkId} {k : SequenceNumber}
    {outcome : Except Error NotificationMessage}
    (ha : .recovers id s (.republished k outcome) ∈ (c.after bs).events b) :
    Returned k outcome := by
  refine h.returned (k, outcome) ?_
  rw [history_snoc, republishOutcomes, List.filterMap_append]
  exact List.mem_append_right _ (List.mem_filterMap.2 ⟨_, ha, if_pos rfl⟩)

/-- From the next message on, a run delivers one message after the other. -/
theorem Ready.accounts (h : c.Ready) (hn : n ≠ 0) (hl : c.managed.Linked s n [])
    (hs : c.Throughout (Registers s) bs) (hv : c.Served bs s) :
    ∃ l underWay, Accounts s n l (c.history bs) [] underWay ∧
      (c.after bs).managed.Linked s (next^[l.length] n) underWay := by
  induction bs using List.reverseRecOn with
  | nil => exact ⟨[], [], accounts_nil rfl rfl rfl, hl⟩
  | append_singleton bs b ih =>
    have hready := h.after bs
    have hs₀ := hs.mono (List.prefix_append bs [b])
    obtain ⟨l, underWay, hacc, hlink⟩ := ih hs₀ hv.of_snoc
    have hreg := hs.last
    rw [after_snoc] at hreg
    obtain ⟨l', underWay', hacc', hlink'⟩ := (hready.step b).2.2.accounts hready.orderly hs₀.last
      hreg (SequenceNumber.iterate_next_ne_zero hn _) hlink (fun a v => hv.inOrder_last)
      fun id k outcome => hv.returned_last
    refine ⟨l ++ l', underWay', ?_, ?_⟩
    · rw [history_snoc]
      exact hacc.append hacc'
    · rw [after_snoc, List.length_append, Nat.add_comm, Function.iterate_add_apply]
      exact hlink'

/-- Before the first message is taken nothing happens; from it on, a run delivers one message after
the other. -/
theorem Ready.accounts_of_untouched (h : c.Ready) (hu : c.managed.Untouched s)
    (hs : c.Throughout (Registers s) bs) (hv : c.Served bs s) :
    (acceptedOf s (c.history bs) = [] ∧ dataHanded s (c.history bs) = [] ∧
      republishesOf s (c.history bs) = [] ∧ (c.after bs).managed.Untouched s) ∨
    ∃ a l underWay, (acceptedOf s (c.history bs)).head? = some a ∧ a.message.sequenceNumber ≠ 0 ∧
      Accounts s a.message.sequenceNumber l (c.history bs) [] underWay ∧
      (c.after bs).managed.Linked s (next^[l.length] a.message.sequenceNumber) underWay := by
  induction bs using List.reverseRecOn with
  | nil => exact .inl ⟨rfl, rfl, rfl, hu⟩
  | append_singleton bs b ih =>
    have hready := h.after bs
    have hs₀ := hs.mono (List.prefix_append bs [b])
    have hreg := hs.last
    rw [after_snoc] at hreg ⊢
    rw [history_snoc]
    rcases ih hs₀ hv.of_snoc with ⟨h1, h2, h3, hu'⟩ | ⟨a, l, underWay, ha, hn, hacc, hlink⟩
    · rcases (hready.step b).2.2.first hready.orderly hreg hu'
        (fun a v h hs => (hv.inOrder_last h hs).1) with
        ⟨h1', h2', h3', hu''⟩ | ⟨a, l, ha, hn, hacc, hlink⟩
      · refine .inl ⟨?_, ?_, ?_, hu''⟩
        · rw [acceptedOf_append, h1, h1']
          rfl
        · rw [dataHanded_append, h2, h2']
          rfl
        · rw [republishesOf_append, h3, h3']
          rfl
      · refine .inr ⟨a, l, [], ?_, hn, ?_, hlink⟩
        · rw [acceptedOf_append, h1, ha]
          rfl
        · exact (accounts_nil (n := a.message.sequenceNumber) h1 h2 h3).append hacc
    · obtain ⟨l', underWay', hacc', hlink'⟩ := (hready.step b).2.2.accounts hready.orderly hs₀.last
        hreg (SequenceNumber.iterate_next_ne_zero hn _) hlink (fun a v => hv.inOrder_last)
        fun id k outcome => hv.returned_last
      refine .inr ⟨a, l ++ l', underWay', ?_, hn, hacc.append hacc', ?_⟩
      · rw [acceptedOf_append, List.head?_append, ha]
        rfl
      · rw [List.length_append, Nat.add_comm, Function.iterate_add_apply]
        exact hlink'

/-- The last message that has been delivered is the one at which the cursor is, unless a recovery
goes on. -/
theorem last_consumed {m : SubscriptionManager} {underWay : List SequenceNumber}
    (ho : m.Orderly) (hl : m.Linked s (next^[l.length] n) underWay) (hn : n ≠ 0)
    (hw : l.map (·.1.sequenceNumber) = walk n l.length) :
    (underWay = [] ∨ underWay = [next^[l.length] n]) ∧
      (m.Rests s → underWay = [] ∧ (m.running = true →
        ∀ p, l.getLast? = some p → m.lastSequenceNumber? s = some p.1.sequenceNumber)) := by
  cases hl with
  | fetching hr hs hat =>
    refine ⟨?_, fun h => ?_⟩
    · unfold RecoveryPoint.At at hat
      split at hat
      · exact .inl hat.2
      · rw [hat.2]
        split
        · exact .inr rfl
        · exact .inl rfl
      · exact hat.elim
    · rw [Rests, ho.of_recovery? hr] at h
      exact absurd hs (h _ (List.mem_singleton_self _))
  | consuming hrest hx =>
    refine ⟨.inl rfl, fun _ => ⟨rfl, fun hrun p hp => ?_⟩⟩
    obtain ⟨x, hc, hx0, hnext⟩ := hx hrun
    obtain ⟨l', rfl⟩ := List.getLast?_eq_some_iff.1 hp
    rw [List.length_append, List.length_singleton, List.map_append,
      SequenceNumber.walk_succ_last] at hw
    have hlast : p.1.sequenceNumber = next^[l'.length] n := by
      simpa using (List.append_inj' hw rfl).2
    rw [List.length_append, List.length_singleton, Function.iterate_succ_apply', ← hlast] at hnext
    have hp0 : p.1.sequenceNumber ≠ 0 := by
      rw [hlast]
      exact SequenceNumber.iterate_next_ne_zero hn _
    rw [lastSequenceNumber?, hc, SequenceNumber.next_injective hx0 hp0 hnext]

/-- If the responses of a subscription come in order and every message that is asked for is
returned, the messages are delivered with consecutive numbers, each of them once, up to the one at
which the cursor is. Those that no response has brought have been asked for, each of them once. -/
theorem delivered_once_in_order (hc : c.Begins) (as bs : List Action) (s : SubscriptionId)
    (hr : (c.after as).managed.Rests s)
    (hx : ∀ x, (c.after as).managed.lastSequenceNumber? s = some x → x ≠ 0)
    (hs : (c.after as).Throughout (Registers s) bs) (hv : (c.after as).Served bs s) :
    ∃ n l underWay,
      (∀ x, (c.after as).managed.lastSequenceNumber? s = some x → n = next x) ∧
      ((c.after as).managed.lastSequenceNumber? s = none →
        ∀ a, (acceptedOf s ((c.after as).history bs)).head? = some a →
          n = a.message.sequenceNumber) ∧
      Accounts s n l ((c.after as).history bs) [] underWay ∧
      (underWay = [] ∨ underWay = [next^[l.length] n]) ∧
      (((c.after as).after bs).managed.Rests s → underWay = [] ∧
        (((c.after as).after bs).managed.running = true → ∀ p, l.getLast? = some p →
          ((c.after as).after bs).managed.lastSequenceNumber? s = some p.1.sequenceNumber)) := by
  have hready := hc.ready.after as
  have hready' := hready.after bs
  unfold lastSequenceNumber? at hx ⊢
  cases hcur : (c.after as).managed.cursors.find? s with
  | some x =>
    obtain ⟨l, underWay, hacc, hlink⟩ := hready.accounts (SequenceNumber.next_ne_zero x)
      (.consuming hr fun _ => ⟨x, hcur, hx x hcur, rfl⟩) hs hv
    refine ⟨next x, l, underWay, fun y hy => by cases hy; rfl, nofun, hacc, ?_⟩
    exact last_consumed hready'.orderly hlink (SequenceNumber.next_ne_zero x) hacc.numbers
  | none =>
    rcases hready.accounts_of_untouched ⟨hr, hcur⟩ hs hv with
      ⟨h1, h2, h3, hu⟩ | ⟨a, l, underWay, ha, hn, hacc, hlink⟩
    · refine ⟨1, [], [], nofun, fun _ a ha => ?_, accounts_nil h1 h2 h3, .inl rfl,
        fun _ => ⟨rfl, nofun⟩⟩
      rw [h1] at ha
      cases ha
    · refine ⟨a.message.sequenceNumber, l, underWay, nofun, fun _ a' ha' => ?_, hacc,
        last_consumed hready'.orderly hlink hn hacc.numbers⟩
      rw [ha] at ha'
      cases ha'
      rfl

/-- The messages 1 and 4 come, and the messages 2 and 3 are asked for and returned. -/
def sampleRefill : List Action :=
  publishing 0 2 (sampleAnswer 1) ++ .run .processing :: publishing 1 3 (sampleAnswer 4) ++
    [.run .processing, .run (.recovery 3),
      .reply 4 (goodReply .republish (Simulation.Sample.dataChange 2 [1] 5)), .run (.recovery 3),
      .reply 5 (goodReply .republish (Simulation.Sample.dataChange 3 [1] 5)), .run (.recovery 3),
      .run .processing]

/-- All messages of the sample are delivered. -/
theorem delivered_once_in_order_sample :
    sample.Begins ∧ (sample.after sampleStart).managed.Rests 7 ∧
      (∀ x, (sample.after sampleStart).managed.lastSequenceNumber? 7 = some x → x ≠ 0) ∧
      (sample.after sampleStart).Throughout (Registers 7) sampleRefill ∧
      (sample.after sampleStart).Served sampleRefill 7 ∧
      (∃ n l underWay,
        Accounts 7 n l ((sample.after sampleStart).history sampleRefill) [] underWay) ∧
      (dataHanded 7 ((sample.after sampleStart).history sampleRefill)).map (·.sequenceNumber) =
        [1, 2, 3, 4] := by
  have hr : (sample.after sampleStart).managed.Rests 7 := by decide
  have hx : ∀ x, (sample.after sampleStart).managed.lastSequenceNumber? 7 = some x → x ≠ 0 :=
    nofun
  have hs : (sample.after sampleStart).Throughout (Registers 7) sampleRefill := by decide
  have hv : (sample.after sampleStart).Served sampleRefill 7 := ⟨by decide, by decide⟩
  obtain ⟨n, l, underWay, -, -, hacc, -⟩ :=
    delivered_once_in_order sample_begins sampleStart sampleRefill 7 hr hx hs hv
  exact ⟨sample_begins, hr, hx, hs, hv, ⟨n, l, underWay, hacc⟩, by decide⟩

end Client

end OpcUa
