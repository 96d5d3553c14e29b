import OpcUa.Proofs.Arrivals

/-!
# One subscription alone

What the sequencing does for one subscription, as a machine of its own: it has the cursor of the
subscription and its recovery, the responses that are to be evaluated, and what the calls of its
recoveries are told. It knows of no queue and of no other subscription. A run of the client does
for the subscription what this machine does, whatever happens to the others in between.

* `Solo.next`: the machine.
* `deedsOf`: what is done for a subscription in a history.
* `RecoveryPoint.Path.solo`: a recovery is one of the machine.
* `SubscriptionManager.Step.solo`, `Client.Ready.solo`: steps and runs are those of the machine.
* `Solo.Runs.unique`: there is only one run to an end.
-/

namespace OpcUa

open SequenceNumber (previous isAfter evaluate)

/-! ## The machine -/

/-- What the call of a recovery is told. -/
inductive Reaction (α : Type) where
  /-- There is a session, and the request goes out. -/
  | sent
  | ended (outcome : Except Error α)

/-- What is done for a subscription. -/
inductive Deed where
  | judges (a : PublishAnswer) (v : SequenceNumber.Verdict)
  | recovers (e : RecoveryEvent)

structure Solo where
  cursor : Option SequenceNumber
  /-- The message up to which a recovery goes, and how far it is. -/
  recovery : Option (SequenceNumber × RecoveryPoint)
  /-- The responses that are still to be evaluated. -/
  inbox : List PublishAnswer
  republishes : List (Reaction NotificationMessage)
  reads : List (Reaction (List DataValue))

namespace Solo

/-- The response is accepted. -/
def accept (a : PublishAnswer) (rest : List PublishAnswer) (x : Solo) : Solo :=
  { x with
    cursor :=
      if x.cursor.all (isAfter (SubscriptionManager.consumed a.message)) then
        some (SubscriptionManager.consumed a.message)
      else x.cursor
    inbox := rest }

/-- A recovery comes to a point, or to its end. -/
def goTo (received : SequenceNumber) (p : RecoveryPoint) (x : Solo) : Solo :=
  match p with
  | .ended => { x with cursor := some (previous received), recovery := none }
  | p => { x with recovery := some (received, p) }

theorem goTo_of_ne {received : SequenceNumber} {p : RecoveryPoint} (hp : p ≠ .ended) (x : Solo) :
    x.goTo received p = { x with recovery := some (received, p) } := by
  cases p with
  | ended => exact absurd rfl hp
  | asking | awaiting | failing | choosing | reading => rfl

/-- How a recovery goes on after the call for the message `n`. -/
def afterRepublish (n : SequenceNumber) : Except Error NotificationMessage → RecoveryPoint
  | .ok message =>
    if message.sequenceNumber = n then .asking (SequenceNumber.next n) else .failing
  | .error _ => .failing

/-- What a recovery at the point `p` does next, in a subscription with the items `items`. -/
def recover (items : List ItemKey) (target : ItemKey → ReadValueId) (received : SequenceNumber)
    (p : RecoveryPoint) (x : Solo) : Option (Deed × Solo) :=
  match p with
  | .asking n =>
    if n = received then some (.recovers .ends, x.goTo received .ended)
    else some (.recovers (.asks n), x.goTo received (.awaiting n false))
  | .awaiting n sent =>
    match x.republishes with
    | [] => none
    | .sent :: republishes =>
      if sent then none
      else some (.recovers (.sends (.republish n)),
        { x with republishes }.goTo received (.awaiting n true))
    | .ended outcome :: republishes =>
      some (.recovers (.republished n outcome),
        { x with republishes }.goTo received (afterRepublish n outcome))
  | .failing => some (.recovers (.fallsBack items), x.goTo received (.choosing items))
  | .choosing [] => some (.recovers .ends, x.goTo received .ended)
  | .choosing (k :: rest) => some (.recovers (.reads k), x.goTo received (.reading k rest false))
  | .reading k rest sent =>
    match x.reads with
    | [] => none
    | .sent :: reads =>
      if sent then none
      else some (.recovers (.sends (.read k (target k))),
        { x with reads }.goTo received (.reading k rest true))
    | .ended outcome :: reads =>
      some (.recovers (.valueRead k outcome), { x with reads }.goTo received (.choosing rest))
  | .ended => none

/-- What is done next: the recovery goes on, or else the next response is evaluated. -/
def next (items : List ItemKey) (target : ItemKey → ReadValueId) (x : Solo) :
    Option (Deed × Solo) :=
  match x.recovery with
  | some (received, p) => x.recover items target received p
  | none =>
    match x.inbox with
    | [] => none
    | a :: rest =>
      match evaluate x.cursor a.message.sequenceNumber with
      | .accept => some (.judges a .accept, x.accept a rest)
      | .gap n => some (.judges a (.gap n), x.goTo a.message.sequenceNumber (.asking n))

/-- The machine does the deeds of a list, one after the other. -/
inductive Runs (items : List ItemKey) (target : ItemKey → ReadValueId) :
    Solo → List Deed → Solo → Prop
  | rests (x : Solo) : Runs items target x [] x
  | goesOn {x y z : Solo} {d : Deed} {l : List Deed} : x.next items target = some (d, y) →
    Runs items target y l z → Runs items target x (d :: l) z

variable {items : List ItemKey} {target : ItemKey → ReadValueId} {x y y' z : Solo}
  {d : Deed} {l l' : List Deed}

theorem next_of_accept {a : PublishAnswer} {rest : List PublishAnswer} (hr : x.recovery = none)
    (hi : x.inbox = a :: rest) (hv : evaluate x.cursor a.message.sequenceNumber = .accept) :
    x.next items target = some (.judges a .accept, x.accept a rest) := by
  unfold next
  rw [hr, hi]
  dsimp only
  rw [hv]

theorem next_of_gap {a : PublishAnswer} {rest : List PublishAnswer} {n : SequenceNumber}
    (hr : x.recovery = none) (hi : x.inbox = a :: rest)
    (hv : evaluate x.cursor a.message.sequenceNumber = .gap n) :
    x.next items target =
      some (.judges a (.gap n), x.goTo a.message.sequenceNumber (.asking n)) := by
  unfold next
  rw [hr, hi]
  dsimp only
  rw [hv]

theorem next_of_done (hr : x.recovery = none) (hi : x.inbox = []) :
    x.next items target = none := by
  unfold next
  rw [hr, hi]

theorem Runs.one (h : x.next items target = some (d, y)) : Runs items target x [d] y :=
  .goesOn h (.rests y)

theorem Runs.append (h : Runs items target x l y) (h' : Runs items target y l' z) :
    Runs items target x (l ++ l') z := by
  induction h with
  | rests => exact h'
  | goesOn hn _ ih => exact .goesOn hn (ih h')

/-- There is only one run to an end. -/
theorem Runs.unique (h : Runs items target x l y) (h' : Runs items target x l' y')
    (hy : y.next items target = none) (hy' : y'.next items target = none) : l = l' ∧ y = y' := by
  induction h generalizing l' with
  | rests x =>
    cases h' with
    | rests => exact ⟨rfl, rfl⟩
    | goesOn hn => cases hy.symm.trans hn
  | goesOn hn _ ih =>
    cases h' with
    | rests => cases hy'.symm.trans hn
    | goesOn hn' h' =>
      cases hn.symm.trans hn'
      obtain ⟨rfl, rfl⟩ := ih h' hy
      exact ⟨rfl, rfl⟩

end Solo

/-! ## A recovery -/

theorem filterMap_cons_append {α β : Type} (f : α → Option β) (a : α) (l : List α) (l' : List β) :
    (a :: l).filterMap f ++ l' = (f a).toList ++ (l.filterMap f ++ l') := by
  rw [List.filterMap_cons]
  cases f a <;> rfl

namespace RecoveryEvent

/-- What the call for a message is told in an event. -/
def republishReaction? : RecoveryEvent → Option (Reaction NotificationMessage)
  | sends (.republish _) => some .sent
  | republished _ outcome => some (.ended outcome)
  | _ => none

/-- What the call for the value of an item is told in an event. -/
def readReaction? : RecoveryEvent → Option (Reaction (List DataValue))
  | sends (.read ..) => some .sent
  | valueRead _ outcome => some (.ended outcome)
  | _ => none

/-- Whether an event belongs to a recovery with the items `items`. -/
def Suits (items : List ItemKey) (target : ItemKey → ReadValueId) : RecoveryEvent → Prop
  | fallsBack l => l = items
  | sends (.read k t) => t = target k
  | stops => False
  | _ => True

end RecoveryEvent

namespace RecoveryPoint

variable {items : List ItemKey} {target : ItemKey → ReadValueId} {received : SequenceNumber}
  {p q : RecoveryPoint} {e : RecoveryEvent} {log : List RecoveryEvent}

/-- An event of a recovery is the next deed of the machine. -/
theorem Moves.solo (h : p.Moves received e q) (he : e.Suits items target)
    (cursor : Option SequenceNumber) (inbox : List PublishAnswer)
    (republishes : List (Reaction NotificationMessage)) (reads : List (Reaction (List DataValue))) :
    (⟨cursor, some (received, p), inbox, e.republishReaction?.toList ++ republishes,
        e.readReaction?.toList ++ reads⟩ : Solo).next items target =
      some (.recovers e,
        (⟨cursor, none, inbox, republishes, reads⟩ : Solo).goTo received q) := by
  cases h with
  | asks hn => exact if_neg hn
  | endsAsking => exact if_pos rfl
  | @refused n outcome ho =>
    have hp : Solo.afterRepublish n outcome = .failing := by
      cases outcome with
      | error => rfl
      | ok message => exact if_neg (ho message rfl)
    show some (_, Solo.goTo received (Solo.afterRepublish n outcome) _) = _
    rw [hp]
    rfl
  | @came message =>
    have hp : Solo.afterRepublish message.sequenceNumber (.ok message) =
        .asking (SequenceNumber.next message.sequenceNumber) := if_pos rfl
    show some (_, Solo.goTo received (Solo.afterRepublish _ (.ok message)) _) = _
    rw [hp]
    rfl
  | fallsBack =>
    cases he
    rfl
  | sendsRead t =>
    cases he
    rfl
  | stopsAsking | stopsFailing | stopsReading => exact he.elim
  | sendsAsk | unasked | reads | unread | read | endsReading => rfl

/-- A recovery that goes on does what the machine does. -/
theorem Path.solo (h : p.Path received log q) (hp : p ≠ .ended)
    (he : ∀ e ∈ log, e.Suits items target) (cursor : Option SequenceNumber)
    (inbox : List PublishAnswer) (republishes : List (Reaction NotificationMessage))
    (reads : List (Reaction (List DataValue))) :
    Solo.Runs items target
      ⟨cursor, some (received, p), inbox, log.filterMap (·.republishReaction?) ++ republishes,
        log.filterMap (·.readReaction?) ++ reads⟩
      (log.map .recovers)
      ((⟨cursor, none, inbox, republishes, reads⟩ : Solo).goTo received q) := by
  induction h generalizing republishes reads with
  | nil p => rw [Solo.goTo_of_ne hp]; exact .rests _
  | @cons p q r e log hm h ih =>
    have he' : ∀ e ∈ log, e.Suits items target := fun e h => he e (List.mem_cons_of_mem _ h)
    have hnext := hm.solo (he e List.mem_cons_self) cursor inbox
      (log.filterMap (·.republishReaction?) ++ republishes)
      (log.filterMap (·.readReaction?) ++ reads)
    rw [filterMap_cons_append, filterMap_cons_append, List.map_cons]
    refine .goesOn hnext ?_
    by_cases hq : q = .ended
    · subst hq
      obtain ⟨rfl, rfl⟩ := h.of_ended
      exact .rests _
    · rw [Solo.goTo_of_ne hq]
      exact ih hq he' republishes reads

/-- The items that are still to be read. -/
def toRead : RecoveryPoint → List ItemKey
  | choosing items => items
  | reading k rest _ => k :: rest
  | _ => []

/-- Only items are read that are there when the recovery turns to them. -/
theorem Path.toRead (h : p.Path received log q) (hp : p.toRead ⊆ items)
    (he : ∀ l, .fallsBack l ∈ log → l = items) :
    q.toRead ⊆ items ∧ ∀ k t, .sends (.read k t) ∈ log → k ∈ items := by
  induction h with
  | nil p => exact ⟨hp, nofun⟩
  | @cons p q r e log hm _ ih =>
    have hq : q.toRead ⊆ items := by
      cases hm with
      | fallsBack => exact fun k hk => he _ List.mem_cons_self ▸ hk
      | unread | read => exact fun k hk => hp (List.mem_cons_of_mem _ hk)
      | reads | sendsRead => exact hp
      | asks | sendsAsk | came | unasked | refused | endsAsking | endsReading | stopsAsking
      | stopsFailing | stopsReading => exact List.nil_subset _
    obtain ⟨h1, h2⟩ := ih hq fun l hl => he l (List.mem_cons_of_mem _ hl)
    refine ⟨h1, fun k t hk => ?_⟩
    rcases List.mem_cons.1 hk with hk | hk
    · cases hm with
      | sendsRead =>
        cases hk
        exact hp List.mem_cons_self
      | _ => cases hk
    · exact h2 k t hk

end RecoveryPoint

/-! ## What is done for a subscription -/

/-- What is done for the subscription `s` in a history. -/
def deedsOf (s : SubscriptionId) (h : List SequencerEvent) : List Deed :=
  h.filterMap fun
    | .evaluates a (some v) => if a.subscription = s then some (.judges a v) else none
    | .recovers _ s' e => if s' = s then some (.recovers e) else none
    | _ => none

/-- What the calls of its recoveries for messages are told. -/
def republishReactions (s : SubscriptionId) (h : List SequencerEvent) :
    List (Reaction NotificationMessage) :=
  (deedsOf s h).filterMap fun
    | .recovers e => e.republishReaction?
    | .judges .. => none

/-- What the calls of its recoveries for the values of items are told. -/
def readReactions (s : SubscriptionId) (h : List SequencerEvent) :
    List (Reaction (List DataValue)) :=
  (deedsOf s h).filterMap fun
    | .recovers e => e.readReaction?
    | .judges .. => none

variable {s : SubscriptionId} {h h' : List SequencerEvent}

theorem deedsOf_append (s : SubscriptionId) (h h' : List SequencerEvent) :
    deedsOf s (h ++ h') = deedsOf s h ++ deedsOf s h' :=
  List.filterMap_append

theorem republishReactions_append (s : SubscriptionId) (h h' : List SequencerEvent) :
    republishReactions s (h ++ h') = republishReactions s h ++ republishReactions s h' := by
  rw [republishReactions, deedsOf_append, List.filterMap_append]
  rfl

theorem readReactions_append (s : SubscriptionId) (h h' : List SequencerEvent) :
    readReactions s (h ++ h') = readReactions s h ++ readReactions s h' := by
  rw [readReactions, deedsOf_append, List.filterMap_append]
  rfl

section

variable {id : WorkId} {s' : SubscriptionId} {log : List RecoveryEvent} {requests : List Request}
  {deliveries : List Delivery}

/-- What is done in a run of a recovery. -/
theorem deedsOf_run : deedsOf s (log.map (.recovers id s') ++ requests.map (.posts id) ++
    deliveries.map .hands) = if s' = s then log.map .recovers else [] := by
  rw [deedsOf_append, deedsOf_append, deedsOf, deedsOf, deedsOf,
    filterMap_map_none (fun _ => rfl) requests, filterMap_map_none (fun _ => rfl) deliveries,
    List.append_nil, List.append_nil, List.filterMap_map]
  split
  · rename_i hs
    simp [hs]
  · rename_i hs
    simp [hs]

end

namespace SubscriptionManager

variable {m m' : SubscriptionManager} {events : List SequencerEvent}
  {items : List ItemKey} {target : ItemKey → ReadValueId}
  {new later : List PublishAnswer}

/-- The recovery of a subscription that is in progress: the message up to which it goes, and how
far it is. -/
def recoveryOf (s : SubscriptionId) (m : SubscriptionManager) :
    Option (SequenceNumber × RecoveryPoint) :=
  (m.recoveries.find? (·.2.subscription = s)).map fun p => (p.2.received, p.2.stage.point)

/-- What the manager has for one subscription, when the responses `later` are still to arrive. -/
def solo (s : SubscriptionId) (later : List PublishAnswer)
    (republishes : List (Reaction NotificationMessage)) (reads : List (Reaction (List DataValue)))
    (m : SubscriptionManager) : Solo :=
  ⟨m.cursors.find? s, m.recoveryOf s,
    (m.processing.tasks ++ later).filter (·.subscription = s), republishes, reads⟩

/-- A recovery of the subscription only reads the items `items`. -/
def ReadsOnly (m : SubscriptionManager) (s : SubscriptionId) (items : List ItemKey) : Prop :=
  ∀ id r, m.recovery? id = some r → r.subscription = s → r.stage.point.toRead ⊆ items

theorem recoveryOf_of_rests (hr : m.Rests s) : m.recoveryOf s = none := by
  have hnone : m.recoveries.find? (·.2.subscription = s) = none :=
    List.find?_eq_none.2 fun p hp => by simpa using hr p hp
  rw [recoveryOf, hnone]
  rfl

theorem recoveryOf_of_idle (hr : m.recoveries = []) : m.recoveryOf s = none := by
  rw [recoveryOf, hr]
  rfl

theorem recoveryOf_of_recovery {id : WorkId} {r : Recovery} (hr : m.recoveries = [(id, r)]) :
    m.recoveryOf s =
      if r.subscription = s then some (r.received, r.stage.point) else none := by
  rw [recoveryOf, hr, List.find?_singleton]
  by_cases hs : r.subscription = s
  · simp [hs]
  · simp [hs]

/-- The response that is taken is the first one of its subscription. -/
theorem inbox_of_turn {a : PublishAnswer} {yields : Bool} {q : WorkQueue PublishAnswer}
    (ht : m.processing.turn = (.run a yields, q)) (hs : a.subscription = s) :
    (m.processing.tasks ++ later).filter (·.subscription = s) =
      a :: (q.tasks ++ later).filter (·.subscription = s) := by
  rw [(WorkQueue.turn_run ht).2.2.2.2, List.cons_append,
    List.filter_cons_of_pos (by simpa using hs)]

/-- The response that is taken does not matter to the others. -/
theorem inbox_of_turn_other {a : PublishAnswer} {yields : Bool} {q : WorkQueue PublishAnswer}
    (ht : m.processing.turn = (.run a yields, q)) (hs : a.subscription ≠ s) :
    (q.tasks ++ later).filter (·.subscription = s) =
      (m.processing.tasks ++ later).filter (·.subscription = s) := by
  rw [(WorkQueue.turn_run ht).2.2.2.2, List.cons_append,
    List.filter_cons_of_neg (by simpa using hs)]

section

variable (republishes : List (Reaction NotificationMessage))
  (reads : List (Reaction (List DataValue)))

/-- Nothing is done for the subscription. -/
theorem runs_of_same (hd : deedsOf s events = [])
    (hc : m'.cursors.find? s = m.cursors.find? s) (hr : m'.recoveryOf s = m.recoveryOf s)
    (ht : (m'.processing.tasks ++ later).filter (·.subscription = s) =
      (m.processing.tasks ++ (new ++ later)).filter (·.subscription = s)) :
    Solo.Runs items target
      (m.solo s (new ++ later) (republishReactions s events ++ republishes)
        (readReactions s events ++ reads))
      (deedsOf s events) (m'.solo s later republishes reads) := by
  rw [republishReactions, readReactions, hd, solo, solo, hc, hr, ht]
  exact .rests _

section

variable {a : PublishAnswer} {yields : Bool} {q : WorkQueue PublishAnswer}

/-- A response of the subscription is accepted, as the machine does. -/
theorem runs_of_accept (hidle : m.recoveries = []) (ht : m.processing.turn = (.run a yields, q))
    (hv : m.verdict? a = some .accept) :
    Solo.Runs items target
      (m.solo a.subscription later
        (republishReactions a.subscription
          [.evaluates a (some .accept), .hands (.message a.subscription a.message)] ++ republishes)
        (readReactions a.subscription
          [.evaluates a (some .accept), .hands (.message a.subscription a.message)] ++ reads))
      (deedsOf a.subscription
        [.evaluates a (some .accept), .hands (.message a.subscription a.message)])
      ((({ m with processing := q } : SubscriptionManager).accept a).solo a.subscription later
        republishes reads) := by
  have hd : deedsOf a.subscription [.evaluates a (some .accept),
      .hands (.message a.subscription a.message)] = [.judges a .accept] := by simp [deedsOf]
  have hcursor : (({ m with processing := q } : SubscriptionManager).accept a).cursors.find?
      a.subscription = if (m.cursors.find? a.subscription).all (isAfter (consumed a.message))
        then some (consumed a.message) else m.cursors.find? a.subscription := by
    rw [accept_eq]
    dsimp only
    rw [find?_advanceCursor]
    simp
  have hsame : (({ m with processing := q } : SubscriptionManager).accept a).recoveries = [] ∧
      (({ m with processing := q } : SubscriptionManager).accept a).processing = q := by
    rw [accept_eq]
    exact ⟨hidle, rfl⟩
  rw [republishReactions, readReactions, hd]
  refine .one ?_
  rw [Solo.next_of_accept (recoveryOf_of_idle hidle) (inbox_of_turn ht rfl)
    (verdict?_eq_some hv).2, Solo.accept, solo, solo, hcursor, recoveryOf_of_idle hidle,
    recoveryOf_of_idle hsame.1, hsame.2]
  rfl

/-- When a recovery begins, the response is put back. -/
theorem beginRecovery_of_turn (hidle : m.recoveries = [])
    (ht : m.processing.turn = (.run a yields, q)) (n : SequenceNumber) :
    (({ m with processing := q } : SubscriptionManager).beginRecovery a n).recoveries =
        [(m.nextWork, ⟨a.subscription, a.message.sequenceNumber, .republishing n none⟩)] ∧
      (({ m with processing := q } : SubscriptionManager).beginRecovery a n).processing.tasks =
        m.processing.tasks := by
  obtain ⟨-, -, hopen, -, htasks⟩ := WorkQueue.turn_run ht
  constructor
  · rw [(beginRecovery_eq ..).2.2.2.2, show _ = _ from hidle]
    rfl
  · rw [htasks]
    exact WorkQueue.tasks_submitFirst (show q.pause.closed = false from hopen) a

/-- A response of the subscription reveals a gap, as for the machine. -/
theorem runs_of_gap (hidle : m.recoveries = []) (ht : m.processing.turn = (.run a yields, q))
    {n : SequenceNumber} (hv : m.verdict? a = some (.gap n)) :
    Solo.Runs items target
      (m.solo a.subscription later
        (republishReactions a.subscription [.evaluates a (some (.gap n))] ++ republishes)
        (readReactions a.subscription [.evaluates a (some (.gap n))] ++ reads))
      (deedsOf a.subscription [.evaluates a (some (.gap n))])
      ((({ m with processing := q } : SubscriptionManager).beginRecovery a n).solo a.subscription
        later republishes reads) := by
  have hd : deedsOf a.subscription [.evaluates a (some (.gap n))] = [.judges a (.gap n)] := by
    simp [deedsOf]
  obtain ⟨hrecs, htasks⟩ := beginRecovery_of_turn hidle ht n
  rw [republishReactions, readReactions, hd]
  refine .one ?_
  rw [Solo.next_of_gap (recoveryOf_of_idle hidle) (inbox_of_turn ht rfl) (verdict?_eq_some hv).2,
    solo, solo, htasks, recoveryOf_of_recovery hrecs, if_pos rfl]
  rfl

end

section

variable {id : WorkId} {r : Recovery} {log : List RecoveryEvent} {requests : List Request}
  {deliveries : List Delivery} {q : RecoveryPoint}

/-- While the manager runs and the items stay, the events of a recovery are those of the machine. -/
theorem suits_of_fits (hrun : m.running = true) (hi : m.readableItems s = items)
    (ht : ∀ k ∈ items, m.target k = target k) (hp : r.stage.point.Path r.received log q)
    (hread : r.stage.point.toRead ⊆ items) (hf : ∀ e ∈ log, e.Fits s m) :
    ∀ e ∈ log, e.Suits items target := by
  have hfall (l : List ItemKey) (hl : .fallsBack l ∈ log) : l = items :=
    (hf (.fallsBack l) hl).2.trans hi
  intro e he
  have hfit := hf e he
  cases e with
  | fallsBack l => exact hfall l he
  | sends question =>
    cases question with
    | republish => trivial
    | read k t =>
      rw [show t = _ from hfit]
      exact ht k ((hp.toRead hread hfall).2 k t he)
  | stops =>
    rw [show m.running = false from hfit] at hrun
    cases hrun
  | asks | republished | reads | valueRead | ends => trivial

/-- A run of its recovery does for a subscription what the machine does. -/
theorem runs_of_run (hr : m.recoveries = [(id, r)]) (hs : r.subscription = s)
    (hp : r.stage.point.Path r.received log q) (he : ∀ e ∈ log, e.Suits items target)
    (hq : m'.solo s later republishes reads =
      (⟨m.cursors.find? s, none, (m.processing.tasks ++ (new ++ later)).filter
        (·.subscription = s), republishes, reads⟩ : Solo).goTo r.received q) :
    Solo.Runs items target
      (m.solo s (new ++ later)
        (republishReactions s (log.map (.recovers id r.subscription) ++ requests.map (.posts id) ++
          deliveries.map .hands) ++ republishes)
        (readReactions s (log.map (.recovers id r.subscription) ++ requests.map (.posts id) ++
          deliveries.map .hands) ++ reads))
      (deedsOf s (log.map (.recovers id r.subscription) ++ requests.map (.posts id) ++
        deliveries.map .hands)) (m'.solo s later republishes reads) := by
  have hpath := hp.solo r.stage.point_ne_ended he (m.cursors.find? s)
    ((m.processing.tasks ++ (new ++ later)).filter (·.subscription = s)) republishes reads
  rw [hq, solo, republishReactions, readReactions, deedsOf_run, if_pos hs,
    recoveryOf_of_recovery hr, if_pos hs, List.filterMap_map, List.filterMap_map]
  exact hpath

end

/-- A step does for the subscription what the machine does. -/
theorem Step.solo (h : m.Step events m') (ho : m.Orderly) (hrun : m'.running = true)
    (hs : m.registry.contains s = true) (hs' : m'.registry.contains s = true)
    (hi : m.readableItems s = items) (ht : ∀ k ∈ items, m.target k = target k)
    (hread : m.ReadsOnly s items)
    (hnone : (∀ a v, .evaluates a v ∉ events) →
      m'.processing.tasks = m.processing.tasks ++ new)
    (hsome : ∀ a v, .evaluates a v ∈ events → new = []) :
    Solo.Runs items target
      (m.solo s (new ++ later) (republishReactions s events ++ republishes)
        (readReactions s events ++ reads))
      (deedsOf s events) (m'.solo s later republishes reads) := by
  have hquiet (he : ∀ a v, .evaluates a v ∉ events) :
      (m'.processing.tasks ++ later).filter (·.subscription = s) =
        (m.processing.tasks ++ (new ++ later)).filter (·.subscription = s) := by
    rw [hnone he, List.append_assoc]
  cases h with
  | outside hout =>
    refine runs_of_same republishes reads rfl ?_ ?_ (hquiet nofun)
    · exact (hout.cursor s).resolve_right fun hc => by rw [hc.1] at hs'; cases hs'
    · rw [recoveryOf, hout.recoveries]
      rfl
  | idles => exact runs_of_same republishes reads rfl rfl rfl (hquiet nofun)
  | rests => exact runs_of_same republishes reads rfl rfl rfl (hquiet nofun)
  | @drops a yields q hturn hv =>
    obtain rfl := hsome a none List.mem_cons_self
    have hne : a.subscription ≠ s := by
      rintro rfl
      rw [verdict?, if_pos hs] at hv
      cases hv
    exact runs_of_same republishes reads rfl rfl rfl (inbox_of_turn_other hturn hne)
  | @accepts a yields q hturn hv =>
    obtain rfl := hsome a _ List.mem_cons_self
    obtain ⟨hidle, -, -⟩ := ho.of_turn_run hturn
    by_cases hsub : a.subscription = s
    · subst hsub
      exact runs_of_accept republishes reads hidle hturn hv
    · refine runs_of_same republishes reads (by simp [deedsOf, hsub])
        (events_accept_other (m := { m with processing := q }) hsub).2.2 ?_ ?_
      · rw [accept_eq]
        rfl
      · rw [accept_eq]
        exact inbox_of_turn_other hturn hsub
  | @gaps a yields q e hturn hv =>
    obtain rfl := hsome a _ List.mem_cons_self
    obtain ⟨hidle, -, -⟩ := ho.of_turn_run hturn
    obtain ⟨hrecs, htasks⟩ := beginRecovery_of_turn hidle hturn e
    by_cases hsub : a.subscription = s
    · subst hsub
      exact runs_of_gap republishes reads hidle hturn hv
    · refine runs_of_same republishes reads (by simp [deedsOf, hsub]) rfl ?_ ?_
      · rw [recoveryOf_of_recovery hrecs, if_neg hsub, recoveryOf_of_idle hidle]
      · rw [htasks, List.nil_append]
  | @recovers id r log stage requests hr hp hf hq =>
    have hr₀ := ho.of_recovery? hr
    have htasks := hquiet fun a v => evaluates_not_mem_run
    obtain ⟨stats, hm⟩ := setRecovery_foldl_eq id r.subscription log stage m
    have hrecs := setRecovery_recoveries hr₀ stage
    rw [hm] at htasks hrun ⊢
    by_cases hsub : r.subscription = s
    · subst hsub
      refine runs_of_run republishes reads hr₀ rfl hp
        (suits_of_fits hrun hi ht hp (hread id r hr rfl) hf) ?_
      rw [Solo.goTo_of_ne stage.point_ne_ended, solo, htasks,
        recoveryOf_of_recovery (m := { m.setRecovery id stage with stats, delivery := _ }) hrecs,
        if_pos rfl]
      rfl
    · refine runs_of_same republishes reads (by rw [deedsOf_run, if_neg hsub]) rfl ?_ htasks
      rw [recoveryOf_of_recovery hr₀, if_neg hsub,
        recoveryOf_of_recovery (m := { m.setRecovery id stage with stats, delivery := _ }) hrecs,
        if_neg hsub]
  | @ends id r log requests hr hp hf hq =>
    have hr₀ := ho.of_recovery? hr
    have htasks := hquiet fun a v => evaluates_not_mem_run
    have hrecs := recoveries_endRecovery ho hr log
    rw [running_endRecovery] at hrun
    by_cases hsub : r.subscription = s
    · subst hsub
      refine runs_of_run republishes reads hr₀ rfl hp
        (suits_of_fits hrun hi ht hp (hread id r hr rfl) hf) ?_
      rw [solo, htasks, recoveryOf_of_idle hrecs,
        ((finishes_run hr hp hf hq).settles ho hrun hs).2.2.1]
      rfl
    · refine runs_of_same republishes reads (by rw [deedsOf_run, if_neg hsub])
        (find?_endRecovery_other hsub) ?_ htasks
      rw [recoveryOf_of_recovery hr₀, if_neg hsub, recoveryOf_of_idle hrecs]

end

/-- A recovery goes on to read the items that it has read. -/
theorem Step.readsOnly (h : m.Step events m') (ho : m.Orderly) (hi : m.readableItems s = items)
    (hread : m.ReadsOnly s items) : m'.ReadsOnly s items := by
  cases h with
  | outside hout =>
    intro id r hr
    rw [recovery?, hout.recoveries] at hr
    exact hread id r hr
  | idles | drops | rests => exact hread
  | @accepts a yields q hturn hv =>
    intro id r hr
    rw [recovery?, accept_eq] at hr
    exact hread id r hr
  | @gaps a yields q e hturn hv =>
    intro id r hr _
    rw [recovery?, (beginRecovery_eq ..).2.2.2.2, show _ = _ from (ho.of_turn_run hturn).1] at hr
    obtain ⟨-, rfl⟩ := (recovery?_eq_some_iff (m := { m with recoveries := _ }) rfl).1 hr
    exact List.nil_subset _
  | @recovers id r log stage requests hr hp hf hq =>
    intro id' r' hr' hs
    obtain ⟨stats, hm⟩ := setRecovery_foldl_eq id r.subscription log stage m
    have hrecs := setRecovery_recoveries (ho.of_recovery? hr) stage
    rw [hm] at hr'
    obtain ⟨-, rfl⟩ := (recovery?_eq_some_iff hrecs).1 hr'
    subst hs
    exact (hp.toRead (hread id r hr rfl) fun l hl => (hf (.fallsBack l) hl).2.trans hi).1
  | @ends id r log requests hr hp hf hq =>
    intro id' r' hr'
    rw [recovery?, recoveries_endRecovery ho hr] at hr'
    cases hr'

end SubscriptionManager

/-! ## Runs -/

namespace Client

open SubscriptionManager

variable {c : Client} {bs : List Action}
  {items : List (ClientHandle × ItemKey × ReadValueId)} {target : ItemKey → ReadValueId}

/-- As long as a subscription and its items stay, a run of the client does for it what the machine
does. -/
theorem Ready.solo (h : c.Ready) (s : SubscriptionId) (hrun : (c.after bs).managed.running = true)
    (hs : c.Throughout (Registers s) bs) (hi : c.Throughout (·.managed.valueItems s = items) bs)
    (ht : ∀ p ∈ items.map (·.2), p.2 = target p.1)
    (hread : c.managed.ReadsOnly s (items.map (·.2.1)))
    (republishes : List (Reaction NotificationMessage))
    (reads : List (Reaction (List DataValue))) :
    Solo.Runs (items.map (·.2.1)) target
      (c.managed.solo s (c.arrived bs) (republishReactions s (c.history bs) ++ republishes)
        (readReactions s (c.history bs) ++ reads))
      (deedsOf s (c.history bs)) ((c.after bs).managed.solo s [] republishes reads) := by
  induction bs generalizing c with
  | nil => exact .rests _
  | cons b bs ih =>
    obtain ⟨hs₀, hs'⟩ := throughout_cons.1 hs
    obtain ⟨hi₀, hi'⟩ := throughout_cons.1 hi
    have hstep := (h.step b).2.2
    have hrun' : (c.act b).1.managed.running = true := (h.act b).running_of_after hrun
    have hvalues := map_valueItems s c.managed
    rw [hi₀] at hvalues
    have hkeys : c.managed.readableItems s = items.map (·.2.1) := by
      have := congrArg (List.map (·.1)) hvalues
      rw [List.map_map, List.map_map] at this
      exact (this.trans (List.map_id _)).symm
    have htarget (k : ItemKey) (hk : k ∈ items.map (·.2.1)) : c.managed.target k = target k := by
      rw [← hkeys] at hk
      exact ht (k, c.managed.target k) (hvalues ▸ List.mem_map_of_mem hk)
    rw [history, deedsOf_append, republishReactions_append, readReactions_append,
      List.append_assoc, List.append_assoc, arrived]
    refine (hstep.solo _ _ h.orderly hrun' hs₀ ?_ hkeys htarget hread (h.tasks b hrun')
      fun a v => arrives_of_evaluates).append
        (ih (h.act b) hrun hs' hi' (hstep.readsOnly h.orderly hkeys hread))
    exact hs' [] List.nil_prefix

end Client

end OpcUa
