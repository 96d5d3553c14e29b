import Mathlib.Data.List.Induction
import OpcUa.Proofs.RecoveryScript
import OpcUa.Proofs.Sequencing

/-!
# A recovery along a run

A recovery begins when a response reveals a gap, and other tasks run until it is over. Its log is
spread over the run. As long as it is in progress, the cursor of its subscription does not move, and
the response that revealed the gap waits at the head of the processing queue.

* `Client.RevealsGap`: the next turn of the processing worker reveals a gap.
* `Client.Underway`: what holds while the recovery is in progress.
* `Client.Ready.underway`: it does hold, in every run after the gap was revealed.
* `Client.Ready.begun`: every recovery has begun with a gap.
-/

namespace OpcUa

/-- The log of a recovery in a history. -/
def recoveryEvents (id : WorkId) (h : List SequencerEvent) : List RecoveryEvent :=
  h.filterMap fun
    | .recovers i _ e => if i = id then some e else none
    | _ => none

/-- The requests that a recovery has sent in a history. -/
def recoveryRequests (id : WorkId) (h : List SequencerEvent) : List Request :=
  h.filterMap fun
    | .posts i r => if i = id then some r else none
    | _ => none

/-- What has been put on the delivery queue in a history. -/
def handedOut (h : List SequencerEvent) : List Delivery :=
  h.filterMap fun
    | .hands d => some d
    | _ => none

section

variable {id : WorkId} {s : SubscriptionId} {log : List RecoveryEvent} {requests : List Request}
  {deliveries : List Delivery}

theorem recoveryEvents_append (id : WorkId) (h h' : List SequencerEvent) :
    recoveryEvents id (h ++ h') = recoveryEvents id h ++ recoveryEvents id h' :=
  List.filterMap_append

theorem recoveryRequests_append (id : WorkId) (h h' : List SequencerEvent) :
    recoveryRequests id (h ++ h') = recoveryRequests id h ++ recoveryRequests id h' :=
  List.filterMap_append

theorem handedOut_append (h h' : List SequencerEvent) :
    handedOut (h ++ h') = handedOut h ++ handedOut h' :=
  List.filterMap_append

theorem filterMap_map_none {α β γ : Type} {f : β → Option γ} {g : α → β} (h : ∀ a, f (g a) = none)
    (l : List α) : (l.map g).filterMap f = [] := by
  rw [List.filterMap_map]
  exact List.filterMap_eq_nil_iff.2 fun a _ => h a

theorem filterMap_map_some {α β : Type} {f : β → Option α} {g : α → β} (h : ∀ a, f (g a) = some a)
    (l : List α) : (l.map g).filterMap f = l := by
  rw [List.filterMap_map, show f ∘ g = some from funext h, List.filterMap_some]

/-- The log of a recovery in the events of one of its runs. -/
theorem recoveryEvents_run :
    recoveryEvents id (log.map (.recovers id s) ++ requests.map (.posts id) ++
      deliveries.map .hands) = log := by
  rw [recoveryEvents_append, recoveryEvents_append, recoveryEvents, recoveryEvents, recoveryEvents,
    filterMap_map_some (fun e => if_pos rfl), filterMap_map_none (fun _ => rfl),
    filterMap_map_none (fun _ => rfl), List.append_nil, List.append_nil]

theorem recoveryRequests_run :
    recoveryRequests id (log.map (.recovers id s) ++ requests.map (.posts id) ++
      deliveries.map .hands) = requests := by
  rw [recoveryRequests_append, recoveryRequests_append, recoveryRequests, recoveryRequests,
    recoveryRequests, filterMap_map_none (fun _ => rfl), filterMap_map_some (fun r => if_pos rfl),
    filterMap_map_none (fun _ => rfl), List.append_nil, List.nil_append]

theorem handedOut_run :
    handedOut (log.map (.recovers id s) ++ requests.map (.posts id) ++ deliveries.map .hands) =
      deliveries := by
  rw [handedOut_append, handedOut_append, handedOut, handedOut, handedOut,
    filterMap_map_none (fun _ => rfl), filterMap_map_none (fun _ => rfl), List.nil_append,
    List.nil_append]
  exact filterMap_map_some (g := SequencerEvent.hands) (fun _ => rfl) deliveries

end

/-! ## Steps during a recovery -/

namespace SubscriptionManager

variable {m m' : SubscriptionManager} {events : List SequencerEvent} {id : WorkId} {r : Recovery}

/-- In a step the recovery `r` does what its log says: it alone puts something on the delivery
queue, and it sends the questions. -/
structure Recounted (m : SubscriptionManager) (events : List SequencerEvent) (id : WorkId)
    (r : Recovery) : Prop where
  fits : ∀ e ∈ recoveryEvents id events, e.Fits r.subscription m
  handed : handedOut events = (recoveryEvents id events).flatMap (·.deliveries r.subscription)
  requests : (recoveryRequests id events).map (·.question) =
    ((recoveryEvents id events).filterMap (·.question?)).map (·.request r.subscription)

theorem recounted_nil : m.Recounted [] id r := ⟨nofun, rfl, rfl⟩

theorem recounted_run {log : List RecoveryEvent} {requests : List Request}
    (hf : ∀ e ∈ log, e.Fits r.subscription m)
    (hq : requests.map (·.question) =
      (log.filterMap (·.question?)).map (·.request r.subscription)) :
    m.Recounted (log.map (.recovers id r.subscription) ++ requests.map (.posts id) ++
      (log.flatMap (·.deliveries r.subscription)).map .hands) id r :=
  ⟨by rw [recoveryEvents_run]; exact hf, by rw [recoveryEvents_run, handedOut_run],
    by rw [recoveryEvents_run, recoveryRequests_run]; exact hq⟩

/-- A recovery that was in progress before a step has gone its way in it, and nothing else has
touched a cursor or taken a response. -/
structure Continues (m : SubscriptionManager) (events : List SequencerEvent)
    (m' : SubscriptionManager) (id : WorkId) (r₀ r : Recovery) : Prop where
  recovery : m.recovery? id = some r₀
  subscription : r.subscription = r₀.subscription
  received : r.received = r₀.received
  path : r₀.stage.point.Path r₀.received (recoveryEvents id events) r.stage.point
  recounted : m.Recounted events id r₀
  cursor : ∀ s, m'.registry.contains s = true → m'.cursors.find? s = m.cursors.find? s
  tasks : m'.running = true → ∃ new, m'.processing.tasks = m.processing.tasks ++ new

/-- A recovery that is in progress after a step has begun in it, or it goes on. -/
theorem Step.of_recovery? (h : m.Step events m') (ho : m.Orderly)
    (hr : m'.recovery? id = some r) :
    (∃ a n, .evaluates a (some (.gap n)) ∈ events ∧ id = m.nextWork) ∨
      ∃ r₀, m.Continues events m' id r₀ r := by
  have ho' := (h.orderly ho).of_recovery? hr
  cases h with
  | outside h =>
    rw [recovery?, h.recoveries] at hr
    refine .inr ⟨r, hr, rfl, rfl, .nil _, recounted_nil, fun s hs => ?_, fun hrun => ?_⟩
    · exact (h.cursor s).resolve_right fun hn => by rw [hn.1] at hs; cases hs
    · exact (h.tasks ho hrun).2
  | idles h =>
    refine .inr ⟨r, hr, rfl, rfl, .nil _, recounted_nil, fun s hs => rfl, fun _ => ⟨[], ?_⟩⟩
    rw [List.append_nil]
    exact (WorkQueue.turn_same h).1
  | drops h hv =>
    rw [show _ = _ from (ho.of_turn_run h).1] at ho'
    cases ho'
  | accepts h hv =>
    rw [accept_eq] at ho'
    rw [show _ = _ from (ho.of_turn_run h).1] at ho'
    cases ho'
  | gaps h hv =>
    rw [(beginRecovery_eq ..).2.2.2.2, show _ = _ from (ho.of_turn_run h).1, List.nil_append] at ho'
    injection ho' with ho'
    injection ho' with ho'
    exact .inl ⟨_, _, List.mem_singleton_self _, ho'.symm⟩
  | rests =>
    exact .inr ⟨r, hr, rfl, rfl, .nil _, recounted_nil, fun s hs => rfl,
      fun _ => ⟨[], (List.append_nil _).symm⟩⟩
  | @recovers id' r₀ log stage requests h hp hf hq =>
    obtain ⟨stats, hm⟩ := setRecovery_foldl_eq id' r₀.subscription log stage m
    rw [hm] at ho' ⊢
    rw [show _ = _ from setRecovery_recoveries (ho.of_recovery? h) stage] at ho'
    obtain ⟨rfl, rfl⟩ : id' = id ∧ { r₀ with stage } = r := by simpa using ho'
    refine .inr ⟨r₀, h, rfl, rfl, ?_, recounted_run hf hq, fun s hs => rfl,
      fun _ => ⟨[], (List.append_nil _).symm⟩⟩
    rw [recoveryEvents_run]
    exact hp
  | @ends id' r₀ log requests h hp hf hq =>
    have he : (log.foldl (RecoveryEvent.perform r₀.subscription) m).recoveries = [(id', r₀)] := by
      obtain ⟨stats, hm⟩ := foldl_perform_eq r₀.subscription log m
      rw [hm]
      exact ho.of_recovery? h
    rw [endRecovery_recoveries he] at ho'
    cases ho'

/-- The recovery `r` comes to its end in a step. -/
structure Finishes (m : SubscriptionManager) (events : List SequencerEvent) (m' : SubscriptionManager)
    (id : WorkId) (r : Recovery) : Prop where
  recovery : m.recovery? id = some r
  path : r.stage.point.Path r.received (recoveryEvents id events) .ended
  recounted : m.Recounted events id r
  /-- The queues go on, with what was pending, and what the recovery has delivered last. -/
  eq : ∃ stats, m' =
    { m with
      stats
      delivery := ((handedOut events).foldl (fun q d => q.submit d) m.delivery) }.endRecovery id r

theorem finishes_run {log : List RecoveryEvent} {requests : List Request}
    (hr : m.recovery? id = some r) (hp : r.stage.point.Path r.received log .ended)
    (hf : ∀ e ∈ log, e.Fits r.subscription m)
    (hq : requests.map (·.question) =
      (log.filterMap (·.question?)).map (·.request r.subscription)) :
    m.Finishes (log.map (.recovers id r.subscription) ++ requests.map (.posts id) ++
        (log.flatMap (·.deliveries r.subscription)).map .hands)
      ((log.foldl (RecoveryEvent.perform r.subscription) m).endRecovery id r) id r := by
  refine ⟨hr, by rw [recoveryEvents_run]; exact hp, recounted_run hf hq, ?_⟩
  obtain ⟨stats, hm⟩ := foldl_perform_eq r.subscription log m
  exact ⟨stats, by rw [hm, handedOut_run]⟩

/-- A recovery that is in progress before a step and not after it comes to its end in it. -/
theorem Step.finishes (h : m.Step events m') (ho : m.Orderly) (hr : m.recovery? id = some r)
    (hr' : m'.recovery? id = none) : m.Finishes events m' id r := by
  have he := ho.of_recovery? hr
  cases h with
  | outside h =>
    rw [recovery?, h.recoveries] at hr'
    cases hr.symm.trans hr'
  | idles h => cases hr.symm.trans hr'
  | drops h hv => cases he.symm.trans (ho.of_turn_run h).1
  | accepts h hv => cases he.symm.trans (ho.of_turn_run h).1
  | gaps h hv => cases he.symm.trans (ho.of_turn_run h).1
  | rests => cases hr.symm.trans hr'
  | @recovers id' r₀ log stage requests h hp hf hq =>
    have he' := ho.of_recovery? h
    obtain ⟨rfl, rfl⟩ : id = id' ∧ r = r₀ := by simpa using he.symm.trans he'
    obtain ⟨stats, hm⟩ := setRecovery_foldl_eq id r.subscription log stage m
    have hs : (m.setRecovery id stage).recovery? id = none := by
      rw [hm] at hr'
      exact hr'
    rw [recovery?, setRecovery_recoveries he, List.lookup_cons_self] at hs
    cases hs
  | @ends id' r₀ log requests h hp hf hq =>
    have he' := ho.of_recovery? h
    obtain ⟨rfl, rfl⟩ : id = id' ∧ r = r₀ := by simpa using he.symm.trans he'
    exact finishes_run h hp hf hq

end SubscriptionManager

namespace Client

open SubscriptionManager

/-- The next turn of the processing worker takes the response `a`, and finds out that messages are
missing after the message `x`, which is the last one consumed. -/
structure RevealsGap (c : Client) (a : PublishAnswer) (x : SequenceNumber) : Prop where
  turn : ∃ yields, c.managed.processing.turn.1 = .run a yields
  registers : c.Registers a.subscription
  cursor : c.managed.cursors.find? a.subscription = some x
  gap : SequenceNumber.evaluate (some x) a.message.sequenceNumber = .gap (SequenceNumber.next x)

/-- The client after the next turn of the processing worker. -/
def evaluateNext (c : Client) : Client := (c.act (.run .processing)).1

/-- In a run a recovery of the subscription `s` does what its log says: it alone puts something on
the delivery queue, and it sends the questions. -/
structure Told (c : Client) (bs : List Action) (id : WorkId) (s : SubscriptionId) : Prop where
  fits : ∀ p b, p ++ [b] <+: bs → ∀ e ∈ recoveryEvents id ((c.after p).events b),
    e.Fits s (c.after p).managed
  handed : handedOut (c.history bs) =
    (recoveryEvents id (c.history bs)).flatMap (·.deliveries s)
  requests : (recoveryRequests id (c.history bs)).map (·.question) =
    ((recoveryEvents id (c.history bs)).filterMap (·.question?)).map (·.request s)

/-- The recovery `r` is in progress after the run `bs`, which follows the turn that revealed the
gap. -/
structure Underway (c : Client) (bs : List Action) (id : WorkId) (a : PublishAnswer)
    (x : SequenceNumber) (r : Recovery) : Prop where
  subscription : r.subscription = a.subscription
  received : r.received = a.message.sequenceNumber
  path : RecoveryPoint.Path a.message.sequenceNumber (.asking (SequenceNumber.next x))
    (recoveryEvents id (c.history bs)) r.stage.point
  cursor : c.Throughout (Registers a.subscription) bs →
    (c.after bs).managed.cursors.find? a.subscription = some x
  head : (c.after bs).managed.running = true →
    ∃ rest, (c.after bs).managed.processing.tasks = a :: rest
  told : c.Told bs id a.subscription

variable {c : Client} {a : PublishAnswer} {x : SequenceNumber} {r : Recovery} {id : WorkId}

theorem told_nil (c : Client) (id : WorkId) (s : SubscriptionId) : c.Told [] id s :=
  ⟨fun p b hp => absurd (List.prefix_nil.1 hp) (by simp), rfl, rfl⟩

theorem Told.snoc {bs : List Action} {b : Action} (h : c.Told bs id r.subscription)
    (hr : (c.after bs).managed.Recounted ((c.after bs).events b) id r) :
    c.Told (bs ++ [b]) id r.subscription where
  fits p b' hp := by
    rcases List.prefix_concat_iff.1 hp with hp | hp
    · obtain ⟨rfl, hb'⟩ := List.append_inj' hp rfl
      cases hb'
      exact hr.fits
    · exact h.fits p b' hp
  handed := by
    rw [history_snoc, recoveryEvents_append, handedOut_append, List.flatMap_append, h.handed,
      hr.handed]
  requests := by
    rw [history_snoc, recoveryEvents_append, recoveryRequests_append, List.map_append,
      List.filterMap_append, List.map_append, h.requests, hr.requests]

/-- The turn that reveals the gap begins the recovery. -/
theorem RevealsGap.recoveries (h : c.Ready) (hg : c.RevealsGap a x) :
    c.evaluateNext.managed.recoveries =
      [(c.managed.nextWork, ⟨a.subscription, a.message.sequenceNumber,
        .republishing (SequenceNumber.next x) none⟩)] ∧
      c.evaluateNext.managed.nextWork = c.managed.nextWork + 1 ∧
      c.evaluateNext.managed.cursors = c.managed.cursors ∧
      ∃ rest, c.evaluateNext.managed.processing.tasks = a :: rest := by
  obtain ⟨yields, ht⟩ := hg.turn
  rcases e : c.managed.processing.turn with ⟨y, q⟩
  rw [e] at ht
  dsimp only at ht
  subst ht
  obtain ⟨hidle, -⟩ := h.orderly.of_turn_run e
  obtain ⟨-, -, hc, -⟩ := WorkQueue.turn_run e
  have hm : c.evaluateNext.managed =
      { c.managed with processing := q }.beginRecovery a (SequenceNumber.next x) := by
    rw [evaluateNext, managed_processTurn h.manager, processTurn, e]
    dsimp only
    rw [process, if_pos (show Table.contains _ _ = true from hg.registers)]
    dsimp only
    rw [hg.cursor, hg.gap]
  rw [hm]
  refine ⟨?_, rfl, rfl, _, WorkQueue.tasks_submitFirst (show q.pause.closed = false from hc) a⟩
  show c.managed.recoveries ++ _ = _
  rw [hidle, List.nil_append]

theorem RevealsGap.evaluates_mem (hg : c.RevealsGap a x) :
    .evaluates a (some (.gap (SequenceNumber.next x))) ∈ c.events (.run .processing) := by
  obtain ⟨yields, ht⟩ := hg.turn
  have hv : c.managed.verdict? a = some (.gap (SequenceNumber.next x)) := by
    rw [verdict?, if_pos (show Table.contains _ _ = true from hg.registers), hg.cursor, hg.gap]
  have he :
      .evaluates a (some (.gap (SequenceNumber.next x))) ∈ c.evaluated (.run .processing) := by
    unfold evaluated
    dsimp only
    rw [ht, ← hv]
    exact List.mem_singleton_self _
  exact List.mem_append_left _ (List.mem_append_left _ (List.mem_append_left _ he))

/-- As long as the recovery is in progress, it goes its way undisturbed. -/
theorem Ready.underway (h : c.Ready) (hg : c.RevealsGap a x) (bs : List Action)
    (hr : (c.evaluateNext.after bs).managed.recovery? c.managed.nextWork = some r) :
    c.evaluateNext.Underway bs c.managed.nextWork a x r := by
  obtain ⟨hrec, hw, hcur, htasks⟩ := hg.recoveries h
  have hr₁ : c.evaluateNext.Ready := h.act _
  induction bs using List.reverseRecOn generalizing r with
  | nil =>
    rw [after_nil, recovery?, hrec, List.lookup_cons_self] at hr
    cases hr
    refine ⟨rfl, rfl, .nil _, fun _ => ?_, fun _ => htasks, told_nil ..⟩
    rw [after_nil, hcur]
    exact hg.cursor
  | append_singleton bs b ih =>
    have hb := hr₁.after bs
    have hstep := (hb.step b).2.2
    rw [after_snoc] at hr
    have hid : c.managed.nextWork < (c.evaluateNext.after bs).managed.nextWork := by
      refine Nat.lt_of_lt_of_le ?_ (hr₁.nextWork_le bs)
      rw [hw]
      exact Nat.lt_succ_self _
    rcases hstep.of_recovery? hb.orderly hr with ⟨-, -, -, heq⟩ | ⟨r₀, hc⟩
    · exact absurd hid (heq ▸ Nat.lt_irrefl _)
    have hu := ih hc.recovery
    have hrec := hc.recounted
    have hpath := hc.path
    rw [hu.received] at hpath
    refine ⟨hc.subscription.trans hu.subscription, hc.received.trans hu.received, ?_, fun ht => ?_,
      fun hrun => ?_, ?_⟩
    · rw [history_snoc, recoveryEvents_append]
      exact hu.path.append hpath
    · rw [after_snoc, hc.cursor _ (by rw [← after_snoc]; exact ht.last)]
      exact hu.cursor (ht.mono (List.prefix_append _ _))
    · rw [after_snoc] at hrun ⊢
      obtain ⟨rest, hrest⟩ := hu.head (hstep.running hb.orderly hrun)
      obtain ⟨new, hnew⟩ := hc.tasks hrun
      exact ⟨rest ++ new, by rw [hnew, hrest, List.cons_append]⟩
    · have ht := hu.told
      rw [← hu.subscription] at ht ⊢
      exact ht.snoc hrec

theorem Underway.told_finished {bs : List Action} {b : Action} {m' : SubscriptionManager}
    (hu : c.Underway bs id a x r)
    (hf : (c.after bs).managed.Finishes ((c.after bs).events b) m' id r) :
    c.Told (bs ++ [b]) id a.subscription := by
  have ht := hu.told
  rw [← hu.subscription] at ht ⊢
  exact ht.snoc hf.recounted

theorem mem_recoveryEvents_append {as : List Action} {e : RecoveryEvent}
    (h : e ∈ recoveryEvents id (c.history as)) (bs : List Action) :
    e ∈ recoveryEvents id (c.history (as ++ bs)) := by
  rw [history_append, recoveryEvents_append]
  exact List.mem_append_left _ h

theorem mem_recoveryEvents_history {as : List Action} {e : RecoveryEvent}
    (h : e ∈ recoveryEvents id (c.history as)) :
    ∃ p b, p ++ [b] <+: as ∧ e ∈ recoveryEvents id ((c.after p).events b) := by
  induction as using List.reverseRecOn with
  | nil => cases h
  | append_singleton as b ih =>
    rw [history_snoc, recoveryEvents_append] at h
    rcases List.mem_append.1 h with h | h
    · obtain ⟨p, b', hp, he⟩ := ih h
      exact ⟨p, b', hp.trans (List.prefix_append _ _), he⟩
    · exact ⟨as, b, List.prefix_refl _, h⟩

theorem prefix_of_snoc {α : Type} {p as : List α} {a b : α} (h : p ++ [b] <+: as ++ [a]) :
    p <+: as := by
  rcases List.prefix_concat_iff.1 h with h | h
  · exact (List.append_inj' h rfl).1 ▸ List.prefix_refl _
  · exact (List.prefix_append _ _).trans h

/-- While the manager runs, a recovery that ends has followed a script. It reads the targets that
the items have had in the course of it. -/
theorem Underway.exists_script {bs : List Action} {b : Action} {m' : SubscriptionManager}
    (hu : c.Underway bs id a x r) (hn : a.message.sequenceNumber ≠ 0)
    (hf : (c.after bs).managed.Finishes ((c.after bs).events b) m' id r)
    (hrun : (c.after bs).managed.running = true) :
    ∃ script : RecoveryScript, recoveryEvents id (c.history (bs ++ [b])) = script.log ∧
      script.Recovers (SequenceNumber.next x)
        (SequenceNumber.distance (SequenceNumber.next x) a.message.sequenceNumber) ∧
      ∀ f, script.fallback = some f → ∀ r ∈ f.reads,
        ∃ p, p <+: bs ∧ r.target = (c.after p).managed.target r.item := by
  have hx := SequenceNumber.next_ne_zero x
  have hpath := hf.path
  rw [hu.received] at hpath
  have hall := hu.path.append hpath
  rw [← recoveryEvents_append, ← history_snoc] at hall
  refine hall.exists_script (T := fun k t => ∃ p, p <+: bs ∧ t = (c.after p).managed.target k)
    (fun k => ⟨_, [], List.nil_prefix, rfl⟩) (fun k t hmem => ?_) ?_
    (SequenceNumber.iterate_next_distance hn hx) fun i hi he => ?_
  · obtain ⟨p, b', hp, he⟩ := mem_recoveryEvents_history hmem
    exact ⟨p, prefix_of_snoc hp, (hu.told_finished hf).fits p b' hp _ he⟩
  · rw [history_snoc, recoveryEvents_append]
    intro hmem
    rcases List.mem_append.1 hmem with hmem | hmem
    · exact hu.path.stops_not_mem r.stage.point_ne_ended hmem
    · have hs : (c.after bs).managed.running = false := hf.recounted.fits _ hmem
      rw [hs] at hrun
      cases hrun
  · -- No step before the last one leads to the message that was received.
    have hlt := SequenceNumber.distance_lt (SequenceNumber.next x) a.message.sequenceNumber
    have := SequenceNumber.distance_eq_of_iterate hx (Nat.lt_trans hi hlt)
    rw [he] at this
    omega

/-- In a run the response `a` has revealed a gap after the message `x`, and the recovery `id` has
begun. -/
def Begun (c : Client) (as : List Action) (id : WorkId) (a : PublishAnswer) (x : SequenceNumber) :
    Prop :=
  ∃ p bs, as = p ++ .run .processing :: bs ∧ (c.after p).RevealsGap a x ∧
    id = (c.after p).managed.nextWork

theorem Begun.append {as : List Action} (h : c.Begun as id a x) (bs : List Action) :
    c.Begun (as ++ bs) id a x := by
  obtain ⟨p, qs, rfl, hg⟩ := h
  exact ⟨p, qs ++ bs, by rw [List.append_assoc, List.cons_append], hg⟩

/-- Every recovery in progress has begun with a gap. -/
theorem Ready.begun {as : List Action} (h : c.Ready) (he : c.managed.recoveries = [])
    (hr : (c.after as).managed.recovery? id = some r) : ∃ a x, c.Begun as id a x := by
  induction as using List.reverseRecOn generalizing r with
  | nil =>
    rw [after_nil, recovery?, he] at hr
    cases hr
  | append_singleton as b ih =>
    have hb := h.after as
    have hstep := (hb.step b).2.2
    rw [after_snoc] at hr
    rcases hstep.of_recovery? hb.orderly hr with ⟨a, n, hev, hid⟩ | ⟨r₀, hc⟩
    · obtain ⟨rfl, ht, hv⟩ := of_evaluates_mem hev
      obtain ⟨hs, hgap⟩ := verdict?_eq_some hv.symm
      obtain ⟨x, hx, rfl⟩ := SequenceNumber.evaluate_eq_gap hgap
      exact ⟨a, x, as, [], rfl, ⟨ht, hs, hx, hx ▸ hgap⟩, hid⟩
    · obtain ⟨a, x, hbegun⟩ := ih hc.recovery
      exact ⟨a, x, hbegun.append [b]⟩

end Client

end OpcUa
