import OpcUa.Proofs.ManagerStep
import OpcUa.Proofs.QueueStep
import OpcUa.Proofs.RecoveryLog

/-!
# The sequencing of messages, step by step

What can be seen of the sequencing in a run, and the steps of the manager that it consists of.

* `Client.events`, `Client.history`: the responses that are evaluated, what is put on the delivery
  queue, what recoveries do and the requests that they send.
* `SubscriptionManager.Step`: everything that an action may do to the manager, and its events.
* `SubscriptionManager.Orderly`: at most one recovery is in progress; it holds both queues, with the
  response that revealed the gap at the head of the first one.
* `Client.Ready.step`, `Client.Ready.act`: every action is such a step, and keeps the manager
  orderly.
-/

namespace OpcUa

inductive SequencerEvent where
  /-- A response is taken from the processing queue. There is no verdict on its message if the
  subscription is not registered. -/
  | evaluates (a : PublishAnswer) (verdict : Option SequenceNumber.Verdict)
  /-- Something is put on the delivery queue. -/
  | hands (d : Delivery)
  | recovers (id : WorkId) (s : SubscriptionId) (e : RecoveryEvent)
  /-- A recovery sends a request. -/
  | posts (id : WorkId) (r : Request)

/-- The response that is evaluated, if one is. -/
def SequencerEvent.answer? : SequencerEvent → Option PublishAnswer
  | evaluates a _ => some a
  | _ => none

namespace SubscriptionManager

/-- The verdict on a response. -/
def verdict? (m : SubscriptionManager) (a : PublishAnswer) : Option SequenceNumber.Verdict :=
  if m.registry.contains a.subscription then
    some (SequenceNumber.evaluate (m.cursors.find? a.subscription) a.message.sequenceNumber)
  else none

theorem verdict?_eq_some {m : SubscriptionManager} {a : PublishAnswer}
    {v : SequenceNumber.Verdict} (h : m.verdict? a = some v) :
    m.registry.contains a.subscription = true ∧
      SequenceNumber.evaluate (m.cursors.find? a.subscription) a.message.sequenceNumber = v := by
  unfold verdict? at h
  split at h
  · rename_i hr
    exact ⟨hr, Option.some.inj h⟩
  · cases h

end SubscriptionManager

/-! ## Histories -/

namespace Client

/-- The response that an action takes from the processing queue, with the verdict on it. -/
def evaluated (a : Action) (c : Client) : List SequencerEvent :=
  match a with
  | .run .processing =>
    match c.managed.processing.turn.1 with
    | .run answer _ => [.evaluates answer (c.managed.verdict? answer)]
    | _ => []
  | _ => []

/-- What an action puts on the delivery queue. Only its worker takes anything away, as long as the
queue is open. -/
def handed (a : Action) (c : Client) : List Delivery :=
  match a with
  | .run .delivery => []
  | a => (c.act a).1.managed.delivery.tasks.drop c.managed.delivery.tasks.length

/-- What a recovery does in an action. -/
def recovered (a : Action) (c : Client) : List SequencerEvent :=
  match a with
  | .run (.recovery id) =>
    match c.managed.recovery? id with
    | some r => (c.recoveryLog id).map (.recovers id r.subscription)
    | none => []
  | _ => []

/-- The request that a recovery sends in an action. -/
def posted (a : Action) (c : Client) : List SequencerEvent :=
  match a with
  | .run (.recovery id) => (c.act a).2.toList.map fun p => .posts id p.request
  | _ => []

def events (a : Action) (c : Client) : List SequencerEvent :=
  c.evaluated a ++ c.recovered a ++ c.posted a ++ (c.handed a).map .hands

/-- The events of a run. -/
def history : List Action → Client → List SequencerEvent
  | [], _ => []
  | a :: as, c => c.events a ++ history as (c.act a).1

@[simp] theorem history_nil (c : Client) : c.history [] = [] := rfl

theorem history_append (as bs : List Action) (c : Client) :
    c.history (as ++ bs) = c.history as ++ (c.after as).history bs := by
  induction as generalizing c with
  | nil => rfl
  | cons a as ih => rw [List.cons_append, history, history, ih, List.append_assoc, after_cons]

theorem history_snoc (as : List Action) (a : Action) (c : Client) :
    c.history (as ++ [a]) = c.history as ++ (c.after as).events a := by
  rw [history_append, history, history_nil, List.append_nil]

/-- What has happened in a run has happened in one of its actions. -/
theorem mem_history {as : List Action} {c : Client} {e : SequencerEvent} (h : e ∈ c.history as) :
    ∃ p b, p ++ [b] <+: as ∧ e ∈ (c.after p).events b := by
  induction as generalizing c with
  | nil => cases h
  | cons a as ih =>
    rcases List.mem_append.1 h with h | h
    · exact ⟨[], a, ⟨as, rfl⟩, h⟩
    · obtain ⟨p, b, hp, he⟩ := ih h
      exact ⟨a :: p, b, List.cons_prefix_cons.2 ⟨rfl, hp⟩, he⟩

/-- Only a turn of the processing worker evaluates a response: the one that it takes. -/
theorem of_evaluates_mem {a : PublishAnswer} {v : Option SequenceNumber.Verdict} {b : Action}
    {c : Client} (h : .evaluates a v ∈ c.events b) :
    b = .run .processing ∧ (∃ yields, c.managed.processing.turn.1 = .run a yields) ∧
      v = c.managed.verdict? a := by
  have he : .evaluates a v ∈ c.evaluated b := by
    unfold events at h
    rcases List.mem_append.1 h with h | h
    · rcases List.mem_append.1 h with h | h
      · rcases List.mem_append.1 h with h | h
        · exact h
        · unfold recovered at h
          split at h
          · split at h
            · obtain ⟨e, -, he⟩ := List.mem_map.1 h
              cases he
            · cases h
          · cases h
      · unfold posted at h
        split at h
        · obtain ⟨p, -, hp⟩ := List.mem_map.1 h
          cases hp
        · cases h
    · obtain ⟨d, -, hd⟩ := List.mem_map.1 h
      cases hd
  unfold evaluated at he
  split at he
  · split at he
    · rename_i a' yields ht
      cases List.mem_singleton.1 he
      exact ⟨rfl, ⟨yields, ht⟩, rfl⟩
    · cases he
  · cases he

end Client

/-! ## Steps -/

namespace SubscriptionManager

/-- Everything that an action may do to the manager, and its events. -/
inductive Step (m : SubscriptionManager) : List SequencerEvent → SubscriptionManager → Prop
  | outside {m' : SubscriptionManager} : m.Outside m' → Step m [] m'
  /-- The processing worker finds nothing to do. -/
  | idles : (∀ a yields, m.processing.turn.1 ≠ .run a yields) →
    Step m [] { m with processing := m.processing.turn.2 }
  | drops {a : PublishAnswer} {yields : Bool} {q : WorkQueue PublishAnswer} :
    m.processing.turn = (.run a yields, q) → m.verdict? a = none →
    Step m [.evaluates a none] { m with processing := q }
  | accepts {a : PublishAnswer} {yields : Bool} {q : WorkQueue PublishAnswer} :
    m.processing.turn = (.run a yields, q) → m.verdict? a = some .accept →
    Step m [.evaluates a (some .accept), .hands (.message a.subscription a.message)]
      ({ m with processing := q }.accept a)
  | gaps {a : PublishAnswer} {yields : Bool} {q : WorkQueue PublishAnswer} {n : SequenceNumber} :
    m.processing.turn = (.run a yields, q) → m.verdict? a = some (.gap n) →
    Step m [.evaluates a (some (.gap n))] ({ m with processing := q }.beginRecovery a n)
  /-- A recovery that is over is run once more. -/
  | rests : Step m [] m
  /-- A recovery runs, and waits again. -/
  | recovers {id : WorkId} {r : Recovery} {log : List RecoveryEvent} {stage : RecoveryStage}
    {requests : List Request} : m.recovery? id = some r →
    r.stage.point.Path r.received log stage.point → (∀ e ∈ log, e.Fits r.subscription m) →
    requests.map (·.question) = (log.filterMap (·.question?)).map (·.request r.subscription) →
    Step m (log.map (.recovers id r.subscription) ++ requests.map (.posts id) ++
        (log.flatMap (·.deliveries r.subscription)).map .hands)
      ((log.foldl (RecoveryEvent.perform r.subscription) m).setRecovery id stage)
  /-- A recovery runs to its end. -/
  | ends {id : WorkId} {r : Recovery} {log : List RecoveryEvent} {requests : List Request} :
    m.recovery? id = some r →
    r.stage.point.Path r.received log .ended → (∀ e ∈ log, e.Fits r.subscription m) →
    requests.map (·.question) = (log.filterMap (·.question?)).map (·.request r.subscription) →
    Step m (log.map (.recovers id r.subscription) ++ requests.map (.posts id) ++
        (log.flatMap (·.deliveries r.subscription)).map .hands)
      ((log.foldl (RecoveryEvent.perform r.subscription) m).endRecovery id r)

/-! ## Order -/

/-- The queues while the recoveries `l` are in progress. -/
def Shape (m : SubscriptionManager) : List (WorkId × Recovery) → Prop
  | [] => m.processing.paused = false ∧ m.delivery.paused = false
  | [(id, r)] => id < m.nextWork ∧ m.processing.paused = true ∧ m.delivery.paused = true ∧
    (m.running = true → ∃ a rest, m.processing.tasks = a :: rest ∧
      a.subscription = r.subscription ∧ a.message.sequenceNumber = r.received)
  | _ => False

/-- What holds whenever no task runs. -/
structure Orderly (m : SubscriptionManager) : Prop where
  closed : m.processing.closed = !m.running
  dropped : m.running = false → m.processing.tasks = []
  sound : m.processing.Sound
  delivers : m.delivery.closed = true → m.running = false ∧ m.recoveries = []
  shape : m.Shape m.recoveries

theorem orderly_fresh (config : ClientConfig) : (fresh config).Orderly :=
  ⟨rfl, nofun, nofun, nofun, rfl, rfl⟩

variable {m m' : SubscriptionManager} {events : List SequencerEvent}

/-- The shape stays as long as the flags do and responses are only put at the end. -/
theorem Shape.of_le {l : List (WorkId × Recovery)} (h : m.Shape l)
    (hw : m.nextWork ≤ m'.nextWork) (hp : m'.processing.paused = m.processing.paused)
    (hd : m'.delivery.paused = m.delivery.paused)
    (hr : m'.running = true → m.running = true ∧
      ∃ new, m'.processing.tasks = m.processing.tasks ++ new) : m'.Shape l := by
  match l, h with
  | [], ⟨h1, h2⟩ => exact ⟨hp.trans h1, hd.trans h2⟩
  | [(id, r)], ⟨h0, h1, h2, h3⟩ =>
    refine ⟨Nat.lt_of_lt_of_le h0 hw, hp.trans h1, hd.trans h2, fun h => ?_⟩
    obtain ⟨hm, new, hnew⟩ := hr h
    obtain ⟨a, rest, ht, ha⟩ := h3 hm
    exact ⟨a, rest ++ new, by rw [hnew, ht, List.cons_append], ha⟩

theorem Quiet.orderly (h : m.Quiet m') (ho : m.Orderly) : m'.Orderly where
  closed := by rw [h.processing, h.running, ho.closed]
  dropped := by rw [h.processing, h.running]; exact ho.dropped
  sound := by rw [h.processing]; exact ho.sound
  delivers := by rw [h.delivery, h.running, h.recoveries]; exact ho.delivers
  shape := by
    rw [h.recoveries]
    refine ho.shape.of_le h.nextWork (by rw [h.processing]) (by rw [h.delivery]) fun hr => ?_
    exact ⟨h.running ▸ hr, [], by rw [h.processing, List.append_nil]⟩

theorem orderly_shutDown (ho : m.Orderly) : m.shutDown.Orderly := by
  unfold shutDown
  split
  · refine ⟨WorkQueue.closed_close _, fun _ => WorkQueue.tasks_close _, WorkQueue.sound_close _,
      ?_, ?_⟩
    · exact fun h => ⟨rfl, (ho.delivers h).2⟩
    · exact ho.shape.of_le (Nat.le_refl _) (WorkQueue.paused_close _) rfl nofun
  · exact ho

theorem running_shutDown (m : SubscriptionManager) : m.shutDown.running = false := by
  unfold shutDown
  split
  · rfl
  · rename_i h
    exact Bool.eq_false_iff.2 h

theorem orderly_abandon (ho : m.Orderly) : m.abandon.Orderly := by
  have hs := orderly_shutDown ho
  have hr := running_shutDown m
  unfold abandon
  dsimp only
  split
  · exact hs
  · rename_i h
    have he : m.shutDown.recoveries = [] := by
      simp only [isBusy, Bool.or_eq_true, Bool.not_eq_true', Bool.and_eq_false_iff, not_or,
        Bool.not_eq_false] at h
      exact List.isEmpty_iff.1 h.1.2
    refine ⟨hs.closed, hs.dropped, hs.sound, fun _ => ⟨hr, he⟩, ?_⟩
    exact hs.shape.of_le (Nat.le_refl _) rfl (WorkQueue.paused_close _) fun h =>
      ⟨h, [], (List.append_nil _).symm⟩

theorem Outside.orderly (h : m.Outside m') (ho : m.Orderly) : m'.Orderly := by
  cases h with
  | quiet h => exact h.orderly ho
  | answered a h =>
    refine h.orderly ⟨by rw [WorkQueue.closed_submit]; exact ho.closed, fun hr => ?_,
      ho.sound.submitAt .last a, ho.delivers, ?_⟩
    · have hc : m.processing.closed = true := by rw [ho.closed, show m.running = false from hr]; rfl
      rw [show _ = m.processing from WorkQueue.submit_closed hc a]
      exact ho.dropped hr
    · refine ho.shape.of_le (Nat.le_refl _) (WorkQueue.paused_submit ..) rfl fun hr => ?_
      have hc : m.processing.closed = false := by rw [ho.closed, show m.running = true from hr]; rfl
      exact ⟨hr, [a], WorkQueue.tasks_submit hc a⟩
  | created id k h =>
    refine h.orderly ⟨ho.closed, ho.dropped, ho.sound, ho.delivers, ?_⟩
    exact ho.shape.of_le (Nat.le_refl _) rfl rfl fun hr => ⟨hr, [], (List.append_nil _).symm⟩
  | deleted id h =>
    refine h.orderly ⟨ho.closed, ho.dropped, ho.sound, ho.delivers, ?_⟩
    exact ho.shape.of_le (Nat.le_refl _) rfl rfl fun hr => ⟨hr, [], (List.append_nil _).symm⟩
  | delivered h =>
    obtain ⟨hc, hp⟩ := WorkQueue.turn_flags m.delivery
    refine h.orderly ⟨ho.closed, ho.dropped, ho.sound, fun h => ho.delivers (hc ▸ h), ?_⟩
    exact ho.shape.of_le (Nat.le_refl _) rfl hp fun hr => ⟨hr, [], (List.append_nil _).symm⟩
  | stopped => exact orderly_shutDown ho
  | abandoned => exact orderly_abandon ho

/-- A response is only taken while no recovery is in progress. -/
theorem Orderly.of_turn_run {a : PublishAnswer} {yields : Bool} {q : WorkQueue PublishAnswer}
    (ho : m.Orderly) (h : m.processing.turn = (.run a yields, q)) :
    m.recoveries = [] ∧ m.running = true ∧ m.delivery.closed = false := by
  obtain ⟨hc, hp, -⟩ := WorkQueue.turn_run h
  have hr : m.running = true := by
    have := ho.closed
    rw [hc] at this
    simpa using this
  refine ⟨?_, hr, ?_⟩
  · have hs := ho.shape
    match e : m.recoveries with
    | [] => rfl
    | [(id, r)] =>
      rw [e] at hs
      rw [hs.2.1] at hp
      cases hp
    | x :: y :: rest =>
      rw [e] at hs
      exact hs.elim
  · rw [Bool.eq_false_iff]
    intro hd
    rw [(ho.delivers hd).1] at hr
    cases hr

/-- A recovery that is in progress is the only one. -/
theorem Orderly.of_recovery? {id : WorkId} {r : Recovery} (ho : m.Orderly)
    (h : m.recovery? id = some r) : m.recoveries = [(id, r)] := by
  have hs := ho.shape
  unfold recovery? at h
  match e : m.recoveries with
  | [] =>
    rw [e] at h
    cases h
  | [(id', r')] =>
    rw [e, List.lookup_cons] at h
    split at h
    · rename_i hid
      cases h
      rw [beq_iff_eq.1 hid]
    · cases h
  | x :: y :: rest =>
    rw [e] at hs
    exact hs.elim

/-- The only recovery in progress is the one that is found. -/
theorem recovery?_eq_some_iff {id id' : WorkId} {r r' : Recovery} (h : m.recoveries = [(id, r)]) :
    m.recovery? id' = some r' ↔ id' = id ∧ r' = r := by
  rw [recovery?, h, List.lookup_cons]
  split
  · rename_i he
    rw [beq_iff_eq.1 he, Option.some_inj]
    exact ⟨fun hr => ⟨rfl, hr.symm⟩, fun hr => hr.2.symm⟩
  · rename_i he
    exact ⟨nofun, fun hr => absurd hr.1 (by simpa using he)⟩

/-- The events of a recovery change nothing but the delivery queue and the counters. -/
theorem foldl_perform_eq (s : SubscriptionId) (log : List RecoveryEvent) (m : SubscriptionManager) :
    ∃ stats, log.foldl (RecoveryEvent.perform s) m =
      { m with
        stats
        delivery := (log.flatMap (·.deliveries s)).foldl (fun q d => q.submit d) m.delivery } := by
  induction log generalizing m with
  | nil => exact ⟨_, rfl⟩
  | cons e log ih =>
    obtain ⟨stats, he⟩ := RecoveryEvent.perform_eq s m e
    obtain ⟨stats', hl⟩ := ih (e.perform s m)
    refine ⟨stats', ?_⟩
    rw [List.foldl_cons, hl, he, List.flatMap_cons, List.foldl_append]

theorem setRecovery_recoveries {id : WorkId} {r : Recovery} (h : m.recoveries = [(id, r)])
    (stage : RecoveryStage) : (m.setRecovery id stage).recoveries = [(id, { r with stage })] := by
  unfold setRecovery
  dsimp only
  rw [h, List.map_singleton, if_pos rfl]

theorem endRecovery_recoveries {id : WorkId} {r : Recovery} (h : m.recoveries = [(id, r)]) :
    (m.endRecovery id r).recoveries = [] := by
  have hf : m.recoveries.filter (·.1 != id) = [] := by rw [h]; simp
  unfold endRecovery
  dsimp only
  split <;> exact hf

/-- Apart from the cursor and the queues, the end of a recovery changes nothing. -/
theorem endRecovery_eq (id : WorkId) (r : Recovery) (m : SubscriptionManager) :
    m.endRecovery id r =
      { m with
        cursors := (m.endRecovery id r).cursors
        recoveries := (m.endRecovery id r).recoveries
        processing := m.processing.resume
        delivery := m.delivery.resume } := by
  unfold endRecovery
  dsimp only
  split <;> rfl

theorem accept_eq (a : PublishAnswer) (m : SubscriptionManager) :
    m.accept a =
      { m with
        cursors := (m.advanceCursor a.subscription (consumed a.message)).cursors
        acknowledgements := m.acknowledgements.addAll a.subscription a.available
        delivery := m.delivery.submit (.message a.subscription a.message) } := by
  unfold accept advanceCursor submitDelivery
  dsimp only
  split
  · rfl
  · split <;> rfl

/-- A running manager without a recovery is orderly if its queues are open and not paused. -/
theorem orderly_of_idle (hr : m.running = true) (he : m.recoveries = [])
    (hc : m.processing.closed = false) (hp : m.processing.paused = false)
    (hs : m.processing.Sound) (hdc : m.delivery.closed = false)
    (hdp : m.delivery.paused = false) : m.Orderly where
  closed := by rw [hc, hr]; rfl
  dropped h := by rw [hr] at h; cases h
  sound := hs
  delivers h := by rw [hdc] at h; cases h
  shape := by rw [he]; exact ⟨hp, hdp⟩

theorem Orderly.sound_of_turn (ho : m.Orderly) {t : WorkQueue.Turn PublishAnswer}
    {q : WorkQueue PublishAnswer} (h : m.processing.turn = (t, q)) : q.Sound := by
  have hs := ho.sound.turn
  rwa [h] at hs

theorem Step.orderly (h : m.Step events m') (ho : m.Orderly) : m'.Orderly := by
  cases h with
  | outside h => exact h.orderly ho
  | idles h =>
    obtain ⟨ht, hc, hp⟩ := WorkQueue.turn_same h
    refine ⟨hc.trans ho.closed, fun hr => ht.trans (ho.dropped hr), ho.sound.turn, ho.delivers, ?_⟩
    exact ho.shape.of_le (Nat.le_refl _) hp rfl fun hr => ⟨hr, [], by rw [List.append_nil]; exact ht⟩
  | drops h hv =>
    obtain ⟨he, hr, hd⟩ := ho.of_turn_run h
    obtain ⟨-, -, hc, hp, -⟩ := WorkQueue.turn_run h
    have hs := ho.shape
    rw [he] at hs
    exact orderly_of_idle hr he hc hp (ho.sound_of_turn h) hd hs.2
  | accepts h hv =>
    obtain ⟨he, hr, hd⟩ := ho.of_turn_run h
    obtain ⟨-, -, hc, hp, -⟩ := WorkQueue.turn_run h
    have hs := ho.shape
    rw [he] at hs
    rw [accept_eq]
    exact orderly_of_idle hr he hc hp (ho.sound_of_turn h)
      (by rw [WorkQueue.closed_submit]; exact hd) (by rw [WorkQueue.paused_submit]; exact hs.2)
  | gaps h hv =>
    obtain ⟨he, hr, hd⟩ := ho.of_turn_run h
    obtain ⟨-, -, hc, hp, -⟩ := WorkQueue.turn_run h
    have hs := ho.sound_of_turn h
    refine ⟨?_, fun h => ?_, WorkQueue.Sound.submitAt (by exact hs) .first _, fun h => ?_, ?_⟩
    · show (WorkQueue.submitFirst _ _).closed = !m.running
      rw [WorkQueue.closed_submitFirst, WorkQueue.closed_pause, hc, hr]
      rfl
    · rw [show m.running = false from h] at hr
      cases hr
    · rw [show m.delivery.closed = true from h] at hd
      cases hd
    · show Shape _ (m.recoveries ++ _)
      rw [he]
      refine ⟨Nat.lt_succ_self _, WorkQueue.paused_submitFirst .., rfl, fun _ => ?_⟩
      exact ⟨_, _, WorkQueue.tasks_submitFirst (show (WorkQueue.pause _).closed = false from hc) _,
        rfl, rfl⟩
  | rests => exact ho
  | recovers hr hp hf hq =>
    have he := ho.of_recovery? hr
    have hs := ho.shape
    rw [he] at hs
    obtain ⟨stats, hm⟩ := foldl_perform_eq _ _ m
    rw [hm]
    refine ⟨ho.closed, ho.dropped, ho.sound, fun h => ?_, ?_⟩
    · have hd := (ho.delivers (by rw [← h]; exact (WorkQueue.closed_foldl_submit ..).symm)).2
      rw [he] at hd
      cases hd
    · rw [setRecovery_recoveries (by exact he)]
      exact ⟨hs.1, hs.2.1, by rw [← hs.2.2.1]; exact WorkQueue.paused_foldl_submit .., hs.2.2.2⟩
  | ends hr hp hf hq =>
    have he := ho.of_recovery? hr
    obtain ⟨stats, hm⟩ := foldl_perform_eq _ _ m
    rw [hm, endRecovery_eq]
    refine ⟨?_, fun h => ?_, ho.sound.resume, fun h => ?_, ?_⟩
    · exact (WorkQueue.closed_resume _).trans ho.closed
    · exact (WorkQueue.tasks_resume _).trans (ho.dropped h)
    · have hd : m.delivery.closed = true := by
        rw [← h]
        exact ((WorkQueue.closed_resume _).trans (WorkQueue.closed_foldl_submit ..)).symm
      have hd := (ho.delivers hd).2
      rw [he] at hd
      cases hd
    · dsimp only
      rw [endRecovery_recoveries (by exact he)]
      exact ⟨WorkQueue.paused_resume _, WorkQueue.paused_resume _⟩

/-! ## What a step leaves alone -/

theorem shutDown_same (m : SubscriptionManager) :
    m.shutDown.recoveries = m.recoveries ∧ m.shutDown.nextWork = m.nextWork ∧
      m.shutDown.registry = m.registry ∧ m.shutDown.cursors = m.cursors ∧
      m.shutDown.acknowledgements = m.acknowledgements ∧ m.shutDown.attempts = m.attempts := by
  unfold shutDown
  split <;> exact ⟨rfl, rfl, rfl, rfl, rfl, rfl⟩

theorem abandon_same (m : SubscriptionManager) :
    m.abandon.recoveries = m.recoveries ∧ m.abandon.nextWork = m.nextWork ∧
      m.abandon.registry = m.registry ∧ m.abandon.cursors = m.cursors ∧
      m.abandon.acknowledgements = m.acknowledgements ∧ m.abandon.attempts = m.attempts := by
  have h := shutDown_same m
  unfold abandon
  dsimp only
  split <;> exact h

theorem running_abandon (m : SubscriptionManager) : m.abandon.running = false := by
  have h := running_shutDown m
  unfold abandon
  dsimp only
  split <;> exact h

theorem Outside.recoveries (h : m.Outside m') : m'.recoveries = m.recoveries := by
  cases h with
  | quiet h => exact h.recoveries
  | answered a h => exact h.recoveries
  | created id k h => exact h.recoveries
  | deleted id h => exact h.recoveries
  | delivered h => exact h.recoveries
  | stopped => exact (shutDown_same m).1
  | abandoned => exact (abandon_same m).1

theorem Outside.nextWork (h : m.Outside m') : m.nextWork ≤ m'.nextWork := by
  cases h with
  | quiet h => exact h.nextWork
  | answered a h => exact h.nextWork
  | created id k h => exact h.nextWork
  | deleted id h => exact h.nextWork
  | delivered h => exact h.nextWork
  | stopped => exact Nat.le_of_eq (shutDown_same m).2.1.symm
  | abandoned => exact Nat.le_of_eq (abandon_same m).2.1.symm

/-- From outside, a cursor only goes away with its subscription. -/
theorem Outside.cursor (h : m.Outside m') (s : SubscriptionId) :
    m'.cursors.find? s = m.cursors.find? s ∨
      m'.registry.contains s = false ∧ m'.cursors.find? s = none := by
  cases h with
  | quiet h => exact .inl (by rw [h.cursors])
  | answered a h => exact .inl (by rw [h.cursors])
  | created id k h => exact .inl (by rw [h.cursors])
  | deleted id h =>
    rw [h.cursors, h.registry, Table.contains, Table.find?_erase, Table.find?_erase]
    by_cases e : s = id
    · rw [if_pos e, if_pos e]
      exact .inr ⟨rfl, rfl⟩
    · rw [if_neg e]
      exact .inl rfl
  | delivered h => exact .inl (by rw [h.cursors])
  | stopped => exact .inl (by rw [(shutDown_same m).2.2.2.1])
  | abandoned => exact .inl (by rw [(abandon_same m).2.2.2.1])

/-- While the manager runs, responses are only put at the end of the processing queue. -/
theorem Outside.tasks (h : m.Outside m') (ho : m.Orderly) (hr : m'.running = true) :
    m.running = true ∧ ∃ new, m'.processing.tasks = m.processing.tasks ++ new := by
  cases h with
  | quiet h => exact ⟨h.running ▸ hr, [], by rw [h.processing, List.append_nil]⟩
  | answered a h =>
    have hm : m.running = true := h.running ▸ hr
    have hc : m.processing.closed = false := by rw [ho.closed, hm]; rfl
    exact ⟨hm, [a], by rw [h.processing]; exact WorkQueue.tasks_submit hc a⟩
  | created id k h => exact ⟨h.running ▸ hr, [], by rw [h.processing, List.append_nil]⟩
  | deleted id h => exact ⟨h.running ▸ hr, [], by rw [h.processing, List.append_nil]⟩
  | delivered h => exact ⟨h.running ▸ hr, [], by rw [h.processing, List.append_nil]⟩
  | stopped =>
    rw [running_shutDown] at hr
    cases hr
  | abandoned =>
    rw [running_abandon] at hr
    cases hr

theorem beginRecovery_eq (a : PublishAnswer) (n : SequenceNumber) (m : SubscriptionManager) :
    (m.beginRecovery a n).running = m.running ∧ (m.beginRecovery a n).registry = m.registry ∧
      (m.beginRecovery a n).cursors = m.cursors ∧
      (m.beginRecovery a n).nextWork = m.nextWork + 1 ∧
      (m.beginRecovery a n).recoveries = m.recoveries ++
        [(m.nextWork, ⟨a.subscription, a.message.sequenceNumber, .republishing n none⟩)] :=
  ⟨rfl, rfl, rfl, rfl, rfl⟩

/-- A run of a recovery that waits again changes nothing but its stage, the delivery queue and the
counters. -/
theorem setRecovery_foldl_eq (id : WorkId) (s : SubscriptionId) (log : List RecoveryEvent)
    (stage : RecoveryStage) (m : SubscriptionManager) :
    ∃ stats, (log.foldl (RecoveryEvent.perform s) m).setRecovery id stage =
      { m.setRecovery id stage with
        stats
        delivery := (log.flatMap (·.deliveries s)).foldl (fun q d => q.submit d) m.delivery } := by
  obtain ⟨stats, h⟩ := foldl_perform_eq s log m
  exact ⟨stats, by rw [h]; rfl⟩

theorem Step.nextWork (h : m.Step events m') : m.nextWork ≤ m'.nextWork := by
  cases h with
  | outside h => exact h.nextWork
  | idles | drops => exact Nat.le_refl _
  | accepts h hv =>
    refine Nat.le_of_eq ?_
    rw [accept_eq]
  | gaps h hv => exact Nat.le_succ _
  | rests => exact Nat.le_refl _
  | @recovers id r log stage requests hr hp hf hq =>
    obtain ⟨stats, h⟩ := setRecovery_foldl_eq id r.subscription log stage m
    rw [h]
    exact Nat.le_refl _
  | @ends id r log requests hr hp hf hq =>
    obtain ⟨stats, h⟩ := foldl_perform_eq r.subscription log m
    refine Nat.le_of_eq ?_
    rw [h, endRecovery_eq]

/-- A manager that was shut down does not run again. -/
theorem Step.running (h : m.Step events m') (ho : m.Orderly) (hr : m'.running = true) :
    m.running = true := by
  cases h with
  | outside h => exact (h.tasks ho hr).1
  | idles | drops => exact hr
  | accepts h hv => rwa [accept_eq] at hr
  | gaps h hv => exact hr
  | rests => exact hr
  | @recovers id r log stage requests h hp hf hq =>
    obtain ⟨stats, h⟩ := setRecovery_foldl_eq id r.subscription log stage m
    rwa [h] at hr
  | @ends id r log requests h hp hf hq =>
    obtain ⟨stats, h⟩ := foldl_perform_eq r.subscription log m
    rwa [h, endRecovery_eq] at hr

end SubscriptionManager

/-! ## Actions -/

namespace Client

open SubscriptionManager

/-- A client between two actions: it has an orderly manager, and no call is about to start it. -/
structure Ready (c : Client) : Prop where
  manager : c.manager = some c.managed
  settled : c.Settled
  orderly : c.managed.Orderly

theorem Begins.ready {c : Client} (h : c.Begins) : c.Ready := by
  have hm := managed_of_eq h.manager
  refine ⟨by rw [hm]; exact h.manager, h.settled, ?_⟩
  rw [hm]
  exact orderly_fresh _

variable {c : Client}

/-- A step from outside puts nothing on the delivery queue. -/
theorem drop_delivery_outside {m m' : SubscriptionManager} (h : m.Outside m') :
    m'.delivery.tasks.drop m.delivery.tasks.length = [] := by
  refine List.drop_eq_nil_of_le ?_
  cases h with
  | quiet h => exact Nat.le_of_eq (by rw [h.delivery])
  | answered a h => exact Nat.le_of_eq (by rw [h.delivery])
  | created id k h => exact Nat.le_of_eq (by rw [h.delivery])
  | deleted id h => exact Nat.le_of_eq (by rw [h.delivery])
  | delivered h =>
    rw [h.delivery]
    exact WorkQueue.length_turn _
  | stopped =>
    unfold shutDown
    split <;> exact Nat.le_refl _
  | abandoned =>
    have hs : m.shutDown.delivery = m.delivery := by
      unfold shutDown
      split <;> rfl
    unfold abandon
    dsimp only
    split
    · exact Nat.le_of_eq (by rw [hs])
    · rw [WorkQueue.tasks_close]
      exact Nat.zero_le _

theorem events_outside {a : Action} (ha : ¬ a.Sequences)
    (h : c.managed.Outside (c.act a).1.managed) : c.events a = [] := by
  have hd := drop_delivery_outside h
  cases a with
  | run t =>
    cases t with
    | processing => exact absurd trivial ha
    | recovery id => exact absurd trivial ha
    | delivery => rfl
    | driver | session | call | attempt => exact congrArg (List.map SequencerEvent.hands) hd
  | call | reclaim | release | reply | elapse | inject | invalidate | takeHandle | shutDown
  | listen | attach => exact congrArg (List.map SequencerEvent.hands) hd

theorem managed_processTurn {m : SubscriptionManager} (hm : c.manager = some m) :
    (c.act (.run .processing)).1.managed = m.processTurn.1 :=
  managed_of_eq (by rw [act, withManager, hm, Option.map_some])

/-- A turn of the processing worker. -/
theorem step_processTurn {m : SubscriptionManager} (hm : c.manager = some m) (ho : m.Orderly) :
    m.Step (c.events (.run .processing)) m.processTurn.1 := by
  have hc := managed_of_eq hm
  have ha := managed_processTurn hm
  have he : c.events (.run .processing) = c.evaluated (.run .processing) ++
      (m.processTurn.1.delivery.tasks.drop m.delivery.tasks.length).map .hands := by
    unfold events recovered posted handed
    dsimp only
    rw [List.append_nil, List.append_nil, ha, hc]
  rw [he, evaluated, hc]
  unfold processTurn
  rcases ht : m.processing.turn with ⟨x, q⟩
  cases x with
  | run a yields =>
    obtain ⟨-, -, hd⟩ := ho.of_turn_run ht
    dsimp only
    unfold process
    dsimp only
    split
    · rename_i hr
      split
      · rename_i hv
        have hverdict : m.verdict? a = some .accept := by rw [verdict?, if_pos hr, hv]
        have hd' : (({ m with processing := q }.accept a).delivery.tasks.drop
            m.delivery.tasks.length) = [.message a.subscription a.message] := by
          rw [accept_eq]
          dsimp only
          rw [WorkQueue.tasks_submit hd, List.drop_left]
        rw [hverdict, hd']
        exact .accepts ht hverdict
      · rename_i n hv
        have hverdict : m.verdict? a = some (.gap n) := by rw [verdict?, if_pos hr, hv]
        have hd' : (({ m with processing := q }.beginRecovery a n).delivery.tasks.drop
            m.delivery.tasks.length) = [] := List.drop_length
        rw [hverdict, hd']
        exact .gaps ht hverdict
    · rename_i hr
      have hverdict : m.verdict? a = none := by rw [verdict?, if_neg hr]
      rw [hverdict, List.drop_length]
      exact .drops ht hverdict
  | again | sleeps | stops =>
    dsimp only
    rw [List.drop_length]
    have hq : q = m.processing.turn.2 := by rw [ht]
    rw [hq]
    exact .idles (by rw [ht]; nofun)

/-- A run of a recovery. -/
theorem step_pollRecovery {m : SubscriptionManager} (hm : c.manager = some m) (ho : m.Orderly)
    (id : WorkId) : (c.pollRecovery id).1.calls = c.calls ∧
      ∃ m', (c.pollRecovery id).1.manager = some m' ∧
        m.Step (c.events (.run (.recovery id))) m' := by
  have hc := managed_of_eq hm
  have hev : ∀ {m'}, (c.pollRecovery id).1.manager = some m' →
      c.events (.run (.recovery id)) = c.recovered (.run (.recovery id)) ++
        ((c.pollRecovery id).2.toList.map (·.request)).map (.posts id) ++
        (m'.delivery.tasks.drop m.delivery.tasks.length).map .hands := by
    intro m' hm'
    have ha : (c.act (.run (.recovery id))).1.managed = m' := managed_of_eq hm'
    unfold events evaluated posted handed
    dsimp only
    rw [List.nil_append, ha, hc, List.map_map]
    rfl
  cases hr : m.recovery? id with
  | none =>
    have hp : c.pollRecovery id = (c, none) := by
      unfold pollRecovery
      rw [hm]
      dsimp only
      rw [hr]
    rw [hp] at hev ⊢
    refine ⟨rfl, m, hm, ?_⟩
    rw [hev hm, recovered, hc, hr, List.drop_length]
    exact .rests
  | some r =>
    have hs := recounts_pollRecovery hm hr
    have he := ho.of_recovery? hr
    obtain ⟨stats, hf⟩ := foldl_perform_eq r.subscription (c.recoveryLog id) m
    -- The delivery queue is open, so all that is put on it is there afterwards.
    have hopen : m.delivery.closed = false := by
      rw [Bool.eq_false_iff]
      intro hd
      rw [(ho.delivers hd).2] at he
      cases he
    have hd : (((c.recoveryLog id).flatMap (·.deliveries r.subscription)).foldl
        (fun q d => q.submit d) m.delivery).tasks.drop m.delivery.tasks.length =
          (c.recoveryLog id).flatMap (·.deliveries r.subscription) := by
      rw [WorkQueue.tasks_foldl_submit hopen, List.drop_left]
    have hrec : c.recovered (.run (.recovery id)) =
        (c.recoveryLog id).map (.recovers id r.subscription) := by
      rw [recovered, hc, hr]
    have hq : ((c.pollRecovery id).2.toList.map (·.request)).map (·.question) =
        ((c.recoveryLog id).filterMap (·.question?)).map (·.request r.subscription) := by
      rw [List.map_map]
      exact hs.posted
    rcases hs.course with ⟨stage, hp, hm'⟩ | ⟨hp, hm'⟩
    · refine ⟨hs.calls, _, hm', ?_⟩
      have hd' : ((((c.recoveryLog id).foldl (RecoveryEvent.perform r.subscription) m).setRecovery
          id stage).delivery.tasks.drop m.delivery.tasks.length) =
          (c.recoveryLog id).flatMap (·.deliveries r.subscription) := by
        rw [hf]
        exact hd
      rw [hev hm', hrec, hd']
      exact .recovers hr hp hs.fits hq
    · refine ⟨hs.calls, _, hm', ?_⟩
      have hd' : ((((c.recoveryLog id).foldl (RecoveryEvent.perform r.subscription) m).endRecovery
          id r).delivery.tasks.drop m.delivery.tasks.length) =
          (c.recoveryLog id).flatMap (·.deliveries r.subscription) := by
        rw [endRecovery_eq, hf]
        dsimp only
        rw [WorkQueue.tasks_resume, hd]
      rw [hev hm', hrec, hd']
      exact .ends hr hp hs.fits hq

/-- Every action is a step of the manager. -/
theorem Ready.step (h : c.Ready) (a : Action) :
    (c.act a).1.manager = some (c.act a).1.managed ∧ (c.act a).1.Settled ∧
      c.managed.Step (c.events a) (c.act a).1.managed := by
  by_cases ha : a.Sequences
  · cases a with
    | run t =>
      cases t with
      | processing =>
        have hm : (c.act (.run .processing)).1.manager = some c.managed.processTurn.1 := by
          show c.manager.map _ = _
          rw [h.manager, Option.map_some]
        rw [managed_of_eq hm]
        exact ⟨hm, h.settled, step_processTurn h.manager h.orderly⟩
      | recovery id =>
        obtain ⟨hcalls, m', hm', hs⟩ := step_pollRecovery h.manager h.orderly id
        have hm : (c.act (.run (.recovery id))).1.manager = some m' := hm'
        rw [managed_of_eq hm]
        refine ⟨hm, fun p hp => h.settled p ?_, hs⟩
        rw [← hcalls]
        exact hp
      | driver | delivery | session | call | attempt => exact ha.elim
    | call | reclaim | release | reply | elapse | inject | invalidate | takeHandle | shutDown
    | listen | attach => exact ha.elim
  · obtain ⟨hs, hm⟩ := act_outside h.settled ha
    obtain ⟨m', hm', ho⟩ := hm _ h.manager
    rw [managed_of_eq hm']
    refine ⟨hm', hs, ?_⟩
    rw [events_outside ha (by rw [managed_of_eq hm']; exact ho)]
    exact .outside ho

theorem Ready.act (h : c.Ready) (a : Action) : (c.act a).1.Ready :=
  ⟨(h.step a).1, (h.step a).2.1, (h.step a).2.2.orderly h.orderly⟩

theorem Ready.after (h : c.Ready) (as : List Action) : (c.after as).Ready := by
  induction as generalizing c with
  | nil => exact h
  | cons a as ih => exact ih (h.act a)

theorem Ready.nextWork_le (h : c.Ready) (as : List Action) :
    c.managed.nextWork ≤ (c.after as).managed.nextWork := by
  induction as generalizing c with
  | nil => exact Nat.le_refl _
  | cons a as ih => exact Nat.le_trans (h.step a).2.2.nextWork (ih (h.act a))

/-- A manager that runs after a run has done so all the time. -/
theorem Ready.running_of_after (h : c.Ready) {as : List Action}
    (hr : (c.after as).managed.running = true) : c.managed.running = true := by
  induction as generalizing c with
  | nil => exact hr
  | cons a as ih => exact (h.step a).2.2.running h.orderly (ih (h.act a) hr)

end Client

end OpcUa
