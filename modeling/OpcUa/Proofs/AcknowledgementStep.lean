import OpcUa.Proofs.Acknowledging
import OpcUa.Proofs.PublishPipeline

/-!
# What a step does to acknowledgements

An acknowledgement is put down when a response is accepted, and waits for the next Publish attempt,
which takes all that are waiting. When its subscription is deleted before, it is dropped.

* `SubscriptionManager.Leaves`, `SubscriptionManager.Flows`: what becomes of what is pending.
* `SubscriptionManager.Passes`: a step arms attempts, and gives them what is pending.
* `SubscriptionManager.Runs`: a step starts attempts, and lets their requests fail.
* `SubscriptionManager.Transfers`: both, with the counters.
* `Client.transfers_undergo`: every happening is such a step.
-/

namespace OpcUa

namespace SubscriptionManager

variable {m m₁ m' : SubscriptionManager} {old new : List (WorkId × Attempt)}
  {s f : List (WorkId × List Acknowledgement)} {id : WorkId} {a : Attempt}

/-- The attempts, each with the acknowledgements that it carries. -/
def lists (m : SubscriptionManager) : List (WorkId × List Acknowledgement) :=
  m.attempts.map fun x => (x.1, x.2.acknowledgements)

/-- The number of acknowledgements that attempts carry, all together. -/
def total (l : List (WorkId × List Acknowledgement)) : Nat := l.foldr (fun p n => p.2.length + n) 0

theorem total_append (l l' : List (WorkId × List Acknowledgement)) :
    total (l ++ l') = total l + total l' := by
  induction l with
  | nil => exact (Nat.zero_add _).symm
  | cons p l ih =>
    show p.2.length + total (l ++ l') = p.2.length + total l + total l'
    rw [ih, Nat.add_assoc]

/-! ## What happens to pending acknowledgements -/

/-- What is left of the acknowledgements that are pending when the registry `r` becomes `r'`: all of
them, or those of other subscriptions than one that is deleted. -/
inductive Leaves (r r' : Registry) (pending : Acknowledgements) : List Acknowledgement → Prop
  | all : (∀ id, r.contains id = true → r'.contains id = true) → Leaves r r' pending pending.pending
  | others (id : SubscriptionId) : r' = r.erase id →
    Leaves r r' pending (pending.discard id).pending

/-- What is pending is for messages of registered subscriptions. -/
def Founded (m : SubscriptionManager) : Prop :=
  ∀ x ∈ m.acknowledgements.pending, m.registry.contains x.subscription = true

/-- What is pending in `m` for messages of subscriptions that `m'` has. -/
def remaining (m m' : SubscriptionManager) : List Acknowledgement :=
  m.acknowledgements.pending.filter fun x => m'.registry.contains x.subscription

theorem mem_remaining {x : Acknowledgement} :
    x ∈ m.remaining m' ↔
      x ∈ m.acknowledgements.pending ∧ m'.registry.contains x.subscription = true :=
  List.mem_filter

/-- Only the acknowledgements of a subscription that is deleted are dropped. -/
theorem Leaves.eq_remaining {left : List Acknowledgement}
    (h : Leaves m.registry m'.registry m.acknowledgements left) (hm : m.Founded) :
    left = m.remaining m' := by
  cases h with
  | all h => exact (List.filter_eq_self.2 fun x hx => h _ (hm x hx)).symm
  | others id h =>
    refine List.filter_congr fun x hx => ?_
    have hx := hm x hx
    unfold Table.contains at hx ⊢
    rw [h, Table.find?_erase]
    by_cases hid : x.subscription = id
    · rw [if_pos hid, hid, bne_self_eq_false]
      rfl
    · rw [if_neg hid, hx]
      exact bne_iff_ne.2 hid

/-- What happens to the acknowledgements that are pending, if the response `taken` is accepted or
none is, and the attempts `new` are armed. -/
def Flows (m : SubscriptionManager) (taken : Option PublishAnswer) (new : List (WorkId × Attempt))
    (m' : SubscriptionManager) : Prop :=
  match taken with
  | none => ∃ left, Leaves m.registry m'.registry m.acknowledgements left ∧
    Drains left new m'.acknowledgements.pending
  | some a => new = [] ∧ m.Accepts m' a

/-- A step in which the response `taken` is accepted, or none is. Of the attempts there are `old`
afterwards, and the attempts `new` are armed. -/
structure Passes (m : SubscriptionManager) (taken : Option PublishAnswer)
    (old new : List (WorkId × Attempt)) (m' : SubscriptionManager) : Prop where
  attempts : m'.attempts = old ++ new
  armed : ∀ x ∈ new, x.2.stage = .armed
  numbers : new.map (·.1) = List.range' m.nextWork new.length
  nextWork : m.nextWork + new.length ≤ m'.nextWork
  flows : m.Flows taken new m'

/-- A step that arms no attempt and does nothing to the registry and to what is pending. -/
theorem passes_of_eq (hr : m'.registry = m.registry) (ha : m'.acknowledgements = m.acknowledgements)
    (hn : m.nextWork ≤ m'.nextWork) : m.Passes none m'.attempts [] m' where
  attempts := (List.append_nil _).symm
  armed := nofun
  numbers := rfl
  nextWork := hn
  flows := ⟨_, .all fun _ h => hr ▸ h, congrArg Acknowledgements.pending ha⟩

/-- The pipeline is filled after the subscriptions have changed. -/
theorem Fills.passes {left : List Acknowledgement} (h : m₁.Fills new m')
    (hn : m₁.nextWork = m.nextWork) (hl : Leaves m.registry m₁.registry m.acknowledgements left)
    (ha : m₁.acknowledgements.pending = left) : m.Passes none m₁.attempts new m' where
  attempts := h.attempts
  armed := h.armed
  numbers := hn ▸ h.numbers
  nextWork := Nat.le_of_eq (hn ▸ h.nextWork.symm)
  flows := ⟨left, h.registry ▸ hl, ha ▸ h.drains⟩

/-! ## Steps without attempts -/

/-- A step in which no attempt runs and no response is accepted. -/
def Bears (m m' : SubscriptionManager) : Prop :=
  ∃ new, m.Passes none m.attempts new m' ∧ m'.stats.publishes = m.stats.publishes

/-- A step that leaves the pipeline alone, and what is pending. -/
theorem Alike.bears (h : m.Alike m') (ha : m'.acknowledgements = m.acknowledgements) :
    m.Bears m' :=
  ⟨[], h.attempts ▸ passes_of_eq h.registry ha h.nextWork, h.publishes⟩

theorem Notes.bears (h : m.Notes m') : m.Bears m' := by
  refine h.alike.bears ?_
  obtain ⟨_, _, _, _, _, _, rfl, -⟩ := h
  rfl

/-- The pipeline is filled after the subscriptions have changed, and nothing else has happened to
it. -/
theorem bears_fillPipeline {left : List Acknowledgement}
    (hl : Leaves m.registry m₁.registry m.acknowledgements left)
    (ha : m₁.acknowledgements.pending = left) (hn : m₁.nextWork = m.nextWork)
    (hat : m₁.attempts = m.attempts) (hs : m₁.stats.publishes = m.stats.publishes) :
    m.Bears m₁.fillPipeline := by
  obtain ⟨new, h, -⟩ := fills_fillPipeline m₁
  exact ⟨new, hat ▸ h.passes hn hl ha, h.stats ▸ hs⟩

theorem Settles.bears (h : m.Settles m') : m.Bears m' := by
  cases h with
  | notes h => exact h.bears
  | created id k h =>
    obtain ⟨_, _, _, _, _, _, rfl, hs⟩ := h
    refine bears_fillPipeline (.all fun i hi => ?_) rfl rfl rfl hs
    unfold Table.contains at hi ⊢
    rw [Table.find?_insert]
    split
    · rfl
    · exact hi
  | modified h =>
    obtain ⟨_, _, _, _, _, _, rfl, hs⟩ := h
    exact bears_fillPipeline (.all fun _ hi => hi) rfl rfl rfl hs
  | deleted id h =>
    obtain ⟨_, _, _, _, _, _, rfl, hs⟩ := h
    exact bears_fillPipeline (.others id rfl) rfl rfl rfl hs

theorem bears_deliverTurn (m : SubscriptionManager) : m.Bears m.deliverTurn.1 := by
  refine (alike_deliverTurn m).bears ?_
  obtain ⟨_, _, _, _, _, _, h, -⟩ := notes_deliverTurn m
  rw [h]

theorem covers_bears : Covers Bears where
  refl m := (Alike.refl m).bears rfl
  begins op clock m := (notes_begin op clock m).bears
  finishes clock op outcome m := (settles_finish clock op outcome m).bears
  delivers := bears_deliverTurn
  stops m := (alike_shutDown m).bears (shutDown_same m).2.2.2.2.1
  abandons m := (alike_abandon m).bears (abandon_same m).2.2.2.2.1
  listens _ _ := (alike_of_eq rfl).bears rfl
  attaches _ _ _ := (alike_of_eq rfl).bears rfl

/-! ## Attempts that run -/

/-- The attempt `id` has ended, or its stage has come to be one of `p`. The others are as before. -/
def Becomes (m : SubscriptionManager) (id : WorkId) (a : Attempt) (p : AttemptStage → Bool)
    (old : List (WorkId × Attempt)) : Prop :=
  ∀ x ∈ old, x ∈ m.attempts ∧ x.1 ≠ id ∨ ∃ stage, p stage = true ∧ x = (id, { a with stage })

theorem becomes_dropAttempt (id : WorkId) (a : Attempt) (p : AttemptStage → Bool)
    (m : SubscriptionManager) : m.Becomes id a p (m.dropAttempt id).attempts := by
  intro x hx
  obtain ⟨hx, hid⟩ := List.mem_filter.1 hx
  exact .inl ⟨hx, bne_iff_ne.1 hid⟩

theorem Numbered.becomes_setAttempt {p : AttemptStage → Bool} {stage : AttemptStage}
    (hn : m.Numbered) (ha : m.attempt? id = some a) (hp : p stage = true) :
    m.Becomes id a p (m.setAttempt id stage).attempts := by
  obtain ⟨l₁, l₂, -, hset, hdrop⟩ := hn.split ha
  have hothers := becomes_dropAttempt id a p m
  rw [hdrop] at hothers
  rw [hset]
  intro x hx
  rcases List.mem_append.1 hx with hx | hx
  · exact hothers x (List.mem_append_left _ hx)
  · rcases List.mem_cons.1 hx with rfl | hx
    · exact .inr ⟨stage, hp, rfl⟩
    · exact hothers x (List.mem_append_right _ hx)

/-- The attempt with its list, if its request has ended with an error. -/
def failure (id : WorkId) (a : Attempt) :
    Option (Except Error PublishAnswer) → List (WorkId × List Acknowledgement)
  | some (.error _) => [(id, a.acknowledgements)]
  | some (.ok _) | none => []

/-- When the request of an attempt has ended, the attempt ends or waits for its backoff. -/
theorem passes_completeAttempt (hn : m.Numbered) (ha : m.attempt? id = some a)
    (outcome : Except Error PublishAnswer) (clock : Nat) :
    let m' := m.completeAttempt id a outcome clock
    (∃ old new, m.Passes none old new m' ∧ m.Becomes id a AttemptStage.isBackingOff old) ∧
      m'.stats.acknowledgementsSent = m.stats.acknowledgementsSent ∧
      m'.stats.acknowledgementsDropped = m.stats.acknowledgementsDropped +
        total (failure id a (some outcome)) := by
  have hdrop := becomes_dropAttempt id a AttemptStage.isBackingOff m
  -- Before the pipeline is filled only the free place, the counters and the queue differ.
  have hfill (inFlight : Nat) (stats : SubscriptionStats) (processing : WorkQueue PublishAnswer) :
      ∃ new, m.Passes none (m.dropAttempt id).attempts new
        (dropAttempt id { m with inFlight, stats, processing }).fillPipeline ∧
        (dropAttempt id { m with inFlight, stats, processing }).fillPipeline.stats = stats := by
    obtain ⟨new, h, -⟩ := fills_fillPipeline (dropAttempt id { m with inFlight, stats, processing })
    exact ⟨new, h.passes rfl (.all fun _ h => h) rfl, h.stats⟩
  cases outcome with
  | ok answer =>
    obtain ⟨new, hp, hs⟩ := hfill (m.inFlight - 1) m.stats.recordPublishResponse
      (m.processing.submit answer)
    exact ⟨⟨_, new, hp, hdrop⟩, (congrArg SubscriptionStats.acknowledgementsSent hs :),
      (congrArg SubscriptionStats.acknowledgementsDropped hs :)⟩
  | error e =>
    rcases completeAttempt_error id a e clock m with ⟨h, -⟩ | h | ⟨due, h⟩
    · rw [h]
      exact ⟨⟨_, [], passes_of_eq rfl rfl (Nat.le_refl _), hdrop⟩, rfl, rfl⟩
    · obtain ⟨new, hp, hs⟩ := hfill (m.inFlight - 1)
        (m.stats.recordPublishFailure a.acknowledgements.length) m.processing
      rw [h]
      exact ⟨⟨_, new, hp, hdrop⟩, (congrArg SubscriptionStats.acknowledgementsSent hs :),
        (congrArg SubscriptionStats.acknowledgementsDropped hs :)⟩
    · rw [h]
      refine ⟨⟨_, [], passes_of_eq rfl rfl (Nat.le_refl _), ?_⟩, rfl, rfl⟩
      exact hn.becomes_setAttempt ha rfl

/-- In a step the attempts `s` are started, and the requests of the attempts `f` fail. Apart from
those that are armed there are the attempts `old` afterwards. -/
structure Runs (m : SubscriptionManager) (s f : List (WorkId × List Acknowledgement))
    (old : List (WorkId × Attempt)) : Prop where
  lists : ∀ x ∈ old, (x.1, x.2.acknowledgements) ∈ m.lists
  waiting : ∀ x ∈ old, x.2.stage = .armed → x ∈ m.attempts ∧ x.1 ∉ s.map (·.1)
  underway : ∀ x ∈ old, x.2.stage.isStarted = true → x.1 ∉ f.map (·.1) ∧
    ((x.1, x.2.acknowledgements) ∈ s ∨ ∃ y ∈ m.attempts, y.2.stage.isStarted = true ∧
      (y.1, y.2.acknowledgements) = (x.1, x.2.acknowledgements))
  started : s = [] ∨ ∃ x ∈ m.attempts, x.2.stage = .armed ∧ s = [(x.1, x.2.acknowledgements)]
  failed : f = [] ∨ ∃ x ∈ m.attempts,
    f = [(x.1, x.2.acknowledgements)] ∧ (f = s ∨ x.2.stage.isStarted = true)

theorem mem_lists {x : WorkId × Attempt} (h : x ∈ m.attempts) :
    (x.1, x.2.acknowledgements) ∈ m.lists :=
  List.mem_map.2 ⟨x, h, rfl⟩

/-- No attempt runs. -/
theorem runs_rest (m : SubscriptionManager) : m.Runs [] [] m.attempts where
  lists _ := mem_lists
  waiting _ hx _ := ⟨hx, List.not_mem_nil⟩
  underway x hx hs := ⟨List.not_mem_nil, .inr ⟨x, hx, hs, rfl⟩⟩
  started := .inl rfl
  failed := .inl rfl

/-- The attempt `id` runs. -/
theorem Becomes.runs {p : AttemptStage → Bool} (h : m.Becomes id a p old)
    (ha : m.attempt? id = some a) (hp : p .armed = false)
    (hs : s = [] ∨ a.stage = .armed ∧ s = [(id, a.acknowledgements)])
    (hf : f = [] ∨ f = [(id, a.acknowledgements)] ∧ (f = s ∨ a.stage.isStarted = true))
    (hu : ∀ stage, p stage = true → stage.isStarted = true →
      f = [] ∧ (s = [(id, a.acknowledgements)] ∨ a.stage.isStarted = true)) : m.Runs s f old := by
  have hmem : (id, a) ∈ m.attempts := by
    obtain ⟨l₁, l₂, hl, -⟩ := List.lookup_eq_some_iff.1 ha
    exact hl ▸ List.mem_append_right _ List.mem_cons_self
  have hother {x : WorkId × Attempt} (hx : x.1 ≠ id) : x.1 ∉ s.map (·.1) ∧ x.1 ∉ f.map (·.1) := by
    constructor
    · rcases hs with rfl | ⟨-, rfl⟩
      · exact List.not_mem_nil
      · exact fun h => hx (List.mem_singleton.1 h)
    · rcases hf with rfl | ⟨rfl, -⟩
      · exact List.not_mem_nil
      · exact fun h => hx (List.mem_singleton.1 h)
  refine ⟨fun x hx => ?_, fun x hx harmed => ?_, fun x hx hstarted => ?_, ?_, ?_⟩
  · rcases h x hx with ⟨hx, -⟩ | ⟨stage, -, rfl⟩
    · exact mem_lists hx
    · exact mem_lists (x := (id, a)) hmem
  · rcases h x hx with ⟨hx, hid⟩ | ⟨stage, hstage, rfl⟩
    · exact ⟨hx, (hother hid).1⟩
    · rw [show stage = .armed from harmed, hp] at hstage
      cases hstage
  · rcases h x hx with ⟨hx, hid⟩ | ⟨stage, hstage, rfl⟩
    · exact ⟨(hother hid).2, .inr ⟨x, hx, hstarted, rfl⟩⟩
    · obtain ⟨rfl, rfl | hu⟩ := hu stage hstage hstarted
      · exact ⟨List.not_mem_nil, .inl List.mem_cons_self⟩
      · exact ⟨List.not_mem_nil, .inr ⟨_, hmem, hu, rfl⟩⟩
  · exact hs.imp_right fun hs => ⟨_, hmem, hs⟩
  · exact hf.imp_right fun hf => ⟨_, hmem, hf⟩

/-- What a step does to acknowledgements. -/
structure Transfers (m : SubscriptionManager) (taken : Option PublishAnswer)
    (s f : List (WorkId × List Acknowledgement)) (old new : List (WorkId × Attempt))
    (m' : SubscriptionManager) : Prop
    extends m.Passes taken old new m', m.Runs s f old where
  sent : m'.stats.acknowledgementsSent =
    m.stats.acknowledgementsSent + total s
  dropped : m'.stats.acknowledgementsDropped =
    m.stats.acknowledgementsDropped + total f

/-- A step in which no attempt runs and no response is accepted. -/
theorem Bears.transfers (h : m.Bears m') : ∃ old new, m.Transfers none [] [] old new m' := by
  obtain ⟨new, hp, hs⟩ := h
  simp only [SubscriptionStats.publishes, Prod.mk.injEq] at hs
  obtain ⟨-, -, -, hsent, hdropped⟩ := hs
  exact ⟨_, new, hp, runs_rest m, hsent, hdropped⟩

/-! ## Responses that are accepted -/

/-- The response that the next turn of the processing worker accepts, if it accepts one. -/
def accepted? (m : SubscriptionManager) : Option PublishAnswer :=
  match m.processing.turn.1 with
  | .run a _ =>
    match m.verdict? a with
    | some .accept => some a
    | some (.gap _) | none => none
  | .again | .sleeps | .stops => none

theorem process_of_accept {answer : PublishAnswer} (h : m.verdict? answer = some .accept) :
    m.process answer = m.accept answer := by
  obtain ⟨hr, hv⟩ := verdict?_eq_some h
  rw [process, if_pos hr, hv]

theorem acknowledgements_process {answer : PublishAnswer} (h : m.verdict? answer ≠ some .accept) :
    (m.process answer).acknowledgements = m.acknowledgements := by
  unfold process
  split
  · rename_i hr
    split
    · rename_i hv
      exact absurd (by rw [verdict?, if_pos hr, hv]) h
    · rfl
  · rfl

/-- A turn of the processing worker in which nothing is accepted. -/
theorem acknowledgements_processTurn (h : m.accepted? = none) :
    m.processTurn.1.acknowledgements = m.acknowledgements := by
  unfold accepted? at h
  unfold processTurn
  split
  · rename_i a yields q e
    rw [e] at h
    refine acknowledgements_process (m := { m with processing := q }) fun hv => ?_
    have hv : m.verdict? a = some .accept := hv
    dsimp only at h
    rw [hv] at h
    cases h
  all_goals rfl

theorem accepts_processTurn {answer : PublishAnswer} (h : m.accepted? = some answer) :
    m.Accepts m.processTurn.1 answer := by
  unfold accepted? at h
  unfold processTurn
  split
  · rename_i a yields q e
    rw [e] at h
    dsimp only at h
    split at h
    · rename_i hv
      obtain rfl := Option.some.inj h
      dsimp only
      rw [process_of_accept (m := { m with processing := q }) hv]
      exact accepts_accept (verdict?_eq_some hv).1 q
    · cases h
    · cases h
  all_goals
    rename_i e
    rw [e] at h
    cases h

theorem transfers_processTurn (m : SubscriptionManager) :
    ∃ old new, m.Transfers m.accepted? [] [] old new m.processTurn.1 := by
  have halike := alike_processTurn m
  cases h : m.accepted? with
  | none => exact (halike.bears (acknowledgements_processTurn h)).transfers
  | some a =>
    have hs := halike.publishes
    simp only [SubscriptionStats.publishes, Prod.mk.injEq] at hs
    obtain ⟨-, -, -, hsent, hdropped⟩ := hs
    refine ⟨m.attempts, [], ⟨?_, fun _ hx => absurd hx List.not_mem_nil, rfl, halike.nextWork, rfl,
      accepts_processTurn h⟩, runs_rest m, hsent, hdropped⟩
    rw [halike.attempts, List.append_nil]

/-! ## Requests -/

/-- What becomes of an attempt whose request ends with `outcome`, or does not end. -/
inductive Proceeds (m : SubscriptionManager) (id : WorkId) (a : Attempt) :
    Option (Except Error PublishAnswer) → SubscriptionManager → Prop
  | waits (phase : CallPhase) : Proceeds m id a none (m.setAttempt id (.publishing phase))
  | ends (outcome : Except Error PublishAnswer) (clock : Nat) :
    Proceeds m id a (some outcome) (m.completeAttempt id a outcome clock)

/-- The attempt `id` runs, and has been started before or is started now. -/
theorem Proceeds.transfers {stats : SubscriptionStats}
    {outcome : Option (Except Error PublishAnswer)} (h : Proceeds { m with stats } id a outcome m')
    (hn : m.Numbered) (ha : m.attempt? id = some a)
    (hs : s = [] ∧ a.stage.isStarted = true ∨ a.stage = .armed ∧ s = [(id, a.acknowledgements)])
    (hsent : stats.acknowledgementsSent =
      m.stats.acknowledgementsSent + total s)
    (hdropped : stats.acknowledgementsDropped = m.stats.acknowledgementsDropped) :
    ∃ old new, m.Transfers none s (failure id a outcome) old new m' := by
  have hstart : s = [(id, a.acknowledgements)] ∨ a.stage.isStarted = true :=
    hs.symm.imp And.right And.right
  cases h with
  | waits phase =>
    have hold : m.Becomes id a AttemptStage.isStarted
        (m.setAttempt id (.publishing phase)).attempts := hn.becomes_setAttempt ha rfl
    have hruns := hold.runs ha rfl (hs.imp_left And.left) (.inl rfl) fun _ _ _ => ⟨rfl, hstart⟩
    exact ⟨_, [], passes_of_eq rfl rfl (Nat.le_refl _), hruns, hsent, hdropped⟩
  | ends outcome clock =>
    obtain ⟨⟨old, new, hp, hold⟩, hsent', hdropped'⟩ :=
      passes_completeAttempt (m := { m with stats }) ⟨hn.nodup, hn.below⟩ ha outcome clock
    refine ⟨old, new, ⟨hp.attempts, hp.armed, hp.numbers, hp.nextWork, hp.flows⟩,
      Becomes.runs hold ha rfl (hs.imp_left And.left) ?_ ?_, hsent'.trans hsent,
      hdropped'.trans (congrArg (· + _) hdropped)⟩
    · cases outcome with
      | ok answer => exact .inl rfl
      | error e => exact .inr ⟨rfl, hstart.imp_left Eq.symm⟩
    · intro stage hback hstarted
      cases stage <;> simp_all [AttemptStage.isBackingOff, AttemptStage.isStarted]

/-- The backoff of the attempt is over. -/
theorem transfers_endBackoff (ha : m.attempt? id = some a) :
    ∃ old new, m.Transfers none [] [] old new (m.endBackoff id) := by
  obtain ⟨new, hf, -⟩ := fills_fillPipeline (m.dropAttempt id)
  have hold := becomes_dropAttempt id a AttemptStage.isBackingOff m
  refine ⟨_, new, hf.passes rfl (.all fun _ h => h) rfl, hold.runs ha rfl (.inl rfl) (.inl rfl) ?_,
    congrArg _ hf.stats, congrArg _ hf.stats⟩
  intro stage hback hstarted
  cases stage <;> simp_all [AttemptStage.isBackingOff, AttemptStage.isStarted]

end SubscriptionManager

/-- Whether an attempt runs that looks at its answer before it looks at the shutdown. -/
def Happening.answerFirst : Happening → Bool
  | .act (.run (.attempt _ answerFirst)) => answerFirst
  | _ => false

namespace Client

open SubscriptionManager

variable {c : Client} {h : Happening}

/-! ## What can be seen of a step -/

/-- The response that is accepted. -/
def accepted? (c : Client) : Happening → Option PublishAnswer
  | .act (.run .processing) => c.managed.accepted?
  | _ => none

/-- The attempt that runs. -/
def attempt? (c : Client) : Happening → Option (WorkId × Attempt)
  | .act (.run (.attempt id _)) => (c.managed.attempt? id).map (id, ·)
  | _ => none

/-- How a Publish request ends that has to wait. -/
def giveUp? (c : Client) : Option (Except Error PublishAnswer) :=
  if c.managed.running then none else some (.error (.subscription .managerShutdown))

/-- How the Publish request of an attempt ends if the attempt runs now. -/
def publishOutcome? (a : Attempt) (answerFirst : Bool) (c : Client) :
    Option (Except Error PublishAnswer) :=
  match a.stage with
  | .armed =>
    if c.managed.running || answerFirst then
      match (c.service.start a.call).2 with
      | .failed e => some (.error (.session e))
      | .pending .. => c.giveUp?
    else c.giveUp?
  | .publishing phase =>
    if c.managed.running || answerFirst then
      match (c.service.advance a.call phase).2 with
      | .done outcome => some outcome
      | .pending .. => c.giveUp?
    else c.giveUp?
  | .backingOff _ => none

/-- The attempt that is started, with its list. -/
def starting (c : Client) (h : Happening) : List (WorkId × List Acknowledgement) :=
  match c.attempt? h with
  | some (id, ⟨l, _, .armed⟩) => [(id, l)]
  | _ => []

/-- The attempt whose request fails, with its list. -/
def failing (c : Client) (h : Happening) : List (WorkId × List Acknowledgement) :=
  match c.attempt? h with
  | some (id, a) => failure id a (c.publishOutcome? a h.answerFirst)
  | none => []

/-! ## Steps -/

/-- An attempt that has to wait gives up if the manager is shut down. -/
theorem proceeds_suspendAttempt {m : SubscriptionManager} (hm : c.manager = some m) (id : WorkId)
    (a : Attempt) (phase : CallPhase) (posted : Option Posted) (n : SubscriptionManager) :
    ∃ m', (c.suspendAttempt id a phase posted n).1.manager = some m' ∧
      m.Proceeds id a
        (if n.running then none else some (.error (.subscription .managerShutdown))) m' := by
  unfold suspendAttempt
  split
  · exact ⟨_, manager_withManager hm _, .waits _⟩
  · exact ⟨_, manager_withManager (by exact hm) _, .ends _ _⟩

theorem proceeds_startAttempt {m : SubscriptionManager} (id : WorkId) {a : Attempt}
    (answerFirst : Bool) (hm : c.manager = some m) (hs : a.stage = .armed) :
    ∃ m', (c.startAttempt id a answerFirst m).1.manager = some m' ∧
      (m.startAttempt a).Proceeds id a (c.publishOutcome? a answerFirst) m' := by
  have h := manager_withManager hm (·.startAttempt a)
  unfold startAttempt publishOutcome? giveUp?
  rw [hs, managed_of_eq hm]
  dsimp only
  split
  · split
    · rename_i e he
      rw [show (c.service.start a.call).2 = .failed e from he]
      exact ⟨_, manager_withManager h _, .ends _ _⟩
    · rename_i phase posted he
      rw [show (c.service.start a.call).2 = .pending phase posted from he]
      exact proceeds_suspendAttempt (by exact h) ..
  · rename_i hlooks
    rw [if_neg fun hr => hlooks (by rw [hr, Bool.true_or])]
    exact ⟨_, manager_withManager h _, .ends _ _⟩

theorem proceeds_advanceAttempt {m : SubscriptionManager} (id : WorkId) {a : Attempt}
    {phase : CallPhase} (answerFirst : Bool) (hm : c.manager = some m)
    (hs : a.stage = .publishing phase) :
    ∃ m', (c.advanceAttempt id a phase answerFirst m).1.manager = some m' ∧
      m.Proceeds id a (c.publishOutcome? a answerFirst) m' := by
  unfold advanceAttempt publishOutcome? giveUp?
  rw [hs, managed_of_eq hm]
  dsimp only
  split
  · split
    · rename_i phase' posted he
      rw [he]
      exact proceeds_suspendAttempt (by exact hm) ..
    · rename_i outcome he
      rw [he]
      exact ⟨_, manager_withManager (by exact hm) _, .ends _ _⟩
  · rename_i hlooks
    rw [if_neg fun hr => hlooks (by rw [hr, Bool.true_or])]
    exact ⟨_, manager_withManager (by exact hm) _, .ends _ _⟩

/-- What an attempt does when it runs. -/
theorem transfers_pollAttempt {m : SubscriptionManager} (hm : c.manager = some m)
    (hn : m.Numbered) (id : WorkId) (answerFirst : Bool) :
    let h : Happening := .act (.run (.attempt id answerFirst))
    ∃ m' old new, (c.pollAttempt id answerFirst).1.manager = some m' ∧
      m.Transfers none (c.starting h) (c.failing h) old new m' := by
  have hrest : ∃ old new, m.Transfers none [] [] old new m := (covers_bears.refl m).transfers
  unfold pollAttempt starting failing attempt? Happening.answerFirst
  dsimp only
  rw [hm, managed_of_eq hm]
  dsimp only
  cases ha : m.attempt? id with
  | none =>
    obtain ⟨old, new, h⟩ := hrest
    exact ⟨m, old, new, hm, h⟩
  | some a =>
    dsimp only [Option.map_some]
    obtain ⟨l, hint, stage⟩ := a
    cases stage with
    | armed =>
      obtain ⟨m', hm', hp⟩ :=
        proceeds_startAttempt id (a := ⟨l, hint, .armed⟩) answerFirst hm rfl
      obtain ⟨old, new, h⟩ := hp.transfers hn ha (.inr ⟨rfl, rfl⟩) rfl rfl
      exact ⟨m', old, new, hm', h⟩
    | publishing phase =>
      obtain ⟨m', hm', hp⟩ :=
        proceeds_advanceAttempt id (a := ⟨l, hint, .publishing phase⟩) answerFirst hm rfl
      obtain ⟨old, new, h⟩ := hp.transfers hn ha (.inl ⟨rfl, rfl⟩) rfl rfl
      exact ⟨m', old, new, hm', h⟩
    | backingOff due =>
      dsimp only
      split
      · obtain ⟨old, new, h⟩ := transfers_endBackoff ha
        exact ⟨_, old, new, manager_withManager hm _, h⟩
      · obtain ⟨old, new, h⟩ := hrest
        exact ⟨m, old, new, hm, h⟩

/-- A recovery does nothing to acknowledgements. -/
theorem bears_pollRecovery {m : SubscriptionManager} (hm : c.manager = some m) (id : WorkId) :
    ∃ m', (c.pollRecovery id).1.manager = some m' ∧ m.Bears m' := by
  obtain ⟨m', hm', halike⟩ := (alike_pollRecovery id c).manager m hm
  refine ⟨m', hm', halike.bears ?_⟩
  cases hr : m.recovery? id with
  | none =>
    unfold pollRecovery at hm'
    rw [hm] at hm'
    dsimp only at hm'
    rw [hr] at hm'
    rw [Option.some.inj (hm'.symm.trans hm)]
  | some r =>
    rcases (recounts_pollRecovery hm hr).course with ⟨stage, -, h⟩ | ⟨-, h⟩
    · obtain ⟨stats, hlog⟩ := setRecovery_foldl_eq id r.subscription (c.recoveryLog id) stage m
      rw [Option.some.inj (hm'.symm.trans h), hlog]
      rfl
    · obtain ⟨stats, hlog⟩ := foldl_perform_eq r.subscription (c.recoveryLog id) m
      rw [Option.some.inj (hm'.symm.trans h), endRecovery_eq, hlog]

/-- What happens to the manager when no attempt runs and the processing worker takes no turn. -/
theorem bears_undergo {config : ClientConfig} (hc : c.Pumping config)
    (ha : ∀ id answerFirst, h ≠ .act (.run (.attempt id answerFirst)))
    (hp : h ≠ .act (.run .processing)) :
    c.managed.Bears (c.undergo h).managed := by
  suffices hb : ∃ m', (c.undergo h).manager = some m' ∧ c.managed.Bears m' by
    obtain ⟨m', hm', hb⟩ := hb
    rwa [managed_of_eq hm']
  cases h with
  | cancel id => exact ⟨_, hc.manager, covers_bears.refl _⟩
  | act b =>
    by_cases hd : b = .run .driver
    · subst hd
      exact ⟨_, (keeps_runCommands 1 c).manager.trans hc.manager, covers_bears.refl _⟩
    · rw [undergo_act hd]
      by_cases hs : b.Sequences
      · cases b with
        | run t =>
          cases t with
          | processing => exact absurd rfl hp
          | recovery id => exact bears_pollRecovery hc.manager id
          | driver | delivery | session | call | attempt => exact hs.elim
        | call | reclaim | release | reply | elapse | inject | invalidate | takeHandle | shutDown
        | listen | attach => exact hs.elim
      · exact (act_moves_of_ne covers_bears hc.settled hs fun id first e =>
          ha id first (congrArg _ e)).2 _ hc.manager

/-- What a happening does to acknowledgements. -/
theorem transfers_undergo {config : ClientConfig} (hc : c.Pumping config) (h : Happening) :
    ∃ old new, c.managed.Transfers (c.accepted? h) (c.starting h) (c.failing h) old new
      (c.undergo h).managed := by
  by_cases ha : ∃ id answerFirst, h = .act (.run (.attempt id answerFirst))
  · obtain ⟨id, answerFirst, rfl⟩ := ha
    obtain ⟨m', old, new, hm', ht⟩ :=
      transfers_pollAttempt hc.manager hc.metered.numbered id answerFirst
    have hmanaged : (c.undergo (.act (.run (.attempt id answerFirst)))).managed = m' :=
      managed_of_eq hm'
    rw [hmanaged]
    exact ⟨old, new, ht⟩
  · have hnone : c.attempt? h = none := by
      unfold attempt?
      split
      · exact absurd ⟨_, _, rfl⟩ ha
      · rfl
    rw [starting, failing, hnone]
    by_cases hp : h = .act (.run .processing)
    · subst hp
      have hmanaged : (c.undergo (.act (.run .processing))).managed = c.managed.processTurn.1 :=
        managed_of_eq (manager_withManager hc.manager _)
      rw [hmanaged]
      exact transfers_processTurn c.managed
    · have haccept : c.accepted? h = none := by
        unfold accepted?
        split
        · exact absurd rfl hp
        · rfl
      rw [haccept]
      exact (bears_undergo hc (fun id first e => ha ⟨id, first, e⟩) hp).transfers

end Client

end OpcUa
