import Mathlib.Data.List.Nodup
import OpcUa.Proofs.Sequencing
import OpcUa.Proofs.SessionRun

/-!
# The places of the Publish pipeline

The manager counts the Publish requests that are outstanding, and arms another one when there is
room. The counter is a number of its own, so this file compares it with the attempts themselves.

* `SubscriptionManager.outstanding`, `SubscriptionManager.started`: the attempts that hold a place
  of the pipeline, and those of them whose request has been counted.
* `SubscriptionManager.Arms`: an attempt is armed.
* `SubscriptionManager.Metered`: the counters agree with the attempts, and a manager that has
  something to publish for does so.
* `SubscriptionManager.Pumps`: what may happen to the pipeline; `Metered.pumps` says that it keeps
  the counters right, and how the number of attempts can change.
* `Client.pipeline_accounted`: what holds of the pipeline at every point of a run.
-/

namespace OpcUa

namespace AttemptStage

/-- Whether the attempt holds a place of the pipeline: it is armed and its request has not ended. -/
def isOutstanding : AttemptStage → Bool
  | armed | publishing _ => true
  | backingOff _ => false

/-- Whether the attempt has been started and its request has not ended. -/
def isStarted : AttemptStage → Bool
  | publishing _ => true
  | armed | backingOff _ => false

def isBackingOff : AttemptStage → Bool
  | backingOff _ => true
  | armed | publishing _ => false

end AttemptStage

/-- A valid configuration keeps a request outstanding for each subscription. -/
theorem ClientConfig.depth_pos_of_validate {config : ClientConfig}
    (h : config.validate = .ok ()) : 0 < config.publishPipelineDepth.toNat := by
  have hdepth : config.publishPipelineDepth ≠ 0 := by
    intro hzero
    unfold ClientConfig.validate ClientConfig.invalidValue at h
    split at h
    · cases h
    · split at h
      · cases h
      · split at h <;> cases h
  exact Nat.pos_of_ne_zero fun hzero => hdepth (UInt32.toNat_inj.1 hzero)

namespace SubscriptionStats

/-- All Publish requests but `n` have brought a response or have failed. -/
def Owes (n : Nat) (s : SubscriptionStats) : Prop :=
  s.publishRequests = s.publishResponses + s.publishFailures + n

theorem Owes.of_publishes {n : Nat} {s s' : SubscriptionStats} (h : s.Owes n)
    (hs : s'.publishes = s.publishes) : s'.Owes n := by
  simp only [publishes, Prod.mk.injEq] at hs
  obtain ⟨h1, h2, h3, -, -⟩ := hs
  rw [Owes, h1, h2, h3]
  exact h

end SubscriptionStats

namespace SubscriptionManager

variable {m m' : SubscriptionManager} {id : WorkId} {a : Attempt}

/-! ## Counting attempts -/

/-- The number of attempts in a stage. -/
def inStage (p : AttemptStage → Bool) (m : SubscriptionManager) : Nat :=
  m.attempts.countP fun x => p x.2.stage

def outstanding (m : SubscriptionManager) : Nat := m.inStage AttemptStage.isOutstanding

def started (m : SubscriptionManager) : Nat := m.inStage AttemptStage.isStarted

def backingOff (m : SubscriptionManager) : Nat := m.inStage AttemptStage.isBackingOff

def attemptIds (m : SubscriptionManager) : List WorkId := m.attempts.map (·.1)

/-- From `m` to `m'` an attempt is armed. -/
def Arms (m m' : SubscriptionManager) : Prop := ∃ id ∈ m'.attemptIds, id ∉ m.attemptIds

instance (m m' : SubscriptionManager) : Decidable (m.Arms m') :=
  inferInstanceAs (Decidable (∃ id ∈ m'.attemptIds, id ∉ m.attemptIds))

/-- No two attempts have the same number, and all numbers have been given out. -/
structure Numbered (m : SubscriptionManager) : Prop where
  nodup : m.attemptIds.Nodup
  below : ∀ id ∈ m.attemptIds, id < m.nextWork

theorem attemptIds_setAttempt (id : WorkId) (stage : AttemptStage) (m : SubscriptionManager) :
    (m.setAttempt id stage).attemptIds = m.attemptIds := by
  unfold attemptIds setAttempt
  dsimp only
  rw [List.map_map]
  refine List.map_congr_left fun x _ => ?_
  by_cases h : x.1 = id <;> simp [h]

theorem attemptIds_dropAttempt (id : WorkId) (m : SubscriptionManager) :
    (m.dropAttempt id).attemptIds = m.attemptIds.filter (· != id) := by
  unfold attemptIds dropAttempt
  rw [List.filter_map]
  rfl

theorem Numbered.setAttempt (h : m.Numbered) (id : WorkId) (stage : AttemptStage) :
    (m.setAttempt id stage).Numbered :=
  ⟨attemptIds_setAttempt id stage m ▸ h.nodup, attemptIds_setAttempt id stage m ▸ h.below⟩

theorem Numbered.dropAttempt (h : m.Numbered) (id : WorkId) : (m.dropAttempt id).Numbered := by
  refine ⟨?_, fun i hi => ?_⟩
  · rw [attemptIds_dropAttempt]
    exact h.nodup.filter _
  · rw [attemptIds_dropAttempt] at hi
    exact h.below i (List.mem_filter.1 hi).1

/-- Only the attempt `id` changes when its stage is set, and only it goes when it is dropped. -/
theorem Numbered.split (h : m.Numbered) (ha : m.attempt? id = some a) :
    ∃ l₁ l₂, m.attempts = l₁ ++ (id, a) :: l₂ ∧
      (∀ stage, (m.setAttempt id stage).attempts = l₁ ++ (id, { a with stage }) :: l₂) ∧
      (m.dropAttempt id).attempts = l₁ ++ l₂ := by
  obtain ⟨l₁, l₂, e, -⟩ := List.lookup_eq_some_iff.1 ha
  have hn := h.nodup
  rw [attemptIds, e, List.map_append, List.map_cons, List.nodup_middle, ← List.map_append,
    List.nodup_cons] at hn
  have hne : ∀ x ∈ l₁ ++ l₂, x.1 ≠ id := fun x hx hid => hn.1 (List.mem_map.2 ⟨x, hx, hid⟩)
  refine ⟨l₁, l₂, e, fun stage => ?_, ?_⟩
  · have hmap : ∀ l ⊆ l₁ ++ l₂, l.map (fun p => if p.1 = id then (id, { p.2 with stage }) else p) =
        l := by
      intro l hl
      conv_rhs => rw [← List.map_id l]
      exact List.map_congr_left fun x hx => if_neg (hne x (hl hx))
    unfold SubscriptionManager.setAttempt
    dsimp only
    rw [e, List.map_append, List.map_cons, if_pos rfl, hmap l₁ (List.subset_append_left ..),
      hmap l₂ (List.subset_append_right ..)]
  · have hfilter : ∀ l ⊆ l₁ ++ l₂, l.filter (·.1 != id) = l := fun l hl =>
      List.filter_eq_self.2 fun x hx => bne_iff_ne.2 (hne x (hl hx))
    unfold SubscriptionManager.dropAttempt
    dsimp only
    rw [e, List.filter_append, List.filter_cons_of_neg (by simp),
      hfilter l₁ (List.subset_append_left ..), hfilter l₂ (List.subset_append_right ..)]

theorem Numbered.inStage_setAttempt (h : m.Numbered) (ha : m.attempt? id = some a)
    (stage : AttemptStage) (p : AttemptStage → Bool) :
    (m.setAttempt id stage).inStage p + (p a.stage).toNat = m.inStage p + (p stage).toNat := by
  obtain ⟨l₁, l₂, e, hset, -⟩ := h.split ha
  rw [inStage, inStage, hset, e]
  simp only [List.countP_append, List.countP_cons]
  cases p a.stage <;> cases p stage <;> simp <;> omega

theorem Numbered.inStage_dropAttempt (h : m.Numbered) (ha : m.attempt? id = some a)
    (p : AttemptStage → Bool) : (m.dropAttempt id).inStage p + (p a.stage).toNat = m.inStage p := by
  obtain ⟨l₁, l₂, e, -, hdrop⟩ := h.split ha
  rw [inStage, inStage, hdrop, e]
  simp only [List.countP_append, List.countP_cons]
  cases p a.stage <;> simp
  omega

/-! ## Filling the pipeline -/

/-- What was pending goes with the first of the attempts `new`, and the others find nothing. -/
def Drains (pending : List Acknowledgement) (new : List (WorkId × Attempt))
    (left : List Acknowledgement) : Prop :=
  match new with
  | [] => left = pending
  | x :: rest =>
    x.2.acknowledgements = pending ∧ (∀ y ∈ rest, y.2.acknowledgements = []) ∧ left = []

/-- When nothing is pending, no attempt finds anything. -/
theorem Drains.of_nil {new : List (WorkId × Attempt)} {left : List Acknowledgement}
    (h : Drains [] new left) : (∀ x ∈ new, x.2.acknowledgements = []) ∧ left = [] := by
  cases new with
  | nil => exact ⟨nofun, h⟩
  | cons x rest => exact ⟨List.forall_mem_cons.2 ⟨h.1, h.2.1⟩, h.2.2⟩

/-- From `m` to `m'` the attempts `new` are armed. -/
structure Fills (m : SubscriptionManager) (new : List (WorkId × Attempt))
    (m' : SubscriptionManager) : Prop where
  config : m'.config = m.config
  running : m'.running = m.running
  subscriptions : m'.subscriptions = m.subscriptions
  registry : m'.registry = m.registry
  stats : m'.stats = m.stats
  attempts : m'.attempts = m.attempts ++ new
  armed : ∀ x ∈ new, x.2.stage = .armed
  numbers : new.map (·.1) = List.range' m.nextWork new.length
  nextWork : m'.nextWork = m.nextWork + new.length
  inFlight : m'.inFlight = m.inFlight + new.length
  drains : Drains m.acknowledgements.pending new m'.acknowledgements.pending

theorem Fills.maxPending {new : List (WorkId × Attempt)} (h : m.Fills new m') :
    m'.maxPending = m.maxPending := by
  rw [SubscriptionManager.maxPending, SubscriptionManager.maxPending, h.config, h.registry]

theorem fills_nil (m : SubscriptionManager) : m.Fills [] m :=
  ⟨rfl, rfl, rfl, rfl, rfl, (List.append_nil _).symm, nofun, rfl, rfl, rfl, rfl⟩

/-- As long as there is room, every round arms an attempt. -/
theorem fills_armUpTo {n : Nat} (h : n ≤ m.maxPending - m.inFlight) :
    ∃ new, new.length = n ∧ m.Fills new (m.armUpTo n) := by
  induction n generalizing m with
  | zero => exact ⟨[], rfl, fills_nil m⟩
  | succ n ih =>
    have hroom : m.armNext? = some (m.claim.2.arm m.maxPending) := by
      have hcount : m.claim.1 ≤ m.maxPending := by
        show m.inFlight + 1 ≤ m.maxPending
        omega
      rw [armNext?]
      exact if_pos hcount
    obtain ⟨new, hlen, hf⟩ := ih (m := m.claim.2.arm m.maxPending) (by
      show n ≤ m.maxPending - (m.inFlight + 1)
      omega)
    rw [armUpTo, hroom]
    refine ⟨(m.nextWork, ⟨m.acknowledgements.pending, m.claim.2.publishHint m.maxPending, .armed⟩) ::
      new, by rw [List.length_cons, hlen], hf.config, hf.running, hf.subscriptions, hf.registry,
      hf.stats, ?_, ?_, ?_, ?_, ?_, rfl, hf.drains.of_nil⟩
    · rw [hf.attempts]
      exact List.append_assoc _ [_] new
    · intro x hx
      rcases List.mem_cons.1 hx with rfl | hx
      · rfl
      · exact hf.armed x hx
    · rw [List.map_cons, hf.numbers, List.length_cons, List.range'_succ]
      rfl
    · rw [hf.nextWork, List.length_cons]
      exact Nat.add_right_comm m.nextWork 1 new.length
    · rw [hf.inFlight, List.length_cons]
      exact Nat.add_right_comm m.inFlight 1 new.length

/-- Filling the pipeline arms as many attempts as there are places, unless the manager is shut
down. -/
theorem fills_fillPipeline (m : SubscriptionManager) :
    ∃ new, m.Fills new m.fillPipeline ∧
      (new ≠ [] → m.inFlight + new.length ≤ m.maxPending) ∧
      (m.running = true → m.maxPending ≤ m.inFlight + new.length) := by
  unfold fillPipeline
  split
  · obtain ⟨new, hlen, hf⟩ := fills_armUpTo (Nat.le_refl (m.maxPending - m.inFlight))
    refine ⟨new, hf, fun hne => ?_, fun _ => by omega⟩
    have hpos := List.length_pos_iff.2 hne
    omega
  · rename_i hr
    exact ⟨[], fills_nil m, fun h => absurd rfl h, fun h => absurd h hr⟩

theorem Fills.inStage {new : List (WorkId × Attempt)} (h : m.Fills new m')
    (p : AttemptStage → Bool) : m'.inStage p = m.inStage p + new.length * (p .armed).toNat := by
  have hnew : new.countP (fun x => p x.2.stage) = new.length * (p .armed).toNat := by
    cases hp : p .armed with
    | false =>
      rw [Bool.toNat_false, Nat.mul_zero, List.countP_eq_zero]
      intro x hx
      rw [h.armed x hx, hp]
      exact Bool.false_ne_true
    | true =>
      rw [Bool.toNat_true, Nat.mul_one, List.countP_eq_length]
      intro x hx
      rw [h.armed x hx, hp]
  rw [SubscriptionManager.inStage, h.attempts, List.countP_append, hnew]
  rfl

theorem Fills.numbered {new : List (WorkId × Attempt)} (h : m.Fills new m') (hn : m.Numbered) :
    m'.Numbered := by
  have hids : m'.attemptIds = m.attemptIds ++ List.range' m.nextWork new.length := by
    rw [attemptIds, h.attempts, List.map_append, h.numbers]
    rfl
  refine ⟨?_, fun i hi => ?_⟩
  · rw [hids, List.nodup_append]
    refine ⟨hn.nodup, List.nodup_range', fun i hi j hj e => ?_⟩
    exact Nat.ne_of_lt (Nat.lt_of_lt_of_le (hn.below i hi) (List.mem_range'_1.1 hj).1) e
  · rw [h.nextWork]
    rw [hids] at hi
    rcases List.mem_append.1 hi with hi | hi
    · exact Nat.lt_add_right _ (hn.below i hi)
    · exact (List.mem_range'_1.1 hi).2

/-! ## The counters -/

/-- The counters agree with the attempts. -/
structure Counted (m : SubscriptionManager) : Prop where
  numbered : m.Numbered
  inFlight : m.inFlight = m.outstanding
  owes : m.stats.Owes m.started

/-- The counters agree with the attempts, and if there is room in the pipeline, then some attempt
holds a place of it or will fill it after its backoff. -/
structure Metered (m : SubscriptionManager) : Prop extends m.Counted where
  fed : m.running = true → 0 < m.maxPending → m.backingOff = 0 → 0 < m.outstanding

theorem metered_fresh (config : ClientConfig) : (fresh config).Metered where
  numbered := ⟨List.nodup_nil, nofun⟩
  inFlight := rfl
  owes := rfl
  fed _ h := absurd h (Nat.lt_irrefl 0)

/-- How the number of attempts may change: they are armed up to the bound, or else there is none
more than before. -/
def Paced (m m' : SubscriptionManager) : Prop :=
  m'.outstanding ≤ m'.maxPending ∨
    m'.attemptIds ⊆ m.attemptIds ∧ m'.outstanding ≤ m.outstanding

theorem Paced.of_le {m₁ : SubscriptionManager} (h : m₁.Paced m')
    (hids : m₁.attemptIds ⊆ m.attemptIds) (hle : m₁.outstanding ≤ m.outstanding) :
    m.Paced m' :=
  h.imp_right fun ⟨hi, ho⟩ => ⟨List.Subset.trans hi hids, Nat.le_trans ho hle⟩

theorem Paced.of_arms (h : m.Paced m') (ha : m.Arms m') : m'.outstanding ≤ m'.maxPending := by
  obtain ⟨id, hid, hnew⟩ := ha
  rcases h with h | ⟨hids, -⟩
  · exact h
  · exact absurd (hids hid) hnew

theorem Paced.of_above (h : m.Paced m') (ha : m'.maxPending < m'.outstanding) :
    m'.outstanding ≤ m.outstanding := by
  rcases h with h | ⟨-, h⟩
  · exact absurd h (Nat.not_le_of_lt ha)
  · exact h

theorem Counted.fill (h : m.Counted) : m.fillPipeline.Metered ∧ m.Paced m.fillPipeline := by
  obtain ⟨new, hf, hroom, hfull⟩ := fills_fillPipeline m
  have hout : m.fillPipeline.outstanding = m.outstanding + new.length := by
    rw [outstanding, hf.inStage]
    exact congrArg _ (Nat.mul_one _)
  have hcount : m.fillPipeline.inFlight = m.fillPipeline.outstanding := by
    rw [hf.inFlight, hout, h.inFlight]
  have howes : m.fillPipeline.stats.Owes m.fillPipeline.started := by
    have hstarted : m.fillPipeline.started = m.started := by
      rw [started, hf.inStage]
      exact Nat.mul_zero new.length ▸ rfl
    rw [hf.stats, hstarted]
    exact h.owes
  refine ⟨⟨⟨hf.numbered h.numbered, hcount, howes⟩, fun hr hpos _ => ?_⟩, ?_⟩
  · rw [← hcount, hf.inFlight]
    rw [hf.maxPending] at hpos
    exact Nat.lt_of_lt_of_le hpos (hfull (hf.running ▸ hr))
  · by_cases hnew : new = []
    · refine .inr ⟨?_, ?_⟩
      · rw [attemptIds, hf.attempts, hnew, List.append_nil]
        exact List.Subset.refl _
      · rw [hout, hnew]
        exact Nat.le_refl _
    · refine .inl ?_
      rw [hf.maxPending, ← hcount, hf.inFlight]
      exact hroom hnew

/-! ## What may happen to the pipeline -/

/-- Nothing happens to the pipeline. The manager may be shut down. -/
structure Alike (m m' : SubscriptionManager) : Prop where
  config : m'.config = m.config
  running : m'.running = true → m.running = true
  registry : m'.registry = m.registry
  inFlight : m'.inFlight = m.inFlight
  attempts : m'.attempts = m.attempts
  nextWork : m.nextWork ≤ m'.nextWork
  publishes : m'.stats.publishes = m.stats.publishes

theorem Alike.refl (m : SubscriptionManager) : m.Alike m :=
  ⟨rfl, id, rfl, rfl, rfl, Nat.le_refl _, rfl⟩

theorem Alike.trans {m₁ : SubscriptionManager} (h : m.Alike m₁) (h' : m₁.Alike m') :
    m.Alike m' where
  config := h'.config.trans h.config
  running := h.running ∘ h'.running
  registry := h'.registry.trans h.registry
  inFlight := h'.inFlight.trans h.inFlight
  attempts := h'.attempts.trans h.attempts
  nextWork := Nat.le_trans h.nextWork h'.nextWork
  publishes := h'.publishes.trans h.publishes

theorem Alike.inStage (h : m.Alike m') (p : AttemptStage → Bool) : m'.inStage p = m.inStage p := by
  rw [SubscriptionManager.inStage, h.attempts]
  rfl

theorem Alike.counted (h : m.Alike m') (hm : m.Counted) : m'.Counted where
  numbered := by
    refine ⟨?_, fun i hi => ?_⟩
    · rw [attemptIds, h.attempts]
      exact hm.numbered.nodup
    · rw [attemptIds, h.attempts] at hi
      exact Nat.lt_of_lt_of_le (hm.numbered.below i hi) h.nextWork
  inFlight := by rw [h.inFlight, hm.inFlight, outstanding, outstanding, h.inStage]
  owes := by
    rw [started, h.inStage]
    exact hm.owes.of_publishes h.publishes

/-- What may happen to the pipeline. -/
inductive Pumps (m : SubscriptionManager) : SubscriptionManager → Prop
  | rests {m' : SubscriptionManager} : m.Alike m' → Pumps m m'
  /-- The pipeline is filled. The registry may have changed before. -/
  | refills {m₁ : SubscriptionManager} : m.Alike { m₁ with registry := m.registry } →
    Pumps m m₁.fillPipeline
  | turns {id : WorkId} {m' : SubscriptionManager} : m.AttemptTurn id m' → Pumps m m'

/-- The manager after the failure of an attempt, but for the attempt itself. -/
def failed (a : Attempt) (m : SubscriptionManager) : SubscriptionManager :=
  { m.release with stats := m.stats.recordPublishFailure a.acknowledgements.length }

/-- After a failure the attempt ends, unless it waits for its backoff. If the pipeline is not filled
again, then the manager is shut down or another attempt is outstanding. -/
theorem completeAttempt_error (id : WorkId) (a : Attempt) (e : Error) (clock : Nat)
    (m : SubscriptionManager) :
    m.completeAttempt id a (.error e) clock = (m.failed a).dropAttempt id ∧
        (m.running = false ∨ 0 < m.inFlight - 1) ∨
      m.completeAttempt id a (.error e) clock = ((m.failed a).dropAttempt id).fillPipeline ∨
      ∃ due, m.completeAttempt id a (.error e) clock =
        (m.failed a).setAttempt id (.backingOff due) := by
  have h : m.completeAttempt id a (.error e) clock =
      if !(m.failed a).running then (m.failed a).dropAttempt id
      else if e.status = .badTooManyPublishRequests ∧ 0 < (m.failed a).inFlight then
        (m.failed a).dropAttempt id
      else if (m.failed a).config.publishFailureBackoff.isZero then
        ((m.failed a).dropAttempt id).fillPipeline
      else (m.failed a).setAttempt id
        (.backingOff (clock + (m.failed a).config.publishFailureBackoff.ceilMillis)) := rfl
  rw [h]
  split
  · rename_i hr
    exact .inl ⟨rfl, .inl (by simpa [failed, release] using hr)⟩
  · split
    · rename_i hmany
      exact .inl ⟨rfl, .inr hmany.2⟩
    · split
      · exact .inr (.inl rfl)
      · exact .inr (.inr ⟨_, rfl⟩)

/-- The request of an attempt has ended. The attempt may have been started in the same step, so it
is only known which requests are owed apart from its own. -/
theorem metered_completeAttempt (hn : m.Numbered) (ha : m.attempt? id = some a)
    (hs : a.stage.isOutstanding = true) (hc : m.inFlight = m.outstanding)
    (ho : m.stats.Owes ((m.dropAttempt id).started + 1)) (outcome : Except Error PublishAnswer)
    (clock : Nat) :
    (m.completeAttempt id a outcome clock).Metered ∧
      m.Paced (m.completeAttempt id a outcome clock) := by
  have hout : (m.dropAttempt id).outstanding + 1 = m.outstanding := by
    have h := hn.inStage_dropAttempt ha AttemptStage.isOutstanding
    rwa [hs] at h
  have hplace : m.inFlight - 1 = (m.dropAttempt id).outstanding := by omega
  have hids : (m.dropAttempt id).attemptIds ⊆ m.attemptIds := by
    rw [attemptIds_dropAttempt]
    exact List.filter_subset_self _
  have hle : (m.dropAttempt id).outstanding ≤ m.outstanding := by omega
  have hnd := hn.dropAttempt id
  unfold SubscriptionStats.Owes at ho
  cases outcome with
  | ok answer =>
    have h := Counted.fill (m := { m.dropAttempt id with
        inFlight := m.inFlight - 1
        stats := m.stats.recordPublishResponse
        processing := m.processing.submit answer })
      ⟨⟨hnd.nodup, hnd.below⟩, hplace, by
        show m.stats.publishRequests = m.stats.publishResponses + 1 + m.stats.publishFailures +
          (m.dropAttempt id).started
        omega⟩
    exact ⟨h.1, h.2.of_le hids hle⟩
  | error e =>
    have howes : (m.failed a).stats.Owes (m.dropAttempt id).started := by
      show m.stats.publishRequests = m.stats.publishResponses + (m.stats.publishFailures + 1) +
        (m.dropAttempt id).started
      omega
    have hdrop : ((m.failed a).dropAttempt id).Counted :=
      ⟨⟨hnd.nodup, hnd.below⟩, hplace, howes⟩
    rcases completeAttempt_error id a e clock m with ⟨h, hwhy⟩ | h | ⟨due, h⟩ <;> rw [h]
    · refine ⟨⟨hdrop, fun hr _ _ => ?_⟩, .inr ⟨hids, hle⟩⟩
      rcases hwhy with hwhy | hwhy
      · exact absurd (hwhy.symm.trans hr) Bool.false_ne_true
      · exact Nat.lt_of_lt_of_eq hwhy hplace
    · exact ⟨hdrop.fill.1, hdrop.fill.2.of_le hids hle⟩
    · -- The attempt stays, but no longer in a place of the pipeline.
      have hset := hn.inStage_setAttempt ha (.backingOff due)
      have hplaces : (m.setAttempt id (.backingOff due)).outstanding + 1 = m.outstanding := by
        have h := hset AttemptStage.isOutstanding
        rwa [hs] at h
      have hstarts : (m.setAttempt id (.backingOff due)).started = (m.dropAttempt id).started :=
        Nat.add_right_cancel ((hset AttemptStage.isStarted).trans
          (hn.inStage_dropAttempt ha AttemptStage.isStarted).symm)
      have hwaits : 0 < (m.setAttempt id (.backingOff due)).backingOff := by
        have hnot : a.stage.isBackingOff = false := by
          cases e : a.stage <;> simp_all [AttemptStage.isOutstanding, AttemptStage.isBackingOff]
        have h := hset AttemptStage.isBackingOff
        rw [hnot] at h
        exact Nat.lt_of_lt_of_eq (Nat.succ_pos _) h.symm
      have hsn := hn.setAttempt id (.backingOff due)
      refine ⟨⟨⟨⟨hsn.nodup, hsn.below⟩, ?_, ?_⟩, fun _ _ h => ?_⟩, .inr ⟨?_, ?_⟩⟩
      · show m.inFlight - 1 = (m.setAttempt id (.backingOff due)).outstanding
        omega
      · show (m.failed a).stats.Owes (m.setAttempt id (.backingOff due)).started
        rwa [hstarts]
      · exact absurd h (Nat.ne_of_gt hwaits)
      · show (m.setAttempt id (.backingOff due)).attemptIds ⊆ m.attemptIds
        rw [attemptIds_setAttempt]
        exact List.Subset.refl _
      · show (m.setAttempt id (.backingOff due)).outstanding ≤ m.outstanding
        omega

/-- Setting the stage of an attempt does not take or free a place as long as it keeps its own. -/
theorem Numbered.places_setAttempt (hn : m.Numbered) (ha : m.attempt? id = some a)
    (stage : AttemptStage) (hs : a.stage.isOutstanding = stage.isOutstanding) :
    (m.setAttempt id stage).outstanding = m.outstanding ∧ m.Paced (m.setAttempt id stage) := by
  have hout : (m.setAttempt id stage).outstanding = m.outstanding := by
    have h := hn.inStage_setAttempt ha stage AttemptStage.isOutstanding
    rw [hs] at h
    exact Nat.add_right_cancel h
  refine ⟨hout, .inr ⟨?_, Nat.le_of_eq hout⟩⟩
  rw [attemptIds_setAttempt]
  exact List.Subset.refl _

theorem Numbered.outstanding_pos (hn : m.Numbered) (ha : m.attempt? id = some a)
    (hs : a.stage.isOutstanding = true) : 0 < m.outstanding := by
  have h := hn.inStage_dropAttempt ha AttemptStage.isOutstanding
  rw [hs] at h
  exact Nat.lt_of_lt_of_eq (Nat.succ_pos _) h

theorem Metered.turn (h : m.Metered) (ht : m.AttemptTurn id m') : m'.Metered ∧ m.Paced m' := by
  have hn := h.numbered
  have howes := h.owes
  unfold SubscriptionStats.Owes at howes
  cases ht with
  | rests => exact ⟨h, .inr ⟨List.Subset.refl _, Nat.le_refl _⟩⟩
  | @starts a phase ha hs =>
    obtain ⟨hout, hp⟩ := hn.places_setAttempt ha (.publishing phase) (by rw [hs]; rfl)
    have hstarted : (m.setAttempt id (.publishing phase)).started = m.started + 1 := by
      have h := hn.inStage_setAttempt ha (.publishing phase) AttemptStage.isStarted
      rwa [hs] at h
    have hsn := hn.setAttempt id (.publishing phase)
    refine ⟨⟨⟨⟨hsn.nodup, hsn.below⟩, h.inFlight.trans hout.symm, ?_⟩, fun _ _ _ => ?_⟩, hp⟩
    · show m.stats.publishRequests + 1 = m.stats.publishResponses + m.stats.publishFailures +
        (m.setAttempt id (.publishing phase)).started
      omega
    · exact Nat.lt_of_lt_of_eq (hn.outstanding_pos ha (by rw [hs]; rfl)) hout.symm
  | @fails a e clock ha hs =>
    have hstarted : (m.dropAttempt id).started = m.started := by
      have h := hn.inStage_dropAttempt ha AttemptStage.isStarted
      rwa [hs] at h
    refine metered_completeAttempt (m := m.startAttempt a) ⟨hn.nodup, hn.below⟩ ha
      (by rw [hs]; rfl) h.inFlight ?_ (.error e) clock
    show m.stats.publishRequests + 1 = m.stats.publishResponses + m.stats.publishFailures +
      ((m.dropAttempt id).started + 1)
    omega
  | @waits a phase phase' ha hs =>
    obtain ⟨hout, hp⟩ := hn.places_setAttempt ha (.publishing phase') (by rw [hs]; rfl)
    have hstarted : (m.setAttempt id (.publishing phase')).started = m.started := by
      have h := hn.inStage_setAttempt ha (.publishing phase') AttemptStage.isStarted
      rw [hs] at h
      exact Nat.add_right_cancel h
    refine ⟨⟨⟨hn.setAttempt id _, h.inFlight.trans hout.symm, ?_⟩, fun _ _ _ => ?_⟩, hp⟩
    · show m.stats.Owes (m.setAttempt id (.publishing phase')).started
      rw [hstarted]
      exact h.owes
    · exact Nat.lt_of_lt_of_eq (hn.outstanding_pos ha (by rw [hs]; rfl)) hout.symm
  | @ends a phase outcome clock ha hs =>
    have hstarted : (m.dropAttempt id).started + 1 = m.started := by
      have h := hn.inStage_dropAttempt ha AttemptStage.isStarted
      rwa [hs] at h
    refine metered_completeAttempt hn ha (by rw [hs]; rfl) h.inFlight ?_ outcome clock
    rw [hstarted]
    exact h.owes
  | @resumes a due ha hs =>
    have hout : (m.dropAttempt id).outstanding = m.outstanding := by
      have h := hn.inStage_dropAttempt ha AttemptStage.isOutstanding
      rwa [hs] at h
    have hstarted : (m.dropAttempt id).started = m.started := by
      have h := hn.inStage_dropAttempt ha AttemptStage.isStarted
      rwa [hs] at h
    have hdrop : (m.dropAttempt id).Counted :=
      ⟨hn.dropAttempt id, h.inFlight.trans hout.symm, hstarted ▸ h.owes⟩
    refine ⟨hdrop.fill.1, hdrop.fill.2.of_le ?_ (Nat.le_of_eq hout)⟩
    rw [attemptIds_dropAttempt]
    exact List.filter_subset_self _

theorem Metered.pumps (h : m.Metered) (hp : m.Pumps m') : m'.Metered ∧ m.Paced m' := by
  cases hp with
  | rests ha =>
    refine ⟨⟨ha.counted h.toCounted, fun hr hpos hb => ?_⟩, .inr ⟨?_, ?_⟩⟩
    · rw [SubscriptionManager.maxPending, ha.config, ha.registry] at hpos
      rw [backingOff, ha.inStage] at hb
      rw [outstanding, ha.inStage]
      exact h.fed (ha.running hr) hpos hb
    · rw [attemptIds, ha.attempts]
      exact List.Subset.refl _
    · rw [outstanding, ha.inStage]
      exact Nat.le_refl _
  | @refills m₁ ha =>
    have hc : m₁.Counted := by
      have hc := ha.counted h.toCounted
      exact ⟨⟨hc.numbered.nodup, hc.numbered.below⟩, hc.inFlight, hc.owes⟩
    refine ⟨hc.fill.1, hc.fill.2.of_le ?_ ?_⟩
    · show m₁.attempts.map (·.1) ⊆ m.attempts.map (·.1)
      rw [ha.attempts]
      exact List.Subset.refl _
    · exact Nat.le_of_eq (ha.inStage AttemptStage.isOutstanding)
  | turns ht => exact h.turn ht

theorem config_fillPipeline (m : SubscriptionManager) : m.fillPipeline.config = m.config := by
  obtain ⟨new, hf, -⟩ := fills_fillPipeline m
  exact hf.config

theorem AttemptTurn.config (h : m.AttemptTurn id m') : m'.config = m.config := by
  have hcomplete (m : SubscriptionManager) (a : Attempt) (outcome : Except Error PublishAnswer)
      (clock : Nat) : (m.completeAttempt id a outcome clock).config = m.config := by
    cases outcome with
    | ok answer => exact config_fillPipeline _
    | error e =>
      rcases completeAttempt_error id a e clock m with ⟨h, -⟩ | h | ⟨due, h⟩ <;> rw [h]
      · rfl
      · exact config_fillPipeline _
      · rfl
  cases h with
  | rests | starts | waits => rfl
  | fails | ends => exact hcomplete ..
  | resumes => exact config_fillPipeline _

theorem Pumps.config (h : m.Pumps m') : m'.config = m.config := by
  cases h with
  | rests h => exact h.config
  | refills h => exact (config_fillPipeline _).trans h.config
  | turns h => exact h.config

/-! ## Steps that leave the pipeline alone -/

theorem alike_of_eq {subscriptions : List Subscription} {items : List MonitoredItem}
    {cursors : Table SequenceNumber} {acknowledgements : Acknowledgements}
    {processing : WorkQueue PublishAnswer} {delivery : WorkQueue Delivery}
    {recoveries : List (WorkId × Recovery)} {clientHandles : Handles} {listeners : List Listener}
    {stats : SubscriptionStats} {journal : List Observation}
    (hs : stats.publishes = m.stats.publishes) :
    m.Alike { m with
      subscriptions, items, cursors, acknowledgements, processing, delivery, recoveries,
      clientHandles, listeners, stats, journal } :=
  ⟨rfl, id, rfl, rfl, rfl, Nat.le_refl _, hs⟩

theorem Notes.alike (h : m.Notes m') : m.Alike m' := by
  obtain ⟨_, _, _, _, _, _, rfl, hs⟩ := h
  exact alike_of_eq hs

theorem alike_shutDown (m : SubscriptionManager) : m.Alike m.shutDown := by
  unfold shutDown
  split
  · exact ⟨rfl, nofun, rfl, rfl, rfl, Nat.le_refl _, rfl⟩
  · exact .refl m

theorem alike_abandon (m : SubscriptionManager) : m.Alike m.abandon := by
  have h := alike_shutDown m
  unfold abandon
  dsimp only
  split
  · exact h
  · exact h.trans (alike_of_eq rfl)

theorem alike_deliverTurn (m : SubscriptionManager) : m.Alike m.deliverTurn.1 := by
  have h : m.Alike { m with delivery := m.delivery.turn.2 } :=
    alike_of_eq rfl
  exact h.trans (notes_deliverTurn m).alike

theorem alike_process (a : PublishAnswer) (m : SubscriptionManager) : m.Alike (m.process a) := by
  unfold process
  split
  · split
    · rw [accept_eq]
      exact alike_of_eq rfl
    · exact ⟨rfl, id, rfl, rfl, rfl, Nat.le_succ _, rfl⟩
  · exact .refl m

theorem alike_processTurn (m : SubscriptionManager) : m.Alike m.processTurn.1 := by
  have h (q : WorkQueue PublishAnswer) : m.Alike { m with processing := q } :=
    alike_of_eq rfl
  unfold processTurn
  split
  · exact (h _).trans (alike_process ..)
  · exact h _
  · exact h _
  · exact h _

theorem alike_perform (s : SubscriptionId) (e : RecoveryEvent) (m : SubscriptionManager) :
    m.Alike (e.perform s m) := by
  cases e with
  | republished n outcome =>
    cases outcome with
    | error e => exact .refl m
    | ok message =>
      unfold RecoveryEvent.perform
      dsimp only
      split
      · exact alike_of_eq rfl
      · exact .refl m
  | valueRead k outcome =>
    unfold RecoveryEvent.perform valueRead
    dsimp only
    split
    · exact alike_of_eq rfl
    · exact .refl m
  | asks | fallsBack | reads | sends | ends | stops =>
    exact alike_of_eq rfl

theorem alike_foldl_perform (s : SubscriptionId) (log : List RecoveryEvent)
    (m : SubscriptionManager) : m.Alike (log.foldl (RecoveryEvent.perform s) m) := by
  induction log generalizing m with
  | nil => exact .refl m
  | cons e log ih => exact (alike_perform s e m).trans (ih _)

theorem Settles.pumps (h : m.Settles m') : m.Pumps m' := by
  have hreg (registry : Registry) (cursors : Table SequenceNumber)
      (acknowledgements : Acknowledgements) {m₁ : SubscriptionManager}
      (h : Notes { m with registry, cursors, acknowledgements } m₁) :
      m.Alike { m₁ with registry := m.registry } := by
    obtain ⟨_, _, _, _, _, _, rfl, hs⟩ := h
    exact alike_of_eq hs
  cases h with
  | notes h => exact .rests h.alike
  | created id k h => exact .refills (hreg _ m.cursors m.acknowledgements h)
  | modified h => exact .refills (hreg m.registry m.cursors m.acknowledgements h)
  | deleted id h => exact .refills (hreg _ _ _ h)

theorem covers_pumps : Covers Pumps where
  refl m := .rests (.refl m)
  begins op clock m := .rests (notes_begin op clock m).alike
  finishes clock op outcome m := (settles_finish clock op outcome m).pumps
  delivers m := .rests (alike_deliverTurn m)
  stops m := .rests (alike_shutDown m)
  abandons m := .rests (alike_abandon m)
  listens _ _ := .rests (alike_of_eq rfl)
  attaches _ _ _ := .rests (alike_of_eq rfl)

end SubscriptionManager

namespace Client

open SubscriptionManager

variable {c : Client}

/-- A run of a recovery takes a step of `R` if it does where there is one. -/
theorem moves_pollRecovery {R : SubscriptionManager → SubscriptionManager → Prop}
    (hR : ∀ m, R m m) {id : WorkId}
    (h : ∀ {m r}, c.manager = some m → m.recovery? id = some r →
      ∃ m', (c.pollRecovery id).1.manager = some m' ∧ R m m') :
    c.Moves R (c.pollRecovery id).1 := by
  have hrest : c.Moves R c := (Keeps.of_eq rfl rfl).rests hR
  cases hm : c.manager with
  | none =>
    unfold pollRecovery
    rw [hm]
    exact hrest
  | some m =>
    cases hr : m.recovery? id with
    | none =>
      unfold pollRecovery
      rw [hm]
      dsimp only
      rw [hr]
      exact hrest
    | some r =>
      refine ⟨fun p hp => ⟨p, (recounts_pollRecovery hm hr).calls ▸ hp, rfl⟩, fun m₁ hm₁ => ?_⟩
      obtain rfl := Option.some.inj (hm.symm.trans hm₁)
      exact h hm hr

/-- Whatever happens takes a step of `R`, if operations that go on do and all else that runs. -/
theorem moves_undergo {R : SubscriptionManager → SubscriptionManager → Prop}
    (hR : CoversCommon R) (hA : ∀ {id m m'}, AttemptTurn id m m' → R m m')
    (hD : ∀ m, R m m.deliverTurn.1) (hP : ∀ m, R m m.processTurn.1)
    (hW : ∀ id, c.Moves R (c.pollRecovery id).1) (hc : c.Settled) {h : Happening}
    (ho : ∀ {id job op phase}, h = .act (.run (.call id)) →
      c.calls.lookup id = some ⟨job, .operating op phase⟩ →
      c.Moves R (c.advanceOperation id op phase).1) :
    (c.undergo h).Settled ∧
      ∀ m, c.manager = some m → ∃ m', (c.undergo h).manager = some m' ∧ R m m' := by
  have hmoves {c' : Client} (h : c.Moves R c') : c'.Settled ∧
      ∀ m, c.manager = some m → ∃ m', c'.manager = some m' ∧ R m m' :=
    ⟨h.settled hc, h.manager⟩
  cases h with
  | cancel id =>
    exact hmoves (Keeps.rests ⟨fun p hp => ⟨p, (List.mem_filter.1 hp).1, rfl⟩, rfl⟩ hR.refl)
  | act a =>
    by_cases ha : a = .run .driver
    · subst ha
      exact hmoves ((keeps_runCommands 1 c).rests hR.refl)
    · rw [undergo_act ha]
      by_cases hs : a.Sequences
      · cases a with
        | run t =>
          cases t with
          | processing => exact hmoves (moves_withManager hP c)
          | recovery id => exact hmoves (hW id)
          | driver | delivery | session | call | attempt => exact hs.elim
        | call | reclaim | release | reply | elapse | inject | invalidate | takeHandle | shutDown
        | listen | attach => exact hs.elim
      · by_cases hn : ∃ id answerFirst, a = .run (.attempt id answerFirst)
        · obtain ⟨id, answerFirst, rfl⟩ := hn
          exact hmoves ((turns_pollAttempt id answerFirst c).mono hA)
        · exact act_moves_common hR hc hs (fun id first e => hn ⟨id, first, e⟩) (fun _ => hD)
            fun e => ho (congrArg Happening.act e)

theorem alike_pollRecovery (id : WorkId) (c : Client) : c.Moves Alike (c.pollRecovery id).1 := by
  refine moves_pollRecovery .refl fun {m r} hm hr => ?_
  have hlog := alike_foldl_perform r.subscription (c.recoveryLog id) m
  rcases (recounts_pollRecovery hm hr).course with ⟨stage, -, hm'⟩ | ⟨-, hm'⟩
  · exact ⟨_, hm', hlog.trans (alike_of_eq rfl)⟩
  · refine ⟨_, hm', hlog.trans ?_⟩
    rw [endRecovery_eq]
    exact alike_of_eq rfl

/-- Whatever happens is a step of the pipeline. -/
theorem pumps_undergo (hc : c.Settled) (h : Happening) :
    (c.undergo h).Settled ∧
      ∀ m, c.manager = some m → ∃ m', (c.undergo h).manager = some m' ∧ m.Pumps m' :=
  moves_undergo covers_pumps.toCoversCommon .turns covers_pumps.delivers
    (fun m => .rests (alike_processTurn m)) (fun id => (alike_pollRecovery id c).mono .rests) hc
    fun _ _ => moves_advanceOperation covers_pumps.toCoversCommon covers_pumps.finishes ..

/-! ## Runs -/

/-- A client between two happenings: the counters of its manager agree with the attempts, and no
call is about to start the manager. -/
structure Pumping (config : ClientConfig) (c : Client) : Prop where
  manager : c.manager = some c.managed
  settled : c.Settled
  config : c.managed.config = config
  metered : c.managed.Metered

theorem Begins.pumping (hc : c.Begins) : c.Pumping c.service.config := by
  have hm := managed_of_eq hc.manager
  exact ⟨by rw [hm]; exact hc.manager, hc.settled, by rw [hm]; rfl, by rw [hm]; exact metered_fresh _⟩

theorem Pumping.undergo {config : ClientConfig} (hc : c.Pumping config) (h : Happening) :
    (c.undergo h).Pumping config ∧ c.managed.Pumps (c.undergo h).managed := by
  obtain ⟨hs, hm⟩ := pumps_undergo hc.settled h
  obtain ⟨m', hm', hp⟩ := hm _ hc.manager
  have hmanaged := managed_of_eq hm'
  rw [hmanaged]
  refine ⟨⟨by rw [hmanaged]; exact hm', hs, ?_, ?_⟩, hp⟩
  · rw [hmanaged, hp.config, hc.config]
  · rw [hmanaged]
    exact (hc.metered.pumps hp).1

theorem Pumping.later {config : ClientConfig} (hc : c.Pumping config) (hs : List Happening) :
    (c.later hs).Pumping config := by
  induction hs generalizing c with
  | nil => exact hc
  | cons h hs ih => exact ih (hc.undergo h).1

/-- At every point of a run the counter of the pipeline is the number of attempts that are
outstanding, so it has a place to give back for each of them; every Publish request that was counted
has brought a response, has failed or is under way; and as long as a subscription is registered, the
manager runs and no attempt is in its backoff, some attempt is outstanding. An attempt is only armed
if there are then no more of them than the depth of the pipeline for each subscription, so the
number can only fall while there are more. -/
theorem pipeline_accounted (hc : c.Begins) (hv : c.service.config.validate = .ok ())
    (hs : List Happening) :
    let m := (c.later hs).managed
    let depth := c.service.config.publishPipelineDepth.toNat
    m.inFlight = m.outstanding ∧
      (∀ id a, m.attempt? id = some a → a.stage.isOutstanding = true →
        m.release.inFlight + 1 = m.inFlight) ∧
      m.stats.publishRequests = m.stats.publishResponses + m.stats.publishFailures + m.started ∧
      (m.running = true → 0 < m.registry.size → m.backingOff = 0 → 0 < m.outstanding) ∧
      ∀ h, let m' := ((c.later hs).undergo h).managed
        (m.Arms m' → m'.outstanding ≤ depth * m'.registry.size) ∧
          (depth * m'.registry.size < m'.outstanding → m'.outstanding ≤ m.outstanding) := by
  have hl := hc.pumping.later hs
  have hdepth := ClientConfig.depth_pos_of_validate hv
  have hmax {m : SubscriptionManager} (hm : m.config = c.service.config) :
      m.maxPending = c.service.config.publishPipelineDepth.toNat * m.registry.size := by
    rw [SubscriptionManager.maxPending, hm]
  refine ⟨hl.metered.inFlight, fun id a ha hs => ?_, hl.metered.owes, fun hr hsize hb => ?_,
    fun h => ?_⟩
  · have hpos := hl.metered.inFlight ▸ hl.metered.numbered.outstanding_pos ha hs
    exact Nat.sub_add_cancel hpos
  · refine hl.metered.fed hr ?_ hb
    rw [hmax hl.config]
    exact Nat.mul_pos hdepth hsize
  · obtain ⟨hnext, hp⟩ := hl.undergo h
    have hpaced := (hl.metered.pumps hp).2
    dsimp only
    rw [← hmax hnext.config]
    exact ⟨hpaced.of_arms, hpaced.of_above⟩

/-! ## A sample -/

section

open Simulation

theorem sample_validates : sample.service.config.validate = .ok () := by
  have h : sample.service.config.validate.isOk = true := by decide +kernel
  cases e : sample.service.config.validate with
  | ok => rfl
  | error =>
    rw [e] at h
    cases h

/-- The sample client creates the subscriptions 7 and 8 and deletes the first of them, while a
Publish request for each of them is outstanding. -/
def sampleDelete : List Happening :=
  (sampleStart ++
    operating 2 2 (.create ⟨100.0, 30, 10, 0, true, 0⟩)
      (goodReply .createSubscription ⟨8, ⟨100.0, 30, 10⟩⟩) ++
    operating 3 3 (.delete 0) (goodReply .deleteSubscriptions [.good])).map .act

/-- One attempt is left for the subscription that is gone. It may start, but it is not replaced. -/
theorem pipeline_accounted_sample :
    sample.service.config.validate = .ok () ∧
      (sample.later sampleDelete).managed.registry.size = 1 ∧
      (sample.later sampleDelete).managed.inFlight = 2 ∧
      0 < (sample.later sampleDelete).managed.outstanding ∧
      ((sample.later sampleDelete).undergo (.act (.run (.attempt 0 false)))).managed.outstanding ≤
        (sample.later sampleDelete).managed.outstanding :=
  have h := pipeline_accounted sample_begins sample_validates sampleDelete
  ⟨sample_validates, by decide +kernel, h.1.trans (by decide +kernel),
    h.2.2.2.1 (by decide +kernel) (by decide +kernel) (by decide +kernel),
    (h.2.2.2.2 (.act (.run (.attempt 0 false)))).2 (by decide +kernel)⟩

end

end Client

end OpcUa
