import Mathlib.Data.List.Induction
import Mathlib.Data.List.Infix
import OpcUa.Proofs.PublishPipeline

/-!
# The Publish pipeline under every interleaving

Several tasks may fill the pipeline at the same time. A call claims a place before it knows whether
there is one, and gives it back if there was none. Here each access of a call to the counter is a
step of its own, and other tasks may make theirs in between: all accesses come in one order, and it
may be any. So a call may count places that others are about to give back.

* `FillStage`, `SharedPipeline`, `SharedPipeline.step`: where a call is, the pipeline that the calls
  share, and what a move does.
* `SharedPipeline.after_call`, `SharedPipeline.after_response`: when nothing comes in between, a
  call is `fillPipeline`, and the end of a request is `completeAttempt`.
* `SharedPipeline.Kept`, `SharedPipeline.kept_after`: what the moves keep.
* `SharedPipeline.Settled`, `SharedPipeline.settled_after`: the last time that a call looks for a
  place.
* `SharedPipeline.filled_but_for_refused`: when all calls have returned, the pipeline is filled, but
  for the places that others were about to give back when a call looked for the last time.
* `SharedPipeline.place_left_empty`: it need not be filled.
-/

namespace OpcUa

/-- Where a call that fills the pipeline is in its loop. -/
inductive FillStage where
  /-- It is about to claim a place. -/
  | looking
  /-- It has claimed a place, and `count` places are taken with it. -/
  | claimed (count : Nat)
  /-- There was room, and it is about to arm an attempt in its place. -/
  | admitted
  /-- There was no room, and it is about to give the place back. -/
  | refused
  | returned
  deriving DecidableEq

namespace FillStage

/-- A call makes its next access. The bound and whether the manager is shut down do not change while
calls are under way, so it does not matter when a call looks at them. -/
def step (m : SubscriptionManager) : FillStage → FillStage × SubscriptionManager
  | looking => if m.running then (claimed m.claim.1, m.claim.2) else (returned, m)
  | claimed count => (if count ≤ m.maxPending then admitted else refused, m)
  | admitted => (looking, m.arm m.maxPending)
  | refused => (returned, m.release)
  | returned => (returned, m)

/-- The call holds a place in which it arms an attempt. -/
def wins (bound : Nat) : FillStage → Bool
  | claimed count => count ≤ bound
  | admitted => true
  | looking | refused | returned => false

/-- The call holds a place that it gives back. -/
def loses (bound : Nat) : FillStage → Bool
  | claimed count => bound < count
  | refused => true
  | looking | admitted | returned => false

/-- The call looks for a place before it returns. -/
def looks (bound : Nat) : FillStage → Bool
  | looking => true
  | stage => stage.wins bound

end FillStage

namespace SubscriptionManager

/-- An attempt has brought a response. It has not begun to fill the pipeline. -/
def conclude (id : WorkId) (answer : PublishAnswer) (m : SubscriptionManager) :
    SubscriptionManager :=
  { m.release with
    stats := m.stats.recordPublishResponse
    processing := m.processing.submit answer }.dropAttempt id

end SubscriptionManager

/-- A pipeline and the calls that fill it. -/
structure SharedPipeline where
  manager : SubscriptionManager
  /-- In the order in which they began. They keep their numbers when they have returned. -/
  calls : List FillStage

namespace SharedPipeline

inductive Move where
  /-- A call begins. -/
  | call
  /-- The call `i` makes its next access. -/
  | go (i : Nat)
  /-- The attempt `id` sends its request, or waits on. -/
  | request (id : WorkId) (phase : CallPhase)
  /-- The attempt `id` brings a response, and begins to fill the pipeline. -/
  | response (id : WorkId) (answer : PublishAnswer)

def go (i : Nat) (p : SharedPipeline) : SharedPipeline :=
  match p.calls[i]? with
  | some stage => ⟨(stage.step p.manager).2, p.calls.set i (stage.step p.manager).1⟩
  | none => p

def request (id : WorkId) (phase : CallPhase) (p : SharedPipeline) : SharedPipeline :=
  match p.manager.attempt? id with
  | none => p
  | some a =>
    match a.stage with
    | .armed =>
      { p with manager := (p.manager.startAttempt a).setAttempt id (.publishing phase) }
    | .publishing _ => { p with manager := p.manager.setAttempt id (.publishing phase) }
    | .backingOff _ => p

def response (id : WorkId) (answer : PublishAnswer) (p : SharedPipeline) : SharedPipeline :=
  match p.manager.attempt? id with
  | none => p
  | some a =>
    match a.stage with
    | .publishing _ => ⟨p.manager.conclude id answer, p.calls ++ [.looking]⟩
    | .armed | .backingOff _ => p

def step : Move → SharedPipeline → SharedPipeline
  | .call, p => { p with calls := p.calls ++ [.looking] }
  | .go i, p => p.go i
  | .request id phase, p => p.request id phase
  | .response id answer, p => p.response id answer

def after (p : SharedPipeline) (moves : List Move) : SharedPipeline :=
  moves.foldl (fun p move => p.step move) p

theorem after_cons (p : SharedPipeline) (move : Move) (as : List Move) :
    p.after (move :: as) = (p.step move).after as := rfl

theorem after_append (p : SharedPipeline) (as bs : List Move) :
    p.after (as ++ bs) = (p.after as).after bs := List.foldl_append

theorem after_snoc (p : SharedPipeline) (as : List Move) (move : Move) :
    p.after (as ++ [move]) = (p.after as).step move := after_append p as [move]

/-- The number of calls in a stage. What a stage means may depend on the bound. -/
def count (q : Nat → FillStage → Bool) (p : SharedPipeline) : Nat :=
  p.calls.countP (q p.manager.maxPending)

/-- The places in which attempts will be armed. -/
def won (p : SharedPipeline) : Nat := p.count FillStage.wins

/-- The places that will be given back. -/
def lost (p : SharedPipeline) : Nat := p.count FillStage.loses

/-- The calls that look for a place before they return. -/
def eager (p : SharedPipeline) : Nat := p.count FillStage.looks

/-- The calls that have not returned. -/
def underWay (p : SharedPipeline) : Nat := p.count fun _ stage => stage != .returned

/-- A pipeline that no call is filling. -/
def start (m : SubscriptionManager) : SharedPipeline := ⟨m, []⟩

def AllReturned (p : SharedPipeline) : Prop := ∀ stage ∈ p.calls, stage = .returned

instance (p : SharedPipeline) : Decidable p.AllReturned :=
  inferInstanceAs (Decidable (∀ stage ∈ p.calls, stage = .returned))

variable {m : SubscriptionManager} {p : SharedPipeline}

/-! ## A call that is not interrupted -/

theorem go_set {calls : List FillStage} {i : Nat} (hi : i < calls.length)
    (m : SubscriptionManager) (stage : FillStage) :
    step (.go i) ⟨m, calls.set i stage⟩ = ⟨(stage.step m).2, calls.set i (stage.step m).1⟩ := by
  change go i ⟨m, calls.set i stage⟩ = _
  unfold go
  dsimp only
  rw [List.getElem?_set_self hi]
  dsimp only
  rw [List.set_set]

/-- A call arms an attempt with three accesses if there is room, and returns with three if there is
none. -/
theorem after_go {calls : List FillStage} {i : Nat} (hi : i < calls.length)
    (hr : m.running = true) {n : Nat} (hn : m.maxPending - m.inFlight = n) :
    after ⟨m, calls.set i .looking⟩ (List.replicate (3 * n + 3) (.go i)) =
      ⟨m.armUpTo n, calls.set i .returned⟩ := by
  have hclaim : FillStage.looking.step m = (.claimed m.claim.1, m.claim.2) := if_pos hr
  induction n generalizing m with
  | zero =>
    have hfull : (FillStage.claimed m.claim.1).step m.claim.2 = (.refused, m.claim.2) := by
      refine congrArg (·, m.claim.2) (if_neg ?_)
      show ¬ m.inFlight + 1 ≤ m.maxPending
      omega
    change ((step (.go i) ⟨m, calls.set i .looking⟩).step (.go i)).step (.go i) = _
    rw [go_set hi, hclaim, go_set hi, hfull, go_set hi]
    change (⟨m.claim.2.release, calls.set i .returned⟩ : SharedPipeline) = _
    rw [SubscriptionManager.claim_release]
    rfl
  | succ n ih =>
    have hroom : m.claim.1 ≤ m.maxPending := by
      show m.inFlight + 1 ≤ m.maxPending
      omega
    have hadmit : (FillStage.claimed m.claim.1).step m.claim.2 = (.admitted, m.claim.2) :=
      congrArg (·, m.claim.2) (if_pos hroom)
    have hnext : m.armNext? = some (m.claim.2.arm m.maxPending) := if_pos hroom
    have hleft : m.maxPending - (m.inFlight + 1) = n := by omega
    have hsplit : List.replicate (3 * (n + 1) + 3) (Move.go i) =
        .go i :: .go i :: .go i :: List.replicate (3 * n + 3) (.go i) := by
      rw [show 3 * (n + 1) + 3 = 3 * n + 3 + 1 + 1 + 1 by omega]
      simp only [List.replicate_succ]
    rw [SubscriptionManager.armUpTo, hnext, hsplit, after_cons, after_cons, after_cons, go_set hi,
      hclaim, go_set hi, hadmit, go_set hi]
    exact ih (m := m.claim.2.arm m.maxPending) hr hleft (if_pos hr)

/-- A call that nothing interrupts fills the pipeline. -/
theorem after_call (hr : p.manager.running = true) :
    p.after (.call :: List.replicate (3 * (p.manager.maxPending - p.manager.inFlight) + 3)
        (.go p.calls.length)) =
      ⟨p.manager.fillPipeline, p.calls ++ [.returned]⟩ := by
  have hset (stage : FillStage) : (p.calls ++ [FillStage.looking]).set p.calls.length stage =
      p.calls ++ [stage] := by
    rw [List.set_append_right _ _ (Nat.le_refl _), Nat.sub_self]
    rfl
  rw [after_cons, ← hset .returned, SubscriptionManager.fillPipeline, if_pos hr,
    ← after_go (by simp) hr rfl, hset]
  rfl

/-- The end of a request and a call that nothing interrupts are the end of an attempt. -/
theorem after_response {id : WorkId} {a : Attempt} {phase : CallPhase}
    (hr : p.manager.running = true) (ha : p.manager.attempt? id = some a)
    (hs : a.stage = .publishing phase) (answer : PublishAnswer) (clock : Nat) :
    p.after (.response id answer ::
        List.replicate (3 * (p.manager.maxPending - (p.manager.inFlight - 1)) + 3)
          (.go p.calls.length)) =
      ⟨p.manager.completeAttempt id a (.ok answer) clock, p.calls ++ [.returned]⟩ := by
  have h : p.step (.response id answer) = step .call ⟨p.manager.conclude id answer, p.calls⟩ := by
    change p.response id answer = _
    unfold response
    rw [ha]
    dsimp only
    rw [hs]
    rfl
  rw [after_cons, h]
  exact after_call (p := ⟨p.manager.conclude id answer, p.calls⟩) hr

end SharedPipeline

/-! ## What a move does -/

namespace SubscriptionManager

variable {m m' : SubscriptionManager} {id : WorkId} {a : Attempt}

/-- The bound stays, the manager is not shut down, and its attempts stay numbered. -/
structure Steady (m m' : SubscriptionManager) : Prop where
  running : m'.running = m.running
  maxPending : m'.maxPending = m.maxPending
  numbered : m.Numbered → m'.Numbered

theorem Steady.refl (m : SubscriptionManager) : m.Steady m := ⟨rfl, rfl, id⟩

theorem steady_arm (bound : Nat) (m : SubscriptionManager) : m.Steady (m.arm bound) := by
  refine ⟨rfl, rfl, fun h => ?_⟩
  have hids : (m.arm bound).attemptIds = m.attemptIds ++ [m.nextWork] := List.map_append
  refine ⟨?_, fun id hid => ?_⟩
  · rw [hids, List.nodup_append]
    refine ⟨h.nodup, List.nodup_singleton _, fun i hi j hj => ?_⟩
    exact List.mem_singleton.1 hj ▸ Nat.ne_of_lt (h.below i hi)
  · rw [hids] at hid
    rcases List.mem_append.1 hid with hid | hid
    · exact Nat.lt_succ_of_lt (h.below id hid)
    · exact List.mem_singleton.1 hid ▸ Nat.lt_succ_self _

theorem outstanding_arm (bound : Nat) (m : SubscriptionManager) :
    (m.arm bound).outstanding = m.outstanding + 1 := List.countP_append

/-- A response brings an attempt to its end and gives its place back. -/
theorem Numbered.conclude (h : m.Numbered) (ha : m.attempt? id = some a)
    (hs : a.stage.isOutstanding = true) (answer : PublishAnswer) :
    m.Steady (m.conclude id answer) ∧ (m.conclude id answer).outstanding + 1 = m.outstanding := by
  have hdrop := h.inStage_dropAttempt ha AttemptStage.isOutstanding
  rw [hs] at hdrop
  exact ⟨⟨rfl, rfl, fun _ => ⟨(h.dropAttempt id).nodup, (h.dropAttempt id).below⟩⟩, hdrop⟩

end SubscriptionManager

namespace FillStage

variable {m m' : SubscriptionManager} {stage stage' : FillStage}

/-- What a call does with an access, as long as the manager is not shut down. -/
inductive Steps (m : SubscriptionManager) : FillStage → FillStage → SubscriptionManager → Prop where
  | claims (hroom : m.inFlight < m.maxPending) :
    Steps m looking (claimed (m.inFlight + 1)) m.claim.2
  | overshoots (hfull : m.maxPending ≤ m.inFlight) :
    Steps m looking (claimed (m.inFlight + 1)) m.claim.2
  | wins {count : Nat} (hroom : count ≤ m.maxPending) : Steps m (claimed count) admitted m
  | loses {count : Nat} (hfull : m.maxPending < count) : Steps m (claimed count) refused m
  | arms : Steps m admitted looking (m.arm m.maxPending)
  | returns : Steps m refused returned m.release
  | rests : Steps m returned returned m

theorem steps (hr : m.running = true) (stage : FillStage) :
    Steps m stage (stage.step m).1 (stage.step m).2 := by
  cases stage with
  | looking =>
    rw [step, if_pos hr]
    rcases Nat.lt_or_ge m.inFlight m.maxPending with hroom | hfull
    · exact .claims hroom
    · exact .overshoots hfull
  | claimed count =>
    rw [step]
    split
    · rename_i hroom
      exact .wins hroom
    · rename_i hfull
      exact .loses (Nat.lt_of_not_le hfull)
  | admitted => exact .arms
  | refused => exact .returns
  | returned => exact .rests

theorem Steps.steady (h : Steps m stage stage' m') : m.Steady m' := by
  cases h with
  | arms => exact m.steady_arm m.maxPending
  | claims | overshoots | returns => exact ⟨rfl, rfl, fun h => ⟨h.nodup, h.below⟩⟩
  | wins | loses | rests => exact .refl m

theorem wins_of_le {bound count : Nat} (h : count ≤ bound) : (claimed count).wins bound = true :=
  decide_eq_true h

theorem loses_of_le {bound count : Nat} (h : count ≤ bound) : (claimed count).loses bound = false :=
  decide_eq_false (Nat.not_lt.2 h)

theorem wins_of_lt {bound count : Nat} (h : bound < count) : (claimed count).wins bound = false :=
  decide_eq_false (Nat.not_le.2 h)

theorem loses_of_lt {bound count : Nat} (h : bound < count) : (claimed count).loses bound = true :=
  decide_eq_true h

/-- The counter moves with the attempts that are outstanding and the places that calls hold. -/
theorem Steps.places (h : Steps m stage stage' m') (hpos : stage = refused → 0 < m.inFlight) :
    m'.inFlight + (m.outstanding + (stage.wins m.maxPending).toNat +
        (stage.loses m.maxPending).toNat) =
      m.inFlight + (m'.outstanding + (stage'.wins m.maxPending).toNat +
        (stage'.loses m.maxPending).toNat) := by
  cases h with
  | claims hroom =>
    rw [wins_of_le hroom, loses_of_le hroom]
    show m.inFlight + 1 + m.outstanding = m.inFlight + (m.outstanding + 1)
    omega
  | overshoots hfull =>
    rw [wins_of_lt (Nat.lt_succ_of_le hfull), loses_of_lt (Nat.lt_succ_of_le hfull)]
    show m.inFlight + 1 + m.outstanding = m.inFlight + (m.outstanding + 1)
    omega
  | wins hroom =>
    rw [wins_of_le hroom, loses_of_le hroom]
    rfl
  | loses hfull =>
    rw [wins_of_lt hfull, loses_of_lt hfull]
    rfl
  | arms =>
    rw [m.outstanding_arm]
    rfl
  | returns =>
    have := hpos rfl
    show m.inFlight - 1 + (m.outstanding + 1) = m.inFlight + m.outstanding
    omega
  | rests => rfl

/-- A place is won only if there is one, and one attempt is armed in it. -/
theorem Steps.bounded (h : Steps m stage stage' m') :
    m'.outstanding + (stage'.wins m.maxPending).toNat ≤
        m.outstanding + (stage.wins m.maxPending).toNat ∨
      m.inFlight < m.maxPending ∧
        m'.outstanding + (stage'.wins m.maxPending).toNat =
          m.outstanding + (stage.wins m.maxPending).toNat + 1 := by
  cases h with
  | claims hroom =>
    rw [wins_of_le hroom]
    exact .inr ⟨hroom, rfl⟩
  | overshoots hfull =>
    rw [wins_of_lt (Nat.lt_succ_of_le hfull)]
    exact .inl (Nat.le_refl _)
  | wins hroom =>
    rw [wins_of_le hroom]
    exact .inl (Nat.le_refl _)
  | loses hfull => exact .inl (Nat.le_add_right _ _)
  | arms =>
    rw [m.outstanding_arm]
    exact .inl (Nat.le_refl _)
  | returns | rests => exact .inl (Nat.le_refl _)

/-- Only a call that claims a place in vain will no longer look for one. -/
theorem Steps.looks (h : Steps m stage stage' m') :
    stage'.looks m.maxPending = true ∨
      m'.outstanding = m.outstanding ∧
        (stage'.looks m.maxPending = stage.looks m.maxPending ∨
          stage = looking ∧ m.maxPending ≤ m.inFlight) := by
  cases h with
  | claims hroom => exact .inl (wins_of_le hroom)
  | overshoots hfull => exact .inr ⟨rfl, .inr ⟨rfl, hfull⟩⟩
  | wins | arms => exact .inl rfl
  | loses hfull => exact .inr ⟨rfl, .inl (wins_of_lt hfull).symm⟩
  | returns | rests => exact .inr ⟨rfl, .inl rfl⟩

end FillStage

namespace SharedPipeline

variable {m : SubscriptionManager} {p p' : SharedPipeline} {moves : List Move}

/-- What a move does, as long as the manager is not shut down. -/
inductive Makes (p : SharedPipeline) : Move → SharedPipeline → Prop where
  | rests (move : Move) : Makes p move p
  | begins : Makes p .call ⟨p.manager, p.calls ++ [.looking]⟩
  | goes {i : Nat} {stage stage' : FillStage} {m : SubscriptionManager}
      (hi : p.calls[i]? = some stage) (hs : stage.Steps p.manager stage' m) :
    Makes p (.go i) ⟨m, p.calls.set i stage'⟩
  | requests {id : WorkId} {phase : CallPhase} {m : SubscriptionManager} (hm : p.manager.Steady m)
      (hi : m.inFlight = p.manager.inFlight) (ho : m.outstanding = p.manager.outstanding) :
    Makes p (.request id phase) ⟨m, p.calls⟩
  | ends {id : WorkId} {answer : PublishAnswer} {m : SubscriptionManager}
      (hm : p.manager.Steady m) (hi : m.inFlight = p.manager.inFlight - 1)
      (ho : m.outstanding + 1 = p.manager.outstanding) :
    Makes p (.response id answer) ⟨m, p.calls ++ [.looking]⟩

theorem makes_request (hn : p.manager.Numbered) (id : WorkId) (phase : CallPhase) :
    Makes p (.request id phase) (p.request id phase) := by
  unfold request
  split
  · exact .rests _
  · rename_i a ha
    have hset (hs : a.stage.isOutstanding = true) := hn.places_setAttempt ha (.publishing phase) hs
    have hids := hn.setAttempt id (.publishing phase)
    split
    · rename_i hs
      exact .requests ⟨rfl, rfl, fun _ => ⟨hids.nodup, hids.below⟩⟩ rfl (hset (by rw [hs]; rfl)).1
    · rename_i hs
      exact .requests ⟨rfl, rfl, fun _ => hids⟩ rfl (hset (by rw [hs]; rfl)).1
    · exact .rests _

theorem makes_response (hn : p.manager.Numbered) (id : WorkId) (answer : PublishAnswer) :
    Makes p (.response id answer) (p.response id answer) := by
  unfold response
  split
  · exact .rests _
  · rename_i a ha
    split
    · rename_i hs
      have h := hn.conclude ha (by rw [hs]; rfl) answer
      exact .ends h.1 rfl h.2
    · exact .rests _
    · exact .rests _

theorem makes (hr : p.manager.running = true) (hn : p.manager.Numbered) (move : Move) :
    Makes p move (p.step move) := by
  cases move with
  | call => exact .begins
  | go i =>
    change Makes p _ (p.go i)
    unfold go
    split
    · rename_i stage hi
      exact .goes hi (FillStage.steps hr stage)
    · exact .rests _
  | request id phase => exact makes_request hn id phase
  | response id answer => exact makes_response hn id answer

theorem Makes.steady {move : Move} (h : Makes p move p') : p.manager.Steady p'.manager := by
  cases h with
  | rests | begins => exact .refl _
  | goes hi hs => exact hs.steady
  | requests hm hi ho => exact hm
  | ends hm hi ho => exact hm

/-! ## Counting calls -/

/-- When the call `i` makes a step, only it counts in another way. -/
theorem count_set {i : Nat} {stage : FillStage} (hi : p.calls[i]? = some stage)
    (q : Nat → FillStage → Bool) (stage' : FillStage)
    (hm : m.maxPending = p.manager.maxPending) :
    (SharedPipeline.mk m (p.calls.set i stage')).count q + (q p.manager.maxPending stage).toNat =
      p.count q + (q p.manager.maxPending stage').toNat := by
  unfold count
  dsimp only
  rw [hm]
  generalize q p.manager.maxPending = q
  obtain ⟨hlt, hget⟩ := List.getElem?_eq_some_iff.1 hi
  have hle : (q stage).toNat ≤ p.calls.countP q := by
    cases hq : q stage with
    | false => exact Nat.zero_le _
    | true => exact List.countP_pos_iff.2 ⟨stage, hget ▸ List.getElem_mem hlt, hq⟩
  have htoNat (b : Bool) : (if b = true then 1 else 0) = b.toNat := by cases b <;> rfl
  rw [List.countP_set hlt, hget, htoNat, htoNat]
  omega

/-- A call that begins is about to look for a place. -/
theorem count_append (q : Nat → FillStage → Bool) (hm : m.maxPending = p.manager.maxPending) :
    (SharedPipeline.mk m (p.calls ++ [.looking])).count q =
      p.count q + (q p.manager.maxPending .looking).toNat := by
  unfold count
  dsimp only
  rw [List.countP_append, List.countP_singleton, hm]
  cases q p.manager.maxPending .looking <;> rfl

theorem count_congr (q : Nat → FillStage → Bool) (hm : m.maxPending = p.manager.maxPending) :
    (SharedPipeline.mk m p.calls).count q = p.count q := by
  unfold count
  dsimp only
  rw [hm]

theorem count_pos {i : Nat} {stage : FillStage} (hi : p.calls[i]? = some stage)
    {q : Nat → FillStage → Bool} (hq : q p.manager.maxPending stage = true) : 0 < p.count q :=
  List.countP_pos_iff.2 ⟨stage, List.mem_of_getElem? hi, hq⟩

/-! ## What the moves keep -/

/-- What holds of a pipeline that calls fill, when none did at first and the manager was `m`. -/
structure Kept (m : SubscriptionManager) (p : SharedPipeline) : Prop where
  running : p.manager.running = true
  maxPending : p.manager.maxPending = m.maxPending
  numbered : p.manager.Numbered
  /-- The places that are taken are those of the attempts and those of the calls. -/
  places : p.manager.inFlight = p.manager.outstanding + p.won + p.lost
  bounded : p.manager.outstanding + p.won ≤ max m.outstanding m.maxPending

theorem Kept.places_of_makes {move : Move} (hk : Kept m p) (h : Makes p move p') :
    p'.manager.inFlight = p'.manager.outstanding + p'.won + p'.lost := by
  have hp := hk.places
  unfold won lost at *
  cases h with
  | rests => exact hp
  | begins =>
    rw [count_append _ rfl, count_append _ rfl]
    exact hp
  | @goes i stage stage' m' hi hs =>
    have hmax := hs.steady.maxPending
    have hw := count_set hi FillStage.wins stage' hmax
    have hl := count_set hi FillStage.loses stage' hmax
    have hbalance := hs.places fun e => by
      subst e
      have := count_pos hi (q := FillStage.loses) rfl
      omega
    show m'.inFlight = m'.outstanding + _ + _
    omega
  | requests hm hi ho =>
    rw [count_congr _ hm.maxPending, count_congr _ hm.maxPending, hi, ho]
    exact hp
  | @ends id answer m' hm hi ho =>
    rw [count_append _ hm.maxPending, count_append _ hm.maxPending]
    show m'.inFlight = m'.outstanding + p.count FillStage.wins + p.count FillStage.loses
    omega

theorem Kept.bounded_of_makes {move : Move} (hk : Kept m p) (h : Makes p move p') :
    p'.manager.outstanding + p'.won ≤ max m.outstanding m.maxPending := by
  have hp := hk.places
  have hb := hk.bounded
  unfold won lost at *
  cases h with
  | rests => exact hb
  | begins =>
    rw [count_append _ rfl]
    exact hb
  | @goes i stage stage' m' hi hs =>
    have hw := count_set hi FillStage.wins stage' hs.steady.maxPending
    have hbound := hs.bounded
    rw [hk.maxPending] at hbound hw
    show m'.outstanding + _ ≤ _
    omega
  | requests hm hi ho =>
    rw [count_congr _ hm.maxPending, ho]
    exact hb
  | @ends id answer m' hm hi ho =>
    rw [count_append _ hm.maxPending]
    show m'.outstanding + p.count FillStage.wins ≤ _
    omega

theorem Kept.step (h : Kept m p) (move : Move) : Kept m (p.step move) := by
  have hmakes := makes h.running h.numbered move
  obtain ⟨hr, hmax, hn⟩ := hmakes.steady
  exact ⟨hr.trans h.running, hmax.trans h.maxPending, hn h.numbered, h.places_of_makes hmakes,
    h.bounded_of_makes hmakes⟩

theorem kept_after (hr : m.running = true) (hn : m.Numbered) (hc : m.inFlight = m.outstanding)
    (moves : List Move) : Kept m ((start m).after moves) := by
  induction moves using List.reverseRecOn with
  | nil => exact ⟨hr, rfl, hn, hc, Nat.le_max_left ..⟩
  | append_singleton as move ih =>
    rw [after_snoc]
    exact ih.step move

/-! ## The last look -/

theorem won_le_eager (p : SharedPipeline) : p.won ≤ p.eager :=
  List.countP_mono_left fun stage _ h => by
    cases stage with
    | looking => rfl
    | claimed | admitted | refused | returned => exact h

theorem eager_set {i : Nat} {stage stage' : FillStage} (hi : p.calls[i]? = some stage)
    (hm : m.maxPending = p.manager.maxPending) (hq : stage'.looks p.manager.maxPending = true) :
    0 < (SharedPipeline.mk m (p.calls.set i stage')).eager := by
  obtain ⟨hlt, -⟩ := List.getElem?_eq_some_iff.1 hi
  exact count_pos (p := ⟨m, p.calls.set i stage'⟩) (List.getElem?_set_self hlt) (hm ▸ hq)

/-- A call has looked for a place and has found none. Of the places that were taken then, all are
filled but those that calls were about to give back. -/
def Settled (m : SubscriptionManager) (moves : List Move) : Prop :=
  ∃ before i rest, moves = before ++ .go i :: rest ∧
    ((start m).after before).calls[i]? = some .looking ∧
    m.maxPending ≤ ((start m).after before).manager.inFlight ∧
    ((start m).after moves).manager.outstanding + ((start m).after before).lost =
      ((start m).after before).manager.inFlight

theorem Settled.snoc {move : Move} (h : Settled m moves)
    (ho : ((start m).after (moves ++ [move])).manager.outstanding =
      ((start m).after moves).manager.outstanding) : Settled m (moves ++ [move]) := by
  obtain ⟨before, i, rest, hmoves, hi, hfull, hleft⟩ := h
  exact ⟨before, i, rest ++ [move], by rw [hmoves, List.append_assoc]; rfl, hi, hfull,
    ho ▸ hleft⟩

/-- If no call looks again, it is because the last one that did has claimed a place in vain, and at
that time all others were about to give theirs back. -/
theorem Kept.eager_of_makes {move : Move} (hk : Kept m p) (h : Makes p move p') :
    0 < p'.eager ∨
      p'.manager.outstanding = p.manager.outstanding ∧
        ((p'.calls = [] ↔ p.calls = []) ∧ p'.eager = p.eager ∨
          ∃ i, move = .go i ∧ p.calls[i]? = some .looking ∧
            p.manager.maxPending ≤ p.manager.inFlight ∧
            p.manager.outstanding + p.lost = p.manager.inFlight) := by
  cases h with
  | rests => exact .inr ⟨rfl, .inl ⟨.rfl, rfl⟩⟩
  | begins =>
    refine .inl ?_
    rw [SharedPipeline.eager, count_append _ rfl]
    exact Nat.succ_pos _
  | @goes i stage stage' m' hi hs =>
    have hmax := hs.steady.maxPending
    rcases hs.looks with hq | ⟨ho, hq | ⟨rfl, hfull⟩⟩
    · exact .inl (eager_set hi hmax hq)
    · have he := count_set hi FillStage.looks stage' hmax
      rw [hq] at he
      exact .inr ⟨ho, .inl ⟨List.set_eq_nil_iff _ _, Nat.add_right_cancel he⟩⟩
    · rcases Nat.eq_zero_or_pos (SharedPipeline.mk m' (p.calls.set i stage')).eager with he | he
      · -- No call looks again, so that no place has been won.
        have hp := hk.places
        have hwon := won_le_eager ⟨m', p.calls.set i stage'⟩
        have hw : (SharedPipeline.mk m' (p.calls.set i stage')).won =
            p.won + (stage'.wins p.manager.maxPending).toNat :=
          count_set hi FillStage.wins stage' hmax
        exact .inr ⟨ho, .inr ⟨i, rfl, hi, hfull, by omega⟩⟩
      · exact .inl he
  | requests hm hi ho => exact .inr ⟨ho, .inl ⟨.rfl, count_congr _ hm.maxPending⟩⟩
  | ends hm hi ho =>
    refine .inl ?_
    rw [SharedPipeline.eager, count_append _ hm.maxPending]
    exact Nat.succ_pos _

/-- When calls have begun and none looks again, one has looked for the last time. -/
theorem settled_after (hr : m.running = true) (hn : m.Numbered) (hc : m.inFlight = m.outstanding)
    (moves : List Move) :
    ((start m).after moves).calls = [] ∨ 0 < ((start m).after moves).eager ∨ Settled m moves := by
  induction moves using List.reverseRecOn with
  | nil => exact .inl rfl
  | append_singleton as move ih =>
    have hk := kept_after hr hn hc as
    have hmakes := makes hk.running hk.numbered move
    rw [← after_snoc] at hmakes
    rcases hk.eager_of_makes hmakes with he | ⟨ho, ⟨hcalls, he⟩ | ⟨i, rfl, hi, hfull, hleft⟩⟩
    · exact .inr (.inl he)
    · rcases ih with h | h | h
      · exact .inl (hcalls.2 h)
      · exact .inr (.inl (he ▸ h))
      · exact .inr (.inr (h.snoc ho))
    · exact .inr (.inr ⟨as, i, [], rfl, hi, hk.maxPending ▸ hfull, ho ▸ hleft⟩)

/-! ## When all calls have returned -/

theorem AllReturned.count_eq_zero (h : p.AllReturned) {q : Nat → FillStage → Bool}
    (hq : q p.manager.maxPending .returned = false) : p.count q = 0 :=
  List.countP_eq_zero.2 fun stage hs => by
    rw [h stage hs, hq]
    exact Bool.false_ne_true

/-- A call that looks for a place holds none. -/
theorem lost_lt_underWay {i : Nat} (hi : p.calls[i]? = some .looking) : p.lost < p.underWay := by
  let p' : SharedPipeline := ⟨p.manager, p.calls.set i .returned⟩
  have hlost : p'.lost = p.lost := count_set hi FillStage.loses .returned rfl
  have hunder : p'.underWay + 1 = p.underWay :=
    count_set hi (fun _ stage => stage != .returned) .returned rfl
  have hle : p'.lost ≤ p'.underWay := List.countP_mono_left fun stage _ h => by
    cases stage with
    | returned => exact h
    | looking | claimed | admitted | refused => rfl
  omega

/-- When all calls have returned, the counter agrees with the attempts again, and no more of them
are outstanding than there is room for, or than there were before. When a call looked for the last
time, all places were taken, and all but those that others were about to give back are filled. If
there are never more than `n` calls under way, fewer than `n` places are empty. -/
theorem filled_but_for_refused (hr : m.running = true) (hn : m.Numbered)
    (hc : m.inFlight = m.outstanding) (moves : List Move)
    (hsome : ((start m).after moves).calls ≠ []) (hall : ((start m).after moves).AllReturned) :
    let m' := ((start m).after moves).manager
    m'.inFlight = m'.outstanding ∧ m'.outstanding ≤ max m.outstanding m.maxPending ∧
      (∃ before i rest, moves = before ++ .go i :: rest ∧
        ((start m).after before).calls[i]? = some .looking ∧
        m.maxPending ≤ ((start m).after before).manager.inFlight ∧
        m'.outstanding + ((start m).after before).lost =
          ((start m).after before).manager.inFlight) ∧
      ∀ n, (∀ as, as <+: moves → ((start m).after as).underWay ≤ n) →
        m.maxPending < m'.outstanding + n := by
  have hk := kept_after hr hn hc moves
  have hplaces := hk.places
  have hbounded := hk.bounded
  rw [won, hall.count_eq_zero rfl] at hplaces hbounded
  rw [lost, hall.count_eq_zero rfl] at hplaces
  have hsettled : Settled m moves := by
    rcases settled_after hr hn hc moves with h | h | h
    · exact absurd h hsome
    · exact absurd (hall.count_eq_zero rfl) (Nat.ne_of_gt h)
    · exact h
  refine ⟨hplaces, hbounded, hsettled, fun n hall => ?_⟩
  obtain ⟨before, i, rest, rfl, hi, hfull, hleft⟩ := hsettled
  have hlost := lost_lt_underWay hi
  have hle := hall before (List.prefix_append ..)
  omega

/-! ## A sample -/

section

open Client

/-- The sample client with one subscription, for which one Publish request is outstanding. -/
def sampleManager : SubscriptionManager :=
  (sample.after (sampleStart ++ [.run (.attempt 0 false)])).managed

theorem numbered_sampleManager : sampleManager.Numbered := ⟨by decide +kernel, by decide +kernel⟩

/-- A call has claimed a place when the request brings a response. The call that this sets off
counts that place as taken, and returns. Then the first call gives it back. -/
def sampleRace : List Move :=
  [.call, .go 0, .response 0 (sampleAnswer 1), .go 1, .go 1, .go 1, .go 0, .go 0]

/-- At most two calls are under way, and one place is empty. -/
theorem filled_but_for_refused_sample :
    sampleManager.running = true ∧ sampleManager.Numbered ∧
      sampleManager.inFlight = sampleManager.outstanding ∧
      ((start sampleManager).after sampleRace).calls ≠ [] ∧
      ((start sampleManager).after sampleRace).AllReturned ∧
      ((start sampleManager).after sampleRace).manager.inFlight = 0 ∧
      sampleManager.maxPending < ((start sampleManager).after sampleRace).manager.outstanding + 2 :=
  have hr : sampleManager.running = true := by decide +kernel
  have hc : sampleManager.inFlight = sampleManager.outstanding := by decide +kernel
  have hsome : ((start sampleManager).after sampleRace).calls ≠ [] := by decide +kernel
  have hall : ((start sampleManager).after sampleRace).AllReturned := by decide +kernel
  have htwo : ∀ as ∈ sampleRace.inits, ((start sampleManager).after as).underWay ≤ 2 := by
    decide +kernel
  have h := filled_but_for_refused hr numbered_sampleManager hc sampleRace hsome hall
  ⟨hr, numbered_sampleManager, hc, hsome, hall, h.1.trans (by decide +kernel),
    h.2.2.2 2 fun as has => htwo as ((List.mem_inits as sampleRace).2 has)⟩

/-- Two calls that count each other's places may both give theirs back, and leave the only place of
the pipeline empty. -/
theorem place_left_empty :
    ¬ ∀ (m : SubscriptionManager) (moves : List Move), m.running = true → m.Numbered →
      m.inFlight = m.outstanding → ((start m).after moves).calls ≠ [] →
      ((start m).after moves).AllReturned →
        m.maxPending ≤ ((start m).after moves).manager.outstanding := by
  intro h
  have hle := h sampleManager sampleRace (by decide +kernel) numbered_sampleManager
    (by decide +kernel) (by decide +kernel) (by decide +kernel)
  exact absurd hle (by decide +kernel)

end

end SharedPipeline

end OpcUa
