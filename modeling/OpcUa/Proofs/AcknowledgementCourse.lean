import OpcUa.Proofs.AcknowledgementStep

/-!
# Where acknowledgements go

What is pending leaves with an attempt or is discarded with its subscription. From then on it shares
the fate of the attempt: it is sent when the attempt is started, and dropped when its request fails.

* `SubscriptionManager.Transfers.conserves`: nothing is lost in a step, and nothing comes twice.
* `SubscriptionManager.Tracks`: the lists of the attempts that were armed, started and failed fit
  together, and the counters fit them.
* `SubscriptionManager.Tracks.step`: a step keeps it so.
* `Client.acknowledgements_accounted`: the account of all acknowledgements of a run.
-/

namespace OpcUa

theorem Acknowledgement.ne_of_lt {a b : Acknowledgement} (h : a.lt b = true) : a ≠ b := by
  rintro rfl
  rcases Acknowledgement.lt_iff.1 h with h | ⟨-, h⟩
  · exact UInt32.lt_irrefl _ h
  · exact UInt32.lt_irrefl _ h

/-- A list that ascends has no acknowledgement twice. -/
theorem Acknowledgement.nodup_of_ascending {l : List Acknowledgement}
    (h : l.Pairwise fun a b => a.lt b = true) : l.Nodup :=
  h.imp Acknowledgement.ne_of_lt

namespace SubscriptionManager

variable {m m' : SubscriptionManager} {old new : List (WorkId × Attempt)}
  {s f : List (WorkId × List Acknowledgement)}

/-! ## The attempts of a run -/

/-- The attempts that are armed from `m` to `m'`, each with its list. -/
def armedIn (m m' : SubscriptionManager) : List (WorkId × List Acknowledgement) :=
  m'.lists.filter fun p => p.1 ∉ m.attemptIds

/-- The lists of attempts that carry nothing have nothing in them. -/
theorem flatMap_eq_nil {l : List (WorkId × Attempt)}
    (h : ∀ x ∈ l, x.2.acknowledgements = []) :
    (l.map fun x => (x.1, x.2.acknowledgements)).flatMap (·.2) = [] := by
  rw [List.flatMap_map, List.flatMap_eq_nil_iff]
  exact h

section

variable {taken : Option PublishAnswer}

theorem Transfers.armedIn_eq (h : m.Transfers taken s f old new m') (hn : m.Numbered) :
    m.armedIn m' = new.map fun x => (x.1, x.2.acknowledgements) := by
  have hold : (old.map fun x => (x.1, x.2.acknowledgements)).filter
      (fun p => p.1 ∉ m.attemptIds) = [] := by
    refine List.filter_eq_nil_iff.2 fun p hp => ?_
    obtain ⟨x, hx, rfl⟩ := List.mem_map.1 hp
    obtain ⟨y, hy, e⟩ := List.mem_map.1 (h.lists x hx)
    have hid : x.1 ∈ m.attemptIds := List.mem_map.2 ⟨y, hy, (Prod.mk.inj e).1⟩
    simpa using hid
  have hnew : (new.map fun x => (x.1, x.2.acknowledgements)).filter
      (fun p => p.1 ∉ m.attemptIds) = new.map fun x => (x.1, x.2.acknowledgements) := by
    refine List.filter_eq_self.2 fun p hp => ?_
    obtain ⟨x, hx, rfl⟩ := List.mem_map.1 hp
    have hid : x.1 ∈ List.range' m.nextWork new.length :=
      h.numbers ▸ List.mem_map.2 ⟨x, hx, rfl⟩
    have hle := (List.mem_range'_1.1 hid).1
    exact decide_eq_true fun hmem => Nat.not_lt_of_le hle (hn.below _ hmem)
  rw [armedIn, SubscriptionManager.lists, h.attempts, List.map_append, List.filter_append, hold,
    hnew, List.nil_append]

/-- What the first attempt takes is all that is pending, and the others find nothing. -/
theorem Transfers.armed_first (h : m.Transfers taken s f old new m') (hm : m.Founded)
    {x : WorkId × Attempt} {rest : List (WorkId × Attempt)} (hnew : new = x :: rest) :
    x.2.acknowledgements = m.remaining m' ∧ (∀ y ∈ rest, y.2.acknowledgements = []) ∧
      m'.acknowledgements.pending = [] := by
  subst hnew
  have hflows := h.flows
  cases taken with
  | none =>
    obtain ⟨left, hl, hd⟩ := hflows
    rw [← hl.eq_remaining hm]
    exact hd
  | some a => exact nomatch hflows.1

/-- Without an attempt that is armed, what is not dropped stays. -/
theorem Transfers.pending_of_nil (h : m.Transfers none s f old [] m') (hm : m.Founded) :
    m'.acknowledgements.pending = m.remaining m' := by
  obtain ⟨left, hl, hd⟩ := h.flows
  rw [← hl.eq_remaining hm]
  exact hd

/-- If no response is accepted, then nothing is added. -/
theorem Transfers.pending_subset (h : m.Transfers none s f old new m') (hm : m.Founded) :
    m'.acknowledgements.pending ⊆ m.remaining m' := by
  cases new with
  | nil => rw [h.pending_of_nil hm]; exact List.Subset.refl _
  | cons x rest => rw [(h.armed_first hm rfl).2.2]; exact List.nil_subset _

theorem Transfers.founded (h : m.Transfers taken s f old new m') (hm : m.Founded) : m'.Founded := by
  intro x hx
  cases taken with
  | none => exact (mem_remaining.1 (h.pending_subset hm hx)).2
  | some a =>
    obtain ⟨-, ha⟩ := h.flows
    rw [ha.registry]
    rcases (ha.pending x).1 hx with ⟨e, -⟩ | hx
    · exact e ▸ ha.registers
    · exact hm x hx

/-- Whether an acknowledgement is put with those that are pending. -/
def adds (m m' : SubscriptionManager) (x : Acknowledgement) : Bool :=
  x ∉ m.acknowledgements.pending ∧ x ∈ m'.acknowledgements.pending

/-- Whether the subscription of an acknowledgement that is pending is deleted. -/
def discards (m m' : SubscriptionManager) (x : Acknowledgement) : Bool :=
  x ∈ m.acknowledgements.pending ∧ m.registry.contains x.subscription ∧
    !m'.registry.contains x.subscription

/-- The lists of the attempts that are armed have all that is pending and not dropped, once. -/
theorem Transfers.count_armedIn (h : m.Transfers taken s f old new m') (hn : m.Numbered)
    (hm : m.Founded) (x : Acknowledgement) :
    ((m.armedIn m').flatMap (·.2)).count x =
      if new = [] then 0 else (decide (x ∈ m.remaining m')).toNat := by
  rw [h.armedIn_eq hn]
  cases new with
  | nil => rfl
  | cons y rest =>
    obtain ⟨hy, hrest, -⟩ := h.armed_first hm rfl
    have hnodup : (m.remaining m').Nodup :=
      (Acknowledgement.nodup_of_ascending m.acknowledgements.ascending).filter _
    rw [List.map_cons, List.flatMap_cons, flatMap_eq_nil hrest, List.append_nil, hy,
      hnodup.count, if_neg (List.cons_ne_nil _ _)]
    by_cases hx : x ∈ m.remaining m' <;> simp [hx]

/-- What is pending or is added goes into a list or is discarded, or is pending afterwards. -/
theorem Transfers.conserves (h : m.Transfers taken s f old new m') (hn : m.Numbered)
    (hm : m.Founded) (x : Acknowledgement) :
    (m.adds m' x).toNat + (decide (x ∈ m.acknowledgements.pending)).toNat =
      ((m.armedIn m').flatMap (·.2)).count x + (m.discards m' x).toNat +
        (decide (x ∈ m'.acknowledgements.pending)).toNat := by
  rw [h.count_armedIn hn hm, adds, discards]
  have hfounded := hm x
  cases new with
  | cons y rest =>
    -- All that is pending is taken or discarded.
    rw [(h.armed_first hm rfl).2.2, if_neg (List.cons_ne_nil _ _)]
    by_cases hx : x ∈ m.acknowledgements.pending
    · cases hr : m'.registry.contains x.subscription <;>
        simp [mem_remaining, hx, hr, hfounded hx]
    · simp [mem_remaining, hx]
  | nil =>
    cases taken with
    | some a =>
      obtain ⟨-, ha⟩ := h.flows
      rw [ha.registry]
      by_cases hx : x ∈ m.acknowledgements.pending
      · have hx' := (ha.pending x).2 (.inr hx)
        simp [hx, hx', hfounded hx]
      · simp [hx]
    | none =>
      rw [h.pending_of_nil hm]
      by_cases hx : x ∈ m.acknowledgements.pending
      · cases hr : m'.registry.contains x.subscription <;>
          simp [mem_remaining, hx, hr, hfounded hx]
      · simp [mem_remaining, hx]

/-- The list of an attempt that is armed ascends. -/
theorem Transfers.ascending (h : m.Transfers taken s f old new m') (hn : m.Numbered)
    (hm : m.Founded) : ∀ p ∈ m.armedIn m', p.2.Pairwise fun a b => a.lt b = true := by
  rw [h.armedIn_eq hn]
  cases new with
  | nil => exact nofun
  | cons y rest =>
    obtain ⟨hy, hrest, -⟩ := h.armed_first hm rfl
    intro p hp
    obtain ⟨x, hx, rfl⟩ := List.mem_map.1 hp
    dsimp only
    rcases List.mem_cons.1 hx with rfl | hx
    · rw [hy]
      exact m.acknowledgements.ascending.filter _
    · rw [hrest x hx]
      exact .nil

end

/-- The attempts that were armed, those that were started and those whose requests failed, each with
its list, agree with each other, with the attempts that there are and with the counters. -/
structure Tracks (armed started failed : List (WorkId × List Acknowledgement))
    (m : SubscriptionManager) : Prop where
  armed_nodup : (armed.map (·.1)).Nodup
  armed_below : ∀ p ∈ armed, p.1 < m.nextWork
  ascending : ∀ p ∈ armed, p.2.Pairwise fun a b => a.lt b = true
  lists : ∀ x ∈ m.attempts, (x.1, x.2.acknowledgements) ∈ armed
  started_armed : started ⊆ armed
  started_nodup : (started.map (·.1)).Nodup
  failed_started : failed ⊆ started
  failed_nodup : (failed.map (·.1)).Nodup
  /-- An attempt that is armed has not been started. -/
  waiting : ∀ x ∈ m.attempts, x.2.stage = .armed → x.1 ∉ started.map (·.1)
  /-- An attempt whose request is under way has been started, and has not failed. -/
  underway : ∀ x ∈ m.attempts, x.2.stage.isStarted = true →
    (x.1, x.2.acknowledgements) ∈ started ∧ x.1 ∉ failed.map (·.1)
  sent : m.stats.acknowledgementsSent = total started
  dropped : m.stats.acknowledgementsDropped = total failed

theorem tracks_fresh (config : ClientConfig) : (fresh config).Tracks [] [] [] where
  armed_nodup := .nil
  armed_below := nofun
  ascending := nofun
  lists := nofun
  started_armed := List.Subset.refl _
  started_nodup := .nil
  failed_started := List.Subset.refl _
  failed_nodup := .nil
  waiting := nofun
  underway := nofun
  sent := rfl
  dropped := rfl

/-- No number is twice among those of two lists that have none in common. -/
theorem nodup_map_append {l l' : List (WorkId × List Acknowledgement)}
    (h : (l.map (·.1)).Nodup) (h' : (l'.map (·.1)).Nodup)
    (hne : ∀ p ∈ l', p.1 ∉ l.map (·.1)) : ((l ++ l').map (·.1)).Nodup := by
  rw [List.map_append]
  refine List.nodup_append.2 ⟨h, h', fun i hi j hj e => ?_⟩
  obtain ⟨p, hp, rfl⟩ := List.mem_map.1 hj
  exact hne p hp (e ▸ hi)

theorem fst_mem {l l' : List (WorkId × List Acknowledgement)} (h : l ⊆ l') {i : WorkId}
    (hi : i ∈ l.map (·.1)) : i ∈ l'.map (·.1) :=
  List.map_subset _ h hi

section

variable {taken : Option PublishAnswer}
  {armed started failed : List (WorkId × List Acknowledgement)}

/-- An attempt that is started is one that was armed before and has not been started yet. -/
theorem Tracks.starts (ht : m.Tracks armed started failed) (h : m.Runs s f old) :
    (s.map (·.1)).Nodup ∧ ∀ p ∈ s, p ∈ armed ∧ p.1 ∉ started.map (·.1) := by
  rcases h.started with rfl | ⟨x, hx, hstage, rfl⟩
  · exact ⟨.nil, nofun⟩
  · refine ⟨List.nodup_singleton _, fun p hp => ?_⟩
    rw [List.mem_singleton.1 hp]
    exact ⟨ht.lists x hx, ht.waiting x hx hstage⟩

/-- An attempt whose request fails is one that has been started and has not failed yet. -/
theorem Tracks.fails (ht : m.Tracks armed started failed) (h : m.Runs s f old) :
    (f.map (·.1)).Nodup ∧ ∀ p ∈ f, p ∈ started ++ s ∧ p.1 ∉ failed.map (·.1) := by
  rcases h.failed with rfl | ⟨x, hx, rfl, hwhy⟩
  · exact ⟨.nil, nofun⟩
  · refine ⟨List.nodup_singleton _, fun p hp => ?_⟩
    rcases hwhy with rfl | hstage
    · have hp' := ((ht.starts h).2 p hp).2
      exact ⟨List.mem_append_right _ hp, fun hmem => hp' (fst_mem ht.failed_started hmem)⟩
    · rw [List.mem_singleton.1 hp]
      obtain ⟨hmem, hnot⟩ := ht.underway x hx hstage
      exact ⟨List.mem_append_left _ hmem, hnot⟩

/-- A step keeps the account of the attempts. -/
theorem Tracks.step (ht : m.Tracks armed started failed)
    (h : m.Transfers taken s f old new m') (hn : m.Numbered) (hm : m.Founded) :
    m'.Tracks (armed ++ m.armedIn m') (started ++ s) (failed ++ f) := by
  have hnew := h.armedIn_eq hn
  have hnumbers : (m.armedIn m').map (·.1) = List.range' m.nextWork new.length := by
    rw [hnew, List.map_map, ← h.numbers]
    rfl
  have hfresh : ∀ p ∈ m.armedIn m', m.nextWork ≤ p.1 ∧ p.1 < m.nextWork + new.length := fun p hp =>
    List.mem_range'_1.1 (hnumbers ▸ List.mem_map_of_mem (f := (·.1)) hp)
  have hbelow : ∀ i ∈ armed.map (·.1), i < m.nextWork := fun i hi => by
    obtain ⟨p, hp, rfl⟩ := List.mem_map.1 hi
    exact ht.armed_below p hp
  obtain ⟨hsn, hs⟩ := ht.starts h.toRuns
  obtain ⟨hfn, hf⟩ := ht.fails h.toRuns
  have hstarted : started ++ s ⊆ armed :=
    List.append_subset.2 ⟨ht.started_armed, fun p hp => (hs p hp).1⟩
  have hmem : ∀ x ∈ new, (x.1, x.2.acknowledgements) ∈ m.armedIn m' := fun x hx =>
    hnew ▸ List.mem_map.2 ⟨x, hx, rfl⟩
  exact {
    armed_nodup := nodup_map_append ht.armed_nodup (hnumbers ▸ List.nodup_range') fun p hp hi =>
      Nat.not_lt_of_le (hfresh p hp).1 (hbelow _ hi)
    armed_below := fun p hp => by
      rcases List.mem_append.1 hp with hp | hp
      · have hle := Nat.le_trans (Nat.le_add_right _ new.length) h.nextWork
        exact Nat.lt_of_lt_of_le (ht.armed_below p hp) hle
      · exact Nat.lt_of_lt_of_le (hfresh p hp).2 h.nextWork
    ascending := List.forall_mem_append.2 ⟨ht.ascending, h.ascending hn hm⟩
    lists := fun x hx => by
      rw [h.attempts] at hx
      rcases List.mem_append.1 hx with hx | hx
      · obtain ⟨y, hy, e⟩ := List.mem_map.1 (h.lists x hx)
        exact List.mem_append_left _ (e ▸ ht.lists y hy)
      · exact List.mem_append_right _ (hmem x hx)
    started_armed := List.Subset.trans hstarted (List.subset_append_left ..)
    started_nodup := nodup_map_append ht.started_nodup hsn fun p hp => (hs p hp).2
    failed_started := List.append_subset.2
      ⟨List.Subset.trans ht.failed_started (List.subset_append_left ..), fun p hp => (hf p hp).1⟩
    failed_nodup := nodup_map_append ht.failed_nodup hfn fun p hp => (hf p hp).2
    waiting := fun x hx hstage => by
      rw [h.attempts] at hx
      rcases List.mem_append.1 hx with hx | hx
      · obtain ⟨hx, hnot⟩ := h.waiting x hx hstage
        rw [List.map_append]
        exact fun hi => (List.mem_append.1 hi).elim (ht.waiting x hx hstage) hnot
      · exact fun hi => Nat.not_lt_of_le (hfresh _ (hmem x hx)).1 (hbelow _ (fst_mem hstarted hi))
    underway := fun x hx hstage => by
      rw [h.attempts] at hx
      rcases List.mem_append.1 hx with hx | hx
      · obtain ⟨hnot, hin⟩ := h.underway x hx hstage
        rw [List.map_append, List.mem_append, List.mem_append]
        rcases hin with hin | ⟨y, hy, hys, e⟩
        · refine ⟨.inr hin, fun hi => hi.elim (fun hi => ?_) hnot⟩
          exact (hs _ hin).2 (fst_mem ht.failed_started hi)
        · obtain ⟨hmem, hnot'⟩ := ht.underway y hy hys
          obtain ⟨hid, -⟩ := Prod.mk.inj e
          exact ⟨.inl (e ▸ hmem), fun hi => hi.elim (hid ▸ hnot') hnot⟩
      · rw [h.armed x hx] at hstage
        cases hstage
    sent := by rw [h.sent, ht.sent, total_append]
    dropped := by rw [h.dropped, ht.dropped, total_append] }

end

end SubscriptionManager

namespace Client

open SubscriptionManager

variable {c : Client}

/-! ## Runs -/

/-- The attempts that are armed, each with its list. -/
def arming (c : Client) (h : Happening) : List (WorkId × List Acknowledgement) :=
  c.managed.armedIn (c.undergo h).managed

/-- What the happenings of a run bring about, one after the other. -/
def gather {α : Type} (p : Client → Happening → List α) : List Happening → Client → List α
  | [], _ => []
  | h :: hs, c => p c h ++ gather p hs (c.undergo h)

theorem gather_snoc {α : Type} (p : Client → Happening → List α) (hs : List Happening)
    (h : Happening) (c : Client) : c.gather p (hs ++ [h]) = c.gather p hs ++ p (c.later hs) h := by
  induction hs generalizing c with
  | nil => exact List.append_nil _
  | cons h' hs ih => rw [List.cons_append, gather, gather, ih, later_cons, List.append_assoc]

/-- Whether an acknowledgement is put with those that are pending. -/
def adds (x : Acknowledgement) (c : Client) (h : Happening) : Bool :=
  c.managed.adds (c.undergo h).managed x

/-- Whether the subscription of an acknowledgement that is pending is deleted. -/
def discards (x : Acknowledgement) (c : Client) (h : Happening) : Bool :=
  c.managed.discards (c.undergo h).managed x

theorem Begins.founded (hc : c.Begins) (hs : List Happening) : (c.later hs).managed.Founded := by
  induction hs using List.reverseRecOn with
  | nil =>
    rw [later_nil, managed_of_eq hc.manager]
    exact nofun
  | append_singleton hs h ih =>
    obtain ⟨old, new, ht⟩ := transfers_undergo (hc.pumping.later hs) h
    rw [later_snoc]
    exact ht.founded ih

theorem Begins.tracks (hc : c.Begins) (hs : List Happening) :
    (c.later hs).managed.Tracks (c.gather arming hs) (c.gather starting hs)
      (c.gather failing hs) := by
  induction hs using List.reverseRecOn with
  | nil =>
    rw [later_nil, managed_of_eq hc.manager]
    exact tracks_fresh _
  | append_singleton hs h ih =>
    have hp := hc.pumping.later hs
    obtain ⟨old, new, ht⟩ := transfers_undergo hp h
    rw [later_snoc, gather_snoc, gather_snoc, gather_snoc]
    exact ih.step ht hp.metered.numbered (hc.founded hs)

/-- What has been added is in a list, has been discarded or is pending. -/
theorem Begins.conserved (hc : c.Begins) (hs : List Happening) (x : Acknowledgement) :
    c.tally (adds x) hs = ((c.gather arming hs).flatMap (·.2)).count x + c.tally (discards x) hs +
      (decide (x ∈ (c.later hs).managed.acknowledgements.pending)).toNat := by
  induction hs using List.reverseRecOn with
  | nil =>
    rw [later_nil, managed_of_eq hc.manager]
    rfl
  | append_singleton hs h ih =>
    have hp := hc.pumping.later hs
    obtain ⟨old, new, ht⟩ := transfers_undergo hp h
    have hstep : (adds x (c.later hs) h).toNat + _ =
        (((c.later hs).arming h).flatMap (·.2)).count x + (discards x (c.later hs) h).toNat + _ :=
      ht.conserves hp.metered.numbered (hc.founded hs) x
    rw [later_snoc, tally_snoc, tally_snoc, gather_snoc, List.flatMap_append, List.count_append]
    omega

/-- The request that an attempt sends has the list of the attempt. -/
theorem question_pollAttempt {m : SubscriptionManager} (hm : c.manager = some m) {id : WorkId}
    {answerFirst : Bool} {posted : Posted} (hp : (c.pollAttempt id answerFirst).2 = some posted) :
    ∃ a, (id, a) ∈ m.attempts ∧ posted.request.question = ⟨.publish, ⟨a.acknowledgements⟩⟩ := by
  unfold pollAttempt at hp
  rw [hm] at hp
  dsimp only at hp
  cases ha : m.attempt? id with
  | none =>
    rw [ha] at hp
    cases hp
  | some a =>
    have hmem : (id, a) ∈ m.attempts := by
      obtain ⟨l₁, l₂, hl, -⟩ := List.lookup_eq_some_iff.1 ha
      exact hl ▸ List.mem_append_right _ List.mem_cons_self
    rw [ha] at hp
    dsimp only at hp
    refine ⟨a, hmem, ?_⟩
    split at hp
    · exact posted_startAttempt hp
    · exact posted_advanceAttempt hp
    · split at hp <;> cases hp

/-- The account of the acknowledgements of a run. Whatever has been put with those that are pending
is in the list of an attempt, has been discarded with its subscription, or is still pending, and
only a response that is accepted puts any there. No attempt is armed, started or fails twice, and
its list, which ascends, is the one that its request has. When attempts are armed, the first of
them takes all that is pending of subscriptions that are registered. The counters are the lengths of
the lists of the attempts that were started and of those whose requests failed. -/
theorem acknowledgements_accounted (hc : c.Begins) (hs : List Happening) :
    let m := (c.later hs).managed
    let armed := c.gather arming hs
    let started := c.gather starting hs
    let failed := c.gather failing hs
    (∀ x, c.tally (adds x) hs = (armed.flatMap (·.2)).count x + c.tally (discards x) hs +
        (decide (x ∈ m.acknowledgements.pending)).toNat) ∧
      ((armed.map (·.1)).Nodup ∧ ∀ p ∈ armed, p.2.Pairwise fun a b => a.lt b = true) ∧
      (started ⊆ armed ∧ (started.map (·.1)).Nodup) ∧
      (failed ⊆ started ∧ (failed.map (·.1)).Nodup) ∧
      m.stats.acknowledgementsSent = total started ∧
      m.stats.acknowledgementsDropped = total failed ∧
      (∀ id answerFirst posted,
        ((c.later hs).act (.run (.attempt id answerFirst))).2 = some posted →
        ∃ l, (id, l) ∈ armed ∧ posted.request.question = ⟨.publish, ⟨l⟩⟩) ∧
      ∀ h, let m' := ((c.later hs).undergo h).managed
        (∀ x, adds x (c.later hs) h = true → ∃ a, (c.later hs).accepted? h = some a ∧
          x.subscription = a.subscription ∧ x.sequenceNumber ∈ a.available) ∧
        ∀ p rest, (c.later hs).arming h = p :: rest →
          (∀ x, x ∈ p.2 ↔ x ∈ m.acknowledgements.pending ∧
            m'.registry.contains x.subscription = true) ∧
          (∀ q ∈ rest, q.2 = []) ∧ m'.acknowledgements.pending = [] := by
  have ht := hc.tracks hs
  have hp := hc.pumping.later hs
  have hm := hc.founded hs
  refine ⟨hc.conserved hs, ⟨ht.armed_nodup, ht.ascending⟩, ⟨ht.started_armed, ht.started_nodup⟩,
    ⟨ht.failed_started, ht.failed_nodup⟩, ht.sent, ht.dropped, fun id answerFirst posted hposted => ?_,
    fun h => ⟨fun x hx => ?_, fun p rest harm => ?_⟩⟩
  · obtain ⟨a, ha, hq⟩ := question_pollAttempt hp.manager hposted
    exact ⟨_, ht.lists _ ha, hq⟩
  · obtain ⟨old, new, hstep⟩ := transfers_undergo hp h
    obtain ⟨hnot, hin⟩ := of_decide_eq_true hx
    have hflows := hstep.flows
    cases e : (c.later hs).accepted? h with
    | none =>
      rw [e] at hstep
      exact absurd (mem_remaining.1 (hstep.pending_subset hm hin)).1 hnot
    | some a =>
      rw [e] at hflows
      obtain ⟨hsub, hnum⟩ := ((hflows.2.pending x).1 hin).resolve_right hnot
      exact ⟨a, rfl, hsub, hnum⟩
  · obtain ⟨old, new, hstep⟩ := transfers_undergo hp h
    rw [arming, hstep.armedIn_eq hp.metered.numbered] at harm
    cases new with
    | nil => cases harm
    | cons y rest' =>
      obtain ⟨hy, hrest, hnone⟩ := hstep.armed_first hm rfl
      rw [List.map_cons, List.cons.injEq] at harm
      obtain ⟨rfl, rfl⟩ := harm
      refine ⟨fun x => ?_, fun q hq => ?_, hnone⟩
      · rw [hy]
        exact mem_remaining
      · obtain ⟨z, hz, rfl⟩ := List.mem_map.1 hq
        exact hrest z hz

/-- The attempt that carries the acknowledgement of the message 1 is started, and fails when the
manager is shut down. -/
def sampleLoss : List Happening :=
  sampleGap.map .act ++
    [.act (.run (.attempt 2 false)), .act .shutDown, .act (.run (.attempt 2 false))]

/-- The acknowledgement has been pending once and does not come back. -/
theorem acknowledgements_accounted_sample :
    sample.Begins ∧ sample.tally (adds ⟨7, 1⟩) sampleLoss = 1 ∧
      ((sample.gather arming sampleLoss).flatMap (·.2)).count ⟨7, 1⟩ = 1 ∧
      (sample.gather failing sampleLoss).map (·.1) = [2] ∧
      (sample.later sampleLoss).managed.stats.acknowledgementsSent = 1 ∧
      (sample.later sampleLoss).managed.stats.acknowledgementsDropped = 1 ∧
      ⟨7, 1⟩ ∉ (sample.later sampleLoss).managed.acknowledgements.pending := by
  obtain ⟨hx, -, -, -, hsent, hdropped, -⟩ := acknowledgements_accounted sample_begins sampleLoss
  have hadds : sample.tally (adds ⟨7, 1⟩) sampleLoss = 1 := by decide +kernel
  have hdiscards : sample.tally (discards ⟨7, 1⟩) sampleLoss = 0 := by decide +kernel
  have hgone : ⟨7, 1⟩ ∉ (sample.later sampleLoss).managed.acknowledgements.pending := by
    decide +kernel
  have hcount := hx ⟨7, 1⟩
  rw [hadds, hdiscards, decide_eq_false hgone] at hcount
  exact ⟨sample_begins, hadds, hcount.symm, by decide +kernel, hsent.trans (by decide +kernel),
    hdropped.trans (by decide +kernel), hgone⟩

end Client

end OpcUa
