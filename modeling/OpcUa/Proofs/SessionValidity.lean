import OpcUa.Proofs.CallCourse
import OpcUa.Proofs.SessionRelease

/-!
# Sessions that callers hold

Callers keep the sessions that they have got. On every way out of a state that holds a session the
driver revokes it, so what callers hold is valid only while the driver holds it too.

* `SessionDriver.Owned`: the sessions that were promised are revoked or held.
* `Client.WasGiven`: a session that some caller has got.
* `Client.valid_session_held`: of these one at most is valid, and none when a close has returned.
-/

namespace OpcUa

namespace SessionDriver

variable {d d' : SessionDriver} {awaited : Bool} {x : Option SessionExchange} {s : Session}

/-- A session with which some promise was kept. -/
def Promised (d : SessionDriver) (s : Session) : Prop := some (.ok s) ∈ d.outcomes

/-- The sessions with which promises were kept are revoked, but for the one that the driver holds. -/
def Owned (d : SessionDriver) : Prop :=
  ∀ s, d.Promised s → s.key ∈ d.revoked ∨ d.state.session? = some s

/-- What callers get that ask for a session or go on with their wait. -/
def Gives (d : SessionDriver) (s : Session) : Prop :=
  d.ask.2 = .done (.ok s) ∨ ∃ w, (d.resume w).2 = .done (.ok s)

/-! ## What is given is promised -/

theorem promised_of_outcome? {p : PromiseId} (h : d.outcome? p = some (.ok s)) : d.Promised s := by
  rw [outcome?_eq, Option.join_eq_some_iff] at h
  exact List.mem_of_getElem? h

theorem promised_of_look (h : d.look = .done (.ok s)) : d.Promised s := by
  refine promised_of_outcome? (p := d.promise) ?_
  rw [outcome?_promise]
  unfold look at h
  split at h
  · cases h
  · cases h
  · rename_i hp
    split at h
    · cases h
      exact hp
    · cases h

theorem promised_of_ask (h : d.ask.2 = .done (.ok s)) : d.Promised s := by
  unfold ask at h
  split at h
  · cases h
  · rename_i hd
    have h := promised_of_look h
    rwa [enqueue_of_running (Bool.eq_false_iff.2 hd)] at h

theorem promised_of_resume {w : SessionWait} (h : (d.resume w).2 = .done (.ok s)) :
    d.Promised s := by
  cases w with
  | outcome p =>
    unfold resume at h
    dsimp only at h
    split at h
    · split at h
      · cases h
      · cases h
      · rename_i ho
        split at h
        · cases h
          exact promised_of_outcome? ho
        · exact promised_of_ask h
    · exact promised_of_look h
  | retirement p =>
    unfold resume at h
    dsimp only at h
    split at h
    · exact promised_of_ask h
    · cases h

theorem Gives.promised (h : d.Gives s) : d.Promised s :=
  h.elim promised_of_ask fun ⟨_, h⟩ => promised_of_resume h

/-! ## What is promised is held -/

/-- Kept promises stay. -/
theorem Turns.promised (h : Turns d awaited d' x) (hs : d.Promised s) : d'.Promised s := by
  obtain ⟨r, rest, ho, -⟩ := h.outcomes_eq
  rw [Promised, ho]
  rcases List.mem_append.1 hs with hs | hs
  · exact List.mem_append_left _ hs
  · refine List.mem_append_right _ ?_
    rw [← List.mem_singleton.1 hs]
    exact List.mem_cons_self

theorem mem_outcomes {o : Option SessionOutcome} : o ∈ d.outcomes ↔ o ∈ d.past ∨ o = d.present := by
  rw [outcomes, List.mem_append, List.mem_singleton]

/-- A promise is kept on entering `active`, with the session of that state. -/
theorem Moves.promised {event : SessionEvent} (h : Moves d awaited event d' x)
    (hs : d'.Promised s) : d.Promised s ∨ d'.state = .active s := by
  rcases mem_outcomes.1 hs with hs | hs
  · cases h with
    | opens | created | activated | carries => exact .inl (mem_outcomes.2 (.inl hs))
    | closes => exact .inl hs
    | ends =>
      rcases List.mem_append.1 hs with hs | hs
      · exact .inl (mem_outcomes.2 (.inl hs))
      · have hs := List.mem_singleton.1 hs
        cases hp : d.present with
        | none => rw [hp] at hs; cases hs
        | some o => exact .inl (mem_outcomes.2 (.inr (hs.trans (by rw [hp]; rfl))))
  · cases h with
    | opens | created | carries => exact .inl (mem_outcomes.2 (.inr hs))
    | activated =>
      cases hp : d.present with
      | none =>
        dsimp only at hs
        rw [hp] at hs
        cases hs
        exact .inr rfl
      | some o =>
        dsimp only at hs
        rw [hp] at hs
        exact .inl (mem_outcomes.2 (.inr (hs.trans hp.symm)))
    | closes | ends => cases hs

/-- The sessions that the driver lets go of are revoked. -/
theorem Moves.holds {event : SessionEvent} (h : Moves d awaited event d' x)
    (hs : d.state.session? = some s) : s.key ∈ d'.revoked ∨ d'.state.session? = some s := by
  cases h with
  | opens h | created h | activated h =>
    rw [h] at hs
    cases hs
  | closes h =>
    rw [h] at hs
    exact .inr hs
  | carries h =>
    rw [h] at hs
    cases hs
    exact .inl List.mem_cons_self
  | ends =>
    dsimp only
    rw [hs]
    exact .inl (List.mem_append_left _ (List.mem_singleton_self _))

theorem Moves.revoked_subset {event : SessionEvent} (h : Moves d awaited event d' x) :
    d.revoked ⊆ d'.revoked := by
  cases h with
  | opens | created | activated | closes => exact List.Subset.refl _
  | carries => exact List.subset_cons_self _ _
  | ends => exact List.subset_append_right _ _

theorem Owned.keep (h : d.Owned) (hp : ∀ s, d'.Promised s → d.Promised s ∨ d'.state = .active s)
    (hr : d.revoked ⊆ d'.revoked)
    (hs : ∀ s, d.state.session? = some s → s.key ∈ d'.revoked ∨ d'.state.session? = some s) :
    d'.Owned := by
  intro s hs'
  rcases hp s hs' with hs' | hs'
  · exact (h s hs').elim (fun hk => .inl (hr hk)) (hs s)
  · exact .inr (congrArg SessionState.session? hs')

theorem Turns.owned (h : d.Owned) (hT : Turns d awaited d' x) : d'.Owned := by
  cases hT with
  | rests | drops | joins | answers => exact h
  | @moves c rest _ _ _ _ _ _ hm =>
    refine h.keep (fun s hs => ?_) (fun k hk => ?_) fun s hs => ?_
    · refine (hm.promised hs).imp_left fun hs => ?_
      rwa [Promised, outcomes, take_past, take_present] at hs
    · exact hm.revoked_subset ((take_revoked c rest d).symm ▸ hk)
    · exact hm.holds ((take_state c rest d).symm ▸ hs)
  | stops =>
    rw [shutDown_eq]
    refine h.keep (fun s hs => .inl ?_) (List.subset_append_right _ _) fun s hs => ?_
    · rcases mem_outcomes.1 hs with hs | hs
      · rcases List.mem_append.1 hs with hs | hs
        · exact mem_outcomes.2 (.inl hs)
        · have hs := List.mem_singleton.1 hs
          cases hp : d.present with
          | none => rw [hp] at hs; cases hs
          | some o => exact mem_outcomes.2 (.inr (hs.trans (by rw [hp]; rfl)))
      · cases hs
    · dsimp only
      rw [hs]
      exact .inl (List.mem_append_left _ (List.mem_singleton_self _))

theorem Owned.grow (h : d.Owned) (cs : List SessionCommand) (keys : List SessionKey)
    (key : SessionKey) : Owned
      { d with commands := d.commands ++ cs, revoked := keys ++ d.revoked, nextKey := key } :=
  fun s hs => (h s hs).imp_left (List.mem_append_right keys)

theorem owned_fresh : Owned fresh := by
  intro s hs
  rcases mem_outcomes.1 hs with hs | hs <;> cases hs

/-! ## Closing -/

theorem holds_take {c : SessionCommand} {rest : List SessionCommand} {ticket : CloseTicket}
    (hc : d.commands = c :: rest) (h : d.holds ticket = true) :
    (d.take c rest).holds ticket = true := by
  rw [holds, Bool.or_eq_true, hc, List.any_cons, Bool.or_eq_true] at h
  rw [holds, Bool.or_eq_true, take_commands]
  cases c with
  | event | shutdown =>
    rcases h with h | h | h
    · exact .inl h
    · cases h
    · exact .inr h
  | close t =>
    rcases h with h | h | h
    · refine .inl (List.contains_iff_mem.2 (List.mem_append_left _ (List.contains_iff_mem.1 h)))
    · have h : t = ticket := by simpa using h
      subst h
      exact .inl (List.contains_iff_mem.2 (List.mem_append_right _ (List.mem_singleton_self _)))
    · exact .inr h

/-- Who waits for the session to be closed is told when there is none. -/
theorem Moves.holds_or {event : SessionEvent} {ticket : CloseTicket}
    (h : Moves d awaited event d' x) (ht : d.holds ticket = true) :
    d'.holds ticket = true ∨ d'.state = .inactive := by
  cases h with
  | opens | created | activated | closes => exact .inl ht
  | carries | ends => exact .inr rfl

theorem Turns.holds_or {ticket : CloseTicket} (hT : Turns d awaited d' x)
    (h : d.holds ticket = true) : d'.holds ticket = true ∨ d'.state = .inactive := by
  cases hT with
  | rests => exact .inl h
  | drops hc => exact .inl (holds_take hc h)
  | joins hc => exact .inl (holds_take hc h)
  | answers _ hs => exact .inr hs
  | moves hc _ _ hm => exact hm.holds_or (holds_take hc h)
  | stops =>
    rw [shutDown_eq]
    exact .inr rfl

/-- The sessions of `P` are dismissed when the caller with the ticket waits no more. -/
structure Dismisses (ticket : CloseTicket) (P : Session → Prop) (d : SessionDriver) : Prop where
  owned : d.Owned
  promised : ∀ s, P s → d.Promised s
  waits : d.holds ticket = true ∨ ∀ s, P s → s.key ∈ d.revoked

variable {ticket : CloseTicket} {P : Session → Prop}

/-- Without a session, all of them are revoked. -/
theorem Owned.revoked (h : d.Owned) (hs : d.state = .inactive) (hp : d.Promised s) :
    s.key ∈ d.revoked := by
  refine (h s hp).resolve_right fun h => ?_
  rw [hs] at h
  cases h

theorem Turns.revoked_subset (hT : Turns d awaited d' x) : d.revoked ⊆ d'.revoked := by
  cases hT with
  | rests | drops | joins | answers => exact List.Subset.refl _
  | @moves c rest _ _ _ _ _ _ hm =>
    exact fun k hk => hm.revoked_subset ((take_revoked c rest d).symm ▸ hk)
  | stops =>
    rw [shutDown_eq]
    exact List.subset_append_right _ _

theorem Dismisses.turns (h : d.Dismisses ticket P) (hT : Turns d awaited d' x) :
    d'.Dismisses ticket P := by
  have howned := hT.owned h.owned
  have hp : ∀ s, P s → d'.Promised s := fun s hs => hT.promised (h.promised s hs)
  refine ⟨howned, hp, ?_⟩
  rcases h.waits with ht | hr
  · exact (hT.holds_or ht).imp_right fun hi s hs => howned.revoked hi (hp s hs)
  · exact .inr fun s hs => hT.revoked_subset (hr s hs)

theorem Dismisses.grow (h : d.Dismisses ticket P) (cs : List SessionCommand)
    (keys : List SessionKey) (key : SessionKey) : Dismisses ticket P
      { d with commands := d.commands ++ cs, revoked := keys ++ d.revoked, nextKey := key } := by
  refine ⟨h.owned.grow cs keys key, h.promised, ?_⟩
  refine h.waits.imp (fun ht => ?_) fun hr s hs => List.mem_append_right _ (hr s hs)
  rw [holds, Bool.or_eq_true] at ht ⊢
  refine ht.imp_right fun ht => ?_
  rw [List.any_append, ht, Bool.true_or]

/-- A caller asks for the session to be closed. -/
theorem dismisses_enqueue (h : d.Owned) (hend : d.Ended) (ticket : CloseTicket) :
    Dismisses ticket d.Promised (d.enqueue (.close ticket)) := by
  cases hd : d.stopped with
  | true =>
    rw [show d.enqueue (.close ticket) = d from if_pos hd]
    exact ⟨h, fun _ => id, .inr fun s hs => h.revoked (hend hd).1 hs⟩
  | false =>
    rw [enqueue_of_running hd]
    refine ⟨h, fun _ => id, .inl ?_⟩
    simp [holds]

end SessionDriver

theorem SessionNews.eq_of_mem_grants {news : SessionNews} {s : Session} (h : s ∈ news.grants) :
    news = .done (.ok s) := by
  cases news with
  | wait => cases h
  | done outcome =>
    cases outcome with
    | ok => rw [List.mem_singleton.1 h]
    | error => cases h

namespace SessionSide

variable {σ σ' : SessionSide} {R : Session → Prop} {h : Happening} {b : Bool}

/-- What callers have got was promised. -/
def Honours (σ : SessionSide) : Prop := ∀ s ∈ σ.granted, σ.driver.Promised s

theorem Stirs.honours (hs : Stirs R σ σ') (hσ : σ.Honours) : σ'.Honours := by
  have old {d : SessionDriver} (hh : σ.driver.Hears d) {s : Session}
      (h : σ.driver.Promised s) : d.Promised s := by
    obtain ⟨-, -, -⟩ := hh
    exact h
  cases hs with
  | rests _ _ hg => exact fun s hm => hσ s (hg hm)
  | asks _ _ hg =>
    intro s hm
    refine old (SessionDriver.hears_ask _) ?_
    rcases List.mem_append.1 (hg hm) with hm | hm
    · exact SessionDriver.promised_of_ask (SessionNews.eq_of_mem_grants hm)
    · exact hσ s hm
  | resumes _ _ hg =>
    intro s hm
    refine old (SessionDriver.hears_resume _ _) ?_
    rcases List.mem_append.1 (hg hm) with hm | hm
    · exact SessionDriver.promised_of_resume (SessionNews.eq_of_mem_grants hm)
    · exact hσ s hm
  | reports => exact fun s hm => old (SessionDriver.hears_invalidate ..) (hσ s hm)
  | closes => exact fun s hm => old (SessionDriver.hears_enqueue rfl _) (hσ s hm)
  | disconnects => exact hσ
  | leaves => exact fun s hm => old (SessionDriver.hears_requestShutdown _) (hσ s hm)

theorem Step.honours (hs : σ.Step h b σ') (ht : σ.driver.Tidy) (hσ : σ.Honours) :
    σ'.Honours := by
  have quiet {d : SessionDriver} (h : d.outcomes = σ.driver.outcomes) :
      ∀ s ∈ σ.granted, d.Promised s := by
    intro s hm
    rw [SessionDriver.Promised, h]
    exact hσ s hm
  have enqueue (c : SessionCommand) (d : SessionDriver) :
      (d.enqueue c).outcomes = d.outcomes := by
    unfold SessionDriver.enqueue
    split <;> rfl
  cases hs with
  | turned =>
    intro s hm
    rw [granted_turn] at hm
    exact (turns_turn ht).promised (hσ s hm)
  | ended he =>
    obtain ⟨hx, hd⟩ := he
    obtain ⟨key, keys, rfl⟩ := hd.eq
    exact quiet (enqueue _ _)
  | faltered => exact hσ
  | injected => exact quiet (enqueue _ _)
  | stirred hs => exact of_stirs (fun hs h => hs.honours h) hs hσ

end SessionSide

namespace Client

variable {c : Client} {P : Session → Prop}

theorem IsNew.owned (hc : c.IsNew) (hs : List Happening) : (c.later hs).driver.Owned := by
  have h₀ : (c.later []).driver.Owned := hc.driver_eq ▸ SessionDriver.owned_fresh
  exact hc.driver_later h₀ (fun h _ hT => hT.owned h) (fun h => h.grow) hs

theorem IsNew.honours (hc : c.IsNew) (hs : List Happening) : (c.later hs).side.Honours := by
  induction hs using List.reverseRecOn with
  | nil => cases hc <;> exact List.forall_mem_nil _
  | append_singleton hs h ih => exact (hc.step hs h).honours (hc.tidy_later hs) ih

/-- Some caller has got the session in the run, or would have got it if it had asked. -/
def WasGiven (hs : List Happening) (s : Session) (c : Client) : Prop :=
  ∃ before, before <+: hs ∧
    (s ∈ (c.later before).granted ∨ (c.later before).driver.Gives s)

theorem IsNew.promised_of_wasGiven (hc : c.IsNew) {hs : List Happening} {s : Session}
    (h : c.WasGiven hs s) : (c.later hs).driver.Promised s := by
  obtain ⟨before, ⟨after, rfl⟩, h⟩ := h
  have h₀ : (c.later before).driver.Promised s :=
    h.elim (hc.honours before s) SessionDriver.Gives.promised
  exact hc.driver_later h₀ (fun h _ hT => hT.promised h) (fun h _ _ _ => h) after

/-- A session that some caller has got is held as long as it is valid. -/
theorem IsNew.session?_of_wasGiven (hc : c.IsNew) {hs : List Happening} {s : Session}
    (hs' : c.WasGiven hs s) (hv : (c.later hs).driver.isValid s = true) :
    (c.later hs).driver.state.session? = some s := by
  refine (hc.owned hs s (hc.promised_of_wasGiven hs')).resolve_left fun hk => ?_
  rw [SessionDriver.isValid, List.contains_iff_mem.2 hk] at hv
  cases hv

/-! ## Calls that close the session -/

/-- The call waits for the session to be closed, or the sessions of `P` are revoked. -/
structure Parts (id : CallId) (job : Job) (P : Session → Prop) (c : Client) : Prop where
  driver : c.driver.Dismisses id P
  call : c.calls.lookup id = some ⟨job, .closing⟩ ∨ ∀ s, P s → s.key ∈ c.driver.revoked

theorem parts_awaitClose {id : CallId} {job : Job} {stage : CallStage}
    (hd : c.driver.Dismisses id P) (hl : c.calls.lookup id = some ⟨job, stage⟩) :
    (c.awaitClose id job).Parts id job P := by
  have hs := (advances_awaitClose id job c).service
  have e : (c.awaitClose id job).driver = c.driver := congrArg ServiceClient.driver hs
  refine ⟨e ▸ hd, ?_⟩
  rw [e]
  rcases hd.waits with hh | hr
  · refine .inl ?_
    unfold awaitClose
    rw [if_pos hh]
    exact lookup_setCall hl .closing
  · exact .inr hr

/-- What a call does that closes the session. -/
theorem parts_startJob {id : CallId} {job : Job} {stage : CallStage}
    (hj : job = .close ∨ ∃ managed, job = .disconnect managed)
    (hl : c.calls.lookup id = some ⟨job, stage⟩) (ho : c.driver.Owned) (he : c.driver.Ended) :
    (c.startJob id job).1.Parts id job c.driver.Promised := by
  have hd := SessionDriver.dismisses_enqueue ho he id
  rcases hj with rfl | ⟨managed, rfl⟩
  · exact parts_awaitClose
      (c := c.withService fun s => { s with driver := s.driver.enqueue (.close id) }) hd hl
  · cases managed
    · exact parts_awaitClose
        (c := (c.withService fun s => { s with disconnected := true }).withService
          fun s => { s with driver := s.driver.enqueue (.close id) }) hd hl
    · exact parts_awaitClose
        (c := ((c.withManager (·.shutDown)).withService
          fun s => { s with disconnected := true }).withService
            fun s => { s with driver := s.driver.enqueue (.close id) }) hd hl

theorem IsNew.revoked_subset (hc : c.IsNew) (hs : List Happening) (h : Happening) :
    (c.later hs).driver.revoked ⊆ (c.later (hs ++ [h])).driver.revoked := by
  rcases hc.turns_or hs h with ⟨-, awaited, x, hT⟩ | ⟨cs, keys, key, e⟩
  · exact hT.revoked_subset
  · rw [e]
    exact List.subset_append_right _ _

/-- A call that closes the session waits until all sessions are revoked that had been promised. -/
theorem IsNew.parts (hc : c.IsNew) {hs : List Happening} {id : CallId} {job : Job}
    (h₀ : (c.later hs).Parts id job P) {hs' : List Happening} (hh : .cancel id ∉ hs') :
    (c.later (hs ++ hs')).Parts id job P := by
  induction hs' using List.reverseRecOn with
  | nil => rwa [List.append_nil]
  | append_singleton hs' h ih =>
    rw [List.mem_append, not_or] at hh
    have ih := ih hh.1
    have hcancel : h ≠ .cancel id := fun e => hh.2 (e ▸ List.mem_singleton_self _)
    rw [← List.append_assoc]
    rcases ih.call with hl | hr
    · by_cases hrun : h = .act (.run (.call id))
      · rw [hrun, later_snoc, undergo_of_closing hl]
        exact parts_awaitClose ih.driver hl
      · refine ⟨hc.driver_later (P := (·.Dismisses id P)) ih.driver (fun h _ hT => h.turns hT)
          (fun h => h.grow) [h], .inl ?_⟩
        exact (spares_later (hc.lt_nextCall hl) hrun hcancel).calls.trans hl
    · exact ⟨hc.driver_later (P := (·.Dismisses id P)) ih.driver (fun h _ hT => h.turns hT)
        (fun h => h.grow) [h], .inr fun s hs => hc.revoked_subset _ h (hr s hs)⟩

/-- A session that some caller has got is valid only as long as the driver holds it, in use or
closing. So there is one such session at most; and when a call has returned that closes the session,
all that callers had got before the call went to the driver are invalid. -/
theorem valid_session_held (hc : c.IsNew) (hs : List Happening) :
    (∀ s, c.WasGiven hs s → (c.later hs).driver.isValid s = true →
      (c.later hs).driver.state = .active s ∨ (c.later hs).driver.state = .closing s) ∧
    (∀ s s', c.WasGiven hs s → c.WasGiven hs s' → (c.later hs).driver.isValid s = true →
      (c.later hs).driver.isValid s' = true → s = s') ∧
    ∀ id job hs', (c.later hs).calls.lookup id = some ⟨job, .fresh⟩ →
      (job = .close ∨ ∃ managed, job = .disconnect managed) → .cancel id ∉ hs' →
      (c.later (hs ++ .act (.run (.call id)) :: hs')).calls.lookup id = none →
      ∀ s, c.WasGiven hs s →
        (c.later (hs ++ .act (.run (.call id)) :: hs')).driver.isValid s = false := by
  refine ⟨fun s hs' hv => ?_, fun s s' hs₁ hs₂ hv hv' => ?_,
    fun id job hs' hl hj hh hnone s hs'' => ?_⟩
  · have h := hc.session?_of_wasGiven hs' hv
    cases hstate : (c.later hs).driver.state with
    | active s' =>
      rw [hstate] at h
      exact .inl (congrArg _ (Option.some.inj h))
    | closing s' =>
      rw [hstate] at h
      exact .inr (congrArg _ (Option.some.inj h))
    | inactive | creating | activating =>
      rw [hstate] at h
      cases h
  · exact Option.some.inj
      ((hc.session?_of_wasGiven hs₁ hv).symm.trans (hc.session?_of_wasGiven hs₂ hv'))
  · have h₀ : (c.later (hs ++ [.act (.run (.call id))])).Parts id job
        (c.later hs).driver.Promised := by
      rw [later_snoc, undergo_of_fresh hl]
      exact parts_startJob hj hl (hc.owned hs) (hc.ended hs)
    have h₁ := hc.parts h₀ hh
    rw [List.append_assoc, List.singleton_append] at h₁
    have hr := h₁.call.resolve_left fun h => nomatch h.symm.trans hnone
    rw [SessionDriver.isValid,
      List.contains_iff_mem.2 (hr s (hc.promised_of_wasGiven hs''))]
    rfl

section

open Simulation

/-- A session is opened, and a caller wants it to be closed. -/
def retiring : List Happening := opening ++ [.act (.call .close close_ne_connect)]

/-- The session is closed, and the call returns. -/
def retired : List Happening :=
  .act (.run .driver) :: exchanging 4 2 (goodReply .closeSession ()) ++
    [.act (.run .driver), .act (.run (.call 3))]

/-- The first caller keeps its session, which is not valid any more. -/
theorem valid_session_held_sample :
    ∃ s, newcomer.WasGiven retiring s ∧ (newcomer.later retiring).driver.isValid s = true ∧
      ((newcomer.later retiring).driver.state = .active s ∨
        (newcomer.later retiring).driver.state = .closing s) ∧
      (newcomer.later (retiring ++ .act (.run (.call 3)) :: retired)).calls.lookup 3 = none ∧
      (newcomer.later (retiring ++ .act (.run (.call 3)) :: retired)).driver.isValid s = false := by
  have hs : ⟨0, .null, .null, .ofSecs 60, 0, [], []⟩ ∈ (newcomer.later retiring).granted := by
    decide +kernel
  have hgiven : newcomer.WasGiven retiring ⟨0, .null, .null, .ofSecs 60, 0, [], []⟩ :=
    ⟨retiring, List.prefix_refl _, .inl hs⟩
  have hv : (newcomer.later retiring).driver.isValid ⟨0, .null, .null, .ofSecs 60, 0, [], []⟩ =
      true := by decide +kernel
  have hl : (newcomer.later retiring).calls.lookup 3 = some ⟨.close, .fresh⟩ := by rfl
  have hnone : (newcomer.later (retiring ++ .act (.run (.call 3)) :: retired)).calls.lookup 3 =
      none := Option.isNone_iff_eq_none.1 (by decide +kernel)
  obtain ⟨hheld, -, hclosed⟩ := valid_session_held newcomer_isNew retiring
  have hh : .cancel 3 ∉ retired := by simp [retired, exchanging]
  exact ⟨_, hgiven, hv, hheld _ hgiven hv, hnone, hclosed 3 .close retired hl (.inl rfl) hh hnone _
    hgiven⟩

end

end Client

end OpcUa
