import OpcUa.Proofs.SessionKeys

/-!
# Nobody waits for a session in vain

A caller that waits for a session, or for its end, waits for something that is on its way: an
exchange of the driver, a request in its queue, or the word that the session is lost.

* `SessionSide.Pursued`: what the present state waits for is on its way.
* `SessionDriver.Serves`: what a caller waits for is on its way.
* `Client.callers_released`: when nothing is on its way any more, nobody waits.
-/

namespace OpcUa

namespace SessionDriver

variable {d d' : SessionDriver} {awaited : Bool} {x : Option SessionExchange}

/-! ## Callers that wait for the end of the session -/

/-- Callers are kept waiting for the end of the session only while it is closing. -/
def Closing (d : SessionDriver) : Prop := d.closeWaiters ≠ [] → d.state.kind = .closing

/-- A driver that has stopped is `inactive`, and says that there is no session. -/
def Ended (d : SessionDriver) : Prop :=
  d.stopped = true → d.state = .inactive ∧ ∃ e, d.present = some (.error e)

theorem Moves.closing {c : SessionCommand} {rest : List SessionCommand} {event : SessionEvent}
    (hc : d.Closing) (he : c.event? = some event)
    (h : Moves (d.take c rest) awaited event d' x) : d'.Closing := by
  -- the command does not ask for the end unless it is a request to close
  have quiet (hne : event ≠ .closeRequested) : (d.take c rest).closeWaiters = d.closeWaiters := by
    cases c with
    | event | shutdown => rfl
    | close =>
      cases he
      exact absurd rfl hne
  cases h with
  | opens hs | created hs | activated hs =>
    intro hw
    have hw : (d.take c rest).closeWaiters ≠ [] := hw
    rw [quiet nofun] at hw
    rw [take_state] at hs
    exact nomatch (congrArg SessionState.kind hs).symm.trans (hc hw)
  | closes => exact fun _ => rfl
  | carries | ends => exact fun hw => absurd rfl hw

theorem Turns.closing (hc : d.Closing) (h : Turns d awaited d' x) : d'.Closing := by
  cases h with
  | rests | drops => exact hc
  | joins _ hs => exact fun _ => congrArg SessionState.kind hs
  | answers => exact fun hw => absurd rfl hw
  | moves _ he _ hm => exact hm.closing hc he
  | stops =>
    rw [shutDown_eq]
    exact fun hw => absurd rfl hw

theorem Turns.ended (he : d.Ended) (ht : d.Tidy) (h : Turns d awaited d' x) : d'.Ended := by
  cases h with
  | rests => exact he
  | stops =>
    rw [shutDown_eq]
    exact fun _ => ⟨rfl, _, rfl⟩
  | drops hc | joins hc | answers hc =>
    exact fun hs => nomatch (ht.stopped_eq (hc ▸ List.cons_ne_nil _ _)).symm.trans hs
  | moves hc _ _ hm =>
    intro hs
    rw [hm.stopped_eq, take_stopped, ht.stopped_eq (hc ▸ List.cons_ne_nil _ _)] at hs
    cases hs

/-! ## Callers that wait for a session -/

/-- What a caller waits for is on its way. -/
def Serves (d : SessionDriver) : SessionWait → Prop
  | .outcome p => p ≤ d.promise ∧
    (p = d.promise → d.stopped = false → d.state = .inactive →
      .event none .sessionRequested ∈ d.commands)
  | .retirement p => p ≤ d.promise ∧
    (p = d.promise → ∃ s, d.present = some (.ok s) ∧ s.key ∈ d.revoked)

variable {w : SessionWait}

/-- The promise stays, and the session that it gave stays revoked. -/
theorem Serves.keep (h : d.Serves w) (hp : d'.past = d.past)
    (hs : ∀ s, d.present = some (.ok s) → d'.present = some (.ok s)) (hr : d.revoked ⊆ d'.revoked)
    (hq : d'.stopped = false → d'.state = .inactive →
      (d.stopped = false → d.state = .inactive → .event none .sessionRequested ∈ d.commands) →
        .event none .sessionRequested ∈ d'.commands) : d'.Serves w := by
  have hp : d'.promise = d.promise := congrArg List.length hp
  cases w with
  | outcome p => exact ⟨hp ▸ h.1, fun e hd hi => hq hd hi (h.2 (e.trans hp))⟩
  | retirement p =>
    refine ⟨hp ▸ h.1, fun e => ?_⟩
    obtain ⟨s, hpres, hrev⟩ := h.2 (e.trans hp)
    exact ⟨s, hs s hpres, hr hrev⟩

/-- Others cannot take anything away. -/
theorem Serves.grow (h : d.Serves w) (cs : List SessionCommand) (keys : List SessionKey)
    (key : SessionKey) :
    Serves { d with
      commands := d.commands ++ cs
      revoked := keys ++ d.revoked
      nextKey := key } w :=
  h.keep rfl (fun _ => id) (List.subset_append_right _ _)
    fun hd hi hq => List.mem_append_left _ (hq hd hi)

/-- A promise that is replaced does not keep anyone waiting. -/
theorem Serves.of_past (h : d.Serves w) {o : Option SessionOutcome} (hp : d'.past = d.past ++ [o]) :
    d'.Serves w := by
  have hlt : d.promise < d'.promise := by
    rw [promise, promise, hp, List.length_append]
    exact Nat.lt_succ_self _
  cases w with
  | outcome p =>
    exact ⟨Nat.le_of_lt (Nat.lt_of_le_of_lt h.1 hlt),
      fun e => absurd h.1 (Nat.not_le_of_lt (e ▸ hlt))⟩
  | retirement p =>
    exact ⟨Nat.le_of_lt (Nat.lt_of_le_of_lt h.1 hlt),
      fun e => absurd h.1 (Nat.not_le_of_lt (e ▸ hlt))⟩

theorem Moves.serves {c : SessionCommand} {rest : List SessionCommand} {event : SessionEvent}
    (hw : d.Serves w) (h : Moves (d.take c rest) awaited event d' x) : d'.Serves w := by
  have hpast := take_past c rest d
  have hpres := take_present c rest d
  have hrev : d.revoked ⊆ (d.take c rest).revoked := fun k hk => (take_revoked c rest d).symm ▸ hk
  cases h with
  | opens | created =>
    exact hw.keep hpast (fun s hs => hpres.trans hs) hrev nofun
  | activated =>
    refine hw.keep hpast (fun s hs => ?_) hrev nofun
    dsimp only
    rw [hpres, hs]
    rfl
  | closes | ends => exact hw.of_past (congrArg (· ++ [_]) hpast)
  | carries =>
    exact hw.keep hpast (fun s hs => hpres.trans hs)
      (List.subset_cons_of_subset _ hrev)
      fun _ _ _ => List.mem_append_right _ (List.mem_singleton_self _)

/-- A request that is in the queue behind the command that is taken stays there. -/
theorem mem_rest {c c' : SessionCommand} {rest : List SessionCommand}
    (hc : d.commands = c :: rest) (h : c' ∈ d.commands) (hne : c' ≠ c) : c' ∈ rest :=
  (List.mem_cons.1 (hc ▸ h)).resolve_left hne

theorem Turns.serves (hw : d.Serves w) (h : Turns d awaited d' x) : d'.Serves w := by
  cases h with
  | rests => exact hw
  | drops hc hs =>
    refine hw.keep rfl (fun _ => id) (List.Subset.refl _) fun hd hi hq => mem_rest hc (hq hd hi) ?_
    -- the driver does not drop a request when there is no session
    rintro ⟨rfl, rfl⟩
    rcases hs with ⟨_, hs, -⟩ | hs
    · cases hs
    · have hi : d.state = .inactive := hi
      rw [hi] at hs
      cases hs
  | joins hc hs | answers hc hs =>
    exact hw.keep rfl (fun _ => id) (List.Subset.refl _) fun hd hi hq =>
      mem_rest hc (hq hd hi) nofun
  | moves _ _ _ hm => exact hm.serves hw
  | stops =>
    rw [shutDown_eq]
    exact hw.of_past rfl

/-- What a caller learns that asks for a session, or goes on with its wait. -/
theorem serves_look (hq : d.stopped = false → d.state = .inactive →
      .event none .sessionRequested ∈ d.commands) :
    ∀ w ∈ d.look.waits, d.Serves w := by
  intro w hw
  unfold look at hw
  split at hw
  · rw [List.mem_singleton.1 hw]
    exact ⟨Nat.le_refl _, fun _ => hq⟩
  · cases hw
  · split at hw
    · cases hw
    · rename_i s hs hv
      rw [List.mem_singleton.1 hw]
      refine ⟨Nat.le_refl _, fun _ => ⟨s, hs, ?_⟩⟩
      unfold isValid at hv
      simpa using hv

theorem serves_ask : ∀ w ∈ d.ask.2.waits, d.ask.1.Serves w := by
  unfold ask
  split
  · exact List.forall_mem_nil _
  · rename_i hd
    refine serves_look fun _ _ => ?_
    rw [enqueue_of_running (Bool.eq_false_iff.2 hd)]
    exact List.mem_append_right _ (List.mem_singleton_self _)

theorem serves_resume (hw : d.Serves w) :
    ∀ w' ∈ (d.resume w).2.waits, (d.resume w).1.Serves w' := by
  unfold resume
  cases w with
  | outcome p =>
    dsimp only
    split
    · split
      · exact List.forall_mem_nil _
      · exact List.forall_mem_nil _
      · split
        · exact List.forall_mem_nil _
        · exact serves_ask
    · rename_i hr
      exact serves_look (hw.2 (by simpa [isRetired] using hr))
  | retirement p =>
    dsimp only
    split
    · exact serves_ask
    · intro w' hw'
      rw [List.mem_singleton.1 hw']
      exact hw

/-- Who waits for a promise waits for an exchange or for the next request. -/
theorem Serves.of_outcome {p : PromiseId} (hw : d.Serves (.outcome p)) (hk : d.Kept)
    (he : d.Ended) (ho : d.isOver (.outcome p) = false) :
    d.stopped = false ∧
      (d.state.exchange?.isSome = true ∨ .event none .sessionRequested ∈ d.commands) := by
  obtain ⟨hnone, hp⟩ := Bool.or_eq_false_iff.1 ho
  have hp : p = d.promise := by simpa [isRetired] using hp
  rw [hp, outcome?_promise] at hnone
  have hd : d.stopped = false := Bool.eq_false_iff.2 fun hs => by
    obtain ⟨-, e, h⟩ := he hs
    rw [h] at hnone
    cases hnone
  refine ⟨hd, ?_⟩
  rw [hk.present hd] at hnone
  cases hs : d.state with
  | inactive => exact .inr (hw.2 hp hd hs)
  | active s =>
    rw [hs] at hnone
    cases hnone
  | creating | activating | closing => exact .inl rfl

/-- Who waits for a promise to be replaced waits for the word that the session is lost. -/
theorem Serves.of_retirement {p : PromiseId} (hw : d.Serves (.retirement p)) (hk : d.Kept)
    (he : d.Ended) (hkey : d.stopped = false → d.Keyed) (ho : d.isOver (.retirement p) = false) :
    ∃ e, .event none (.invalidated e) ∈ d.commands := by
  have hp : p = d.promise := by simpa [isOver, isRetired] using ho
  obtain ⟨s, hpres, hrev⟩ := hw.2 hp
  have hd : d.stopped = false := Bool.eq_false_iff.2 fun hs => by
    obtain ⟨-, e, h⟩ := he hs
    rw [h] at hpres
    cases hpres
  rw [hk.present hd] at hpres
  cases hs : d.state with
  | active s' =>
    rw [hs] at hpres
    cases hpres
    exact (hkey hd).told s hs hrev
  | inactive | creating | activating | closing =>
    rw [hs] at hpres
    cases hpres

end SessionDriver

namespace SessionSide

variable {σ σ' : SessionSide} {h : Happening}

theorem Stirs.serves {R : Session → Prop} (hs : Stirs R σ σ')
    (hw : ∀ w ∈ σ.waits, σ.driver.Serves w) : ∀ w ∈ σ'.waits, σ'.driver.Serves w := by
  have old {d : SessionDriver} (hh : σ.driver.Hears d) : ∀ w ∈ σ.waits, d.Serves w := by
    obtain ⟨-, -, -⟩ := hh
    exact fun w hm => (hw w hm).grow _ _ _
  cases hs with
  | rests _ hws _ => exact fun w hm => hw w (hws hm)
  | asks _ hws _ =>
    intro w hm
    rcases List.mem_append.1 (hws hm) with hm | hm
    · exact SessionDriver.serves_ask w hm
    · exact old (SessionDriver.hears_ask _) w hm
  | resumes hm₀ hws _ =>
    intro w hm
    rcases List.mem_append.1 (hws hm) with hm | hm
    · exact SessionDriver.serves_resume (hw _ hm₀) w hm
    · exact old (SessionDriver.hears_resume _ _) w hm
  | reports => exact old (SessionDriver.hears_invalidate ..)
  | closes => exact old (SessionDriver.hears_enqueue rfl _)
  | disconnects => exact hw
  | leaves => exact old (SessionDriver.hears_requestShutdown _)

theorem Step.serves {b : Bool} (hs : σ.Step h b σ') (ht : σ.driver.Tidy)
    (hw : ∀ w ∈ σ.waits, σ.driver.Serves w) : ∀ w ∈ σ'.waits, σ'.driver.Serves w := by
  have quiet {d : SessionDriver} {cs : List SessionCommand} {keys : List SessionKey}
      {key : SessionKey} (hd : d = { σ.driver with
        commands := σ.driver.commands ++ cs
        revoked := keys ++ σ.driver.revoked
        nextKey := key }) : ∀ w ∈ σ.waits, d.Serves w :=
    fun w hm => hd ▸ (hw w hm).grow cs keys key
  rcases hs.turn_or with ⟨-, rfl⟩ | ⟨cs, keys, key, hd⟩
  · rw [waits_turn]
    exact fun w hm => (turns_turn ht).serves (hw w hm)
  · cases hs with
    | turned => exact waits_turn σ ▸ quiet hd
    | ended he =>
      cases he
      exact quiet hd
    | faltered | injected => exact quiet hd
    | stirred hs => exact of_stirs (fun hs hw => hs.serves hw) hs hw

/-! ## What the driver waits for -/

/-- The exchange of the present state is under way, or its end is reported. -/
def Pursued (σ : SessionSide) : Prop :=
  σ.driver.stopped = false → ∀ x, σ.driver.state.exchange? = some x →
    (∃ id, (id, σ.driver.epoch, x) ∈ σ.exchanges) ∨
      ∃ event, x.EndsWith event ∧ .event (some σ.driver.epoch) event ∈ σ.driver.commands

/-- The state stays, and so do the reports that it takes note of. -/
theorem Pursued.keep (hp : σ.Pursued) (hs : σ'.driver.state = σ.driver.state)
    (he : σ'.driver.epoch = σ.driver.epoch)
    (hd : σ'.driver.stopped = false → σ.driver.stopped = false)
    (hx : σ'.exchanges = σ.exchanges ++ [])
    (hc : ∀ event, σ.driver.state.next? event ≠ none →
      .event (some σ.driver.epoch) event ∈ σ.driver.commands →
        .event (some σ.driver.epoch) event ∈ σ'.driver.commands) : σ'.Pursued := by
  intro hd' x hs'
  rw [hs] at hs'
  rw [he, hx, List.append_nil]
  exact (hp (hd hd') x hs').imp_right fun ⟨event, hend, hm⟩ =>
    ⟨event, hend, hc event (hend.next?_ne_none hs') hm⟩

theorem Pursued.turns (hp : σ.Pursued) {awaited : Bool} {d : SessionDriver}
    {x : Option SessionExchange} (hT : σ.driver.Turns awaited d x) (hd : σ'.driver = d)
    (hx : σ'.exchanges = σ.exchanges ++ (x.map (σ.nextCall, σ'.driver.epoch, ·)).toList) :
    σ'.Pursued := by
  cases hT with
  | rests => exact hp.keep (hd ▸ rfl) (hd ▸ rfl) (hd ▸ id) hx fun _ _ => hd ▸ id
  | drops hc hs =>
    refine hp.keep (hd ▸ rfl) (hd ▸ rfl) (hd ▸ id) hx fun event hn hm => ?_
    rw [hd]
    refine SessionDriver.mem_rest hc hm ?_
    rintro ⟨rfl, rfl⟩
    rcases hs with ⟨e, he, hne⟩ | hs
    · cases he
      exact hne rfl
    · exact hn hs
  | joins hc | answers hc =>
    refine hp.keep (hd ▸ rfl) (hd ▸ rfl) (hd ▸ id) hx fun event _ hm => ?_
    rw [hd]
    exact SessionDriver.mem_rest hc hm nofun
  | moves _ _ _ hm =>
    intro _ x hs
    rw [hd, hm.exchange?_eq] at hs
    subst hs
    rw [hx]
    exact .inl ⟨_, List.mem_append_right _ (List.mem_singleton_self _)⟩
  | stops =>
    intro hs
    rw [hd, SessionDriver.shutDown_eq] at hs
    cases hs

theorem Pursued.ends (hp : σ.Pursued) (hN : σ.Numbered) {id : CallId} (he : σ.Ends id σ') :
    σ'.Pursued := by
  obtain ⟨hx, hd⟩ := he
  rename_i epoch x event d
  intro hs y hy
  dsimp only at hs hy ⊢
  rw [SessionDriver.enqueue_stopped, hd.stopped_eq] at hs
  rw [SessionDriver.enqueue_of_running (hd.stopped_eq.trans hs)] at hy ⊢
  have hend := hd.endsWith
  obtain ⟨key, keys, rfl⟩ := hd.eq
  dsimp only at hy ⊢
  rcases hp hs y hy with ⟨id', hm⟩ | ⟨event', he', hm⟩
  · by_cases hid : id' = id
    · cases List.inj_on_of_nodup_map hN.nodup hm hx hid
      exact .inr ⟨event, hend, List.mem_append_right _ (List.mem_singleton_self _)⟩
    · exact .inl ⟨id', List.mem_filter.2 ⟨hm, bne_iff_ne.2 hid⟩⟩
  · exact .inr ⟨event', he', List.mem_append_left _ hm⟩

theorem Pursued.step (hp : σ.Pursued) (ht : σ.driver.Tidy) (hN : σ.Numbered)
    (hs : σ.Step h false σ') (hf : h.forges = false) : σ'.Pursued := by
  rcases hs.honest hf with rfl | ⟨id, he⟩ | ⟨hh, hx⟩ | ⟨hb, -⟩
  · exact hp.turns (turns_turn ht) rfl σ.exchanges_turn
  · exact hp.ends hN he
  · unfold Pursued at hp ⊢
    rw [hx]
    generalize σ'.driver = d at hh
    obtain ⟨-, -, -⟩ := hh
    exact fun hd x hs => (hp hd x hs).imp_right fun ⟨event, he, hm⟩ =>
      ⟨event, he, List.mem_append_left _ hm⟩
  · cases hb

end SessionSide

namespace Client

variable {c : Client}

theorem IsNew.closing (hc : c.IsNew) (hs : List Happening) : (c.later hs).driver.Closing := by
  have h₀ : (c.later []).driver.Closing := hc.driver_eq ▸ fun hw => absurd rfl hw
  exact hc.driver_later h₀ (fun h _ hT => hT.closing h) (fun h _ _ _ => h) hs

theorem IsNew.ended (hc : c.IsNew) (hs : List Happening) : (c.later hs).driver.Ended := by
  have h₀ : (c.later []).driver.Ended := hc.driver_eq ▸ nofun
  exact hc.driver_later h₀ (fun h ht hT => hT.ended h ht) (fun h _ _ _ => h) hs

theorem IsNew.serves (hc : c.IsNew) (hs : List Happening) :
    ∀ w ∈ (c.later hs).waits, (c.later hs).driver.Serves w := by
  induction hs using List.reverseRecOn with
  | nil => cases hc <;> exact List.forall_mem_nil _
  | append_singleton hs h ih => exact (hc.step hs h).serves (hc.tidy_later hs) ih

theorem IsNew.pursued (hc : c.IsNew) {hs : List Happening} (hf : c.NeverFalters hs)
    (hg : ∀ h ∈ hs, h.forges = false) : (c.later hs).side.Pursued := by
  refine hc.of_honest (P := fun hs => (c.later hs).side.Pursued) ?_
    (fun _ _ ih hs hh => ?_) hf hg
  · cases hc <;> exact fun _ x hx => nomatch hx
  · exact ih.step (hc.tidy_later _) (hc.numbered_later _) hs hh

/-- With nothing in the queue and no exchange in progress the driver waits for no exchange. -/
theorem IsNew.exchange?_eq_none (hc : c.IsNew) {hs : List Happening} (hf : c.NeverFalters hs)
    (hg : ∀ h ∈ hs, h.forges = false) (hcs : (c.later hs).driver.commands = [])
    (hx : (c.later hs).sessionTasks = []) (hd : (c.later hs).driver.stopped = false) :
    (c.later hs).driver.state.exchange? = none := by
  refine Option.eq_none_iff_forall_ne_some.2 fun x h => ?_
  rcases hc.pursued hf hg hd x h with ⟨id, hm⟩ | ⟨event, -, hm⟩
  · rw [side, hx] at hm
    cases hm
  · exact List.not_mem_nil (hcs ▸ hm)

/-- Nobody is kept waiting for the end of a session that is not closing. -/
theorem IsNew.closeWaiters_eq_nil (hc : c.IsNew) (hs : List Happening)
    (hx : (c.later hs).driver.stopped = false → (c.later hs).driver.state.exchange? = none) :
    (c.later hs).driver.closeWaiters = [] := by
  by_contra hw
  have hkind := hc.closing hs hw
  have hd : (c.later hs).driver.stopped = false := Bool.eq_false_iff.2 fun h => by
    rw [(hc.ended hs h).1] at hkind
    cases hkind
  have hx := hx hd
  cases hstate : (c.later hs).driver.state with
  | closing s =>
    rw [hstate] at hx
    cases hx
  | inactive | creating | activating | active =>
    rw [hstate] at hkind
    cases hkind

/-! ## Callers -/

/-- No caller can go on. -/
structure CallersRest (c : Client) : Prop where
  calls : ∀ p ∈ c.calls, c.isCallReady p.1 p.2.stage = false
  attempts : ∀ m, c.manager = some m → ∀ p ∈ m.attempts, c.isAttemptReady m p.2.stage = false
  recoveries : ∀ m, c.manager = some m → ∀ p ∈ m.recoveries, c.isRecoveryReady p.2.stage = false

theorem isReady_of_wait? {s : ServiceClient} {phase : CallPhase} {w : SessionWait}
    (h : phase.wait? = some w) : s.isReady phase = s.driver.isOver w := by
  cases phase with
  | session w' =>
    cases h
    rfl
  | exchange => cases h

theorem CallersRest.isOver (h : c.CallersRest) {w : SessionWait} (hw : w ∈ c.waits) :
    c.driver.isOver w = false := by
  rcases mem_waits.1 hw with ⟨p, hp, hw⟩ | ⟨m, hm, hw⟩
  · have hr := h.calls p hp
    cases hs : p.2.stage with
    | session w' =>
      rw [hs] at hw hr
      cases hw
      exact hr
    | calling phase | operating op phase =>
      rw [hs] at hw hr
      exact (isReady_of_wait? hw).symm.trans hr
    | fresh | closing | sending =>
      rw [hs] at hw
      cases hw
  · rcases List.mem_append.1 hw with hw | hw <;> obtain ⟨p, hp, hw⟩ := List.mem_filterMap.1 hw
    · have hr := h.attempts m hm p hp
      cases hs : p.2.stage with
      | publishing phase =>
        rw [hs] at hw hr
        exact (isReady_of_wait? hw).symm.trans (Bool.or_eq_false_iff.1 hr).2
      | armed | backingOff =>
        rw [hs] at hw
        cases hw
    · have hr := h.recoveries m hm p hp
      cases hs : p.2.stage with
      | republishing number phase =>
        rw [hs] at hw hr
        cases phase with
        | none => cases hw
        | some phase => exact (isReady_of_wait? hw).symm.trans hr
      | reading k rest phase =>
        rw [hs] at hw hr
        exact (isReady_of_wait? hw).symm.trans hr

/-- With nothing left to do nobody waits for a session. -/
theorem IsNew.waits_eq_nil (hc : c.IsNew) {hs : List Happening} (hf : c.NeverFalters hs)
    (hg : ∀ h ∈ hs, h.forges = false) (hcs : (c.later hs).driver.commands = [])
    (hx : (c.later hs).sessionTasks = []) (hrest : (c.later hs).CallersRest) :
    (c.later hs).waits = [] := by
  refine List.eq_nil_iff_forall_not_mem.2 fun w hw => ?_
  have hserved := hc.serves hs w hw
  have hover := hrest.isOver hw
  cases w with
  | outcome p =>
    obtain ⟨hd, h | h⟩ := hserved.of_outcome (hc.kept hs) (hc.ended hs) hover
    · rw [hc.exchange?_eq_none hf hg hcs hx hd] at h
      cases h
    · exact List.not_mem_nil (hcs ▸ h)
  | retirement p =>
    obtain ⟨e, h⟩ := hserved.of_retirement (hc.kept hs) (hc.ended hs) (hc.keyed hf hg) hover
    exact List.not_mem_nil (hcs ▸ h)

/-- When the queue of the driver is empty, no exchange is in progress and no caller can go on,
nobody waits for a session or for its end. A caller that was given a session that is not valid any
more can go on, or the driver is going to learn that the session is lost. -/
theorem callers_released (hc : c.IsNew) {hs : List Happening} (hf : c.NeverFalters hs)
    (hg : ∀ h ∈ hs, h.forges = false) :
    ((c.later hs).driver.commands = [] → (c.later hs).sessionTasks = [] →
      (c.later hs).CallersRest →
        (c.later hs).waits = [] ∧ ∀ p ∈ (c.later hs).calls, p.2.stage ≠ .closing) ∧
    (∀ p, .retirement p ∈ (c.later hs).waits → (c.later hs).driver.isOver (.retirement p) = true ∨
      ∃ e, .event none (.invalidated e) ∈ (c.later hs).driver.commands) ∧
    ((c.later hs).driver.closeWaiters ≠ [] → (c.later hs).driver.state.kind = .closing) := by
  have hkept := hc.kept hs
  have hended := hc.ended hs
  have hkeyed := hc.keyed hf hg
  refine ⟨fun hcs hx hrest => ?_, fun p hp => ?_, hc.closing hs⟩
  · refine ⟨hc.waits_eq_nil hf hg hcs hx hrest, fun p hp hstage => ?_⟩
    have hr := hrest.calls p hp
    rw [hstage] at hr
    have hholds : (c.later hs).driver.holds p.1 = true := by
      simpa [isCallReady] using hr
    rw [SessionDriver.holds, hcs,
      hc.closeWaiters_eq_nil hs (hc.exchange?_eq_none hf hg hcs hx)] at hholds
    cases hholds
  · cases hover : (c.later hs).driver.isOver (.retirement p) with
    | true => exact .inl rfl
    | false => exact .inr ((hc.serves hs _ hp).of_retirement hkept hended hkeyed hover)

/-- The session is reported as lost, and a caller asks for one before the driver has learnt of
it. -/
def lost : List Happening :=
  opening ++ [.act (.invalidate ⟨0, .null, .null, .ofSecs 60, 0, [], []⟩ (.invalidated "lost")),
    .act (.call .session session_ne_connect), .act (.run (.call 3))]

/-- The first caller has its session, and the second one is not forgotten. -/
theorem callers_released_sample :
    newcomer.IsNew ∧ newcomer.NeverFalters opening ∧ (∀ h ∈ opening, h.forges = false) ∧
      (newcomer.later opening).waits = [] ∧
      newcomer.NeverFalters lost ∧ (∀ h ∈ lost, h.forges = false) ∧
      .retirement 0 ∈ (newcomer.later lost).waits ∧
      ((newcomer.later lost).driver.isOver (.retirement 0) = true ∨
        ∃ e, .event none (.invalidated e) ∈ (newcomer.later lost).driver.commands) := by
  have hf : newcomer.NeverFalters opening := by decide +kernel
  have hg : ∀ h ∈ opening, h.forges = false := by decide
  have hf' : newcomer.NeverFalters lost := by decide +kernel
  have hg' : ∀ h ∈ lost, h.forges = false := by decide
  have hw : .retirement 0 ∈ (newcomer.later lost).waits := by decide +kernel
  have hcs : (newcomer.later opening).driver.commands = [] :=
    List.isEmpty_iff.1 (by decide +kernel)
  have hx : (newcomer.later opening).sessionTasks = [] := List.isEmpty_iff.1 (by decide +kernel)
  have hm : (newcomer.later opening).manager = none :=
    Option.isNone_iff_eq_none.1 (by decide +kernel)
  have hrest : (newcomer.later opening).CallersRest :=
    ⟨by decide +kernel, fun m h => (nomatch hm.symm.trans h), fun m h => nomatch hm.symm.trans h⟩
  exact ⟨newcomer_isNew, hf, hg, ((callers_released newcomer_isNew hf hg).1 hcs hx hrest).1, hf',
    hg', hw, (callers_released newcomer_isNew hf' hg').2.1 0 hw⟩

end Client

end OpcUa
