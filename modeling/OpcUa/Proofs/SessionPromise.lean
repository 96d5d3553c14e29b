import OpcUa.Proofs.SessionEpoch

/-!
# Promises of the session driver

Callers wait for a promise, and the driver answers all of them by resolving it. A promise is
resolved with a session on entering `active` and with an error on entering `inactive`; from
`closing` to `inactive` it may be carried over. One relation between the state and the present
promise holds between any two commands.

* `SessionDriver.Kept`: the relation.
* `Client.promise_of_state`: promises are kept.
-/

namespace OpcUa

/-- What the present promise says in a state. -/
def SessionState.promised? : SessionState → Option SessionOutcome
  | active s => some (.ok s)
  | inactive | creating | activating _ | closing _ => none

namespace SessionDriver

variable {d d' : SessionDriver} {awaited : Bool} {x : Option SessionExchange}

/-- The present promise says what the state holds, and the past ones are resolved. -/
structure Kept (d : SessionDriver) : Prop where
  present : d.stopped = false → d.present = d.state.promised?
  past : ∀ o ∈ d.past, o.isSome = true

/-- A caller that waits is told that there is no session. -/
def Breaks (d d' : SessionDriver) (e : SessionError) : Prop :=
  d'.state = .inactive ∧ ∃ c rest, d.commands = c :: rest ∧ e = c.failure ∧
    (c = .shutdown ∨ d.state ≠ .inactive)

/-- Whether the present promise is broken on an entry to `inactive`, and not because the session was
closed. -/
def fails (d d' : SessionDriver) : Bool :=
  d'.epoch != d.epoch && d'.state.kind == .inactive && (d.outcome? d.promise).isNone &&
    match d'.outcome? d.promise with
    | some (.error e) => e != .closed
    | some (.ok _) | none => false

/-! ## All promises -/

/-- The outcomes of the promises that were ever made. -/
def outcomes (d : SessionDriver) : List (Option SessionOutcome) := d.past ++ [d.present]

theorem outcome?_eq (d : SessionDriver) (p : PromiseId) :
    d.outcome? p = d.outcomes[p]?.join := by
  unfold outcome? outcomes promise
  split
  · rename_i h
    rw [h, List.getElem?_concat_length]
    rfl
  · rename_i h
    rcases Nat.lt_or_gt_of_ne h with h | h
    · rw [List.getElem?_append_left h]
    · rw [List.getElem?_eq_none (Nat.le_of_lt h), List.getElem?_eq_none]
      rw [List.length_append]
      exact h

theorem orElse_none (o : Option SessionOutcome) : (o <|> none) = o := by cases o <;> rfl

theorem failure_of_event? {c : SessionCommand} {event : SessionEvent} (h : c.event? = some event) :
    c.failure = event.failure := by
  unfold SessionCommand.failure
  rw [h]

/-- On entering a state the present promise may be resolved, and it may be replaced. -/
theorem Moves.outcomes_eq {event : SessionEvent} (h : Moves d awaited event d' x) :
    ∃ r rest, d'.outcomes = d.past ++ (d.present <|> r) :: rest ∧
      ∀ e, some (.error e) ∈ r :: rest →
        d'.state = .inactive ∧ d.state ≠ .inactive ∧ e = event.failure := by
  cases h with
  | opens | created | carries =>
    exact ⟨none, [], by rw [orElse_none]; rfl, fun e he => nomatch List.mem_singleton.1 he⟩
  | activated => exact ⟨some _, [], rfl, fun e he => nomatch List.mem_singleton.1 he⟩
  | closes =>
    refine ⟨none, [none], by rw [orElse_none, outcomes, List.append_assoc]; rfl, fun e he => ?_⟩
    rcases List.mem_cons.1 he with he | he
    · cases he
    · exact nomatch List.mem_singleton.1 he
  | ends hn =>
    refine ⟨some (.error event.failure), [none], by rw [outcomes, List.append_assoc]; rfl,
      fun e he => ?_⟩
    rcases List.mem_cons.1 he with he | he
    · cases he
      refine ⟨rfl, fun hi => ?_, rfl⟩
      rw [hi] at hn
      cases event <;> cases hn
    · exact nomatch List.mem_singleton.1 he

theorem shutDown_eq (d : SessionDriver) :
    d.shutDown =
      { d with
        state := .inactive
        commands := []
        stopped := true
        present := some (.error .clientShutdown)
        past := d.past ++ [d.present <|> some (.error .clientShutdown)]
        closeWaiters := []
        revoked := d.state.session?.toList.map (·.key) ++ d.revoked } := by
  unfold shutDown
  rw [revokeHeld_eq]
  rfl

theorem Turns.outcomes_eq (h : Turns d awaited d' x) :
    ∃ r rest, d'.outcomes = d.past ++ (d.present <|> r) :: rest ∧
      ∀ e, some (.error e) ∈ r :: rest → d.Breaks d' e := by
  cases h with
  | rests | drops | joins | answers =>
    exact ⟨none, [], by rw [orElse_none]; rfl, fun e he => nomatch List.mem_singleton.1 he⟩
  | moves h he hc hm =>
    obtain ⟨r, rest, ho, hr⟩ := hm.outcomes_eq
    rw [take_past, take_present] at ho
    refine ⟨r, rest, ho, fun e hm => ?_⟩
    obtain ⟨hs, hs', rfl⟩ := hr e hm
    rw [take_state] at hs'
    exact ⟨hs, _, _, h, (failure_of_event? he).symm, .inr hs'⟩
  | stops h =>
    rw [shutDown_eq]
    refine ⟨some (.error .clientShutdown), [some (.error .clientShutdown)],
      by rw [outcomes, List.append_assoc]; rfl, fun e he => ⟨rfl, _, _, h, ?_, .inl rfl⟩⟩
    rcases List.mem_cons.1 he with he | he
    · cases he
      rfl
    · cases List.mem_singleton.1 he
      rfl

/-- What is known of a promise stays, and what is new has just been decided. -/
theorem Turns.outcome?_cases (h : Turns d awaited d' x) (p : PromiseId) :
    (∀ o, d.outcome? p = some o → d'.outcome? p = some o) ∧
      ∀ e, d'.outcome? p = some (.error e) →
        d.outcome? p = some (.error e) ∨ d.outcome? p = none ∧ d.Breaks d' e := by
  obtain ⟨r, rest, ho, hr⟩ := h.outcomes_eq
  rw [outcome?_eq, outcome?_eq, ho, outcomes]
  rcases Nat.lt_trichotomy p d.past.length with hp | rfl | hp
  · rw [List.getElem?_append_left hp, List.getElem?_append_left hp]
    exact ⟨fun _ h => h, fun _ h => .inl h⟩
  · rw [List.getElem?_concat_length, List.getElem?_append_right (Nat.le_refl _), Nat.sub_self]
    cases d.present with
    | none => exact ⟨nofun, fun e he => .inr ⟨rfl, hr e (List.mem_cons.2 (.inl he.symm))⟩⟩
    | some o => exact ⟨fun _ h => h, fun _ h => .inl h⟩
  · rw [List.getElem?_eq_none (l := d.past ++ [d.present])
      (by rw [List.length_append]; exact hp)]
    refine ⟨nofun, fun e he => .inr ⟨rfl, hr e (List.mem_cons_of_mem r ?_)⟩⟩
    obtain ⟨k, rfl⟩ := Nat.exists_eq_add_of_lt hp
    rw [List.getElem?_append_right (Nat.le_of_lt hp), Option.join_eq_some_iff,
      Nat.add_assoc, Nat.add_sub_cancel_left, List.getElem?_cons_succ] at he
    exact List.mem_of_getElem? he

/-! ## The relation -/

/-- The present promise is open unless a session is in use. -/
theorem Kept.present_eq_none (hk : d.Kept) (hd : d.stopped = false)
    (hs : d.state.kind ≠ .active) : d.present = none := by
  rw [hk.present hd]
  cases hstate : d.state with
  | active s =>
    rw [hstate] at hs
    exact absurd rfl hs
  | inactive | creating | activating | closing => rfl

theorem Kept.isSome_of_lt (hk : d.Kept) {p : PromiseId} (hp : p < d.promise) :
    (d.outcome? p).isSome = true := by
  have hp' : p < d.past.length := hp
  rw [outcome?_eq, outcomes, List.getElem?_append_left hp', List.getElem?_eq_getElem hp']
  exact hk.past _ (List.getElem_mem hp')

theorem Moves.kept {event : SessionEvent} (hk : d.Kept) (hd : d.stopped = false)
    (h : Moves d awaited event d' x) : d'.Kept := by
  have hp := hk.present hd
  cases h with
  | opens hs | created hs | carries hs =>
    rw [hs] at hp
    exact ⟨fun _ => hp, hk.past⟩
  | activated hs =>
    rw [hs] at hp
    exact ⟨fun _ => by dsimp only; rw [hp]; rfl, hk.past⟩
  | closes hs =>
    rw [hs] at hp
    refine ⟨fun _ => rfl, fun o ho => ?_⟩
    rcases List.mem_append.1 ho with ho | ho
    · exact hk.past o ho
    · rw [List.mem_singleton.1 ho, hp]
      rfl
  | ends =>
    refine ⟨fun _ => rfl, fun o ho => ?_⟩
    rcases List.mem_append.1 ho with ho | ho
    · exact hk.past o ho
    · rw [List.mem_singleton.1 ho]
      cases d.present <;> rfl

theorem Turns.kept (hk : d.Kept) (ht : d.Tidy) (h : Turns d awaited d' x) : d'.Kept := by
  cases h with
  | rests | drops | joins | answers => exact ⟨hk.present, hk.past⟩
  | moves h _ _ hm =>
    have hd := ht.stopped_eq (h ▸ List.cons_ne_nil _ _)
    refine hm.kept ⟨fun _ => ?_, ?_⟩ ((take_stopped ..).trans hd)
    · rw [take_present, take_state]
      exact hk.present hd
    · rw [take_past]
      exact hk.past
  | stops =>
    rw [shutDown_eq]
    refine ⟨nofun, fun o ho => ?_⟩
    rcases List.mem_append.1 ho with ho | ho
    · exact hk.past o ho
    · rw [List.mem_singleton.1 ho]
      cases d.present <;> rfl

theorem kept_fresh : Kept fresh := ⟨fun _ => rfl, List.forall_mem_nil _⟩

/-! ## Failures -/

theorem fails_take (c : SessionCommand) (rest : List SessionCommand) (d d' : SessionDriver) :
    (d.take c rest).fails d' = d.fails d' := by
  cases c <;> rfl

theorem failures_of_epoch_eq (he : d'.epoch = d.epoch) (hs : d'.stats = d.stats) :
    d'.stats.failures = d.stats.failures + (d.fails d').toNat := by
  unfold fails
  rw [hs, he, bne_self_eq_false]
  rfl

theorem failures_of_ne_inactive (hn : d'.state ≠ .inactive)
    (hs : d'.stats.failures = d.stats.failures) :
    d'.stats.failures = d.stats.failures + (d.fails d').toNat := by
  have hk : (d'.state.kind == .inactive) = false := by
    cases hd : d'.state with
    | inactive => exact absurd hd hn
    | creating | activating | active | closing => rfl
  unfold fails
  rw [hs, hk, Bool.and_false]
  rfl

theorem outcome?_of_past_eq (h : d'.past = d.past) : d'.outcome? d.promise = d'.present := by
  rw [← outcome?_promise d', promise, promise, h]

theorem outcome?_of_past {o : Option SessionOutcome} (h : d'.past = d.past ++ [o]) :
    d'.outcome? d.promise = o := by
  rw [outcome?_eq, outcomes, h, promise, List.append_assoc,
    List.getElem?_append_right (Nat.le_refl _), Nat.sub_self]
  rfl

theorem Moves.failures_eq {event : SessionEvent} (h : Moves d awaited event d' x) :
    d'.stats.failures = d.stats.failures + (d.fails d').toNat := by
  have he : (d'.epoch != d.epoch) = true := by
    rw [h.epoch_eq]
    exact bne_iff_ne.2 (succ_ne _)
  cases h with
  | opens | created | activated | closes => exact failures_of_ne_inactive (by exact nofun) rfl
  | carries hs hp =>
    -- the promise is still open
    unfold fails
    rw [he, outcome?_promise, outcome?_of_past_eq (by rfl)]
    dsimp only
    rw [hp]
    rfl
  | ends hn ha hf =>
    unfold fails
    rw [he, outcome?_promise, outcome?_of_past rfl, hf]
    cases d.present with
    | none => rfl
    | some o => rfl

theorem Turns.failures_eq (h : Turns d awaited d' x) :
    d'.stats.failures = d.stats.failures + (d.fails d').toNat := by
  cases h with
  | rests | drops | joins | answers => exact failures_of_epoch_eq rfl rfl
  | moves h _ _ hm =>
    rw [hm.failures_eq, fails_take, take_stats]
  | stops h =>
    rw [shutDown_eq]
    exact failures_of_epoch_eq rfl rfl

end SessionDriver

namespace Client

variable {c : Client}

/-- Whether the present promise is broken on an entry to `inactive`, and not because the session was
closed. -/
def fails (c : Client) (h : Happening) : Bool := c.driver.fails (c.undergo h).driver

/-- A promise that is broken was broken by the command that ended the attempt, or the driver. -/
def BrokenIn (hs : List Happening) (p : PromiseId) (e : SessionError) (c : Client) : Prop :=
  ∃ before after command rest, hs = before ++ .act (.run .driver) :: after ∧
    (c.later before).driver.commands = command :: rest ∧
    (c.later before).driver.outcome? p = none ∧
    (command = .shutdown ∨ (c.later before).driver.state ≠ .inactive) ∧
    (c.later (before ++ [.act (.run .driver)])).driver.state = .inactive ∧
    (c.later (before ++ [.act (.run .driver)])).driver.outcome? p = some (.error e) ∧
    e = command.failure

theorem BrokenIn.snoc {hs : List Happening} {p : PromiseId} {e : SessionError}
    (h : c.BrokenIn hs p e) (a : Happening) : c.BrokenIn (hs ++ [a]) p e := by
  obtain ⟨before, after, command, rest, rfl, h⟩ := h
  exact ⟨before, after ++ [a], command, rest, by rw [List.append_assoc, List.cons_append], h⟩

/-- Either the driver performs a command, or all that callers see of it stays. -/
theorem IsNew.turns_or (hc : c.IsNew) (hs : List Happening) (h : Happening) :
    h = .act (.run .driver) ∧
        (∃ awaited x, (c.later hs).driver.Turns awaited (c.later (hs ++ [h])).driver x) ∨
      ∃ cs keys key, (c.later (hs ++ [h])).driver =
        { (c.later hs).driver with
          commands := (c.later hs).driver.commands ++ cs
          revoked := keys ++ (c.later hs).driver.revoked
          nextKey := key } := by
  rcases (hc.step hs h).turn_or with ⟨e, hturn⟩ | hquiet
  · have ht := SessionSide.turns_turn (σ := (c.later hs).side) (hc.tidy_later hs)
    rw [← hturn] at ht
    exact .inl ⟨e, _, _, ht⟩
  · exact .inr hquiet

/-- What each command keeps is kept by a run, if it does not depend on what is in the queue. -/
theorem IsNew.driver_later {P : SessionDriver → Prop} (hc : c.IsNew) {hs : List Happening}
    (h₀ : P (c.later hs).driver)
    (turns : ∀ {d d' : SessionDriver} {awaited : Bool} {x : Option SessionExchange},
      P d → d.Tidy → d.Turns awaited d' x → P d')
    (grow : ∀ {d : SessionDriver}, P d → ∀ cs keys key, P
      { d with commands := d.commands ++ cs, revoked := keys ++ d.revoked, nextKey := key })
    (hs' : List Happening) : P (c.later (hs ++ hs')).driver := by
  induction hs' using List.reverseRecOn with
  | nil => rwa [List.append_nil]
  | append_singleton hs' h ih =>
    rw [← List.append_assoc]
    rcases hc.turns_or (hs ++ hs') h with ⟨-, awaited, x, hT⟩ | ⟨cs, keys, key, e⟩
    · exact turns ih (hc.tidy_later (hs ++ hs')) hT
    · rw [e]
      exact grow ih cs keys key

theorem IsNew.kept (hc : c.IsNew) (hs : List Happening) : (c.later hs).driver.Kept := by
  have h₀ : (c.later []).driver.Kept := hc.driver_eq ▸ SessionDriver.kept_fresh
  exact hc.driver_later h₀ (fun hk ht hT => hT.kept hk ht)
    (fun hk _ _ _ => ⟨hk.present, hk.past⟩) hs

theorem IsNew.failures (hc : c.IsNew) (hs : List Happening) :
    (c.later hs).driver.stats.failures = c.tally fails hs := by
  induction hs using List.reverseRecOn with
  | nil =>
    rw [later_nil, hc.driver_eq]
    rfl
  | append_singleton hs h ih =>
    rw [tally_snoc, fails, ← later_snoc, ← ih]
    rcases hc.turns_or hs h with ⟨-, awaited, x, hT⟩ | ⟨cs, keys, key, e⟩
    · exact hT.failures_eq
    · rw [e]
      exact SessionDriver.failures_of_epoch_eq rfl rfl

/-- The outcome of a promise stays. -/
theorem IsNew.outcome?_stays (hc : c.IsNew) (hs hs' : List Happening) {p : PromiseId}
    {o : SessionOutcome} (h : (c.later hs).driver.outcome? p = some o) :
    (c.later (hs ++ hs')).driver.outcome? p = some o :=
  hc.driver_later (P := fun d => d.outcome? p = some o) h
    (fun h _ hT => (hT.outcome?_cases p).1 o h) (fun h _ _ _ => h) hs'

theorem IsNew.broken (hc : c.IsNew) (hs : List Happening) {p : PromiseId} {e : SessionError}
    (h : (c.later hs).driver.outcome? p = some (.error e)) : c.BrokenIn hs p e := by
  induction hs using List.reverseRecOn with
  | nil =>
    rw [later_nil, hc.driver_eq, SessionDriver.outcome?_eq] at h
    cases p <;> cases h
  | append_singleton hs a ih =>
    rcases hc.turns_or hs a with ⟨ha, awaited, x, hT⟩ | ⟨cs, keys, key, he⟩
    · rcases (hT.outcome?_cases p).2 e h with h | ⟨hp, hs', command, rest, hcmd, hfail, hwhy⟩
      · exact (ih h).snoc a
      · subst ha
        exact ⟨hs, [], command, rest, rfl, hcmd, hp, hwhy, hs', h, hfail⟩
    · rw [he] at h
      exact (ih h).snoc a

/-- The present promise is resolved in the state `active` alone, with the session of that state. A
promise gets one outcome at most, and has it when it is replaced. One that is broken tells the
failure of the event that led to `inactive`, or that the driver has stopped, and the statistics
count those that were broken on entering `inactive` for another reason than a session that was
closed. -/
theorem promise_of_state (hc : c.IsNew) (hs : List Happening) :
    ((c.later hs).driver.stopped = false →
      ((c.later hs).driver.present.isSome = true ↔ (c.later hs).driver.state.kind = .active) ∧
      ∀ s, (c.later hs).driver.state = .active s → (c.later hs).driver.present = some (.ok s)) ∧
    (∀ p o hs', (c.later hs).driver.outcome? p = some o →
      (c.later (hs ++ hs')).driver.outcome? p = some o) ∧
    (∀ p < (c.later hs).driver.promise, ((c.later hs).driver.outcome? p).isSome = true) ∧
    (∀ p e, (c.later hs).driver.outcome? p = some (.error e) → c.BrokenIn hs p e) ∧
    (c.later hs).driver.stats.failures = c.tally fails hs := by
  have hk := hc.kept hs
  refine ⟨fun hd => ?_, fun p o hs' => hc.outcome?_stays hs hs', fun p hp => ?_,
    fun p e => hc.broken hs, hc.failures hs⟩
  · rw [hk.present hd]
    constructor
    · cases (c.later hs).driver.state <;> simp [SessionState.promised?, SessionState.kind]
    · intro s h
      rw [h]
      rfl
  · exact hk.isSome_of_lt hp

/-- The connection is lost while a session is created, and somebody else reports a failure as
well. -/
def refusal : List Happening :=
  calling 0 .session session_ne_connect ++
    exchanging 1 0 (.error (.transport .notConnected)) ++
    [.act (.inject (.createFailed .closed)), .act (.run .driver), .act (.run .driver)]

/-- The promise tells the first of the two failures. -/
theorem promise_of_state_sample :
    newcomer.IsNew ∧
      (newcomer.later refusal).driver.outcome? 0 =
        some (.error (.creationFailedWith (.transport .notConnected))) ∧
      newcomer.BrokenIn refusal 0 (.creationFailedWith (.transport .notConnected)) ∧
      newcomer.tally fails refusal = 1 := by
  obtain ⟨-, -, -, hbroken, hfailures⟩ := promise_of_state newcomer_isNew refusal
  have ho : (newcomer.later refusal).driver.outcome? 0 =
      some (.error (.creationFailedWith (.transport .notConnected))) := by rfl
  have hf : (newcomer.later refusal).driver.stats.failures = 1 := by decide
  exact ⟨newcomer_isNew, ho, hbroken 0 _ ho, hfailures.symm.trans hf⟩

end Client

end OpcUa
