import OpcUa.Proofs.SessionFaults
import OpcUa.Proofs.SessionValidity

/-!
# Callers that come while a session is closing

Who asks for a session while one is closing is not failed with that one. The promise that the caller
waits for was made on entering `closing`; the driver keeps it for the attempt that it begins when the
session is closed. The caller gets what comes of that attempt. Only if the attempt gave a session
that is lost before the caller has taken it, the caller asks once more.

* `SessionDriver.Follows`: what a caller learns that waits for a promise.
* `SessionDriver.Decides`: the end of an exchange decides an attempt.
* `Client.AttemptedIn`: an attempt is begun in a run, and decided.
* `Client.Unhindered`: while a call waits, the driver is not asked for an end.
* `Client.next_session_awaited`: what becomes of a call that is made while a session is closing.
* `Client.later_session_returned`: it may return the session of a later attempt.
-/

namespace OpcUa

theorem SessionState.exists_of_closing {state : SessionState} (h : state.kind = .closing) :
    ∃ s, state = .closing s := by
  cases state with
  | closing s => exact ⟨s, rfl⟩
  | inactive | creating | activating | active => cases h

/-- A command that tells how an exchange has ended is the report of one. -/
theorem SessionCommand.eq_report {c : SessionCommand} {event : SessionEvent} {epoch : UInt64}
    (he : c.event? = some event) (hcomp : event.isCompletion = true)
    (hs : c.isRequest = true ∨ ∃ e, c.epoch? = some e)
    (hc : ∀ e, c.epoch? = some e → e = epoch) : c = .event (some epoch) event := by
  cases c with
  | event told event' =>
    cases he
    cases told with
    | some e => rw [hc e rfl]
    | none =>
      rcases hs with hs | ⟨e, hs⟩
      · rw [isRequest, hcomp] at hs
        cases hs
      · cases hs
  | close =>
    cases he
    cases hcomp
  | shutdown => cases he

/-- The promise that a caller waits for. -/
def SessionWait.promise : SessionWait → PromiseId
  | outcome p | retirement p => p

namespace SessionDriver

variable {d d' : SessionDriver} {awaited : Bool} {x : Option SessionExchange} {p : PromiseId}

/-! ## What callers learn -/

/-- The promise was kept with a session that is not valid any more. -/
def Lost (d : SessionDriver) (p : PromiseId) : Prop :=
  ∃ s, d.outcome? p = some (.ok s) ∧ d.isValid s = false

/-- What a caller learns that wants to know what comes of the promise `p`. If the session is lost it
may learn of a later promise. -/
def Follows (d : SessionDriver) (p : PromiseId) : SessionNews → Prop
  | .wait w => p ≤ w.promise ∧ (w = .outcome p ∨ d.Lost p)
  | .done o => ∃ q, p ≤ q ∧ d.outcome? q = some o ∧ (q = p ∨ d.Lost p)

theorem follows_look (hp : p ≤ d.promise) (hl : d.promise = p ∨ d.Lost p) :
    d.Follows p d.look := by
  have hout := outcome?_promise d
  unfold look
  cases hpres : d.present with
  | none => exact ⟨hp, hl.imp_left (congrArg SessionWait.outcome)⟩
  | some o =>
    rw [hpres] at hout
    have done : d.Follows p (.done o) := ⟨_, hp, hout, hl⟩
    cases o with
    | error e => exact done
    | ok s =>
      cases hv : d.isValid s with
      | true => simpa [hv] using done
      | false =>
        have lost : d.Follows p (.wait (.retirement d.promise)) := by
          refine ⟨hp, .inr ?_⟩
          rcases hl with rfl | hl
          · exact ⟨s, hout, hv⟩
          · exact hl
        simpa [hv] using lost

theorem follows_ask (hd : d.stopped = false) (hp : p ≤ d.promise)
    (hl : d.promise = p ∨ d.Lost p) : d.Follows p d.ask.2 := by
  unfold ask
  rw [if_neg (Bool.eq_false_iff.1 hd), enqueue_of_running hd]
  exact follows_look (d := { d with commands := d.commands ++ [.event none .sessionRequested] }) hp hl

/-- A caller goes on with its wait. -/
theorem follows_resume (hd : d.stopped = false) (hk : d.Kept) {w : SessionWait} (hw : d.Serves w)
    (h : d.Follows p (.wait w)) : d.Follows p (d.resume w).2 := by
  obtain ⟨hle, hw'⟩ := h
  cases w with
  | outcome q =>
    have hq : q = p ∨ d.Lost p := hw'.imp_left fun e => by cases e; rfl
    have hle : p ≤ q := hle
    unfold resume
    dsimp only
    split
    · rename_i hr
      have hlt : q < d.promise := Nat.lt_of_le_of_ne hw.1 (bne_iff_ne.1 hr)
      have hp := Nat.le_of_lt (Nat.lt_of_le_of_lt hle hlt)
      split
      · rename_i ho
        have hsome := hk.isSome_of_lt hlt
        rw [ho] at hsome
        cases hsome
      · rename_i ho
        exact ⟨q, hle, ho, hq⟩
      · rename_i s ho
        split
        · exact ⟨q, hle, ho, hq⟩
        · rename_i hv
          refine follows_ask hd hp (.inr ?_)
          rcases hq with rfl | hl
          · exact ⟨s, ho, Bool.eq_false_iff.2 hv⟩
          · exact hl
    · rename_i hr
      have hq' : q = d.promise := by simpa [isRetired] using hr
      exact follows_look (hq' ▸ hle) (hq' ▸ hq)
  | retirement q =>
    have hl : d.Lost p := hw'.resolve_left fun e => by cases e
    unfold resume
    dsimp only
    split
    · exact follows_ask hd (Nat.le_trans hle hw.1) (.inr hl)
    · exact ⟨hle, .inr hl⟩

/-- What a caller has learnt in the end tells what has come of the promise. -/
theorem Follows.exists_outcome {o : SessionOutcome} (h : d.Follows p (.done o)) :
    ∃ o', d.outcome? p = some o' := by
  obtain ⟨q, -, ho, rfl | ⟨s, hs, -⟩⟩ := h
  · exact ⟨o, ho⟩
  · exact ⟨_, hs⟩

theorem Lost.mono (h : d.Lost p) (ho : ∀ q o, d.outcome? q = some o → d'.outcome? q = some o)
    (hr : d.revoked ⊆ d'.revoked) : d'.Lost p := by
  obtain ⟨s, hs, hv⟩ := h
  refine ⟨s, ho p _ hs, ?_⟩
  rw [isValid, Bool.not_eq_false', List.contains_iff_mem] at hv ⊢
  exact hr hv

/-! ## Attempts -/

/-- The next command of the driver is the report of the exchange that the state is for, and decides
what comes of the attempt. -/
inductive Decides (d d' : SessionDriver) : SessionOutcome → Prop
  | activated {created : CreateSessionAnswer} {s : Session} {rest : List SessionCommand}
    (h : d.state = .activating created)
    (hc : d.commands = .event (some d.epoch) (.activateSucceeded s) :: rest)
    (h' : d'.state = .active s) : Decides d d' (.ok s)
  | notCreated {e : SessionError} {rest : List SessionCommand} (h : d.state = .creating)
    (hc : d.commands = .event (some d.epoch) (.createFailed e) :: rest)
    (h' : d'.state = .inactive) : Decides d d' (.error e)
  | notActivated {created : CreateSessionAnswer} {e : SessionError} {rest : List SessionCommand}
    (h : d.state = .activating created)
    (hc : d.commands = .event (some d.epoch) (.activateFailed e) :: rest)
    (h' : d'.state = .inactive) : Decides d d' (.error e)

theorem Decides.exchange?_isSome {o : SessionOutcome} (h : Decides d d' o) :
    d.state.exchange?.isSome = true ∧ d.state.kind ≠ .closing := by
  cases h with
  | activated h | notCreated h | notActivated h =>
    rw [h]
    exact ⟨rfl, nofun⟩

/-- Whether the next command asks for an end: that of the driver, or that of a session that is not
closing yet. -/
def isEnding (d : SessionDriver) : Bool :=
  match d.commands with
  | .shutdown :: _ => true
  | .close _ :: _ | .event _ .closeRequested :: _ => d.state.kind != .closing
  | .event .. :: _ | [] => false

theorem of_isEnding {c : SessionCommand} {rest : List SessionCommand} (h : d.isEnding = false)
    (hc : d.commands = c :: rest) :
    c ≠ .shutdown ∧ (c.event? = some .closeRequested → d.state.kind = .closing) := by
  unfold isEnding at h
  rw [hc] at h
  cases c with
  | close => exact ⟨nofun, fun _ => by simpa using h⟩
  | shutdown => cases h
  | event epoch event =>
    refine ⟨nofun, fun he => ?_⟩
    cases he
    simpa using h

theorem outcome?_of_le (hp : d.promise ≤ p) (hn : d.present = none) : d.outcome? p = none := by
  rw [outcome?_eq, outcomes, hn, List.getElem?_append_right hp]
  cases p - d.past.length <;> rfl

/-- All promises that have been made since are open. -/
theorem outcome?_of_outcomes {y : Option SessionOutcome} {rest : List (Option SessionOutcome)}
    (h : d'.outcomes = d.past ++ y :: rest) (hr : ∀ o ∈ rest, o = none) {o : SessionOutcome}
    (ho : d'.outcome? p = some o) : d.outcome? p = some o ∨ p = d.promise ∧ y = some o := by
  rw [outcome?_eq, h, Option.join_eq_some_iff] at ho
  rcases Nat.lt_trichotomy p d.past.length with hp | rfl | hp
  · rw [List.getElem?_append_left hp] at ho
    refine .inl ?_
    rw [outcome?_eq, outcomes, List.getElem?_append_left hp, ho]
    rfl
  · rw [List.getElem?_append_right (Nat.le_refl _), Nat.sub_self] at ho
    exact .inr ⟨rfl, Option.some.inj ho⟩
  · obtain ⟨k, rfl⟩ := Nat.exists_eq_add_of_lt hp
    rw [List.getElem?_append_right (Nat.le_of_lt hp), Nat.add_assoc, Nat.add_sub_cancel_left,
      List.getElem?_cons_succ] at ho
    cases hr _ (List.mem_of_getElem? ho)

/-- When nobody asks for an end, an attempt fails on the report of an exchange. -/
theorem decides_of_inactive {event : SessionEvent} {rest : List SessionCommand}
    (hn : d.state.next? event = some .inactive) (h' : d'.state = .inactive)
    (hp : d.state.promised? = none) (hk : d.state.kind ≠ .closing)
    (hclose : event ≠ .closeRequested)
    (hc : event.isCompletion = true → d.commands = .event (some d.epoch) event :: rest) :
    d.Decides d' (.error event.failure) := by
  cases hd : d.state with
  | inactive =>
    rw [hd] at hn
    cases event <;> cases hn
  | active =>
    rw [hd] at hp
    cases hp
  | closing s =>
    rw [hd] at hk
    exact absurd rfl hk
  | creating =>
    rw [hd] at hn
    cases event with
    | createFailed e => exact .notCreated hd (hc rfl) h'
    | closeRequested => exact absurd rfl hclose
    | sessionRequested | createSucceeded | activateSucceeded | activateFailed | closeCompleted
      | invalidated => cases hn
  | activating created =>
    rw [hd] at hn
    cases event with
    | activateFailed e => exact .notActivated hd (hc rfl) h'
    | closeRequested => exact absurd rfl hclose
    | sessionRequested | createSucceeded | activateSucceeded | createFailed | closeCompleted
      | invalidated => cases hn

/-- The driver enters a state. The present promise may be resolved, if an exchange has decided the
attempt, and it may be replaced. -/
theorem Moves.decides {c : SessionCommand} {rest : List SessionCommand} {event : SessionEvent}
    (h : Moves (d.take c rest) awaited event d' x) (hc : d.commands = c :: rest)
    (he : c.event? = some event) (hepoch : ∀ e, c.epoch? = some e → e = d.epoch)
    (hs : c.isRequest = true ∨ ∃ e, c.epoch? = some e)
    (hclose : c.event? = some .closeRequested → d.state.kind = .closing)
    (hw : d.state.kind = .closing → awaited = true) :
    ∃ r rest, d'.outcomes = d.past ++ (d.present <|> r) :: rest ∧ (∀ o ∈ rest, o = none) ∧
      ∀ o, d.present = none → d.state.promised? = none → r = some o → d.Decides d' o := by
  have hstate := take_state c rest d
  have report (hcomp : event.isCompletion = true) : c = .event (some d.epoch) event :=
    SessionCommand.eq_report he hcomp hs hepoch
  have hpast := take_past c rest d
  have hpres := take_present c rest d
  cases h with
  | opens | created | carries =>
    refine ⟨none, [], ?_, List.forall_mem_nil _, fun o _ _ ho => by cases ho⟩
    rw [orElse_none, outcomes]
    dsimp only
    rw [hpast, hpres]
  | @activated created s h =>
    refine ⟨some (.ok s), [], ?_, List.forall_mem_nil _, fun o _ _ ho => ?_⟩
    · rw [outcomes]
      dsimp only
      rw [hpast, hpres]
    · cases ho
      exact .activated (hstate.symm.trans h) (report rfl ▸ hc) rfl
  | closes h =>
    have hkind := hclose he
    rw [hstate] at h
    rw [h] at hkind
    cases hkind
  | ends hn ha =>
    refine ⟨some (.error event.failure), [none], ?_, by simp, fun o hp hpr ho => ?_⟩
    · rw [outcomes]
      dsimp only
      rw [hpast, hpres, List.append_assoc]
      rfl
    · cases ho
      rw [hstate] at hn ha
      have hkind : d.state.kind ≠ .closing := fun hkind => by
        obtain ⟨s, hd⟩ := SessionState.exists_of_closing hkind
        cases (hw hkind).symm.trans (ha s hd (hpres.trans hp))
      exact decides_of_inactive hn rfl hpr hkind (fun e => hkind (hclose (e ▸ he)))
        fun hcomp => report hcomp ▸ hc

/-- What becomes known of a promise is what has come of an attempt. -/
theorem Turns.decides (h : Turns d awaited d' x) (hk : d.Kept) (hd : d.stopped = false)
    (hend : d.isEnding = false) (hw : d.state.kind = .closing → awaited = true)
    (hs : ∀ c ∈ d.commands, c.isRequest = true ∨ ∃ e, c.epoch? = some e) {o : SessionOutcome}
    (ho : d'.outcome? p = some o) : d.outcome? p = some o ∨ p = d.promise ∧ d.Decides d' o := by
  cases h with
  | rests | drops | joins | answers => exact .inl ho
  | stops hc => exact absurd rfl (of_isEnding hend hc).1
  | @moves c rest _ _ _ hc he hepoch hm =>
    obtain ⟨r, rest', hout, hnone, hr⟩ := hm.decides hc he hepoch
      (hs c (hc ▸ List.mem_cons_self)) (of_isEnding hend hc).2 hw
    rcases outcome?_of_outcomes hout hnone ho with ho | ⟨rfl, hy⟩
    · exact .inl ho
    · cases hpres : d.present with
      | none =>
        rw [hpres] at hy
        exact .inr ⟨rfl, hr o hpres ((hk.present hd).symm.trans hpres) hy⟩
      | some o' =>
        rw [hpres] at hy
        exact .inl ((outcome?_promise d).trans (hpres.trans hy))

theorem Turns.running (h : Turns d awaited d' x) (hd : d.stopped = false)
    (hend : d.isEnding = false) : d'.stopped = false := by
  cases h with
  | rests | drops | joins | answers => exact hd
  | stops hc => exact absurd rfl (of_isEnding hend hc).1
  | moves _ _ _ hm => exact hm.stopped_eq.trans ((take_stopped ..).trans hd)

/-- As long as a caller waits, the promise that was made on entering `closing` stays until the next
attempt. -/
theorem Turns.of_closing (h : Turns d awaited d' x) (hend : d.isEnding = false)
    (hk : d.state.kind = .closing) (hp : d.present = none) (ha : awaited = true) :
    d'.promise = d.promise ∧ (d'.state = d.state ∨ d'.state = .inactive) := by
  cases h with
  | rests | drops | joins | answers => exact ⟨rfl, .inl rfl⟩
  | stops hc => exact absurd rfl (of_isEnding hend hc).1
  | @moves c rest event _ _ hc he hepoch hm =>
    have hstate := take_state c rest d
    have hpast : (d.take c rest).promise = d.promise := congrArg List.length (take_past c rest d)
    cases hm with
    | opens hs | created hs | activated hs | closes hs =>
      rw [← hstate, hs] at hk
      cases hk
    | carries => exact ⟨hpast, .inr rfl⟩
    | ends hn hw =>
      rw [hstate] at hn hw
      cases hs : d.state with
      | closing s => exact nomatch ha.symm.trans (hw s hs ((take_present c rest d).trans hp))
      | inactive | creating | activating | active =>
        rw [hs] at hk
        cases hk

/-- When nobody asks for an end, an attempt goes on with its promise until it is decided. -/
theorem Turns.of_not_closing (h : Turns d awaited d' x) (hend : d.isEnding = false)
    (hk : d.state.kind ≠ .closing) :
    d'.state.kind ≠ .closing ∧
      (d'.state.exchange?.isSome = true → d'.promise = d.promise ∧
        (d.state.exchange?.isSome = true ∨ d.state = .inactive ∧ d'.state = .creating)) := by
  cases h with
  | rests | drops | joins | answers => exact ⟨hk, fun hx => ⟨rfl, .inl hx⟩⟩
  | stops hc => exact absurd rfl (of_isEnding hend hc).1
  | @moves c rest event _ _ hc he hepoch hm =>
    have hstate := take_state c rest d
    have hpast : (d.take c rest).promise = d.promise := congrArg List.length (take_past c rest d)
    cases hm with
    | opens hs => exact ⟨nofun, fun _ => ⟨hpast, .inr ⟨hstate.symm.trans hs, rfl⟩⟩⟩
    | created hs =>
      exact ⟨nofun, fun _ => ⟨hpast, .inl (by rw [← hstate, hs]; rfl)⟩⟩
    | activated | ends => exact ⟨nofun, nofun⟩
    | closes => exact absurd ((of_isEnding hend hc).2 he) hk
    | carries hs =>
      rw [← hstate, hs] at hk
      exact absurd rfl hk

end SessionDriver

namespace Client

variable {c : Client} {hs hs' : List Happening} {id : CallId} {p : PromiseId} {s : Session}

/-! ## Attempts in a run -/

/-- After the run `hs`, an attempt is begun in `hs'` for the promise `p`. -/
def BegunIn (hs hs' : List Happening) (p : PromiseId) (c : Client) : Prop :=
  ∃ before after, hs' = before ++ .act (.run .driver) :: after ∧
    (c.later (hs ++ before)).driver.state = .inactive ∧
    (c.later (hs ++ before)).driver.promise = p ∧
    (c.later (hs ++ before ++ [.act (.run .driver)])).driver.state = .creating

/-- After the run `hs`, an attempt is begun in `hs'` for the promise `p`, and the end of an exchange
decides that `o` comes of it. -/
def AttemptedIn (hs hs' : List Happening) (p : PromiseId) (o : SessionOutcome) (c : Client) : Prop :=
  ∃ before after, hs' = before ++ .act (.run .driver) :: after ∧ c.BegunIn hs before p ∧
    (c.later (hs ++ before)).driver.promise = p ∧
    (c.later (hs ++ before)).driver.Decides
      (c.later (hs ++ before ++ [.act (.run .driver)])).driver o

theorem BegunIn.snoc (h : c.BegunIn hs hs' p) (a : Happening) : c.BegunIn hs (hs' ++ [a]) p := by
  obtain ⟨before, after, rfl, h⟩ := h
  exact ⟨before, after ++ [a], by rw [List.append_assoc, List.cons_append], h⟩

theorem AttemptedIn.snoc {o : SessionOutcome} (h : c.AttemptedIn hs hs' p o) (a : Happening) :
    c.AttemptedIn hs (hs' ++ [a]) p o := by
  obtain ⟨before, after, rfl, h⟩ := h
  exact ⟨before, after ++ [a], by rw [List.append_assoc, List.cons_append], h⟩

/-- Whether the driver is asked for an end while the call waits. -/
def hinders (id : CallId) (c : Client) (h : Happening) : Bool :=
  h.isTurn && (c.calls.lookup id).isSome && c.driver.isEnding

/-- As long as the call has not returned, the driver is not asked for an end. -/
def Unhindered (id : CallId) (hs : List Happening) (c : Client) : Prop :=
  c.tally (hinders id) hs = 0

instance (id : CallId) (hs : List Happening) (c : Client) : Decidable (c.Unhindered id hs) :=
  inferInstanceAs (Decidable (_ = _))

theorem unhindered_snoc {h : Happening} :
    c.Unhindered id (hs ++ [h]) ↔ c.Unhindered id hs ∧ (c.later hs).hinders id h = false := by
  rw [Unhindered, Unhindered, tally_snoc, Nat.add_eq_zero_iff, Bool.toNat_eq_zero]

/-! ## The driver while the call waits -/

/-- Since the run `hs` the driver goes on to close the session `s`, with the promise `p`, and then
makes attempts. Whatever is known of a promise has come of an attempt. -/
structure Strives (hs hs' : List Happening) (p : PromiseId) (s : Session) (c : Client) : Prop where
  running : (c.later (hs ++ hs')).driver.stopped = false
  course : (c.later (hs ++ hs')).driver.state = .closing s ∧
      (c.later (hs ++ hs')).driver.promise = p ∨
    (c.later (hs ++ hs')).driver.state.kind ≠ .closing ∧
      ((c.later (hs ++ hs')).driver.state.exchange?.isSome = true →
        c.BegunIn hs hs' (c.later (hs ++ hs')).driver.promise)
  attempted : ∀ q o, p ≤ q → (c.later (hs ++ hs')).driver.outcome? q = some o →
    c.AttemptedIn hs hs' q o

/-- The call waits for what comes of the promise `p`. -/
def Pursues (id : CallId) (p : PromiseId) (c : Client) : Prop :=
  ∃ w, c.calls.lookup id = some ⟨.session, .session w⟩ ∧ c.driver.Follows p (.wait w)

theorem mem_waits_of_lookup {job : Job} {w : SessionWait}
    (h : c.calls.lookup id = some ⟨job, .session w⟩) : w ∈ c.waits :=
  mem_waits.2 (.inl ⟨_, mem_of_lookup h, rfl⟩)

/-- Until the promise is decided, the call waits for it. -/
theorem Pursues.wait_eq (h : c.Pursues id p) (ho : c.driver.outcome? p = none) :
    c.calls.lookup id = some ⟨.session, .session (.outcome p)⟩ := by
  obtain ⟨w, hl, -, rfl | ⟨s, hs, -⟩⟩ := h
  · exact hl
  · exact nomatch ho.symm.trans hs

theorem Strives.grow (h₀ : c.Strives hs hs' p s) {h : Happening} {cs : List SessionCommand}
    {keys : List SessionKey} {key : SessionKey}
    (e : (c.later (hs ++ hs' ++ [h])).driver =
      { (c.later (hs ++ hs')).driver with
        commands := (c.later (hs ++ hs')).driver.commands ++ cs
        revoked := keys ++ (c.later (hs ++ hs')).driver.revoked
        nextKey := key }) : c.Strives hs (hs' ++ [h]) p s := by
  rw [List.append_assoc] at e
  refine ⟨?_, ?_, ?_⟩ <;> rw [e]
  · exact h₀.running
  · exact h₀.course.imp_right (And.imp_right fun hb hx => (hb hx).snoc h)
  · exact fun q o hq ho => (h₀.attempted q o hq ho).snoc h

/-- While the session is closing, the driver knows that somebody waits for the next one. -/
theorem IsNew.awaited_of_closing (hc : c.IsNew) (h₀ : c.Strives hs hs' p s)
    (hp : (c.later (hs ++ hs')).Pursues id p)
    (hk : (c.later (hs ++ hs')).driver.state.kind = .closing) :
    (c.later (hs ++ hs')).driver.present = none ∧ (c.later (hs ++ hs')).side.awaited = true := by
  have hnone := (hc.kept (hs ++ hs')).present_eq_none h₀.running (by rw [hk]; decide)
  obtain ⟨-, hpromise⟩ := h₀.course.resolve_right fun h => h.1 hk
  refine ⟨hnone, List.contains_iff_mem.2 (hpromise ▸ mem_waits_of_lookup (hp.wait_eq ?_))⟩
  rw [← hpromise, SessionDriver.outcome?_promise]
  exact hnone

theorem IsNew.strives_turn (hc : c.IsNew) (hg : ∀ h ∈ hs ++ hs', h.forges = false)
    (h₀ : c.Strives hs hs' p s) (hp : (c.later (hs ++ hs')).Pursues id p)
    (hend : (c.later (hs ++ hs')).driver.isEnding = false) :
    c.Strives hs (hs' ++ [.act (.run .driver)]) p s := by
  obtain ⟨x, hT⟩ := hc.turns (hs ++ hs')
  have hclosing := hc.awaited_of_closing h₀ hp
  have hrun : hs ++ (hs' ++ [.act (.run .driver)]) = hs ++ hs' ++ [.act (.run .driver)] :=
    (List.append_assoc ..).symm
  refine ⟨?_, ?_, fun q o hq ho => ?_⟩
  · rw [hrun]
    exact hT.running h₀.running hend
  · rw [hrun]
    rcases h₀.course with ⟨hstate, hpromise⟩ | ⟨hkind, hbegun⟩
    · have hkind := congrArg SessionState.kind hstate
      obtain ⟨hp', hs' | hs'⟩ := hT.of_closing hend hkind (hclosing hkind).1 (hclosing hkind).2
      · exact .inl ⟨hs'.trans hstate, hp'.trans hpromise⟩
      · rw [hs']
        exact .inr ⟨nofun, nofun⟩
    · obtain ⟨hkind', hx'⟩ := hT.of_not_closing hend hkind
      refine .inr ⟨hkind', fun hx => ?_⟩
      obtain ⟨hp', hx | ⟨hi, ho⟩⟩ := hx' hx
      · exact hp' ▸ (hbegun hx).snoc _
      · exact ⟨hs', [], rfl, hi, hp'.symm, ho⟩
  · rw [hrun] at ho
    rcases hT.decides (hc.kept (hs ++ hs')) h₀.running hend (fun hkind => (hclosing hkind).2)
      (hc.sincere hg) ho with ho | ⟨rfl, hd⟩
    · exact (h₀.attempted q o hq ho).snoc _
    · obtain ⟨hx, hkind⟩ := hd.exchange?_isSome
      obtain ⟨-, hbegun⟩ := h₀.course.resolve_left fun h =>
        hkind (congrArg SessionState.kind h.1)
      exact ⟨hs', [], rfl, hbegun hx, rfl, hd⟩

/-! ## The call -/

/-- The call has returned with what has come of an attempt. It was made for the promise `p`, or for a
later one if the session of that one was lost. -/
structure Returned (hs hs' : List Happening) (id : CallId) (p : PromiseId) (c : Client) : Prop where
  lt : id < (c.later (hs ++ hs')).nextCall
  call : (c.later (hs ++ hs')).calls.lookup id = none
  result : ∃ q o, p ≤ q ∧ (q = p ∨ (c.later (hs ++ hs')).driver.Lost p) ∧
    (c.later (hs ++ hs')).finished.lookup id = some (.session (o.mapError .session)) ∧
    c.AttemptedIn hs hs' q o
  attempted : ∃ o, (c.later (hs ++ hs')).driver.outcome? p = some o ∧ c.AttemptedIn hs hs' p o

theorem IsNew.lost_stays (hc : c.IsNew) (h : (c.later hs).driver.Lost p) (a : Happening) :
    (c.later (hs ++ [a])).driver.Lost p :=
  h.mono (fun _ _ => hc.outcome?_stays hs [a]) (hc.revoked_subset hs a)

/-- The call goes on to wait when it is not its turn. -/
theorem IsNew.pursues_stays (hc : c.IsNew) (h : (c.later hs).Pursues id p) {a : Happening}
    (hr : a ≠ .act (.run (.call id))) (hcancel : a ≠ .cancel id) :
    (c.later (hs ++ [a])).Pursues id p := by
  obtain ⟨w, hl, hle, hw⟩ := h
  exact ⟨w, (spares_later (hc.lt_nextCall hl) hr hcancel).calls.trans hl, hle,
    hw.imp_right fun h => hc.lost_stays h a⟩

/-- The call returns with what it has learnt. -/
theorem IsNew.returned_of_follows (hc : c.IsNew) (h₀ : c.Strives hs hs' p s) {o : SessionOutcome}
    (hf : (c.later (hs ++ hs')).driver.Follows p (.done o))
    (hid : id < (c.later (hs ++ hs')).nextCall) {a : Happening}
    (hl : (c.later (hs ++ hs' ++ [a])).calls.lookup id = none)
    (hfin : (c.later (hs ++ hs' ++ [a])).finished.lookup id =
      some (.session (o.mapError .session))) : c.Returned hs (hs' ++ [a]) id p := by
  obtain ⟨o', ho'⟩ := hf.exists_outcome
  obtain ⟨q, hle, ho, hq⟩ := hf
  have hlt := Nat.lt_of_lt_of_le hid (c.nextCall_later_le (hs ++ hs') a)
  have hstays := hc.outcome?_stays (hs ++ hs') [a] ho'
  have hlost := hq.imp_right fun h => hc.lost_stays h a
  rw [List.append_assoc] at hl hfin hlt hstays hlost
  exact ⟨hlt, hl, ⟨q, o, hle, hlost, hfin, (h₀.attempted q o hle ho).snoc a⟩,
    ⟨o', hstays, (h₀.attempted p o' (Nat.le_refl p) ho').snoc a⟩⟩

/-- The call goes on: it waits once more, or returns. -/
theorem IsNew.pursues_turn (hc : c.IsNew) (h₀ : c.Strives hs hs' p s)
    (h : (c.later (hs ++ hs')).Pursues id p) :
    (c.later (hs ++ hs' ++ [.act (.run (.call id))])).Pursues id p ∨
      c.Returned hs (hs' ++ [.act (.run (.call id))]) id p := by
  obtain ⟨w, hl, hf⟩ := h
  have hnews := SessionDriver.follows_resume h₀.running (hc.kept (hs ++ hs'))
    (hc.serves (hs ++ hs') w (mem_waits_of_lookup hl)) hf
  have e : c.later (hs ++ hs' ++ [.act (.run (.call id))]) =
      { c.later (hs ++ hs') with service := ((c.later (hs ++ hs')).service.resume w).1 }.learn id
        .session ((c.later (hs ++ hs')).driver.resume w).2 := by
    rw [later_snoc, undergo_of_session hl]
    rfl
  cases hn : ((c.later (hs ++ hs')).driver.resume w).2 with
  | wait w' =>
    rw [hn] at hnews e
    obtain ⟨hle, hw⟩ := hnews
    refine .inl ⟨w', ?_, hle, hw.imp_right fun h => hc.lost_stays h _⟩
    rw [e]
    exact lookup_setCall hl (.session w')
  | done o =>
    rw [hn] at hnews e
    rw [learn_done] at e
    refine .inr (hc.returned_of_follows h₀ hnews (hc.lt_nextCall hl) ?_ ?_)
    · rw [e]
      exact (lookup_finish ..).1
    · rw [e]
      exact (lookup_finish ..).2

/-- What has been returned stays. -/
theorem IsNew.returned_stays (hc : c.IsNew) (h₀ : c.Returned hs hs' id p) {a : Happening}
    (hcancel : a ≠ .cancel id) : c.Returned hs (hs' ++ [a]) id p := by
  have hspares : (c.later (hs ++ hs')).Spares id (c.later (hs ++ hs' ++ [a])) := by
    by_cases hr : a = .act (.run (.call id))
    · rw [hr, later_snoc, undergo_of_none h₀.call]
      exact .refl ..
    · exact spares_later h₀.lt hr hcancel
  have hlt := Nat.lt_of_lt_of_le h₀.lt (c.nextCall_later_le (hs ++ hs') a)
  obtain ⟨q, o, hle, hq, hfin, hatt⟩ := h₀.result
  obtain ⟨o', ho', hatt'⟩ := h₀.attempted
  have hstays := hc.outcome?_stays (hs ++ hs') [a] ho'
  have hlost := hq.imp_right fun h => hc.lost_stays h a
  rw [List.append_assoc] at hspares hlt hstays hlost
  exact ⟨hlt, hspares.calls.trans h₀.call,
    ⟨q, o, hle, hlost, hspares.finished.trans hfin, hatt.snoc a⟩, ⟨o', hstays, hatt'.snoc a⟩⟩

/-- The call waits as long as it has not returned, and meanwhile the driver makes attempts. -/
theorem IsNew.pursues_or_returned (hc : c.IsNew) (hg : ∀ h ∈ hs ++ hs', h.forges = false)
    (h₀ : c.Strives hs [] p s) (hp : (c.later hs).Pursues id p) (hcancel : .cancel id ∉ hs')
    (hun : (c.later hs).Unhindered id hs') :
    c.Strives hs hs' p s ∧ (c.later (hs ++ hs')).Pursues id p ∨ c.Returned hs hs' id p := by
  induction hs' using List.reverseRecOn with
  | nil => exact .inl ⟨h₀, by rwa [List.append_nil]⟩
  | append_singleton hs' h ih =>
    rw [← List.append_assoc] at hg ⊢
    rw [List.mem_append, not_or] at hcancel
    obtain ⟨hg₀, -⟩ := List.forall_mem_append.1 hg
    obtain ⟨hun, hend⟩ := unhindered_snoc.1 hun
    rw [← later_append] at hend
    have hh : h ≠ .cancel id := fun e => hcancel.2 (e ▸ List.mem_singleton_self _)
    rcases ih hg₀ hcancel.1 hun with ⟨hstrives, hpursues⟩ | hret
    · by_cases hturn : h = .act (.run .driver)
      · subst hturn
        have ⟨w, hl, _⟩ := hpursues
        rw [hinders, hl] at hend
        exact .inl ⟨hc.strives_turn hg₀ hstrives hpursues hend,
          hc.pursues_stays hpursues nofun nofun⟩
      · obtain ⟨cs, keys, key, e⟩ := (hc.turns_or (hs ++ hs') h).resolve_left fun hl => hturn hl.1
        have hstrives' := hstrives.grow e
        by_cases hrun : h = .act (.run (.call id))
        · subst hrun
          exact (hc.pursues_turn hstrives hpursues).imp_left fun h => ⟨hstrives', h⟩
        · exact .inl ⟨hstrives', hc.pursues_stays hpursues hrun hh⟩
    · exact .inr (hc.returned_stays hret hh)

/-- The call begins: it asks for a session. -/
theorem later_of_fresh (hl : (c.later hs).calls.lookup id = some ⟨.session, .fresh⟩) :
    c.later (hs ++ [.act (.run (.call id))]) =
      { c.later hs with service := (c.later hs).service.ask.1 }.learn id .session
        (c.later hs).service.ask.2 := by
  rw [later_snoc, undergo_of_fresh hl]
  rfl

/-- It waits for the promise that was made when the session began to close. -/
theorem IsNew.pursues_begin (hc : c.IsNew)
    (hl : (c.later hs).calls.lookup id = some ⟨.session, .fresh⟩)
    (hclosing : (c.later hs).driver.state = .closing s)
    (hd : (c.later hs).service.disconnected = false) :
    c.Strives (hs ++ [.act (.run (.call id))]) [] (c.later hs).driver.promise s ∧
      (c.later (hs ++ [.act (.run (.call id))])).Pursues id (c.later hs).driver.promise := by
  have hrun : (c.later hs).driver.stopped = false := Bool.eq_false_iff.2 fun h =>
    nomatch hclosing.symm.trans (hc.ended hs h).1
  have hpres := (hc.kept hs).present_eq_none hrun (by rw [hclosing]; nofun)
  constructor
  · obtain ⟨cs, keys, key, e⟩ :=
      (hc.turns_or hs (.act (.run (.call id)))).resolve_left fun h => nomatch h.1
    refine ⟨?_, .inl ⟨?_, ?_⟩, fun q o hq ho => ?_⟩
    · rw [List.append_nil, e]
      exact hrun
    · rw [List.append_nil, e]
      exact hclosing
    · rw [List.append_nil, e]
      rfl
    · rw [List.append_nil, e] at ho
      exact nomatch (SessionDriver.outcome?_of_le hq hpres).symm.trans ho
  · have hask : (c.later hs).driver.ask.2 = .wait (.outcome (c.later hs).driver.promise) := by
      unfold SessionDriver.ask SessionDriver.look
      rw [if_neg (Bool.eq_false_iff.1 hrun), SessionDriver.enqueue_of_running hrun]
      dsimp only
      rw [hpres]
      rfl
    have hnews : (c.later hs).service.ask.2 = (c.later hs).driver.ask.2 := by
      unfold ServiceClient.ask
      rw [hd]
      rfl
    rw [later_of_fresh hl, hnews, hask]
    exact ⟨_, lookup_setCall hl _, Nat.le_refl _, .inl rfl⟩

/-- Callers that wait for the end of a session that is not closing have not been heard yet. -/
theorem IsNew.close_mem_of_holds (hc : c.IsNew)
    (hk : (c.later hs).driver.state.kind ≠ .closing) {ticket : CloseTicket}
    (h : (c.later hs).driver.holds ticket = true) :
    .close ticket ∈ (c.later hs).driver.commands := by
  have hw : (c.later hs).driver.closeWaiters = [] := by
    by_contra hw
    exact hk (hc.closing hs hw)
  rw [SessionDriver.holds, hw, List.contains_nil, Bool.false_or, List.any_eq_true] at h
  obtain ⟨command, hm, h⟩ := h
  cases command with
  | close t => exact (beq_iff_eq.1 h) ▸ hm
  | event | shutdown => cases h

/-- What becomes of the call `id` that waits since the run `hs` for the promise `p`, which was made when
a session began to close. -/
structure CarriedOver (hs hs' : List Happening) (id : CallId) (p : PromiseId) (c : Client) :
    Prop where
  /-- The promise is decided by an attempt that is begun when the session is closed. -/
  attempted : ∀ o, (c.later (hs ++ hs')).driver.outcome? p = some o → c.AttemptedIn hs hs' p o
  /-- Until then the call waits for it. The session is closing, or the attempt is asked for or has
  begun. -/
  waits : (c.later (hs ++ hs')).driver.outcome? p = none →
    (c.later (hs ++ hs')).calls.lookup id = some ⟨.session, .session (.outcome p)⟩ ∧
      ((c.later (hs ++ hs')).driver.state.kind = .closing ∨
        (c.later (hs ++ hs')).driver.state = .inactive ∧
          .event none .sessionRequested ∈ (c.later (hs ++ hs')).driver.commands ∨
        c.BegunIn hs hs' p)
  /-- The call returns what has come of that attempt. If its session is lost before the call has
  taken it, the call returns what has come of a later one. -/
  returns : (c.later (hs ++ hs')).calls.lookup id = none →
    ∃ q o, p ≤ q ∧ (q = p ∨ (c.later (hs ++ hs')).driver.Lost p) ∧
      (c.later (hs ++ hs')).finished.lookup id = some (.session (o.mapError .session)) ∧
      c.AttemptedIn hs hs' q o
  /-- When nothing is left to do the call has returned. -/
  ends : c.NeverFalters (hs ++ hs') → (c.later (hs ++ hs')).driver.commands = [] →
    (c.later (hs ++ hs')).sessionTasks = [] → (c.later (hs ++ hs')).CallersRest →
    (c.later (hs ++ hs')).calls.lookup id = none
  /-- When the session is closed, all callers are told that wait for that, but for those whose
  command is yet to come. -/
  closers : (c.later (hs ++ hs')).driver.state.kind ≠ .closing → ∀ ticket,
    (c.later (hs ++ hs')).driver.holds ticket = true →
    .close ticket ∈ (c.later (hs ++ hs')).driver.commands

/-- What is under way for a promise that is not decided. -/
theorem IsNew.begun_or (hc : c.IsNew) (h₀ : c.Strives hs hs' p s)
    (hl : (c.later (hs ++ hs')).calls.lookup id = some ⟨.session, .session (.outcome p)⟩)
    (ho : (c.later (hs ++ hs')).driver.outcome? p = none) :
    (c.later (hs ++ hs')).driver.state.kind = .closing ∨
      (c.later (hs ++ hs')).driver.state = .inactive ∧
        .event none .sessionRequested ∈ (c.later (hs ++ hs')).driver.commands ∨
      c.BegunIn hs hs' p := by
  have hk := hc.kept (hs ++ hs')
  obtain ⟨hle, hserved⟩ := hc.serves (hs ++ hs') _ (mem_waits_of_lookup hl)
  have hp : p = (c.later (hs ++ hs')).driver.promise := by
    refine (Nat.lt_or_eq_of_le hle).resolve_left fun hlt => ?_
    have hsome := hk.isSome_of_lt hlt
    rw [ho] at hsome
    cases hsome
  rcases h₀.course with ⟨hstate, -⟩ | ⟨-, hbegun⟩
  · exact .inl (congrArg SessionState.kind hstate)
  · have hpres := hk.present h₀.running
    rw [hp, SessionDriver.outcome?_promise] at ho
    cases hstate : (c.later (hs ++ hs')).driver.state with
    | inactive => exact .inr (.inl ⟨rfl, hserved hp h₀.running hstate⟩)
    | closing => exact .inl rfl
    | creating | activating => exact .inr (.inr (hp ▸ hbegun (by rw [hstate]; rfl)))
    | active s' =>
      rw [hstate] at hpres
      exact nomatch ho.symm.trans hpres

/-- A client that is disconnected refuses to open another session. -/
theorem refused_of_disconnected (hl : (c.later hs).calls.lookup id = some ⟨.session, .fresh⟩)
    (hd : (c.later hs).service.disconnected = true) :
    (c.later (hs ++ [.act (.run (.call id))])).finished.lookup id =
      some (.session (.error (.session .clientShutdown))) := by
  have hnews : (c.later hs).service.ask.2 = .done (.error .clientShutdown) := by
    unfold ServiceClient.ask
    rw [if_pos hd]
  rw [later_of_fresh hl, hnews, learn_done]
  exact (lookup_finish ..).2

/-- A caller that asks for a session while one is closing is not failed with that one. When the
session is closed the driver makes an attempt, and the call returns what comes of it: the session, or
the failure of an exchange. Only a session that is lost before the call has taken it is not returned;
then the call waits for a later attempt. The callers that have the session closed are told before.
Until the call returns nobody must ask for an end, except for that of the session that is closing.
Only a client that is disconnected refuses the call, and does so at once. -/
theorem next_session_awaited (hc : c.IsNew) (hg : ∀ h ∈ hs ++ hs', h.forges = false)
    (hl : (c.later hs).calls.lookup id = some ⟨.session, .fresh⟩)
    (hclosing : (c.later hs).driver.state.kind = .closing) (hcancel : .cancel id ∉ hs')
    (hun : (c.later (hs ++ [.act (.run (.call id))])).Unhindered id hs') :
    ((c.later hs).service.disconnected = true →
      (c.later (hs ++ [.act (.run (.call id))])).finished.lookup id =
        some (.session (.error (.session .clientShutdown)))) ∧
    ((c.later hs).service.disconnected = false →
      c.CarriedOver (hs ++ [.act (.run (.call id))]) hs' id (c.later hs).driver.promise) := by
  refine ⟨refused_of_disconnected hl, fun hd => ?_⟩
  obtain ⟨s, hstate⟩ := SessionState.exists_of_closing hclosing
  have hg : ∀ h ∈ hs ++ [.act (.run (.call id))] ++ hs', h.forges = false := by
    obtain ⟨hg, hg'⟩ := List.forall_mem_append.1 hg
    exact List.forall_mem_append.2 ⟨List.forall_mem_append.2
      ⟨hg, fun h hm => List.mem_singleton.1 hm ▸ rfl⟩, hg'⟩
  obtain ⟨hstrives, hpursues⟩ := hc.pursues_begin hl hstate hd
  have hcourse := hc.pursues_or_returned hg hstrives hpursues hcancel hun
  refine ⟨fun o ho => ?_, fun ho => ?_, fun hnone => ?_, fun hf hcs hx hrest => ?_,
    fun hk ticket => hc.close_mem_of_holds hk⟩
  · rcases hcourse with ⟨hstrives, -⟩ | hret
    · exact hstrives.attempted _ o (Nat.le_refl _) ho
    · obtain ⟨o', ho', hatt⟩ := hret.attempted
      cases ho.symm.trans ho'
      exact hatt
  · rcases hcourse with ⟨hstrives, hpursues⟩ | hret
    · have hl := hpursues.wait_eq ho
      exact ⟨hl, hc.begun_or hstrives hl ho⟩
    · obtain ⟨o, ho', -⟩ := hret.attempted
      exact nomatch ho.symm.trans ho'
  · rcases hcourse with ⟨-, w, hl, -⟩ | hret
    · exact nomatch hnone.symm.trans hl
    · exact hret.result
  · rcases hcourse with ⟨-, w, hl, -⟩ | hret
    · exact nomatch hc.waits_eq_nil hf hg hcs hx hrest ▸ mem_waits_of_lookup hl
    · exact hret.call

section

open Simulation

/-- A session is created and activated, by the exchanges from `id` on. -/
def establishing (id : CallId) (x : ExchangeId) : List Happening :=
  .act (.run .driver) ::
    exchanging id x (goodReply .createSession ⟨.null, .null, 60000.0, [], [], 0⟩) ++
    .act (.run .driver) ::
    exchanging (id + 1) (x + 1) (goodReply .activateSession ⟨[], []⟩) ++ [.act (.run .driver)]

/-- A session is opened, and is closing when a caller comes. -/
def between : List Happening :=
  opening ++ calling 3 .close close_ne_connect ++ [.act (.call .session session_ne_connect)]

/-- Somebody else wants the session to be closed as well. When it is closed, another one is opened,
and all calls return. -/
def onward : List Happening :=
  calling 6 .close close_ne_connect ++ exchanging 4 2 (goodReply .closeSession ()) ++
    [.act (.run .driver), .act (.run .driver)] ++ establishing 7 3 ++
    [.act (.run (.call 3)), .act (.run (.call 6)), .act (.run (.call 5))]

/-- When nothing is left to do, the caller has the session of the attempt. -/
theorem next_session_awaited_sample :
    (∀ h ∈ between ++ onward, h.forges = false) ∧
      (newcomer.later between).driver.state.kind = .closing ∧
      (newcomer.later (between ++ [.act (.run (.call 5))])).Unhindered 5 onward ∧
      newcomer.CarriedOver (between ++ [.act (.run (.call 5))]) onward 5 1 ∧
      (newcomer.later (between ++ [.act (.run (.call 5))] ++ onward)).calls.lookup 5 = none ∧
      ∃ q o, 1 ≤ q ∧
        (q = 1 ∨ (newcomer.later (between ++ [.act (.run (.call 5))] ++ onward)).driver.Lost 1) ∧
        (newcomer.later (between ++ [.act (.run (.call 5))] ++ onward)).finished.lookup 5 =
          some (.session (o.mapError .session)) ∧
        newcomer.AttemptedIn (between ++ [.act (.run (.call 5))]) onward q o := by
  have hg : ∀ h ∈ between ++ onward, h.forges = false := by decide
  have hl : (newcomer.later between).calls.lookup 5 = some ⟨.session, .fresh⟩ := by rfl
  have hclosing : (newcomer.later between).driver.state.kind = .closing := by decide +kernel
  have hd : (newcomer.later between).service.disconnected = false := by decide +kernel
  have hcancel : .cancel 5 ∉ onward := by simp [onward, calling, exchanging, establishing]
  have hun : (newcomer.later (between ++ [.act (.run (.call 5))])).Unhindered 5 onward := by
    decide +kernel
  have hf : newcomer.NeverFalters (between ++ [.act (.run (.call 5))] ++ onward) := by
    decide +kernel
  have hcs : (newcomer.later (between ++ [.act (.run (.call 5))] ++ onward)).driver.commands = [] :=
    List.isEmpty_iff.1 (by decide +kernel)
  have hx : (newcomer.later (between ++ [.act (.run (.call 5))] ++ onward)).sessionTasks = [] :=
    List.isEmpty_iff.1 (by decide +kernel)
  have hm : (newcomer.later (between ++ [.act (.run (.call 5))] ++ onward)).manager = none :=
    Option.isNone_iff_eq_none.1 (by decide +kernel)
  have hrest : (newcomer.later (between ++ [.act (.run (.call 5))] ++ onward)).CallersRest :=
    ⟨by decide +kernel, fun m h => (by cases hm.symm.trans h), fun m h => by cases hm.symm.trans h⟩
  have h := (next_session_awaited newcomer_isNew hg hl hclosing hcancel hun).2 hd
  have hnone := h.ends hf hcs hx hrest
  exact ⟨hg, hclosing, hun, h, hnone, h.returns hnone⟩

/-- A caller uses the next session, and learns that the server does not know it. -/
def repudiating : List Happening :=
  requesting 8 ++ [.act (.reply 5 (.ok ⟨.read, ⟨default, 0, .badSessionIdInvalid⟩, []⟩)),
    .act (.run (.call 8))]

/-- The session that is opened next is lost before the caller has taken it. The caller gets the one
after that. -/
def outrun : List Happening :=
  exchanging 4 2 (goodReply .closeSession ()) ++ [.act (.run .driver), .act (.run .driver)] ++
    establishing 6 3 ++ repudiating ++
    [.act (.run (.call 5)), .act (.run .driver), .act (.run .driver), .act (.run (.call 5))] ++
    establishing 9 6 ++ [.act (.run (.call 5))]

/-- The session with the key 1 has come of the attempt, and the call returns the one with the key 2. -/
theorem later_session_returned :
    (∀ h ∈ between ++ .act (.run (.call 5)) :: outrun, (h matches .act (.inject _)) = false) ∧
      (newcomer.later between).driver.state.kind = .closing ∧
      (newcomer.later between).driver.promise = 1 ∧
      (newcomer.later between).service.disconnected = false ∧ .cancel 5 ∉ outrun ∧
      (newcomer.later (between ++ [.act (.run (.call 5))])).Unhindered 5 outrun ∧
      ((newcomer.later (between ++ .act (.run (.call 5)) :: outrun)).driver.outcome? 1).map
        (·.toOption.map (·.key)) = some (some 1) ∧
      ((newcomer.later (between ++ .act (.run (.call 5)) :: outrun)).finished.lookup 5).map
        (·.grants.map (·.key)) = some [2] := by
  have hcancel : .cancel 5 ∉ outrun := by
    simp [outrun, exchanging, establishing, repudiating, requesting]
  refine ⟨?_, ?_, ?_, ?_, hcancel, ?_, ?_, ?_⟩ <;> decide +kernel

end

end Client

end OpcUa
