import Mathlib.Data.List.Induction
import OpcUa.Proofs.SessionCallers

/-!
# One command of the session driver

What the driver does with its next command, and what others may do to it meanwhile.

* `SessionDriver.Moves`: the driver enters another state.
* `SessionDriver.Turns`: it performs its next command.
* `SessionDriver.Hears`: others put commands in its queue.
-/

namespace OpcUa

namespace SessionState

/-- The exchange with the server that a state is for. -/
def exchange? : SessionState → Option SessionExchange
  | creating => some .create
  | activating created => some (.activate created)
  | closing s => some (.close s)
  | inactive | active _ => none

theorem isTransitioning_kind (s : SessionState) : s.kind.isTransitioning = s.exchange?.isSome := by
  cases s <;> rfl

end SessionState

namespace SessionCommand

/-- The event that a command stands for. -/
def event? : SessionCommand → Option SessionEvent
  | event _ e => some e
  | close _ => some .closeRequested
  | shutdown => none

/-- The epoch that the command carries. -/
def epoch? : SessionCommand → Option UInt64
  | event epoch _ => epoch
  | close _ | shutdown => none

/-- Whether a command asks the driver for something: it tells of no exchange that has ended. -/
def isRequest : SessionCommand → Bool
  | event none e => !e.isCompletion
  | event (some _) _ => false
  | close _ | shutdown => true

/-- Why there is no session after a command. -/
def failure (c : SessionCommand) : SessionError :=
  match c.event? with
  | some e => e.failure
  | none => .clientShutdown

end SessionCommand

namespace SessionDriver

variable {d d' d'' : SessionDriver} {awaited : Bool} {x : Option SessionExchange}

/-! ## Entering a state -/

/-- The driver enters another state; an exchange may begin. -/
inductive Moves (d : SessionDriver) (awaited : Bool) :
    SessionEvent → SessionDriver → Option SessionExchange → Prop
  | opens (h : d.state = .inactive) :
    Moves d awaited .sessionRequested
      { d with state := .creating, epoch := d.epoch + 1 } (some .create)
  | created {a : CreateSessionAnswer} (h : d.state = .creating) :
    Moves d awaited (.createSucceeded a)
      { d with state := .activating a, epoch := d.epoch + 1, stats := d.stats.recordCreation }
      (some (.activate a))
  | activated {a : CreateSessionAnswer} {s : Session} (h : d.state = .activating a) :
    Moves d awaited (.activateSucceeded s)
      { d with
        state := .active s
        epoch := d.epoch + 1
        present := d.present <|> some (.ok s)
        stats := d.stats.recordActivation }
      none
  | closes {s : Session} (h : d.state = .active s) :
    Moves d awaited .closeRequested
      { d with
        state := .closing s
        epoch := d.epoch + 1
        past := d.past ++ [d.present]
        present := none }
      (some (.close s))
  /-- A caller came while the session was closing; it gets the next one. -/
  | carries {s : Session} (h : d.state = .closing s) (hp : d.present = none) (ha : awaited = true) :
    Moves d awaited .closeCompleted
      { d with
        state := .inactive
        epoch := d.epoch + 1
        revoked := s.key :: d.revoked
        closeWaiters := []
        commands := d.commands ++ [.event none .sessionRequested]
        stats := d.stats.recordClose }
      none
  | ends {event : SessionEvent} {stats : SessionStats} (h : d.state.next? event = some .inactive)
    (ha : ∀ s, d.state = .closing s → d.present = none → awaited = false)
    (hf : stats.failures =
      d.stats.failures + (d.present.isNone && event.failure != .closed).toNat) :
    Moves d awaited event
      { d with
        state := .inactive
        epoch := d.epoch + 1
        past := d.past ++ [d.present <|> some (.error event.failure)]
        present := none
        revoked := d.state.session?.toList.map (·.key) ++ d.revoked
        closeWaiters := []
        stats }
      none

theorem Moves.stopped_eq {event : SessionEvent} (h : Moves d awaited event d' x) :
    d'.stopped = d.stopped := by
  cases h <;> rfl

theorem Moves.epoch_eq {event : SessionEvent} (h : Moves d awaited event d' x) :
    d'.epoch = d.epoch + 1 := by
  cases h <;> rfl

theorem Moves.mem_commands {event : SessionEvent} (h : Moves d awaited event d' x)
    {c : SessionCommand} (hc : c ∈ d'.commands) :
    c ∈ d.commands ∨ c = .event none .sessionRequested := by
  cases h with
  | opens | created | activated | closes | ends => exact .inl hc
  | carries => exact (List.mem_append.1 hc).imp_right List.mem_singleton.1

/-- The exchange that begins is the one of the state. -/
theorem Moves.exchange?_eq {event : SessionEvent} (h : Moves d awaited event d' x) :
    d'.state.exchange? = x := by
  cases h <;> rfl

theorem revokeHeld_eq (state : SessionState) (d : SessionDriver) :
    d.revokeHeld state =
      { d with revoked := state.session?.toList.map (·.key) ++ d.revoked } := by
  cases state <;> rfl

/-- Without a caller that waits for it, the promise is resolved and replaced. -/
theorem enterInactive_eq (event : SessionEvent) {previous : SessionState}
    (ha : ∀ s, previous = .closing s → d.present = none → awaited = false) :
    ∃ stats : SessionStats, stats.failures =
        d.stats.failures + (d.present.isNone && event.failure != .closed).toNat ∧
      d.enterInactive previous event awaited =
        { d with
          past := d.past ++ [d.present <|> some (.error event.failure)]
          present := none
          revoked := previous.session?.toList.map (·.key) ++ d.revoked
          closeWaiters := []
          stats } := by
  have hc : (previous.kind == .closing && d.present.isNone && awaited) = false := by
    cases previous with
    | closing s =>
      cases hp : d.present with
      | none => simp [ha s rfl hp]
      | some o => simp
    | inactive | creating | activating | active => rfl
  unfold enterInactive
  rw [revokeHeld_eq]
  dsimp only [releaseClosers, resolve, renew]
  cases hk : previous.kind == .closing <;> rw [hk] at hc <;>
    cases hf : d.present.isNone && event.failure != .closed <;>
    simp only [hc, hf, Bool.false_eq_true, if_false, if_true]
  · exact ⟨d.stats, rfl, rfl⟩
  · exact ⟨d.stats.recordFailure, rfl, rfl⟩
  · exact ⟨d.stats.recordClose, rfl, rfl⟩
  · exact ⟨d.stats.recordClose.recordFailure, rfl, rfl⟩

theorem moves_enter {event : SessionEvent} {state : SessionState} (hd : d.stopped = false)
    (h : d.state.next? event = some state) :
    Moves d awaited event
      ({ d with state, epoch := d.epoch + 1 }.enter d.state event awaited).1
      ({ d with state, epoch := d.epoch + 1 }.enter d.state event awaited).2 := by
  obtain ⟨state', epoch, commands, stopped, present, past, waiters, revoked, key, stats⟩ := d
  cases hd
  cases state with
  | creating =>
    cases state' <;> cases event <;> cases h
    exact .opens rfl
  | activating created =>
    cases state' <;> cases event <;> cases h
    exact .created rfl
  | active s =>
    cases state' <;> cases event <;> cases h
    exact .activated rfl
  | closing s =>
    cases state' <;> cases event <;> cases h
    exact .closes rfl
  | inactive =>
    by_cases hc : ∃ s, state' = .closing s ∧ present = none ∧ awaited = true
    · obtain ⟨s, rfl, rfl, rfl⟩ := hc
      cases event <;> cases h
      exact .carries rfl rfl rfl
    · have ha : ∀ s, state' = .closing s → present = none → awaited = false :=
        fun s hs hp => Bool.eq_false_iff.2 fun ha => hc ⟨s, hs, hp, ha⟩
      dsimp only [enter]
      obtain ⟨stats', hs, e⟩ := enterInactive_eq event
        (d := ⟨.inactive, epoch + 1, commands, false, present, past, waiters, revoked, key, stats⟩)
        ha
      rw [e]
      exact .ends h ha hs

/-! ## Performing a command -/

/-- The driver with a command taken from its queue. Who has the session closed waits from then
on. -/
def take (c : SessionCommand) (rest : List SessionCommand) (d : SessionDriver) : SessionDriver :=
  match c with
  | .close ticket => { d with commands := rest, closeWaiters := d.closeWaiters ++ [ticket] }
  | .event .. | .shutdown => { d with commands := rest }

section

variable (c : SessionCommand) (rest : List SessionCommand) (d : SessionDriver)

@[simp] theorem take_state : (d.take c rest).state = d.state := by cases c <;> rfl

@[simp] theorem take_epoch : (d.take c rest).epoch = d.epoch := by cases c <;> rfl

@[simp] theorem take_commands : (d.take c rest).commands = rest := by cases c <;> rfl

@[simp] theorem take_stopped : (d.take c rest).stopped = d.stopped := by cases c <;> rfl

@[simp] theorem take_present : (d.take c rest).present = d.present := by cases c <;> rfl

@[simp] theorem take_past : (d.take c rest).past = d.past := by cases c <;> rfl

@[simp] theorem take_revoked : (d.take c rest).revoked = d.revoked := by cases c <;> rfl

@[simp] theorem take_nextKey : (d.take c rest).nextKey = d.nextKey := by cases c <;> rfl

@[simp] theorem take_stats : (d.take c rest).stats = d.stats := by cases c <;> rfl

end

/-- The driver performs its next command; an exchange may begin. -/
inductive Turns (d : SessionDriver) (awaited : Bool) :
    SessionDriver → Option SessionExchange → Prop
  | rests (h : d.commands = []) : Turns d awaited d none
  /-- The event belongs to another epoch, or means nothing now. -/
  | drops {epoch : Option UInt64} {event : SessionEvent} {rest : List SessionCommand}
    (h : d.commands = .event epoch event :: rest)
    (hs : (∃ e, epoch = some e ∧ e ≠ d.epoch) ∨ d.state.next? event = none) :
    Turns d awaited { d with commands := rest } none
  | moves {c : SessionCommand} {rest : List SessionCommand} {event : SessionEvent}
    {d' : SessionDriver} {x : Option SessionExchange} (h : d.commands = c :: rest)
    (he : c.event? = some event) (hc : ∀ e, c.epoch? = some e → e = d.epoch)
    (hm : Moves (d.take c rest) awaited event d' x) : Turns d awaited d' x
  /-- The session is closing already. -/
  | joins {ticket : CloseTicket} {rest : List SessionCommand} {s : Session}
    (h : d.commands = .close ticket :: rest) (hs : d.state = .closing s) :
    Turns d awaited (d.take (.close ticket) rest) none
  /-- There is no session to close. -/
  | answers {ticket : CloseTicket} {rest : List SessionCommand}
    (h : d.commands = .close ticket :: rest) (hs : d.state = .inactive) :
    Turns d awaited { d with commands := rest, closeWaiters := [] } none
  | stops {rest : List SessionCommand} (h : d.commands = .shutdown :: rest) :
    Turns d awaited ({ d with commands := rest }.shutDown) none

theorem next?_closeRequested {s : SessionState} (h : s.next? .closeRequested = none) :
    s = .inactive ∨ ∃ session, s = .closing session := by
  cases s with
  | inactive => exact .inl rfl
  | closing session => exact .inr ⟨session, rfl⟩
  | creating | activating | active => cases h

/-- Who waits for the session to be closed is told on entering `inactive`. -/
theorem Moves.releaseClosers_eq {event : SessionEvent} (h : Moves d awaited event d' x) :
    (if d'.state.kind == .inactive then d'.releaseClosers else d') = d' := by
  cases h <;> rfl

/-- A driver that has stopped has nothing left to do. -/
def Tidy (d : SessionDriver) : Prop := d.stopped = true → d.commands = []

theorem Tidy.stopped_eq (h : d.Tidy) (hd : d.commands ≠ []) : d.stopped = false :=
  Bool.eq_false_iff.2 fun hs => hd (h hs)

theorem enqueue_of_running (h : d.stopped = false) (c : SessionCommand) :
    d.enqueue c = { d with commands := d.commands ++ [c] } :=
  if_neg (Bool.eq_false_iff.1 h)

@[simp] theorem enqueue_stopped (c : SessionCommand) (d : SessionDriver) :
    (d.enqueue c).stopped = d.stopped := by
  unfold enqueue
  split <;> rfl

theorem mem_enqueue {c c' : SessionCommand} (h : c' ∈ (d.enqueue c).commands) :
    c' ∈ d.commands ∨ c' = c := by
  unfold enqueue at h
  split at h
  · exact .inl h
  · exact (List.mem_append.1 h).imp_right List.mem_singleton.1

theorem Tidy.enqueue (h : d.Tidy) (c : SessionCommand) : (d.enqueue c).Tidy := by
  unfold SessionDriver.enqueue
  split
  · exact h
  · rename_i hd
    exact fun hs => absurd hs hd

theorem handle_moves (epoch : Option UInt64) (event : SessionEvent) (awaited : Bool)
    (hd : d.stopped = false) :
    ((∃ e, epoch = some e ∧ e ≠ d.epoch) ∨ d.state.next? event = none) ∧
        d.handle epoch event awaited = (d, none) ∨
      (∀ e, epoch = some e → e = d.epoch) ∧
        Moves d awaited event (d.handle epoch event awaited).1
          (d.handle epoch event awaited).2 := by
  unfold handle
  by_cases he : epoch.any (· != d.epoch) = true
  · rw [if_pos he]
    cases epoch with
    | none => cases he
    | some e => exact .inl ⟨.inl ⟨e, rfl, bne_iff_ne.1 he⟩, rfl⟩
  · rw [if_neg he]
    cases hn : d.state.next? event with
    | none => exact .inl ⟨.inr rfl, rfl⟩
    | some state =>
      refine .inr ⟨fun e h => ?_, moves_enter hd hn⟩
      subst h
      simpa using he

theorem turns_close {ticket : CloseTicket} {rest : List SessionCommand} (hd : d.stopped = false)
    (h : d.commands = .close ticket :: rest) :
    Turns d awaited ({ d with commands := rest }.perform (.close ticket) awaited).1
      ({ d with commands := rest }.perform (.close ticket) awaited).2 := by
  have e : { d with commands := rest }.perform (.close ticket) awaited =
      let r := (d.take (.close ticket) rest).handle none .closeRequested awaited
      (if r.1.state.kind == .inactive then r.1.releaseClosers else r.1, r.2) := rfl
  rw [e]
  dsimp only
  have hd : (d.take (.close ticket) rest).stopped = false := hd
  rcases handle_moves none .closeRequested awaited hd with ⟨hs, e⟩ | ⟨-, hm⟩
  · rw [e]
    have hs : d.state.next? .closeRequested = none := by
      rcases hs with ⟨_, h, -⟩ | hs
      · cases h
      · exact hs
    rcases next?_closeRequested hs with hi | ⟨s, hc⟩
    · have hk : ((d.take (.close ticket) rest).state.kind == .inactive) = true :=
        congrArg (·.kind == SessionStateKind.inactive) hi
      rw [if_pos hk]
      exact .answers h hi
    · have hk : ¬((d.take (.close ticket) rest).state.kind == .inactive) = true :=
        fun hk => nomatch (congrArg (·.kind == SessionStateKind.inactive) hc).symm.trans hk
      rw [if_neg hk]
      exact .joins h hc
  · rw [hm.releaseClosers_eq]
    exact .moves h rfl nofun hm

/-- What the driver does when it has something to do. -/
theorem turns_step (awaited : Bool) (hd : d.Tidy) :
    Turns d awaited (d.step awaited).1 (d.step awaited).2 := by
  unfold step
  split
  · rename_i h
    exact .rests h
  · rename_i c rest h
    have hd : d.stopped = false := hd.stopped_eq (h ▸ List.cons_ne_nil c rest)
    cases c with
    | event epoch event =>
      have hd : ({ d with commands := rest } : SessionDriver).stopped = false := hd
      rcases handle_moves epoch event awaited hd with ⟨hs, e⟩ | ⟨he, hm⟩
      · dsimp only [perform]
        rw [e]
        exact .drops h hs
      · exact .moves h rfl he hm
    | close ticket => exact turns_close hd h
    | shutdown => exact .stops h

theorem Turns.tidy (h : Turns d awaited d' x) (hd : d.Tidy) : d'.Tidy := by
  cases h with
  | rests => exact hd
  | stops => exact fun _ => rfl
  | drops h | joins h | answers h =>
    exact fun hs => absurd hs (Bool.eq_false_iff.1 (hd.stopped_eq (h ▸ List.cons_ne_nil _ _)))
  | moves h he hc hm =>
    have hd := hd.stopped_eq (h ▸ List.cons_ne_nil _ _)
    exact fun hs => absurd hs (by rw [hm.stopped_eq, take_stopped, hd]; exact Bool.false_ne_true)

/-- The driver itself asks for the next session, and for nothing else. -/
theorem Turns.mem_commands (h : Turns d awaited d' x) {c : SessionCommand} (hc : c ∈ d'.commands) :
    c ∈ d.commands ∨ c = .event none .sessionRequested := by
  cases h with
  | rests => exact .inl hc
  | drops h | joins h | answers h => exact .inl (h ▸ List.mem_cons_of_mem _ hc)
  | moves h _ _ hm =>
    rcases hm.mem_commands hc with hc | hc
    · rw [take_commands] at hc
      exact .inl (h ▸ List.mem_cons_of_mem _ hc)
    · exact .inr hc
  | stops =>
    unfold shutDown at hc
    cases hc

theorem Turns.stopped_eq_false (h : Turns d awaited d' x) (hd : d'.stopped = false) :
    d.stopped = false := by
  cases h with
  | rests | drops | answers | joins => exact hd
  | moves h he hc hm => rwa [hm.stopped_eq, take_stopped] at hd
  | stops => cases hd

/-! ## What others do to the driver -/

/-- Others put commands in the queue of the driver. They may revoke the session that is in use, but
then they tell the driver. -/
inductive Hears (d : SessionDriver) : SessionDriver → Prop
  | mk {cs : List SessionCommand} {keys : List SessionKey} (hc : ∀ c ∈ cs, c.isRequest = true)
    (hd : d.stopped = true → cs = [])
    (hk : ∀ k ∈ keys, (∃ a s, d.state = .active a ∧ d.present = some (.ok s) ∧ s.key = k) ∧
      (d.stopped = false → ∃ e, .event none (.invalidated e) ∈ cs)) :
    Hears d { d with commands := d.commands ++ cs, revoked := keys ++ d.revoked }

theorem Hears.refl (d : SessionDriver) : Hears d d := by
  have h : Hears d { d with commands := d.commands ++ [], revoked := [] ++ d.revoked } :=
    .mk nofun (fun _ => rfl) nofun
  rwa [List.append_nil] at h

theorem Hears.stopped_eq (h : Hears d d') : d'.stopped = d.stopped := by
  cases h
  rfl

theorem Hears.trans (h : Hears d d') (h' : Hears d' d'') : Hears d d'' := by
  obtain ⟨hc, hd, hk⟩ := h
  obtain ⟨hc', hd', hk'⟩ := h'
  rename_i cs keys cs' keys'
  have h : Hears d { d with
      commands := d.commands ++ (cs ++ cs')
      revoked := (keys' ++ keys) ++ d.revoked } := by
    refine .mk (fun c hm => (List.mem_append.1 hm).elim (hc c) (hc' c))
      (fun hs => by rw [hd hs, hd' hs, List.append_nil]) fun k hm => ?_
    rcases List.mem_append.1 hm with hm | hm
    · exact ⟨(hk' k hm).1, fun hs => ((hk' k hm).2 hs).imp fun _ => List.mem_append_right cs⟩
    · exact ⟨(hk k hm).1, fun hs => ((hk k hm).2 hs).imp fun _ => List.mem_append_left cs'⟩
  rwa [← List.append_assoc, List.append_assoc keys'] at h

theorem Hears.tidy (h : Hears d d') (hd : d.Tidy) : d'.Tidy := by
  obtain ⟨hc, hcs, -⟩ := h
  exact fun hs => List.append_eq_nil_iff.2 ⟨hd hs, hcs hs⟩

theorem hears_enqueue {c : SessionCommand} (hc : c.isRequest = true) (d : SessionDriver) :
    Hears d (d.enqueue c) := by
  unfold enqueue
  split
  · exact .refl d
  · rename_i hd
    have h : Hears d { d with commands := d.commands ++ [c], revoked := [] ++ d.revoked } :=
      .mk (fun c' hm => List.mem_singleton.1 hm ▸ hc) (fun hs => absurd hs hd) nofun
    exact h

/-- Asking for a session puts a request in the queue. -/
theorem fst_ask (d : SessionDriver) : d.ask.1 = d.enqueue (.event none .sessionRequested) := by
  unfold ask enqueue
  cases d.stopped <;> rfl

theorem fst_resume (w : SessionWait) (d : SessionDriver) :
    (d.resume w).1 = d ∨ (d.resume w).1 = d.ask.1 := by
  unfold resume
  repeat' split
  all_goals first | exact .inl rfl | exact .inr rfl

theorem hears_ask (d : SessionDriver) : Hears d d.ask.1 := by
  rw [fst_ask]
  exact hears_enqueue rfl d

theorem hears_resume (w : SessionWait) (d : SessionDriver) : Hears d (d.resume w).1 := by
  rcases fst_resume w d with e | e <;> rw [e]
  · exact .refl d
  · exact hears_ask d

theorem current?_eq_some {s : Session} (h : d.current? = some s) :
    ∃ a, d.state = .active a ∧ d.present = some (.ok s) := by
  unfold current? at h
  split at h
  · rename_i a s' ha hp
    split at h
    · cases h
      exact ⟨a, ha, hp⟩
    · cases h
  · cases h

theorem hears_invalidate (s : Session) (e : SessionError) (d : SessionDriver) :
    Hears d (d.invalidate s e) := by
  unfold invalidate
  split
  · rename_i current hcur
    split
    · rename_i hkey
      obtain ⟨a, ha, hp⟩ := current?_eq_some hcur
      unfold enqueue
      split
      · rename_i hs
        have h : Hears d { d with commands := d.commands ++ [], revoked := [s.key] ++ d.revoked } :=
          .mk nofun (fun _ => rfl) fun k hk =>
            ⟨⟨a, current, ha, hp, hkey.trans (List.mem_singleton.1 hk).symm⟩,
              fun hs' => absurd hs (Bool.eq_false_iff.1 hs')⟩
        rwa [List.append_nil] at h
      · rename_i hs
        have h : Hears d { d with
            commands := d.commands ++ [.event none (.invalidated e)]
            revoked := [s.key] ++ d.revoked } :=
          .mk (fun c hm => List.mem_singleton.1 hm ▸ rfl) (fun hs' => absurd hs' hs) fun k hk =>
            ⟨⟨a, current, ha, hp, hkey.trans (List.mem_singleton.1 hk).symm⟩,
              fun _ => ⟨e, List.mem_singleton_self _⟩⟩
        exact h
    · exact .refl d
  · exact .refl d

theorem hears_requestShutdown (d : SessionDriver) : Hears d d.requestShutdown := by
  unfold requestShutdown
  split
  · exact .refl d
  · exact hears_enqueue rfl d

end SessionDriver

namespace SessionExchange

/-- How an exchange may end. A session that was activated is the one that the responses describe. -/
def EndsWith : SessionExchange → SessionEvent → Prop
  | create, .createSucceeded _ | create, .createFailed _ | activate _, .activateFailed _
  | close _, .closeCompleted => True
  | activate created, .activateSucceeded s =>
    ∃ key activated, Session.establish? key created activated = some s
  | _, _ => False

/-- The state that an exchange is for takes note of its end. -/
theorem EndsWith.next?_ne_none {x : SessionExchange} {event : SessionEvent} {s : SessionState}
    (h : x.EndsWith event) (hs : s.exchange? = some x) : s.next? event ≠ none := by
  cases s <;> cases hs <;> cases event <;> simp_all [EndsWith, SessionState.next?]

theorem EndsWith.ne_sessionRequested {x : SessionExchange} {event : SessionEvent}
    (h : x.EndsWith event) : event ≠ .sessionRequested := by
  rintro rfl
  cases x <;> exact h

end SessionExchange

namespace SessionSide

variable {σ σ' : SessionSide}

/-! ## Steps -/

section

variable (σ : SessionSide)

/-- Whether some caller waits for the present promise. -/
def awaited : Bool := σ.waits.contains (.outcome σ.driver.promise)

theorem driver_turn : σ.turn.driver = (σ.driver.step σ.awaited).1 := by
  unfold turn
  dsimp only
  split <;> rfl

theorem turns_turn {σ : SessionSide} (ht : σ.driver.Tidy) :
    σ.driver.Turns σ.awaited σ.turn.driver (σ.driver.step σ.awaited).2 := by
  rw [driver_turn]
  exact SessionDriver.turns_step σ.awaited ht

theorem exchanges_turn :
    σ.turn.exchanges = σ.exchanges ++
      ((σ.driver.step σ.awaited).2.map (σ.nextCall, σ.turn.driver.epoch, ·)).toList := by
  rw [driver_turn]
  unfold turn
  dsimp only
  split
  · rename_i e
    have e : (σ.driver.step σ.awaited).2 = none := e
    rw [e]
    exact (List.append_nil _).symm
  · rename_i x e
    have e : (σ.driver.step σ.awaited).2 = some x := e
    rw [e]
    rfl

@[simp] theorem waits_turn : σ.turn.waits = σ.waits := by
  unfold turn
  dsimp only
  split <;> rfl

@[simp] theorem disconnected_turn : σ.turn.disconnected = σ.disconnected := by
  unfold turn
  dsimp only
  split <;> rfl

@[simp] theorem granted_turn : σ.turn.granted = σ.granted := by
  unfold turn
  dsimp only
  split <;> rfl

end

/-- What is left of the driver by the end of an exchange, apart from the report. -/
theorem Concludes.eq {d d' : SessionDriver} {x : SessionExchange} {event : SessionEvent}
    (h : Concludes d x event d') :
    ∃ key keys, d' = { d with nextKey := key, revoked := keys ++ d.revoked } := by
  cases h with
  | created | notCreated | activated | notActivated => exact ⟨_, [], rfl⟩
  | closed s => exact ⟨_, [s.key], rfl⟩

theorem Concludes.stopped_eq {d d' : SessionDriver} {x : SessionExchange} {event : SessionEvent}
    (h : Concludes d x event d') : d'.stopped = d.stopped := by
  cases h <;> rfl

theorem Concludes.endsWith {d d' : SessionDriver} {x : SessionExchange} {event : SessionEvent}
    (h : Concludes d x event d') : x.EndsWith event := by
  cases h with
  | created | notCreated | notActivated | closed => trivial
  | activated h => exact ⟨_, _, h⟩

/-- Callers do not take part in the exchanges. -/
theorem Stirs.hears {R : Session → Prop} (h : Stirs R σ σ') :
    σ.driver.Hears σ'.driver ∧ σ'.exchanges = σ.exchanges := by
  cases h with
  | rests | disconnects => exact ⟨.refl _, rfl⟩
  | asks => exact ⟨SessionDriver.hears_ask _, rfl⟩
  | resumes => exact ⟨SessionDriver.hears_resume .., rfl⟩
  | reports => exact ⟨SessionDriver.hears_invalidate .., rfl⟩
  | closes => exact ⟨SessionDriver.hears_enqueue rfl _, rfl⟩
  | leaves => exact ⟨SessionDriver.hears_requestShutdown _, rfl⟩

theorem hears_of_stirs {R : Session → Prop} (h : Relation.ReflTransGen (Stirs R) σ σ') :
    σ.driver.Hears σ'.driver ∧ σ'.exchanges = σ.exchanges :=
  of_stirs (P := fun τ => σ.driver.Hears τ.driver ∧ τ.exchanges = σ.exchanges)
    (fun hs h => ⟨h.1.trans hs.hears.1, hs.hears.2.trans h.2⟩) h ⟨.refl _, rfl⟩

/-- Whoever acts, only a turn of the driver changes more than its queue and the keys of sessions. -/
theorem Step.turn_or {h : Happening} {b : Bool} (hs : σ.Step h b σ') :
    h = .act (.run .driver) ∧ σ' = σ.turn ∨
      ∃ cs keys key, σ'.driver =
        { σ.driver with
          commands := σ.driver.commands ++ cs
          revoked := keys ++ σ.driver.revoked
          nextKey := key } := by
  have enqueue (c : SessionCommand) (d : SessionDriver) :
      ∃ cs, d.enqueue c = { d with commands := d.commands ++ cs } := by
    unfold SessionDriver.enqueue
    split
    · exact ⟨[], by rw [List.append_nil]⟩
    · exact ⟨[c], rfl⟩
  cases hs with
  | turned e => exact .inl ⟨e, rfl⟩
  | ended he =>
    obtain ⟨hx, hd⟩ := he
    obtain ⟨key, keys, rfl⟩ := hd.eq
    obtain ⟨cs, e⟩ := enqueue _ _
    exact .inr ⟨cs, keys, key, e⟩
  | faltered => exact .inr ⟨[], [], _, by rw [List.append_nil]; rfl⟩
  | injected =>
    obtain ⟨cs, e⟩ := enqueue _ _
    exact .inr ⟨cs, [], _, e⟩
  | stirred hs =>
    obtain ⟨hh, -⟩ := hears_of_stirs hs
    generalize σ'.driver = d at hh
    obtain ⟨hc, -⟩ := hh
    exact .inr ⟨_, _, _, rfl⟩

theorem Step.tidy {h : Happening} {b : Bool} (hs : Step σ h b σ') (ht : σ.driver.Tidy) :
    σ'.driver.Tidy := by
  cases hs with
  | turned => exact (turns_turn ht).tidy ht
  | ended he =>
    obtain ⟨hx, hd⟩ := he
    obtain ⟨key, keys, rfl⟩ := hd.eq
    exact SessionDriver.Tidy.enqueue
      (d := { σ.driver with nextKey := key, revoked := keys ++ σ.driver.revoked }) ht _
  | faltered => exact ht
  | injected => exact ht.enqueue _
  | stirred hs =>
    obtain ⟨hh, -⟩ := hears_of_stirs hs
    exact hh.tidy ht

end SessionSide

namespace Client

theorem IsNew.tidy_later {c : Client} (hc : c.IsNew) (hs : List Happening) :
    (c.later hs).driver.Tidy := by
  induction hs using List.reverseRecOn with
  | nil =>
    rw [later_nil, hc.driver_eq]
    exact fun _ => rfl
  | append_singleton hs h ih => exact (hc.step hs h).tidy ih

/-! ## Turns of a run -/

section

variable {c : Client}

theorem side_undergo_turn (c : Client) : (c.undergo (.act (.run .driver))).side = c.side.turn :=
  side_runCommands c

theorem side_later_turn (hs : List Happening) :
    (c.later (hs ++ [.act (.run .driver)])).side = (c.later hs).side.turn := by
  rw [later_snoc, side_undergo_turn]

theorem waits_later_turn (hs : List Happening) :
    (c.later (hs ++ [.act (.run .driver)])).waits = (c.later hs).waits :=
  (congrArg SessionSide.waits (side_later_turn hs)).trans (SessionSide.waits_turn _)

/-- The driver performs its next command. -/
theorem IsNew.turns (hc : c.IsNew) (hs : List Happening) :
    ∃ x, (c.later hs).driver.Turns (c.later hs).side.awaited
      (c.later (hs ++ [.act (.run .driver)])).driver x := by
  have hT := SessionSide.turns_turn (σ := (c.later hs).side) (hc.tidy_later hs)
  rw [← side_later_turn] at hT
  exact ⟨_, hT⟩

end

end Client

end OpcUa
