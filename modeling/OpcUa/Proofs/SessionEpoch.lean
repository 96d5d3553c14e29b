import OpcUa.Proofs.SessionTurn

/-!
# Epochs of the session driver

An exchange reports back with the epoch in which it was started, and the driver takes no notice of a
report from another epoch. So what is under way in the present epoch is the exchange of the present
state, from its start to the moment at which the driver takes its report.

* `Client.exchange_of_state`: there is exactly one such exchange in the states that need one.
-/

namespace OpcUa

/-- The exchanges that were started in an epoch. -/
def startedIn (epoch : UInt64) (xs : List (CallId × UInt64 × SessionExchange)) :
    List SessionExchange :=
  xs.filterMap fun p => if p.2.1 = epoch then some p.2.2 else none

/-- The end of an exchange of an epoch that a command reports. -/
def SessionCommand.endIn? (epoch : UInt64) : SessionCommand → Option SessionEvent
  | event (some e) ev => if e = epoch then some ev else none
  | event none _ | close _ | shutdown => none

/-- The ends of exchanges of the present epoch that the driver has not taken yet. -/
def SessionDriver.reported (d : SessionDriver) : List SessionEvent :=
  d.commands.filterMap (·.endIn? d.epoch)

/-- The exchanges of the present epoch that are under way. -/
def Client.running (c : Client) : List SessionExchange :=
  c.sessionTasks.filterMap fun p => if p.2.epoch = c.driver.epoch then some p.2.exchange else none

/-! ## What a state needs -/

/-- The exchange of a state is under way, or its end is reported. Nothing else is. -/
def Attended : Option SessionExchange → List SessionExchange → List SessionEvent → Prop
  | none, running, reported => running = [] ∧ reported = []
  | some x, running, reported =>
    running = [x] ∧ reported = [] ∨ running = [] ∧ ∃ event, reported = [event] ∧ x.EndsWith event

namespace Attended

variable {state : Option SessionExchange} {running : List SessionExchange}
  {reported : List SessionEvent}

theorem isSome_iff (h : Attended state running reported) :
    state.isSome = true ↔ running.length + reported.length = 1 := by
  cases state with
  | none =>
    obtain ⟨rfl, rfl⟩ := h
    simp
  | some x =>
    rcases h with ⟨rfl, rfl⟩ | ⟨rfl, event, rfl, -⟩ <;> simp

theorem of_isNone (h : Attended state running reported) (hs : state.isSome = false) :
    running = [] ∧ reported = [] := by
  cases state with
  | none => exact h
  | some x => cases hs

theorem of_mem_running (h : Attended state running reported) :
    ∀ x ∈ running, state = some x := by
  intro y hy
  cases state with
  | none =>
    rw [h.1] at hy
    cases hy
  | some x =>
    rcases h with ⟨rfl, -⟩ | ⟨rfl, -⟩
    · rw [List.mem_singleton.1 hy]
    · cases hy

theorem of_mem_reported (h : Attended state running reported) :
    ∀ event ∈ reported, ∃ x, state = some x ∧ x.EndsWith event := by
  intro event' hy
  cases state with
  | none =>
    rw [h.2] at hy
    cases hy
  | some x =>
    rcases h with ⟨-, rfl⟩ | ⟨-, event, rfl, he⟩
    · cases hy
    · rw [List.mem_singleton.1 hy]
      exact ⟨x, rfl, he⟩

end Attended

namespace SessionDriver

variable {d d' : SessionDriver} {awaited : Bool} {x : Option SessionExchange}

theorem shutDown_epoch (d : SessionDriver) : d.shutDown.epoch = d.epoch := by
  unfold shutDown
  rw [revokeHeld_eq]
  rfl

theorem succ_ne (e : UInt64) : e + 1 ≠ e := by
  intro h
  have h := congrArg UInt64.toNat h
  rw [UInt64.toNat_add] at h
  have := e.toNat_lt
  simp at h
  omega

theorem Turns.epoch_eq (h : Turns d awaited d' x) :
    d'.epoch = d.epoch ∨ d'.epoch = d.epoch + 1 := by
  cases h with
  | rests | drops | answers | joins => exact .inl rfl
  | moves _ _ _ hm => exact .inr (by rw [hm.epoch_eq, take_epoch])
  | stops => exact .inl (shutDown_epoch _)

end SessionDriver

namespace SessionSide

variable {σ σ' : SessionSide}

/-- What the present state needs is under way, and nothing is from an epoch to come. -/
structure Attends (σ : SessionSide) : Prop where
  started : ∀ p ∈ σ.exchanges, p.2.1 ≤ σ.driver.epoch
  told : ∀ c ∈ σ.driver.commands, ∀ e, c.epoch? = some e → e ≤ σ.driver.epoch
  attended : σ.driver.stopped = false →
    Attended σ.driver.state.exchange? (startedIn σ.driver.epoch σ.exchanges) σ.driver.reported

/-- Commands of no epoch report nothing. -/
theorem filterMap_endIn? {cs : List SessionCommand} (h : ∀ c ∈ cs, c.epoch? = none)
    (epoch : UInt64) : cs.filterMap (·.endIn? epoch) = [] := by
  refine List.filterMap_eq_nil_iff.2 fun c hc => ?_
  have h := h c hc
  cases c with
  | event e event =>
    cases h
    rfl
  | close | shutdown => rfl

theorem epoch?_of_isRequest {c : SessionCommand} (h : c.isRequest = true) : c.epoch? = none := by
  cases c with
  | event e event =>
    cases e with
    | none => rfl
    | some e => cases h
  | close | shutdown => rfl

/-! ## What keeps it so -/

/-- Commands of no epoch change nothing. -/
theorem Attends.hears (h : σ.Attends) {cs : List SessionCommand}
    (hcs : ∀ c ∈ cs, c.epoch? = none) (hd : σ'.driver.state = σ.driver.state)
    (he : σ'.driver.epoch = σ.driver.epoch) (hs : σ'.driver.stopped = σ.driver.stopped)
    (hc : σ'.driver.commands = σ.driver.commands ++ cs) (hx : σ'.exchanges = σ.exchanges) :
    σ'.Attends where
  started := by
    rw [he, hx]
    exact h.started
  told c hm e hce := by
    rw [hc] at hm
    rw [he]
    rcases List.mem_append.1 hm with hm | hm
    · exact h.told c hm e hce
    · exact nomatch (hcs c hm).symm.trans hce
  attended ht := by
    have hr : σ'.driver.reported = σ.driver.reported := by
      unfold SessionDriver.reported
      rw [he, hc, List.filterMap_append, filterMap_endIn? hcs, List.append_nil]
    rw [hd, he, hx, hr]
    exact h.attended (hs ▸ ht)

/-- A command that is taken from the queue, and reports nothing, changes nothing. -/
theorem Attends.takes (h : σ.Attends) {c : SessionCommand} {rest : List SessionCommand}
    (hc : σ.driver.commands = c :: rest) (hce : c.endIn? σ.driver.epoch = none)
    (hd : σ'.driver.state = σ.driver.state) (he : σ'.driver.epoch = σ.driver.epoch)
    (hs : σ'.driver.stopped = σ.driver.stopped) (hr : σ'.driver.commands = rest)
    (hx : σ'.exchanges = σ.exchanges) : σ'.Attends where
  started := by
    rw [he, hx]
    exact h.started
  told c' hm := by
    rw [he]
    exact h.told c' (by rw [hc]; exact List.mem_cons_of_mem c (hr ▸ hm))
  attended ht := by
    have e : σ'.driver.reported = σ.driver.reported := by
      unfold SessionDriver.reported
      rw [he, hr, hc, List.filterMap_cons_none hce]
    rw [hd, he, hx, e]
    exact h.attended (hs ▸ ht)

/-- A report of the present epoch means something to the present state. -/
theorem Attends.endIn?_eq_none (h : σ.Attends) (ht : σ.driver.stopped = false)
    {epoch : Option UInt64} {event : SessionEvent} {rest : List SessionCommand}
    (hc : σ.driver.commands = .event epoch event :: rest)
    (hs : (∃ e, epoch = some e ∧ e ≠ σ.driver.epoch) ∨ σ.driver.state.next? event = none) :
    SessionCommand.endIn? σ.driver.epoch (.event epoch event) = none := by
  cases epoch with
  | none => rfl
  | some e =>
    refine if_neg fun he => ?_
    rcases hs with ⟨e', h', hne⟩ | hs
    · cases h'
      exact hne he
    · have hr : event ∈ σ.driver.reported :=
        List.mem_filterMap.2
          ⟨.event (some e) event, hc ▸ List.mem_cons_self, if_pos (c := e = σ.driver.epoch) he⟩
      have ha := h.attended ht
      cases hx : σ.driver.state.exchange? with
      | none =>
        rw [hx] at ha
        rw [ha.2] at hr
        cases hr
      | some x =>
        rw [hx] at ha
        rcases ha with ⟨-, hn⟩ | ⟨-, event', hev, hend⟩
        · rw [hn] at hr
          cases hr
        · rw [hev, List.mem_singleton] at hr
          exact (hr ▸ hend).next?_ne_none hx hs

/-- In a new epoch there is at first what begins with it. -/
theorem Attends.moves (h : σ.Attends) (hn : σ.driver.epoch.toNat + 1 < UInt64.size)
    {c : SessionCommand} {rest : List SessionCommand} {event : SessionEvent}
    {x : Option SessionExchange} {awaited : Bool} (hc : σ.driver.commands = c :: rest)
    (hm : (σ.driver.take c rest).Moves awaited event σ'.driver x)
    (hx : σ'.exchanges = σ.exchanges ++ (x.map (σ.nextCall, σ'.driver.epoch, ·)).toList) :
    σ'.Attends := by
  have hlt : σ.driver.epoch < σ'.driver.epoch := by
    rw [hm.epoch_eq, SessionDriver.take_epoch, UInt64.lt_iff_toNat_lt, UInt64.toNat_add]
    exact Nat.lt_of_lt_of_eq (Nat.lt_succ_self _) (Nat.mod_eq_of_lt hn).symm
  have hcs : ∀ c' ∈ σ'.driver.commands, ∀ e, c'.epoch? = some e → e ≤ σ.driver.epoch := by
    intro c' hm' e hce
    rcases hm.mem_commands hm' with hm' | rfl
    · rw [SessionDriver.take_commands] at hm'
      exact h.told c' (hc ▸ List.mem_cons_of_mem c hm') e hce
    · cases hce
  have hne : ∀ {e : UInt64}, e ≤ σ.driver.epoch → e ≠ σ'.driver.epoch :=
    fun hle => UInt64.ne_of_lt (UInt64.lt_of_le_of_lt hle hlt)
  have hle : ∀ {e : UInt64}, e ≤ σ.driver.epoch → e ≤ σ'.driver.epoch :=
    fun hle => UInt64.le_trans hle (UInt64.le_of_lt hlt)
  refine ⟨fun p hp => ?_, fun c' hm' e hce => hle (hcs c' hm' e hce), fun _ => ?_⟩
  · rw [hx] at hp
    rcases List.mem_append.1 hp with hp | hp
    · exact hle (h.started p hp)
    · obtain ⟨x', -, rfl⟩ := Option.map_eq_some_iff.1 (Option.mem_toList.1 hp)
      exact UInt64.le_refl _
  · have hr : σ'.driver.reported = [] := by
      refine List.filterMap_eq_nil_iff.2 fun c' hm' => ?_
      cases c' with
      | event e event =>
        cases e with
        | none => rfl
        | some e => exact if_neg (hne (hcs _ hm' e rfl))
      | close | shutdown => rfl
    have hs : startedIn σ'.driver.epoch σ.exchanges = [] :=
      List.filterMap_eq_nil_iff.2 fun p hp => if_neg (hne (h.started p hp))
    rw [hm.exchange?_eq, hr, hx]
    unfold startedIn at hs ⊢
    rw [List.filterMap_append, hs]
    cases x with
    | none => exact ⟨rfl, rfl⟩
    | some x => exact .inl ⟨by simp, rfl⟩

/-- What the driver does. -/
theorem Attends.turns (h : σ.Attends) (ht : σ.driver.Tidy) {awaited : Bool} {d : SessionDriver}
    {x : Option SessionExchange} (hT : σ.driver.Turns awaited d x) (hd : σ'.driver = d)
    (hx : σ'.exchanges = σ.exchanges ++ (x.map (σ.nextCall, σ'.driver.epoch, ·)).toList)
    (hn : σ'.driver.epoch ≠ σ.driver.epoch → σ.driver.epoch.toNat + 1 < UInt64.size) :
    σ'.Attends := by
  cases hT with
  | rests =>
    have hc : σ'.driver.commands = σ.driver.commands ++ [] := hd ▸ (List.append_nil _).symm
    exact h.hears (List.forall_mem_nil _) (hd ▸ rfl) (hd ▸ rfl) (hd ▸ rfl) hc
      (hx.trans (List.append_nil _))
  | drops hc hs =>
    have ht := ht.stopped_eq (hc ▸ List.cons_ne_nil _ _)
    exact h.takes hc (h.endIn?_eq_none ht hc hs) (hd ▸ rfl) (hd ▸ rfl) (hd ▸ rfl) (hd ▸ rfl)
      (hx.trans (List.append_nil _))
  | joins hc | answers hc =>
    exact h.takes hc rfl (hd ▸ rfl) (hd ▸ rfl) (hd ▸ rfl) (hd ▸ rfl) (hx.trans (List.append_nil _))
  | moves hc _ _ hm =>
    refine h.moves (hn ?_) hc (hd ▸ hm) hx
    rw [hd, hm.epoch_eq, SessionDriver.take_epoch]
    exact SessionDriver.succ_ne _
  | stops hc =>
    have he : σ'.driver.epoch = σ.driver.epoch := hd ▸ SessionDriver.shutDown_epoch _
    refine ⟨fun p hp => ?_, fun c hm => ?_, fun hs => ?_⟩
    · rw [hx.trans (List.append_nil _)] at hp
      exact he ▸ h.started p hp
    · rw [hd] at hm
      cases hm
    · rw [hd] at hs
      cases hs

/-- The end of the exchange of the present epoch is reported. -/
theorem attended_of_mem {state : Option SessionExchange}
    {xs : List (CallId × UInt64 × SessionExchange)} {events : List SessionEvent} {id : CallId}
    {epoch : UInt64} {x : SessionExchange} {event : SessionEvent}
    (h : Attended state (startedIn epoch xs) events) (hx : (id, epoch, x) ∈ xs)
    (he : x.EndsWith event) :
    Attended state (startedIn epoch (xs.filter (·.1 != id))) (events ++ [event]) := by
  have hmem : x ∈ startedIn epoch xs := List.mem_filterMap.2 ⟨_, hx, if_pos rfl⟩
  cases state with
  | none =>
    rw [h.1] at hmem
    cases hmem
  | some y =>
    rcases h with ⟨hr, rfl⟩ | ⟨hr, -⟩
    · obtain ⟨rfl, hf⟩ := filterMap_filter_eq_nil hx (if_pos rfl) hr
      exact .inr ⟨hf, event, rfl, he⟩
    · rw [hr] at hmem
      cases hmem

/-- What happens to an exchange that is over. -/
theorem Attends.ends (h : σ.Attends) (hN : σ.Numbered) {id : CallId} (he : σ.Ends id σ') :
    σ'.Attends := by
  obtain ⟨hx, hd⟩ := he
  rename_i epoch x event d
  have hend := hd.endsWith
  obtain ⟨key, keys, rfl⟩ := hd.eq
  have started : ∀ p ∈ σ.exchanges.filter (·.1 != id), p.2.1 ≤ σ.driver.epoch :=
    fun p hp => h.started p (List.mem_filter.1 hp).1
  unfold SessionDriver.enqueue
  split
  · rename_i hs
    exact ⟨started, h.told, fun ht => absurd hs (Bool.eq_false_iff.1 ht)⟩
  · refine ⟨started, fun c hm e hce => ?_, fun ht => ?_⟩
    · rcases List.mem_append.1 hm with hm | hm
      · exact h.told c hm e hce
      · rw [List.mem_singleton.1 hm] at hce
        cases hce
        exact h.started _ hx
    · have ha := h.attended ht
      have hr : SessionDriver.reported { σ.driver with
            nextKey := key
            revoked := keys ++ σ.driver.revoked
            commands := σ.driver.commands ++ [.event (some epoch) event] } =
          σ.driver.reported ++ if epoch = σ.driver.epoch then [event] else [] := by
        unfold SessionDriver.reported
        rw [List.filterMap_append]
        congr 1
        by_cases he : epoch = σ.driver.epoch <;>
          simp [SessionCommand.endIn?, he]
      dsimp only
      rw [hr]
      by_cases he : epoch = σ.driver.epoch
      · subst he
        rw [if_pos rfl]
        exact attended_of_mem ha hx hend
      · rw [if_neg he, List.append_nil, startedIn, hN.filterMap_filter hx (if_neg he)]
        exact ha

theorem Attends.enqueue (h : σ.Attends) {c : SessionCommand} (hc : c.epoch? = none) :
    Attends { σ with driver := σ.driver.enqueue c } := by
  unfold SessionDriver.enqueue
  split
  · exact h
  · have h : Attends { σ with driver := { σ.driver with commands := σ.driver.commands ++ [c] } } :=
      h.hears (fun c' hm => List.mem_singleton.1 hm ▸ hc) rfl rfl rfl rfl rfl
    exact h

/-- Every step keeps it so, as long as the epochs do not start again. -/
theorem Attends.step {a : Happening} (h : σ.Attends) (ht : σ.driver.Tidy) (hN : σ.Numbered)
    (hs : σ.Step a false σ')
    (hn : σ'.driver.epoch ≠ σ.driver.epoch → σ.driver.epoch.toNat + 1 < UInt64.size) :
    σ'.Attends := by
  cases hs with
  | turned =>
    exact h.turns ht (turns_turn ht) rfl σ.exchanges_turn hn
  | ended he => exact h.ends hN he
  | faltered hf => cases hf
  | injected => exact h.enqueue rfl
  | stirred hs =>
    obtain ⟨hh, hx⟩ := hears_of_stirs hs
    generalize hd : σ'.driver = d at hh
    obtain ⟨hc, -⟩ := hh
    exact h.hears (fun c hm => epoch?_of_isRequest (hc c hm)) (hd ▸ rfl) (hd ▸ rfl) (hd ▸ rfl)
      (hd ▸ rfl) hx

theorem Step.epoch_eq {a : Happening} {b : Bool} (ht : σ.driver.Tidy) (hs : σ.Step a b σ') :
    σ'.driver.epoch = σ.driver.epoch ∨ σ'.driver.epoch = σ.driver.epoch + 1 := by
  rcases hs.turn_or with ⟨-, rfl⟩ | ⟨cs, keys, key, e⟩
  · exact (turns_turn ht).epoch_eq
  · exact .inl (by rw [e])

end SessionSide

namespace Client

variable {c : Client}

/-- The epoch is the number of the states that have been entered. -/
theorem IsNew.toNat_epoch (hc : c.IsNew) {hs : List Happening}
    (hn : c.tally enters hs < UInt64.size) :
    (c.later hs).driver.epoch.toNat = c.tally enters hs := by
  induction hs using List.reverseRecOn with
  | nil =>
    rw [later_nil, hc.driver_eq]
    rfl
  | append_singleton hs h ih =>
    rw [tally_snoc] at hn ⊢
    have ih := ih (Nat.lt_of_le_of_lt (Nat.le_add_right _ _) hn)
    have he : ((c.later hs).undergo h).driver.epoch = (c.later hs).driver.epoch ∨
        ((c.later hs).undergo h).driver.epoch = (c.later hs).driver.epoch + 1 :=
      later_snoc hs h c ▸ (hc.step hs h).epoch_eq (hc.tidy_later hs)
    rw [enters] at hn ⊢
    rw [later_snoc]
    rcases he with e | e <;> rw [e] at hn ⊢
    · rw [bne_self_eq_false]
      exact ih
    · rw [bne_iff_ne.2 (SessionDriver.succ_ne _)] at hn ⊢
      rw [UInt64.toNat_add, ih]
      exact Nat.mod_eq_of_lt hn

theorem IsNew.attends (hc : c.IsNew) {hs : List Happening} (hf : c.NeverFalters hs)
    (hn : c.tally enters hs < UInt64.size) : (c.later hs).side.Attends := by
  induction hs using List.reverseRecOn with
  | nil =>
    cases hc <;>
      exact ⟨List.forall_mem_nil _, List.forall_mem_nil _, fun _ => ⟨rfl, rfl⟩⟩
  | append_singleton hs h ih =>
    obtain ⟨hf, hfh⟩ := neverFalters_snoc.1 hf
    have hstep := hc.step hs h
    rw [hfh] at hstep
    rw [tally_snoc] at hn
    refine (ih hf (Nat.lt_of_le_of_lt (Nat.le_add_right _ _) hn)).step (hc.tidy_later hs)
      (hc.numbered_later hs) hstep fun he => ?_
    have he : (c.later hs).enters h = true := bne_iff_ne.2 (later_snoc hs h c ▸ he)
    rw [he] at hn
    change (c.later hs).driver.epoch.toNat + 1 < UInt64.size
    rwa [hc.toNat_epoch (Nat.lt_of_succ_lt hn)]

/-- The driver takes no notice of what comes from another epoch. -/
theorem undergo_of_stale {epoch : UInt64} {event : SessionEvent} {rest : List SessionCommand}
    (h : c.driver.commands = .event (some epoch) event :: rest) (he : epoch ≠ c.driver.epoch) :
    c.undergo (.act (.run .driver)) =
      c.withService fun s => { s with driver := { s.driver with commands := rest } } := by
  have hs (awaited : Bool) :
      c.driver.step awaited = ({ c.driver with commands := rest }, none) := by
    unfold SessionDriver.step
    rw [h]
    exact SessionDriver.handle_of_stale (d := { c.driver with commands := rest }) he event awaited
  change c.runCommands 1 = _
  rw [runCommands, if_neg (by rw [h]; exact Bool.false_ne_true), hs]
  rfl

theorem running_eq (c : Client) : c.running = startedIn c.side.driver.epoch c.side.exchanges := by
  unfold running startedIn side
  rw [List.filterMap_map]
  rfl

/-- In the states that need an exchange with the server, exactly one exchange of the present epoch
is under way or has been reported, and it is the one that the state is for; in the other states
there is none. What is reported from another epoch is taken from the queue, and that is all. -/
theorem exchange_of_state (hc : c.IsNew) {hs : List Happening} (hf : c.NeverFalters hs)
    (hn : c.tally enters hs < UInt64.size) (hd : (c.later hs).driver.stopped = false) :
    ((c.later hs).driver.state.kind.isTransitioning = true ↔
      (c.later hs).running.length + (c.later hs).driver.reported.length = 1) ∧
    ((c.later hs).driver.state.kind.isTransitioning = false →
      (c.later hs).running = [] ∧ (c.later hs).driver.reported = []) ∧
    (∀ x ∈ (c.later hs).running, (c.later hs).driver.state.exchange? = some x) ∧
    (∀ event ∈ (c.later hs).driver.reported,
      ∃ x, (c.later hs).driver.state.exchange? = some x ∧ x.EndsWith event) ∧
    ∀ epoch event rest, (c.later hs).driver.commands = .event (some epoch) event :: rest →
      epoch ≠ (c.later hs).driver.epoch →
      c.later (hs ++ [.act (.run .driver)]) = (c.later hs).withService fun s =>
        { s with driver := { s.driver with commands := rest } } := by
  have ha := (hc.attends hf hn).attended hd
  rw [← running_eq] at ha
  change Attended (c.later hs).driver.state.exchange? (c.later hs).running
    (c.later hs).driver.reported at ha
  rw [SessionState.isTransitioning_kind]
  refine ⟨?_, ?_, ?_, ?_, fun epoch event rest h he => ?_⟩
  · exact ha.isSome_iff
  · exact ha.of_isNone
  · exact ha.of_mem_running
  · exact ha.of_mem_reported
  · rw [later_snoc]
    exact undergo_of_stale h he

/-- An attempt is given up and another one has begun. The response that the first one waited for
comes late. -/
def lateReport : List Happening :=
  calling 0 .session session_ne_connect ++ calling 2 .close close_ne_connect ++
    calling 3 .session session_ne_connect ++
    exchanging 1 0 (goodReply .createSession ⟨.null, .null, 60000.0, [], [], 0⟩)

/-- The new attempt goes on. -/
theorem exchange_of_state_sample :
    newcomer.NeverFalters lateReport ∧ newcomer.tally enters lateReport < UInt64.size ∧
      (newcomer.later lateReport).driver.stopped = false ∧
      (newcomer.later lateReport).running.length +
        (newcomer.later lateReport).driver.reported.length = 1 ∧
      (newcomer.later lateReport).driver.commands.length = 1 ∧
      newcomer.later (lateReport ++ [.act (.run .driver)]) =
        (newcomer.later lateReport).withService fun s =>
          { s with driver := { s.driver with commands := [] } } := by
  have hf : newcomer.NeverFalters lateReport := by decide
  have hn : newcomer.tally enters lateReport < UInt64.size := by decide
  have hd : (newcomer.later lateReport).driver.stopped = false := by decide
  obtain ⟨hone, -, -, -, hstale⟩ := exchange_of_state newcomer_isNew hf hn hd
  have hc : (newcomer.later lateReport).driver.commands =
      [.event (some 1) (.createSucceeded ⟨.null, .null, 60000.0, [], [], 0⟩)] := by rfl
  exact ⟨hf, hn, hd, hone.1 (by decide), by decide, hstale 1 _ [] hc (by decide)⟩

end Client

end OpcUa
