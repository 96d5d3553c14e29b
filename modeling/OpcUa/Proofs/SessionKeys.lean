import OpcUa.Proofs.SessionPromise

/-!
# Sessions that are revoked

As long as nobody but the exchanges themselves tells the driver how they have ended, a session is
closed in one exchange and in the state `closing`, and it gets a key that no other session has. So a
session that is in use has been revoked only if the driver is about to learn of it.

* `SessionSide.Closes`: the exchange that closes a session.
* `SessionDriver.Keyed`: the keys.
-/

namespace OpcUa

namespace SessionCommand

/-- The key of the session that a command offers. -/
def offered? : SessionCommand → Option SessionKey
  | event _ (.activateSucceeded s) => some s.key
  | _ => none

/-- The epoch for which a command says that a session is closed. -/
def closed? : SessionCommand → Option (Option UInt64)
  | event epoch .closeCompleted => some epoch
  | _ => none

theorem offered?_of_isRequest {c : SessionCommand} (h : c.isRequest = true) :
    c.offered? = none := by
  cases c with
  | event epoch event =>
    cases epoch with
    | none => cases event <;> first | rfl | cases h
    | some e => cases h
  | close | shutdown => rfl

theorem closed?_of_isRequest {c : SessionCommand} (h : c.isRequest = true) : c.closed? = none := by
  cases c with
  | event epoch event =>
    cases epoch with
    | none => cases event <;> first | rfl | cases h
    | some e => cases h
  | close | shutdown => rfl

end SessionCommand

/-- The session that an exchange closes, with the epoch of the exchange. -/
def closes? : CallId × UInt64 × SessionExchange → Option (UInt64 × Session)
  | (_, epoch, .close s) => some (epoch, s)
  | _ => none

namespace SessionSide

variable {σ σ' : SessionSide} {h : Happening}

/-- A step in which nobody makes up a report. -/
theorem Step.honest {b : Bool} (hs : σ.Step h b σ') (hf : h.forges = false) :
    σ' = σ.turn ∨ (∃ id, σ.Ends id σ') ∨
      (σ.driver.Hears σ'.driver ∧ σ'.exchanges = σ.exchanges) ∨
      b = true ∧ ∃ id epoch created, (id, epoch, .activate created) ∈ σ.exchanges ∧
        σ' = { σ with exchanges := σ.exchanges.filter (·.1 != id) } := by
  cases hs with
  | turned => exact .inl rfl
  | ended he => exact .inr (.inl ⟨_, he⟩)
  | faltered hb hx => exact .inr (.inr (.inr ⟨hb, _, _, _, hx, rfl⟩))
  | @injected event e =>
    subst e
    have hf : event.isCompletion = false := hf
    exact .inr (.inr (.inl
      ⟨SessionDriver.hears_enqueue (by simp [SessionCommand.isRequest, hf]) _, rfl⟩))
  | stirred hs => exact .inr (.inr (.inl (hears_of_stirs hs)))

/-! ## Closing -/

/-- The session of the state `closing` is closed in one exchange, which is under way or reported. -/
def ClosesIn (state : SessionState) (epoch : UInt64) (running : List (UInt64 × Session))
    (reported : List (Option UInt64)) : Prop :=
  match state with
  | .closing s => running = [(epoch, s)] ∧ reported = [] ∨ running = [] ∧ reported = [some epoch]
  | .inactive | .creating | .activating _ | .active _ => running = [] ∧ reported = []

/-- No other session is closed. -/
def Closes (σ : SessionSide) : Prop :=
  σ.driver.stopped = false →
    ClosesIn σ.driver.state σ.driver.epoch (σ.exchanges.filterMap closes?)
      (σ.driver.commands.filterMap (·.closed?))

theorem filterMap_cons_toList {α β : Type} (f : α → Option β) (a : α) (l : List α) :
    (a :: l).filterMap f = (f a).toList ++ l.filterMap f := by
  cases h : f a <;> simp [h]

/-- Once the driver has taken the report, nothing is left of the exchange. -/
theorem ClosesIn.rest {state : SessionState} {epoch : UInt64} {running : List (UInt64 × Session)}
    {reported : List (Option UInt64)} {c : SessionCommand}
    (h : ClosesIn state epoch running (c.closed?.toList ++ reported))
    (hc : ∀ s, state = .closing s → c.closed?.isSome = true) : running = [] ∧ reported = [] := by
  cases state with
  | closing s =>
    obtain ⟨e, he⟩ := Option.isSome_iff_exists.1 (hc s rfl)
    rw [he] at h
    rcases h with ⟨-, hr⟩ | ⟨hr, hp⟩
    · cases hr
    · exact ⟨hr, (List.cons.inj hp).2⟩
  | inactive | creating | activating | active => exact h.imp_right (List.append_eq_nil_iff.1 · |>.2)

/-- The driver takes note of the report. -/
theorem ClosesIn.closed?_eq_none {state : SessionState} {epoch : UInt64}
    {running : List (UInt64 × Session)} {reported : List (Option UInt64)} {e : Option UInt64}
    {event : SessionEvent}
    (h : ClosesIn state epoch running
      ((SessionCommand.event e event).closed?.toList ++ reported))
    (hs : (∃ e', e = some e' ∧ e' ≠ epoch) ∨ state.next? event = none) :
    (SessionCommand.event e event).closed? = none := by
  cases event with
  | closeCompleted =>
    exfalso
    cases state with
    | closing s =>
      rcases h with ⟨-, h⟩ | ⟨-, h⟩
      · cases h
      · cases h
        rcases hs with ⟨e', he, hne⟩ | hs
        · cases he
          exact hne rfl
        · cases hs
    | inactive | creating | activating | active => cases h.2
  | sessionRequested | createSucceeded | createFailed | activateSucceeded | activateFailed
  | closeRequested | invalidated => rfl

/-- Only that report leads out of `closing`. -/
theorem closed?_of_moves {d d' : SessionDriver} {awaited : Bool} {event : SessionEvent}
    {x : Option SessionExchange} {c : SessionCommand} (hm : d.Moves awaited event d' x)
    (he : c.event? = some event) {s : Session} (hs : d.state = .closing s) :
    c.closed?.isSome = true := by
  have e : event = .closeCompleted := by
    cases hm with
    | opens h | created h | activated h | closes h => rw [h] at hs; cases hs
    | carries => rfl
    | ends h =>
      rw [hs] at h
      cases event <;> first | rfl | cases h
  subst e
  cases c with
  | event epoch event =>
    cases he
    rfl
  | close | shutdown => cases he

theorem Closes.turns (hc : σ.Closes) (ht : σ.driver.Tidy) {awaited : Bool} {d : SessionDriver}
    {x : Option SessionExchange} (hT : σ.driver.Turns awaited d x) (hd : σ'.driver = d)
    (hx : σ'.exchanges = σ.exchanges ++ (x.map (σ.nextCall, σ'.driver.epoch, ·)).toList) :
    σ'.Closes := by
  unfold Closes at hc ⊢
  rw [hx, hd]
  cases hT with
  | rests => rw [Option.map_none, Option.toList_none, List.append_nil]; exact hc
  | drops h hs =>
    rw [Option.map_none, Option.toList_none, List.append_nil]
    intro hstop
    have hc := hc hstop
    rw [h, filterMap_cons_toList] at hc
    rwa [hc.closed?_eq_none hs] at hc
  | joins h | answers h =>
    rw [Option.map_none, Option.toList_none, List.append_nil]
    rw [h] at hc
    exact hc
  | @moves c rest event d x h he _ hm =>
    intro _
    have hc := hc (ht.stopped_eq (h ▸ List.cons_ne_nil _ _))
    rw [h, filterMap_cons_toList] at hc
    obtain ⟨hr, hp⟩ := hc.rest fun s hs => closed?_of_moves hm he (SessionDriver.take_state .. ▸ hs)
    rw [List.filterMap_append, hr]
    cases hm with
    | opens | created | activated | ends =>
      exact ⟨rfl, by rw [← hp, SessionDriver.take_commands]⟩
    | carries =>
      refine ⟨rfl, ?_⟩
      rw [List.filterMap_append, SessionDriver.take_commands, hp]
      rfl
    | closes => exact .inl ⟨rfl, by rw [← hp, SessionDriver.take_commands]⟩
  | stops h =>
    rw [SessionDriver.shutDown_eq]
    exact nofun

theorem Closes.hears (hc : σ.Closes) (hh : σ.driver.Hears σ'.driver)
    (hx : σ'.exchanges = σ.exchanges) : σ'.Closes := by
  unfold Closes at hc ⊢
  rw [hx]
  generalize σ'.driver = d at hh
  obtain ⟨hcs, -, -⟩ := hh
  rw [List.filterMap_append, List.filterMap_eq_nil_iff.2
    fun c hm => SessionCommand.closed?_of_isRequest (hcs c hm), List.append_nil]
  exact hc

/-- The exchange that closes a session is the one of the present state. -/
theorem ClosesIn.of_mem {state : SessionState} {epoch e : UInt64} {s : Session} {id : CallId}
    {xs : List (CallId × UInt64 × SessionExchange)} {reported : List (Option UInt64)}
    (h : ClosesIn state epoch (xs.filterMap closes?) reported) (hx : (id, e, .close s) ∈ xs) :
    state = .closing s ∧ e = epoch ∧ reported = [] ∧
      (xs.filter (·.1 != id)).filterMap closes? = [] := by
  have hmem : (e, s) ∈ xs.filterMap closes? := List.mem_filterMap.2 ⟨_, hx, rfl⟩
  cases state with
  | closing s' =>
    rcases h with ⟨hr, hp⟩ | ⟨hr, -⟩
    · obtain ⟨e', hf⟩ := filterMap_filter_eq_nil hx (f := closes?) rfl hr
      cases e'
      exact ⟨rfl, rfl, hp, hf⟩
    · rw [hr] at hmem
      cases hmem
  | inactive | creating | activating | active =>
    rw [h.1] at hmem
    cases hmem

theorem Closes.ends (hc : σ.Closes) (hN : σ.Numbered) {id : CallId} (he : σ.Ends id σ') :
    σ'.Closes := by
  obtain ⟨hx, hd⟩ := he
  rename_i epoch x event d
  intro hs
  dsimp only at hs ⊢
  rw [SessionDriver.enqueue_stopped] at hs
  rw [SessionDriver.enqueue_of_running hs]
  cases hd with
  | created | notCreated | activated | notActivated =>
    dsimp only
    rw [hN.filterMap_filter hx rfl, List.filterMap_append]
    exact List.append_nil _ ▸ hc hs
  | closed s =>
    obtain ⟨hstate, rfl, hp, hr⟩ := (hc hs).of_mem hx
    refine hstate ▸ .inr ⟨hr, ?_⟩
    dsimp only [SessionDriver.revoke]
    rw [List.filterMap_append, hp]
    rfl

theorem Closes.step {b : Bool} (hc : σ.Closes) (ht : σ.driver.Tidy) (hN : σ.Numbered)
    (hs : σ.Step h b σ') (hf : h.forges = false) : σ'.Closes := by
  rcases hs.honest hf with rfl | ⟨id, he⟩ | ⟨hh, hx⟩ | ⟨-, id, epoch, created, hx, rfl⟩
  · exact hc.turns ht (turns_turn ht) rfl σ.exchanges_turn
  · exact hc.ends hN he
  · exact hc.hears hh hx
  · intro hd
    rw [hN.filterMap_filter hx rfl]
    exact hc hd

end SessionSide

namespace SessionDriver

variable {d d' : SessionDriver} {awaited : Bool} {x : Option SessionExchange}

/-! ## Keys -/

/-- The keys of the sessions that the commands offer. -/
def offers (d : SessionDriver) : List SessionKey := d.commands.filterMap (·.offered?)

/-- The keys of the sessions that are held or revoked. -/
def used (d : SessionDriver) : List SessionKey :=
  d.state.session?.toList.map (·.key) ++ d.revoked

/-- A session that is offered has a key of its own, and the driver is going to learn that the
session in use is revoked. -/
structure Keyed (d : SessionDriver) : Prop where
  nodup : d.offers.Nodup
  unused : ∀ k ∈ d.offers, k ∉ d.used
  lt : ∀ k ∈ d.offers ++ d.used, k < d.nextKey
  told : ∀ s, d.state = .active s → s.key ∈ d.revoked →
    ∃ e, .event none (.invalidated e) ∈ d.commands

/-- The driver takes a command, and may come to hold the session that it offers. -/
theorem Keyed.takes (h : d.Keyed) {c : SessionCommand} {rest : List SessionCommand}
    (hc : d.commands = c :: rest) (hr : d'.offers = rest.filterMap (·.offered?))
    (hu : ∀ k ∈ d'.used, k ∈ d.used ∨ c.offered? = some k) (hn : d'.nextKey = d.nextKey)
    (ht : ∀ s, d'.state = .active s → s.key ∈ d'.revoked →
      ∃ e, .event none (.invalidated e) ∈ d'.commands) : d'.Keyed := by
  have ho : d.offers = c.offered?.toList ++ d'.offers := by
    rw [offers, hc, SessionSide.filterMap_cons_toList, hr]
  have hnodup := h.nodup
  rw [ho, List.nodup_append] at hnodup
  obtain ⟨-, hnodup, hdisjoint⟩ := hnodup
  have hoff : ∀ k ∈ d'.offers, k ∈ d.offers := fun k hk => ho ▸ List.mem_append_right _ hk
  refine ⟨hnodup, fun k hk hk' => ?_, fun k hk => ?_, ht⟩
  · rcases hu k hk' with hk' | hk'
    · exact h.unused k (hoff k hk) hk'
    · exact hdisjoint k (by rw [hk']; exact List.mem_singleton_self k) k hk rfl
  · rw [hn]
    refine h.lt k ?_
    rcases List.mem_append.1 hk with hk | hk
    · exact List.mem_append_left _ (hoff k hk)
    · rcases hu k hk with hk | hk
      · exact List.mem_append_right _ hk
      · refine List.mem_append_left _ (ho ▸ List.mem_append_left _ ?_)
        rw [hk]
        exact List.mem_singleton_self k

theorem Moves.used {event : SessionEvent} (h : Moves d awaited event d' x) :
    ∀ k ∈ d'.used, k ∈ d.used ∨ ∃ s, event = .activateSucceeded s ∧ s.key = k := by
  intro k hk
  cases h with
  | opens | created => exact .inl (List.mem_append_right _ hk)
  | activated =>
    rcases List.mem_cons.1 hk with rfl | hk
    · exact .inr ⟨_, rfl, rfl⟩
    · exact .inl (List.mem_append_right _ hk)
  | closes hs =>
    unfold SessionDriver.used
    rw [hs]
    exact .inl hk
  | carries hs =>
    unfold SessionDriver.used
    rw [hs]
    exact .inl hk
  | ends => exact .inl hk

theorem Moves.offers {event : SessionEvent} (h : Moves d awaited event d' x) :
    d'.offers = d.offers := by
  cases h with
  | opens | created | activated | closes | ends => rfl
  | carries =>
    unfold SessionDriver.offers
    rw [List.filterMap_append]
    exact List.append_nil _

theorem Moves.nextKey_eq {event : SessionEvent} (h : Moves d awaited event d' x) :
    d'.nextKey = d.nextKey := by
  cases h <;> rfl

theorem Moves.of_active {event : SessionEvent} (h : Moves d awaited event d' x) {s : Session}
    (hs : d'.state = .active s) : event = .activateSucceeded s ∧ d'.revoked = d.revoked := by
  cases h with
  | activated =>
    cases hs
    exact ⟨rfl, rfl⟩
  | opens | created | closes | carries | ends => cases hs

theorem offered?_of_event? {c : SessionCommand} {s : Session}
    (h : c.event? = some (.activateSucceeded s)) : c.offered? = some s.key := by
  cases c with
  | event epoch event =>
    cases h
    rfl
  | close | shutdown => cases h

theorem Turns.keyed (hk : d.Keyed) (h : Turns d awaited d' x) (hd' : d'.stopped = false) :
    d'.Keyed := by
  cases h with
  | rests => exact hk
  | drops hc hs =>
    refine hk.takes hc rfl (fun k hk => .inl hk) rfl fun s hstate hrev => ?_
    obtain ⟨e, he⟩ := hk.told s hstate hrev
    rw [hc] at he
    rcases List.mem_cons.1 he with he | he
    · -- the driver takes note of it
      cases he
      rcases hs with ⟨_, hs, -⟩ | hs
      · cases hs
      · have hstate : d.state = .active s := hstate
        rw [hstate] at hs
        cases hs
    · exact ⟨e, he⟩
  | joins hc hs =>
    exact hk.takes hc rfl (fun k hk => .inl hk) rfl fun s hstate => nomatch hs.symm.trans hstate
  | answers hc hs =>
    exact hk.takes hc rfl (fun k hk => .inl hk) rfl fun s hstate => nomatch hs.symm.trans hstate
  | @moves c rest event d' x hc he _ hm =>
    have hoff : (d.take c rest).offers = rest.filterMap (·.offered?) := by
      rw [offers, take_commands]
    have hused : (d.take c rest).used = d.used := by
      rw [used, used, take_state, take_revoked]
    refine hk.takes hc (hm.offers.trans hoff) (fun k hk => ?_)
      (hm.nextKey_eq.trans (take_nextKey ..)) fun s hstate hrev => ?_
    · refine (hm.used k hk).imp (hused ▸ ·) ?_
      rintro ⟨s, rfl, rfl⟩
      exact offered?_of_event? he
    · -- a session that has just been offered is not revoked
      obtain ⟨rfl, hrevoked⟩ := hm.of_active hstate
      rw [hrevoked, take_revoked] at hrev
      refine absurd (List.mem_append_right _ hrev) (hk.unused s.key ?_)
      rw [offers, hc, SessionSide.filterMap_cons_toList, offered?_of_event? he]
      exact List.mem_append_left _ (List.mem_singleton_self _)
  | stops =>
    rw [shutDown_eq] at hd'
    cases hd'

/-- Nothing is offered, and no other session is held or revoked. -/
theorem Keyed.mono (h : d.Keyed) (ho : d'.offers = d.offers) (hu : d'.used ⊆ d.used)
    (hn : d'.nextKey = d.nextKey)
    (ht : ∀ s, d'.state = .active s → s.key ∈ d'.revoked →
      ∃ e, .event none (.invalidated e) ∈ d'.commands) : d'.Keyed := by
  refine ⟨ho ▸ h.nodup, fun k hm hm' => h.unused k (ho ▸ hm) (hu hm'),
    fun k hm => hn ▸ h.lt k ?_, ht⟩
  rcases List.mem_append.1 hm with hm | hm
  · exact List.mem_append_left _ (ho ▸ hm)
  · exact List.mem_append_right _ (hu hm)

theorem offers_append {cs : List SessionCommand} (hc : ∀ c ∈ cs, c.offered? = none)
    (h : d'.commands = d.commands ++ cs) : d'.offers = d.offers := by
  rw [offers, h, List.filterMap_append, List.filterMap_eq_nil_iff.2 hc, List.append_nil, offers]

theorem Keyed.hears (hk : d.Keyed) (hkept : d.Kept) (hd : d.stopped = false)
    (h : d.Hears d') : d'.Keyed := by
  obtain ⟨hc, -, hkeys⟩ := h
  refine hk.mono (offers_append (fun c hm => SessionCommand.offered?_of_isRequest (hc c hm)) rfl)
    (fun k hm => ?_) rfl fun s hs hm => ?_
  · rcases List.mem_append.1 hm with hm | hm
    · exact List.mem_append_left _ hm
    rcases List.mem_append.1 hm with hm | hm
    · -- the session in use
      obtain ⟨⟨a, s, ha, hs, rfl⟩, -⟩ := hkeys k hm
      rw [hkept.present hd, ha] at hs
      cases hs
      refine List.mem_append_left _ ?_
      rw [ha]
      exact List.mem_singleton_self _
    · exact List.mem_append_right _ hm
  · rcases List.mem_append.1 hm with hm | hm
    · exact ((hkeys _ hm).2 hd).imp fun _ => List.mem_append_right _
    · exact (hk.told s hs hm).imp fun _ => List.mem_append_left _

/-- The next key is given away. -/
theorem Keyed.offersNext (hk : d.Keyed) {s : Session} (hkey : s.key = d.nextKey)
    (epoch : Option UInt64) :
    Keyed { d with
      nextKey := d.nextKey + 1
      commands := d.commands ++ [.event epoch (.activateSucceeded s)] } := by
  have hoff : offers { d with
        nextKey := d.nextKey + 1
        commands := d.commands ++ [.event epoch (.activateSucceeded s)] } =
      d.offers ++ [d.nextKey] := by
    rw [offers, List.filterMap_append, ← hkey]
    rfl
  have hlt : ∀ k ∈ d.offers ++ d.used, k < d.nextKey := hk.lt
  refine ⟨?_, fun k hm hm' => ?_, fun k hm => ?_, fun s hs hm => ?_⟩
  · rw [hoff]
    refine List.nodup_append.2 ⟨hk.nodup, List.nodup_singleton _, fun k hm k' hm' => ?_⟩
    rw [List.mem_singleton.1 hm']
    exact Nat.ne_of_lt (hlt k (List.mem_append_left _ hm))
  · rw [hoff] at hm
    rcases List.mem_append.1 hm with hm | hm
    · exact hk.unused k hm hm'
    · have := hlt k (List.mem_append_right _ hm')
      rw [List.mem_singleton.1 hm] at this
      exact Nat.lt_irrefl _ this
  · rw [hoff, List.append_assoc] at hm
    rcases List.mem_append.1 hm with hm | hm
    · exact Nat.lt_succ_of_lt (hlt k (List.mem_append_left _ hm))
    · rcases List.mem_cons.1 hm with rfl | hm
      · exact Nat.lt_succ_self _
      · exact Nat.lt_succ_of_lt (hlt k (List.mem_append_right _ hm))
  · exact (hk.told s hs hm).imp fun _ => List.mem_append_left _

theorem key_of_establish? {key : SessionKey} {created : CreateSessionAnswer}
    {activated : ActivateSessionAnswer} {s : Session}
    (h : Session.establish? key created activated = some s) : s.key = key := by
  unfold Session.establish? at h
  obtain ⟨timeout, -, h⟩ := Option.bind_eq_some_iff.1 h
  cases h
  rfl

/-- An exchange is over, and reports it. -/
theorem Keyed.concludes (hk : d.Keyed) {x : SessionExchange} {event : SessionEvent}
    (hd : SessionSide.Concludes d x event d') (hs : ∀ s, x = .close s → d.state = .closing s)
    (epoch : Option UInt64) :
    Keyed { d' with commands := d'.commands ++ [.event epoch event] } := by
  have quiet (ho : (SessionCommand.event epoch event).offered? = none) :
      ∀ c ∈ [SessionCommand.event epoch event], c.offered? = none :=
    fun c hm => List.mem_singleton.1 hm ▸ ho
  cases hd with
  | created | notCreated | notActivated =>
    exact hk.mono (offers_append (quiet rfl) rfl) (List.Subset.refl _) rfl
      fun s hs hm => (hk.told s hs hm).imp fun _ => List.mem_append_left _
  | closed s =>
    have hstate := hs s rfl
    refine hk.mono (offers_append (quiet rfl) rfl) (fun k hm => ?_) rfl
      fun s' hs' => nomatch hstate.symm.trans hs'
    rcases List.mem_append.1 hm with hm | hm
    · exact List.mem_append_left _ hm
    rcases List.mem_cons.1 hm with rfl | hm
    · refine List.mem_append_left _ ?_
      rw [hstate]
      exact List.mem_singleton_self _
    · exact List.mem_append_right _ hm
  | activated he => exact hk.offersNext (key_of_establish? he) epoch

end SessionDriver

namespace SessionSide

variable {σ σ' : SessionSide} {h : Happening}

theorem keyed_step (hk : σ.driver.stopped = false → σ.driver.Keyed) (hkept : σ.driver.Kept)
    (hc : σ.Closes) (ht : σ.driver.Tidy) (hs : σ.Step h false σ') (hf : h.forges = false)
    (hd' : σ'.driver.stopped = false) : σ'.driver.Keyed := by
  rcases hs.honest hf with rfl | ⟨id, hx, hd⟩ | ⟨hh, -⟩ | ⟨hb, -⟩
  · have hT := turns_turn ht
    exact hT.keyed (hk (hT.stopped_eq_false hd')) hd'
  · rename_i epoch x event d
    rw [SessionDriver.enqueue_stopped, hd.stopped_eq] at hd'
    rw [SessionDriver.enqueue_of_running (hd.stopped_eq.trans hd')]
    refine (hk hd').concludes hd (fun s hs => ?_) _
    subst hs
    exact ((hc hd').of_mem hx).1
  · have hd : σ.driver.stopped = false := hh.stopped_eq.symm.trans hd'
    exact (hk hd).hears hkept hd hh
  · cases hb

end SessionSide

namespace Client

variable {c : Client}

/-- A property of the runs in which nobody but the exchanges tells how they have ended, and all of
them do. -/
theorem IsNew.of_honest {P : List Happening → Prop} (hc : c.IsNew) (h₀ : P [])
    (step : ∀ {hs h}, c.NeverFalters hs → (∀ h ∈ hs, h.forges = false) → P hs →
      (c.later hs).side.Step h false (c.later (hs ++ [h])).side → h.forges = false → P (hs ++ [h]))
    {hs : List Happening} (hf : c.NeverFalters hs) (hg : ∀ h ∈ hs, h.forges = false) : P hs := by
  induction hs using List.reverseRecOn with
  | nil => exact h₀
  | append_singleton hs h ih =>
    obtain ⟨hf, hfh⟩ := neverFalters_snoc.1 hf
    obtain ⟨hg, hgh⟩ := List.forall_mem_append.1 hg
    exact step hf hg (ih hf hg) (hfh ▸ hc.step hs h) (hgh h (List.mem_singleton_self h))

theorem IsNew.closes (hc : c.IsNew) {hs : List Happening} (hg : ∀ h ∈ hs, h.forges = false) :
    (c.later hs).side.Closes := by
  induction hs using List.reverseRecOn with
  | nil => cases hc <;> exact fun _ => ⟨rfl, rfl⟩
  | append_singleton hs h ih =>
    obtain ⟨hg, hgh⟩ := List.forall_mem_append.1 hg
    exact (ih hg).step (hc.tidy_later hs) (hc.numbered_later hs) (hc.step hs h)
      (hgh h (List.mem_singleton_self h))

theorem IsNew.keyed (hc : c.IsNew) {hs : List Happening} (hf : c.NeverFalters hs)
    (hg : ∀ h ∈ hs, h.forges = false) :
    (c.later hs).driver.stopped = false → (c.later hs).driver.Keyed := by
  refine hc.of_honest (P := fun hs => (c.later hs).driver.stopped = false →
    (c.later hs).driver.Keyed) (fun _ => ?_) (fun _ hg ih hs hh => ?_) hf hg
  · rw [later_nil, hc.driver_eq]
    exact ⟨List.nodup_nil, nofun, nofun, nofun⟩
  · exact SessionSide.keyed_step ih (hc.kept _) (hc.closes hg) (hc.tidy_later _) hs hh

end Client

end OpcUa
