import OpcUa.Proofs.SessionRelease

/-!
# Sessions that are reported as lost

The word that a session is lost names no session. It is put in the queue while the session is in
use, so what matters is what may be before it in the queue: nothing there brings another session
into use, whatever is closed, opened or lost meanwhile.

* `SessionDriver.Heeds`: what reports come to, of which only those of the session in use count.
* `SessionSide.Losses`: the driver is told once that a session is lost.
* `SessionSide.Timely`: no command of the queue tells the end of an exchange to come.
* `SessionDriver.Due`: a command in the queue, with what is before it.
* `Client.fault_spares_others`: who reports a session as lost does no harm to another one.
-/

namespace OpcUa

namespace SessionCommand

/-- Whether a command says that the session is lost. -/
def isLoss : SessionCommand → Bool
  | event _ (.invalidated _) => true
  | _ => false

end SessionCommand

/-- Whether the application itself tells the session driver that the session is lost, whichever
session that is. -/
def Happening.loses : Happening → Bool
  | .act (.inject (.invalidated _)) => true
  | _ => false

/-- Whether the driver performs a command. -/
def Happening.isTurn : Happening → Bool
  | .act (.run .driver) => true
  | _ => false

namespace SessionDriver

variable {d d' d'' : SessionDriver} {R : Session → Prop} {awaited : Bool}
  {x : Option SessionExchange}

/-! ## Reports -/

/-- What is put in the queue when it is not said that the session is lost. -/
def Mild (cs : List SessionCommand) : Prop := ∀ c ∈ cs, c.isRequest = true ∧ c.isLoss = false

theorem Mild.append {cs cs' : List SessionCommand} (h : Mild cs) (h' : Mild cs') :
    Mild (cs ++ cs') :=
  List.forall_mem_append.2 ⟨h, h'⟩

/-- Others put commands in the queue of the driver. If one of the sessions of `R` is in use, they may
revoke it, and then they tell the driver once. -/
inductive Heeds (R : Session → Prop) (d : SessionDriver) : SessionDriver → Prop
  | still {cs : List SessionCommand} (hc : Mild cs) :
    Heeds R d { d with commands := d.commands ++ cs }
  | blamed {s current : Session} {e : SessionError} {cs cs' : List SessionCommand} (hs : R s)
    (hcur : d.current? = some current) (hk : current.key = s.key) (hc : Mild cs) (hc' : Mild cs') :
    Heeds R d { d with
      commands := d.commands ++ (cs ++ .event none (.invalidated e) :: cs')
      revoked := s.key :: d.revoked }

theorem Heeds.refl (d : SessionDriver) : Heeds R d d := by
  have h : Heeds R d { d with commands := d.commands ++ [] } := .still nofun
  rwa [List.append_nil] at h

theorem current?_of_revoked {s : Session} (h : d.current? = some s) : s.key ∉ d.revoked := by
  unfold current? at h
  split at h
  · split at h
    · rename_i hv
      cases h
      simpa [isValid] using hv
    · cases h
  · cases h

/-- A session is blamed once. -/
theorem Heeds.trans (h : Heeds R d d') (h' : Heeds R d' d'') : Heeds R d d'' := by
  cases h with
  | @still cs hc =>
    cases h' with
    | still hc' =>
      rw [List.append_assoc]
      exact .still (hc.append hc')
    | @blamed s current e cs₁ cs₂ hs hcur hk hc₁ hc₂ =>
      have h : Heeds R d { d with
          commands := d.commands ++ ((cs ++ cs₁) ++ .event none (.invalidated e) :: cs₂)
          revoked := s.key :: d.revoked } := .blamed hs hcur hk (hc.append hc₁) hc₂
      rwa [List.append_assoc, ← List.append_assoc] at h
  | @blamed s current e cs cs' hs hcur hk hc hc' =>
    cases h' with
    | @still cs₁ hc₁ =>
      have h : Heeds R d { d with
          commands := d.commands ++ (cs ++ .event none (.invalidated e) :: (cs' ++ cs₁))
          revoked := s.key :: d.revoked } := .blamed hs hcur hk hc (hc'.append hc₁)
      rwa [← List.cons_append, ← List.append_assoc cs, ← List.append_assoc] at h
    | @blamed s' current' e' _ _ _ hcur' =>
      obtain ⟨a, ha, hp⟩ := current?_eq_some hcur
      obtain ⟨a', ha', hp'⟩ := current?_eq_some hcur'
      have hp' : d.present = some (.ok current') := hp'
      rw [hp] at hp'
      cases hp'
      exact absurd (hk ▸ List.mem_cons_self) (current?_of_revoked hcur')

theorem heeds_enqueue {c : SessionCommand} (hc : c.isRequest = true) (hl : c.isLoss = false)
    (d : SessionDriver) : Heeds R d (d.enqueue c) := by
  unfold enqueue
  split
  · exact .refl d
  · exact .still fun c' hm => List.mem_singleton.1 hm ▸ ⟨hc, hl⟩

theorem heeds_ask (d : SessionDriver) : Heeds R d d.ask.1 := by
  rw [fst_ask]
  exact heeds_enqueue rfl rfl d

theorem heeds_resume (w : SessionWait) (d : SessionDriver) : Heeds R d (d.resume w).1 := by
  rcases fst_resume w d with e | e <;> rw [e]
  · exact .refl d
  · exact heeds_ask d

theorem heeds_invalidate {s : Session} (hs : R s) (e : SessionError) (hd : d.Ended) :
    Heeds R d (d.invalidate s e) := by
  unfold invalidate
  split
  · rename_i current hcur
    split
    · rename_i hk
      obtain ⟨a, ha, -⟩ := current?_eq_some hcur
      have hrun : d.stopped = false := Bool.eq_false_iff.2 fun h =>
        nomatch ha.symm.trans (hd h).1
      rw [enqueue_of_running (by exact hrun)]
      have h : Heeds R d { d with
          commands := d.commands ++ ([] ++ [.event none (.invalidated e)])
          revoked := s.key :: d.revoked } := .blamed hs hcur hk nofun nofun
      exact h
    · exact .refl d
  · exact .refl d

theorem heeds_requestShutdown (d : SessionDriver) : Heeds R d d.requestShutdown := by
  unfold requestShutdown
  split
  · exact .refl d
  · exact heeds_enqueue rfl rfl d

theorem Heeds.ended (h : Heeds R d d') (hd : d.Ended) : d'.Ended := by
  cases h <;> exact hd

/-- The driver is told of a session that is in use. -/
theorem Heeds.blames (h : Heeds R d d') {n : Nat} {c : SessionCommand}
    (hn : d.commands.length ≤ n) (hc : d'.commands[n]? = some c) (hl : c.isLoss = true) :
    ∃ s current cs after, R s ∧ d.current? = some current ∧ current.key = s.key ∧
      d'.state = d.state ∧ d'.commands = d.commands ++ cs ++ c :: after ∧
      (d.commands ++ cs).length = n ∧ Mild cs := by
  obtain ⟨k, rfl⟩ := Nat.exists_eq_add_of_le hn
  have gentle {cs : List SessionCommand} (h : Mild cs) (hm : c ∈ cs) : False :=
    Bool.false_ne_true ((h c hm).2.symm.trans hl)
  cases h with
  | still hcs =>
    rw [List.getElem?_append_right hn, Nat.add_sub_cancel_left] at hc
    exact (gentle hcs (List.mem_of_getElem? hc)).elim
  | @blamed s current e cs cs' hs hcur hk hcs hcs' =>
    rw [List.getElem?_append_right hn, Nat.add_sub_cancel_left] at hc
    rcases Nat.lt_trichotomy k cs.length with hlt | rfl | hgt
    · rw [List.getElem?_append_left hlt] at hc
      exact (gentle hcs (List.mem_of_getElem? hc)).elim
    · rw [List.getElem?_append_right (Nat.le_refl _), Nat.sub_self] at hc
      cases hc
      exact ⟨s, current, cs, cs', hs, hcur, hk, rfl, (List.append_assoc ..).symm,
        List.length_append, hcs⟩
    · obtain ⟨j, rfl⟩ := Nat.exists_eq_add_of_lt hgt
      rw [List.getElem?_append_right (Nat.le_of_lt hgt), Nat.add_assoc, Nat.add_sub_cancel_left,
        List.getElem?_cons_succ] at hc
      exact (gentle hcs' (List.mem_of_getElem? hc)).elim

end SessionDriver

namespace SessionSide

variable {σ σ' : SessionSide} {R : Session → Prop} {h : Happening} {b : Bool}

theorem Stirs.heeds (h : Stirs R σ σ') (hd : σ.driver.Ended) : σ.driver.Heeds R σ'.driver := by
  cases h with
  | rests | disconnects => exact .refl _
  | asks => exact SessionDriver.heeds_ask _
  | resumes => exact SessionDriver.heeds_resume ..
  | reports hs e => exact SessionDriver.heeds_invalidate hs e hd
  | closes => exact SessionDriver.heeds_enqueue rfl rfl _
  | leaves => exact SessionDriver.heeds_requestShutdown _

theorem heeds_of_stirs (h : Relation.ReflTransGen (Stirs R) σ σ') (hd : σ.driver.Ended) :
    σ.driver.Heeds R σ'.driver :=
  of_stirs (P := fun τ => σ.driver.Heeds R τ.driver)
    (fun hs h => h.trans (hs.heeds (h.ended hd))) h (.refl _)

/-! ## Reports of exchanges -/

/-- Only exchanges report to the driver, and they name their epoch. -/
def Sincere (σ : SessionSide) : Prop :=
  ∀ c ∈ σ.driver.commands, c.isRequest = true ∨ ∃ epoch, c.epoch? = some epoch

theorem Sincere.step (hc : σ.Sincere) (ht : σ.driver.Tidy) (hs : σ.Step h b σ')
    (hf : h.forges = false) : σ'.Sincere := by
  rcases hs.honest hf with rfl | ⟨id, hx, hd⟩ | ⟨hh, -⟩ | ⟨-, id, epoch, created, -, rfl⟩
  · intro c hm
    rcases (turns_turn ht).mem_commands hm with hm | rfl
    · exact hc c hm
    · exact .inl rfl
  · intro c hm
    obtain ⟨key, keys, rfl⟩ := hd.eq
    rcases SessionDriver.mem_enqueue hm with hm | rfl
    · exact hc c hm
    · exact .inr ⟨_, rfl⟩
  · intro c hm
    generalize σ'.driver = d at hh hm
    obtain ⟨hcs, -, -⟩ := hh
    exact (List.mem_append.1 hm).elim (hc c) fun hm => .inl (hcs c hm)
  · exact hc

/-- The epochs of the exchanges that are under way or reported. -/
def epochs (σ : SessionSide) : List UInt64 :=
  σ.exchanges.map (·.2.1) ++ σ.driver.commands.filterMap (·.epoch?)

/-- There is no exchange from an epoch to come, and none from the present epoch in a state that
needs none. -/
structure Timely (σ : SessionSide) : Prop where
  le : ∀ e ∈ σ.epochs, e ≤ σ.driver.epoch
  idle : σ.driver.stopped = false → σ.driver.state.exchange? = none → σ.driver.epoch ∉ σ.epochs

theorem mem_epochs {e : UInt64} : e ∈ σ.epochs ↔
    (∃ p ∈ σ.exchanges, p.2.1 = e) ∨ ∃ c ∈ σ.driver.commands, c.epoch? = some e := by
  rw [epochs, List.mem_append, List.mem_map, List.mem_filterMap]

theorem epochs_subset (hx : σ'.exchanges ⊆ σ.exchanges)
    (hc : ∀ c ∈ σ'.driver.commands, ∀ e, c.epoch? = some e → e ∈ σ.epochs) :
    σ'.epochs ⊆ σ.epochs := by
  intro e he
  rcases mem_epochs.1 he with ⟨p, hp, h⟩ | ⟨c, hm, h⟩
  · exact mem_epochs.2 (.inl ⟨p, hx hp, h⟩)
  · exact hc c hm e h

theorem mem_epochs_of_command {c : SessionCommand} (hc : c ∈ σ.driver.commands) {e : UInt64}
    (he : c.epoch? = some e) : e ∈ σ.epochs :=
  mem_epochs.2 (.inr ⟨c, hc, he⟩)

/-- A command is left out, or the driver enters a state with an epoch that is new. -/
theorem epochs_turns {d : SessionDriver} {awaited : Bool} {x : Option SessionExchange}
    (hT : σ.driver.Turns awaited d x) (hd : σ'.driver = d)
    (hx : σ'.exchanges = σ.exchanges ++ (x.map (σ.nextCall, σ'.driver.epoch, ·)).toList) :
    σ'.driver.epoch = σ.driver.epoch ∧ σ'.epochs ⊆ σ.epochs ∧
        (σ'.driver.stopped = false →
          σ.driver.stopped = false ∧ σ'.driver.state = σ.driver.state) ∨
      σ'.driver.epoch = σ.driver.epoch + 1 ∧
        ∀ e ∈ σ'.epochs, e ∈ σ.epochs ∨
          e = σ'.driver.epoch ∧ σ'.driver.state.exchange?.isSome = true := by
  have told : ∀ c ∈ σ'.driver.commands, ∀ e, c.epoch? = some e → e ∈ σ.epochs := by
    intro c hm e he
    rcases hT.mem_commands (hd ▸ hm) with hm | rfl
    · exact mem_epochs_of_command hm he
    · cases he
  have same (h : x = none) : σ'.exchanges ⊆ σ.exchanges := by
    rw [hx, h, Option.map_none, Option.toList_none, List.append_nil]
    exact List.Subset.refl _
  cases hT with
  | rests | drops | joins | answers =>
    refine .inl ⟨hd ▸ rfl, epochs_subset (same rfl) told, fun hs => ?_⟩
    rw [hd] at hs ⊢
    exact ⟨hs, rfl⟩
  | stops =>
    refine .inl ⟨hd ▸ SessionDriver.shutDown_epoch _, epochs_subset (same rfl) told, fun hs => ?_⟩
    rw [hd] at hs
    cases hs
  | moves hc _ _ hm =>
    refine .inr ⟨by rw [hd, hm.epoch_eq, SessionDriver.take_epoch], fun e he => ?_⟩
    rcases mem_epochs.1 he with ⟨p, hp, rfl⟩ | ⟨c, hm, he⟩
    · rw [hx] at hp
      rcases List.mem_append.1 hp with hp | hp
      · exact .inl (mem_epochs.2 (.inl ⟨p, hp, rfl⟩))
      · obtain ⟨x', rfl, rfl⟩ := Option.map_eq_some_iff.1 (Option.mem_toList.1 hp)
        exact .inr ⟨rfl, by rw [hd, hm.exchange?_eq]; rfl⟩
    · exact .inl (told c hm e he)

/-- Whoever acts, the driver keeps its state, or enters one with an epoch that is new. -/
theorem Step.epochs_cases (ht : σ.driver.Tidy) (hs : σ.Step h b σ') :
    σ'.driver.epoch = σ.driver.epoch ∧ σ'.epochs ⊆ σ.epochs ∧
        (σ'.driver.stopped = false →
          σ.driver.stopped = false ∧ σ'.driver.state = σ.driver.state) ∨
      σ'.driver.epoch = σ.driver.epoch + 1 ∧
        ∀ e ∈ σ'.epochs, e ∈ σ.epochs ∨
          e = σ'.driver.epoch ∧ σ'.driver.state.exchange?.isSome = true := by
  cases hs with
  | turned => exact epochs_turns (turns_turn ht) rfl σ.exchanges_turn
  | ended he =>
    obtain ⟨hx, hd⟩ := he
    obtain ⟨key, keys, rfl⟩ := hd.eq
    refine .inl ⟨?_, epochs_subset List.filter_sublist.subset fun c hm e he => ?_, fun hs => ?_⟩
    · unfold SessionDriver.enqueue
      split <;> rfl
    · rcases SessionDriver.mem_enqueue hm with hm | rfl
      · exact mem_epochs_of_command (σ := σ) hm he
      · cases he
        exact mem_epochs.2 (.inl ⟨_, hx, rfl⟩)
    · rw [SessionDriver.enqueue_stopped] at hs
      exact ⟨hs, by rw [SessionDriver.enqueue_of_running hs]⟩
  | faltered hb hx =>
    exact .inl ⟨rfl, epochs_subset List.filter_sublist.subset fun c hm e he =>
      mem_epochs_of_command (σ := σ) hm he, fun hs => ⟨hs, rfl⟩⟩
  | injected =>
    refine .inl ⟨?_, epochs_subset (List.Subset.refl _) fun c hm e he => ?_, fun hs => ?_⟩
    · unfold SessionDriver.enqueue
      split <;> rfl
    · rcases SessionDriver.mem_enqueue hm with hm | rfl
      · exact mem_epochs_of_command hm he
      · cases he
    · rw [SessionDriver.enqueue_stopped] at hs
      exact ⟨hs, by rw [SessionDriver.enqueue_of_running hs]⟩
  | stirred hs =>
    obtain ⟨hh, hx⟩ := hears_of_stirs hs
    have hstop := hh.stopped_eq
    generalize hd : σ'.driver = d at hh
    obtain ⟨hc, -⟩ := hh
    refine .inl ⟨rfl, epochs_subset (hx ▸ List.Subset.refl _) fun c hm e he => ?_,
      fun hs => ⟨hstop.symm.trans (hd ▸ hs), rfl⟩⟩
    rw [hd] at hm
    rcases List.mem_append.1 hm with hm | hm
    · exact mem_epochs_of_command hm he
    · exact nomatch (epoch?_of_isRequest (hc c hm)).symm.trans he

theorem Timely.step (hc : σ.Timely) (ht : σ.driver.Tidy) (hs : σ.Step h b σ')
    (hn : σ'.driver.epoch ≠ σ.driver.epoch → σ.driver.epoch.toNat + 1 < UInt64.size) :
    σ'.Timely := by
  rcases hs.epochs_cases ht with ⟨he, hsub, hstate⟩ | ⟨he, hnew⟩
  · refine ⟨fun e hm => he ▸ hc.le e (hsub hm), fun hd hx hm => ?_⟩
    obtain ⟨hd, hs⟩ := hstate hd
    exact hc.idle hd (hs ▸ hx) (he ▸ hsub hm)
  · have hlt : σ.driver.epoch < σ'.driver.epoch := by
      have hn := hn (he ▸ SessionDriver.succ_ne _)
      rw [he, UInt64.lt_iff_toNat_lt, UInt64.toNat_add]
      exact Nat.lt_of_lt_of_eq (Nat.lt_succ_self _) (Nat.mod_eq_of_lt hn).symm
    refine ⟨fun e hm => ?_, fun _ hx hm => ?_⟩
    · rcases hnew e hm with hm | ⟨rfl, -⟩
      · exact UInt64.le_trans (hc.le e hm) (UInt64.le_of_lt hlt)
      · exact UInt64.le_refl _
    · rcases hnew _ hm with hm | ⟨-, hx'⟩
      · exact UInt64.lt_irrefl _ (UInt64.lt_of_lt_of_le hlt (hc.le _ hm))
      · rw [hx] at hx'
        cases hx'

end SessionSide

/-! ## The word that a session is lost -/

/-- The queue says at most once that the session in use is lost, which is revoked then. When a
session has been closed nothing more is said of it. -/
def LossIn (state : SessionState) (revoked : List SessionKey) (cs : List SessionCommand) : Prop :=
  match state with
  | .active s => cs.countP (·.isLoss) ≤ 1 ∧ (s.key ∉ revoked → cs.countP (·.isLoss) = 0)
  | .closing _ => cs.Pairwise fun c c' => c.closed?.isSome = true → c'.isLoss = false
  | .inactive | .creating | .activating _ => cs.countP (·.isLoss) = 0

section

variable {state : SessionState} {revoked revoked' : List SessionKey} {c : SessionCommand}
  {cs rest : List SessionCommand}

theorem countP_isLoss_cons (c : SessionCommand) (rest : List SessionCommand) :
    rest.countP (·.isLoss) ≤ (c :: rest).countP (·.isLoss) :=
  (List.sublist_cons_self c rest).countP_le

theorem LossIn.tail (h : LossIn state revoked (c :: rest)) : LossIn state revoked rest := by
  have hle := countP_isLoss_cons c rest
  cases state with
  | active s => exact ⟨Nat.le_trans hle h.1, fun hk => Nat.eq_zero_of_le_zero (h.2 hk ▸ hle)⟩
  | closing s => exact (List.pairwise_cons.1 h).2
  | inactive | creating | activating => exact Nat.eq_zero_of_le_zero (h ▸ hle)

theorem LossIn.append (h : LossIn state revoked cs) {cs' : List SessionCommand}
    (hcs : ∀ c ∈ cs', c.isLoss = false) (hr : revoked ⊆ revoked') :
    LossIn state revoked' (cs ++ cs') := by
  have hzero : cs'.countP (·.isLoss) = 0 :=
    List.countP_eq_zero.2 fun c hm => Bool.eq_false_iff.1 (hcs c hm)
  have e : (cs ++ cs').countP (·.isLoss) = cs.countP (·.isLoss) := by
    rw [List.countP_append, hzero, Nat.add_zero]
  cases state with
  | active s => exact ⟨e ▸ h.1, fun hk => e ▸ h.2 fun hk' => hk (hr hk')⟩
  | closing s =>
    refine List.pairwise_append.2 ⟨h, ?_, fun _ _ c hm _ => hcs c hm⟩
    exact List.pairwise_of_forall_mem_list fun _ _ c hm _ => hcs c hm
  | inactive | creating | activating => exact e.trans h

/-- Once the report that a session is closed has been taken, no word of a loss is left. -/
theorem LossIn.of_closing {s : Session} (h : LossIn (.closing s) revoked (c :: rest))
    (hc : c.closed?.isSome = true) : rest.countP (·.isLoss) = 0 :=
  List.countP_eq_zero.2 fun c' hm =>
    Bool.eq_false_iff.1 ((List.pairwise_cons.1 h).1 c' hm hc)

/-- Once the driver has been told that the session in use is lost, no word of it is left. -/
theorem LossIn.of_active {s : Session} (h : LossIn (.active s) revoked (c :: rest))
    (hc : c.isLoss = true) : rest.countP (·.isLoss) = 0 := by
  have h := h.1
  rw [List.countP_cons_of_pos hc] at h
  exact Nat.eq_zero_of_le_zero (Nat.le_of_succ_le_succ h)

end

namespace SessionDriver

variable {d d' : SessionDriver} {awaited : Bool} {x : Option SessionExchange}

/-- What leads from `active` to `inactive`. -/
theorem isLoss_of_ends {c : SessionCommand} {event : SessionEvent} {s : Session}
    (hs : d.state = .active s) (h : d.state.next? event = some .inactive)
    (he : c.event? = some event) : c.isLoss = true := by
  rw [hs] at h
  cases event <;> cases h
  cases c with
  | event epoch event =>
    cases he
    rfl
  | close | shutdown => cases he

theorem Moves.lossIn {c : SessionCommand} {rest : List SessionCommand} {event : SessionEvent}
    (h : LossIn d.state d.revoked (c :: rest)) (he : c.event? = some event)
    (hc : ∀ s, d.state = .active s → ∀ c' ∈ rest, c'.closed? = none)
    (hm : Moves (d.take c rest) awaited event d' x) : LossIn d'.state d'.revoked d'.commands := by
  have hclosed : ∀ s, d.state = .closing s → c.closed?.isSome = true := fun s hs =>
    SessionSide.closed?_of_moves hm he ((take_state ..).trans hs)
  cases hm with
  | opens hs | created hs =>
    rw [take_state] at hs
    rw [hs] at h
    dsimp only
    rw [take_commands]
    exact h.tail
  | activated hs =>
    rw [take_state] at hs
    rw [hs] at h
    have h : rest.countP (·.isLoss) = 0 := h.tail
    dsimp only
    rw [take_commands]
    exact ⟨h ▸ Nat.zero_le 1, fun _ => h⟩
  | closes hs =>
    rw [take_state] at hs
    dsimp only
    rw [take_commands]
    refine List.pairwise_of_forall_mem_list fun c' hm _ _ hsome => ?_
    rw [hc _ hs c' hm] at hsome
    cases hsome
  | carries hs =>
    rw [take_state] at hs
    rw [hs] at h
    have h := h.of_closing (hclosed _ hs)
    dsimp only
    rw [take_commands]
    exact (List.countP_append ..).trans (congrArg (· + 0) h)
  | ends hn =>
    dsimp only
    rw [take_commands]
    rw [take_state] at hn
    cases hs : d.state with
    | active s =>
      have hl := isLoss_of_ends hs hn he
      rw [hs] at h
      exact h.of_active hl
    | closing s =>
      rw [hs] at h
      exact h.of_closing (hclosed s hs)
    | inactive | creating | activating =>
      rw [hs] at h
      exact h.tail

/-- What is said of sessions that are lost fits the state. -/
def Losses (d : SessionDriver) : Prop := d.stopped = false → LossIn d.state d.revoked d.commands

theorem Turns.losses (h : d.Losses) (hT : Turns d awaited d' x)
    (hc : d.stopped = false → ∀ s, d.state = .active s → ∀ c ∈ d.commands, c.closed? = none) :
    d'.Losses := by
  intro hd'
  have hd := hT.stopped_eq_false hd'
  have h := h hd
  cases hT with
  | rests => exact h
  | drops hcs | answers hcs | joins hcs =>
    rw [hcs] at h
    exact h.tail
  | moves hcs he _ hm =>
    rw [hcs] at h
    exact hm.lossIn h he fun s hs c' hm' => hc hd s hs c' (hcs ▸ List.mem_cons_of_mem _ hm')
  | stops =>
    rw [shutDown_eq] at hd'
    cases hd'

theorem Heeds.losses {R : Session → Prop} (h : d.Losses) (hk : d.Kept) (hh : Heeds R d d') :
    d'.Losses := by
  intro hd
  cases hh with
  | still hcs => exact (h hd).append (fun c hm => (hcs c hm).2) (List.Subset.refl _)
  | @blamed s current e cs cs' _ hcur hkey hcs hcs' =>
    obtain ⟨a, ha, hp⟩ := current?_eq_some hcur
    rw [hk.present hd, ha] at hp
    cases hp
    have h := h hd
    dsimp only at hd ⊢
    rw [ha] at h ⊢
    have hzero : ∀ {cs}, Mild cs → cs.countP (·.isLoss) = 0 := fun hcs =>
      List.countP_eq_zero.2 fun c hm => Bool.eq_false_iff.1 (hcs c hm).2
    refine ⟨?_, fun hn => absurd (hkey ▸ List.mem_cons_self) hn⟩
    rw [List.countP_append, List.countP_append, List.countP_cons, hzero hcs, hzero hcs',
      h.2 (current?_of_revoked hcur)]
    exact Nat.le_refl 1

end SessionDriver

namespace SessionSide

variable {σ σ' : SessionSide} {h : Happening} {b : Bool}

/-- No report that a session is closed is in the queue of a driver that has a session in use. -/
theorem Closes.of_active (hc : σ.Closes) (hd : σ.driver.stopped = false) {s : Session}
    (hs : σ.driver.state = .active s) : ∀ c ∈ σ.driver.commands, c.closed? = none := by
  have h := hc hd
  rw [hs] at h
  exact List.filterMap_eq_nil_iff.1 h.2

theorem losses_enqueue {d : SessionDriver} (h : d.Losses) {c : SessionCommand}
    (hc : c.isLoss = false) : (d.enqueue c).Losses := by
  intro hd
  rw [SessionDriver.enqueue_stopped] at hd
  rw [SessionDriver.enqueue_of_running hd]
  exact (h hd).append (fun c' hm => List.mem_singleton.1 hm ▸ hc) (List.Subset.refl _)

theorem losses_step (hσ : σ.driver.Losses) (hclose : σ.Closes) (hk : σ.driver.Kept)
    (hend : σ.driver.Ended) (ht : σ.driver.Tidy) (hs : σ.Step h b σ') (hl : h.loses = false) :
    σ'.driver.Losses := by
  cases hs with
  | turned => exact (turns_turn ht).losses hσ fun hd s hs => hclose.of_active hd hs
  | ended he =>
    obtain ⟨hx, hd⟩ := he
    have hend := hd.endsWith
    obtain ⟨key, keys, rfl⟩ := hd.eq
    refine losses_enqueue (fun hd => ?_) ?_
    · have h := (hσ hd).append (List.forall_mem_nil _) (List.subset_append_right keys _)
      rwa [List.append_nil] at h
    · rename_i x event
      cases event with
      | invalidated => cases x <;> exact hend.elim
      | _ => rfl
  | faltered => exact hσ
  | @injected event e =>
    subst e
    refine losses_enqueue hσ ?_
    cases event with
    | invalidated => cases hl
    | _ => rfl
  | stirred hs => exact (heeds_of_stirs hs hend).losses hσ hk

end SessionSide

/-! ## What comes before a command -/

namespace SessionDriver

variable {d d' : SessionDriver} {awaited : Bool} {x : Option SessionExchange}
  {G : SessionDriver → Prop} {P : List SessionCommand → SessionDriver → Prop}
  {c : SessionCommand} {n : Nat} {k : SessionKey}

/-- The driver performs `c` after `n` other commands, of which `P` holds. -/
def Due (P : List SessionCommand → SessionDriver → Prop) (c : SessionCommand) (n : Nat)
    (d : SessionDriver) : Prop :=
  d.stopped = false → ∃ before after, d.commands = before ++ c :: after ∧ before.length = n ∧
    P before d

/-- A property of what comes before a command, which the driver keeps while it works that off, as
long as it has the property `G`. -/
structure WorksOff (G : SessionDriver → Prop) (P : List SessionCommand → SessionDriver → Prop) :
    Prop where
  turns : ∀ {d d' awaited x c before after}, G d → P (c :: before) d → d.commands = c :: after →
    Turns d awaited d' x → d'.stopped = false → P before d'
  grow : ∀ {d before}, P before d → ∀ cs keys key, P before
    { d with commands := d.commands ++ cs, revoked := keys ++ d.revoked, nextKey := key }

/-- What is left of the queue when a command has been taken, and what the driver adds. -/
theorem Turns.commands_eq {c : SessionCommand} {rest : List SessionCommand}
    (hc : d.commands = c :: rest) (h : Turns d awaited d' x) (hd : d'.stopped = false) :
    ∃ cs, d'.commands = rest ++ cs := by
  have nil : ∃ cs, rest = rest ++ cs := ⟨[], (List.append_nil rest).symm⟩
  cases h with
  | rests h => cases hc.symm.trans h
  | drops h | joins h | answers h =>
    cases hc.symm.trans h
    exact nil
  | moves h _ _ hm =>
    cases hc.symm.trans h
    cases hm with
    | opens | created | activated | closes | ends =>
      dsimp only
      rw [take_commands]
      exact nil
    | carries =>
      dsimp only
      rw [take_commands]
      exact ⟨_, rfl⟩
  | stops =>
    rw [shutDown_eq] at hd
    cases hd

theorem Due.turns (hP : WorksOff G P) (hG : G d) (h : Due P c (n + 1) d) (hT : Turns d awaited d' x) :
    Due P c n d' := by
  intro hd'
  obtain ⟨before, after, hc, hn, hb⟩ := h (hT.stopped_eq_false hd')
  cases before with
  | nil => cases hn
  | cons c' before =>
    obtain ⟨cs, hcs⟩ := hT.commands_eq (by rw [hc, List.cons_append]) hd'
    refine ⟨before, after ++ cs, ?_, Nat.succ.inj hn, hP.turns hG hb hc hT hd'⟩
    rw [hcs, List.append_assoc, List.cons_append]

theorem Due.grow (hP : WorksOff G P) (h : Due P c n d) (cs : List SessionCommand)
    (keys : List SessionKey) (key : SessionKey) :
    Due P c n
      { d with commands := d.commands ++ cs, revoked := keys ++ d.revoked, nextKey := key } := by
  intro hd
  obtain ⟨before, after, hc, hn, hb⟩ := h hd
  refine ⟨before, after ++ cs, ?_, hn, hP.grow hb cs keys key⟩
  dsimp only
  rw [hc, List.append_assoc, List.cons_append]

/-- The session of `k` is in use or closing, and no command leads out of that state. -/
def Settled (k : SessionKey) (before : List SessionCommand) (d : SessionDriver) : Prop :=
  (∀ c ∈ before, c.isLoss = false ∧ c.closed? = none) ∧
    ∃ s, s.key = k ∧ (d.state = .active s ∨ d.state = .closing s)

theorem worksOff_settled (k : SessionKey) : WorksOff (fun _ => True) (Settled k) where
  grow := fun h _ _ _ => h
  turns := by
    intro d d' awaited x c before after _ ⟨hb, s, hk, hs⟩ hc hT hd'
    obtain ⟨⟨hloss, hclosed⟩, hb⟩ := List.forall_mem_cons.1 hb
    refine ⟨hb, s, hk, ?_⟩
    cases hT with
    | rests | drops | joins => exact hs
    | answers _ hi =>
      rw [hi] at hs
      exact hs.elim nofun nofun
    | stops =>
      rw [shutDown_eq] at hd'
      cases hd'
    | moves hc' he _ hm =>
      cases hc.symm.trans hc'
      have hs : (d.take c after).state = .active s ∨ (d.take c after).state = .closing s := by
        rwa [take_state]
      rcases hs with hs | hs
      · cases hm with
        | opens h | created h | activated h | carries h => cases hs.symm.trans h
        | closes h =>
          cases hs.symm.trans h
          exact .inr rfl
        | ends hn =>
          rw [isLoss_of_ends hs hn he] at hloss
          cases hloss
      · have h := SessionSide.closed?_of_moves hm he hs
        rw [hclosed] at h
        cases h

/-- No other session than that of `k` is in use, and no exchange from `epoch` on is reported. -/
def Outdated (k : SessionKey) (epoch : UInt64) (before : List SessionCommand)
    (d : SessionDriver) : Prop :=
  (∀ c ∈ before, c.isRequest = true ∨ ∃ e, c.epoch? = some e ∧ e < epoch) ∧
    ∀ s, d.state = .active s → s.key = k

theorem worksOff_outdated (k : SessionKey) (epoch : UInt64) :
    WorksOff (fun d => epoch ≤ d.epoch) (Outdated k epoch) where
  grow := fun h _ _ _ => h
  turns := by
    intro d d' awaited x c before after hepoch ⟨hb, hs⟩ hc hT _
    obtain ⟨hhead, hb⟩ := List.forall_mem_cons.1 hb
    refine ⟨hb, fun s hs' => ?_⟩
    cases hT with
    | rests | drops | joins | answers => exact hs s hs'
    | stops =>
      rw [shutDown_eq] at hs'
      cases hs'
    | moves hc' he hp hm =>
      cases hc.symm.trans hc'
      -- only the report of an activation leads to `active`
      obtain ⟨rfl, -⟩ := hm.of_active hs'
      exfalso
      cases c with
      | event e event =>
        cases he
        rcases hhead with h | ⟨e', he', hlt⟩
        · cases e <;> cases h
        · rw [hp e' he'] at hlt
          exact UInt64.lt_irrefl _ (UInt64.lt_of_lt_of_le hlt hepoch)
      | close | shutdown => cases he

/-! ## Other sessions -/

/-- From `d` to `d'` no session is harmed but that of `k`. -/
structure SparesOthers (k : SessionKey) (d d' : SessionDriver) : Prop where
  /-- No other session is invalidated. -/
  valid : ∀ s : Session, s.key ≠ k → d'.isValid s = d.isValid s
  /-- No other session is given up, and no attempt to get one. -/
  state : d'.state = d.state ∨ ∃ s, d.state = .active s ∧ s.key = k
  /-- No promise is broken. -/
  outcome : ∀ p, d'.outcome? p = d.outcome? p
  /-- No promise is replaced but one that was kept with the session of `k`. -/
  promise : d'.promise = d.promise ∨ ∃ s, d.present = some (.ok s) ∧ s.key = k

theorem SparesOthers.of_queue (cs : List SessionCommand) (d : SessionDriver) :
    SparesOthers k d { d with commands := cs } :=
  ⟨fun _ _ => rfl, .inl rfl, fun _ => rfl, .inl rfl⟩

theorem isValid_cons (cs : List SessionKey) {s : Session} (hs : s.key ≠ k) :
    (k :: cs).contains s.key = cs.contains s.key := by
  rw [List.contains_cons, beq_false_of_ne hs, Bool.false_or]

theorem Heeds.spares {s : Session} (h : Heeds (· = s) d d') : SparesOthers s.key d d' := by
  cases h with
  | still => exact .of_queue _ d
  | blamed hs =>
    subst hs
    exact ⟨fun _ hs => congrArg not (isValid_cons _ hs), .inl rfl, fun _ => rfl, .inl rfl⟩

theorem outcome?_append_none (d : SessionDriver) (h : d'.outcomes = d.outcomes ++ [none])
    (p : PromiseId) : d'.outcome? p = d.outcome? p := by
  rw [outcome?_eq, outcome?_eq, h]
  rcases Nat.lt_trichotomy p d.outcomes.length with hp | rfl | hp
  · rw [List.getElem?_append_left hp]
  · rw [List.getElem?_concat_length, List.getElem?_eq_none (Nat.le_refl _)]
    rfl
  · rw [List.getElem?_eq_none (Nat.le_of_lt hp), List.getElem?_eq_none]
    rw [List.length_append]
    exact hp

/-- The driver is told that the session is lost. -/
theorem Turns.spares {e : SessionError} {rest : List SessionCommand}
    (hc : d.commands = .event none (.invalidated e) :: rest) (hT : Turns d awaited d' x)
    (hk : ∀ s, d.state = .active s → s.key = k) (hkept : d.Kept) (hd : d.stopped = false) :
    SparesOthers k d d' ∧ x = none := by
  cases hT with
  | drops => exact ⟨.of_queue _ d, rfl⟩
  | rests h | joins h | answers h | stops h => cases hc.symm.trans h
  | moves h he _ hm =>
    cases hc.symm.trans h
    cases he
    cases hm with
    | ends hn =>
      obtain ⟨s, hs⟩ : ∃ s, d.state = .active s := by
        cases hs : d.state with
        | active s => exact ⟨s, rfl⟩
        | inactive | creating | activating | closing =>
          rw [take_state, hs] at hn
          cases hn
      have hp : d.present = some (.ok s) := by rw [hkept.present hd, hs]; rfl
      have hkey := hk s hs
      refine ⟨⟨fun s' hs' => ?_, .inr ⟨s, hs, hkey⟩, outcome?_append_none d ?_,
        .inr ⟨s, hp, hkey⟩⟩, rfl⟩
      · unfold isValid
        dsimp only
        rw [take_state, take_revoked, hs]
        subst hkey
        exact congrArg not (isValid_cons _ hs')
      · unfold outcomes
        dsimp only
        rw [take_past, take_present, hp]
        rfl

end SessionDriver

namespace Client

variable {c : Client}

theorem IsNew.sincere (hc : c.IsNew) {hs : List Happening} (hg : ∀ h ∈ hs, h.forges = false) :
    (c.later hs).side.Sincere := by
  induction hs using List.reverseRecOn with
  | nil => cases hc <;> exact List.forall_mem_nil _
  | append_singleton hs h ih =>
    obtain ⟨hg, hgh⟩ := List.forall_mem_append.1 hg
    exact (ih hg).step (hc.tidy_later hs) (hc.step hs h) (hgh h (List.mem_singleton_self h))

theorem IsNew.timely (hc : c.IsNew) {hs : List Happening}
    (hn : c.tally enters hs < UInt64.size) : (c.later hs).side.Timely := by
  induction hs using List.reverseRecOn with
  | nil => cases hc <;> exact ⟨nofun, fun _ _ => nofun⟩
  | append_singleton hs h ih =>
    rw [tally_snoc] at hn
    refine (ih (Nat.lt_of_le_of_lt (Nat.le_add_right _ _) hn)).step (hc.tidy_later hs)
      (hc.step hs h) fun he => ?_
    have he : (c.later hs).enters h = true := bne_iff_ne.2 (later_snoc hs h c ▸ he)
    rw [he] at hn
    change (c.later hs).driver.epoch.toNat + 1 < UInt64.size
    rwa [hc.toNat_epoch (Nat.lt_of_succ_lt hn)]

theorem IsNew.losses (hc : c.IsNew) {hs : List Happening} (hg : ∀ h ∈ hs, h.forges = false)
    (hl : ∀ h ∈ hs, h.loses = false) : (c.later hs).driver.Losses := by
  induction hs using List.reverseRecOn with
  | nil =>
    rw [later_nil, hc.driver_eq]
    exact fun _ => rfl
  | append_singleton hs h ih =>
    obtain ⟨hg, -⟩ := List.forall_mem_append.1 hg
    obtain ⟨hl, hlh⟩ := List.forall_mem_append.1 hl
    exact SessionSide.losses_step (ih hg hl) (hc.closes hg) (hc.kept hs) (hc.ended hs)
      (hc.tidy_later hs) (hc.step hs h) (hlh h (List.mem_singleton_self h))

/-- While the driver works off what comes before a command, others put theirs behind it. -/
theorem IsNew.due_later (hc : c.IsNew) {hs : List Happening} {G : SessionDriver → Prop}
    {P : List SessionCommand → SessionDriver → Prop} (hP : SessionDriver.WorksOff G P)
    {command : SessionCommand} {n : Nat} {hs' : List Happening}
    (hG : ∀ hs₁ hs₂, hs' = hs₁ ++ hs₂ → G (c.later (hs ++ hs₁)).driver)
    (h₀ : (c.later hs).driver.Due P command (n + hs'.countP (·.isTurn))) :
    (c.later (hs ++ hs')).driver.Due P command n := by
  induction hs' using List.reverseRecOn generalizing n with
  | nil => rwa [List.append_nil]
  | append_singleton hs' h ih =>
    have hG' : ∀ hs₁ hs₂, hs' = hs₁ ++ hs₂ → G (c.later (hs ++ hs₁)).driver :=
      fun hs₁ hs₂ e => hG hs₁ (hs₂ ++ [h]) (by rw [e, List.append_assoc])
    rw [List.countP_append, List.countP_singleton] at h₀
    rw [← List.append_assoc]
    cases hturn : h.isTurn with
    | true =>
      obtain rfl : h = .act (.run .driver) := by
        unfold Happening.isTurn at hturn
        split at hturn
        · rfl
        · cases hturn
      rw [if_pos hturn, Nat.add_comm _ 1, ← Nat.add_assoc] at h₀
      obtain ⟨x, hT⟩ := hc.turns (hs ++ hs')
      exact (ih hG' h₀).turns hP (hG hs' [_] rfl) hT
    | false =>
      rw [if_neg (Bool.eq_false_iff.1 hturn), Nat.add_zero] at h₀
      rcases hc.turns_or (hs ++ hs') h with ⟨rfl, -⟩ | ⟨cs, keys, key, e⟩
      · cases hturn
      · rw [e]
        exact (ih hG' h₀).grow hP cs keys key

/-- The epoch does not fall before it has gone round. -/
theorem IsNew.epoch_le (hc : c.IsNew) {hs hs' : List Happening}
    (hn : c.tally enters (hs ++ hs') < UInt64.size) :
    (c.later hs).driver.epoch ≤ (c.later (hs ++ hs')).driver.epoch := by
  have hle := c.tally_le_append enters hs hs'
  rw [UInt64.le_iff_toNat_le, hc.toNat_epoch hn, hc.toNat_epoch (Nat.lt_of_le_of_lt hle hn)]
  exact hle

/-! ## Faults -/

/-- What reports a session as lost is a caller, and reports no other one. -/
theorem consults_of_reports {h : Happening} {s : Session} (hr : c.reports h = some s) :
    c.Consults (· = s) (c.undergo h) := by
  rcases consults_undergo (R := (· = s)) h
    (fun x hx => Option.some.inj (hx.symm.trans hr)) with hcon | rfl | ⟨id, rfl⟩ | ⟨e, rfl⟩
  · exact hcon
  · cases hr
  · cases hr
  · cases hr

theorem IsNew.heeds_of_reports (hc : c.IsNew) {hs : List Happening} {h : Happening} {s : Session}
    (hr : (c.later hs).reports h = some s) :
    (c.later hs).driver.Heeds (· = s) (c.later (hs ++ [h])).driver ∧
      (c.later (hs ++ [h])).side.exchanges = (c.later hs).side.exchanges := by
  have hcon := consults_of_reports hr
  rw [← later_snoc] at hcon
  exact ⟨SessionSide.heeds_of_stirs hcon (hc.ended hs), (SessionSide.hears_of_stirs hcon).2⟩

/-- From `c` to `c'` no session is harmed but that of `k`, nor is an exchange that is under way for
another one. -/
structure SparesOthers (k : SessionKey) (c c' : Client) : Prop where
  driver : c.driver.SparesOthers k c'.driver
  exchanges : c'.side.exchanges = c.side.exchanges

/-- The driver performs the command that tells of the loss. -/
theorem spares_undergo_turn {k : SessionKey} {e : SessionError} (ht : c.driver.Tidy)
    (hk : c.driver.Kept)
    (hd : c.driver.Due (fun _ d => ∀ s, d.state = .active s → s.key = k)
      (.event none (.invalidated e)) 0) :
    (c.driver.stopped = true ∨
        ∃ rest, c.driver.commands = .event none (.invalidated e) :: rest) ∧
      c.SparesOthers k (c.undergo (.act (.run .driver))) := by
  have hT := SessionSide.turns_turn (σ := c.side) ht
  have hx := c.side.exchanges_turn
  rw [← side_undergo_turn] at hT hx
  cases hstop : c.driver.stopped with
  | true =>
    -- the driver does nothing any more
    have hcs : c.driver.commands = [] := ht hstop
    have hstep : c.side.driver.step c.side.awaited = (c.side.driver, none) := by
      unfold SessionDriver.step
      rw [show c.side.driver.commands = [] from hcs]
    have e : (c.undergo (.act (.run .driver))).side.driver = c.side.driver := by
      rw [side_undergo_turn, SessionSide.driver_turn, hstep]
    rw [hstep] at hx
    refine ⟨.inl rfl, ?_, hx.trans (List.append_nil _)⟩
    change SessionDriver.SparesOthers k c.driver (c.undergo (.act (.run .driver))).side.driver
    rw [e]
    exact .of_queue _ c.driver
  | false =>
    obtain ⟨before, rest, hcs, hn, hb⟩ := hd hstop
    obtain rfl : before = [] := List.length_eq_zero_iff.1 hn
    obtain ⟨hspare, hnone⟩ := hT.spares hcs hb hk hstop
    rw [hnone] at hx
    exact ⟨.inr ⟨rest, hcs⟩, hspare, hx.trans (List.append_nil _)⟩

/-- As long as nobody else tells of losses, a queue says nothing of the session that is handed out,
neither that it is lost nor that it is closed. -/
theorem IsNew.settled (hc : c.IsNew) {hs : List Happening} (hg : ∀ h ∈ hs, h.forges = false)
    (hl : ∀ h ∈ hs, h.loses = false) (hd : (c.later hs).driver.stopped = false) {s : Session}
    (hs' : (c.later hs).driver.state = .active s) (hk : s.key ∉ (c.later hs).driver.revoked) :
    ∀ c' ∈ (c.later hs).driver.commands, c'.isLoss = false ∧ c'.closed? = none := by
  intro c' hm
  have hloss := hc.losses hg hl hd
  rw [hs'] at hloss
  have hzero := List.countP_eq_zero.1 (hloss.2 hk)
  exact ⟨Bool.eq_false_iff.2 (hzero c' hm), (hc.closes hg).of_active hd hs' c' hm⟩

/-- As long as the epochs have not gone round, all reports in the queue of a driver that has a
session in use are from epochs that are over. -/
theorem IsNew.outdated (hc : c.IsNew) {hs : List Happening} (hg : ∀ h ∈ hs, h.forges = false)
    (hn : c.tally enters hs < UInt64.size) (hd : (c.later hs).driver.stopped = false) {s : Session}
    (hs' : (c.later hs).driver.state = .active s) :
    ∀ c' ∈ (c.later hs).driver.commands,
      c'.isRequest = true ∨ ∃ e, c'.epoch? = some e ∧ e < (c.later hs).driver.epoch := by
  intro c' hm
  have ht := hc.timely hn
  refine (hc.sincere hg c' hm).imp_right fun ⟨e, he⟩ => ⟨e, he, ?_⟩
  have hmem := SessionSide.mem_epochs_of_command (σ := (c.later hs).side) hm he
  exact UInt64.lt_of_le_of_ne (ht.le e hmem) fun heq =>
    ht.idle hd (congrArg SessionState.exchange? hs') (heq ▸ hmem)

/-- The session in use is reported as lost. What is in the queue comes before the word of it. -/
theorem IsNew.blamed_of_reports (hc : c.IsNew) {hs : List Happening} {h : Happening} {s : Session}
    (hr : (c.later hs).reports h = some s) {n : Nat} {e : SessionError}
    (hle : (c.later hs).driver.commands.length ≤ n)
    (he : (c.later (hs ++ [h])).driver.commands[n]? = some (.event none (.invalidated e))) :
    ∃ a cs after, (c.later hs).driver.stopped = false ∧ (c.later hs).driver.state = .active a ∧
      a.key = s.key ∧ a.key ∉ (c.later hs).driver.revoked ∧
      (c.later (hs ++ [h])).driver.state = .active a ∧
      (c.later (hs ++ [h])).driver.commands =
        (c.later hs).driver.commands ++ cs ++ .event none (.invalidated e) :: after ∧
      ((c.later hs).driver.commands ++ cs).length = n ∧ SessionDriver.Mild cs := by
  obtain ⟨s₁, current, cs, after, hs₁, hcur, hkey, hstate, hcs, hlen, hmild⟩ :=
    (hc.heeds_of_reports hr).1.blames hle he rfl
  rw [hs₁] at hkey
  obtain ⟨a, ha, hp⟩ := SessionDriver.current?_eq_some hcur
  have hd : (c.later hs).driver.stopped = false := Bool.eq_false_iff.2 fun hd =>
    nomatch ha.symm.trans (hc.ended hs hd).1
  obtain rfl : a = current := by
    rw [(hc.kept hs).present hd, ha] at hp
    cases hp
    rfl
  exact ⟨a, cs, after, hd, ha, hkey, SessionDriver.current?_of_revoked hcur, hstate.trans ha, hcs,
    hlen, hmild⟩

section

variable {hs hs' : List Happening} {h : Happening} {s : Session}
  (hg : ∀ h ∈ hs, h.forges = false) (hr : (c.later hs).reports h = some s) {e : SessionError}
  (hle : (c.later hs).driver.commands.length ≤ hs'.countP (·.isTurn))
  (he : (c.later (hs ++ [h])).driver.commands[hs'.countP (·.isTurn)]? =
    some (.event none (.invalidated e)))

include hg hr hle he

/-- As long as nobody else tells of losses, the session stays the one of the driver until the driver
has been told of its loss. -/
theorem IsNew.due_of_settled (hc : c.IsNew) (hl : ∀ h ∈ hs, h.loses = false) :
    (c.later (hs ++ h :: hs')).driver.Due (fun _ d => ∀ s', d.state = .active s' → s'.key = s.key)
      (.event none (.invalidated e)) 0 := by
  obtain ⟨a, cs, after, hd, ha, hkey, hvalid, hstate, hcs, hlen, hmild⟩ :=
    hc.blamed_of_reports hr hle he
  have hbefore := hc.settled hg hl hd ha hvalid
  have h₀ : (c.later (hs ++ [h])).driver.Due (SessionDriver.Settled s.key)
      (.event none (.invalidated e)) (0 + hs'.countP (·.isTurn)) := by
    refine fun _ => ⟨_, after, hcs, hlen.trans (Nat.zero_add _).symm,
      List.forall_mem_append.2 ⟨hbefore, fun c' hm => ?_⟩, a, hkey, .inl hstate⟩
    exact ⟨(hmild c' hm).2, SessionCommand.closed?_of_isRequest (hmild c' hm).1⟩
  have h₁ := hc.due_later (SessionDriver.worksOff_settled s.key) (fun _ _ _ => trivial) h₀
  rw [List.append_assoc, List.singleton_append] at h₁
  intro hd'
  obtain ⟨before, rest, hcs, hn, -, s', hk, hs'⟩ := h₁ hd'
  refine ⟨before, rest, hcs, hn, fun s'' hs'' => ?_⟩
  rcases hs' with h | h
  · cases hs''.symm.trans h
    exact hk
  · cases hs''.symm.trans h

/-- As long as the epochs have not gone round, no other session comes into use before the driver has
been told of the loss. -/
theorem IsNew.due_of_outdated (hc : c.IsNew) (hn : c.tally enters (hs ++ h :: hs') < UInt64.size) :
    (c.later (hs ++ h :: hs')).driver.Due (fun _ d => ∀ s', d.state = .active s' → s'.key = s.key)
      (.event none (.invalidated e)) 0 := by
  obtain ⟨a, cs, after, hd, ha, hkey, -, hstate, hcs, hlen, hmild⟩ :=
    hc.blamed_of_reports hr hle he
  have hrun : hs ++ h :: hs' = hs ++ [h] ++ hs' := by
    rw [List.append_assoc, List.singleton_append]
  rw [hrun] at hn ⊢
  have hn₁ := Nat.lt_of_le_of_lt (c.tally_le_append enters (hs ++ [h]) hs') hn
  have hn₀ := Nat.lt_of_le_of_lt (c.tally_le_append enters hs [h]) hn₁
  have h₀ : (c.later (hs ++ [h])).driver.Due
      (SessionDriver.Outdated s.key (c.later hs).driver.epoch)
      (.event none (.invalidated e)) (0 + hs'.countP (·.isTurn)) := by
    refine fun _ => ⟨_, after, hcs, hlen.trans (Nat.zero_add _).symm, List.forall_mem_append.2
      ⟨hc.outdated hg hn₀ hd ha, fun c' hm => .inl (hmild c' hm).1⟩, fun s' hs' => ?_⟩
    cases hstate.symm.trans hs'
    exact hkey
  have hepoch (hs₁ hs₂ : List Happening) (e : hs' = hs₁ ++ hs₂) :
      (c.later hs).driver.epoch ≤ (c.later (hs ++ [h] ++ hs₁)).driver.epoch := by
    rw [e, ← List.append_assoc] at hn
    have hn := Nat.lt_of_le_of_lt (c.tally_le_append enters (hs ++ [h] ++ hs₁) hs₂) hn
    rw [List.append_assoc] at hn ⊢
    exact hc.epoch_le hn
  have h₁ := hc.due_later (SessionDriver.worksOff_outdated s.key _) hepoch h₀
  intro hd'
  obtain ⟨before, rest, hcs, hn, -, hb⟩ := h₁ hd'
  exact ⟨before, rest, hcs, hn, hb⟩

end

/-- Whoever reports a session as lost harms no other one: neither at once, nor when the driver comes
to the word of the loss that has been put behind all that was in its queue, whatever happens until
then. The application must not make up how exchanges have ended; and if it tells the driver of
losses by itself, past all that is checked when a loss is reported, the epochs must not have gone
round. -/
theorem fault_spares_others (hc : c.IsNew) {hs : List Happening} {h : Happening} {s : Session}
    (hg : ∀ h ∈ hs, h.forges = false) (hr : (c.later hs).reports h = some s) :
    (c.later hs).SparesOthers s.key (c.later (hs ++ [h])) ∧
    ∀ hs' e, ((∀ h ∈ hs, h.loses = false) ∨ c.tally enters (hs ++ h :: hs') < UInt64.size) →
      (c.later hs).driver.commands.length ≤ hs'.countP (·.isTurn) →
      (c.later (hs ++ [h])).driver.commands[hs'.countP (·.isTurn)]? =
        some (.event none (.invalidated e)) →
      ((c.later (hs ++ h :: hs')).driver.stopped = true ∨
        ∃ rest, (c.later (hs ++ h :: hs')).driver.commands =
          .event none (.invalidated e) :: rest) ∧
      (c.later (hs ++ h :: hs')).SparesOthers s.key
        (c.later (hs ++ h :: hs' ++ [.act (.run .driver)])) := by
  refine ⟨?_, fun hs' e hl hle he => ?_⟩
  · obtain ⟨hheeds, hx⟩ := hc.heeds_of_reports hr
    exact ⟨hheeds.spares, hx⟩
  · rw [later_snoc]
    refine spares_undergo_turn (hc.tidy_later _) (hc.kept _) ?_
    rcases hl with hl | hn
    · exact hc.due_of_settled hg hr hle he hl
    · exact hc.due_of_outdated hg hr hle he hn

section

open Simulation

theorem read_ne_connect (query : ReadQuery) : Job.read query ≠ .connect := nofun

/-- The call `id` uses the session for a request. -/
def requesting (id : CallId) : List Happening :=
  [.act (.call (.read ⟨0.0, .both, []⟩) (read_ne_connect _)), .act (.run (.call id))]

/-- A session is opened and used for a request. The session is to be closed when the server says
that it does not know it. -/
def disowned : List Happening :=
  opening ++ requesting 3 ++ [.act (.call .close close_ne_connect), .act (.run (.call 4)),
    .act (.reply 2 (.ok ⟨.read, ⟨default, 0, .badSessionIdInvalid⟩, []⟩))]

/-- The driver takes two commands before it comes to the word of the loss. Meanwhile a caller asks
for the next session. -/
def overdue : List Happening :=
  [.act (.run .driver), .act (.call .session session_ne_connect), .act (.run (.call 5)),
    .act (.run .driver)]

/-- The session is closing by then. -/
theorem fault_spares_others_sample :
    (∀ h ∈ disowned, h.forges = false) ∧ (∀ h ∈ disowned, h.loses = false) ∧
      ∃ s e, (newcomer.later disowned).reports (.act (.run (.call 3))) = some s ∧
        (newcomer.later (disowned ++ [.act (.run (.call 3))])).driver.commands[2]? =
          some (.event none (.invalidated e)) ∧
        (newcomer.later (disowned ++ .act (.run (.call 3)) :: overdue)).driver.state =
          .closing s ∧
        (newcomer.later (disowned ++ .act (.run (.call 3)) :: overdue)).SparesOthers s.key
          (newcomer.later (disowned ++ .act (.run (.call 3)) :: overdue ++
            [.act (.run .driver)])) := by
  have hg : ∀ h ∈ disowned, h.forges = false := by decide
  have hl : ∀ h ∈ disowned, h.loses = false := by decide
  have hr : (newcomer.later disowned).reports (.act (.run (.call 3))) =
      some ⟨0, .null, .null, .ofSecs 60, 0, [], []⟩ := by decide +kernel
  have he : (newcomer.later (disowned ++ [.act (.run (.call 3))])).driver.commands[2]? =
      some (.event none (.invalidated (.invalidated StatusCode.badSessionIdInvalid.toText))) := by
    rfl
  exact ⟨hg, hl, _, _, hr, he, by rfl, ((fault_spares_others newcomer_isNew hg hr).2 overdue _
    (.inl hl) (by decide +kernel) he).2⟩

end

end Client

end OpcUa
