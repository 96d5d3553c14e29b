import OpcUa.Proofs.SessionRelease

/-!
# Disconnecting

A client that is disconnected opens no session for callers that come later. The driver is not told:
it opens another session for those that have been waiting before, also if they wait for the session
after the one that is closing.

* `SessionDriver.Leaves`: the driver on its way to `inactive`, from where nobody calls it back.
* `Client.disconnected_for_good`: if nobody waits when the client is disconnected, there is no
  session any more.
* `Client.disconnected_reopens`: if somebody waits, there may be one.
-/

namespace OpcUa

/-- Whether the application itself asks the session driver for a session. -/
def Happening.requests : Happening → Bool
  | .act (.inject .sessionRequested) => true
  | _ => false

/-- No command asks for a session. -/
def NoRequest (cs : List SessionCommand) : Prop := ∀ c ∈ cs, c.event? ≠ some .sessionRequested

theorem NoRequest.append {cs cs' : List SessionCommand} (h : NoRequest cs) (h' : NoRequest cs') :
    NoRequest (cs ++ cs') :=
  List.forall_mem_append.2 ⟨h, h'⟩

theorem NoRequest.tail {cs cs' : List SessionCommand} (h : NoRequest cs) {c : SessionCommand}
    (hc : cs = c :: cs') : NoRequest cs' :=
  fun c' hm => h c' (hc ▸ List.mem_cons_of_mem c hm)

namespace SessionDriver

variable {d d' : SessionDriver} {x : Option SessionExchange} {ticket : CloseTicket}

/-- The driver closes the session that it may have, and opens no other one. -/
inductive Leaves (ticket : CloseTicket) (d : SessionDriver) : Prop
  /-- It has not been told so yet. -/
  | queued {cs cs' : List SessionCommand} (h : d.commands = cs ++ .close ticket :: cs')
    (hq : NoRequest cs')
  | closing {s : Session} (hs : d.state = .closing s) (ht : ticket ∈ d.closeWaiters)
    (hq : NoRequest d.commands)
  | gone (hs : d.state = .inactive) (hq : NoRequest d.commands)

/-- Only a request leads out of `inactive`. -/
theorem Moves.of_inactive {awaited : Bool} {event : SessionEvent} (h : Moves d awaited event d' x)
    (hs : d.state = .inactive) : event = .sessionRequested := by
  cases h with
  | opens => rfl
  | created h | activated h | closes h | carries h => cases hs.symm.trans h
  | ends h =>
    rw [hs] at h
    cases event <;> cases h

/-- Nobody waits, so the driver does not go on with the next session. -/
theorem Moves.of_closing {event : SessionEvent} (h : Moves d false event d' x) {s : Session}
    (hs : d.state = .closing s) : d'.state = .inactive ∧ d'.commands = d.commands := by
  cases h with
  | opens h | created h | activated h | closes h => cases hs.symm.trans h
  | carries _ _ ha => cases ha
  | ends => exact ⟨rfl, rfl⟩

/-- The commands that are left when a command has been taken. -/
theorem Moves.commands_eq {event : SessionEvent} (h : Moves d false event d' x) :
    d'.commands = d.commands := by
  cases h with
  | opens | created | activated | closes | ends => rfl
  | carries _ _ ha => cases ha

/-- The driver takes a command in a state without a session. -/
theorem Turns.inactive (hs : d.state = .inactive) (hq : NoRequest d.commands)
    (h : Turns d false d' x) : d'.state = .inactive ∧ NoRequest d'.commands := by
  cases h with
  | rests => exact ⟨hs, hq⟩
  | drops hc | answers hc => exact ⟨hs, hq.tail hc⟩
  | joins _ hs' => cases hs.symm.trans hs'
  | @moves c cs event d' x hc he _ hm =>
    have e := hm.of_inactive ((take_state c cs d).trans hs)
    exact absurd (he.trans (congrArg some e)) (hq c (hc ▸ List.mem_cons_self))
  | stops =>
    rw [shutDown_eq]
    exact ⟨rfl, List.forall_mem_nil _⟩

/-- The driver takes the request to close. -/
theorem Turns.leaves_of_head {cs : List SessionCommand} (hc : d.commands = .close ticket :: cs)
    (hq : NoRequest cs) (h : Turns d false d' x) : d'.Leaves ticket := by
  cases h with
  | rests h => cases hc.symm.trans h
  | drops h => cases hc.symm.trans h
  | stops h => cases hc.symm.trans h
  | joins h hs =>
    cases hc.symm.trans h
    exact .closing hs (List.mem_append_right _ (List.mem_singleton_self _)) hq
  | answers h hs =>
    cases hc.symm.trans h
    exact .gone hs hq
  | moves h he _ hm =>
    cases hc.symm.trans h
    cases he
    cases hm with
    | closes => exact .closing rfl (List.mem_append_right _ (List.mem_singleton_self _)) hq
    | ends => exact .gone rfl hq

/-- Other commands come first. -/
theorem Turns.leaves_of_cons {c : SessionCommand} {cs cs' : List SessionCommand}
    (hc : d.commands = c :: (cs ++ .close ticket :: cs')) (hq : NoRequest cs')
    (h : Turns d false d' x) : d'.Leaves ticket := by
  cases h with
  | rests h => cases hc.symm.trans h
  | drops h | joins h | answers h =>
    cases hc.symm.trans h
    exact .queued rfl hq
  | moves h _ _ hm =>
    cases hc.symm.trans h
    exact .queued (hm.commands_eq.trans (take_commands ..)) hq
  | stops =>
    rw [shutDown_eq]
    exact .gone rfl (List.forall_mem_nil _)

/-- The session is closing. -/
theorem Turns.leaves_of_closing {s : Session} (hs : d.state = .closing s)
    (ht : ticket ∈ d.closeWaiters) (hq : NoRequest d.commands) (h : Turns d false d' x) :
    d'.Leaves ticket := by
  cases h with
  | rests => exact .closing hs ht hq
  | drops hc => exact .closing hs ht (hq.tail hc)
  | joins hc => exact .closing hs (List.mem_append_left _ ht) (hq.tail hc)
  | answers _ hi => cases hs.symm.trans hi
  | moves hc _ _ hm =>
    obtain ⟨hi, hcs⟩ := hm.of_closing ((take_state ..).trans hs)
    exact .gone hi (hcs.trans (take_commands ..) ▸ hq.tail hc)
  | stops =>
    rw [shutDown_eq]
    exact .gone rfl (List.forall_mem_nil _)

theorem Turns.leaves (hl : d.Leaves ticket) (h : Turns d false d' x) : d'.Leaves ticket := by
  cases hl with
  | @queued cs cs' hc hq =>
    cases cs with
    | nil => exact h.leaves_of_head hc hq
    | cons c cs => exact h.leaves_of_cons hc hq
  | closing hs ht hq => exact h.leaves_of_closing hs ht hq
  | gone hs hq =>
    obtain ⟨hs, hq⟩ := h.inactive hs hq
    exact .gone hs hq

/-- Others do not ask for a session. -/
theorem Leaves.grow (hl : d.Leaves ticket) {cs : List SessionCommand} (hq : NoRequest cs)
    (keys : List SessionKey) (key : SessionKey) :
    Leaves ticket { d with
      commands := d.commands ++ cs
      revoked := keys ++ d.revoked
      nextKey := key } := by
  cases hl with
  | @queued cs₁ cs₂ hc hq' =>
    have e : d.commands ++ cs = cs₁ ++ .close ticket :: (cs₂ ++ cs) := by
      rw [hc, List.append_assoc, List.cons_append]
    exact .queued e (hq'.append hq)
  | closing hs ht hq' => exact .closing hs ht (hq'.append hq)
  | gone hs hq' => exact .gone hs (hq'.append hq)

/-- There is no session, and nobody has asked for one. -/
def Gone (d : SessionDriver) : Prop := d.state = .inactive ∧ NoRequest d.commands

/-- Who is not kept waiting has left a driver without a session. -/
theorem Leaves.gone_of_not_holds (hl : d.Leaves ticket) (ht : d.holds ticket = false) : d.Gone := by
  obtain ⟨hw, hc⟩ := Bool.or_eq_false_iff.1 ht
  cases hl with
  | queued h =>
    rw [h, List.any_append, List.any_cons] at hc
    simp at hc
  | closing _ ht =>
    rw [List.contains_iff_mem.2 ht] at hw
    cases hw
  | gone hs hq => exact ⟨hs, hq⟩

/-- A property of the driver that lasts unless somebody asks for a session. -/
structure Lasts (P : SessionDriver → Prop) : Prop where
  turns : ∀ {d d' x}, P d → Turns d false d' x → P d'
  grow : ∀ {d}, P d → ∀ {cs}, NoRequest cs → ∀ keys key, P
    { d with commands := d.commands ++ cs, revoked := keys ++ d.revoked, nextKey := key }

theorem lasts_leaves (ticket : CloseTicket) : Lasts (Leaves ticket) :=
  ⟨fun hl h => h.leaves hl, fun hl _ hq keys key => hl.grow hq keys key⟩

theorem lasts_gone : Lasts Gone :=
  ⟨fun hd h => h.inactive hd.1 hd.2, fun hd _ hq _ _ => ⟨hd.1, hd.2.append hq⟩⟩

variable {P : SessionDriver → Prop}

theorem Lasts.enqueue (hP : Lasts P) (hd : P d) {c : SessionCommand}
    (hc : c.event? ≠ some .sessionRequested) : P (d.enqueue c) := by
  unfold SessionDriver.enqueue
  split
  · exact hd
  · have h : NoRequest [c] := fun c' hm => List.mem_singleton.1 hm ▸ hc
    exact hP.grow hd h [] d.nextKey

theorem Lasts.invalidate (hP : Lasts P) (hd : P d) (s : Session) (e : SessionError) :
    P (d.invalidate s e) := by
  have hr : P (d.revoke s) := by
    have h := hP.grow hd (List.forall_mem_nil _) [s.key] d.nextKey
    rwa [List.append_nil] at h
  unfold SessionDriver.invalidate
  split
  · split
    · exact hP.enqueue hr (by simp [SessionCommand.event?])
    · exact hd
  · exact hd

theorem Lasts.requestShutdown (hP : Lasts P) (hd : P d) : P d.requestShutdown := by
  unfold SessionDriver.requestShutdown
  split
  · exact hd
  · exact hP.enqueue hd (by simp [SessionCommand.event?])

end SessionDriver

namespace SessionSide

variable {σ σ' : SessionSide} {h : Happening} {P : SessionDriver → Prop}

/-- Callers are refused, and nobody waits. -/
structure Refuses (P : SessionDriver → Prop) (granted : List Session) (σ : SessionSide) : Prop where
  driver : P σ.driver
  disconnected : σ.disconnected = true
  waits : σ.waits = []
  granted : σ.granted ⊆ granted

variable {gs : List Session}

theorem Refuses.stirs {R : Session → Prop} (hP : SessionDriver.Lasts P) (hr : σ.Refuses P gs)
    (hs : Stirs R σ σ') : σ'.Refuses P gs := by
  cases hs with
  | rests _ hw hg =>
    exact ⟨hr.driver, hr.disconnected, List.subset_nil.1 (hr.waits ▸ hw),
      List.Subset.trans hg hr.granted⟩
  | asks hd => cases hd.symm.trans hr.disconnected
  | resumes hw =>
    rw [hr.waits] at hw
    cases hw
  | reports _ e => exact ⟨hP.invalidate hr.driver _ e, hr.disconnected, hr.waits, hr.granted⟩
  | closes ticket =>
    exact ⟨hP.enqueue hr.driver (by simp [SessionCommand.event?]), hr.disconnected, hr.waits,
      hr.granted⟩
  | disconnects => exact ⟨hr.driver, rfl, hr.waits, hr.granted⟩
  | leaves => exact ⟨hP.requestShutdown hr.driver, hr.disconnected, hr.waits, hr.granted⟩

theorem Refuses.step {b : Bool} (hP : SessionDriver.Lasts P) (hr : σ.Refuses P gs)
    (ht : σ.driver.Tidy) (hs : σ.Step h b σ') (hh : h.requests = false) : σ'.Refuses P gs := by
  cases hs with
  | turned =>
    have hT := turns_turn ht
    have ha : σ.awaited = false := by
      unfold awaited
      rw [hr.waits]
      rfl
    rw [ha] at hT
    exact ⟨hP.turns hr.driver hT, (disconnected_turn σ).trans hr.disconnected,
      (waits_turn σ).trans hr.waits, granted_turn σ ▸ hr.granted⟩
  | ended he =>
    obtain ⟨hx, hd⟩ := he
    have hne := hd.endsWith.ne_sessionRequested
    obtain ⟨key, keys, rfl⟩ := hd.eq
    have hgrow := hP.grow hr.driver (List.forall_mem_nil _) keys key
    rw [List.append_nil] at hgrow
    exact ⟨hP.enqueue hgrow fun h => hne (Option.some.inj h), hr.disconnected, hr.waits, hr.granted⟩
  | faltered => exact ⟨hr.driver, hr.disconnected, hr.waits, hr.granted⟩
  | @injected event e =>
    subst e
    refine ⟨hP.enqueue hr.driver fun h => ?_, hr.disconnected, hr.waits, hr.granted⟩
    cases h
    cases hh
  | stirred hs => exact of_stirs (fun hs hr => hr.stirs hP hs) hs hr

end SessionSide

namespace Client

variable {c : Client} {P : SessionDriver → Prop} {gs : List Session}

theorem refuses_later (hc : c.IsNew) {hs hs' : List Happening} (hP : SessionDriver.Lasts P)
    (hr : (c.later hs).side.Refuses P gs) (hh : ∀ h ∈ hs', h.requests = false) :
    (c.later (hs ++ hs')).side.Refuses P gs := by
  induction hs' using List.reverseRecOn with
  | nil => rwa [List.append_nil]
  | append_singleton hs' h ih =>
    obtain ⟨hh, hlast⟩ := List.forall_mem_append.1 hh
    rw [← List.append_assoc]
    exact (ih hh).step hP (hc.tidy_later _) (hc.step _ h) (hlast h (List.mem_singleton_self h))

/-- What a call does that disconnects the client. -/
theorem refuses_startDisconnect (id : CallId) (managed : Bool) {P : SessionDriver → Prop}
    (hP : P (c.driver.enqueue (.close id))) (hw : c.waits = []) :
    (c.startDisconnect id managed).side.Refuses P c.granted := by
  unfold startDisconnect startClose
  dsimp only
  have h₁ : c.Advances (if managed then c.withManager (·.shutDown) else c) [] [] := by
    split
    · exact advances_of_quiets SubscriptionManager.quiets_shutDown c
    · exact .refl c
  generalize (if managed = true then c.withManager (·.shutDown) else c) = c₁ at h₁ ⊢
  have h₂ := advances_awaitClose id (.disconnect managed)
    ((c₁.withService fun s => { s with disconnected := true }).withService fun s =>
      { s with driver := s.driver.enqueue (.close id) })
  refine ⟨?_, ?_, ?_, List.Subset.trans h₂.granted h₁.granted⟩
  · dsimp only [side]
    rw [driver, h₂.service]
    dsimp only [withService]
    rw [h₁.service]
    exact hP
  · dsimp only [side]
    rw [h₂.service]
    rfl
  · have hsub : c₁.waits ⊆ c.waits := h₁.waits
    exact List.subset_nil.1 (hw ▸ List.Subset.trans h₂.waits hsub)

theorem IsNew.leaves_enqueue (hc : c.IsNew) (hs : List Happening) (ticket : CloseTicket) :
    ((c.later hs).driver.enqueue (.close ticket)).Leaves ticket := by
  cases hd : (c.later hs).driver.stopped with
  | true =>
    have e : (c.later hs).driver.enqueue (.close ticket) = (c.later hs).driver := if_pos hd
    rw [e]
    refine .gone (hc.ended hs hd).1 ?_
    rw [hc.tidy_later hs hd]
    exact List.forall_mem_nil _
  | false =>
    rw [SessionDriver.enqueue_of_running hd]
    exact .queued rfl (List.forall_mem_nil _)

theorem undergo_disconnect {id : CallId} {managed : Bool}
    (hl : c.calls.lookup id = some ⟨.disconnect managed, .fresh⟩) :
    c.undergo (.act (.run (.call id))) = c.startDisconnect id managed := by
  change (c.pollCall id).1 = _
  unfold pollCall
  rw [hl]
  rfl

/-- If nobody waits for a session when the client is disconnected, then from the moment at which
the call can return there is no session, and nobody gets one, unless the application puts a request
before the driver itself. -/
theorem disconnected_for_good (hc : c.IsNew) {hs : List Happening} {id : CallId} {managed : Bool}
    (hl : (c.later hs).calls.lookup id = some ⟨.disconnect managed, .fresh⟩)
    (hw : (c.later hs).waits = []) {hs' hs'' : List Happening}
    (hh : ∀ h ∈ hs' ++ hs'', h.requests = false)
    (hr : (c.later (hs ++ .act (.run (.call id)) :: hs')).isCallReady id .closing = true) :
    (c.later (hs ++ .act (.run (.call id)) :: hs' ++ hs'')).driver.state = .inactive ∧
      (c.later (hs ++ .act (.run (.call id)) :: hs' ++ hs'')).waits = [] ∧
      (c.later (hs ++ .act (.run (.call id)) :: hs' ++ hs'')).granted ⊆ (c.later hs).granted := by
  obtain ⟨hh, hh'⟩ := List.forall_mem_append.1 hh
  have h₀ : (c.later (hs ++ [.act (.run (.call id))])).side.Refuses
      (SessionDriver.Leaves id) (c.later hs).granted := by
    rw [later_snoc, undergo_disconnect hl]
    exact refuses_startDisconnect id managed (hc.leaves_enqueue hs id) hw
  have h₁ := refuses_later hc (SessionDriver.lasts_leaves id) h₀ hh
  rw [List.append_assoc, List.singleton_append] at h₁
  have hgone : (c.later (hs ++ .act (.run (.call id)) :: hs')).driver.Gone :=
    h₁.driver.gone_of_not_holds ((Bool.not_eq_true' _).mp hr)
  have h₂ := refuses_later hc SessionDriver.lasts_gone
    ⟨hgone, h₁.disconnected, h₁.waits, h₁.granted⟩ hh'
  exact ⟨h₂.driver.1, h₂.waits, h₂.granted⟩

/-- A session is opened, and the client asks to be disconnected. -/
def departing : List Happening :=
  opening ++ [.act (.call (.disconnect false) (disconnect_ne_connect false))]

/-- The session is closed for the client that is disconnected. -/
def farewell : List Happening :=
  .act (.run .driver) :: exchanging 4 2 (goodReply .closeSession ()) ++ [.act (.run .driver)]

/-- A caller comes when the client is disconnected. -/
def latecomer : List Happening := calling 5 .session session_ne_connect

/-- A caller that comes later gets no session. -/
theorem disconnected_for_good_sample :
    (newcomer.later departing).waits = [] ∧
      (∀ h ∈ farewell ++ latecomer, h.requests = false) ∧
      (newcomer.later (departing ++ .act (.run (.call 3)) :: farewell)).isCallReady 3 .closing =
        true ∧
      (newcomer.later (departing ++ .act (.run (.call 3)) :: farewell ++ latecomer)).driver.state =
        .inactive := by
  have hw : (newcomer.later departing).waits = [] := List.isEmpty_iff.1 (by decide +kernel)
  have hh : ∀ h ∈ farewell ++ latecomer, h.requests = false := by decide
  have hr : (newcomer.later (departing ++ .act (.run (.call 3)) :: farewell)).isCallReady 3
      .closing = true := by decide +kernel
  have hl : (newcomer.later departing).calls.lookup 3 = some ⟨.disconnect false, .fresh⟩ := by rfl
  exact ⟨hw, hh, hr, (disconnected_for_good newcomer_isNew hl hw hh hr).1⟩

/-- A session is opened and closed again. While it is closing a caller asks for another one, and the
client is disconnected. -/
def parting : List Happening :=
  opening ++ calling 3 .close close_ne_connect ++ latecomer ++
    calling 6 (.disconnect false) (disconnect_ne_connect false) ++
    exchanging 4 2 (goodReply .closeSession ()) ++ [.act (.run .driver), .act (.run (.call 6))]

/-- The driver goes on with the next session. -/
def reopening : List Happening :=
  .act (.run .driver) ::
    exchanging 7 3 (goodReply .createSession ⟨.null, .null, 60000.0, [], [], 0⟩) ++
    .act (.run .driver) :: exchanging 8 4 (goodReply .activateSession ⟨[], []⟩) ++
    [.act (.run .driver), .act (.run (.call 5))]

theorem disconnected_reopens :
    ((newcomer.later parting).finished.lookup 6).any (fun r => r matches .disconnected) = true ∧
      (newcomer.later parting).driver.state.kind = .inactive ∧
      (newcomer.later parting).granted.length = 1 ∧
      (newcomer.later (parting ++ reopening)).driver.state.kind = .active ∧
      (newcomer.later (parting ++ reopening)).granted.length = 2 := by
  decide +kernel

end Client

end OpcUa
