import Mathlib.Data.List.Nodup
import Mathlib.Logic.Relation
import OpcUa.Proofs.SessionRun

/-!
# The part of a client that its session depends on

The driver, the exchanges that it has started, and the callers that wait for a session. This file
says what each of the three may do at a time, so that an invariant of the session has to be checked
against a handful of steps.

* `SessionSide.turn`: the driver performs a command, and an exchange may begin.
* `SessionSide.Ends`: an exchange is over.
* `SessionSide.Stirs`: a caller asks for a session, goes on with its wait, or asks for an end.
* `SessionSide.Step`: all that may happen.
-/

namespace OpcUa

theorem mem_of_lookup {κ α : Type} [BEq κ] [LawfulBEq κ] {l : List (κ × α)} {k : κ} {a : α}
    (h : l.lookup k = some a) : (k, a) ∈ l := by
  obtain ⟨l₁, l₂, rfl, -⟩ := List.lookup_eq_some_iff.1 h
  exact List.mem_append_right _ List.mem_cons_self

namespace SessionNews

/-- What a caller waits for that has learnt this. -/
def waits : SessionNews → List SessionWait
  | wait w => [w]
  | done _ => []

/-- The session that a caller has got that has learnt this. -/
def grants : SessionNews → List Session
  | done (.ok s) => [s]
  | done (.error _) | wait _ => []

end SessionNews

/-- The session that the result of a call gives to the caller. -/
def CallResult.grants : CallResult → List Session
  | session (.ok s) => [s]
  | _ => []

/-- What the session of a client depends on. -/
structure SessionSide where
  driver : SessionDriver
  disconnected : Bool
  /-- The exchanges in progress, with the epochs in which they were started. -/
  exchanges : List (CallId × UInt64 × SessionExchange)
  nextCall : CallId
  waits : List SessionWait
  /-- The sessions that callers have got. -/
  granted : List Session

namespace SessionSide

variable {σ σ' σ'' : SessionSide}

/-- The driver performs its next command. -/
def turn (σ : SessionSide) : SessionSide :=
  let (driver, exchange) := σ.driver.step (σ.waits.contains (.outcome σ.driver.promise))
  match exchange with
  | none => { σ with driver }
  | some x =>
    { σ with
      driver
      exchanges := σ.exchanges ++ [(σ.nextCall, driver.epoch, x)]
      nextCall := σ.nextCall + 1 }

/-- What a caller may do at a time. Its wait may be over, or not, when it has learnt something. It
may report sessions of `R` as lost. -/
inductive Stirs (R : Session → Prop) (σ : SessionSide) : SessionSide → Prop
  | rests {n : CallId} {ws : List SessionWait} {gs : List Session} (hn : σ.nextCall ≤ n)
      (hw : ws ⊆ σ.waits) (hg : gs ⊆ σ.granted) :
    Stirs R σ { σ with nextCall := n, waits := ws, granted := gs }
  | asks {ws : List SessionWait} {gs : List Session} (hd : σ.disconnected = false)
      (hw : ws ⊆ σ.driver.ask.2.waits ++ σ.waits) (hg : gs ⊆ σ.driver.ask.2.grants ++ σ.granted) :
    Stirs R σ { σ with driver := σ.driver.ask.1, waits := ws, granted := gs }
  | resumes {w : SessionWait} {ws : List SessionWait} {gs : List Session} (h : w ∈ σ.waits)
      (hw : ws ⊆ (σ.driver.resume w).2.waits ++ σ.waits)
      (hg : gs ⊆ (σ.driver.resume w).2.grants ++ σ.granted) :
    Stirs R σ { σ with driver := (σ.driver.resume w).1, waits := ws, granted := gs }
  | reports {s : Session} (hs : R s) (e : SessionError) :
    Stirs R σ { σ with driver := σ.driver.invalidate s e }
  | closes (ticket : CloseTicket) : Stirs R σ { σ with driver := σ.driver.enqueue (.close ticket) }
  | disconnects : Stirs R σ { σ with disconnected := true }
  | leaves : Stirs R σ { σ with driver := σ.driver.requestShutdown }

/-- How an exchange may end, and what becomes of the driver apart from the report. -/
inductive Concludes (d : SessionDriver) :
    SessionExchange → SessionEvent → SessionDriver → Prop
  | created (a : CreateSessionAnswer) : Concludes d .create (.createSucceeded a) d
  | notCreated (e : SessionError) : Concludes d .create (.createFailed e) d
  | activated {created : CreateSessionAnswer} {activated : ActivateSessionAnswer} {s : Session}
      (h : Session.establish? d.nextKey created activated = some s) :
    Concludes d (.activate created) (.activateSucceeded s) { d with nextKey := d.nextKey + 1 }
  | notActivated (created : CreateSessionAnswer) (e : SessionError) :
    Concludes d (.activate created) (.activateFailed e) d
  | closed (s : Session) : Concludes d (.close s) .closeCompleted (d.revoke s)

/-- The exchange `id` is over. -/
inductive Ends (σ : SessionSide) (id : CallId) : SessionSide → Prop
  | reported {epoch : UInt64} {x : SessionExchange} {event : SessionEvent} {d : SessionDriver}
      (hx : (id, epoch, x) ∈ σ.exchanges) (hd : Concludes σ.driver x event d) :
    Ends σ id { σ with
      driver := d.enqueue (.event (some epoch) event)
      exchanges := σ.exchanges.filter (·.1 != id) }

/-- All that may happen. The flag says whether an exchange may end without a report; then it is one
that activates a session. -/
inductive Step (σ : SessionSide) (h : Happening) (falters : Bool) : SessionSide → Prop
  | turned (e : h = .act (.run .driver)) : Step σ h falters σ.turn
  | ended {id : CallId} {τ : SessionSide} (he : Ends σ id τ) : Step σ h falters τ
  | faltered {id : CallId} {epoch : UInt64} {created : CreateSessionAnswer} (hf : falters = true)
    (hx : (id, epoch, .activate created) ∈ σ.exchanges) :
    Step σ h falters { σ with exchanges := σ.exchanges.filter (·.1 != id) }
  | injected {event : SessionEvent} (e : h = .act (.inject event)) :
    Step σ h falters { σ with driver := σ.driver.enqueue (.event none event) }
  | stirred {τ : SessionSide} (hs : Relation.ReflTransGen (Stirs fun _ => True) σ τ) :
    Step σ h falters τ

/-- A property that each step of a caller keeps is kept by any number of them. -/
theorem of_stirs {R : Session → Prop} {P : SessionSide → Prop}
    (hP : ∀ {σ σ'}, Stirs R σ σ' → P σ → P σ') (h : Relation.ReflTransGen (Stirs R) σ σ')
    (hσ : P σ) : P σ' := by
  induction h with
  | refl => exact hσ
  | tail _ h ih => exact hP h ih

/-- The exchanges in progress have numbers of their own. -/
structure Numbered (σ : SessionSide) : Prop where
  nodup : (σ.exchanges.map (·.1)).Nodup
  lt : ∀ p ∈ σ.exchanges, p.1 < σ.nextCall

theorem Numbered.of_eq (h : σ.Numbered) (hx : σ'.exchanges = σ.exchanges)
    (hn : σ.nextCall ≤ σ'.nextCall) : σ'.Numbered where
  nodup := hx ▸ h.nodup
  lt := fun p hp => Nat.lt_of_lt_of_le (h.lt p (hx ▸ hp)) hn

theorem Numbered.stirs {R : Session → Prop} (h : σ.Numbered)
    (hs : Relation.ReflTransGen (Stirs R) σ σ') : σ'.Numbered := by
  refine of_stirs (fun hs h => ?_) hs h
  cases hs with
  | rests hn => exact h.of_eq rfl hn
  | asks | resumes | reports | closes | disconnects | leaves => exact h.of_eq rfl (Nat.le_refl _)

theorem Numbered.turn (h : σ.Numbered) : σ.turn.Numbered := by
  unfold SessionSide.turn
  dsimp only
  split
  · exact h.of_eq rfl (Nat.le_refl _)
  · refine ⟨?_, fun p hp => ?_⟩
    · rw [List.map_append, List.nodup_append]
      refine ⟨h.nodup, List.nodup_singleton _, fun a ha b hb => ?_⟩
      obtain ⟨p, hp, rfl⟩ := List.mem_map.1 ha
      rw [List.mem_singleton.1 hb]
      exact Nat.ne_of_lt (h.lt p hp)
    · rcases List.mem_append.1 hp with hp | hp
      · exact Nat.lt_succ_of_lt (h.lt p hp)
      · rw [List.mem_singleton.1 hp]
        exact Nat.lt_succ_self _

theorem Numbered.filter (h : σ.Numbered) (id : CallId) (driver : SessionDriver) :
    Numbered { σ with driver, exchanges := σ.exchanges.filter (·.1 != id) } where
  nodup := h.nodup.sublist (List.filter_sublist.map _)
  lt := fun p hp => h.lt p (List.mem_filter.1 hp).1

theorem Numbered.step {h : Happening} {b : Bool} (hn : σ.Numbered) (hs : Step σ h b σ') :
    σ'.Numbered := by
  cases hs with
  | turned => exact hn.turn
  | ended he =>
    cases he with
    | reported => exact hn.filter ..
  | faltered => exact hn.filter ..
  | injected => exact hn.of_eq rfl (Nat.le_refl _)
  | stirred hs => exact hn.stirs hs

/-- The end of an exchange does not concern what another one is counted for. -/
theorem Numbered.filterMap_filter {α : Type} (h : σ.Numbered)
    {p : CallId × UInt64 × SessionExchange}
    (hp : p ∈ σ.exchanges) {f : CallId × UInt64 × SessionExchange → Option α} (hf : f p = none) :
    (σ.exchanges.filter (·.1 != p.1)).filterMap f = σ.exchanges.filterMap f := by
  rw [List.filterMap_filter]
  refine List.filterMap_congr fun q hq => ?_
  split
  · rfl
  · rename_i hid
    have hid : q.1 = p.1 := by simpa using hid
    rw [List.inj_on_of_nodup_map h.nodup hq hp hid, hf]

/-- What a single exchange is counted for is gone with it. -/
theorem filterMap_filter_eq_nil {α : Type} {xs : List (CallId × UInt64 × SessionExchange)}
    {p : CallId × UInt64 × SessionExchange} (hp : p ∈ xs)
    {f : CallId × UInt64 × SessionExchange → Option α} {y z : α} (hf : f p = some y)
    (h : xs.filterMap f = [z]) : z = y ∧ (xs.filter (·.1 != p.1)).filterMap f = [] := by
  obtain ⟨l₁, l₂, rfl⟩ := List.append_of_mem hp
  rw [List.filterMap_append, List.filterMap_cons_some hf] at h
  obtain ⟨h₁, hy, h₂⟩ : l₁.filterMap f = [] ∧ y = z ∧ l₂.filterMap f = [] := by
    cases h₁ : l₁.filterMap f with
    | nil =>
      rw [h₁, List.nil_append, List.cons.injEq] at h
      exact ⟨rfl, h⟩
    | cons w ws =>
      rw [h₁, List.cons_append, List.cons.injEq] at h
      exact absurd h.2 (by simp)
  refine ⟨hy.symm, List.filterMap_eq_nil_iff.2 fun q hq => ?_⟩
  obtain ⟨hq, hid⟩ := List.mem_filter.1 hq
  rcases List.mem_append.1 hq with hq | hq
  · exact List.filterMap_eq_nil_iff.1 h₁ q hq
  · rcases List.mem_cons.1 hq with rfl | hq
    · simp at hid
    · exact List.filterMap_eq_nil_iff.1 h₂ q hq

end SessionSide

namespace Client

/-- The sessions that callers have got. -/
def granted (c : Client) : List Session := c.finished.flatMap (·.2.grants)

/-- What the session of a client depends on. -/
def side (c : Client) : SessionSide where
  driver := c.driver
  disconnected := c.service.disconnected
  exchanges := c.sessionTasks.map fun p => (p.1, p.2.epoch, p.2.exchange)
  nextCall := c.nextCall
  waits := c.waits
  granted := c.granted

variable {c : Client}

/-! ## The driver and its exchanges -/

theorem side_runCommands (c : Client) : (c.runCommands 1).side = c.side.turn := by
  unfold runCommands
  split
  · rename_i h
    have h : c.driver.commands = [] := List.isEmpty_iff.1 h
    unfold SessionSide.turn
    simp only [side, SessionDriver.step, h]
  · unfold SessionSide.turn
    dsimp only [runCommands, side]
    rw [awaits]
    split
    · rename_i e
      rw [e]
      simp only [withService, startExchange, List.map_append, List.map_cons, List.map_nil]
      rfl
    · rename_i e
      rw [e]
      rfl

/-- A task keeps its number, its epoch and its exchange for as long as it lasts. -/
theorem side_setSessionTask (hn : c.side.Numbered) {id : CallId} {t t' : SessionTask}
    (h : c.sessionTasks.lookup id = some t) (he : t'.epoch = t.epoch)
    (hx : t'.exchange = t.exchange) {service : ServiceClient} (hd : service.driver = c.driver)
    (hs : service.disconnected = c.service.disconnected) :
    ({ c with service }.setSessionTask id t').side = c.side := by
  have hmem : (id, t) ∈ c.sessionTasks := mem_of_lookup h
  have hnodup : (c.sessionTasks.map (·.1)).Nodup := by
    have := hn.nodup
    rwa [side, List.map_map] at this
  have hmap : ({ c with service }.setSessionTask id t').side.exchanges = c.side.exchanges := by
    unfold side setSessionTask
    dsimp only
    rw [List.map_map]
    refine List.map_congr_left fun p hp => ?_
    rw [Function.comp_apply]
    split
    · rename_i hid
      rw [List.inj_on_of_nodup_map hnodup hp hmem hid, he, hx]
    · rfl
  change SessionSide.mk service.driver service.disconnected
    ({ c with service }.setSessionTask id t').side.exchanges c.nextCall c.waits c.granted = c.side
  rw [hd, hs, hmap]
  rfl

theorem establish?_eq_none {key : SessionKey} {created : CreateSessionAnswer}
    {activated : ActivateSessionAnswer} (h : Session.establish? key created activated = none) :
    Session.timeout? created.sessionTimeout = none := by
  cases ht : Session.timeout? created.sessionTimeout with
  | none => rfl
  | some d => simp [Session.establish?, ht] at h

/-- The end of an exchange is reported, unless there is no session with its timeout. -/
theorem driver_conclude (epoch : UInt64) (c : ServiceClient) (x : SessionExchange)
    (outcome : Except Error x.service.Answer) :
    (c.conclude epoch x outcome).disconnected = c.disconnected ∧
      ((∃ event d, SessionSide.Concludes c.driver x event d ∧
          (c.conclude epoch x outcome).driver = d.enqueue (.event (some epoch) event)) ∨
        ((c.conclude epoch x outcome).driver = c.driver ∧ ∃ created, x = .activate created ∧
          (∃ a, outcome = .ok a) ∧ Session.timeout? created.sessionTimeout = none)) := by
  cases x with
  | create =>
    cases outcome with
    | ok created => exact ⟨rfl, .inl ⟨_, _, .created created, rfl⟩⟩
    | error e => exact ⟨rfl, .inl ⟨_, _, .notCreated _, rfl⟩⟩
  | activate created =>
    cases outcome with
    | ok activated =>
      unfold ServiceClient.conclude ServiceClient.establish?
      dsimp only
      cases he : Session.establish? c.driver.nextKey created activated with
      | some s => exact ⟨rfl, .inl ⟨_, _, .activated he, rfl⟩⟩
      | none => exact ⟨rfl, .inr ⟨rfl, created, rfl, ⟨activated, rfl⟩, establish?_eq_none he⟩⟩
    | error e => exact ⟨rfl, .inl ⟨_, _, .notActivated created _, rfl⟩⟩
  | close s => exact ⟨by cases outcome <;> rfl, .inl ⟨_, _, .closed s, by cases outcome <;> rfl⟩⟩

/-- A task that is over is no longer there. -/
theorem side_dropSessionTask (id : CallId) (service : ServiceClient) (c : Client) :
    ({ c with service }.dropSessionTask id).side =
      { c.side with
        driver := service.driver
        disconnected := service.disconnected
        exchanges := c.side.exchanges.filter (·.1 != id) } := by
  unfold side dropSessionTask
  simp only [List.filter_map]
  rfl

theorem step_pollSessionTask (hn : c.side.Numbered) (id : CallId) :
    c.side.Step (.act (.run (.session id))) (c.falters (.act (.run (.session id))))
      (c.pollSessionTask id).1.side := by
  cases ht : c.sessionTasks.lookup id with
  | none =>
    simp only [pollSessionTask, ht]
    exact .stirred .refl
  | some t =>
    have hmem : (id, t.epoch, t.exchange) ∈ c.side.exchanges :=
      List.mem_map.2 ⟨(id, t), mem_of_lookup ht, rfl⟩
    cases hawait : t.await with
    | none =>
      simp only [pollSessionTask, ht, ServiceClient.advanceTask, hawait]
      rw [side_setSessionTask hn ht (by rfl) (by rfl) (by rfl) (by rfl)]
      exact .stirred .refl
    | some await =>
      cases hout : c.service.outcome? t.exchange.service await with
      | none =>
        simp only [pollSessionTask, ht, ServiceClient.advanceTask, hawait, hout]
        rw [side_setSessionTask hn ht rfl rfl rfl rfl]
        exact .stirred .refl
      | some outcome =>
        simp only [pollSessionTask, ht, ServiceClient.advanceTask, hawait, hout]
        rw [side_dropSessionTask]
        obtain ⟨hdis, ⟨event, d, hd, e⟩ | ⟨e, created, hx, ⟨a, ha⟩, htime⟩⟩ :=
          driver_conclude t.epoch (c.service.forget await) t.exchange outcome
        · rw [hdis, e]
          exact .ended (.reported hmem hd)
        · rw [hdis, e]
          obtain ⟨epoch, x, await'⟩ := t
          subst hx ha
          cases hawait
          refine .faltered ?_ hmem
          have hout : c.service.outcome? .activateSession await = some (.ok a) := hout
          simp only [falters, ht, Option.any_some, ServiceClient.falters, hout]
          exact Option.isNone_iff_eq_none.2 htime

end Client

end OpcUa
