import OpcUa.Client.Recovery

/-!
# The log of a recovery

What a recovery does while it runs, written down event by event: the calls that it begins, the
requests that go out, how the calls end, and whether it comes to its end or stops because the
manager was shut down. The log of a recovery that has not ended yet goes on when it runs again.

* `Client.recoveryLog`: the log of one run of a recovery, from one wait to the next.
* `RecoveryPoint.Moves`: the events that can come next.
* `Client.recounts_pollRecovery`: the log of a run is a path through these points, and the run does
  to the client what its log says.
-/

namespace OpcUa

/-- What a request asks for: its service and its content. -/
def Request.question (r : Request) : (s : Service) × s.Query := ⟨r.service, r.query⟩

/-- What a recovery asks the server. -/
inductive RecoveryQuestion where
  | republish (number : SequenceNumber)
  /-- The value of an item, which is that of its target. -/
  | read (item : ItemKey) (target : ReadValueId)

/-- The request in which a recovery of the subscription `s` asks a question. -/
def RecoveryQuestion.request (s : SubscriptionId) : RecoveryQuestion → (s : Service) × s.Query
  | republish number => ⟨.republish, ⟨s, number⟩⟩
  | read _ target => ⟨.read, ⟨0.0, .both, [target]⟩⟩

inductive RecoveryEvent where
  /-- The call for a message begins. -/
  | asks (number : SequenceNumber)
  /-- The call for a message ends. -/
  | republished (number : SequenceNumber) (outcome : Except Error NotificationMessage)
  /-- Some message cannot be had, so the values of the items are read. -/
  | fallsBack (items : List ItemKey)
  /-- The call for the value of an item begins. -/
  | reads (item : ItemKey)
  /-- The call for the value of an item ends. -/
  | valueRead (item : ItemKey) (outcome : Except Error (List DataValue))
  /-- The request of the call that has begun goes out. -/
  | sends (question : RecoveryQuestion)
  | ends
  /-- The recovery gives up because the manager was shut down. -/
  | stops

/-- The node whose value an item has. -/
def SubscriptionManager.target (k : ItemKey) (m : SubscriptionManager) : ReadValueId :=
  ((m.item? k).map (·.target)).getD default

namespace RecoveryEvent

/-- What an event puts on the delivery queue, in a recovery of the subscription `s`. -/
def deliveries (s : SubscriptionId) : RecoveryEvent → List Delivery
  | republished number (.ok message) =>
    if message.sequenceNumber = number then [.message s message] else []
  | valueRead k outcome =>
    match SubscriptionManager.lastRead outcome with
    | .ok v => [.value k v]
    | .error _ => []
  | _ => []

def question? : RecoveryEvent → Option RecoveryQuestion
  | sends q => some q
  | _ => none

/-- What an event does to the manager, in a recovery of the subscription `s`. -/
def perform (s : SubscriptionId) (m : SubscriptionManager) : RecoveryEvent → SubscriptionManager
  | republished number (.ok message) =>
    if message.sequenceNumber = number then m.republished s message else m
  | fallsBack _ => m.fallBack
  | reads _ => m.startRead
  | valueRead k outcome => m.valueRead k outcome
  | _ => m

/-- Whether an event can happen with the manager `m`. -/
def Fits (s : SubscriptionId) (m : SubscriptionManager) : RecoveryEvent → Prop
  | asks _ | reads _ => m.running = true
  | fallsBack items => m.running = true ∧ items = m.readableItems s
  | sends (.read k target) => target = m.target k
  | stops => m.running = false
  | sends (.republish _) | republished .. | valueRead .. | ends => True

end RecoveryEvent

/-! ## Points -/

/-- Whether the request of a call has gone out. -/
def CallPhase.isSent : CallPhase → Bool
  | .session _ => false
  | .exchange .. => true

/-- How far a recovery is. -/
inductive RecoveryPoint where
  /-- The message is the next one to be asked for. -/
  | asking (number : SequenceNumber)
  | awaiting (number : SequenceNumber) (sent : Bool)
  /-- A message cannot be had. -/
  | failing
  /-- The items are the next ones to be read. -/
  | choosing (items : List ItemKey)
  | reading (item : ItemKey) (rest : List ItemKey) (sent : Bool)
  | ended

def RecoveryStage.point : RecoveryStage → RecoveryPoint
  | republishing number none => .asking number
  | republishing number (some phase) => .awaiting number phase.isSent
  | reading k rest phase => .reading k rest phase.isSent

namespace RecoveryPoint

/-- The events that can come next, in a recovery up to the message `received`. -/
inductive Moves (received : SequenceNumber) : RecoveryPoint → RecoveryEvent → RecoveryPoint → Prop
  | asks {n : SequenceNumber} : n ≠ received →
    Moves received (asking n) (.asks n) (awaiting n false)
  | sendsAsk {n : SequenceNumber} :
    Moves received (awaiting n false) (.sends (.republish n)) (awaiting n true)
  | came {message : NotificationMessage} :
    Moves received (awaiting message.sequenceNumber true)
      (.republished message.sequenceNumber (.ok message))
      (asking (SequenceNumber.next message.sequenceNumber))
  /-- There was no session. -/
  | unasked {n : SequenceNumber} (e : SessionError) :
    Moves received (awaiting n false) (.republished n (.error (.session e))) failing
  | refused {n : SequenceNumber} {outcome : Except Error NotificationMessage} :
    (∀ message, outcome = .ok message → message.sequenceNumber ≠ n) →
    Moves received (awaiting n true) (.republished n outcome) failing
  | fallsBack {items : List ItemKey} : Moves received failing (.fallsBack items) (choosing items)
  | reads {k : ItemKey} {rest : List ItemKey} :
    Moves received (choosing (k :: rest)) (.reads k) (reading k rest false)
  | sendsRead {k : ItemKey} {rest : List ItemKey} (target : ReadValueId) :
    Moves received (reading k rest false) (.sends (.read k target)) (reading k rest true)
  /-- There was no session. -/
  | unread {k : ItemKey} {rest : List ItemKey} (e : SessionError) :
    Moves received (reading k rest false) (.valueRead k (.error (.session e))) (choosing rest)
  | read {k : ItemKey} {rest : List ItemKey} (outcome : Except Error (List DataValue)) :
    Moves received (reading k rest true) (.valueRead k outcome) (choosing rest)
  | endsAsking : Moves received (asking received) .ends ended
  | endsReading : Moves received (choosing []) .ends ended
  | stopsAsking {n : SequenceNumber} : n ≠ received → Moves received (asking n) .stops ended
  | stopsFailing : Moves received failing .stops ended
  | stopsReading {k : ItemKey} {rest : List ItemKey} :
    Moves received (choosing (k :: rest)) .stops ended

/-- A list of events leads from one point to another. -/
inductive Path (received : SequenceNumber) :
    RecoveryPoint → List RecoveryEvent → RecoveryPoint → Prop
  | nil (p : RecoveryPoint) : Path received p [] p
  | cons {p q r : RecoveryPoint} {e : RecoveryEvent} {log : List RecoveryEvent} :
    Moves received p e q → Path received q log r → Path received p (e :: log) r

theorem Path.append {p q r : RecoveryPoint} {log log' : List RecoveryEvent}
    (h : Path received p log q) (h' : Path received q log' r) :
    Path received p (log ++ log') r := by
  induction h with
  | nil => exact h'
  | cons hm _ ih => exact .cons hm (ih h')

end RecoveryPoint

/-! ## The log -/

namespace Client

/-- The request of a call goes out as soon as there is a session. -/
def logSent (q : RecoveryQuestion) (posted : Option Posted) : List RecoveryEvent :=
  posted.toList.map fun _ => .sends q

/-- The log of `readItems`. -/
def logReadItems : List ItemKey → Client → List RecoveryEvent
  | [], _ => [.ends]
  | k :: rest, c =>
    match c.manager with
    | none => []
    | some m =>
      if m.running then
        let (service, start) := c.service.start (c.itemCall k m)
        match start with
        | .failed e =>
          .reads k :: .valueRead k (.error (.session e)) ::
            logReadItems rest { c with service, manager := some m.startRead }
        | .pending _ posted => .reads k :: logSent (.read k (m.target k)) posted
      else [.stops]

/-- The log of `fallBack`. -/
def logFallBack (r : Recovery) (c : Client) : List RecoveryEvent :=
  match c.manager with
  | none => []
  | some m =>
    if m.running then
      .fallsBack (m.readableItems r.subscription) ::
        logReadItems (m.readableItems r.subscription) (c.withManager (·.fallBack))
    else [.stops]

/-- The log of `republishFrom`. -/
def logRepublishFrom (r : Recovery) (number : SequenceNumber) (c : Client) : List RecoveryEvent :=
  match c.manager with
  | none => []
  | some m =>
    if number = r.received then [.ends]
    else if m.running then
      let (service, start) := c.service.start (c.republishCall r.subscription number)
      match start with
      | .failed e =>
        .asks number :: .republished number (.error (.session e)) ::
          { c with service }.logFallBack r
      | .pending _ posted => .asks number :: logSent (.republish number) posted
    else [.stops]

/-- The log of `afterRepublish`. -/
def logAfterRepublish (r : Recovery) (number : SequenceNumber)
    (outcome : Except Error NotificationMessage) (c : Client) : List RecoveryEvent :=
  .republished number outcome ::
    match outcome with
    | .error _ => c.logFallBack r
    | .ok message =>
      if message.sequenceNumber = number then
        (c.withManager (·.republished r.subscription message)).logRepublishFrom r
          (SequenceNumber.next number)
      else c.logFallBack r

/-- The log of one run of a recovery, from one wait to the next. -/
def recoveryLog (id : WorkId) (c : Client) : List RecoveryEvent :=
  match c.manager with
  | none => []
  | some m =>
    match m.recovery? id with
    | none => []
    | some r =>
      match r.stage with
      | .republishing number none => c.logRepublishFrom r number
      | .republishing number (some phase) =>
        let (service, progress) :=
          c.service.advance (c.republishCall r.subscription number) phase
        match progress with
        | .pending _ posted => logSent (.republish number) posted
        | .done outcome => { c with service }.logAfterRepublish r number outcome
      | .reading k rest phase =>
        let (service, progress) := c.service.advance (c.itemCall k m) phase
        match progress with
        | .pending _ posted => logSent (.read k (m.target k)) posted
        | .done outcome =>
          .valueRead k outcome ::
            logReadItems rest ({ c with service }.withManager (·.valueRead k outcome))

end Client

/-! ## What the log says -/

namespace ServiceClient

variable {s : Service} {call : ServiceCall s} {c c' : ServiceClient} {phase phase' : CallPhase}
  {posted : Option Posted}

/-- A call sends its request when it gets a session. -/
theorem proceed_pending {news : SessionNews}
    (h : c.proceed call news = (c', .pending phase posted)) :
    phase.isSent = false ∧ posted = none ∨
      phase.isSent = true ∧ ∃ p, posted = some p ∧ p.request.question = ⟨s, call.query⟩ := by
  unfold proceed at h
  split at h
  · cases h
    exact .inl ⟨rfl, rfl⟩
  · cases h
  · cases h
    exact .inr ⟨rfl, _, rfl, rfl⟩

theorem start_pending (h : c.start call = (c', .pending phase posted)) :
    phase.isSent = false ∧ posted = none ∨
      phase.isSent = true ∧ ∃ p, posted = some p ∧ p.request.question = ⟨s, call.query⟩ :=
  proceed_pending h

theorem advance_pending (h : c.advance call phase = (c', .pending phase' posted)) :
    phase'.isSent = phase.isSent ∧ posted = none ∨
      phase.isSent = false ∧ phase'.isSent = true ∧
        ∃ p, posted = some p ∧ p.request.question = ⟨s, call.query⟩ := by
  cases phase with
  | session w =>
    unfold advance at h
    dsimp only at h
    split at h
    · cases h
    · rename_i e
      cases h
      rcases proceed_pending e with ⟨h1, h2⟩ | ⟨h1, h2⟩
      · exact .inl ⟨h1, h2⟩
      · exact .inr ⟨rfl, h1, h2⟩
  | exchange session await =>
    unfold advance at h
    dsimp only at h
    split at h
    · cases h
      exact .inl ⟨rfl, rfl⟩
    · cases h

/-- A call whose request has not gone out fails for want of a session. -/
theorem advance_done {outcome : Except Error s.Answer}
    (h : c.advance call phase = (c', .done outcome)) (hs : phase.isSent = false) : ∃ e, outcome = .error (.session e) := by
  cases phase with
  | session w =>
    unfold advance at h
    dsimp only at h
    split at h
    · cases h
      exact ⟨_, rfl⟩
    · cases h
  | exchange session await => cases hs

end ServiceClient

namespace RecoveryEvent

/-- An event changes nothing but the delivery queue and the counters. -/
theorem perform_eq (s : SubscriptionId) (m : SubscriptionManager) (e : RecoveryEvent) :
    ∃ stats, e.perform s m =
      { m with stats, delivery := (e.deliveries s).foldl (fun q d => q.submit d) m.delivery } := by
  cases e with
  | republished n outcome =>
    cases outcome with
    | error e => exact ⟨_, rfl⟩
    | ok message =>
      unfold perform deliveries
      dsimp only
      split <;> exact ⟨_, rfl⟩
  | valueRead k outcome =>
    unfold perform deliveries SubscriptionManager.valueRead
    dsimp only
    cases SubscriptionManager.lastRead outcome <;> exact ⟨_, rfl⟩
  | asks | fallsBack | reads | sends | ends | stops => exact ⟨_, rfl⟩

theorem fits_perform {s : SubscriptionId} {m : SubscriptionManager} {e e' : RecoveryEvent} :
    e'.Fits s (e.perform s m) ↔ e'.Fits s m := by
  obtain ⟨stats, h⟩ := perform_eq s m e
  rw [h]
  cases e' with
  | sends q => cases q <;> exact Iff.rfl
  | asks | republished | fallsBack | reads | valueRead | ends | stops => exact Iff.rfl

end RecoveryEvent

namespace Client

/-- A run of a recovery from the point `p` does what its log says. -/
structure Recounts (id : WorkId) (r : Recovery) (m : SubscriptionManager) (p : RecoveryPoint)
    (log : List RecoveryEvent) (calls : List (CallId × Call)) (run : Run) : Prop where
  calls : run.1.calls = calls
  fits : ∀ e ∈ log, e.Fits r.subscription m
  posted : run.2.toList.map (·.request.question) =
    (log.filterMap (·.question?)).map (·.request r.subscription)
  course :
    (∃ stage, p.Path r.received log stage.point ∧
      run.1.manager = some ((log.foldl (RecoveryEvent.perform r.subscription) m).setRecovery id stage)) ∨
    p.Path r.received log .ended ∧
      run.1.manager = some ((log.foldl (RecoveryEvent.perform r.subscription) m).endRecovery id r)

variable {id : WorkId} {r : Recovery} {m : SubscriptionManager} {p q : RecoveryPoint}
  {log : List RecoveryEvent} {c : Client} {calls : List (CallId × Call)} {run : Run}

/-- One event more at the front, which sends nothing. -/
theorem Recounts.cons {e : RecoveryEvent} (hm : p.Moves r.received e q)
    (hf : e.Fits r.subscription m) (hq : e.question? = none)
    (h : Recounts id r (e.perform r.subscription m) q log calls run) :
    Recounts id r m p (e :: log) calls run where
  calls := h.calls
  fits e' he' := by
    rcases List.mem_cons.1 he' with rfl | he'
    · exact hf
    · exact RecoveryEvent.fits_perform.1 (h.fits e' he')
  posted := by rw [List.filterMap_cons_none hq, h.posted]
  course := by
    rcases h.course with ⟨stage, hp, hs⟩ | ⟨hp, hs⟩
    · exact .inl ⟨stage, .cons hm hp, hs⟩
    · exact .inr ⟨.cons hm hp, hs⟩

/-- The last event. -/
theorem recounts_endRecovery {e : RecoveryEvent} (hc : c.manager = some m)
    (hm : p.Moves r.received e .ended) (hf : e.Fits r.subscription m) (hq : e.question? = none)
    (hp : e.perform r.subscription m = m) :
    Recounts id r m p [e] c.calls (c.endRecovery id r) where
  calls := rfl
  fits e' he' := by
    rw [List.mem_singleton.1 he']
    exact hf
  posted := by rw [List.filterMap_cons_none hq]; rfl
  course := by
    refine .inr ⟨.cons hm (.nil _), ?_⟩
    rw [List.foldl_cons, hp, List.foldl_nil, endRecovery, withManager, hc, Option.map_some]

/-- A wait, after a request that may have gone out. -/
theorem recounts_wait {stage : RecoveryStage} {posted : Option Posted} {question : RecoveryQuestion}
    (hm : c.manager = some m) (hc : c.calls = calls)
    (hs : stage.point = p ∧ posted = none ∨
      p.Moves r.received (.sends question) stage.point ∧
        RecoveryEvent.Fits r.subscription m (.sends question) ∧
        ∃ x, posted = some x ∧ x.request.question = question.request r.subscription) :
    Recounts id r m p (logSent question posted) calls
      (c.withManager (·.setRecovery id stage), posted) := by
  have hm : (c.withManager (·.setRecovery id stage)).manager = some (m.setRecovery id stage) := by
    rw [withManager, hm, Option.map_some]
  rcases hs with ⟨rfl, rfl⟩ | ⟨hp, hf, x, rfl, hx⟩
  · exact ⟨hc, fun e he => (nomatch he), rfl, .inl ⟨stage, .nil _, hm⟩⟩
  · refine ⟨hc, fun e he => ?_, ?_, .inl ⟨stage, .cons hp (.nil _), hm⟩⟩
    · rw [List.mem_singleton.1 he]
      exact hf
    · show [x.request.question] = [question.request r.subscription]
      rw [hx]

theorem recounts_readItems (items : List ItemKey) (hm : c.manager = some m) :
    Recounts id r m (.choosing items) (c.logReadItems items) c.calls (readItems id r items c) := by
  induction items generalizing c m with
  | nil =>
    unfold readItems logReadItems
    exact recounts_endRecovery hm .endsReading trivial rfl rfl
  | cons k rest ih =>
    unfold readItems logReadItems
    rw [hm]
    dsimp only
    split
    · rename_i hr
      rcases hs : c.service.start (c.itemCall k m) with ⟨service, start⟩
      dsimp only
      cases start with
      | failed e =>
        exact .cons .reads hr rfl (.cons (.unread e) trivial rfl (ih rfl))
      | pending phase posted =>
        refine .cons .reads hr rfl ?_
        dsimp only
        refine recounts_wait (by rfl) (by rfl) ?_
        rcases ServiceClient.start_pending hs with ⟨h1, h2⟩ | ⟨h1, h2⟩
        · exact .inl ⟨by rw [RecoveryStage.point, h1], h2⟩
        · refine .inr ⟨?_, rfl, h2⟩
          rw [RecoveryStage.point, h1]
          exact .sendsRead _
    · rename_i hr
      exact recounts_endRecovery hm .stopsReading (Bool.eq_false_iff.2 hr) rfl rfl

theorem recounts_fallBack (hm : c.manager = some m) :
    Recounts id r m .failing (c.logFallBack r) c.calls (c.fallBack id r) := by
  unfold fallBack logFallBack
  rw [hm]
  dsimp only
  split
  · rename_i hr
    have hf : (c.withManager (·.fallBack)).manager = some m.fallBack := by
      rw [withManager, hm, Option.map_some]
    exact .cons .fallsBack ⟨hr, rfl⟩ rfl (recounts_readItems _ hf)
  · rename_i hr
    exact recounts_endRecovery hm .stopsFailing (Bool.eq_false_iff.2 hr) rfl rfl

theorem recounts_republishFrom (n : SequenceNumber) (hm : c.manager = some m) :
    Recounts id r m (.asking n) (c.logRepublishFrom r n) c.calls
      (c.republishFrom id r n) := by
  unfold republishFrom logRepublishFrom
  rw [hm]
  dsimp only
  by_cases hn : n = r.received
  · rw [if_pos hn, if_pos (.inl hn)]
    subst hn
    exact recounts_endRecovery hm .endsAsking trivial rfl rfl
  rw [if_neg hn]
  split
  · rename_i hr
    rw [if_neg (by simp [hn, hr])]
    rcases hs : c.service.start (c.republishCall r.subscription n) with ⟨service, start⟩
    dsimp only
    cases start with
    | failed e =>
      exact .cons (.asks hn) hr rfl (.cons (.unasked e) trivial rfl (recounts_fallBack rfl))
    | pending phase posted =>
      refine .cons (.asks hn) hr rfl ?_
      dsimp only
      refine recounts_wait (by rfl) (by rfl) ?_
      rcases ServiceClient.start_pending hs with ⟨h1, h2⟩ | ⟨h1, h2⟩
      · exact .inl ⟨by rw [RecoveryStage.point, h1], h2⟩
      · refine .inr ⟨?_, trivial, h2⟩
        rw [RecoveryStage.point, h1]
        exact .sendsAsk
  · rename_i hr
    rw [if_pos (.inr (Bool.eq_false_iff.2 hr))]
    exact recounts_endRecovery hm (.stopsAsking hn) (Bool.eq_false_iff.2 hr) rfl rfl

theorem recounts_afterRepublish {n : SequenceNumber} {sent : Bool}
    {outcome : Except Error NotificationMessage} (hm : c.manager = some m)
    (ho : sent = false → ∃ e, outcome = .error (.session e)) :
    Recounts id r m (.awaiting n sent) (c.logAfterRepublish r n outcome) c.calls
      (c.afterRepublish id r n outcome) := by
  have hmove : (∀ message, outcome = .ok message → message.sequenceNumber ≠ n) →
      RecoveryPoint.Moves r.received (.awaiting n sent) (.republished n outcome) .failing := by
    intro h
    cases sent with
    | false =>
      obtain ⟨e, rfl⟩ := ho rfl
      exact .unasked e
    | true => exact .refused h
  unfold afterRepublish logAfterRepublish
  cases outcome with
  | error e => exact .cons (hmove nofun) trivial rfl (recounts_fallBack hm)
  | ok message =>
    have hsent : sent = true := by
      cases sent with
      | false =>
        obtain ⟨e, he⟩ := ho rfl
        cases he
      | true => rfl
    subst hsent
    dsimp only
    split
    · rename_i hn
      subst hn
      have hr : (c.withManager (·.republished r.subscription message)).manager =
          some (m.republished r.subscription message) := by
        rw [withManager, hm, Option.map_some]
      have hp : (RecoveryEvent.republished message.sequenceNumber (.ok message)).perform
          r.subscription m = m.republished r.subscription message := if_pos rfl
      refine .cons .came trivial rfl ?_
      rw [hp]
      exact recounts_republishFrom _ hr
    · rename_i hn
      have hp : (RecoveryEvent.republished n (.ok message)).perform r.subscription m = m :=
        if_neg hn
      refine .cons (hmove fun x hx => ?_) trivial rfl ?_
      · cases hx
        exact hn
      · rw [hp]
        exact recounts_fallBack hm

/-- A run of a recovery does what its log says. -/
theorem recounts_pollRecovery (hm : c.manager = some m) (hr : m.recovery? id = some r) :
    Recounts id r m r.stage.point (c.recoveryLog id) c.calls (c.pollRecovery id) := by
  unfold pollRecovery recoveryLog
  rw [hm]
  dsimp only
  rw [hr]
  dsimp only
  rcases r.stage with ⟨n, _ | phase⟩ | ⟨k, rest, phase⟩
  · exact recounts_republishFrom n hm
  · dsimp only
    rcases hs : c.service.advance (c.republishCall r.subscription n) phase with ⟨service, progress⟩
    cases progress with
    | pending phase' posted =>
      dsimp only
      refine recounts_wait (by rfl) (by rfl) ?_
      rcases ServiceClient.advance_pending hs with ⟨h1, h2⟩ | ⟨h1, h2, h3⟩
      · exact .inl ⟨by rw [RecoveryStage.point, h1]; rfl, h2⟩
      · refine .inr ⟨?_, trivial, h3⟩
        rw [RecoveryStage.point, RecoveryStage.point, h1, h2]
        exact .sendsAsk
    | done outcome =>
      exact recounts_afterRepublish rfl fun h => ServiceClient.advance_done hs h
  · dsimp only
    rcases hs : c.service.advance (c.itemCall k m) phase with ⟨service, progress⟩
    cases progress with
    | pending phase' posted =>
      dsimp only
      refine recounts_wait (by rfl) (by rfl) ?_
      rcases ServiceClient.advance_pending hs with ⟨h1, h2⟩ | ⟨h1, h2, h3⟩
      · exact .inl ⟨by rw [RecoveryStage.point, h1]; rfl, h2⟩
      · refine .inr ⟨?_, rfl, h3⟩
        rw [RecoveryStage.point, RecoveryStage.point, h1, h2]
        exact .sendsRead _
    | done outcome =>
      have hmove : RecoveryPoint.Moves r.received (.reading k rest phase.isSent)
          (.valueRead k outcome) (.choosing rest) := by
        cases hp : phase.isSent with
        | false =>
          obtain ⟨e, rfl⟩ := ServiceClient.advance_done hs hp
          exact .unread e
        | true => exact .read outcome
      exact .cons hmove trivial rfl (recounts_readItems rest rfl)

end Client

end OpcUa
