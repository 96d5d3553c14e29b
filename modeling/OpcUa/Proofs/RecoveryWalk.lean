import OpcUa.Proofs.RecoveryShutdown
import OpcUa.Proofs.Reordering

/-!
# How far a recovery walks

A recovery asks for one message after the other, from the first one that is missing to the one that
was received. It knows that it is through when it has come to the number that was received, so it
comes to an end only if the walk leads there. It does to every number in use. It never comes to 0,
which no server is to send.

* `RecoveryPoint.Path.walks`: the numbers that are asked for.
* `Client.askedBy`: the requests that a recovery has sent for messages.
* `Client.walk_ends`: a recovery asks for every missing message at most once, and for nothing else.
* `Client.Fetching`: a recovery waits for a message.
* `Client.walk_past_zero`: a recovery up to the number 0 goes round the circle.
-/

namespace OpcUa

open SequenceNumber (next walk distance circle)

namespace SequenceNumber

/-- Less than a whole round leads to no number twice. -/
theorem nodup_walk {n : SequenceNumber} (hn : n ≠ 0) {k : Nat} (hk : k ≤ circle) :
    (walk n k).Nodup := by
  induction k with
  | zero => exact List.nodup_nil
  | succ k ih =>
    rw [walk_succ_last, List.nodup_append]
    refine ⟨ih (by omega), List.nodup_singleton _, fun a ha b hb hab => ?_⟩
    obtain ⟨i, hi, rfl⟩ := mem_walk.1 ha
    rw [List.mem_singleton.1 hb] at hab
    have := iterate_next_injective hn (show i < circle by omega) (show k < circle by omega) hab
    omega

end SequenceNumber

/-- The call for the message `n` has brought it. -/
def Comes (n : SequenceNumber) : Except Error NotificationMessage → Prop
  | .ok message => message.sequenceNumber = n
  | .error _ => False

instance (n : SequenceNumber) : (outcome : Except Error NotificationMessage) →
    Decidable (Comes n outcome)
  | .ok _ => inferInstanceAs (Decidable (_ = _))
  | .error _ => .isFalse id

/-- Whether the event is not the end of a call that has failed to bring its message. -/
def RecoveryEvent.Succeeds : RecoveryEvent → Prop
  | republished n outcome => Comes n outcome
  | _ => True

instance : (e : RecoveryEvent) → Decidable e.Succeeds
  | .republished n outcome => inferInstanceAs (Decidable (Comes n outcome))
  | .asks _ | .fallsBack _ | .reads _ | .valueRead .. | .sends _ | .ends | .stops =>
    inferInstanceAs (Decidable True)

/-! ## The numbers that are asked for -/

namespace RecoveryPoint

variable {received n : SequenceNumber} {i : Nat} {p q : RecoveryPoint} {log : List RecoveryEvent}

/-- The next message to be asked for is the one `i` steps from `n`. A message is only asked for if
it is not the one that was received. -/
def Stands (received n : SequenceNumber) (i : Nat) : RecoveryPoint → Prop
  | asking m => m = next^[i] n
  | awaiting m false => m = next^[i] n ∧ m ≠ received
  | awaiting m true => next m = next^[i] n
  | failing | choosing _ | reading .. | ended => True

/-- No message has failed to come, and the recovery has only ended at the one that was received. -/
def Whole (received n : SequenceNumber) (i : Nat) : RecoveryPoint → Prop
  | asking _ | awaiting .. => True
  | failing | choosing _ | reading .. => False
  | ended => next^[i] n = received

theorem numbersAsked_append (s : SubscriptionId) (log log' : List RecoveryEvent) :
    numbersAsked s (log ++ log') = numbersAsked s log ++ numbersAsked s log' := by
  rw [numbersAsked, List.filterMap_append, List.filterMap_append]
  rfl

/-- A recovery asks for consecutive numbers, and never for the one that was received. If all
messages come, it goes on until it gets there. -/
theorem Path.walks {s : SubscriptionId} (h : Path received p log q)
    (hp : p.Stands received n i) :
    ∃ j, numbersAsked s log = walk (next^[i] n) j ∧ received ∉ numbersAsked s log ∧
      q.Stands received n (i + j) ∧
      (p.Whole received n i → (∀ e ∈ log, e.Succeeds) → .stops ∉ log →
        q.Whole received n (i + j) ∧ ∀ l, .fallsBack l ∉ log) := by
  induction h generalizing i with
  | nil => exact ⟨0, rfl, nofun, hp, fun hw _ _ => ⟨hw, nofun⟩⟩
  | @cons p p' q e log hm h ih =>
    -- An event that sends no request for a message keeps the place.
    have hstay (he : numbersAsked s (e :: log) = numbersAsked s log)
        (hp' : p'.Stands received n i)
        (hw : p.Whole received n i → e.Succeeds → e ≠ .stops →
          p'.Whole received n i ∧ ∀ l, e ≠ .fallsBack l) :
        ∃ j, numbersAsked s (e :: log) = walk (next^[i] n) j ∧
          received ∉ numbersAsked s (e :: log) ∧ q.Stands received n (i + j) ∧
          (p.Whole received n i → (∀ e' ∈ e :: log, e'.Succeeds) → .stops ∉ e :: log →
            q.Whole received n (i + j) ∧ ∀ l, .fallsBack l ∉ e :: log) := by
      obtain ⟨j, h1, h2, h3, h4⟩ := ih hp'
      rw [he]
      refine ⟨j, h1, h2, h3, fun hwhole hs hstop => ?_⟩
      obtain ⟨hse, hslog⟩ := List.forall_mem_cons.1 hs
      obtain ⟨hw', hfall⟩ := hw hwhole hse (List.ne_of_not_mem_cons hstop).symm
      obtain ⟨hq, hnone⟩ := h4 hw' hslog (List.not_mem_of_not_mem_cons hstop)
      exact ⟨hq, fun l => List.not_mem_cons_of_ne_of_not_mem (hfall l).symm (hnone l)⟩
    cases hm with
    | @asks m hm => exact hstay rfl ⟨hp, hm⟩ fun _ _ _ => ⟨trivial, nofun⟩
    | @sendsAsk m =>
      obtain ⟨rfl, hne⟩ := hp
      obtain ⟨j, h1, h2, h3, h4⟩ := ih (i := i + 1) (Function.iterate_succ_apply' next i n).symm
      have hplace : i + 1 + j = i + (j + 1) := by omega
      rw [hplace] at h3 h4
      refine ⟨j + 1, ?_, ?_, h3, fun _ hs hstop => ?_⟩
      · rw [numbersAsked_sends, h1, SequenceNumber.walk_succ, Function.iterate_succ_apply']
      · rw [numbersAsked_sends]
        exact List.not_mem_cons_of_ne_of_not_mem hne.symm h2
      · obtain ⟨hq, hnone⟩ := h4 trivial (List.forall_mem_cons.1 hs).2
          (List.not_mem_of_not_mem_cons hstop)
        exact ⟨hq, fun l => List.not_mem_cons_of_ne_of_not_mem nofun (hnone l)⟩
    | came => exact hstay rfl hp fun _ _ _ => ⟨trivial, nofun⟩
    | unasked e => exact hstay rfl trivial fun _ hs _ => hs.elim
    | @refused m outcome ho =>
      refine hstay rfl trivial fun _ hs _ => ?_
      cases outcome with
      | error e => exact hs.elim
      | ok message => exact absurd hs (ho message rfl)
    | fallsBack | reads | sendsRead | unread | read | endsReading | stopsFailing | stopsReading =>
      exact hstay rfl trivial fun hw _ _ => hw.elim
    | endsAsking => exact hstay rfl trivial fun _ _ _ => ⟨hp.symm, nofun⟩
    | stopsAsking hm => exact hstay rfl trivial fun _ _ hs => absurd rfl hs

end RecoveryPoint

/-- The events of another recovery do not count. -/
theorem recoveryEvents_run_of_ne {id id' : WorkId} (h : id' ≠ id) (s : SubscriptionId)
    (log : List RecoveryEvent) (requests : List Request) (deliveries : List Delivery) :
    recoveryEvents id (log.map (.recovers id' s) ++ requests.map (.posts id') ++
      deliveries.map .hands) = [] := by
  have hlog : recoveryEvents id (log.map (.recovers id' s)) = [] :=
    filterMap_map_none (g := SequencerEvent.recovers id' s) (fun _ => if_neg h) log
  rw [recoveryEvents_append, recoveryEvents_append, hlog, List.nil_append]
  simp [recoveryEvents]

/-! ## The course of a walk -/

namespace SubscriptionManager

variable {m m' : SubscriptionManager} {events : List SequencerEvent} {w : WorkId}

/-- A recovery that is over does nothing more. -/
theorem Step.recoveryEvents_of_none (h : m.Step events m') (hr : m.recovery? w = none) :
    recoveryEvents w events = [] := by
  have hne {w' : WorkId} {r : Recovery} (h : m.recovery? w' = some r) : w' ≠ w := by
    rintro rfl
    rw [hr] at h
    cases h
  cases h with
  | outside | idles | drops | accepts | gaps | rests => rfl
  | recovers h | ends h => exact recoveryEvents_run_of_ne (hne h) _ _ _ _

end SubscriptionManager

/-- The numbers of the messages of the subscription `s` that a recovery has asked for. -/
def askedBy (w : WorkId) (s : SubscriptionId) (h : List SequencerEvent) : List SequenceNumber :=
  (recoveryRequests w h).filterMap fun r => republishNumber? s r.question

/-- Every call of the recovery for a message has brought it. -/
def AllCome (w : WorkId) (h : List SequencerEvent) : Prop := ∀ e ∈ recoveryEvents w h, e.Succeeds

instance (w : WorkId) (h : List SequencerEvent) : Decidable (AllCome w h) :=
  inferInstanceAs (Decidable (∀ e ∈ recoveryEvents w h, e.Succeeds))

namespace Client

open SubscriptionManager

variable {c : Client} {a : PublishAnswer} {x n : SequenceNumber} {r : Recovery} {w : WorkId}
  {s : SubscriptionId} {bs : List Action}

/-- What the recovery `w` of the messages of `s` from `n` up to `received` has done in a run, at the
end of which it is at the point `q`. -/
structure Walked (c : Client) (bs : List Action) (w : WorkId) (s : SubscriptionId)
    (n received : SequenceNumber) (q : RecoveryPoint) : Prop where
  path : RecoveryPoint.Path received (.asking n) (recoveryEvents w (c.history bs)) q
  asked : askedBy w s (c.history bs) =
    RecoveryPoint.numbersAsked s (recoveryEvents w (c.history bs))
  stops : .stops ∈ recoveryEvents w (c.history bs) → (c.after bs).managed.running = false

theorem askedBy_eq {h : List SequencerEvent}
    (hq : (recoveryRequests w h).map (·.question) =
      ((recoveryEvents w h).filterMap (·.question?)).map (·.request s)) :
    askedBy w s h = RecoveryPoint.numbersAsked s (recoveryEvents w h) := by
  have h := congrArg (List.filterMap (republishNumber? s)) hq
  rwa [List.filterMap_map, List.filterMap_map] at h

theorem Ready.not_running_of_stops (h : c.Ready) (ht : c.Told bs w s)
    (hs : .stops ∈ recoveryEvents w (c.history bs)) : (c.after bs).managed.running = false := by
  obtain ⟨p, b, ⟨qs, rfl⟩, he⟩ := mem_recoveryEvents_history hs
  have hdown : (c.after p).managed.running = false := ht.fits p b (List.prefix_append _ _) _ he
  rw [List.append_assoc, after_append, Bool.eq_false_iff]
  intro hrun
  rw [(h.after p).running_of_after hrun] at hdown
  cases hdown

/-- Every recovery walks, until it ends and does nothing more. -/
theorem Ready.exists_walked (h : c.Ready) (hg : c.RevealsGap a x) (bs : List Action) :
    ∃ q, c.evaluateNext.Walked bs c.managed.nextWork a.subscription (next x)
        a.message.sequenceNumber q ∧
      ((c.evaluateNext.after bs).managed.recovery? c.managed.nextWork = none → q = .ended) := by
  have hr₁ : c.evaluateNext.Ready := h.act _
  -- While it is in progress, all is said about it.
  have hwalks (bs : List Action) (r : Recovery)
      (hr : (c.evaluateNext.after bs).managed.recovery? c.managed.nextWork = some r) :
      c.evaluateNext.Walked bs c.managed.nextWork a.subscription (next x)
        a.message.sequenceNumber r.stage.point := by
    have hu := h.underway hg bs hr
    exact ⟨hu.path, askedBy_eq hu.told.requests, hr₁.not_running_of_stops hu.told⟩
  induction bs using List.reverseRecOn with
  | nil =>
    obtain ⟨r, hr⟩ : ∃ r, c.evaluateNext.managed.recovery? c.managed.nextWork = some r :=
      ⟨_, by rw [recovery?, (hg.recoveries h).1, List.lookup_cons_self]⟩
    exact ⟨_, hwalks [] r hr, fun hnone => by rw [after_nil, hr] at hnone; cases hnone⟩
  | append_singleton bs b ih =>
    have hb := hr₁.after bs
    have hstep := (hb.step b).2.2
    cases hr' : (c.evaluateNext.after (bs ++ [b])).managed.recovery? c.managed.nextWork with
    | some r => exact ⟨_, hwalks _ r hr', fun hnone => absurd hnone (Option.some_ne_none r)⟩
    | none =>
      refine ⟨.ended, ?_, fun _ => rfl⟩
      rw [after_snoc] at hr'
      cases hr : (c.evaluateNext.after bs).managed.recovery? c.managed.nextWork with
      | some r =>
        have hf := hstep.finishes hb.orderly hr hr'
        have hu := h.underway hg bs hr
        have hpath := hf.path
        rw [hu.received] at hpath
        have ht := hu.told_finished hf
        refine ⟨?_, askedBy_eq ht.requests, hr₁.not_running_of_stops ht⟩
        rw [history_snoc, recoveryEvents_append]
        exact hu.path.append hpath
      | none =>
        obtain ⟨q, hw, hq⟩ := ih
        obtain rfl := hq hr
        have hnone : recoveryEvents c.managed.nextWork ((c.evaluateNext.after bs).events b) = [] :=
          hstep.recoveryEvents_of_none hr
        have hposts :
            recoveryRequests c.managed.nextWork ((c.evaluateNext.after bs).events b) = [] :=
          hstep.requests_of_none hr
        have he : recoveryEvents c.managed.nextWork (c.evaluateNext.history (bs ++ [b])) =
            recoveryEvents c.managed.nextWork (c.evaluateNext.history bs) := by
          rw [history_snoc, recoveryEvents_append, hnone, List.append_nil]
        refine ⟨by rw [he]; exact hw.path, ?_, fun hs => ?_⟩
        · rw [he, ← hw.asked, askedBy, history_snoc, recoveryRequests_append, hposts,
            List.append_nil]
          rfl
        · have hdown := hw.stops (he ▸ hs)
          rw [after_snoc, Bool.eq_false_iff]
          intro hrun
          rw [hstep.running hb.orderly hrun] at hdown
          cases hdown

/-- What comes of a recovery of `k` messages from `n` on, in the run `bs`. -/
structure Walks (c : Client) (bs : List Action) (w : WorkId) (s : SubscriptionId)
    (n : SequenceNumber) (k : Nat) : Prop where
  /-- It has asked for the first messages, at most for all of them. -/
  asked : ∃ j, j ≤ k ∧ askedBy w s (c.history bs) = walk n j
  /-- As long as the messages come, its log is bounded; and it grows whenever the recovery
  proceeds. -/
  bounded : AllCome w (c.history bs) → (c.after bs).managed.running = true →
    (recoveryEvents w (c.history bs)).length ≤ 3 * k + 2
  grows : (c.after bs).Proceeds w →
    recoveryEvents w ((c.after bs).events (.run (.recovery w))) ≠ []
  /-- When it is over, it has asked for all messages, if they have come. -/
  whole : AllCome w (c.history bs) → (c.after bs).managed.running = true →
    (c.after bs).managed.recovery? w = none → askedBy w s (c.history bs) = walk n k

/-- A recovery asks for the missing messages, one after the other, and ends when they have come. It
sends at most `2 ^ 31 - 1` requests for them, and none twice. -/
theorem walk_ends (hc : c.Begins) (as : List Action) (hg : (c.after as).RevealsGap a x)
    (hn : a.message.sequenceNumber ≠ 0) :
    distance (next x) a.message.sequenceNumber ≤ 2 ^ 31 - 1 ∧
      (walk (next x) (distance (next x) a.message.sequenceNumber)).Nodup ∧
      ∀ bs, (c.after as).evaluateNext.Walks bs (c.after as).managed.nextWork a.subscription
        (next x) (distance (next x) a.message.sequenceNumber) := by
  have hready := hc.ready.after as
  have hx := SequenceNumber.next_ne_zero x
  obtain ⟨-, -, hk⟩ := (SequenceNumber.evaluate_eq_gap_iff hn).1 hg.gap
  have hlt := SequenceNumber.distance_lt (next x) a.message.sequenceNumber
  have hreach := SequenceNumber.iterate_next_distance hn hx
  have hle := RecoveryPoint.left_asking_le 0 hn hx
  refine ⟨hk, SequenceNumber.nodup_walk hx (Nat.le_of_lt hlt), fun bs => ?_⟩
  generalize distance (next x) a.message.sequenceNumber = k at hk hlt hreach hle ⊢
  obtain ⟨q, hw, hq⟩ := hready.exists_walked hg bs
  obtain ⟨j, hasked, hnot, -, hwhole⟩ :=
    hw.path.walks (n := next x) (i := 0) (s := a.subscription) rfl
  rw [Function.iterate_zero_apply] at hasked
  rw [Nat.zero_add] at hwhole
  -- The walk does not pass the number that was received.
  have hj : j ≤ k := by
    by_contra hjk
    refine hnot ?_
    rw [hasked]
    exact SequenceNumber.mem_walk.2 ⟨k, Nat.lt_of_not_le hjk, hreach.symm⟩
  have hstops (hrun : ((c.after as).evaluateNext.after bs).managed.running = true) :
      .stops ∉ recoveryEvents (c.after as).managed.nextWork
        ((c.after as).evaluateNext.history bs) := fun hs => by
    rw [hw.stops hs] at hrun
    cases hrun
  refine ⟨⟨j, hj, hw.asked.trans hasked⟩, fun hcome hrun => ?_,
    recoveryEvents_ne_nil ((hready.act _).after bs), fun hcome hrun hend => ?_⟩
  · have hnone := (hwhole trivial hcome (hstops hrun)).2
    have hlen := hw.path.length_log_le hn fun l hl => absurd (b := l.length ≤ 0) hl (hnone l)
    omega
  · obtain rfl := hq hend
    have hend' : next^[j] (next x) = a.message.sequenceNumber :=
      (hwhole trivial hcome (hstops hrun)).1
    have hjk := SequenceNumber.iterate_next_injective hx (by omega) hlt (hend'.trans hreach.symm)
    rw [hw.asked, hasked, hjk]

end Client

/-! ## A walk that goes on -/

namespace Exchanges

variable {y : Exchanges} {id : ExchangeId}

/-- An exchange that somebody waits for gets its reply. -/
theorem reply?_deliver (h : y.isOpen id = true) (reply : Reply) :
    (y.deliver id reply).reply? id = some reply := by
  obtain ⟨pending, count⟩ := y
  unfold isOpen at h
  unfold reply? deliver
  dsimp only at h ⊢
  induction pending with
  | nil => cases h
  | cons p pending ih =>
    rw [List.map_cons]
    by_cases hp : p.1 = id
    · rw [if_pos hp, List.lookup_cons_self]
      rfl
    · rw [if_neg hp, List.lookup_cons, beq_false_of_ne (Ne.symm hp)]
      exact ih (by simpa [hp] using h)

theorem isOpen_start (y : Exchanges) : y.start.2.isOpen y.start.1 = true := by
  simp [isOpen, start]

end Exchanges

namespace ServiceClient

/-- There is a session on which a call can send its request at once. -/
structure Serves (c : ServiceClient) : Prop where
  connected : c.disconnected = false
  runs : c.driver.stopped = false
  session : ∃ x, c.driver.present = some (.ok x) ∧ c.driver.isValid x = true

variable {c : ServiceClient} {service : Service}

theorem Serves.start (h : c.Serves) (call : ServiceCall service) :
    ∃ c' session await posted,
      c.start call = (c', .pending (.exchange session await) (some posted)) ∧
      c'.Serves ∧ c'.exchanges.isOpen await.exchange = true := by
  obtain ⟨hc, hr, x, hx, hv⟩ := h
  have hask : c.ask = ({ c with driver :=
      { c.driver with commands := c.driver.commands ++ [.event none .sessionRequested] } },
      .done (.ok x)) := by
    have hr' : ¬ c.driver.stopped = true := Bool.eq_false_iff.1 hr
    unfold ask SessionDriver.ask SessionDriver.enqueue SessionDriver.look
    rw [if_neg (Bool.eq_false_iff.1 hc), if_neg hr', if_neg hr']
    dsimp only
    rw [hx]
    dsimp only
    rw [if_pos (by exact hv)]
  unfold ServiceClient.start
  rw [hask]
  exact ⟨_, _, _, _, rfl, ⟨hc, hr, x, hx, hv⟩, Exchanges.isOpen_start _⟩

/-- A call whose reply has come is done. -/
theorem advance_of_goodReply (call : ServiceCall service) (session : Session) {await : Await}
    {answer : service.Answer}
    (hr : c.exchanges.reply? await.exchange = some (Client.goodReply service answer)) :
    c.advance call (.exchange session await) = (c.forget await, .done (.ok answer)) := by
  have hgood : StatusCode.good.isBad = false := by decide
  have hout : c.outcome? service await = some (.ok answer) := by
    unfold outcome? reply?
    rw [hr]
    simp [Response.outcome, Response.content, Client.goodReply, hgood]
  unfold ServiceClient.advance
  dsimp only
  rw [hout]
  rfl

end ServiceClient

namespace Client

open SubscriptionManager

variable {c : Client} {n received : SequenceNumber} {w : WorkId} {s : SubscriptionId}

/-- The recovery `w` of the messages of `s` up to `received` waits for the message `n`. -/
structure Fetching (c : Client) (w : WorkId) (s : SubscriptionId) (received n : SequenceNumber) :
    Prop where
  manager : c.manager = some c.managed
  running : c.managed.running = true
  serves : c.service.Serves
  recovery : ∃ session await, c.service.exchanges.isOpen await.exchange = true ∧
    c.managed.recoveries = [(w, ⟨s, received, .republishing n (some (.exchange session await))⟩)]

theorem logRepublishFrom_of_serves {m : SubscriptionManager} {r : Recovery}
    (hm : c.manager = some m) (hrun : m.running = true) (hs : c.service.Serves)
    (hn : n ≠ r.received) : c.logRepublishFrom r n = [.asks n, .sends (.republish n)] := by
  obtain ⟨service, session, await, posted, hstart, -⟩ :=
    hs.start (c.republishCall r.subscription n)
  unfold logRepublishFrom
  rw [hm]
  dsimp only
  rw [if_neg hn, if_pos hrun, hstart]
  rfl

theorem republishFrom_of_serves {m : SubscriptionManager} {r : Recovery}
    (hm : c.manager = some m) (hrun : m.running = true) (hs : c.service.Serves)
    (hn : n ≠ r.received) :
    ∃ session await, (c.republishFrom w r n).1.service.Serves ∧
      (c.republishFrom w r n).1.service.exchanges.isOpen await.exchange = true ∧
      (c.republishFrom w r n).1.manager =
        some (m.setRecovery w (.republishing n (some (.exchange session await)))) := by
  obtain ⟨service, session, await, posted, hstart, hserves, hopen⟩ :=
    hs.start (c.republishCall r.subscription n)
  refine ⟨session, await, ?_⟩
  unfold republishFrom
  rw [hm]
  dsimp only
  rw [if_neg (by simp [hn, hrun]), hstart]
  exact ⟨hserves, hopen, rfl⟩

/-- The message comes, and the next one is asked for. -/
theorem recoveryLog_of_comes {m : SubscriptionManager} (hm : c.manager = some m)
    (hrun : m.running = true) (hs : c.service.Serves) {session : Session} {await : Await}
    (hr : m.recovery? w = some ⟨s, received, .republishing n (some (.exchange session await))⟩)
    {message : NotificationMessage} (hnum : message.sequenceNumber = n)
    (hreply : c.service.exchanges.reply? await.exchange = some (goodReply .republish message))
    (hn : next n ≠ received) :
    c.recoveryLog w =
      [.republished n (.ok message), .asks (next n), .sends (.republish (next n))] := by
  unfold recoveryLog
  rw [hm]
  dsimp only
  rw [hr]
  dsimp only
  rw [ServiceClient.advance_of_goodReply _ session hreply]
  dsimp only
  unfold logAfterRepublish
  dsimp only
  rw [if_pos hnum, logRepublishFrom_of_serves rfl (by exact hrun)
    (by exact ⟨hs.connected, hs.runs, hs.session⟩) (by exact hn)]

theorem pollRecovery_of_comes {m : SubscriptionManager} (hm : c.manager = some m)
    (hrun : m.running = true) (hs : c.service.Serves) {session : Session} {await : Await}
    (hr : m.recovery? w = some ⟨s, received, .republishing n (some (.exchange session await))⟩)
    {message : NotificationMessage} (hnum : message.sequenceNumber = n)
    (hreply : c.service.exchanges.reply? await.exchange = some (goodReply .republish message))
    (hn : next n ≠ received) :
    ∃ session' await', (c.pollRecovery w).1.service.Serves ∧
      (c.pollRecovery w).1.service.exchanges.isOpen await'.exchange = true ∧
      (c.pollRecovery w).1.manager = some ((m.republished s message).setRecovery w
        (.republishing (next n) (some (.exchange session' await')))) := by
  unfold pollRecovery
  rw [hm]
  dsimp only
  rw [hr]
  dsimp only
  rw [ServiceClient.advance_of_goodReply _ session hreply]
  dsimp only
  unfold afterRepublish
  dsimp only
  rw [if_pos hnum]
  exact republishFrom_of_serves rfl hrun ⟨hs.connected, hs.runs, hs.session⟩ hn

/-- The log of a recovery in the events of its turn. -/
theorem recoveryEvents_events {r : Recovery} (hr : c.managed.recovery? w = some r) :
    recoveryEvents w (c.events (.run (.recovery w))) = c.recoveryLog w := by
  have hrec : c.recovered (.run (.recovery w)) =
      (c.recoveryLog w).map (.recovers w r.subscription) := by
    unfold recovered
    dsimp only
    rw [hr]
  have hposted : c.posted (.run (.recovery w)) =
      ((c.act (.run (.recovery w))).2.toList.map (·.request)).map (.posts w) := by
    rw [List.map_map]
    rfl
  rw [events, hrec, hposted]
  exact recoveryEvents_run

/-- Each message comes, and the next one is asked for. -/
theorem Fetching.comes (h : c.Fetching w s received n) {message : NotificationMessage}
    (hm : message.sequenceNumber = n) (hn : next n ≠ received) :
    ∃ y, (c.after [.reply y (goodReply .republish message), .run (.recovery w)]).Fetching w s
        received (next n) ∧
      recoveryEvents w (c.history [.reply y (goodReply .republish message), .run (.recovery w)]) =
        [.republished n (.ok message), .asks (next n), .sends (.republish (next n))] := by
  obtain ⟨session, await, hopen, hrec⟩ := h.recovery
  let c' := c.deliver await.exchange (goodReply .republish message)
  have hm' : c'.manager = some c.managed := h.manager
  have hc' : c'.managed = c.managed := managed_of_eq hm'
  have hr : c.managed.recovery? w =
      some ⟨s, received, .republishing n (some (.exchange session await))⟩ :=
    (recovery?_eq_some_iff hrec).2 ⟨rfl, rfl⟩
  have hs : c'.service.Serves := ⟨h.serves.connected, h.serves.runs, h.serves.session⟩
  have hreply : c'.service.exchanges.reply? await.exchange =
      some (goodReply .republish message) := Exchanges.reply?_deliver hopen _
  have hlog := recoveryLog_of_comes hm' h.running hs hr hm hreply hn
  obtain ⟨session', await', hs', hopen', hpoll⟩ :=
    pollRecovery_of_comes hm' h.running hs hr hm hreply hn
  have hmanaged : (c.after [.reply await.exchange (goodReply .republish message),
      .run (.recovery w)]).managed = _ := managed_of_eq hpoll
  refine ⟨await.exchange, ⟨?_, ?_, hs', session', await', hopen', ?_⟩, ?_⟩
  · rw [hmanaged]
    exact hpoll
  · rw [hmanaged]
    exact h.running
  · rw [hmanaged]
    exact setRecovery_recoveries (r := ⟨s, received, .republishing n _⟩) hrec _
  · have hquiet : c.events (.reply await.exchange (goodReply .republish message)) = [] :=
      events_outside (by nofun) (.refl _)
    rw [history, hquiet, List.nil_append, history, history_nil, List.append_nil]
    exact (recoveryEvents_events (c := c') (by rw [hc']; exact hr)).trans hlog

/-- A recovery up to 0 asks for as many messages as the server returns. -/
theorem Fetching.goes_on (h : c.Fetching w s 0 n) (k : Nat) :
    ∃ bs, (c.after bs).Fetching w s 0 (next^[k] n) ∧ AllCome w (c.history bs) ∧
      RecoveryPoint.numbersAsked s (recoveryEvents w (c.history bs)) = walk (next n) k := by
  induction k with
  | zero => exact ⟨[], h, nofun, rfl⟩
  | succ k ih =>
    obtain ⟨bs, hbs, hcome, hasked⟩ := ih
    let message : NotificationMessage := ⟨next^[k] n, default, []⟩
    have hm : message.sequenceNumber = next^[k] n := rfl
    obtain ⟨y, hnext, hlog⟩ := hbs.comes hm (SequenceNumber.next_ne_zero _)
    refine ⟨bs ++ [.reply y (goodReply .republish message), .run (.recovery w)], ?_, ?_, ?_⟩
    · rw [after_append, Function.iterate_succ_apply']
      exact hnext
    · rw [AllCome, history_append, recoveryEvents_append, hlog, List.forall_mem_append]
      exact ⟨hcome, by simp [RecoveryEvent.Succeeds, Comes, message]⟩
    · rw [history_append, recoveryEvents_append, hlog, RecoveryPoint.numbersAsked_append, hasked,
        SequenceNumber.walk_succ_last, ← Function.iterate_succ_apply, Function.iterate_succ_apply']
      exact congrArg _ (RecoveryPoint.numbersAsked_sends s _ [])

/-! ## Samples -/

section

open Simulation

/-- Both missing messages come. -/
def sampleFetched : List Action :=
  [.run (.recovery 3), .reply 4 (goodReply .republish (Sample.dataChange 2 [1] 5)),
    .run (.recovery 3), .reply 5 (goodReply .republish (Sample.dataChange 3 [1] 5)),
    .run (.recovery 3)]

theorem walk_ends_sample :
    sample.Begins ∧ (sample.after sampleGap).RevealsGap (sampleAnswer 4) 1 ∧
      (sampleAnswer 4).message.sequenceNumber ≠ 0 ∧
      AllCome 3 ((sample.after sampleGap).evaluateNext.history sampleFetched) ∧
      askedBy 3 7 ((sample.after sampleGap).evaluateNext.history sampleFetched) = walk 2 2 := by
  have hg : (sample.after sampleGap).RevealsGap (sampleAnswer 4) 1 :=
    ⟨⟨false, rfl⟩, by decide, by decide, by decide⟩
  have hn : (sampleAnswer 4).message.sequenceNumber ≠ 0 := by decide
  have hcome : AllCome 3 ((sample.after sampleGap).evaluateNext.history sampleFetched) := by
    decide +kernel
  have h := (walk_ends sample_begins sampleGap hg hn).2.2 sampleFetched
  exact ⟨sample_begins, hg, hn, hcome, h.whole hcome (by decide +kernel)
    (Option.isNone_iff_eq_none.1 (by decide +kernel))⟩

/-- The keep-alive with the number 0 that no server is to send. -/
def zeroAnswer : PublishAnswer := Sample.publication 7 (Sample.keepAlive 0) none

/-- The cursor is two messages before the last number, and the number 0 comes. -/
def sampleZero : List Action :=
  sampleStart ++ publishing 0 2 (sampleAnswer 4294967293) ++ [.run .processing] ++
    publishing 1 3 zeroAnswer

theorem fetching_zero :
    ((sample.after sampleZero).evaluateNext.after [.run (.recovery 3)]).Fetching 3 7 0
      4294967294 := by
  refine ⟨rfl, by decide +kernel, ⟨by decide +kernel, by decide +kernel, ?_⟩, ?_⟩
  · exact ⟨_, rfl, by decide +kernel⟩
  · exact ⟨_, _, by decide +kernel, rfl⟩

/-- The recovery goes on as long as the server returns what it is asked for. After the last number
it asks for 1, and after a whole round once more for the first one. -/
theorem walk_past_zero :
    sample.Begins ∧ (sample.after sampleZero).RevealsGap zeroAnswer 4294967293 ∧
      (∀ k, ∃ bs, AllCome 3 ((sample.after sampleZero).evaluateNext.history bs) ∧
        askedBy 3 7 ((sample.after sampleZero).evaluateNext.history bs) = walk 4294967294 (k + 1) ∧
        (((sample.after sampleZero).evaluateNext.after bs).managed.recovery? 3).isSome) ∧
      ∀ k, circle < k → ¬ (walk 4294967294 k).Nodup := by
  have hg : (sample.after sampleZero).RevealsGap zeroAnswer 4294967293 :=
    ⟨⟨false, rfl⟩, by decide +kernel, by decide +kernel, by decide⟩
  refine ⟨sample_begins, hg, fun k => ?_, fun k hk hnodup => ?_⟩
  · obtain ⟨bs, hbs, hcome, hasked⟩ := fetching_zero.goes_on k
    obtain ⟨session, await, -, hrec⟩ := hbs.recovery
    have hfirst : recoveryEvents 3
        ((sample.after sampleZero).evaluateNext.events (.run (.recovery 3))) =
        [.asks 4294967294, .sends (.republish 4294967294)] := rfl
    have hlog : recoveryEvents 3
        ((sample.after sampleZero).evaluateNext.history (.run (.recovery 3) :: bs)) =
        .asks 4294967294 :: .sends (.republish 4294967294) ::
          recoveryEvents 3 (((sample.after sampleZero).evaluateNext.after
            [.run (.recovery 3)]).history bs) := by
      rw [history, recoveryEvents_append, hfirst]
      rfl
    obtain ⟨q, hw, -⟩ := (sample_begins.ready.after sampleZero).exists_walked hg
      (.run (.recovery 3) :: bs)
    have hwork : (sample.after sampleZero).managed.nextWork = 3 := by decide +kernel
    rw [hwork] at hw
    refine ⟨.run (.recovery 3) :: bs, ?_, ?_, ?_⟩
    · rw [AllCome, hlog]
      exact List.forall_mem_cons.2 ⟨trivial, List.forall_mem_cons.2 ⟨trivial, hcome⟩⟩
    · refine hw.asked.trans ?_
      rw [hlog, SequenceNumber.walk_succ]
      exact (RecoveryPoint.numbersAsked_sends 7 _ _).trans (congrArg _ hasked)
    · rw [after_cons]
      exact Option.isSome_iff_exists.2 ⟨_, (recovery?_eq_some_iff hrec).2 ⟨rfl, rfl⟩⟩
  · -- A whole round leads back to the first number.
    have hx : (4294967294 : SequenceNumber) ≠ 0 := by decide
    obtain ⟨j, rfl⟩ := Nat.exists_eq_add_of_lt hk
    rw [Nat.add_assoc, SequenceNumber.walk_append, SequenceNumber.iterate_next_circle hx,
      SequenceNumber.walk_succ] at hnodup
    exact (List.nodup_append.1 hnodup).2.2 4294967294
      (SequenceNumber.mem_walk.2 ⟨0, by decide, rfl⟩) 4294967294 List.mem_cons_self rfl

end

end Client

end OpcUa
