import OpcUa.Proofs.RecoveryLog
import OpcUa.Proofs.SequenceCircle

/-!
# The whole course of a recovery

The log of a recovery that comes to its end has one form: some messages come, one after the other;
then either all messages are there, or one call for a message comes to nothing and the items are
read, one after the other.

* `RecoveryScript`: what the server does in the course of a recovery.
* `RecoveryScript.log`, `questions`, `deliveries`: what the recovery does.
* `RecoveryPoint.Path.exists_script`: every log up to the end is that of a script.
-/

namespace OpcUa

/-- How a call of a recovery ends. -/
inductive Fate (α : Type) where
  /-- There is no session on which its request could go out. -/
  | unsent (e : SessionError)
  | answered (outcome : Except Error α)

namespace Fate

variable {α : Type}

def outcome : Fate α → Except Error α
  | unsent e => .error (.session e)
  | answered outcome => outcome

/-- The question that goes out in the call, if one does. -/
def asked (q : RecoveryQuestion) : Fate α → List RecoveryQuestion
  | unsent _ => []
  | answered _ => [q]

end Fate

/-- A call for the value of an item. -/
structure ReadCall where
  item : ItemKey
  target : ReadValueId
  fate : Fate (List DataValue)

namespace ReadCall

def log (r : ReadCall) : List RecoveryEvent :=
  .reads r.item :: ((r.fate.asked (.read r.item r.target)).map .sends ++
    [.valueRead r.item r.fate.outcome])

/-- The value that the call has brought, if it has. -/
def delivery? (r : ReadCall) : Option Delivery :=
  match SubscriptionManager.lastRead r.fate.outcome with
  | .ok v => some (.value r.item v)
  | .error _ => none

end ReadCall

/-- A call for a message that comes to nothing, and the calls that are made instead. -/
structure Fallback where
  number : SequenceNumber
  fate : Fate NotificationMessage
  reads : List ReadCall

/-- What the server does in the course of a recovery. -/
structure RecoveryScript where
  /-- The messages that come. -/
  messages : List NotificationMessage
  fallback : Option Fallback

namespace RecoveryScript

/-- The log while a message is asked for and comes. -/
def logMessage (message : NotificationMessage) : List RecoveryEvent :=
  [.asks message.sequenceNumber, .sends (.republish message.sequenceNumber),
    .republished message.sequenceNumber (.ok message)]

def logFallback (f : Fallback) : List RecoveryEvent :=
  .asks f.number :: ((f.fate.asked (.republish f.number)).map .sends ++
    .republished f.number f.fate.outcome :: .fallsBack (f.reads.map (·.item)) ::
      f.reads.flatMap (·.log))

/-- The log of a recovery, from its begin to its end. -/
def log (x : RecoveryScript) : List RecoveryEvent :=
  x.messages.flatMap logMessage ++ x.fallback.toList.flatMap logFallback ++ [.ends]

/-- The questions that go out, in order. -/
def questions (x : RecoveryScript) : List RecoveryQuestion :=
  x.messages.map (.republish ·.sequenceNumber) ++
    x.fallback.toList.flatMap fun f => f.fate.asked (.republish f.number) ++
      f.reads.flatMap fun r => r.fate.asked (.read r.item r.target)

/-- What is put on the delivery queue, in order. -/
def deliveries (s : SubscriptionId) (x : RecoveryScript) : List Delivery :=
  x.messages.map (.message s) ++
    x.fallback.toList.flatMap fun f => f.reads.filterMap (·.delivery?)

/-- The script is one for `k` missing messages from `n` on: those that come are the first ones, and
the call for the next one, if there is one, brings nothing or another message. -/
structure Recovers (x : RecoveryScript) (n : SequenceNumber) (k : Nat) : Prop where
  numbers : x.messages.map (·.sequenceNumber) = SequenceNumber.walk n x.messages.length
  le : x.messages.length ≤ k
  complete : x.fallback = none ↔ x.messages.length = k
  fallback : ∀ f, x.fallback = some f →
    f.number = SequenceNumber.next^[x.messages.length] n ∧
      ∀ message, f.fate.outcome = .ok message → message.sequenceNumber ≠ f.number

theorem filterMap_asked {α : Type} (q : RecoveryQuestion) (f : Fate α) :
    ((f.asked q).map RecoveryEvent.sends).filterMap (·.question?) = f.asked q := by
  cases f <;> rfl

theorem deliveries_asked {α : Type} (s : SubscriptionId) (q : RecoveryQuestion) (f : Fate α) :
    ((f.asked q).map RecoveryEvent.sends).flatMap (·.deliveries s) = [] := by
  cases f <;> rfl

theorem questions_reads (reads : List ReadCall) :
    (reads.flatMap (·.log)).filterMap (·.question?) =
      reads.flatMap fun r => r.fate.asked (.read r.item r.target) := by
  induction reads with
  | nil => rfl
  | cons r rest ih =>
    rw [List.flatMap_cons, List.filterMap_append, ih, List.flatMap_cons]
    congr 1
    rw [ReadCall.log, List.filterMap_cons_none rfl, List.filterMap_append, filterMap_asked]
    exact List.append_nil _

theorem deliveries_reads (s : SubscriptionId) (reads : List ReadCall) :
    (reads.flatMap (·.log)).flatMap (·.deliveries s) = reads.filterMap (·.delivery?) := by
  induction reads with
  | nil => rfl
  | cons r rest ih =>
    rw [List.flatMap_cons, List.flatMap_append, ih]
    have h : r.log.flatMap (·.deliveries s) = r.delivery?.toList := by
      rw [ReadCall.log, List.flatMap_cons, List.flatMap_append, deliveries_asked]
      simp only [RecoveryEvent.deliveries, List.flatMap_singleton, List.nil_append]
      unfold ReadCall.delivery?
      cases SubscriptionManager.lastRead r.fate.outcome <;> rfl
    rw [h]
    cases hd : r.delivery? with
    | none => rw [List.filterMap_cons_none hd]; rfl
    | some d => rw [List.filterMap_cons_some hd]; rfl

variable {x : RecoveryScript} {n : SequenceNumber} {k : Nat}

theorem questions_messages (messages : List NotificationMessage) :
    (messages.flatMap logMessage).filterMap (·.question?) =
      messages.map (.republish ·.sequenceNumber) := by
  induction messages with
  | nil => rfl
  | cons message rest ih =>
    rw [List.flatMap_cons, List.filterMap_append, ih]
    rfl

theorem deliveries_messages (s : SubscriptionId) (messages : List NotificationMessage) :
    (messages.flatMap logMessage).flatMap (·.deliveries s) = messages.map (.message s) := by
  induction messages with
  | nil => rfl
  | cons message rest ih =>
    have h : (logMessage message).flatMap (·.deliveries s) = [.message s message] := by
      simp [logMessage, RecoveryEvent.deliveries]
    rw [List.flatMap_cons, List.flatMap_append, ih, h]
    rfl

/-- The questions of a script are those that its log says have gone out. -/
theorem questions_log (x : RecoveryScript) :
    x.log.filterMap (·.question?) = x.questions := by
  rw [log, List.filterMap_append, List.filterMap_append, questions_messages, questions]
  cases x.fallback with
  | none => exact List.append_nil _
  | some f =>
    simp only [Option.toList_some, List.flatMap_singleton, logFallback]
    rw [List.filterMap_cons_none rfl, List.filterMap_append, filterMap_asked,
      List.filterMap_cons_none rfl, List.filterMap_cons_none rfl, questions_reads,
      List.filterMap_cons_none rfl, List.filterMap_nil, List.append_nil]

/-- What a script puts on the delivery queue is what its log says. -/
theorem Recovers.deliveries_log (h : x.Recovers n k) (s : SubscriptionId) :
    x.log.flatMap (·.deliveries s) = x.deliveries s := by
  rw [log, List.flatMap_append, List.flatMap_append, deliveries_messages, deliveries]
  cases hf : x.fallback with
  | none => exact List.append_nil _
  | some f =>
    have hm := (h.fallback f hf).2
    have hr : (RecoveryEvent.republished f.number f.fate.outcome).deliveries s = [] := by
      cases ho : f.fate.outcome with
      | error e => rfl
      | ok message => exact if_neg (hm message ho)
    simp only [Option.toList_some, List.flatMap_singleton, logFallback]
    rw [List.flatMap_cons, List.flatMap_append, deliveries_asked, List.flatMap_cons, hr,
      List.flatMap_cons, deliveries_reads]
    simp [RecoveryEvent.deliveries]

end RecoveryScript

/-! ## From a log to its script -/

namespace RecoveryScript

theorem republished_mem_log {x : RecoveryScript} {message : NotificationMessage}
    (h : message ∈ x.messages) :
    RecoveryEvent.republished message.sequenceNumber (.ok message) ∈ x.log := by
  refine List.mem_append_left _ (List.mem_append_left _ (List.mem_flatMap.2 ⟨message, h, ?_⟩))
  simp [logMessage]

theorem fallsBack_mem_log {x : RecoveryScript} {f : Fallback} (h : x.fallback = some f) :
    RecoveryEvent.fallsBack (f.reads.map (·.item)) ∈ x.log := by
  simp [log, h, logFallback]

theorem reads_mem_log {x : RecoveryScript} {f : Fallback} (h : x.fallback = some f)
    {r : ReadCall} (hr : r ∈ f.reads) : RecoveryEvent.reads r.item ∈ x.log := by
  have hmem : RecoveryEvent.reads r.item ∈ f.reads.flatMap (·.log) :=
    List.mem_flatMap.2 ⟨r, hr, List.mem_cons_self⟩
  simp [log, h, logFallback, hmem]

end RecoveryScript

namespace RecoveryPoint

variable {received n : SequenceNumber} {log : List RecoveryEvent} {p : RecoveryPoint}
  {T : ItemKey → ReadValueId → Prop}

/-- Nothing happens after the end. -/
theorem Path.of_ended (h : Path received ended log p) : log = [] ∧ p = ended := by
  cases h with
  | nil => exact ⟨rfl, rfl⟩
  | cons hm => cases hm

/-- The call for the value of an item ends, with or without its request. -/
theorem Path.exists_readCall (hT : ∀ k, ∃ t, T k t) {k : ItemKey} {rest : List ItemKey}
    (h : Path received (reading k rest false) log ended)
    (ht : ∀ k t, RecoveryEvent.sends (.read k t) ∈ log → T k t) :
    ∃ (r : ReadCall) (tail : List RecoveryEvent), r.item = k ∧ T r.item r.target ∧
      Path received (choosing rest) tail ended ∧ .reads k :: log = r.log ++ tail := by
  cases h with
  | cons hm h =>
    cases hm with
    | unread e =>
      obtain ⟨t, hkt⟩ := hT k
      exact ⟨⟨k, t, .unsent e⟩, _, rfl, hkt, h, rfl⟩
    | sendsRead t =>
      cases h with
      | cons hm h =>
        cases hm with
        | read outcome =>
          exact ⟨⟨k, t, .answered outcome⟩, _, rfl, ht k t List.mem_cons_self, h, rfl⟩

/-- The items are read one after the other. -/
theorem Path.exists_reads (hT : ∀ k, ∃ t, T k t) {items : List ItemKey}
    (h : Path received (choosing items) log ended)
    (ht : ∀ k t, RecoveryEvent.sends (.read k t) ∈ log → T k t)
    (hs : RecoveryEvent.stops ∉ log) :
    ∃ reads : List ReadCall, reads.map (·.item) = items ∧ (∀ r ∈ reads, T r.item r.target) ∧
      log = reads.flatMap (·.log) ++ [.ends] := by
  induction items generalizing log with
  | nil =>
    cases h with
    | cons hm h =>
      cases hm
      obtain ⟨rfl, -⟩ := h.of_ended
      exact ⟨[], rfl, fun r h => absurd h List.not_mem_nil, rfl⟩
  | cons k rest ih =>
    cases h with
    | cons hm h =>
      cases hm with
      | stopsReading => exact absurd List.mem_cons_self hs
      | reads =>
        obtain ⟨r, tail, rfl, hr, htail, e⟩ :=
          h.exists_readCall hT fun k t h => ht k t (List.mem_cons_of_mem _ h)
        rw [e] at hs ht ⊢
        obtain ⟨reads, rfl, hreads, rfl⟩ := ih htail
          (fun k t h => ht k t (List.mem_append_right _ h)) fun h => hs (List.mem_append_right _ h)
        exact ⟨r :: reads, rfl, List.forall_mem_cons.2 ⟨hr, hreads⟩,
          by rw [List.flatMap_cons, List.append_assoc]⟩

/-- The call for a message ends: the message comes, or the recovery falls back. -/
theorem Path.exists_republishCall (h : Path received (awaiting n false) log ended) :
    (∃ message tail, message.sequenceNumber = n ∧
      Path received (asking (SequenceNumber.next n)) tail ended ∧
      log = .sends (.republish n) :: .republished n (.ok message) :: tail) ∨
    ∃ (fate : Fate NotificationMessage) (tail : List RecoveryEvent),
      (∀ message, fate.outcome = .ok message → message.sequenceNumber ≠ n) ∧
      Path received failing tail ended ∧
      log = (fate.asked (.republish n)).map .sends ++ .republished n fate.outcome :: tail := by
  cases h with
  | cons hm h =>
    cases hm with
    | unasked e => exact .inr ⟨.unsent e, _, nofun, h, rfl⟩
    | sendsAsk =>
      cases h with
      | cons hm h =>
        cases hm with
        | came => exact .inl ⟨_, _, rfl, h, rfl⟩
        | refused hne => exact .inr ⟨.answered _, _, hne, h, rfl⟩

/-- What the recovery does after a message could not be had. -/
theorem Path.exists_fallback (hT : ∀ k, ∃ t, T k t) (h : Path received failing log ended)
    (ht : ∀ k t, RecoveryEvent.sends (.read k t) ∈ log → T k t)
    (hs : RecoveryEvent.stops ∉ log) :
    ∃ reads : List ReadCall, (∀ r ∈ reads, T r.item r.target) ∧
      log = .fallsBack (reads.map (·.item)) :: (reads.flatMap (·.log) ++ [.ends]) := by
  cases h with
  | cons hm h =>
    cases hm with
    | stopsFailing => exact absurd List.mem_cons_self hs
    | fallsBack =>
      obtain ⟨reads, rfl, hreads, rfl⟩ := h.exists_reads hT
        (fun k t h => ht k t (List.mem_cons_of_mem _ h)) fun h => hs (List.mem_cons_of_mem _ h)
      exact ⟨reads, hreads, rfl⟩

/-- Every log up to the end is that of a script. What is known of the targets in the requests holds
of all targets in the script. -/
theorem Path.exists_script (hT : ∀ k, ∃ t, T k t) {k : Nat}
    (h : Path received (asking n) log ended)
    (ht : ∀ k t, RecoveryEvent.sends (.read k t) ∈ log → T k t)
    (hs : RecoveryEvent.stops ∉ log) (hk : SequenceNumber.next^[k] n = received)
    (hlt : ∀ i, i < k → SequenceNumber.next^[i] n ≠ received) :
    ∃ x : RecoveryScript, log = x.log ∧ x.Recovers n k ∧
      ∀ f, x.fallback = some f → ∀ r ∈ f.reads, T r.item r.target := by
  induction k generalizing n log with
  | zero =>
    cases h with
    | cons hm h =>
      cases hm with
      | asks hn => exact absurd hk hn
      | stopsAsking hn => exact absurd hk hn
      | endsAsking =>
        obtain ⟨rfl, -⟩ := h.of_ended
        exact ⟨⟨[], none⟩, rfl, ⟨rfl, Nat.le_refl _, ⟨fun _ => rfl, fun _ => rfl⟩, nofun⟩, nofun⟩
  | succ k ih =>
    cases h with
    | cons hm h =>
      cases hm with
      | stopsAsking => exact absurd List.mem_cons_self hs
      | endsAsking => exact absurd rfl (hlt 0 (Nat.succ_pos k))
      | asks =>
        rcases h.exists_republishCall with ⟨message, tail, rfl, htail, rfl⟩ |
          ⟨fate, tail, hfate, htail, rfl⟩
        · have hs' : RecoveryEvent.stops ∉ tail := fun h =>
            hs (List.mem_append_right (RecoveryScript.logMessage message) h)
          have ht' : ∀ k t, RecoveryEvent.sends (.read k t) ∈ tail → T k t := fun k t h =>
            ht k t (List.mem_append_right (RecoveryScript.logMessage message) h)
          obtain ⟨x, rfl, hx, hreads⟩ := ih htail ht' hs'
            (by rw [← Function.iterate_succ_apply]; exact hk)
            (fun i hi => by
              rw [← Function.iterate_succ_apply]
              exact hlt _ (Nat.succ_lt_succ hi))
          refine ⟨⟨message :: x.messages, x.fallback⟩, rfl, ⟨?_, ?_, ?_, hx.fallback⟩, hreads⟩
          · rw [List.map_cons, hx.numbers, List.length_cons, SequenceNumber.walk_succ]
          · exact Nat.succ_le_succ hx.le
          · rw [hx.complete, List.length_cons, Nat.succ_inj]
        · have hin : ∀ e ∈ tail, e ∈ RecoveryEvent.asks n ::
              ((fate.asked (.republish n)).map .sends ++ .republished n fate.outcome :: tail) :=
            fun e h => List.mem_cons_of_mem _ (List.mem_append_right _ (List.mem_cons_of_mem _ h))
          obtain ⟨reads, hreads, rfl⟩ := htail.exists_fallback hT
            (fun k t h => ht k t (hin _ h)) fun h => hs (hin _ h)
          refine ⟨⟨[], some ⟨n, fate, reads⟩⟩, ?_,
            ⟨rfl, Nat.zero_le _, ⟨nofun, nofun⟩, ?_⟩, ?_⟩
          · simp [RecoveryScript.log, RecoveryScript.logFallback]
          · rintro f ⟨⟩
            exact ⟨rfl, hfate⟩
          · rintro f ⟨⟩
            exact hreads

/-- A recovery that has not come to its end has not stopped either. -/
theorem Path.stops_not_mem {q : RecoveryPoint} (h : Path received p log q) (hq : q ≠ ended) :
    RecoveryEvent.stops ∉ log := by
  induction h with
  | nil => nofun
  | cons hm h ih =>
    intro hmem
    rcases List.mem_cons.1 hmem with rfl | hmem
    · cases hm <;> exact hq h.of_ended.2
    · exact ih hq hmem

/-- A recovery that has not stopped has come to its end. -/
theorem Path.ends_mem {q : RecoveryPoint} (h : Path received p log q) (hp : p ≠ ended)
    (hq : q = ended) (hs : RecoveryEvent.stops ∉ log) : RecoveryEvent.ends ∈ log := by
  induction h with
  | nil => exact absurd hq hp
  | @cons p p' q e log hm h ih =>
    by_cases hp' : p' = ended
    · subst hp'
      cases hm
      · exact List.mem_cons_self
      · exact List.mem_cons_self
      · exact absurd List.mem_cons_self hs
      · exact absurd List.mem_cons_self hs
      · exact absurd List.mem_cons_self hs
    · exact List.mem_cons_of_mem _ (ih hp' hq fun h => hs (List.mem_cons_of_mem _ h))

/-! ## How long a recovery is -/

/-- The number of events that can be left, if there are `items` items to read. -/
def left (received : SequenceNumber) (items : Nat) : RecoveryPoint → Nat
  | asking n =>
    if n = received then 1
    else 3 * SequenceNumber.distance (SequenceNumber.next n) received + 3 * items + 5
  | awaiting n sent =>
    3 * SequenceNumber.distance (SequenceNumber.next n) received + 3 * items +
      if sent then 3 else 4
  | failing => 3 * items + 2
  | choosing rest => 3 * rest.length + 1
  | reading _ rest sent => 3 * rest.length + if sent then 2 else 3
  | ended => 0

theorem left_asking_le (items : Nat) (hr : received ≠ 0) (hn : n ≠ 0) :
    left received items (asking n) ≤ 3 * SequenceNumber.distance n received + 3 * items + 2 := by
  rw [left]
  split
  · omega
  · rename_i h
    have := SequenceNumber.distance_eq_succ hr hn (Ne.symm h)
    omega

/-- Every event leaves fewer to come. -/
theorem Moves.left_lt {items : Nat} {q : RecoveryPoint} {e : RecoveryEvent}
    (h : Moves received p e q) (hr : received ≠ 0)
    (he : ∀ l, e = .fallsBack l → l.length ≤ items) :
    left received items q < left received items p := by
  cases h with
  | asks hn =>
    rw [left, left, if_neg hn, if_neg Bool.false_ne_true]
    omega
  | came =>
    refine Nat.lt_of_le_of_lt (left_asking_le items hr (SequenceNumber.next_ne_zero _)) ?_
    rw [left, if_pos rfl]
    omega
  | stopsAsking hn =>
    rw [left, left, if_neg hn]
    omega
  | endsAsking =>
    rw [left, left, if_pos rfl]
    exact Nat.one_pos
  | fallsBack =>
    have := he _ rfl
    rw [left, left]
    omega
  | sendsAsk | unasked | refused | reads | sendsRead | unread | read | endsReading | stopsFailing
  | stopsReading =>
    simp [left]
    try omega

/-- Its log is no longer than its start allows. -/
theorem Path.length_log_le {items : Nat} {q : RecoveryPoint} (h : Path received p log q)
    (hr : received ≠ 0) (he : ∀ l, RecoveryEvent.fallsBack l ∈ log → l.length ≤ items) :
    log.length + left received items q ≤ left received items p := by
  induction h with
  | nil => exact Nat.le_of_eq (Nat.zero_add _)
  | cons hm h ih =>
    have hlt := hm.left_lt hr fun l hl => he l (hl ▸ List.mem_cons_self)
    have hle := ih fun l hl => he l (List.mem_cons_of_mem _ hl)
    rw [List.length_cons]
    omega

end RecoveryPoint

theorem RecoveryStage.point_ne_ended (stage : RecoveryStage) : stage.point ≠ .ended := by
  rcases stage with ⟨n, _ | phase⟩ | ⟨k, rest, phase⟩ <;> nofun

end OpcUa
