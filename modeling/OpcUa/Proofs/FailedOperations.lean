import OpcUa.Proofs.ParameterUpdates

/-!
# Operations that fail

An operation of the subscription manager may fail at many points: the manager refuses it, there is
no session, the exchange fails, or the answer is not one that the operation can use. Its effect
comes after all of them, so an operation that fails has none.

* `SubscriptionManager.apply_of_error`: an answer that is refused has no effect.
* `Client.Performs`: where a call is that performs an operation.
* `Client.Performs.run`: a step of it either succeeds, or leaves the manager alone.
* `Client.failed_operation_leaves_alone`: so a call that fails has left the manager alone all along.
-/

namespace OpcUa

namespace SubscriptionManager

variable {m : SubscriptionManager}

/-- The manager is as before, but client handles may have been given out. -/
def Unaltered (m m' : SubscriptionManager) : Prop :=
  ∃ clientHandles, m' = { m with clientHandles }

theorem Unaltered.refl (m : SubscriptionManager) : m.Unaltered m := ⟨m.clientHandles, rfl⟩

/-- An operation that begins takes client handles for the items that it asks for. -/
theorem unaltered_begin (op : Operation) (clock : Nat) (m : SubscriptionManager) :
    m.Unaltered (m.begin op clock).1 := by
  cases op with
  | createItems k requests =>
    unfold SubscriptionManager.begin
    dsimp only
    split
    · exact .refl m
    · split
      · exact .refl m
      · exact ⟨_, rfl⟩
  | deleteItems k items =>
    unfold SubscriptionManager.begin
    dsimp only
    split
    · exact .refl m
    · split <;> exact .refl m
  | create | createWithInterval | modify | modifyInterval | delete | setPublishing => exact .refl m

/-- An answer with a bad or missing status, or with a wrong number of results, has no effect. -/
theorem apply_of_error {clock : Nat} {op : PendingOperation} {answer : op.service.Answer}
    {e : Error} (h : (m.apply clock op answer).2 = .error e) : (m.apply clock op answer).1 = m := by
  cases op with
  | create | modify | deleteItems => cases h
  | delete k =>
    unfold SubscriptionManager.apply at h ⊢
    dsimp only at h ⊢
    split at h
    · rename_i hbad
      rw [if_pos hbad]
    · cases h
  | setPublishing k enabled =>
    unfold SubscriptionManager.apply at h ⊢
    dsimp only at h ⊢
    split at h
    · rename_i hbad
      rw [if_pos hbad]
    · cases h
  | createItems k requests =>
    unfold SubscriptionManager.apply at h ⊢
    dsimp only at h ⊢
    split at h
    · rename_i hlen
      rw [if_pos hlen]
    · cases h

/-- An operation that ends with an error has no effect, whether the exchange has failed or its
answer is refused. -/
theorem finish_of_error {clock : Nat} {op : PendingOperation}
    {outcome : Except Error op.service.Answer} {e : Error}
    (h : (m.finish clock op outcome).2 = .error e) : (m.finish clock op outcome).1 = m := by
  cases outcome with
  | error e => rfl
  | ok answer => exact apply_of_error h

end SubscriptionManager

namespace Client

open SubscriptionManager

variable {c c' : Client} {id : CallId} {op : Operation} {result : CallResult}

/-! ## Calls that are over -/

/-- What has become of a call does not change. -/
theorem NumbersCalls.finished_undergo (hc : c.NumbersCalls)
    (hf : c.finished.lookup id = some result) (h : Happening) :
    (c.undergo h).finished.lookup id = some result := by
  obtain ⟨hid, hnone⟩ := hc.finished hf
  by_cases hrun : h = .act (.run (.call id))
  · rw [hrun, undergo_of_none hnone]
    exact hf
  · by_cases hcancel : h = .cancel id
    · rw [hcancel]
      exact hf
    · have hs : c.Spares id (c.undergo h) :=
        spares_undergo hrun hcancel fun _ _ _ => Nat.ne_of_lt hid
      exact hs.finished.trans hf

theorem NumbersCalls.finished_later (hc : c.NumbersCalls)
    (hf : c.finished.lookup id = some result) (hs : List Happening) :
    (c.later hs).finished.lookup id = some result := by
  induction hs generalizing c with
  | nil => exact hf
  | cons h hs ih => exact ih (hc.undergo h) (hc.finished_undergo hf h)

/-! ## Calls that perform an operation -/

/-- The call `id` performs the operation `op`: it is about to begin, or its request is under way.
Once it is over, there is no such call. -/
def Performs (id : CallId) (op : Operation) (c : Client) : Prop :=
  ∀ call, c.calls.lookup id = some call → call.job = .operate op ∧
    (call.stage = .fresh ∨ ∃ op' phase, call.stage = .operating op' phase)

theorem Performs.of_none (h : c.calls.lookup id = none) : c.Performs id op :=
  fun _ hl => nomatch h.symm.trans hl

theorem Performs.of_operating {op' : PendingOperation} {phase : CallPhase}
    (h : c.calls.lookup id = some ⟨.operate op, .operating op' phase⟩) : c.Performs id op := by
  intro call hl
  obtain rfl := Option.some.inj (h.symm.trans hl)
  exact ⟨rfl, .inr ⟨op', phase, rfl⟩⟩

/-- From `c` to `c'` the call `id` has succeeded, or it has left the manager alone. -/
def SucceedsOrSpares (id : CallId) (c c' : Client) : Prop :=
  c.managed.Unaltered c'.managed ∨ ∃ r, c'.finished.lookup id = some (.operated (.ok r))

theorem Performs.start (hm : c.manager = some c.managed)
    (hl : c.calls.lookup id = some ⟨.operate op, .fresh⟩) :
    (c.startOperation id op).1.Performs id op ∧
      c.SucceedsOrSpares id (c.startOperation id op).1 := by
  have hb := unaltered_begin op c.service.clock c.managed
  unfold startOperation
  rw [hm]
  dsimp only
  split
  · rename_i m' outcome e
    rw [e] at hb
    exact ⟨.of_none lookup_filter_self, .inl hb⟩
  · rename_i m' op' e
    rw [e] at hb
    split
    · -- There is no session.
      exact ⟨.of_none lookup_filter_self, .inl hb⟩
    · exact ⟨.of_operating (lookup_setCall (by exact hl) _), .inl hb⟩

theorem Performs.advance (hm : c.manager = some c.managed) {op' : PendingOperation}
    {phase : CallPhase} (hl : c.calls.lookup id = some ⟨.operate op, .operating op' phase⟩) :
    (c.advanceOperation id op' phase).1.Performs id op ∧
      c.SucceedsOrSpares id (c.advanceOperation id op' phase).1 := by
  rcases advanceOperation_cases hm id op' phase with
    ⟨phase', posted, -, e⟩ | ⟨outcome, -, clock, e⟩
  · rw [e]
    have hkeep : ∀ service, (({ c with service } : Client).setCall id
        (.operating op' phase')).managed = c.managed := fun _ => by
      rw [managed_of_eq (by exact hm)]
    refine ⟨.of_operating (lookup_setCall (by exact hl) _), .inl ?_⟩
    dsimp only
    rw [hkeep]
    exact .refl _
  · rw [e]
    refine ⟨.of_none (lookup_finish ..).1, ?_⟩
    cases hres : (c.managed.finish clock op' outcome).2 with
    | ok r => exact .inr ⟨r, (lookup_finish ..).2⟩
    | error error =>
      refine .inl ⟨c.managed.clientHandles, ?_⟩
      exact finish_of_error hres

/-- When the task of the call runs, the call succeeds or leaves the manager alone. -/
theorem Performs.run (hm : c.manager = some c.managed) (h : c.Performs id op) :
    (c.undergo (.act (.run (.call id)))).Performs id op ∧
      c.SucceedsOrSpares id (c.undergo (.act (.run (.call id)))) := by
  cases hl : c.calls.lookup id with
  | none =>
    rw [undergo_of_none hl]
    exact ⟨h, .inl (.refl _)⟩
  | some call =>
    obtain ⟨job, stage⟩ := call
    obtain ⟨rfl, rfl | ⟨op', phase, rfl⟩⟩ := h _ hl
    · rw [undergo_of_fresh hl]
      exact Performs.start hm hl
    · have hact : c.undergo (.act (.run (.call id))) = (c.advanceOperation id op' phase).1 :=
        act_of_operating hl
      rw [hact]
      exact Performs.advance hm hl

/-- Nothing else gives the call another job. -/
theorem Performs.undergo (hm : c.manager = some c.managed) (hid : id < c.nextCall)
    (hp : c.Performs id op) (h : Happening) : (c.undergo h).Performs id op := by
  by_cases hrun : h = .act (.run (.call id))
  · rw [hrun]
    exact (hp.run hm).1
  · by_cases hcancel : h = .cancel id
    · rw [hcancel]
      exact .of_none lookup_filter_self
    · have hs : c.Spares id (c.undergo h) :=
        spares_undergo hrun hcancel fun _ _ _ => Nat.ne_of_lt hid
      exact fun call hl => hp call (hs.calls.symm.trans hl)

theorem Performs.later (hc : c.Serving) (hid : id < c.nextCall) (hp : c.Performs id op)
    (hs : List Happening) : (c.later hs).Performs id op := by
  induction hs generalizing c with
  | nil => exact hp
  | cons h hs ih =>
    exact ih (hc.undergo h) (Nat.lt_of_lt_of_le hid (nextCall_le c h))
      (hp.undergo hc.manager hid h)

/-- A call that begins performs the operation that it was made for. -/
theorem performs_of_call (hc : c.NumbersCalls) (op : Operation)
    (hj : Job.operate op ≠ .connect) :
    (c.undergo (.act (.call (.operate op) hj))).Performs c.nextCall op := by
  intro call hl
  obtain rfl := Option.some.inj ((hc.lookup_call hj).symm.trans hl)
  exact ⟨rfl, .inl rfl⟩

/-- It does nothing else as long as there is such a call. -/
theorem Serving.performs_call (hc : c.Serving) (op : Operation) (hj : Job.operate op ≠ .connect)
    (hs : List Happening) :
    ((c.undergo (.act (.call (.operate op) hj))).later hs).Performs c.nextCall op :=
  (performs_of_call hc.numbers op hj).later (hc.undergo _) (Nat.lt_succ_self _) hs

/-- A call that has an operation of the manager performed and returns an error has changed nothing.
When it is made the manager stays as it is, and whenever its task runs, at any point of the run, the
manager is afterwards what it was before: the registry, the subscriptions with their parameters and
their items, the cursors, the pending acknowledgements, the counters and all else. Only the numbers
that the operation has taken for new items are not given out again. -/
theorem failed_operation_leaves_alone (hc : c.Begins) (hn : c.NumbersCalls) (op : Operation)
    (hj : Job.operate op ≠ .connect) (hs hs' : List Happening) {e : Error}
    (hfail : (c.later (hs ++ .act (.call (.operate op) hj) :: hs')).finished.lookup
      (c.later hs).nextCall = some (.operated (.error e))) :
    let id := (c.later hs).nextCall
    let made := hs ++ [.act (.call (.operate op) hj)]
    (c.later made).managed = (c.later hs).managed ∧
      ∀ p, p ++ [.act (.run (.call id))] <+: hs' → ∃ clientHandles,
        (c.later (made ++ p ++ [.act (.run (.call id))])).managed =
          { (c.later (made ++ p)).managed with clientHandles } := by
  have hstart := (hc.serving hn).later hs
  dsimp only
  rw [later_snoc]
  refine ⟨rfl, ?_⟩
  rintro p ⟨q, rfl⟩
  -- The client when the task runs, and what follows.
  have hserving := (hc.serving hn).later (hs ++ [.act (.call (.operate op) hj)] ++ p)
  have hperforms : (c.later (hs ++ [.act (.call (.operate op) hj)] ++ p)).Performs
      (c.later hs).nextCall op := by
    rw [later_append, later_snoc]
    exact hstart.performs_call op hj p
  rw [later_snoc]
  refine (hperforms.run hserving.manager).2.resolve_right ?_
  rintro ⟨r, hr⟩
  rw [← later_snoc] at hr
  have hend := ((hc.serving hn).later _).numbers.finished_later hr q
  rw [← later_append] at hend
  simp only [List.append_assoc, List.cons_append, List.nil_append] at hend hfail
  cases hend.symm.trans hfail

/-- The sample client asks for two items, and the answer has one result. -/
def sampleShortAnswer : List Happening :=
  [.act (.run (.call 2)), .act (.reply 2 (goodReply .createMonitoredItems [default])),
    .act (.run (.call 2))]

/-- The call fails when it takes the answer, and the one item that the server has created is not
added. -/
theorem failed_operation_leaves_alone_sample :
    let asks : Happening :=
      .act (.call (.operate (.createItems 0 [.value .null, .value .null])) nofun)
    let c := sample.later (sampleStart.map .act ++ [asks])
    sample.Begins ∧ sample.NumbersCalls ∧
      (c.later sampleShortAnswer).finished.lookup 2 = some (.operated
        (.error (.fault Service.createMonitoredItems.name .badUnknownResponse))) ∧
      c.managed = (sample.later (sampleStart.map .act)).managed ∧
      ∃ clientHandles, (c.later sampleShortAnswer).managed =
        { (c.later (sampleShortAnswer.take 2)).managed with clientHandles } := by
  have hn : sample.NumbersCalls := ⟨nofun, nofun⟩
  have h := failed_operation_leaves_alone sample_begins hn
    (.createItems 0 [.value .null, .value .null]) nofun (sampleStart.map .act) sampleShortAnswer
    (e := .fault Service.createMonitoredItems.name .badUnknownResponse) rfl
  exact ⟨sample_begins, hn, rfl, h.1, h.2 (sampleShortAnswer.take 2) (List.prefix_refl _)⟩

end Client

end OpcUa
