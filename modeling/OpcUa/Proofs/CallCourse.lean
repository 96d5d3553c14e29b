import OpcUa.Proofs.SessionCallers

/-!
# Calls that wait

A call of the application goes on when its own task is run, and at no other time: whatever else
happens, it stays where it is, and what has become of other calls stays as well.

* `Client.Spares`: a call stays where it is.
* `Client.spares_undergo`: nothing but the call itself takes it further.
* `Client.NumbersCalls`: every call has a number, which no other call is given.
-/

namespace OpcUa

/-! ## Entries of a list -/

section

variable {α : Type} {l : List (CallId × α)} {id id' : CallId} {a : α}

theorem lookup_map_of_ne (h : id' ≠ id) (f : CallId × α → CallId × α)
    (hf : ∀ p, (f p).1 = p.1) (hid : ∀ p, p.1 ≠ id' → f p = p) :
    (l.map f).lookup id = l.lookup id := by
  induction l with
  | nil => rfl
  | cons p l ih =>
    rw [List.map_cons, List.lookup_cons, List.lookup_cons, hf, ih]
    by_cases hp : p.1 = id'
    · have hne : (id == p.1) = false := beq_false_of_ne fun e => h (hp.symm.trans e.symm)
      rw [hne]
    · rw [hid p hp]

theorem lookup_filter_of_ne (h : id' ≠ id) :
    (l.filter (·.1 != id')).lookup id = l.lookup id := by
  induction l with
  | nil => rfl
  | cons p l ih =>
    rw [List.filter_cons]
    by_cases hp : p.1 = id'
    · have hne : (id == p.1) = false := beq_false_of_ne fun e => h (hp.symm.trans e.symm)
      rw [if_neg (by simpa using hp), ih, List.lookup_cons, hne]
    · rw [if_pos (bne_iff_ne.2 hp), List.lookup_cons, List.lookup_cons, ih]

theorem lookup_map_self (g : α → α) :
    (l.map fun p => if p.1 = id then (id, g p.2) else p).lookup id = (l.lookup id).map g := by
  induction l with
  | nil => rfl
  | cons p l ih =>
    rw [List.map_cons, List.lookup_cons, List.lookup_cons, ih]
    by_cases hp : p.1 = id
    · rw [if_pos hp, hp, beq_self_eq_true]
      rfl
    · have hne : (id == p.1) = false := beq_false_of_ne (Ne.symm hp)
      rw [if_neg hp, hne]

theorem lookup_filter_self : (l.filter (·.1 != id)).lookup id = none := by
  rw [List.lookup_eq_none_iff]
  intro p hp
  exact bne_iff_ne.2 (Ne.symm (bne_iff_ne.1 (List.mem_filter.1 hp).2))

theorem lookup_append_of_ne (h : id ≠ id') (l : List (CallId × α)) (a : α) :
    (l ++ [(id', a)]).lookup id = l.lookup id := by
  rw [List.lookup_append, List.lookup_cons, beq_false_of_ne h]
  exact Option.or_none

end

namespace Client

variable {c c' c'' : Client} {id : CallId}

/-- From `c` to `c'` the call `id` stays where it is. -/
structure Spares (id : CallId) (c c' : Client) : Prop where
  calls : c'.calls.lookup id = c.calls.lookup id
  finished : c'.finished.lookup id = c.finished.lookup id

theorem Spares.of_eq (hc : c'.calls = c.calls) (hf : c'.finished = c.finished) :
    c.Spares id c' :=
  ⟨hc ▸ rfl, hf ▸ rfl⟩

theorem Spares.refl (id : CallId) (c : Client) : c.Spares id c := .of_eq rfl rfl

theorem Spares.trans (h : c.Spares id c') (h' : c'.Spares id c'') : c.Spares id c'' :=
  ⟨h'.calls.trans h.calls, h'.finished.trans h.finished⟩

/-- The calls were the same before. -/
theorem Spares.of_same (h : c'.Spares id c'') (hc : c'.calls = c.calls)
    (hf : c'.finished = c.finished) : c.Spares id c'' :=
  Spares.trans (.of_eq hc hf) h

/-! ## What calls do to each other -/

section

variable {id' : CallId} (h : id' ≠ id)

include h

theorem spares_setCall (stage : CallStage) (c : Client) : c.Spares id (c.setCall id' stage) := by
  refine ⟨?_, rfl⟩
  rw [setCall, lookup_map_of_ne h]
  · intro p
    split
    · rename_i hp
      exact hp.symm
    · rfl
  · exact fun p hp => if_neg hp

theorem spares_finish (result : CallResult) (c : Client) : c.Spares id (c.finish id' result) :=
  ⟨lookup_filter_of_ne h, by rw [finish, List.lookup_cons, beq_false_of_ne h.symm]⟩

theorem spares_startCall (j : JobCall) (c : Client) : c.Spares id (c.startCall id' j).1 := by
  have hs : c.Spares id { c with service := (c.service.start j.call).1 } := .of_eq rfl rfl
  unfold startCall
  dsimp only
  split
  · exact hs.trans (spares_finish h _ _)
  · exact hs.trans (spares_setCall h _ _)

theorem spares_advanceCall (j : JobCall) (phase : CallPhase) (c : Client) :
    c.Spares id (c.advanceCall id' j phase).1 := by
  have hs : c.Spares id { c with service := (c.service.advance j.call phase).1 } := .of_eq rfl rfl
  unfold advanceCall
  dsimp only
  split
  · exact hs.trans (spares_setCall h _ _)
  · exact hs.trans (spares_finish h _ _)

theorem spares_learn (job : Job) (news : SessionNews) (c : Client) :
    c.Spares id (c.learn id' job news) := by
  have hs : c.Spares id c.startManager := .of_eq rfl rfl
  unfold learn
  split
  · exact spares_setCall h _ _
  · split
    · exact hs.trans (spares_finish h _ _)
    · exact spares_finish h _ _
    · exact spares_finish h _ _

theorem spares_startSession (job : Job) (c : Client) : c.Spares id (c.startSession id' job) :=
  have hs : c.Spares id { c with service := c.service.ask.1 } := .of_eq rfl rfl
  hs.trans (spares_learn h job _ _)

theorem spares_resumeSession (job : Job) (w : SessionWait) (c : Client) :
    c.Spares id (c.resumeSession id' job w) :=
  have hs : c.Spares id { c with service := (c.service.resume w).1 } := .of_eq rfl rfl
  hs.trans (spares_learn h job _ _)

theorem spares_awaitClose (job : Job) (c : Client) : c.Spares id (c.awaitClose id' job) := by
  unfold awaitClose
  split
  · exact spares_setCall h _ _
  · split <;> exact spares_finish h _ _

theorem spares_startClose (job : Job) (c : Client) : c.Spares id (c.startClose id' job) :=
  have hs : c.Spares id
      (c.withService fun s => { s with driver := s.driver.enqueue (.close id') }) := .of_eq rfl rfl
  hs.trans (spares_awaitClose h job _)

theorem spares_startDisconnect (managed : Bool) (c : Client) :
    c.Spares id (c.startDisconnect id' managed) := by
  unfold startDisconnect
  dsimp only
  refine Spares.trans ?_ (spares_startClose h _ _)
  cases managed <;> exact .of_eq rfl rfl

theorem spares_startSending (s : Service) (handle : UInt32) (limit : Option Duration)
    (c : Client) : c.Spares id (c.startSending id' s handle limit).1 := by
  unfold startSending
  dsimp only
  exact (spares_setCall h _ _).of_same rfl rfl

theorem spares_advanceSending (s : Service) (await : Await) (c : Client) :
    c.Spares id (c.advanceSending id' s await) := by
  unfold advanceSending
  split
  · exact .refl id c
  · have hs : c.Spares id (c.withService (·.forget await)) := .of_eq rfl rfl
    exact hs.trans (spares_finish h _ _)

theorem spares_endOperation (op : PendingOperation) (outcome : Except Error op.service.Answer)
    (c : Client) : c.Spares id (c.endOperation id' op outcome) := by
  unfold endOperation
  split
  · exact .refl id c
  · dsimp only
    exact (spares_finish h _ _).of_same rfl rfl

theorem spares_startOperation (op : Operation) (c : Client) :
    c.Spares id (c.startOperation id' op).1 := by
  unfold startOperation
  split
  · exact .refl id c
  · split
    · exact (spares_finish h _ _).of_same rfl rfl
    · rename_i op' _
      dsimp only
      split
      · dsimp only
        exact (spares_endOperation h op' _ _).of_same rfl rfl
      · exact (spares_setCall h _ _).of_same rfl rfl

theorem spares_advanceOperation (op : PendingOperation) (phase : CallPhase) (c : Client) :
    c.Spares id (c.advanceOperation id' op phase).1 := by
  unfold advanceOperation
  split
  · exact .refl id c
  · dsimp only
    split
    · exact (spares_setCall h _ _).of_same rfl rfl
    · exact (spares_endOperation h _ _ _).of_same rfl rfl

theorem spares_startJob (job : Job) (c : Client) : c.Spares id (c.startJob id' job).1 := by
  unfold startJob
  split
  · exact spares_startCall h _ c
  · split
    · exact spares_startClose h .close c
    · exact spares_startDisconnect h _ c
    · exact spares_startSending h _ _ _ c
    · exact spares_startOperation h _ c
    · exact spares_startSession h _ c

theorem spares_pollCall (c : Client) : c.Spares id (c.pollCall id').1 := by
  unfold pollCall
  split
  · exact .refl id c
  · split
    · exact spares_startJob h _ c
    · exact spares_resumeSession h _ _ c
    · exact spares_awaitClose h _ c
    · split
      · exact spares_advanceCall h _ _ c
      · exact .refl id c
    · exact spares_advanceOperation h _ _ c
    · split
      · exact spares_advanceSending h _ _ c
      · exact .refl id c

end

theorem lookup_setCall {call : Call} (h : c.calls.lookup id = some call) (stage : CallStage) :
    (c.setCall id stage).calls.lookup id = some { call with stage } :=
  (lookup_map_self fun call : Call => { call with stage }).trans (by rw [h]; rfl)

/-! ## What a call does itself -/

theorem lookup_finish (id : CallId) (result : CallResult) (c : Client) :
    (c.finish id result).calls.lookup id = none ∧
      (c.finish id result).finished.lookup id = some result :=
  ⟨lookup_filter_self, List.lookup_cons_self⟩

/-- Who wants a session returns with what it has learnt. -/
theorem learn_done (id : CallId) (outcome : SessionOutcome) (c : Client) :
    c.learn id .session (.done outcome) =
      c.finish id (.session (outcome.mapError .session)) := by
  cases outcome <;> rfl

theorem undergo_of_none (h : c.calls.lookup id = none) :
    c.undergo (.act (.run (.call id))) = c := by
  change (c.pollCall id).1 = c
  rw [pollCall, h]

section

variable {job : Job}

theorem undergo_of_fresh (h : c.calls.lookup id = some ⟨job, .fresh⟩) :
    c.undergo (.act (.run (.call id))) = (c.startJob id job).1 := by
  change (c.pollCall id).1 = _
  rw [pollCall, h]

theorem undergo_of_session {w : SessionWait} (h : c.calls.lookup id = some ⟨job, .session w⟩) :
    c.undergo (.act (.run (.call id))) = c.resumeSession id job w := by
  change (c.pollCall id).1 = _
  rw [pollCall, h]

theorem undergo_of_closing (h : c.calls.lookup id = some ⟨job, .closing⟩) :
    c.undergo (.act (.run (.call id))) = c.awaitClose id job := by
  change (c.pollCall id).1 = _
  rw [pollCall, h]

end

/-- From `c` to `c'` the call `id` has ended, or nothing has. -/
def EndsOnly (id : CallId) (c c' : Client) : Prop :=
  c'.finished = c.finished ∨ c'.calls.lookup id = none

theorem endsOnly_finish (id : CallId) (result : CallResult) (c c' : Client) :
    c.EndsOnly id (c'.finish id result) :=
  .inr lookup_filter_self

theorem endsOnly_startCall (id : CallId) (j : JobCall) (c : Client) :
    c.EndsOnly id (c.startCall id j).1 := by
  unfold startCall
  dsimp only
  split
  · exact endsOnly_finish ..
  · exact .inl rfl

theorem endsOnly_advanceCall (id : CallId) (j : JobCall) (phase : CallPhase) (c : Client) :
    c.EndsOnly id (c.advanceCall id j phase).1 := by
  unfold advanceCall
  dsimp only
  split
  · exact .inl rfl
  · exact endsOnly_finish ..

theorem endsOnly_learn (id : CallId) (job : Job) (news : SessionNews) {c c' : Client}
    (h : c'.finished = c.finished) : c.EndsOnly id (c'.learn id job news) := by
  unfold learn
  split
  · exact .inl h
  · split <;> exact endsOnly_finish ..

theorem endsOnly_awaitClose (id : CallId) (job : Job) {c c' : Client}
    (h : c'.finished = c.finished) : c.EndsOnly id (c'.awaitClose id job) := by
  unfold awaitClose
  split
  · exact .inl h
  · split <;> exact endsOnly_finish ..

theorem endsOnly_startDisconnect (id : CallId) (managed : Bool) (c : Client) :
    c.EndsOnly id (c.startDisconnect id managed) := by
  unfold startDisconnect
  cases managed <;> exact endsOnly_awaitClose id _ rfl

theorem endsOnly_advanceSending (id : CallId) (s : Service) (await : Await) (c : Client) :
    c.EndsOnly id (c.advanceSending id s await) := by
  unfold advanceSending
  split
  · exact .inl rfl
  · exact endsOnly_finish ..

theorem endsOnly_endOperation (id : CallId) (op : PendingOperation)
    (outcome : Except Error op.service.Answer) {c c' : Client} (h : c'.finished = c.finished) :
    c.EndsOnly id (c'.endOperation id op outcome) := by
  unfold endOperation
  split
  · exact .inl h
  · exact endsOnly_finish ..

theorem endsOnly_startOperation (id : CallId) (op : Operation) (c : Client) :
    c.EndsOnly id (c.startOperation id op).1 := by
  unfold startOperation
  split
  · exact .inl rfl
  · split
    · exact endsOnly_finish ..
    · dsimp only
      split
      · exact endsOnly_endOperation id _ _ rfl
      · exact .inl rfl

theorem endsOnly_advanceOperation (id : CallId) (op : PendingOperation) (phase : CallPhase)
    (c : Client) : c.EndsOnly id (c.advanceOperation id op phase).1 := by
  unfold advanceOperation
  split
  · exact .inl rfl
  · dsimp only
    split
    · exact .inl rfl
    · exact endsOnly_endOperation id _ _ rfl

theorem endsOnly_startJob (id : CallId) (job : Job) (c : Client) :
    c.EndsOnly id (c.startJob id job).1 := by
  unfold startJob
  split
  · exact endsOnly_startCall ..
  · split
    · exact endsOnly_awaitClose id .close rfl
    · exact endsOnly_startDisconnect ..
    · exact .inl rfl
    · exact endsOnly_startOperation ..
    · exact endsOnly_learn id _ _ rfl

/-- A call that goes on ends itself or nothing. -/
theorem endsOnly_pollCall (id : CallId) (c : Client) : c.EndsOnly id (c.pollCall id).1 := by
  unfold pollCall
  split
  · exact .inl rfl
  · split
    · exact endsOnly_startJob ..
    · exact endsOnly_learn id _ _ rfl
    · exact endsOnly_awaitClose id _ rfl
    · split
      · exact endsOnly_advanceCall ..
      · exact .inl rfl
    · exact endsOnly_advanceOperation ..
    · split
      · exact endsOnly_advanceSending ..
      · exact .inl rfl

/-! ## What other tasks do to calls -/

theorem spares_suspendAttempt (id' : WorkId) (a : Attempt) (phase : CallPhase)
    (posted : Option Posted) (m : SubscriptionManager) (c : Client) :
    c.Spares id (c.suspendAttempt id' a phase posted m).1 := by
  unfold suspendAttempt
  split <;> exact .of_eq rfl rfl

theorem spares_pollAttempt (id' : WorkId) (answerFirst : Bool) (c : Client) :
    c.Spares id (c.pollAttempt id' answerFirst).1 := by
  unfold pollAttempt
  split
  · exact .refl id c
  · split
    · exact .refl id c
    · split
      · unfold startAttempt
        dsimp only
        split
        · split
          · exact .of_eq rfl rfl
          · exact (spares_suspendAttempt ..).of_same rfl rfl
        · exact .of_eq rfl rfl
      · unfold advanceAttempt
        dsimp only
        split
        · split
          · exact (spares_suspendAttempt ..).of_same rfl rfl
          · exact .of_eq rfl rfl
        · exact .of_eq rfl rfl
      · dsimp only
        split <;> exact .of_eq rfl rfl

theorem spares_readItems (id' : WorkId) (r : Recovery) (ks : List ItemKey) (c : Client) :
    c.Spares id (readItems id' r ks c).1 := by
  induction ks generalizing c with
  | nil => exact .of_eq rfl rfl
  | cons k rest ih =>
    unfold readItems
    split
    · exact .refl id c
    · split
      · dsimp only
        split
        · exact (ih _).of_same rfl rfl
        · exact .of_eq rfl rfl
      · exact .of_eq rfl rfl

theorem spares_fallBack (id' : WorkId) (r : Recovery) (c : Client) :
    c.Spares id (c.fallBack id' r).1 := by
  unfold fallBack
  split
  · exact .refl id c
  · split
    · exact (spares_readItems ..).of_same rfl rfl
    · exact .of_eq rfl rfl

theorem spares_republishFrom (id' : WorkId) (r : Recovery) (number : SequenceNumber)
    (c : Client) : c.Spares id (c.republishFrom id' r number).1 := by
  unfold republishFrom
  split
  · exact .refl id c
  · split
    · exact .of_eq rfl rfl
    · dsimp only
      split
      · exact (spares_fallBack ..).of_same rfl rfl
      · exact .of_eq rfl rfl

theorem spares_afterRepublish (id' : WorkId) (r : Recovery) (number : SequenceNumber)
    (outcome : Except Error NotificationMessage) (c : Client) :
    c.Spares id (c.afterRepublish id' r number outcome).1 := by
  unfold afterRepublish
  split
  · exact spares_fallBack id' r c
  · split
    · exact (spares_republishFrom ..).of_same rfl rfl
    · exact spares_fallBack id' r c

theorem spares_pollRecovery (id' : WorkId) (c : Client) : c.Spares id (c.pollRecovery id').1 := by
  unfold pollRecovery
  split
  · exact .refl id c
  · split
    · exact .refl id c
    · split
      · exact spares_republishFrom ..
      · dsimp only
        split
        · exact .of_eq rfl rfl
        · exact (spares_afterRepublish ..).of_same rfl rfl
      · dsimp only
        split
        · exact .of_eq rfl rfl
        · exact (spares_readItems ..).of_same rfl rfl

theorem spares_runCommands (c : Client) : c.Spares id (c.runCommands 1) := by
  unfold runCommands
  split
  · exact .refl id c
  · dsimp only [runCommands]
    split <;> exact .of_eq rfl rfl

theorem spares_pollSessionTask (id' : CallId) (c : Client) :
    c.Spares id (c.pollSessionTask id').1 := by
  unfold pollSessionTask
  split
  · exact .refl id c
  · dsimp only
    split <;> exact .of_eq rfl rfl

theorem spares_reclaim (c : Client) : c.Spares id c.reclaim := by
  unfold reclaim
  repeat' split
  all_goals first
    | exact .refl id c
    | (dsimp only; repeat' split
       all_goals exact .of_eq rfl rfl)

/-- Nothing but its own task takes a call further, unless the caller gives it up. A call that begins
has another number. -/
theorem spares_undergo {h : Happening} (hr : h ≠ .act (.run (.call id))) (hc : h ≠ .cancel id)
    (hn : ∀ job hj, h = .act (.call job hj) → id ≠ c.nextCall) : c.Spares id (c.undergo h) := by
  cases h with
  | cancel id' =>
    have hne : id' ≠ id := fun e => hc (by rw [e])
    exact ⟨lookup_filter_of_ne hne, rfl⟩
  | act a =>
    cases a with
    | call job hj => exact ⟨lookup_append_of_ne (hn job hj rfl) _ _, rfl⟩
    | run t =>
      cases t with
      | driver => exact spares_runCommands c
      | processing | delivery => exact .of_eq rfl rfl
      | session id' => exact spares_pollSessionTask id' c
      | call id' => exact spares_pollCall (fun e => hr (by rw [e])) c
      | attempt id' answerFirst => exact spares_pollAttempt id' answerFirst c
      | recovery id' => exact spares_pollRecovery id' c
    | reclaim => exact spares_reclaim c
    | release =>
      have hs : c.Spares id { c with released := true } := .of_eq rfl rfl
      exact hs.trans (spares_reclaim _)
    | reply | elapse | inject | invalidate | takeHandle | shutDown | listen | attach =>
      exact .of_eq rfl rfl

/-! ## The numbers of calls -/

theorem nextCall_le (c : Client) (h : Happening) : c.nextCall ≤ (c.undergo h).nextCall := by
  rcases consults_undergo (R := fun _ => True) h (fun _ _ => trivial) with
    hs | rfl | ⟨id, rfl⟩ | ⟨e, rfl⟩
  · refine SessionSide.of_stirs (P := fun τ => c.side.nextCall ≤ τ.nextCall) (fun hs h => ?_) hs
      (Nat.le_refl _)
    cases hs with
    | rests hn => exact Nat.le_trans h hn
    | asks | resumes | reports | closes | disconnects | leaves => exact h
  · change c.side.nextCall ≤ (c.runCommands 1).side.nextCall
    rw [side_runCommands]
    unfold SessionSide.turn
    dsimp only
    split
    · exact Nat.le_refl _
    · exact Nat.le_succ _
  · change c.nextCall ≤ (c.pollSessionTask id).1.nextCall
    unfold pollSessionTask
    split
    · exact Nat.le_refl _
    · dsimp only
      split <;> exact Nat.le_refl _
  · exact Nat.le_refl _

theorem nextCall_later_le (c : Client) (hs : List Happening) (h : Happening) :
    (c.later hs).nextCall ≤ (c.later (hs ++ [h])).nextCall := by
  rw [later_snoc]
  exact nextCall_le _ h

/-- A call that is over does not come up again. -/
theorem lookup_undergo_of_none (h : c.calls.lookup id = none) (hid : id < c.nextCall)
    (a : Happening) : (c.undergo a).calls.lookup id = none := by
  by_cases hrun : a = .act (.run (.call id))
  · rw [hrun, undergo_of_none h]
    exact h
  · by_cases hcancel : a = .cancel id
    · rw [hcancel]
      exact lookup_filter_self
    · exact (spares_undergo hrun hcancel fun _ _ _ => Nat.ne_of_lt hid).calls.trans h

/-- Every call has been given its number, and is either in progress or has ended. -/
structure NumbersCalls (c : Client) : Prop where
  calls : ∀ {id call}, c.calls.lookup id = some call → id < c.nextCall
  finished : ∀ {id result}, c.finished.lookup id = some result →
    id < c.nextCall ∧ c.calls.lookup id = none

theorem NumbersCalls.lookup_eq_none (hc : c.NumbersCalls) (hid : c.nextCall ≤ id) :
    c.calls.lookup id = none :=
  Option.eq_none_iff_forall_ne_some.2 fun _ hl => Nat.not_lt_of_le hid (hc.calls hl)

/-- A call begins with the next number. -/
theorem NumbersCalls.lookup_call (hc : c.NumbersCalls) {job : Job} (hj : job ≠ .connect) :
    (c.undergo (.act (.call job hj))).calls.lookup c.nextCall = some ⟨job, .fresh⟩ := by
  change (c.calls ++ [(c.nextCall, (⟨job, .fresh⟩ : Call))]).lookup c.nextCall = _
  rw [List.lookup_append, hc.lookup_eq_none (Nat.le_refl _), Option.none_or, List.lookup_cons_self]

theorem NumbersCalls.undergo (hc : c.NumbersCalls) (h : Happening) :
    (c.undergo h).NumbersCalls := by
  have hle := c.nextCall_le h
  -- a call with a number that was not given yet has not come up, or begins now
  have hnew {id : CallId} (hid : ¬ id < (c.undergo h).nextCall) :
      (c.undergo h).calls.lookup id = none ∧ (c.undergo h).finished.lookup id = none := by
    have hlt : ¬ id < c.nextCall := fun hlt => hid (Nat.lt_of_lt_of_le hlt hle)
    have hnone := hc.lookup_eq_none (Nat.le_of_not_lt hlt)
    have hunfinished : c.finished.lookup id = none :=
      Option.eq_none_iff_forall_ne_some.2 fun result h => hlt (hc.finished h).1
    by_cases hrun : h = .act (.run (.call id))
    · rw [hrun, undergo_of_none hnone]
      exact ⟨hnone, hunfinished⟩
    · by_cases hcancel : h = .cancel id
      · subst hcancel
        exact ⟨lookup_filter_self, hunfinished⟩
      · have hs : c.Spares id (c.undergo h) := by
          refine spares_undergo hrun hcancel ?_
          rintro job hj rfl rfl
          exact hid (Nat.lt_succ_self _)
        exact ⟨hs.calls.trans hnone, hs.finished.trans hunfinished⟩
  refine ⟨fun {id call} hl => ?_, fun {id result} hf => ?_⟩
  · by_contra hid
    exact nomatch (hnew hid).1.symm.trans hl
  · have hid : id < (c.undergo h).nextCall := by
      by_contra hid
      exact nomatch (hnew hid).2.symm.trans hf
    refine ⟨hid, ?_⟩
    by_cases hrun : h = .act (.run (.call id))
    · subst hrun
      rcases endsOnly_pollCall id c with he | he
      · exact lookup_undergo_of_none (hc.finished (he ▸ hf)).2 (hc.finished (he ▸ hf)).1 _
      · exact he
    · by_cases hcancel : h = .cancel id
      · rw [hcancel]
        exact lookup_filter_self
      · by_cases hb : id = c.nextCall ∧ ∃ job hj, h = .act (.call job hj)
        · obtain ⟨rfl, job, hj, rfl⟩ := hb
          exact absurd (hc.finished hf).1 (Nat.lt_irrefl _)
        · have hs : c.Spares id (c.undergo h) :=
            spares_undergo hrun hcancel fun job hj e hid => hb ⟨hid, job, hj, e⟩
          exact hs.calls.trans (hc.finished (hs.finished.symm.trans hf)).2

theorem NumbersCalls.later (hc : c.NumbersCalls) (hs : List Happening) :
    (c.later hs).NumbersCalls := by
  induction hs generalizing c with
  | nil => exact hc
  | cons h hs ih => exact ih (hc.undergo h)

theorem IsNew.numbersCalls (hc : c.IsNew) : c.NumbersCalls := by
  cases hc with
  | alone | managing => exact ⟨nofun, nofun⟩
  | connecting config channel =>
    refine ⟨fun {id call} h => ?_, nofun⟩
    have hid : id = 0 := congrArg Prod.fst (List.mem_singleton.1 (mem_of_lookup h))
    exact hid ▸ Nat.one_pos

/-- A call that there is has been given its number. -/
theorem IsNew.lt_nextCall (hc : c.IsNew) {hs : List Happening} {call : Call}
    (h : (c.later hs).calls.lookup id = some call) : id < (c.later hs).nextCall :=
  (hc.numbersCalls.later hs).calls h

/-- A call that has begun keeps its number to itself. -/
theorem spares_later {hs : List Happening} (hid : id < (c.later hs).nextCall)
    {h : Happening} (hr : h ≠ .act (.run (.call id))) (hcancel : h ≠ .cancel id) :
    (c.later hs).Spares id (c.later (hs ++ [h])) := by
  rw [later_snoc]
  exact spares_undergo hr hcancel fun _ _ _ => Nat.ne_of_lt hid

end Client

end OpcUa
