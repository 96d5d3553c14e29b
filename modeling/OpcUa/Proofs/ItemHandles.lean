import Mathlib.Data.List.Nodup
import OpcUa.Proofs.CallCourse

/-!
# The handles of items

Handles come in turn: 1 to 4294967295, and then 1 again. The items of a call are given theirs when
the call begins, and the operation keeps them as long as it waits.

* `Handles.nth`, `Handles.takeMany_fst`: the handles in their order.
* `Handles.nodup_takeMany`: fewer than 2^32 handles in a row are distinct.
* `Client.Operates`, `Client.operates_later`: what holds of an operation when it begins holds as
  long as it waits.
* `Client.DistinctHandles`: the items that a call waits for have distinct handles.
-/

namespace OpcUa

namespace Handles

/-- The handle that comes after `n` others. -/
def nth (n : Nat) : UInt32 := UInt32.ofNat (n % 4294967295 + 1)

theorem toNat_nth (n : Nat) : (nth n).toNat = n % 4294967295 + 1 := by
  rw [nth, UInt32.toNat_ofNat']
  omega

theorem take_snd (h : Handles) : h.take.2 = ⟨h.take.1 + 1⟩ := by
  unfold take
  split <;> rfl

theorem exists_take_eq_nth (h : Handles) : ∃ n, h.take.1 = nth n := by
  have hpos : h.take.1.toNat ≠ 0 := fun e => h.take_fst_ne_zero (UInt32.toNat_inj.1 e)
  have hlt := h.take.1.toNat_lt
  refine ⟨h.take.1.toNat - 1, UInt32.toNat_inj.1 ?_⟩
  rw [toNat_nth]
  omega

theorem take_take {h : Handles} {n : Nat} (hn : h.take.1 = nth n) :
    h.take.2.take.1 = nth (n + 1) := by
  have hnext : (nth n + 1).toNat = (n % 4294967295 + 2) % 4294967296 := by
    rw [UInt32.toNat_add, toNat_nth]
    rfl
  rw [take_snd, hn, take]
  apply UInt32.toNat_inj.1
  split
  · rename_i hzero
    have hzero : (nth n + 1).toNat = 0 := congrArg UInt32.toNat hzero
    rw [toNat_nth]
    show 1 = _
    omega
  · rename_i hzero
    have hzero : (nth n + 1).toNat ≠ 0 := fun e => hzero (UInt32.toNat_inj.1 e)
    rw [toNat_nth]
    show (nth n + 1).toNat = _
    omega

theorem takeMany_fst {h : Handles} {s : Nat} (hs : h.take.1 = nth s) (n : Nat) :
    (takeMany n h).1 = (List.range' s n).map nth := by
  induction n generalizing h s with
  | zero => rfl
  | succ n ih =>
    rw [List.range'_succ, List.map_cons, ← hs, ← ih (take_take hs)]
    rfl

theorem nodup_takeMany {n : Nat} (hn : n < UInt32.size) (h : Handles) :
    (takeMany n h).1.Nodup := by
  obtain ⟨s, hs⟩ := h.exists_take_eq_nth
  rw [takeMany_fst hs]
  refine (List.nodup_range' ..).map_on fun a ha b hb e => ?_
  have he := congrArg UInt32.toNat e
  rw [toNat_nth, toNat_nth] at he
  rw [List.mem_range'_1] at ha hb
  have : UInt32.size = 4294967296 := rfl
  omega

end Handles

/-- The items that the operation is to add have distinct handles, if they are fewer than 2^32. -/
def PendingOperation.Distinct : PendingOperation → Prop
  | createItems _ requests => requests.length < UInt32.size → (requests.map (·.1)).Nodup
  | create .. | modify .. | delete _ | setPublishing .. | deleteItems .. => True

namespace SubscriptionManager

theorem length_takeMany (n : Nat) (h : Handles) : (Handles.takeMany n h).1.length = n := by
  obtain ⟨s, hs⟩ := h.exists_take_eq_nth
  rw [Handles.takeMany_fst hs, List.length_map, List.length_range']

theorem distinct_of_begin {m : SubscriptionManager} {op : Operation} {clock : Nat}
    {op' : PendingOperation} (e : (m.begin op clock).2 = .pending op') : op'.Distinct := by
  have hstart {check : Except Error Unit} {p : PendingOperation} (hp : p.Distinct)
      (e : startIf check p = .pending op') : op'.Distinct := by
    unfold startIf at e
    split at e
    · cases e
      exact hp
    · cases e
  cases op with
  | create | createWithInterval | modify | modifyInterval | delete | setPublishing =>
    refine hstart ?_ e
    exact trivial
  | createItems k requests =>
    unfold SubscriptionManager.begin at e
    dsimp only at e
    split at e
    · cases e
    · split at e
      · cases e
      · cases e
        intro hlt
        have hlen := length_takeMany requests.length m.clientHandles
        rw [List.length_zip, hlen, Nat.min_self] at hlt
        rw [List.map_fst_zip (Nat.le_of_eq hlen)]
        exact Handles.nodup_takeMany hlt _
  | deleteItems k items =>
    unfold SubscriptionManager.begin at e
    dsimp only at e
    repeat' split at e
    all_goals cases e
    trivial

end SubscriptionManager

namespace Client

variable {P : PendingOperation → Prop} {id : CallId} {c c' : Client}

/-! ## Operations that wait -/

/-- If the call `id` waits for an operation, then `P` holds of it. -/
structure Operates (P : PendingOperation → Prop) (id : CallId) (c : Client) : Prop where
  holds : ∀ {job op phase}, c.calls.lookup id = some ⟨job, .operating op phase⟩ → P op

theorem Operates.of_lookup (h : c.Operates P id)
    (e : c'.calls.lookup id = c.calls.lookup id) : c'.Operates P id :=
  ⟨fun hl => h.holds (e ▸ hl)⟩

theorem operates_of_none (h : c.calls.lookup id = none) : c.Operates P id := by
  refine ⟨fun hl => ?_⟩
  cases h.symm.trans hl

theorem operates_setCall {stage : CallStage} (hs : ∀ op phase, stage = .operating op phase → P op)
    (c : Client) : (c.setCall id stage).Operates P id := by
  refine ⟨fun {job op phase} hl => ?_⟩
  have hl := (lookup_map_self fun call : Call => { call with stage }).symm.trans hl
  obtain ⟨call, -, hcall⟩ := Option.map_eq_some_iff.1 hl
  exact hs op phase (congrArg Call.stage hcall)

theorem operates_finish (result : CallResult) (c : Client) : (c.finish id result).Operates P id :=
  operates_of_none lookup_filter_self

theorem operates_startCall (j : JobCall) (c : Client) : (c.startCall id j).1.Operates P id := by
  unfold startCall
  dsimp only
  split
  · exact operates_finish ..
  · exact operates_setCall (fun _ _ hs => by cases hs) _

theorem operates_advanceCall (j : JobCall) (phase : CallPhase) (c : Client) :
    (c.advanceCall id j phase).1.Operates P id := by
  unfold advanceCall
  dsimp only
  split
  · exact operates_setCall (fun _ _ hs => by cases hs) _
  · exact operates_finish ..

theorem operates_learn (job : Job) (news : SessionNews) (c : Client) :
    (c.learn id job news).Operates P id := by
  unfold learn
  split
  · exact operates_setCall (fun _ _ hs => by cases hs) _
  · split <;> exact operates_finish ..

theorem operates_awaitClose (job : Job) (c : Client) : (c.awaitClose id job).Operates P id := by
  unfold awaitClose
  split
  · exact operates_setCall (fun _ _ hs => by cases hs) _
  · split <;> exact operates_finish ..

theorem operates_startClose (job : Job) (c : Client) : (c.startClose id job).Operates P id := by
  unfold startClose
  exact operates_awaitClose ..

theorem operates_startDisconnect (managed : Bool) (c : Client) :
    (c.startDisconnect id managed).Operates P id := by
  unfold startDisconnect
  exact operates_startClose ..

theorem Operates.advanceSending (h : c.Operates P id) (s : Service) (await : Await) :
    (c.advanceSending id s await).Operates P id := by
  unfold Client.advanceSending
  split
  · exact h
  · exact operates_finish ..

theorem Operates.endOperation (h : c.Operates P id) (op : PendingOperation)
    (outcome : Except Error op.service.Answer) : (c.endOperation id op outcome).Operates P id := by
  unfold Client.endOperation
  split
  · exact h
  · exact operates_finish ..

theorem Operates.startOperation (hP : ∀ {m op clock op'},
      (SubscriptionManager.begin op clock m).2 = .pending op' → P op')
    (h : c.Operates P id) (op : Operation) : (c.startOperation id op).1.Operates P id := by
  unfold Client.startOperation
  split
  · exact h
  · split
    · exact operates_finish ..
    · rename_i op' e
      dsimp only
      split
      · dsimp only
        refine Operates.endOperation ?_ op' _
        exact h.of_lookup rfl
      · refine operates_setCall (fun op phase hs => ?_) _
        cases hs
        exact hP (congrArg Prod.snd e)

theorem Operates.advanceOperation (h : c.Operates P id) {op : PendingOperation} (hop : P op)
    (phase : CallPhase) : (c.advanceOperation id op phase).1.Operates P id := by
  unfold Client.advanceOperation
  split
  · exact h
  · dsimp only
    split
    · refine operates_setCall (fun op phase hs => ?_) _
      cases hs
      exact hop
    · refine Operates.endOperation ?_ op _
      exact h.of_lookup rfl

section

variable (hP : ∀ {m op clock op'}, (SubscriptionManager.begin op clock m).2 = .pending op' → P op')
include hP

theorem Operates.startJob (h : c.Operates P id) (job : Job) :
    (c.startJob id job).1.Operates P id := by
  unfold Client.startJob
  split
  · exact operates_startCall ..
  · split
    · exact operates_startClose .close c
    · exact operates_startDisconnect _ c
    · exact operates_setCall (fun _ _ hs => by cases hs) _
    · exact h.startOperation hP _
    · exact operates_learn ..

theorem Operates.pollCall (h : c.Operates P id) : (c.pollCall id).1.Operates P id := by
  unfold Client.pollCall
  split
  · exact h
  · rename_i job stage e
    split
    · exact h.startJob hP job
    · exact operates_learn ..
    · exact operates_awaitClose ..
    · split
      · exact operates_advanceCall ..
      · exact h
    · exact h.advanceOperation (h.holds e) _
    · split
      · exact h.advanceSending _ _
      · exact h

/-- What holds of every operation that begins holds of every one that waits. Only its own task takes
a call further, and that puts no operation in the place of another. -/
theorem operates_undergo (hc : ∀ id, c.Operates P id) (h : Happening) (id : CallId) :
    (c.undergo h).Operates P id := by
  by_cases hrun : h = .act (.run (.call id))
  · subst hrun
    exact (hc id).pollCall hP
  · by_cases hcancel : h = .cancel id
    · subst hcancel
      exact operates_of_none lookup_filter_self
    · by_cases hnew : id = c.nextCall ∧ ∃ job hj, h = .act (.call job hj)
      · obtain ⟨rfl, job, hj, rfl⟩ := hnew
        refine ⟨fun {job' op phase} hl => ?_⟩
        have hl : (c.calls ++ [(c.nextCall, (⟨job, .fresh⟩ : Call))]).lookup c.nextCall = _ := hl
        rw [List.lookup_append] at hl
        cases hcall : c.calls.lookup c.nextCall with
        | none =>
          rw [hcall, Option.none_or, List.lookup_cons_self] at hl
          cases hl
        | some call =>
          rw [hcall, Option.some_or] at hl
          exact (hc _).holds (hcall.trans hl)
      · have hs : c.Spares id (c.undergo h) :=
          spares_undergo hrun hcancel fun job hj e hid => hnew ⟨hid, job, hj, e⟩
        exact (hc id).of_lookup hs.calls

theorem operates_later (hc : ∀ id, c.Operates P id) (hs : List Happening) (id : CallId) :
    (c.later hs).Operates P id := by
  induction hs generalizing c with
  | nil => exact hc id
  | cons h hs ih => exact ih (operates_undergo hP hc h)

end

/-! ## Distinct handles -/

/-- The items that a call waits for have distinct handles. -/
def DistinctHandles (c : Client) : Prop := ∀ id, c.Operates PendingOperation.Distinct id

theorem distinctHandles_of_calls_eq_nil (h : c.calls = []) : c.DistinctHandles :=
  fun _ => operates_of_none (h ▸ rfl)

theorem DistinctHandles.after (hc : c.DistinctHandles) (as : List Action) :
    (c.after as).DistinctHandles := by
  obtain ⟨hs, hrun⟩ := exists_later_eq_after as c
  rw [← hrun]
  exact operates_later SubscriptionManager.distinct_of_begin hc hs

end Client

end OpcUa
