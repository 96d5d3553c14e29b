import OpcUa.Proofs.DeletedItems
import OpcUa.Proofs.HandleAccount

/-!
# Items that are removed

A call that deletes items returns the statuses of the answer as they are. An item leaves the table
of its subscription if its own status says that the server has deleted it or does not know it.
Unlike a call that creates items, it does not count the statuses: items beyond the last one stay,
and statuses beyond the last item are returned but say nothing.

* `Client.removed_items_correspond`: what an answer does to the items that were given.
* `Client.removed_items_short_answer`: an answer that leaves an item out.
-/

namespace OpcUa

namespace SubscriptionManager

variable {m : SubscriptionManager} {k k' : SubscriptionKey} {h : ClientHandle} {i : ItemKey}

theorem pending_of_begin_deleteItems {items : List ItemKey} {clock : Nat} {op : PendingOperation}
    (h : (m.begin (.deleteItems k items) clock).2 = .pending op) : op = .deleteItems k items := by
  unfold SubscriptionManager.begin at h
  dsimp only at h
  split at h
  · cases h
  · split at h
    · cases h
    · cases h
      rfl

/-- The items and the statuses that go together. -/
theorem mem_zip_iff {items : List ItemKey} {results : List StatusCode} {j : ItemKey}
    {status : StatusCode} : (j, status) ∈ items.zip results ↔
      ∃ n : Nat, items[n]? = some j ∧ results[n]? = some status :=
  List.mem_iff_getElem?.trans (exists_congr fun _ => List.getElem?_zip_eq_some)

variable {items : List ItemKey} {results : List StatusCode}

/-- An item leaves the table if its handle is that of an item whose status says so. -/
theorem files_removeItems_zip_iff :
    (m.removeItems k (items.zip results)).Files k' h i ↔ m.Files k' h i ∧ ¬ (k' = k ∧
      ∃ (n : Nat) (j : ItemKey) (status : StatusCode), items[n]? = some j ∧
        results[n]? = some status ∧ removes status = true ∧
        (m.item? j).map (·.handle) = some h) := by
  refine files_removeItems_iff.trans
    (and_congr_right fun _ => not_congr (and_congr_right fun _ => ⟨?_, ?_⟩))
  · rintro ⟨⟨j, status⟩, hx, hr, hj⟩
    obtain ⟨n, hitem, hresult⟩ := mem_zip_iff.1 hx
    exact ⟨n, j, status, hitem, hresult, hr, hj⟩
  · rintro ⟨n, j, status, hitem, hresult, hr, hj⟩
    exact ⟨(j, status), mem_zip_iff.2 ⟨n, hitem, hresult⟩, hr, hj⟩

/-- If no two items have the same handle, then it leaves the table only if its own status says
so. -/
theorem files_removeItems_zip_iff_of_nodup (hf : m.Filed)
    (hd : (m.items.map (·.handle)).Nodup) :
    (m.removeItems k (items.zip results)).Files k' h i ↔ m.Files k' h i ∧ ¬ (k' = k ∧
      ∃ (n : Nat) (status : StatusCode), items[n]? = some i ∧
        results[n]? = some status ∧ removes status = true) := by
  rw [files_removeItems_zip_iff]
  refine and_congr_right fun hi => not_congr (and_congr_right fun _ => exists_congr fun n => ?_)
  obtain ⟨item, hitem, rfl⟩ := hf.item hi
  constructor
  · rintro ⟨j, status, hn, hresult, hr, hj⟩
    have hhandle : (m.items.map (·.handle))[i]? = (m.items.map (·.handle))[j]? := by
      rw [List.getElem?_map, List.getElem?_map]
      exact (congrArg (Option.map _) hitem).trans hj.symm
    have hlt : i < (m.items.map (·.handle)).length := by
      rw [List.length_map]
      exact (List.getElem?_eq_some_iff.1 hitem).1
    obtain rfl := (List.getElem?_inj hlt hd).1 hhandle
    exact ⟨status, hn, hresult, hr⟩
  · rintro ⟨status, hn, hresult, hr⟩
    exact ⟨i, status, hn, hresult, hr, congrArg (Option.map _) hitem⟩

end SubscriptionManager

namespace Client

open SubscriptionManager

variable {c : Client}

/-- What the answer does to a call that deletes items, in any run, with calls of all kinds under way
at the same time. The call returns the statuses of the answer, whatever their number. An item of its
subscription leaves the table if it is among those that were given and its status says that the
server has deleted it or does not know it, and so does an item that has the handle of one of these.
As long as the handles that were given out have not gone round, no two items have the same. Nothing
but the table changes, and if the exchange fails, nothing does. -/
theorem removed_items_correspond (hc : c.Begins) (hn : c.NumbersCalls) (hi : c.Idle)
    (hs : List Happening) {id : CallId} {k : SubscriptionKey} {items : List ItemKey}
    {op : PendingOperation} {session : Session} {await : Await}
    {outcome : Except Error (List StatusCode)}
    (hl : (c.later hs).calls.lookup id =
      some ⟨.operate (.deleteItems k items), .operating op (.exchange session await)⟩)
    (ho : (c.later hs).service.outcome? .deleteMonitoredItems await = some outcome) :
    let c' := (c.later hs).undergo (.act (.run (.call id)))
    let m := (c.later hs).managed
    c'.finished.lookup id = some (.operated (outcome.map .statuses)) ∧
      (∀ e, outcome = .error e → c'.managed = m) ∧
      ∀ results, outcome = .ok results →
        (∃ subscriptions, c'.managed = { m with subscriptions }) ∧
        (∀ k' h i, c'.managed.Files k' h i ↔ m.Files k' h i ∧ ¬ (k' = k ∧
          ∃ (n : Nat) (j : ItemKey) (status : StatusCode), items[n]? = some j ∧
            results[n]? = some status ∧ removes status = true ∧
            (m.item? j).map (·.handle) = some h)) ∧
        ((c.gather issuing hs).length < UInt32.size → ∀ k' h i,
          c'.managed.Files k' h i ↔ m.Files k' h i ∧ ¬ (k' = k ∧
            ∃ (n : Nat) (status : StatusCode), items[n]? = some i ∧
              results[n]? = some status ∧ removes status = true)) := by
  have hserves := (hc.serving hn).later hs
  obtain ⟨o, m, clock, hjob, hbegin⟩ := (hc.corresponds hn hi hs hl).job
  cases hjob
  obtain rfl := pending_of_begin_deleteItems hbegin
  obtain ⟨clock', hends⟩ := undergo_of_outcome hserves.manager hl ho
  cases outcome with
  | error e =>
    obtain ⟨hm, hf⟩ := hends rfl
    refine ⟨hf, fun _ _ => hm, ?_⟩
    rintro results ⟨⟩
  | ok results =>
    obtain ⟨hm, hf⟩ := hends rfl
    refine ⟨hf, by rintro e ⟨⟩, ?_⟩
    rintro results ⟨⟩
    rw [hm]
    refine ⟨exists_removeItems_eq k _ _, fun k' h i => ?_, fun hlt k' h i => ?_⟩
    · exact files_removeItems_zip_iff
    · exact files_removeItems_zip_iff_of_nodup (hc.filed_later hn hs)
        ((hc.accounts hn hi hs).nodup_items hlt)

section

open Simulation

/-- The sample client has two items and deletes both. The answer has one status, and the call is
about to run. -/
def sampleShortDeletion : List Happening :=
  (operating 0 0 (.create ⟨100.0, 30, 10, 0, true, 0⟩)
      (goodReply .createSubscription ⟨7, ⟨100.0, 30, 10⟩⟩) ++
    operating 1 1 (.createItems 0 [.value .null, .value .null])
      (goodReply .createMonitoredItems [default, default]) ++
    (operating 2 2 (.deleteItems 0 [0, 1])
      (goodReply .deleteMonitoredItems [.good])).dropLast).map .act

/-- Only the first item leaves the table. -/
theorem removed_items_correspond_sample :
    let c := sample.later sampleShortDeletion
    let c' := c.undergo (.act (.run (.call 2)))
    sample.Begins ∧ sample.NumbersCalls ∧ sample.Idle ∧
      c'.finished.lookup 2 = some (.operated (.ok (.statuses [.good]))) ∧
      ∀ k' h i, c'.managed.Files k' h i ↔ c.managed.Files k' h i ∧ ¬ (k' = 0 ∧
        ∃ (n : Nat) (status : StatusCode), [0, 1][n]? = some i ∧
          [StatusCode.good][n]? = some status ∧ removes status = true) := by
  have hn : sample.NumbersCalls := ⟨nofun, nofun⟩
  have hi : sample.Idle := fun _ => operates_of_none rfl
  have hlt : (sample.gather issuing sampleShortDeletion).length < UInt32.size := by decide +kernel
  obtain ⟨op, session, await, hl, ho⟩ : ∃ op session await,
      (sample.later sampleShortDeletion).calls.lookup 2 =
        some ⟨.operate (.deleteItems 0 [0, 1]), .operating op (.exchange session await)⟩ ∧
      (sample.later sampleShortDeletion).service.outcome? .deleteMonitoredItems await =
        some (.ok [.good]) := ⟨_, _, _, rfl, rfl⟩
  obtain ⟨hf, -, hok⟩ := removed_items_correspond sample_begins hn hi sampleShortDeletion hl ho
  obtain ⟨-, -, hfiles⟩ := hok _ rfl
  exact ⟨sample_begins, hn, hi, hf, hfiles hlt⟩

/-- The call returns one status for two items, and has removed one of them. A call that creates
items fails if the results are not as many as its requests, and adds none. -/
theorem removed_items_short_answer :
    let c := sample.later sampleShortDeletion
    let c' := c.undergo (.act (.run (.call 2)))
    (c.calls.lookup 2).map (·.job) = some (.operate (.deleteItems 0 [0, 1])) ∧
      c.managed.Files 0 1 0 ∧ c.managed.Files 0 2 1 ∧
      c'.finished.lookup 2 = some (.operated (.ok (.statuses [.good]))) ∧
      ¬ c'.managed.Files 0 1 0 ∧ c'.managed.Files 0 2 1 := by
  intro c c'
  have hremoved : ¬ c'.managed.Files 0 1 0 := by
    rintro ⟨s, hs, hfind⟩
    cases hs
    cases hfind
  exact ⟨rfl, ⟨_, rfl, rfl⟩, ⟨_, rfl, rfl⟩, rfl, hremoved, ⟨_, rfl, rfl⟩⟩

end

end Client

end OpcUa
