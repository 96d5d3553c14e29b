import OpcUa.Proofs.Reissue

/-!
# What is left of a deleted subscription

A subscription may be deleted while responses of it wait to be evaluated, while it is recovered, and
while its messages wait to be delivered. Its cursor and its acknowledgements go at once. What comes
later is looked at anew when it is taken up, and changes nothing that is kept.

* `SubscriptionManager.SameRecords`: a step changes nothing that is kept of subscriptions and items.
* `SubscriptionManager.process_of_not_registered`, `SubscriptionManager.dispatch_of_not_registered`:
  a late response, and a late message.
* `Client.Ready.same_records_of_recovery`: a recovery, up to its end.
* `Client.keeps_only_registered`: there is a cursor or an acknowledgement only for a subscription
  that is registered.
-/

namespace OpcUa

namespace SubscriptionManager

variable {m : SubscriptionManager} {s : SubscriptionId}

/-- From `m` to `m'` nothing changes that is kept of subscriptions and items. -/
structure SameRecords (m m' : SubscriptionManager) : Prop where
  registry : m'.registry = m.registry
  cursors : m'.cursors = m.cursors
  acknowledgements : m'.acknowledgements = m.acknowledgements
  subscriptions : m'.subscriptions = m.subscriptions
  items : m'.items = m.items
  journal : m'.journal = m.journal

/-- A response of a subscription that is not registered is dropped. -/
theorem process_of_not_registered {a : PublishAnswer}
    (h : m.registry.contains a.subscription = false) : m.process a = m :=
  if_neg (Bool.eq_false_iff.1 h)

/-- A message of a subscription that is not registered reaches nobody. -/
theorem dispatch_of_not_registered (h : m.registry.contains s = false)
    (message : NotificationMessage) : m.dispatch s message = m := by
  have hnone : m.registry.find? s = none := Option.not_isSome_iff_eq_none.1 (Bool.eq_false_iff.1 h)
  unfold dispatch
  rw [hnone]

/-- The end of a recovery sets the cursor of its subscription only if that is registered. -/
theorem cursors_endRecovery {r : Recovery} (h : m.registry.contains r.subscription = false)
    (id : WorkId) : (m.endRecovery id r).cursors = m.cursors := by
  unfold endRecovery
  rw [h, Bool.and_false, if_neg Bool.false_ne_true]

end SubscriptionManager

namespace Client

open SubscriptionManager

variable {c : Client} {a : PublishAnswer} {s : SubscriptionId} {w : WorkId}

/-- The turn that takes a response of a subscription that is not registered does nothing else. -/
theorem Ready.takes_of_not_registered (h : c.Ready)
    (hs : c.managed.registry.contains a.subscription = false)
    {v : Option SequenceNumber.Verdict} (hv : .evaluates a v ∈ c.events (.run .processing)) :
    v = none ∧ (c.act (.run .processing)).1.managed =
      { c.managed with processing := c.managed.processing.turn.2 } := by
  obtain ⟨-, ⟨yields, ht⟩, rfl⟩ := of_evaluates_mem hv
  refine ⟨if_neg (Bool.eq_false_iff.1 hs), ?_⟩
  rcases e : c.managed.processing.turn with ⟨t, q⟩
  rw [e] at ht
  subst ht
  rw [managed_processTurn h.manager, processTurn, e]
  exact process_of_not_registered (m := { c.managed with processing := q }) hs

/-- A recovery of a subscription that is not registered goes on and ends, but writes nothing
down. -/
theorem Ready.same_records_of_recovery (h : c.Ready) {r : Recovery}
    (hr : c.managed.recovery? w = some r)
    (hs : c.managed.registry.contains r.subscription = false) :
    c.managed.SameRecords (c.act (.run (.recovery w))).1.managed := by
  have hrun := recounts_pollRecovery h.manager hr
  obtain ⟨stats, hf⟩ := foldl_perform_eq r.subscription (c.recoveryLog w) c.managed
  rcases hrun.course with ⟨stage, -, hm⟩ | ⟨-, hm⟩
  · have hm' : (c.act (.run (.recovery w))).1.managed = _ := managed_of_eq hm
    rw [hm', hf]
    exact ⟨rfl, rfl, rfl, rfl, rfl, rfl⟩
  · have hm' : (c.act (.run (.recovery w))).1.managed = _ := managed_of_eq hm
    rw [hm', hf, endRecovery_eq, cursors_endRecovery (by exact hs)]
    exact ⟨rfl, rfl, rfl, rfl, rfl, rfl⟩

/-- At every point of a run, a subscription that has a cursor or a pending acknowledgement is
registered. A subscription that is not registered leaves nothing behind: a response of it is taken
from the queue and dropped, a recovery of it writes nothing down, not even when it ends, and a
message of it reaches nobody. -/
theorem keeps_only_registered (hc : c.Begins) (as : List Action) :
    (∀ s n, (c.after as).managed.lastSequenceNumber? s = some n → (c.after as).Registers s) ∧
      (∀ ack ∈ (c.after as).managed.acknowledgements.pending,
        (c.after as).Registers ack.subscription) ∧
      ∀ s, ¬ (c.after as).Registers s →
        (∀ a v, a.subscription = s → .evaluates a v ∈ (c.after as).events (.run .processing) →
          v = none ∧ (c.after (as ++ [.run .processing])).managed =
            { (c.after as).managed with processing := (c.after as).managed.processing.turn.2 }) ∧
        (∀ w r, (c.after as).managed.recovery? w = some r → r.subscription = s →
          (c.after as).managed.SameRecords (c.after (as ++ [.run (.recovery w)])).managed) ∧
        ∀ message, (c.after as).managed.dispatch s message = (c.after as).managed := by
  have hready := hc.ready.after as
  have hcleared := hc.cleared as
  refine ⟨fun s n hn => ?_, fun ack hack => ?_, fun s hs => ?_⟩
  · by_contra hs
    rw [lastSequenceNumber?, (hcleared s (Bool.eq_false_iff.2 hs)).1] at hn
    cases hn
  · by_contra hs
    exact (hcleared _ (Bool.eq_false_iff.2 hs)).2 ack hack rfl
  · have hs' := Bool.eq_false_iff.2 hs
    refine ⟨?_, ?_, fun message => dispatch_of_not_registered hs' message⟩
    · rintro a v rfl hv
      rw [after_snoc]
      exact hready.takes_of_not_registered hs' hv
    · rintro w r hr rfl
      rw [after_snoc]
      exact hready.same_records_of_recovery hr hs'

/-! ## A sample -/

section

open Simulation

/-- The subscription is deleted while it is recovered. -/
def sampleOrphaned : List Action :=
  sampleRun ++ operating 2 7 (.delete 0) (goodReply .deleteSubscriptions [.good])

/-- Then the recovery ends, and the response that it has put back is dropped. -/
theorem keeps_only_registered_orphaned :
    let c := sample.after sampleOrphaned
    sample.Begins ∧ ¬ c.Registers 7 ∧
      c.managed.SameRecords (sample.after (sampleOrphaned ++ [.run (.recovery 3)])).managed ∧
      (c.after [.run (.recovery 3)]).managed.recoveries.isEmpty = true ∧
      (c.after [.run (.recovery 3)]).managed.processing.tasks.length = 1 ∧
      (c.after [.run (.recovery 3), .run .processing]).managed.processing.tasks.isEmpty = true ∧
      (c.after [.run (.recovery 3), .run .processing]).managed.lastSequenceNumber? 7 = none := by
  have hgone : ¬ (sample.after sampleOrphaned).Registers 7 := by decide +kernel
  obtain ⟨r, hr, hs⟩ : ∃ r, (sample.after sampleOrphaned).managed.recovery? 3 = some r ∧
      r.subscription = 7 := Option.map_eq_some_iff.1 (by decide +kernel)
  have h := keeps_only_registered sample_begins sampleOrphaned
  exact ⟨sample_begins, hgone, (h.2.2 7 hgone).2.1 3 r hr hs, by decide +kernel, by decide +kernel,
    by decide +kernel, by decide +kernel⟩

end

end Client

end OpcUa
