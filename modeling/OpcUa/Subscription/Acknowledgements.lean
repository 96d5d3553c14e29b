import OpcUa.Service.Notification

/-!
# Pending acknowledgements

The acknowledgements that the next Publish request will carry, in the order in which it lists them.

* `mem_add`: adding an acknowledgement that is pending changes nothing about what is pending.
* `mem_discard`: what is left when a subscription is deleted.
-/

namespace OpcUa

namespace Acknowledgement

theorem lt_iff {a b : Acknowledgement} :
    a.lt b = true ↔ a.subscription < b.subscription ∨
      a.subscription = b.subscription ∧ a.sequenceNumber < b.sequenceNumber := by
  simp [lt]

theorem lt_trans {a b c : Acknowledgement} (h₁ : a.lt b = true) (h₂ : b.lt c = true) :
    a.lt c = true := by
  rw [lt_iff] at *
  rcases h₁ with h₁ | ⟨e₁, h₁⟩ <;> rcases h₂ with h₂ | ⟨e₂, h₂⟩
  · exact .inl (UInt32.lt_trans h₁ h₂)
  · exact .inl (e₂ ▸ h₁)
  · exact .inl (e₁ ▸ h₂)
  · exact .inr ⟨e₁.trans e₂, UInt32.lt_trans h₁ h₂⟩

theorem lt_of_not_lt_of_ne {a b : Acknowledgement} (h : ¬ a.lt b = true) (hne : a ≠ b) :
    b.lt a = true := by
  rw [lt_iff] at *
  have h₁ : b.subscription ≤ a.subscription := UInt32.not_lt.1 fun hlt => h (.inl hlt)
  by_cases hs : b.subscription = a.subscription
  · refine .inr ⟨hs, UInt32.lt_of_le_of_ne (UInt32.not_lt.1 fun hlt => h (.inr ⟨hs.symm, hlt⟩)) ?_⟩
    intro hn
    apply hne
    cases a; cases b; simp_all
  · exact .inl (UInt32.lt_of_le_of_ne h₁ hs)

end Acknowledgement

structure Acknowledgements where
  pending : List Acknowledgement
  ascending : pending.Pairwise (fun a b => a.lt b = true)

namespace Acknowledgements

def empty : Acknowledgements := ⟨[], .nil⟩

instance : Inhabited Acknowledgements := ⟨empty⟩

def count (s : Acknowledgements) : Nat := s.pending.length

/-- The list with `a`, before all that come after it. -/
def place (a : Acknowledgement) : List Acknowledgement → List Acknowledgement
  | [] => [a]
  | b :: rest => if a.lt b then a :: b :: rest else if a = b then b :: rest else b :: place a rest

theorem mem_place {a x : Acknowledgement} {l : List Acknowledgement} :
    x ∈ place a l ↔ x = a ∨ x ∈ l := by
  induction l with
  | nil => simp [place]
  | cons b rest ih =>
    unfold place
    split
    · simp
    · split
      · rename_i h
        subst h
        simp
      · simp only [List.mem_cons, ih]
        exact or_left_comm

theorem place_ascending (a : Acknowledgement) {l : List Acknowledgement}
    (h : l.Pairwise (fun a b => a.lt b = true)) :
    (place a l).Pairwise (fun a b => a.lt b = true) := by
  induction l with
  | nil => simp [place]
  | cons b rest ih =>
    have ⟨hb, hr⟩ := List.pairwise_cons.1 h
    unfold place
    split
    · rename_i hab
      exact List.pairwise_cons.2 ⟨fun x hx => by
        rcases List.mem_cons.1 hx with rfl | hx
        · exact hab
        · exact Acknowledgement.lt_trans hab (hb x hx), h⟩
    · split
      · exact h
      · rename_i h1 h2
        refine List.pairwise_cons.2 ⟨fun x hx => ?_, ih hr⟩
        rcases mem_place.1 hx with rfl | hx
        · exact Acknowledgement.lt_of_not_lt_of_ne h1 h2
        · exact hb x hx

def add (a : Acknowledgement) (s : Acknowledgements) : Acknowledgements :=
  ⟨place a s.pending, place_ascending a s.ascending⟩

/-- Adds acknowledgements of messages of one subscription. -/
def addAll (subscription : SubscriptionId) (numbers : List SequenceNumber)
    (s : Acknowledgements) : Acknowledgements :=
  numbers.foldl (fun s n => s.add ⟨subscription, n⟩) s

/-- Drops the acknowledgements of a subscription. -/
def discard (subscription : SubscriptionId) (s : Acknowledgements) : Acknowledgements :=
  ⟨s.pending.filter (·.subscription != subscription), s.ascending.filter _⟩

@[simp] theorem mem_add {a x : Acknowledgement} {s : Acknowledgements} :
    x ∈ (s.add a).pending ↔ x = a ∨ x ∈ s.pending := mem_place

theorem mem_discard {x : Acknowledgement} {subscription : SubscriptionId}
    {s : Acknowledgements} :
    x ∈ (s.discard subscription).pending ↔ x ∈ s.pending ∧ x.subscription ≠ subscription := by
  simp [discard]

end Acknowledgements

end OpcUa
