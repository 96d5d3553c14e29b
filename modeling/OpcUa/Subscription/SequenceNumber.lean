import OpcUa.Service.Notification

/-!
# Sequence numbers

The numbers 1 to `2 ^ 32 - 1` in a circle. One number is after another if it is the nearer one
going forwards.

* `next_previous`, `previous_next`: the two steps undo each other on the numbers in use.
* `evaluate`: whether a message may be taken now or messages before it are missing.
-/

namespace OpcUa.SequenceNumber

/-- The largest number; 1 follows it. -/
def last : SequenceNumber := 0xFFFFFFFF

def next (n : SequenceNumber) : SequenceNumber := if n = last then 1 else n + 1

def previous (n : SequenceNumber) : SequenceNumber := if n ≤ 1 then last else n - 1

/-- Half of the circle, rounded down. -/
def halfRange : UInt32 := last / 2

/-- Whether `a` comes after `b`, at most half of the circle away. -/
def isAfter (a b : SequenceNumber) : Bool :=
  (a > b && a - b ≤ halfRange) || (a < b && b - a > halfRange)

/-- What a message's number says about the messages before it. -/
inductive Verdict where
  | accept
  /-- The messages from `expected` on are missing. -/
  | gap (expected : SequenceNumber)
  deriving DecidableEq

/-- Judges the number of a message against the last one that was consumed. -/
def evaluate (cursor : Option SequenceNumber) (n : SequenceNumber) : Verdict :=
  match cursor with
  | none => .accept
  | some consumed =>
    let expected := next consumed
    if n ≠ expected ∧ isAfter n expected then .gap expected else .accept

theorem next_ne_zero (n : SequenceNumber) : next n ≠ 0 := by
  unfold next last
  split
  · decide
  · rename_i h
    intro h0
    apply h
    have h1 : n = 0 - 1 := by rw [← h0]; simp
    rw [h1]; rfl

theorem previous_ne_zero (n : SequenceNumber) : previous n ≠ 0 := by
  unfold previous last
  split
  · decide
  · rename_i h
    intro h0
    apply h
    have h1 : n = 0 + 1 := by rw [← h0]; simp
    rw [h1]; decide

theorem previous_next {n : SequenceNumber} (h : n ≠ 0) : previous (next n) = n := by
  unfold next
  split
  · rename_i hn; rw [hn]; decide
  · rename_i hn
    have hne : n + 1 ≠ 0 := by
      have := next_ne_zero n
      simpa [next, hn] using this
    have h1 : ¬ (n + 1 ≤ 1) := by
      intro hle
      rcases Nat.le_one_iff_eq_zero_or_eq_one.1 (UInt32.le_iff_toNat_le.1 hle) with h2 | h2
      · exact hne (UInt32.toNat_inj.1 h2)
      · have h3 : n + 1 = 1 := UInt32.toNat_inj.1 h2
        exact h (by rw [← UInt32.add_sub_cancel n 1, h3]; decide)
    simp [previous, h1]

theorem next_previous {n : SequenceNumber} (h : n ≠ 0) : next (previous n) = n := by
  unfold previous
  split
  · rename_i hn
    rcases Nat.le_one_iff_eq_zero_or_eq_one.1 (UInt32.le_iff_toNat_le.1 hn) with h2 | h2
    · exact absurd (UInt32.toNat_inj.1 h2) h
    · have h3 : n = 1 := UInt32.toNat_inj.1 h2
      rw [h3]; decide
  · rename_i hn
    have h1 : n - 1 ≠ last := by
      intro he
      apply h
      have h4 : n = last + 1 := by rw [← he]; simp
      rw [h4]; decide
    simp [next, h1]

end OpcUa.SequenceNumber
