import Mathlib.Algebra.Group.Nat.Defs
import Mathlib.Logic.Function.Iterate
import OpcUa.Subscription.SequenceNumber

/-!
# The circle of sequence numbers

The numbers 1 to `2 ^ 32 - 1` as a circle, which `next` goes round. Numbers are compared by the
steps that lead from one to the other.

* `iterate_next_distance`: `distance b a` steps lead from `b` to `a`.
* `distance_iterate`: the steps between two numbers that are counted from a third.
* `isAfter_iff`: one number is after another if at most half of the circle leads there.
* `evaluate_eq_gap_iff`, `eq_next_of_distance`: the verdict on a number, by its distance.
* `walk`: consecutive numbers.
-/

namespace OpcUa.SequenceNumber

/-- How many numbers are in use. -/
def circle : Nat := 2 ^ 32 - 1

/-- How many steps lead from `b` to `a`. -/
def distance (b a : SequenceNumber) : Nat := (a.toNat + circle - b.toNat) % circle

theorem toNat_pos {n : SequenceNumber} (h : n ≠ 0) : 0 < n.toNat :=
  Nat.pos_of_ne_zero fun h0 => h (UInt32.toNat_inj.1 h0)

theorem toNat_le (n : SequenceNumber) : n.toNat ≤ circle := by
  have := n.toNat_lt
  unfold circle
  omega

theorem eq_of_toNat {a b : SequenceNumber} (h : a.toNat = b.toNat) : a = b := UInt32.toNat_inj.1 h

/-! ## Steps -/

theorem toNat_next (n : SequenceNumber) : (next n).toNat = n.toNat % circle + 1 := by
  unfold next
  split
  · rename_i h
    subst h
    rfl
  · rename_i h
    have hne : n.toNat ≠ circle := fun h0 => h (eq_of_toNat h0)
    have hle := toNat_le n
    rw [UInt32.toNat_add, Nat.mod_eq_of_lt (show n.toNat < circle by omega)]
    unfold circle at *
    exact Nat.mod_eq_of_lt (by rw [UInt32.toNat_one]; omega)

theorem iterate_next_ne_zero {n : SequenceNumber} (h : n ≠ 0) (k : Nat) : next^[k] n ≠ 0 := by
  cases k with
  | zero => exact h
  | succ k => rw [Function.iterate_succ_apply']; exact next_ne_zero _

theorem toNat_iterate_next {n : SequenceNumber} (h : n ≠ 0) (k : Nat) :
    (next^[k] n).toNat = (n.toNat - 1 + k) % circle + 1 := by
  have hpos := toNat_pos h
  have hle := toNat_le n
  induction k with
  | zero =>
    rw [Nat.add_zero, Nat.mod_eq_of_lt (by unfold circle at *; omega)]
    exact (Nat.sub_add_cancel hpos).symm
  | succ k ih =>
    rw [Function.iterate_succ_apply', toNat_next, ih, Nat.mod_add_mod]
    congr 2

theorem next_injective {a b : SequenceNumber} (ha : a ≠ 0) (hb : b ≠ 0) (h : next a = next b) :
    a = b := by
  rw [← previous_next ha, h, previous_next hb]

/-! ## Distances -/

theorem distance_lt (b a : SequenceNumber) : distance b a < circle :=
  Nat.mod_lt _ (by decide)

theorem distance_self (a : SequenceNumber) : distance a a = 0 := by
  unfold distance
  rw [Nat.add_sub_cancel_left, Nat.mod_self]

theorem iterate_next_distance {a b : SequenceNumber} (ha : a ≠ 0) (hb : b ≠ 0) :
    next^[distance b a] b = a := by
  apply eq_of_toNat
  have ha1 := toNat_pos ha
  have hb1 := toNat_pos hb
  have ha2 := toNat_le a
  have hb2 := toNat_le b
  rw [toNat_iterate_next hb, distance, Nat.add_mod_mod,
    show b.toNat - 1 + (a.toNat + circle - b.toNat) = a.toNat - 1 + circle by omega,
    Nat.add_mod_right, Nat.mod_eq_of_lt (by unfold circle at *; omega)]
  omega

theorem distance_iterate_next {b : SequenceNumber} (hb : b ≠ 0) (k : Nat) :
    distance b (next^[k] b) = k % circle := by
  have hb1 := toNat_pos hb
  have hb2 := toNat_le b
  have h := Nat.div_add_mod (b.toNat - 1 + k) circle
  have hlt := Nat.mod_lt (b.toNat - 1 + k) (show 0 < circle by decide)
  rw [distance, toNat_iterate_next hb]
  generalize (b.toNat - 1 + k) % circle = r at *
  generalize (b.toNat - 1 + k) / circle = q at *
  -- `r` and `b.toNat - 1 + k` differ by whole rounds.
  have e : r + 1 + circle - b.toNat + circle * q = k + circle := by omega
  rw [← Nat.add_mul_mod_self_left _ circle q, e, Nat.add_mod_right]

/-- The distance is the only number of steps below a whole round that leads there. -/
theorem distance_eq_of_iterate {b : SequenceNumber} (hb : b ≠ 0) {k : Nat} (hk : k < circle) :
    distance b (next^[k] b) = k := by
  rw [distance_iterate_next hb, Nat.mod_eq_of_lt hk]

theorem distance_eq_zero_iff {a b : SequenceNumber} (ha : a ≠ 0) (hb : b ≠ 0) :
    distance b a = 0 ↔ a = b := by
  constructor
  · intro h
    have := iterate_next_distance ha hb
    rw [h] at this
    exact this.symm
  · rintro rfl
    exact distance_self a

/-- A whole round leads back. -/
theorem iterate_next_circle {x : SequenceNumber} (hx : x ≠ 0) : next^[circle] x = x := by
  refine (distance_eq_zero_iff (iterate_next_ne_zero hx _) hx).1 ?_
  rw [distance_iterate_next hx, Nat.mod_self]

/-- One step more leads to the number after. -/
theorem distance_next {a b : SequenceNumber} (ha : a ≠ 0) (hb : b ≠ 0)
    (h : distance b a + 1 < circle) : distance b (next a) = distance b a + 1 := by
  have hn : next a = next^[distance b a + 1] b := by
    rw [Function.iterate_succ_apply', iterate_next_distance ha hb]
  rw [hn, distance_eq_of_iterate hb h]

/-- Coming from the number before takes one step more. -/
theorem distance_eq_succ {a b : SequenceNumber} (ha : a ≠ 0) (hb : b ≠ 0) (hab : a ≠ b) :
    distance b a = distance (next b) a + 1 := by
  have hlt := distance_lt (next b) a
  have hn := iterate_next_distance ha (next_ne_zero b)
  have hne : distance (next b) a + 1 ≠ circle := by
    intro h
    have hround := iterate_next_circle hb
    rw [← h, Function.iterate_succ_apply, hn] at hround
    exact hab hround
  have hs : a = next^[distance (next b) a + 1] b := by rw [Function.iterate_succ_apply, hn]
  have hlt' : distance (next b) a + 1 < circle := by omega
  rw [← distance_eq_of_iterate hb hlt', ← hs]

/-- From one number to another, at most a whole round away. -/
theorem distance_iterate {x : SequenceNumber} {i j : Nat} (hx : x ≠ 0) (hi : i < circle)
    (hj : j < circle) :
    distance (next^[i] x) (next^[j] x) = if i ≤ j then j - i else circle - (i - j) := by
  have hi0 := iterate_next_ne_zero hx i
  split
  · rename_i h
    have hn : next^[j] x = next^[j - i] (next^[i] x) := by
      rw [← Function.iterate_add_apply, Nat.sub_add_cancel h]
    rw [hn, distance_eq_of_iterate hi0 (by omega)]
  · rename_i h
    have hn : next^[j] x = next^[circle - (i - j)] (next^[i] x) := by
      rw [← Function.iterate_add_apply, show circle - (i - j) + i = j + circle by omega,
        Function.iterate_add_apply, iterate_next_circle hx]
    rw [hn, distance_eq_of_iterate hi0 (by omega)]

theorem iterate_next_injective {x : SequenceNumber} {i j : Nat} (hx : x ≠ 0) (hi : i < circle)
    (hj : j < circle) (h : next^[i] x = next^[j] x) : i = j := by
  rw [← distance_eq_of_iterate hx hi, h, distance_eq_of_iterate hx hj]

/-! ## The order -/

theorem isAfter_iff {a b : SequenceNumber} (ha : a ≠ 0) (hb : b ≠ 0) :
    isAfter a b = true ↔ 1 ≤ distance b a ∧ distance b a ≤ 2 ^ 31 - 1 := by
  have ha1 := toNat_pos ha
  have hb1 := toNat_pos hb
  have ha2 := toNat_le a
  have hb2 := toNat_le b
  have hh : halfRange.toNat = 2 ^ 31 - 1 := by decide
  unfold isAfter distance
  simp only [Bool.or_eq_true, Bool.and_eq_true, decide_eq_true_eq, GT.gt, UInt32.lt_iff_toNat_lt,
    UInt32.le_iff_toNat_le, hh]
  rcases Nat.lt_trichotomy b.toNat a.toNat with h | h | h
  · rw [UInt32.toNat_sub_of_le _ _ (UInt32.le_iff_toNat_le.2 (Nat.le_of_lt h)),
      show a.toNat + circle - b.toNat = a.toNat - b.toNat + circle by omega, Nat.add_mod_right,
      Nat.mod_eq_of_lt (by unfold circle at *; omega)]
    omega
  · rw [h, Nat.add_sub_cancel_left, Nat.mod_self]
    omega
  · rw [UInt32.toNat_sub_of_le _ _ (UInt32.le_iff_toNat_le.2 (Nat.le_of_lt h)),
      Nat.mod_eq_of_lt (by omega)]
    unfold circle at *
    omega

theorem isAfter_next {x : SequenceNumber} (hx : x ≠ 0) : isAfter (next x) x = true := by
  have h : distance x (next x) = 1 := distance_eq_of_iterate (k := 1) hx (by decide)
  rw [isAfter_iff (next_ne_zero x) hx, h]
  exact ⟨Nat.le_refl 1, by decide⟩

theorem not_isAfter_self (a : SequenceNumber) : isAfter a a = false := by
  simp [isAfter, UInt32.lt_irrefl]

/-! ## Verdicts -/

/-- A message reveals a gap if its number is ahead of the expected one. -/
theorem evaluate_eq_gap_iff {x n e : SequenceNumber} (hn : n ≠ 0) :
    evaluate (some x) n = .gap e ↔
      e = next x ∧ 1 ≤ distance e n ∧ distance e n ≤ 2 ^ 31 - 1 := by
  unfold evaluate
  dsimp only
  constructor
  · intro h
    split at h
    · rename_i hc
      injection h with h
      subst h
      exact ⟨rfl, (isAfter_iff hn (next_ne_zero x)).1 hc.2⟩
    · cases h
  · rintro ⟨rfl, h1, h2⟩
    have hne : n ≠ next x := fun h => by rw [h, distance_self] at h1; omega
    rw [if_pos ⟨hne, (isAfter_iff hn (next_ne_zero x)).2 ⟨h1, h2⟩⟩]

theorem evaluate_eq_gap {cursor : Option SequenceNumber} {n e : SequenceNumber}
    (h : evaluate cursor n = .gap e) : ∃ x, cursor = some x ∧ e = next x := by
  unfold evaluate at h
  split at h
  · cases h
  · rename_i x
    dsimp only at h
    split at h
    · injection h with h
      exact ⟨x, rfl, h.symm⟩
    · cases h

/-- Of the messages ahead, at most half of the circle away, only the next one is taken. -/
theorem eq_next_of_distance {x n : SequenceNumber} (hx : x ≠ 0) (hn : n ≠ 0)
    (h : evaluate (some x) n = .accept) (h1 : 1 ≤ distance x n) (h2 : distance x n ≤ 2 ^ 31) :
    n = next x := by
  by_contra hne
  have hxn : n ≠ x := fun e => by rw [e, distance_self] at h1; omega
  have hd := distance_eq_succ hn hx hxn
  have hpos : distance (next x) n ≠ 0 := fun h0 =>
    hne ((distance_eq_zero_iff hn (next_ne_zero x)).1 h0)
  have hg := (evaluate_eq_gap_iff hn (x := x) (e := next x)).2 ⟨rfl, by omega, by omega⟩
  rw [h] at hg
  cases hg

/-- A message that may be taken is the expected one, or it is not ahead of the cursor. -/
theorem eq_next_or_not_isAfter {x n : SequenceNumber} (hx : x ≠ 0) (hn : n ≠ 0)
    (h : evaluate (some x) n = .accept) : n = next x ∨ isAfter n x = false := by
  cases ha : isAfter n x with
  | false => exact .inr rfl
  | true =>
    obtain ⟨h1, h2⟩ := (isAfter_iff hn hx).1 ha
    exact .inl (eq_next_of_distance hx hn h h1 (by omega))

/-- The number before one that may be taken is not ahead of the cursor. -/
theorem not_isAfter_previous {x n : SequenceNumber} (hx : x ≠ 0) (hn : n ≠ 0)
    (h : evaluate (some x) n = .accept) : isAfter (previous n) x = false := by
  have hp := previous_ne_zero n
  by_cases hpx : previous n = x
  · rw [hpx]
    exact not_isAfter_self x
  rw [Bool.eq_false_iff, Ne, isAfter_iff hp hx]
  rintro ⟨h1, h2⟩
  have hd := distance_next hp hx (by unfold circle; omega)
  rw [next_previous hn] at hd
  have hxn : n ≠ x := fun h0 => by rw [h0, distance_self] at hd; omega
  have hs := distance_eq_succ hn hx hxn
  have hg := (evaluate_eq_gap_iff hn (x := x) (e := next x)).2 ⟨rfl, by omega, by omega⟩
  rw [h] at hg
  cases hg

/-- Once the cursor is just before it, a message may be taken. -/
theorem evaluate_previous {n : SequenceNumber} (hn : n ≠ 0) :
    evaluate (some (previous n)) n = .accept := by
  simp [evaluate, next_previous hn]

/-! ## Consecutive numbers -/

/-- `k` consecutive numbers, the first one `n`. -/
def walk (n : SequenceNumber) : Nat → List SequenceNumber
  | 0 => []
  | k + 1 => n :: walk (next n) k

@[simp] theorem walk_zero (n : SequenceNumber) : walk n 0 = [] := rfl

theorem walk_succ (n : SequenceNumber) (k : Nat) : walk n (k + 1) = n :: walk (next n) k := rfl

theorem walk_succ_last (n : SequenceNumber) (k : Nat) :
    walk n (k + 1) = walk n k ++ [next^[k] n] := by
  induction k generalizing n with
  | zero => rfl
  | succ k ih => rw [walk_succ, ih, walk_succ, List.cons_append, Function.iterate_succ_apply]

theorem walk_append (n : SequenceNumber) (j k : Nat) :
    walk n (j + k) = walk n j ++ walk (next^[j] n) k := by
  induction k with
  | zero => exact (List.append_nil _).symm
  | succ k ih =>
    rw [← Nat.add_assoc, walk_succ_last, ih, walk_succ_last, List.append_assoc,
      Nat.add_comm j k, Function.iterate_add_apply]

@[simp] theorem length_walk (n : SequenceNumber) (k : Nat) : (walk n k).length = k := by
  induction k generalizing n with
  | zero => rfl
  | succ k ih => rw [walk_succ, List.length_cons, ih]

theorem mem_walk {a n : SequenceNumber} {k : Nat} :
    a ∈ walk n k ↔ ∃ i, i < k ∧ a = next^[i] n := by
  induction k with
  | zero => exact ⟨nofun, fun ⟨i, hi, _⟩ => absurd hi (Nat.not_lt_zero i)⟩
  | succ k ih =>
    rw [walk_succ_last, List.mem_append, List.mem_singleton, ih]
    constructor
    · rintro (⟨i, hi, rfl⟩ | rfl)
      · exact ⟨i, Nat.lt_succ_of_lt hi, rfl⟩
      · exact ⟨k, Nat.lt_succ_self k, rfl⟩
    · rintro ⟨i, hi, rfl⟩
      rcases Nat.lt_succ_iff_lt_or_eq.1 hi with hi | rfl
      · exact .inl ⟨i, hi, rfl⟩
      · exact .inr rfl

end OpcUa.SequenceNumber
