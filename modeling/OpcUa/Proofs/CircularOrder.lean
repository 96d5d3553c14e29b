import Mathlib.Data.Set.Function
import OpcUa.Proofs.SequenceCircle

/-!
# The order of sequence numbers

Numbers that are compared by subtraction are compared by the steps between them. The circle has an
odd number of points, so no two of them are opposite, and of two numbers one is always the nearer
one going forwards.

* `distance_add_distance`: there and back is a whole round.
* `isAfter_iff_iterate`, `evaluate_eq_gap_iff_iterate`: the order and the verdicts, in steps.
* `bijOn_next`, `bijOn_previous`, `invOn_previous_next`: the numbers in use are run through once.
* `ordered_by_steps`: all of it for two numbers in use.
-/

namespace OpcUa.SequenceNumber

/-- The numbers that messages carry. -/
def inUse : Set SequenceNumber := {n | n ≠ 0}

variable {a b e : SequenceNumber}

/-! ## Going round -/

theorem invOn_previous_next : Set.InvOn previous next inUse inUse :=
  ⟨fun _ h => previous_next h, fun _ h => next_previous h⟩

theorem bijOn_next : Set.BijOn next inUse inUse :=
  invOn_previous_next.bijOn (fun n _ => next_ne_zero n) fun n _ => previous_ne_zero n

theorem bijOn_previous : Set.BijOn previous inUse inUse :=
  invOn_previous_next.symm.bijOn (fun n _ => previous_ne_zero n) fun n _ => next_ne_zero n

/-! ## Steps and distances -/

/-- Below a whole round, the number of steps that lead to `a` is the distance. -/
theorem exists_iterate_iff (ha : a ≠ 0) (hb : b ≠ 0) {lo hi : Nat} (hhi : hi < circle) :
    (∃ k, lo ≤ k ∧ k ≤ hi ∧ next^[k] b = a) ↔ lo ≤ distance b a ∧ distance b a ≤ hi := by
  constructor
  · rintro ⟨k, hlo, hk, rfl⟩
    rw [distance_eq_of_iterate hb (Nat.lt_of_le_of_lt hk hhi)]
    exact ⟨hlo, hk⟩
  · rintro ⟨hlo, hk⟩
    exact ⟨distance b a, hlo, hk, iterate_next_distance ha hb⟩

theorem distance_pos (ha : a ≠ 0) (hb : b ≠ 0) (hab : a ≠ b) : 0 < distance b a :=
  Nat.pos_of_ne_zero fun h => hab ((distance_eq_zero_iff ha hb).1 h)

/-- There and back is a whole round. -/
theorem distance_add_distance (ha : a ≠ 0) (hb : b ≠ 0) (hab : a ≠ b) :
    distance b a + distance a b = circle := by
  have hpos := distance_pos ha hb hab
  have hlt := distance_lt b a
  -- Seen from `b`, the way back begins at step `distance b a` and ends at step 0.
  have hback : distance (next^[distance b a] b) (next^[0] b) = circle - distance b a := by
    rw [distance_iterate hb hlt (by omega), if_neg (by omega), Nat.sub_zero]
  rw [iterate_next_distance ha hb, Function.iterate_zero_apply] at hback
  omega

theorem distance_next_next (ha : a ≠ 0) (hb : b ≠ 0) :
    distance (next b) (next a) = distance b a := by
  have hn : next a = next^[distance b a] (next b) := by
    rw [← Function.iterate_succ_apply, Function.iterate_succ_apply', iterate_next_distance ha hb]
  rw [hn, distance_eq_of_iterate (next_ne_zero b) (distance_lt b a)]

/-! ## The order -/

theorem isAfter_iff_iterate (ha : a ≠ 0) (hb : b ≠ 0) :
    isAfter a b = true ↔ ∃ k, 1 ≤ k ∧ k ≤ 2 ^ 31 - 1 ∧ next^[k] b = a :=
  (isAfter_iff ha hb).trans (exists_iterate_iff ha hb (by decide)).symm

/-- A whole round is odd: the two distances cannot both be at most half of it, nor both be more. -/
theorem xor_isAfter (ha : a ≠ 0) (hb : b ≠ 0) (hab : a ≠ b) :
    Xor (isAfter a b = true) (isAfter b a = true) := by
  have hforth := distance_pos ha hb hab
  have hback := distance_pos hb ha hab.symm
  have hround := distance_add_distance ha hb hab
  rw [xor_iff_iff_not, isAfter_iff ha hb, isAfter_iff hb ha]
  unfold circle at hround
  omega

theorem isAfter_next_next (ha : a ≠ 0) (hb : b ≠ 0) :
    isAfter (next a) (next b) = isAfter a b := by
  rw [Bool.eq_iff_iff, isAfter_iff (next_ne_zero a) (next_ne_zero b), distance_next_next ha hb,
    isAfter_iff ha hb]

/-! ## Verdicts -/

/-- The steps are counted from the cursor, and the first of them leads to the expected number. -/
theorem evaluate_eq_gap_iff_iterate (ha : a ≠ 0) :
    evaluate (some b) a = .gap e ↔
      e = next b ∧ ∃ k, 2 ≤ k ∧ k ≤ 2 ^ 31 ∧ next^[k] b = a := by
  rw [evaluate_eq_gap_iff ha]
  refine and_congr_right fun he => ?_
  subst he
  rw [← exists_iterate_iff ha (next_ne_zero b) (by decide)]
  constructor
  · rintro ⟨k, hlo, hhi, hk⟩
    exact ⟨k + 1, by omega, by omega, hk⟩
  · rintro ⟨k, hlo, hhi, hk⟩
    obtain ⟨j, rfl⟩ := Nat.exists_eq_add_of_le' (show 1 ≤ k by omega)
    exact ⟨j, by omega, by omega, hk⟩

/-- The numbers in use are ordered by the steps between them. One is after the other if fewer than
`2 ^ 31` steps lead there, so of two different numbers exactly one is after the other, and the
order stays when both move on. The steps forwards and backwards run through all numbers in use and
undo each other. The number of a message reveals a gap if it is two to `2 ^ 31` steps after the
last one that was consumed. -/
theorem ordered_by_steps (ha : a ≠ 0) (hb : b ≠ 0) :
    (isAfter a b = true ↔ ∃ k, 1 ≤ k ∧ k ≤ 2 ^ 31 - 1 ∧ next^[k] b = a) ∧
      (a ≠ b → Xor (isAfter a b = true) (isAfter b a = true)) ∧
      isAfter (next a) (next b) = isAfter a b ∧
      (Set.BijOn next inUse inUse ∧ Set.BijOn previous inUse inUse ∧
        Set.InvOn previous next inUse inUse) ∧
      ∀ e, evaluate (some b) a = .gap e ↔
        e = next b ∧ ∃ k, 2 ≤ k ∧ k ≤ 2 ^ 31 ∧ next^[k] b = a :=
  ⟨isAfter_iff_iterate ha hb, xor_isAfter ha hb, isAfter_next_next ha hb,
    ⟨bijOn_next, bijOn_previous, invOn_previous_next⟩, fun _ => evaluate_eq_gap_iff_iterate ha⟩

/-- At `2 ^ 31` steps from the last number the order has turned, while the message still reveals a
gap. -/
theorem ordered_by_steps_sample :
    (0x80000000 : SequenceNumber) ≠ 0 ∧ last ≠ 0 ∧ next^[2 ^ 31] last = 0x80000000 ∧
      (¬ ∃ k, 1 ≤ k ∧ k ≤ 2 ^ 31 - 1 ∧ next^[k] last = 0x80000000) ∧
      isAfter last 0x80000000 = true ∧
      isAfter (next 0x80000000) (next last) = false ∧
      previous (next last) = last ∧
      evaluate (some last) 0x80000000 = .gap 1 := by
  have ha : (0x80000000 : SequenceNumber) ≠ 0 := by decide
  have hb : last ≠ 0 := by decide
  have hsteps : next^[2 ^ 31] last = 0x80000000 := eq_of_toNat (toNat_iterate_next hb (2 ^ 31))
  have hnot : isAfter 0x80000000 last = false := by decide
  obtain ⟨hafter, hone, hmove, ⟨-, -, hinv⟩, hgap⟩ := ordered_by_steps ha hb
  refine ⟨ha, hb, hsteps, ?_, ?_, hmove.trans hnot, hinv.1 hb, ?_⟩
  · rw [← hafter, hnot]
    exact Bool.false_ne_true
  · exact (hone (by decide)).or.resolve_left (by rw [hnot]; exact Bool.false_ne_true)
  · exact (hgap 1).2 ⟨rfl, 2 ^ 31, by decide, by decide, hsteps⟩

end OpcUa.SequenceNumber
