import Mathlib.Algebra.Group.Nat.Defs
import OpcUa.Session.State
import OpcUa.Subscription.Basic

/-!
# The numbers that are durations

The server sends times as doubles that count milliseconds. One becomes a duration when its quotient
by 1000, which is rounded, is less than `2 ^ 64`. This file says for which doubles that is so, by
way of their words: the words of the doubles that are not negative are in the order of the doubles.

* `Duration.ofSeconds?_eq_none_iff`: the words of the numbers of seconds that are no durations.
* `Rounding.roundWithAccuracy_eq`: rounding shortens a mantissa, and then adds one at most.
* `Rounding.le_thousandth_iff`: when the quotient of a double by 1000 is at least `2 ^ 64`.
* `Duration.tooLong`: the least number of milliseconds that is no duration.
* `Session.timeout?_eq_none_iff`, `Subscription.publishingDuration?_eq_none_iff`: the timeouts and
  the publishing intervals that are none.
-/

namespace OpcUa

namespace Decimal

theorem divEven_one (num : Nat) : divEven num 1 = num := by
  unfold divEven
  dsimp only
  rw [Nat.div_one, Nat.mod_one]
  exact if_pos (.inl (by decide))

theorem divEven_le (num den : Nat) : divEven num den ≤ num / den + 1 := by
  unfold divEven
  dsimp only
  split <;> omega

end Decimal

namespace Duration

theorem ofNanos?_eq_none_iff {n : Nat} :
    ofNanos? n = none ↔ UInt64.size * perSecond ≤ n := by
  unfold ofNanos?
  split
  · simp only [reduceCtorEq, false_iff]
    omega
  · simp only [true_iff]
    omega

/-- Less than `2 ^ 64` seconds. -/
theorem nearestNanos_lt {m : Nat} {q : Int} (hm : m < 2 ^ 53) (hq : q ≤ 11) :
    nearestNanos m q < UInt64.size * perSecond := by
  have hbound : 2 ^ 53 * perSecond * 2 ^ 11 = UInt64.size * perSecond := by decide
  have hm' : m * perSecond < 2 ^ 53 * perSecond := Nat.mul_lt_mul_of_pos_right hm (by decide)
  unfold nearestNanos
  rw [Nat.shiftLeft_eq, Nat.one_shiftLeft]
  rcases Int.le_total 0 q with h | h
  · have hden : (-q).toNat = 0 := by omega
    have hnum : 2 ^ q.toNat ≤ 2 ^ 11 := Nat.pow_le_pow_right (by decide) (by omega)
    have hle : m * perSecond * 2 ^ q.toNat ≤ m * perSecond * 2 ^ 11 := Nat.mul_le_mul_left _ hnum
    rw [hden, Nat.pow_zero, Decimal.divEven_one]
    omega
  · have hnum : q.toNat = 0 := by omega
    have hle := Decimal.divEven_le (m * perSecond * 2 ^ 0) (2 ^ (-q).toNat)
    have hdiv : m * perSecond * 2 ^ 0 / 2 ^ (-q).toNat ≤ m * perSecond * 2 ^ 0 :=
      Nat.div_le_self ..
    rw [hnum]
    omega

/-- At least `2 ^ 64` seconds. -/
theorem le_nearestNanos {m : Nat} {q : Int} (hm : 2 ^ 52 ≤ m) (hq : 12 ≤ q) :
    UInt64.size * perSecond ≤ nearestNanos m q := by
  have hbound : 2 ^ 52 * perSecond * 2 ^ 12 = UInt64.size * perSecond := by decide
  have hden : (-q).toNat = 0 := by omega
  unfold nearestNanos
  rw [Nat.shiftLeft_eq, Nat.one_shiftLeft, hden, Nat.pow_zero, Decimal.divEven_one, ← hbound]
  exact Nat.mul_le_mul (Nat.mul_le_mul_right _ hm) (Nat.pow_le_pow_right (by decide) (by omega))

/-- A double that is not negative is no duration of that many seconds if its word is that of
`2 ^ 64` or a greater one. -/
theorem ofSeconds?_eq_none_iff {x : Float} (hx : x.toBits.toNat < 2 ^ 63) :
    ofSeconds? x = none ↔ 1087 * 2 ^ 52 ≤ x.toBits.toNat := by
  unfold ofSeconds? Decimal.Binary.ofFloat
  generalize x.toBits.toNat = bits at hx ⊢
  unfold Decimal.Binary.decode
  simp only [Decimal.Format.double, Nat.one_shiftLeft, Nat.shiftRight_eq_div_pow]
  have hneg : (bits / 2 ^ (52 + 11) % 2 == 1) = false := by
    rw [Nat.div_eq_of_lt (by omega)]
    rfl
  have hexp : bits / 2 ^ 52 % 2 ^ 11 = bits / 2 ^ 52 := by omega
  have hfrac : bits % 2 ^ 52 < 2 ^ 52 := Nat.mod_lt _ (by decide)
  have hlowest : (1 : Int) - Decimal.Format.bias ⟨52, 11⟩ - (52 : Nat) = -1074 := by decide
  rw [hneg, hexp, hlowest]
  by_cases hinf : bits / 2 ^ 52 + 1 = 2 ^ 11
  · have hlarge : 1087 * 2 ^ 52 ≤ bits := by omega
    rw [if_pos hinf]
    split
    · rename_i m q narrow e
      split at e <;> cases e
    · exact iff_of_true rfl hlarge
  · rw [if_neg hinf]
    by_cases hsub : bits / 2 ^ 52 = 0
    · have hsmall : ¬ 1087 * 2 ^ 52 ≤ bits := by omega
      rw [if_pos hsub]
      dsimp only
      rw [if_neg (by nofun), ofNanos?_eq_none_iff]
      exact iff_of_false (Nat.not_le.2 (nearestNanos_lt (by omega) (by decide))) hsmall
    · rw [if_neg hsub]
      dsimp only
      rw [if_neg (by nofun), ofNanos?_eq_none_iff]
      rcases Nat.lt_or_ge bits (1087 * 2 ^ 52) with h | h
      · exact iff_of_false (Nat.not_le.2 (nearestNanos_lt (by omega) (by omega)))
          (Nat.not_le.2 h)
      · exact iff_of_true (le_nearestNanos (by omega) (by omega)) h

end Duration

namespace Rounding

open Float.Model (Format)
open Float.Model.UnpackedFloat

/-! ## Words

The word of `2 ^ 64` is `1087 * 2 ^ 52`. -/

theorem toNat_packComponents (exponent : BitVec 11) (mantissa : BitVec 52) :
    (packComponents .binary64 .positive exponent mantissa).toNat =
      exponent.toNat * 2 ^ 52 + mantissa.toNat := by
  change (0#1 ++ exponent ++ mantissa).toNat = _
  rw [BitVec.toNat_append, BitVec.toNat_append, Nat.shiftLeft_eq, Nat.shiftLeft_eq]
  change ((0 * 2 ^ 11 ||| exponent.toNat) * 2 ^ 52) ||| mantissa.toNat = _
  rw [Nat.zero_mul, Nat.zero_or, ← Nat.shiftLeft_eq, Nat.shiftLeft_add_eq_or_of_lt mantissa.isLt]

theorem toNat_packComponents_lt (exponent : BitVec 11) (mantissa : BitVec 52) :
    (packComponents .binary64 .positive exponent mantissa).toNat < 2 ^ 63 := by
  have he := exponent.isLt
  have hm := mantissa.isLt
  rw [toNat_packComponents]
  omega

section

variable {m : Nat} {e : Int} {hm : 0 < m}

theorem toNat_pack_lt_pow : (pack .binary64 (.finite .positive m e hm)).toNat < 2 ^ 63 := by
  unfold pack
  dsimp only
  split
  · exact toNat_packComponents_lt ..
  · split <;> exact toNat_packComponents_lt ..

theorem toNat_pack_lt (he : e ≤ 11) :
    (pack .binary64 (.finite .positive m e hm)).toNat < 1087 * 2 ^ 52 := by
  have hfit : ¬ 2 ^ 11 ≤ (e + ((2 ^ (11 - 1) - 1 : Nat) : Int) + (52 : Nat)).toNat + 1 := by omega
  have hword (exponent : BitVec 11) (he : exponent.toNat ≤ 1086) :
      (packComponents .binary64 .positive exponent (.ofNat 52 m)).toNat < 1087 * 2 ^ 52 := by
    have hmantissa := (BitVec.ofNat 52 m).isLt
    rw [toNat_packComponents]
    omega
  unfold pack
  dsimp only [Format.exponentBias]
  rw [if_neg hfit]
  split
  · refine hword _ ?_
    rw [BitVec.toNat_ofNat]
    exact Nat.le_trans (Nat.mod_le ..) (by omega)
  · exact hword _ (by decide)

theorem le_toNat_pack (he : 12 ≤ e) (hlog : m.log2 = 52) :
    1087 * 2 ^ 52 ≤ (pack .binary64 (.finite .positive m e hm)).toNat := by
  unfold pack
  dsimp only [Format.exponentBias]
  split
  · change _ ≤ (packComponents .binary64 .positive _ _).toNat
    rw [toNat_packComponents]
    decide
  · rename_i hfit
    rw [if_pos (by rw [hlog]; rfl), toNat_packComponents, BitVec.toNat_ofNat]
    have hexp : (e + ((2 ^ (11 - 1) - 1 : Nat) : Int) + (52 : Nat)).toNat % 2 ^ 11 =
        (e + ((2 ^ (11 - 1) - 1 : Nat) : Int) + (52 : Nat)).toNat := Nat.mod_eq_of_lt (by omega)
    rw [hexp]
    omega

end

/-! ## Rounding -/

theorem mantissa_shiftRight (em : ExtendedMantissa) (k : Nat) :
    (em >>> k).mantissa = em.mantissa / 2 ^ k := by
  change (Nat.repeat ExtendedMantissa.shiftRightOne k em).mantissa = _
  induction k with
  | zero => exact (Nat.div_one _).symm
  | succ k ih =>
    change (Nat.repeat ExtendedMantissa.shiftRightOne k em).mantissa / 2 = _
    rw [ih, Nat.div_div_eq_div_mul, Nat.pow_succ]

theorem mantissa_ofMantissaAndAccuracy (m : Nat) (accuracy : Accuracy) :
    (ExtendedMantissa.ofMantissaAndAccuracy m accuracy).mantissa = m := by
  unfold ExtendedMantissa.ofMantissaAndAccuracy
  split <;> rfl

theorem roundedMantissa_bounds (em : ExtendedMantissa) :
    em.mantissa ≤ em.roundedMantissa ∧ em.roundedMantissa ≤ em.mantissa + 1 := by
  unfold ExtendedMantissa.roundedMantissa Accuracy.roundToNearestEven
  split <;> omega

/-- How far the mantissa of a double has to be shortened. -/
def excess (m : Nat) (e : Int) : Nat :=
  (Format.binary64.targetExponent (Float.Model.totalExponent m e) - e).toNat

theorem excess_eq (m : Nat) (e : Int) :
    excess m e = (max ((m.log2 : Int) + 1 + e - 53) (-1074) - e).toNat := rfl

/-- A mantissa is shortened, is rounded up or down, and is shortened once more if that has made it
too long. -/
theorem roundWithAccuracy_eq (m : Nat) (e : Int) (accuracy : Accuracy) :
    ∃ r, m / 2 ^ excess m e ≤ r ∧ r ≤ m / 2 ^ excess m e + 1 ∧
      roundWithAccuracy .binary64 .positive m e accuracy =
        if h : r / 2 ^ excess r (e + excess m e) = 0 then .zero .positive
        else .finite .positive (r / 2 ^ excess r (e + excess m e))
          (e + excess m e + excess r (e + excess m e)) (Nat.pos_of_ne_zero h) := by
  let em := ExtendedMantissa.ofMantissaAndAccuracy m accuracy >>> excess m e
  have hem : em.mantissa = m / 2 ^ excess m e := by
    rw [mantissa_shiftRight, mantissa_ofMantissaAndAccuracy]
  obtain ⟨hlow, hhigh⟩ := roundedMantissa_bounds em
  refine ⟨em.roundedMantissa, hem ▸ hlow, hem ▸ hhigh, ?_⟩
  have hfinal : (ExtendedMantissa.ofMantissaAndAccuracy em.roundedMantissa .exact >>>
      excess em.roundedMantissa (e + excess m e)).mantissa =
      em.roundedMantissa / 2 ^ excess em.roundedMantissa (e + excess m e) := by
    rw [mantissa_shiftRight, mantissa_ofMantissaAndAccuracy]
  rw [← hfinal]
  rfl

section

variable {m : Nat} {e : Int} {accuracy : Accuracy}

theorem toNat_packedZero : (pack .binary64 (.zero .positive)).toNat = 0 := by
  change (packComponents .binary64 .positive 0 0).toNat = 0
  rw [toNat_packComponents]
  rfl

theorem toNat_pack_round_lt_pow :
    (pack .binary64 (roundWithAccuracy .binary64 .positive m e accuracy)).toNat < 2 ^ 63 := by
  obtain ⟨r, -, -, h⟩ := roundWithAccuracy_eq m e accuracy
  by_cases hzero : r / 2 ^ excess r (e + excess m e) = 0
  · rw [h, dif_pos hzero, toNat_packedZero]
    decide
  · rw [h, dif_neg hzero]
    exact toNat_pack_lt_pow

/-- What is rounded is less than `2 ^ 64` if its mantissa has room for a carry. -/
theorem toNat_pack_round_lt (he : e + excess m e ≤ 11)
    (hcarry : m / 2 ^ excess m e + 1 < 2 ^ (53 + (11 - (e + excess m e)).toNat)) :
    (pack .binary64 (roundWithAccuracy .binary64 .positive m e accuracy)).toNat <
      1087 * 2 ^ 52 := by
  obtain ⟨r, -, hr, h⟩ := roundWithAccuracy_eq m e accuracy
  by_cases hzero : r / 2 ^ excess r (e + excess m e) = 0
  · rw [h, dif_pos hzero, toNat_packedZero]
    decide
  · rw [h, dif_neg hzero]
    refine toNat_pack_lt ?_
    have hr0 : r ≠ 0 := by
      rintro rfl
      exact hzero (Nat.zero_div _)
    have hlog := (Nat.log2_lt hr0).2 (Nat.lt_of_le_of_lt hr hcarry)
    rw [excess_eq r]
    omega

/-- What is rounded is at least `2 ^ 64` if its mantissa is long enough. -/
theorem le_toNat_pack_round (hm : 2 ^ 52 ≤ m) (he : 0 ≤ e) (hhigh : 12 ≤ e + excess m e) :
    1087 * 2 ^ 52 ≤
      (pack .binary64 (roundWithAccuracy .binary64 .positive m e accuracy)).toNat := by
  have hm0 : m ≠ 0 := by omega
  have hlog : 52 ≤ m.log2 := (Nat.le_log2 hm0).2 hm
  have hexcess : excess m e = m.log2 - 52 := by
    rw [excess_eq]
    omega
  obtain ⟨r, hlow, hr, h⟩ := roundWithAccuracy_eq m e accuracy
  have hshort : 2 ^ 52 ≤ r := by
    refine Nat.le_trans ?_ hlow
    rw [Nat.le_div_iff_mul_le (Nat.two_pow_pos _), ← Nat.pow_add, hexcess,
      Nat.add_sub_cancel' hlog]
    exact Nat.log2_self_le hm0
  have hcarry : r ≤ 2 ^ 53 := by
    refine Nat.le_trans hr (Nat.div_lt_of_lt_mul ?_)
    rw [← Nat.pow_add, hexcess, show m.log2 - 52 + 53 = m.log2 + 1 by omega]
    exact Nat.lt_log2_self
  have hr0 : r ≠ 0 := by omega
  have hfinal : excess r (e + excess m e) = r.log2 - 52 := by
    rw [excess_eq r]
    have := (Nat.le_log2 hr0).2 hshort
    omega
  have hmantissa : (r / 2 ^ (r.log2 - 52)).log2 = 52 := by
    rcases Nat.lt_or_eq_of_le hcarry with hlt | rfl
    · have h52 : r.log2 = 52 := by
        have := (Nat.le_log2 hr0).2 hshort
        have := (Nat.log2_lt hr0).2 hlt
        omega
      rw [h52, Nat.sub_self, Nat.pow_zero, Nat.div_one, h52]
    · rw [Nat.log2_two_pow]
      decide
  rw [hfinal] at h
  have hne : r / 2 ^ (r.log2 - 52) ≠ 0 := by
    intro h0
    rw [h0] at hmantissa
    cases hmantissa
  rw [h, dif_neg hne]
  exact le_toNat_pack (by omega) hmantissa

end

/-! ## Milliseconds in seconds -/

/-- The mantissa of the double 1000, whose exponent is -43. -/
def thousand : Nat := 1000 * 2 ^ 43

/-- The exponent of a quotient by 1000 before it is rounded. -/
def quotientExponent (m : Nat) (e : Int) : Int :=
  min (e + 43) (max ((m.log2 : Int) + 1 + e - 63) (-1074))

theorem divCore_thousand (m : Nat) (e : Int) :
    ∃ accuracy, divCore .binary64 m e thousand (-43) =
      (m * 2 ^ (e + 43 - quotientExponent m e).toNat / thousand, quotientExponent m e,
        accuracy) := by
  have hlog : Float.Model.totalExponent thousand (-43) = 10 := by decide +kernel
  have htarget : Format.binary64.targetExponent
      (Float.Model.totalExponent m e - Float.Model.totalExponent thousand (-43)) =
        max ((m.log2 : Int) + 1 + e - 63) (-1074) := by
    rw [hlog]
    change max ((m.log2 : Int) + 1 + e - 10 - 53) (-1074) = _
    congr 1
    omega
  unfold divCore
  dsimp only
  rw [htarget, Nat.shiftLeft_eq, Int.sub_neg]
  exact ⟨_, rfl⟩

section

variable {m : Nat} {e : Int} {hm : 0 < m}

/-- The word of the quotient of a positive double by 1000. -/
def thousandth (m : Nat) (e : Int) (hm : 0 < m) : Nat :=
  (pack .binary64 (div .binary64 (.finite .positive m e hm)
    (.finite .positive thousand (-43) (by decide)))).toNat

theorem thousandth_eq (m : Nat) (e : Int) (hm : 0 < m) : ∃ accuracy, thousandth m e hm =
    (pack .binary64 (roundWithAccuracy .binary64 .positive
      (m * 2 ^ (e + 43 - quotientExponent m e).toNat / thousand) (quotientExponent m e)
        accuracy)).toNat := by
  obtain ⟨accuracy, h⟩ := divCore_thousand m e
  refine ⟨accuracy, ?_⟩
  unfold thousandth div
  dsimp only
  rw [h]
  rfl

theorem thousandth_lt_pow : thousandth m e hm < 2 ^ 63 := by
  obtain ⟨accuracy, h⟩ := thousandth_eq m e hm
  rw [h]
  exact toNat_pack_round_lt_pow

/-- A quotient that is far from `2 ^ 64` is less, even if it is rounded up. -/
theorem thousandth_lt (hlt : m < 2 ^ 53) (he : e ≤ 20) (hlow : -1074 ≤ e) :
    thousandth m e hm < 1087 * 2 ^ 52 := by
  obtain ⟨accuracy, h⟩ := thousandth_eq m e hm
  rw [h]
  have hlog : m.log2 < 53 := (Nat.log2_lt (Nat.ne_of_gt hm)).2 hlt
  obtain ⟨s, hs⟩ : ∃ s : Nat, e + 43 - quotientExponent m e = s :=
    Int.eq_ofNat_of_zero_le (by unfold quotientExponent; omega)
  have hexp : quotientExponent m e ≤ 10 := by
    unfold quotientExponent
    omega
  rw [hs, Int.toNat_natCast]
  generalize quotientExponent m e = t at hs hexp ⊢
  have hquot : m * 2 ^ s / thousand * 125 < 2 ^ (7 + s) := by
    have hle := Nat.div_mul_le_self (m * 2 ^ s) thousand
    have hlt : m * 2 ^ s < 2 ^ 53 * 2 ^ s := Nat.mul_lt_mul_of_pos_right hlt (Nat.two_pow_pos s)
    rw [Nat.pow_add]
    unfold thousand at hle ⊢
    omega
  generalize m * 2 ^ s / thousand = q at hquot ⊢
  have hqlog : q.log2 ≤ s := by
    rcases Nat.eq_zero_or_pos q with rfl | hpos
    · exact Nat.zero_le s
    · refine Nat.le_of_lt_succ ((Nat.log2_lt (Nat.ne_of_gt hpos)).2 ?_)
      rw [Nat.pow_add] at hquot
      rw [Nat.pow_succ]
      omega
  have hshort : t + excess q t ≤ 11 := by
    rw [excess_eq]
    omega
  refine toNat_pack_round_lt hshort ?_
  obtain ⟨f, hf⟩ : ∃ f : Nat, 11 - (t + excess q t) = f := Int.eq_ofNat_of_zero_le (by omega)
  rw [hf, Int.toNat_natCast]
  generalize excess q t = k at hf ⊢
  have hdiv : q / 2 ^ k * 125 < 64 * 2 ^ (53 + f) := by
    refine Nat.lt_of_mul_lt_mul_right (a := 2 ^ k) ?_
    calc q / 2 ^ k * 125 * 2 ^ k = q / 2 ^ k * 2 ^ k * 125 := Nat.mul_right_comm ..
      _ ≤ q * 125 := Nat.mul_le_mul_right _ (Nat.div_mul_le_self q (2 ^ k))
      _ < 2 ^ (7 + s) := hquot
      _ ≤ 2 ^ (6 + (53 + f) + k) := Nat.pow_le_pow_right (by decide) (by omega)
      _ = 64 * 2 ^ (53 + f) * 2 ^ k := by rw [Nat.pow_add, Nat.pow_add 2 6]
  have hlarge : 2 ^ 53 ≤ 2 ^ (53 + f) := Nat.pow_le_pow_right (by decide) (by omega)
  omega

/-- Near `2 ^ 64` a quotient keeps all bits of the double. -/
theorem thousandth_near (hm : 0 < m) (hlt : m < 2 ^ 53) (hnormal : 2 ^ 52 ≤ m) (he : 20 < e) :
    ∃ accuracy, thousandth m e hm =
      (pack .binary64 (roundWithAccuracy .binary64 .positive (m * 128 / 125) (e - 10)
        accuracy)).toNat := by
  obtain ⟨accuracy, h⟩ := thousandth_eq m e hm
  have hlog : m.log2 = 52 := by
    have h1 := (Nat.le_log2 (Nat.ne_of_gt hm)).2 hnormal
    have h2 := (Nat.log2_lt (Nat.ne_of_gt hm)).2 hlt
    omega
  have hexp : quotientExponent m e = e - 10 := by
    unfold quotientExponent
    rw [hlog]
    omega
  have hshift : (e + 43 - (e - 10)).toNat = 53 := by omega
  have hquot : m * 2 ^ 53 / thousand = m * 128 / 125 := by
    unfold thousand
    omega
  rw [hexp, hshift, hquot] at h
  exact ⟨accuracy, h⟩

/-- The quotient of a positive double by 1000 is at least `2 ^ 64` if and only if the double is at
least `125 * 2 ^ 67`. -/
theorem le_thousandth_iff (hlt : m < 2 ^ 53) (hnormal : 2 ^ 52 ≤ m ∨ e = -1074)
    (hlow : -1074 ≤ e) :
    1087 * 2 ^ 52 ≤ thousandth m e hm ↔ 21 < e ∨ e = 21 ∧ 125 * 2 ^ 46 ≤ m := by
  rcases Int.lt_or_le 20 e with he | he
  · have hm52 : 2 ^ 52 ≤ m := hnormal.resolve_right (by omega)
    obtain ⟨accuracy, h⟩ := thousandth_near hm hlt hm52 he
    rw [h]
    have hq : 2 ^ 52 ≤ m * 128 / 125 := by omega
    have hqlog := (Nat.le_log2 (by omega)).2 hq
    by_cases hreach : 21 < e ∨ e = 21 ∧ 125 * 2 ^ 46 ≤ m
    · refine iff_of_true (le_toNat_pack_round hq (by omega) ?_) hreach
      rw [excess_eq]
      rcases hreach with hreach | ⟨rfl, hreach⟩
      · omega
      · have hqlog : 53 ≤ (m * 128 / 125).log2 := (Nat.le_log2 (by omega)).2 (by omega)
        omega
    · refine iff_of_false (Nat.not_le.2 ?_) hreach
      obtain rfl : e = 21 := by omega
      have hcarry : m * 128 / 125 + 1 < 2 ^ 53 := by omega
      have hqlt := (Nat.log2_lt (n := m * 128 / 125) (by omega)).2 (Nat.lt_of_succ_lt hcarry)
      have hexcess : excess (m * 128 / 125) (21 - 10) = 0 := by
        rw [excess_eq]
        omega
      refine toNat_pack_round_lt ?_ ?_
      · rw [hexcess]
        decide
      · rw [hexcess, Nat.pow_zero, Nat.div_one]
        exact hcarry
  · exact iff_of_false (Nat.not_le.2 (thousandth_lt hlt he hlow)) (by omega)

end

/-! ## Comparisons -/

theorem lt_iff (x y : Float) : x < y ↔ x.toModel.unpack.lt y.toModel.unpack = true :=
  decide_eq_true_iff

theorem le_iff (x y : Float) : x ≤ y ↔ x.toModel.unpack.le y.toModel.unpack = true :=
  decide_eq_true_iff

/-- The mantissa and the exponent of a double. -/
theorem unpack_finite {b : BitVec 64} {s : Sign} {m : Nat} {e : Int} {hm : 0 < m}
    (h : unpack .binary64 b = .finite s m e hm) :
    m < 2 ^ 53 ∧ (2 ^ 52 ≤ m ∨ e = -1074) ∧ -1074 ≤ e := by
  have hmantissa := (@unpackMantissa .binary64 b).isLt
  have hexponent : 1 ≤ (@unpackExponent .binary64 b).toNat ∨
      @unpackExponent .binary64 b = 0#11 := by
    rcases Nat.eq_zero_or_pos (@unpackExponent .binary64 b).toNat with h | h
    · exact .inr (BitVec.eq_of_toNat_eq h)
    · exact .inl h
  unfold unpack at h
  dsimp only at h
  by_cases hmax : @unpackExponent .binary64 b = -1#11
  · rw [if_pos hmax] at h
    by_cases hzero : @unpackMantissa .binary64 b = 0#52
    · rw [if_pos hzero] at h
      cases h
    · rw [if_neg hzero] at h
      cases h
  rw [if_neg hmax] at h
  by_cases hsub : @unpackExponent .binary64 b = 0#11
  · rw [if_pos hsub] at h
    by_cases hzero : @unpackMantissa .binary64 b = 0#52
    · rw [dif_pos hzero] at h
      cases h
    · rw [dif_neg hzero] at h
      injection h with h1 h2 h3
      rw [hsub] at h3
      have he : e = -1074 := h3.symm
      have hm : m < 2 ^ 52 := h2 ▸ hmantissa
      omega
  · rw [if_neg hsub] at h
    injection h with h1 h2 h3
    have hpos := hexponent.resolve_right hsub
    have hm : 2 ^ 52 + (@unpackMantissa .binary64 b).toNat = m := by
      rw [← h2, BitVec.toNat_append, ← Nat.shiftLeft_add_eq_or_of_lt hmantissa]
      rfl
    have he : ((@unpackExponent .binary64 b).toNat : Int) - 1075 = e := h3
    have hmantissa : (@unpackMantissa .binary64 b).toNat < 2 ^ 52 := hmantissa
    omega

end Rounding

/-! ## Durations of a number of milliseconds -/

/-- The least number of milliseconds that is no duration, which is `2 ^ 64` seconds. -/
def Duration.tooLong : Float := 18446744073709551616000.0

section

open Rounding Float.Model.UnpackedFloat

variable {x : Float}

/-- The positive numbers. -/
theorem pos_cases (h : 0.0 < x) : x.toModel.unpack = .infinity .positive ∨
    ∃ m e hm, x.toModel.unpack = .finite .positive m e hm := by
  rw [lt_iff, show (0.0 : Float).toModel.unpack = .zero .positive from rfl] at h
  cases hu : x.toModel.unpack with
  | notANumber | zero => rw [hu] at h; cases h
  | infinity s =>
    rw [hu] at h
    cases s with
    | negative => cases h
    | positive => exact .inl rfl
  | finite s m e hm =>
    rw [hu] at h
    cases s with
    | negative => cases h
    | positive => exact .inr ⟨m, e, hm, rfl⟩

theorem tooLong_le_iff (hx : x.toModel.unpack = .finite .positive m e hm) :
    Duration.tooLong ≤ x ↔ 21 < e ∨ e = 21 ∧ 125 * 2 ^ 46 ≤ m := by
  have htooLong : Duration.tooLong.toModel.unpack =
      .finite .positive (125 * 2 ^ 46) 21 (by decide) := rfl
  rw [le_iff, hx, htooLong]
  change ((compare (21 : Int) e).then (compare (125 * 2 ^ 46) m)).isLE = true ↔ _
  rw [Ordering.isLE_then_iff_or, Nat.isLE_compare, Int.compare_eq_lt, Int.compare_eq_eq]
  exact or_congr_right (and_congr_left' eq_comm)

/-- A positive number of milliseconds is a duration unless it is too long. -/
theorem ofSeconds?_eq_none_iff (hx : 0.0 < x) :
    Duration.ofSeconds? (x / 1000.0) = none ↔ Duration.tooLong ≤ x := by
  have hword : (x / 1000.0).toBits.toNat = (pack .binary64 (div .binary64 x.toModel.unpack
    (.finite .positive thousand (-43) (by decide)))).toNat := rfl
  rcases pos_cases hx with hu | ⟨m, e, hm, hu⟩
  · rw [hu] at hword
    have hinfinite : (x / 1000.0).toBits.toNat = 2047 * 2 ^ 52 := hword
    have hle : Duration.tooLong ≤ x := by
      rw [le_iff, hu]
      rfl
    rw [Duration.ofSeconds?_eq_none_iff (by rw [hinfinite]; decide), hinfinite]
    exact iff_of_true (by decide) hle
  · rw [hu] at hword
    have hword : (x / 1000.0).toBits.toNat = thousandth m e hm := hword
    obtain ⟨hlt, hnormal, hlow⟩ := unpack_finite hu
    rw [Duration.ofSeconds?_eq_none_iff (hword ▸ thousandth_lt_pow), hword,
      le_thousandth_iff hlt hnormal hlow, tooLong_le_iff hu]

/-- What is too long is positive. -/
theorem pos_of_tooLong_le (h : Duration.tooLong ≤ x) : 0.0 < x := by
  rw [le_iff] at h
  rw [lt_iff]
  cases hu : x.toModel.unpack with
  | notANumber | zero => rw [hu] at h; cases h
  | infinity s =>
    rw [hu] at h
    cases s with
    | negative => cases h
    | positive => rfl
  | finite s m e hm =>
    rw [hu] at h
    cases s with
    | negative => cases h
    | positive => rfl

end

namespace Session

/-- The timeout of a session is a duration unless it is too long, negative ones and those that are
no number included. -/
theorem timeout?_eq_none_iff {millis : Float} :
    timeout? millis = none ↔ Duration.tooLong ≤ millis := by
  unfold timeout?
  by_cases hpos : 0.0 < millis
  · rw [if_pos hpos]
    exact ofSeconds?_eq_none_iff hpos
  · rw [if_neg hpos]
    have hzero : (Duration.ofSeconds? (0.0 / 1000.0)).isSome = true := by decide +kernel
    exact iff_of_false (Option.isSome_iff_ne_none.1 hzero) fun h => hpos (pos_of_tooLong_le h)

end Session

namespace Subscription

/-- The publishing interval of a subscription is a duration unless it is finite and too long. -/
theorem publishingDuration?_eq_none_iff {s : Subscription} :
    s.publishingDuration? = none ↔ s.parameters.publishingInterval.isFinite = true ∧
      Duration.tooLong ≤ s.parameters.publishingInterval := by
  unfold publishingDuration?
  dsimp only
  split
  · rename_i h
    obtain ⟨hfinite, hpos⟩ := Bool.and_eq_true_iff.1 h
    rw [ofSeconds?_eq_none_iff (of_decide_eq_true hpos)]
    exact (and_iff_right hfinite).symm
  · rename_i h
    refine iff_of_false nofun fun ⟨hfinite, hlong⟩ => h ?_
    exact Bool.and_eq_true_iff.2 ⟨hfinite, decide_eq_true (pos_of_tooLong_le hlong)⟩

end Subscription

end OpcUa
