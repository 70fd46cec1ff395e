import SpriteStage.Proofs.Double.Packing
import SpriteStage.Proofs.Heading

/-!
# Remainders are exact

A fraction whose denominator is a power of two is a double if its numerator has at most 53 bits.
What is left when whole periods are taken off a double has the exponent of the double or of the
period, and is smaller than both, so it is such a fraction and is not rounded.
-/

namespace SpriteStage.Double

open Float.Model Float.Model.UnpackedFloat

/-! ### Fractions that are doubles -/

/-- The exact quotient of a numerator of at most 53 bits and a power of two. -/
theorem div_two_pow_eq {s : Sign} {a j : Nat} (ha : 0 < a) (hlt : a < 2 ^ 53) (hj : j ≤ 1000)
    (hpow : 0 < 2 ^ j) :
    UnpackedFloat.div .binary64 (.finite s a 0 ha) (.finite .positive (2 ^ j) 0 hpow) =
      .finite s (a * 2 ^ (52 - a.log2)) (a.log2 - 52 - j) (Nat.mul_pos ha (Nat.two_pow_pos _)) := by
  have hlog : a.log2 < 53 := log2_lt_of_lt hlt
  have htarget : min (0 - 0) (Format.binary64.targetExponent
      (totalExponent a 0 - totalExponent (2 ^ j) 0)) = -((53 - a.log2 + j : Nat) : Int) := by
    rw [targetExponent_eq, totalExponent, totalExponent, Nat.log2_two_pow]
    omega
  have hsign : s / .positive = s := by cases s <;> rfl
  have hshift : a * 2 ^ (53 - a.log2 + j) = a * 2 ^ (52 - a.log2) * 2 ^ 1 * 2 ^ j := by
    rw [Nat.mul_assoc, Nat.mul_assoc, ← Nat.pow_add, ← Nat.pow_add]
    congr 2
    omega
  have hfull : (a * 2 ^ (52 - a.log2)).log2 = 52 := by
    rw [log2_mul_two_pow (Nat.ne_of_gt ha)]
    omega
  simp only [UnpackedFloat.div, divCore, htarget, hsign, Nat.shiftLeft_eq]
  rw [show ((0 : Int) - 0 - -((53 - a.log2 + j : Nat) : Int)).toNat = 53 - a.log2 + j by omega,
    hshift, Nat.mul_div_cancel _ hpow, Nat.mul_mod_left, accuracyOfFraction, if_pos rfl,
    show -((53 - a.log2 + j : Nat) : Int) = (a.log2 - 52 - j : Int) - (1 : Nat) by omega]
  exact roundWithAccuracy_exact _ hfull (by omega)

/-- A fraction in lowest terms whose denominator is a power of two. -/
theorem rational?_nearest_of_den {q : Rat} {j : Nat} (hden : q.den = 2 ^ j) (hj : j ≤ 1000)
    (hnum : q.num.natAbs < 2 ^ 53) : rational? (nearest q) = some q := by
  by_cases hzero : q.num.natAbs = 0
  · rw [nearest, dif_pos hzero, Rat.num_eq_zero.1 (Int.natAbs_eq_zero.1 hzero)]
    decide
  have ha := Nat.pos_of_ne_zero hzero
  have hlog : q.num.natAbs.log2 < 53 := log2_lt_of_lt hnum
  have hunpack : (nearest q).toModel.unpack = .finite (if q.num < 0 then .negative else .positive)
      (q.num.natAbs * 2 ^ (52 - q.num.natAbs.log2)) (q.num.natAbs.log2 - 52 - j)
      (Nat.mul_pos ha (Nat.two_pow_pos _)) := by
    rw [nearest, dif_neg hzero]
    simp only [hden]
    rw [div_two_pow_eq ha hnum hj]
    apply unpack_pack
    · rw [log2_mul_two_pow hzero]
      omega
    · omega
    · rw [maxExponent]
      omega
  have hsize : ((q.num.natAbs * 2 ^ (52 - q.num.natAbs.log2) : Nat) : Rat) *
      2 ^ ((q.num.natAbs.log2 : Int) - 52 - j) = q.num.natAbs / q.den := by
    rw [hden, Nat.cast_mul, Nat.cast_pow, Nat.cast_pow, Nat.cast_ofNat, mul_assoc, ← zpow_natCast,
      ← zpow_natCast, ← zpow_add₀ two_ne_zero, div_eq_mul_inv, ← zpow_neg]
    congr 2
    omega
  rw [rational?_of_unpack hunpack]
  congr 1
  conv_rhs => rw [← Rat.num_div_den q]
  split
  · rename_i hneg
    rw [signedSize, hsize, ← neg_div]
    congr 1
    rw [← Int.cast_natCast, ← Int.cast_neg]
    congr 1
    omega
  · rename_i hnonneg
    rw [signedSize, hsize]
    congr 1
    rw [← Int.cast_natCast]
    congr 1
    omega

/-- A whole number of at most 53 bits, divided by a power of two. -/
theorem rational?_nearest_div {n : Int} {k : Nat} (hn : n.natAbs < 2 ^ 53) (hk : k ≤ 1000) :
    rational? (nearest (n / 2 ^ k)) = some ((n : Rat) / 2 ^ k) := by
  have hq : (n : Rat) / 2 ^ k = Rat.divInt n (2 ^ k : Nat) := by
    rw [Rat.divInt_eq_div]
    push_cast
    rfl
  have hdvd : ((n : Rat) / 2 ^ k).den ∣ 2 ^ k := by
    rw [hq]
    exact_mod_cast Rat.den_dvd n (2 ^ k : Nat)
  obtain ⟨j, hj, hden⟩ := (Nat.dvd_prime_pow Nat.prime_two).1 hdvd
  apply rational?_nearest_of_den hden (by omega)
  have hnum : ((n : Rat) / 2 ^ k).num ∣ n := by
    rw [hq]
    exact Rat.num_dvd n (by positivity)
  by_cases hzero : n = 0
  · rw [hzero, Int.cast_zero, zero_div]
    decide
  · exact (Nat.le_of_dvd (Int.natAbs_pos.2 hzero) (Int.natAbs_dvd_natAbs.2 hnum)).trans_lt hn

/-! ### What is left of a period -/

theorem isNegative_iff {x : Float} {p : Rat} (h : rational? x = some p) (hp : p ≠ 0) :
    isNegative x = true ↔ p < 0 := by
  rcases unpack_cases h with ⟨s, -, rfl⟩ | ⟨s, m, e, hm, hu, rfl⟩
  · exact absurd rfl hp
  · have hpos := size_pos hm e
    rw [isNegative_of_unpack hu]
    cases s with
    | positive => exact iff_of_false Bool.false_ne_true (not_lt.2 hpos.le)
    | negative => exact iff_of_true rfl (neg_neg_of_pos hpos)

/-- The size of a double is a whole number of at most 53 bits, times a power of two. -/
theorem exists_abs_eq {x : Float} {p : Rat} (h : rational? x = some p) :
    ∃ m : Nat, ∃ e : Int, m < 2 ^ 53 ∧ |p| = m * 2 ^ e := by
  rcases unpack_cases h with ⟨s, -, rfl⟩ | ⟨s, m, e, hm, hu, rfl⟩
  · exact ⟨0, 0, by decide, by rw [abs_zero, Nat.cast_zero, zero_mul]⟩
  · have hpos := size_pos hm e
    refine ⟨m, e, (unpack_bounds hu).1, ?_⟩
    cases s with
    | positive => exact abs_of_pos hpos
    | negative => rw [signedSize, abs_neg, abs_of_pos hpos]

/-- What is left when whole periods are taken off a whole number. -/
theorem exists_rest_of_whole {m n j : Nat} {turns : Int} {rest : Rat} (hn : n < 2 ^ 53)
    (hrest : rest = m * 2 ^ j - n * turns) (h0 : 0 ≤ rest) (hlt : rest < n) :
    ∃ r : Nat, r < 2 ^ 53 ∧ rest = r := by
  have hwhole : rest = ((m * 2 ^ j - n * turns : Int) : Rat) := by
    rw [hrest]
    push_cast
    rfl
  obtain ⟨r, hr⟩ := Int.eq_ofNat_of_zero_le
    (show 0 ≤ (m * 2 ^ j - n * turns : Int) by rw [hwhole] at h0; exact_mod_cast h0)
  rw [hr, Int.cast_natCast] at hwhole
  rw [hwhole] at hlt
  exact ⟨r, lt_trans (by exact_mod_cast hlt) hn, hwhole⟩

/-- What is left when whole periods are taken off a fraction. -/
theorem exists_rest_of_fraction {m n k : Nat} {turns : Int} {rest : Rat} (hm : m < 2 ^ 53)
    (hrest : rest = m / 2 ^ k - n * turns) (h0 : 0 ≤ rest) (hturns : 0 ≤ turns) :
    ∃ r : Nat, r < 2 ^ 53 ∧ rest = r / 2 ^ k := by
  have hpow : (0 : Rat) < 2 ^ k := pow_pos two_pos k
  have hwhole : rest * 2 ^ k = ((m - n * turns * 2 ^ k : Int) : Rat) := by
    rw [hrest, sub_mul, div_mul_cancel₀ _ hpow.ne']
    push_cast
    rfl
  have hpos : 0 ≤ (m - n * turns * 2 ^ k : Int) := by
    have := mul_nonneg h0 hpow.le
    rw [hwhole] at this
    exact_mod_cast this
  obtain ⟨r, hr⟩ := Int.eq_ofNat_of_zero_le hpos
  rw [hr, Int.cast_natCast] at hwhole
  refine ⟨r, ?_, by rw [← hwhole, mul_div_cancel_right₀ _ hpow.ne']⟩
  have : 0 ≤ n * turns * 2 ^ k := by positivity
  omega

/-- What is left when whole periods are taken off a number of at most 53 bits, which is no smaller
than the period. -/
theorem exists_rest_eq {m n : Nat} {e turns : Int} {rest : Rat} (hm : m < 2 ^ 53)
    (hn : n < 2 ^ 53) (hn0 : 0 < n) (hle : (n : Rat) ≤ m * 2 ^ e)
    (hrest : rest = m * 2 ^ e - n * turns) (h0 : 0 ≤ rest) (hlt : rest < n)
    (hturns : 0 ≤ turns) :
    ∃ r k : Nat, r < 2 ^ 53 ∧ k ≤ 1000 ∧ rest = r / 2 ^ k := by
  rcases le_total 0 e with he | he
  · obtain ⟨j, rfl⟩ := Int.eq_ofNat_of_zero_le he
    rw [zpow_natCast] at hrest
    obtain ⟨r, hr, hwhole⟩ := exists_rest_of_whole hn hrest h0 hlt
    exact ⟨r, 0, hr, Nat.zero_le _, by rw [hwhole, pow_zero, div_one]⟩
  · obtain ⟨k, hk⟩ := Int.eq_ofNat_of_zero_le (show 0 ≤ -e by omega)
    obtain rfl : e = -k := by omega
    rw [zpow_neg, zpow_natCast, ← div_eq_mul_inv] at hle hrest
    obtain ⟨r, hr, hfraction⟩ := exists_rest_of_fraction hm hrest h0 hturns
    refine ⟨r, k, hr, ?_, hfraction⟩
    -- a number of 53 bits with a smaller exponent is smaller than one
    by_contra hlarge
    rw [le_div_iff₀ (pow_pos two_pos k)] at hle
    have hpowle : 2 ^ 53 ≤ 2 ^ k := Nat.pow_le_pow_right two_pos (by omega)
    have : n * 2 ^ k ≤ m := by exact_mod_cast hle
    have := Nat.le_mul_of_pos_left (2 ^ k) hn0
    omega

theorem rational?_nearestSigned {q : Rat} (negative : Bool)
    (h : rational? (nearest q) = some q) : rational? (nearestSigned negative q) = some q := by
  unfold nearestSigned
  split
  · rename_i hzero
    rw [Bool.and_eq_true, beq_iff_eq] at hzero
    rw [hzero.1]
    decide
  · exact h

theorem remainder_of_lt {x period : Float} {p q : Rat} (hx : rational? x = some p)
    (hperiod : rational? period = some q) (hlt : |p| < |q|) : remainder x period = x := by
  have hq : q ≠ 0 := by
    rintro rfl
    rw [abs_zero] at hlt
    exact absurd hlt (not_lt.2 (abs_nonneg p))
  unfold remainder
  rw [hx, hperiod]
  dsimp only
  rw [if_neg (by simpa using hq), abs_eq_abs, abs_eq_abs, if_pos hlt]

/-- A remainder is exactly what is left when whole periods are taken off. It is smaller than the
period and does not have the other sign. -/
theorem rational?_remainder {x period : Float} {p : Rat} {n : Nat} (hx : rational? x = some p)
    (hperiod : rational? period = some (n : Rat)) (hn0 : 0 < n) (hn : n < 2 ^ 53) :
    ∃ r, rational? (remainder x period) = some r ∧ |r| < n ∧ 0 ≤ p * r ∧
      ∃ turns : Int, p = turns * n + r := by
  have hpos : (0 : Rat) < n := Nat.cast_pos.2 hn0
  have habs : |(n : Rat)| = n := abs_of_pos hpos
  by_cases hlt : |p| < |(n : Rat)|
  · rw [remainder_of_lt hx hperiod hlt]
    exact ⟨p, hx, habs ▸ hlt, mul_self_nonneg p, 0, by rw [Int.cast_zero, zero_mul, zero_add]⟩
  have hle : (n : Rat) ≤ |p| := habs ▸ not_lt.1 hlt
  have hp : p ≠ 0 := abs_pos.1 (hpos.trans_le hle)
  obtain ⟨m, e, hm, hsize⟩ := exists_abs_eq hx
  obtain ⟨h0, hless⟩ := remainder_bounds (p := p) hpos.ne'
  rw [remainder, hx, hperiod]
  dsimp only
  rw [if_neg (by simpa using hpos.ne'), abs_eq_abs, abs_eq_abs, if_neg hlt]
  rw [habs] at h0 hless ⊢
  have hturns : 0 ≤ (|p| / n).floor := Rat.le_floor_iff.2 (by positivity)
  generalize (|p| / n).floor = turns at h0 hless hturns ⊢
  obtain ⟨r, k, hr, hk, hrest⟩ := exists_rest_eq hm hn hn0 (hsize ▸ hle)
    (congrArg (· - (n : Rat) * turns) hsize) h0 hless hturns
  have hp' := sub_add_cancel |p| (n * turns)
  rw [hrest] at h0 hless hp' ⊢
  by_cases hneg : p < 0
  · rw [(isNegative_iff hx hp).2 hneg, if_pos rfl, ← neg_div]
    refine ⟨-r / 2 ^ k, rational?_nearestSigned _ ?_, ?_, ?_, -turns, ?_⟩
    · exact_mod_cast rational?_nearest_div (n := -r) (k := k) (by omega) hk
    · rwa [neg_div, abs_neg, abs_of_nonneg h0]
    · exact mul_nonneg_of_nonpos_of_nonpos hneg.le (neg_div (2 ^ k : Rat) r ▸ neg_nonpos.2 h0)
    · rw [abs_of_neg hneg] at hp'
      rw [neg_div, Int.cast_neg]
      linarith
  · rw [Bool.eq_false_iff.2 fun h => hneg ((isNegative_iff hx hp).1 h), if_neg Bool.false_ne_true]
    refine ⟨r / 2 ^ k, rational?_nearestSigned _ ?_, ?_, ?_, turns, ?_⟩
    · rw [← Int.cast_natCast r]
      exact rational?_nearest_div (by omega) hk
    · rwa [abs_of_nonneg h0]
    · exact mul_nonneg (not_lt.1 hneg) h0
    · rw [abs_of_nonneg (not_lt.1 hneg)] at hp'
      linarith

end SpriteStage.Double
