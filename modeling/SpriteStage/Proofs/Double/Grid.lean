import Mathlib

/-!
# Significands with zeros behind them

A finite double is a whole number of the smallest doubles, and these whole numbers are significands
of no more than 53 bits with zeros behind them. Arithmetic rounds to the closest of them. When a sum
of two is rounded, what is lost is again such a number, and so is the result less the larger
summand.
-/

namespace SpriteStage.Double

/-- A whole number is a significand of no more than 53 bits with zeros behind it. -/
def Fits (n : Int) : Prop := ∃ k : Nat, (2 ^ k : Int) ∣ n ∧ |n| ≤ 2 ^ (53 + k)

/-- A number whose last bits are rounded off, a half to the even significand. -/
structure RoundsOff (k : Nat) (n z : Int) : Prop where
  dvd : (2 ^ k : Int) ∣ z
  near : 2 * |n - z| ≤ 2 ^ k
  even : 2 * |n - z| = 2 ^ k → (2 ^ (k + 1) : Int) ∣ z
  least : 2 ^ (52 + k) ≤ |n|
  most : |z| ≤ 2 ^ (53 + k)

/-- A number is rounded to 53 bits if it has more. -/
def Rounds (n z : Int) : Prop := Fits n ∧ z = n ∨ ∃ k, RoundsOff k n z

theorem two_pow_dvd {j k : Nat} {n : Int} (hle : j ≤ k) (h : (2 ^ k : Int) ∣ n) :
    (2 ^ j : Int) ∣ n :=
  (pow_dvd_pow 2 hle).trans h

theorem add_le_of_dvd_of_lt {d m n : Int} (hm : d ∣ m) (hn : d ∣ n) (h : m < n) : m + d ≤ n := by
  have := Int.le_of_dvd (sub_pos.2 h) (dvd_sub hn hm)
  omega

/-- A multiple of a power of two leaves room for that power below a larger one. -/
theorem two_mul_abs_add_lt {j k : Nat} {n : Int} (hdvd : (2 ^ k : Int) ∣ n) (hn : n ≠ 0)
    (hlt : 2 * |n| < 2 ^ j) : 2 * |n| + 2 ^ k < 2 ^ j := by
  have hle := Int.le_abs_of_dvd hn hdvd
  have hdouble : (2 ^ (k + 1) : Int) ∣ 2 * |n| := by
    rw [pow_succ']
    exact mul_dvd_mul_left 2 ((dvd_abs _ _).2 hdvd)
  have htwice := pow_succ (2 : Int) k
  have hkj : k + 1 ≤ j := (Nat.pow_lt_pow_iff_right (by decide : 1 < 2)).1 (by zify; omega)
  have hroom := add_le_of_dvd_of_lt hdouble (pow_dvd_pow 2 hkj) hlt
  have hpos : (0 : Int) < 2 ^ k := by positivity
  omega

theorem fits_zero : Fits 0 := ⟨0, dvd_zero _, by norm_num⟩

theorem Fits.neg {n : Int} (h : Fits n) : Fits (-n) := by
  obtain ⟨k, hdvd, hle⟩ := h
  exact ⟨k, (dvd_neg).2 hdvd, by rwa [abs_neg]⟩

/-- A significand of 54 bits, all zeros but the first, is one bit with more zeros behind it. -/
theorem Fits.exists_lt {n : Int} (h : Fits n) :
    ∃ k : Nat, (2 ^ k : Int) ∣ n ∧ |n| < 2 ^ (53 + k) := by
  obtain ⟨k, hdvd, hle⟩ := h
  rcases hle.lt_or_eq with hlt | heq
  · exact ⟨k, hdvd, hlt⟩
  · refine ⟨k + 1, ?_, ?_⟩
    · rw [← dvd_abs, heq]
      exact pow_dvd_pow 2 (by omega)
    · rw [heq]
      exact pow_lt_pow_right₀ (by decide) (by omega)

theorem Fits.exists_le {n m : Int} {p : Nat} (h : Fits n) (hle : |n| ≤ |m|)
    (hm : |m| < 2 ^ (53 + p)) :
    ∃ q ≤ p, (2 ^ q : Int) ∣ n ∧ |n| < 2 ^ (53 + q) := by
  obtain ⟨q, hdvd, hlt⟩ := h.exists_lt
  rcases le_total q p with hqp | hpq
  · exact ⟨q, hqp, hdvd, hlt⟩
  · exact ⟨p, le_rfl, two_pow_dvd hpq hdvd, hle.trans_lt hm⟩

/-! ### Rounding -/

variable {n z a : Int} {k : Nat}

theorem RoundsOff.eq_of_dvd (h : RoundsOff k n z) (hn : (2 ^ k : Int) ∣ n) : z = n := by
  by_contra hne
  have hle := Int.le_abs_of_dvd (sub_ne_zero.2 (Ne.symm hne)) (dvd_sub hn h.dvd)
  have hnear := h.near
  have hpos : (0 : Int) < 2 ^ k := by positivity
  omega

theorem Rounds.dvd {j : Nat} (h : Rounds n z) (hn : (2 ^ j : Int) ∣ n) : (2 ^ j : Int) ∣ z := by
  rcases h with ⟨-, rfl⟩ | ⟨k, h⟩
  · exact hn
  · rcases le_total j k with hjk | hkj
    · exact two_pow_dvd hjk h.dvd
    · rwa [h.eq_of_dvd (two_pow_dvd hkj hn)]

theorem Rounds.exists_dvd (h : Rounds n z) :
    ∃ k : Nat, (2 ^ k : Int) ∣ z ∧ 2 * |n - z| < 2 ^ k := by
  rcases h with ⟨-, rfl⟩ | ⟨k, h⟩
  · exact ⟨0, one_dvd _, by simp⟩
  · rcases h.near.lt_or_eq with hlt | heq
    · exact ⟨k, h.dvd, hlt⟩
    · exact ⟨k + 1, h.even heq, heq ▸ pow_lt_pow_right₀ (by decide) (by omega)⟩

theorem RoundsOff.le_of_dvd (h : RoundsOff k n z) (ha : (2 ^ k : Int) ∣ a) :
    |n - z| ≤ |n - a| := by
  by_cases heq : a = z
  · rw [heq]
  have hle := Int.le_abs_of_dvd (sub_ne_zero.2 heq) (dvd_sub ha h.dvd)
  have hnear := h.near
  have htri := abs_sub_le a n z
  rw [abs_sub_comm a n] at htri
  omega

/-- No number that fits is closer than the result. -/
theorem Rounds.le (h : Rounds n z) (ha : Fits a) : |n - z| ≤ |n - a| := by
  rcases h with ⟨-, rfl⟩ | ⟨k, h⟩
  · simp
  obtain ⟨j, hdvd, hle⟩ := ha
  rcases le_total k j with hkj | hjk
  · exact h.le_of_dvd (two_pow_dvd hkj hdvd)
  rcases hjk.lt_or_eq with hlt | rfl
  swap
  · exact h.le_of_dvd hdvd
  -- with fewer zeros behind it, `a` is no larger than the least number that is rounded off here
  have hsmall : |a| ≤ 2 ^ (52 + k) := hle.trans (pow_le_pow_right₀ (by decide) (by omega))
  have hgrid : (2 ^ k : Int) ∣ 2 ^ (52 + k) := pow_dvd_pow 2 (by omega)
  have hleast := h.least
  rcases abs_cases n with ⟨hn, -⟩ | ⟨hn, -⟩
  · refine (h.le_of_dvd hgrid).trans ?_
    have := le_abs_self a
    rw [abs_of_nonneg (by omega), abs_of_nonneg (by omega)]
    omega
  · refine (h.le_of_dvd ((dvd_neg).2 hgrid)).trans ?_
    have := neg_abs_le a
    rw [abs_of_nonpos (by omega), abs_of_nonpos (by omega)]
    omega

theorem Rounds.eq_of_fits (h : Rounds n z) (hn : Fits n) : z = n := by
  have := h.le hn
  rw [sub_self, abs_zero, abs_nonpos_iff, sub_eq_zero] at this
  exact this.symm

/-- Zeros behind a number make no difference to how it is rounded. -/
theorem Rounds.mul_two_pow (h : Rounds n z) (j : Nat) : Rounds (n * 2 ^ j) (z * 2 ^ j) := by
  have hpos : (0 : Int) < 2 ^ j := by positivity
  have habs (m : Int) : |m * 2 ^ j| = |m| * 2 ^ j := by rw [abs_mul, abs_of_pos hpos]
  rcases h with ⟨⟨k, hdvd, hle⟩, rfl⟩ | ⟨k, h⟩
  · refine .inl ⟨⟨k + j, ?_, ?_⟩, rfl⟩
    · rw [pow_add]
      exact mul_dvd_mul_right hdvd _
    · rw [habs, ← add_assoc, pow_add]
      exact mul_le_mul_of_nonneg_right hle hpos.le
  · have hdiff : 2 * |n * 2 ^ j - z * 2 ^ j| = 2 * |n - z| * 2 ^ j := by
      rw [← sub_mul, habs, mul_assoc]
    refine .inr ⟨k + j, ?_, ?_, ?_, ?_, ?_⟩
    · rw [pow_add]
      exact mul_dvd_mul_right h.dvd _
    · rw [hdiff, pow_add]
      exact mul_le_mul_of_nonneg_right h.near hpos.le
    · rw [hdiff, pow_add, add_right_comm, pow_add]
      exact fun heq => mul_dvd_mul_right (h.even (mul_right_cancel₀ hpos.ne' heq)) _
    · rw [habs, ← add_assoc, pow_add]
      exact mul_le_mul_of_nonneg_right h.least hpos.le
    · rw [habs, ← add_assoc, pow_add]
      exact mul_le_mul_of_nonneg_right h.most hpos.le

theorem Rounds.neg (h : Rounds n z) : Rounds (-n) (-z) := by
  rcases h with ⟨hfits, rfl⟩ | ⟨k, h⟩
  · exact .inl ⟨hfits.neg, rfl⟩
  · have hdiff : |-n - -z| = |n - z| := by rw [neg_sub_neg, abs_sub_comm]
    refine .inr ⟨k, (dvd_neg).2 h.dvd, ?_, ?_, ?_, ?_⟩
    · rw [hdiff]
      exact h.near
    · rw [hdiff, dvd_neg]
      exact h.even
    · rw [abs_neg]
      exact h.least
    · rw [abs_neg]
      exact h.most

/-! ### Sums of two -/

variable {x y : Int}

theorem Rounds.lost_le (h : Rounds (x + y) z) (hx : Fits x) : |x + y - z| ≤ |y| := by
  have := h.le hx
  rwa [add_sub_cancel_left] at this

theorem Rounds.fits_lost (h : Rounds (x + y) z) (hx : Fits x) (hy : Fits y) (hle : |y| ≤ |x|) :
    Fits (x + y - z) := by
  obtain ⟨p, hxp, hxlt⟩ := hx.exists_lt
  obtain ⟨q, hqp, hyq, hylt⟩ := hy.exists_le hle hxlt
  have hsum : (2 ^ q : Int) ∣ x + y := dvd_add (two_pow_dvd hqp hxp) hyq
  exact ⟨q, dvd_sub hsum (h.dvd hsum), (h.lost_le hx).trans hylt.le⟩

/-- A rounded sum less its larger summand fits. -/
theorem Rounds.fits_sub (h : Rounds (x + y) z) (hx : Fits x) (hy : Fits y) (hle : |y| ≤ |x|) :
    Fits (z - x) := by
  obtain ⟨p, hxp, hxlt⟩ := hx.exists_lt
  obtain ⟨q, hqp, hyq, hylt⟩ := hy.exists_le hle hxlt
  rcases h with ⟨-, rfl⟩ | ⟨k, h⟩
  · rwa [add_sub_cancel_left]
  rcases le_or_gt k q with hkq | hqk
  · rw [h.eq_of_dvd (two_pow_dvd hkq (dvd_add (two_pow_dvd hqp hxp) hyq)), add_sub_cancel_left]
    exact hy
  have hnear := h.near
  have hdiff : |z - x| ≤ |y| + |x + y - z| := by
    have := abs_add_le y (z - (x + y))
    rwa [abs_sub_comm z, show y + (z - (x + y)) = z - x by omega] at this
  have hk := pow_add (2 : Int) 52 k
  have hk' := pow_add (2 : Int) 53 k
  rcases le_or_gt k p with hkp | hpk
  · refine ⟨k, dvd_sub h.dvd (two_pow_dvd hkp hxp), ?_⟩
    have hylarge : (2 ^ (53 + q) : Int) ≤ 2 ^ (52 + k) :=
      pow_le_pow_right₀ (by decide) (by omega)
    have hpos : (0 : Int) < 2 ^ k := by positivity
    omega
  · -- the sum has one bit more than `x`
    refine ⟨p, dvd_sub (two_pow_dvd hpk.le h.dvd) hxp, ?_⟩
    have hp := pow_add (2 : Int) 53 p
    obtain rfl : k = p + 1 := by
      by_contra hne
      have hlarge : (2 ^ (54 + p) : Int) ≤ 2 ^ (52 + k) :=
        pow_le_pow_right₀ (by decide) (by omega)
      have hleast := h.least
      have htri := abs_add_le x y
      rw [pow_add] at hlarge
      omega
    have hone := pow_succ (2 : Int) p
    rcases hqp.lt_or_eq with hlt | rfl
    · have hylarge : (2 ^ (53 + q) : Int) ≤ 2 ^ (52 + p) :=
        pow_le_pow_right₀ (by decide) (by omega)
      have hp' := pow_add (2 : Int) 52 p
      omega
    · have := add_le_of_dvd_of_lt ((dvd_abs _ _).2 hyq) (pow_dvd_pow 2 (by omega)) hylt
      omega

end SpriteStage.Double
