import Mathlib
import SpriteStage.Double.Exact

/-!
# Which doubles are finite

A result of arithmetic is a significand with an exponent, rounded and packed into bits. It is packed
as an infinity only if its exponent is too large, and rounding does not make the exponent too large
as long as the exact result is no larger than the largest double. The difference of two doubles that
are not negative is no larger than one of them, so it is finite.
-/

namespace SpriteStage.Double

open Float.Model Float.Model.UnpackedFloat

/-- The largest exponent of a finite double, whose significand is a whole number. -/
def maxExponent : Int := 971

theorem targetExponent_eq (t : Int) : Format.binary64.targetExponent t = max (t - 53) (-1074) := by
  rw [Format.targetExponent]
  rfl

/-! ### Packing -/

theorem isFinite_packComponents (s : Sign) (e : BitVec 11) (m : BitVec 52) (he : e ≠ -1#11) :
    (UnpackedFloat.unpack .binary64 (packComponents .binary64 s e m)).isFinite = true := by
  unfold UnpackedFloat.unpack
  simp only [unpackExponent_packComponents, if_neg he]
  split
  · split <;> rfl
  · rfl

theorem exponentField_eq (e : Int) :
    (e + Format.binary64.exponentBias + Format.binary64.mantissaBitsWithoutImplicit).toNat
      = (e + 1075).toNat := by
  change (e + 1023 + 52).toNat = _
  omega

theorem isFinite_pack {s : Sign} {m : Nat} {e : Int} (hm : 0 < m) (he : e ≤ maxExponent) :
    (Float.Model.pack (.finite s m e hm)).isFinite = true := by
  rw [maxExponent] at he
  change (UnpackedFloat.unpack .binary64 (UnpackedFloat.pack .binary64 _)).isFinite = true
  unfold UnpackedFloat.pack
  simp only [exponentField_eq e]
  rw [if_neg (by omega)]
  split
  · apply isFinite_packComponents
    intro h
    have := congrArg BitVec.toNat h
    simp only [BitVec.toNat_ofNat] at this
    change _ = 2047 at this
    omega
  · exact isFinite_packComponents _ _ _ (by decide)

/-- The significand of a finite double has at most 53 bits, and its exponent is in range. -/
theorem unpack_bounds {x : Float.Model} {s : Sign} {m : Nat} {e : Int} {hm : 0 < m}
    (h : x.unpack = .finite s m e hm) : m < 2 ^ 53 ∧ e ≤ maxExponent := by
  have hbias : (Format.binary64.exponentBias : Int) = 1023 := rfl
  have hwidth : (Format.binary64.mantissaBitsWithoutImplicit : Int) = 52 := rfl
  have hfield : (@unpackExponent .binary64 x.toBits.toBitVec).toNat < 2048 :=
    (@unpackExponent .binary64 x.toBits.toBitVec).isLt
  have hsignificand : (@unpackMantissa .binary64 x.toBits.toBitVec).toNat < 2 ^ 52 :=
    (@unpackMantissa .binary64 x.toBits.toBitVec).isLt
  rw [Float.Model.unpack, UnpackedFloat.unpack, hbias, hwidth] at h
  rw [maxExponent]
  split at h
  · split at h <;> cases h
  · rename_i hne
    have hmax : (@unpackExponent .binary64 x.toBits.toBitVec).toNat ≠ 2047 :=
      fun heq => hne (BitVec.eq_of_toNat_eq heq)
    split at h
    · split at h
      · cases h
      · cases h
        rename_i hzero _
        rw [hzero, BitVec.toNat_zero]
        omega
    · cases h
      rw [BitVec.toNat_append, ← Nat.shiftLeft_add_eq_or_of_lt hsignificand, Nat.shiftLeft_eq]
      change 1 * 2 ^ 52 + _ < _ ∧ _
      omega

theorem exists_rational? {x : Float} (h : x.isFinite = true) : ∃ q, rational? x = some q := by
  change x.toModel.unpack.isFinite = true at h
  unfold rational?
  cases hu : x.toModel.unpack with
  | finite s m e hm => exact ⟨_, rfl⟩
  | zero s => exact ⟨0, rfl⟩
  | infinity s | notANumber => rw [hu] at h; cases h

/-! ### Rounding -/

/-- A significand with a sign and an exponent, which is a zero if the significand is. -/
def signed (s : Sign) (m : Nat) (e : Int) : UnpackedFloat :=
  if h : m = 0 then .zero s else .finite s m e (Nat.pos_of_ne_zero h)

theorem isFinite_signed {s : Sign} {m : Nat} {e : Int} (he : e ≤ maxExponent) :
    (Float.Model.pack (signed s m e)).isFinite = true := by
  unfold signed
  split
  · cases s <;> rfl
  · exact isFinite_pack _ he

theorem log2_lt_of_lt {m k : Nat} (h : m < 2 ^ (k + 1)) : m.log2 < k + 1 := by
  by_cases hz : m = 0
  · simp [hz]
  · exact (Nat.log2_lt hz).2 h

theorem mantissa_shiftRight (em : ExtendedMantissa) (k : Nat) :
    (em >>> k).mantissa = em.mantissa / 2 ^ k := by
  induction k with
  | zero => exact (Nat.div_one _).symm
  | succ k ih =>
    change (em >>> k).mantissa / 2 = _
    rw [ih, Nat.div_div_eq_div_mul, Nat.pow_succ]

theorem exact_shiftRight (c k : Nat) :
    ExtendedMantissa.ofMantissaAndAccuracy (c * 2 ^ k) .exact >>> k = ⟨c, false, false⟩ := by
  induction k generalizing c with
  | zero => simp [HShiftRight.hShiftRight, Nat.repeat, ExtendedMantissa.ofMantissaAndAccuracy]
  | succ k ih =>
    change (ExtendedMantissa.ofMantissaAndAccuracy (c * 2 ^ (k + 1)) .exact >>> k).shiftRightOne = _
    rw [Nat.pow_succ, Nat.mul_comm (2 ^ k), ← Nat.mul_assoc, ih]
    simp [ExtendedMantissa.shiftRightOne]

theorem roundedMantissa_le (em : ExtendedMantissa) : em.roundedMantissa ≤ em.mantissa + 1 := by
  rcases em with ⟨m, roundBit, stickyBit⟩
  cases roundBit <;> cases stickyBit <;>
    simp only [ExtendedMantissa.roundedMantissa, ExtendedMantissa.accuracy,
      Accuracy.roundToNearestEven] <;> omega

theorem mantissa_ofMantissaAndAccuracy (m : Nat) (a : Accuracy) :
    (ExtendedMantissa.ofMantissaAndAccuracy m a).mantissa = m := by
  cases a with
  | exact => rfl
  | inexact o => cases o <;> rfl

theorem div_two_pow_lt {m k : Nat} (hlog : m.log2 + 1 ≤ 53 + k) : m / 2 ^ k < 2 ^ 53 := by
  rw [Nat.div_lt_iff_lt_mul (Nat.two_pow_pos k), ← Nat.pow_add]
  exact Nat.lt_of_lt_of_le Nat.lt_log2_self (Nat.pow_le_pow_right (by decide) hlog)

/-- The significand that is left by the first shift of rounding, rounded. It has at most 53 bits
unless all of them round up. -/
theorem rounded_le {m k : Nat} (a : Accuracy) (hlog : m.log2 + 1 ≤ 53 + k) :
    (ExtendedMantissa.ofMantissaAndAccuracy m a >>> k).roundedMantissa ≤ 2 ^ 53 := by
  have hle := roundedMantissa_le (ExtendedMantissa.ofMantissaAndAccuracy m a >>> k)
  rw [mantissa_shiftRight, mantissa_ofMantissaAndAccuracy] at hle
  have hlt := div_two_pow_lt hlog
  omega

theorem log2_rounded_lt {m k : Nat} (a : Accuracy) (hlog : m.log2 + 1 ≤ 53 + k) :
    (ExtendedMantissa.ofMantissaAndAccuracy m a >>> k).roundedMantissa.log2 < 54 :=
  log2_lt_of_lt (Nat.lt_of_le_of_lt (rounded_le a hlog) (by decide))

theorem roundedMantissa_shiftRightOne (em : ExtendedMantissa) (h : em.mantissa % 2 = 0) :
    em.shiftRightOne.roundedMantissa = em.mantissa / 2 := by
  rcases em with ⟨m, roundBit, stickyBit⟩
  have hbit : (m % 2 != 0) = false := by simpa using h
  cases roundBit <;> cases stickyBit <;>
    simp [ExtendedMantissa.shiftRightOne, ExtendedMantissa.roundedMantissa,
      ExtendedMantissa.accuracy, Accuracy.roundToNearestEven, hbit]

/-- Not all bits round up below the middle between the largest significand and the next one. -/
theorem rounded_lt {m k : Nat} (hlog : m.log2 + 1 ≤ 53 + k) (hm : 2 * m < (2 ^ 54 - 1) * 2 ^ k) :
    (ExtendedMantissa.ofMantissaAndAccuracy m .exact >>> k).roundedMantissa < 2 ^ 53 := by
  have hle := roundedMantissa_le (ExtendedMantissa.ofMantissaAndAccuracy m .exact >>> k)
  rw [mantissa_shiftRight, mantissa_ofMantissaAndAccuracy] at hle
  have hlt := div_two_pow_lt hlog
  by_cases htop : m / 2 ^ k = 2 ^ 53 - 1
  · cases k with
    | zero =>
      have hexact := exact_shiftRight m 0
      rw [Nat.pow_zero, Nat.mul_one] at hexact
      rw [hexact]
      rw [Nat.pow_zero] at hm
      change m < 2 ^ 53
      omega
    | succ k =>
      -- the last bit that is shifted out is not set
      have hhalf : m / 2 ^ k < 2 ^ 54 - 1 := by
        rw [Nat.div_lt_iff_lt_mul (Nat.two_pow_pos k)]
        rw [Nat.pow_succ] at hm
        omega
      rw [Nat.pow_succ, ← Nat.div_div_eq_div_mul] at htop
      have heven := roundedMantissa_shiftRightOne
        (ExtendedMantissa.ofMantissaAndAccuracy m .exact >>> k)
      rw [mantissa_shiftRight, mantissa_ofMantissaAndAccuracy] at heven
      change (ExtendedMantissa.ofMantissaAndAccuracy m .exact >>> k).shiftRightOne.roundedMantissa < _
      rw [heven (by omega)]
      omega
  · omega

theorem shiftToTargetExponent_eq (m : Nat) (e : Int) (a : Accuracy) :
    ∃ k : Nat, (e + k : Int) = max e (max (m.log2 + 1 + e - 53) (-1074)) ∧
      shiftToTargetExponent .binary64 m e a =
        (ExtendedMantissa.ofMantissaAndAccuracy m a >>> k, e + k) := by
  refine ⟨_, ?_, rfl⟩
  rw [targetExponent_eq, totalExponent]
  omega

/-- Rounding shifts to the exponent of 53 bits, rounds, and shifts once more in case that has added
a bit. -/
theorem roundWithAccuracy_eq {s : Sign} {m : Nat} {e : Int} {a : Accuracy}
    {first second : ExtendedMantissa × Int}
    (hfirst : shiftToTargetExponent .binary64 m e a = first)
    (hsecond : shiftToTargetExponent .binary64 first.1.roundedMantissa first.2 .exact = second) :
    roundWithAccuracy .binary64 s m e a = signed s second.1.mantissa second.2 := by
  subst hfirst hsecond
  rfl

/-- A rounded significand is finite if the two shifts leave an exponent that is not too large. -/
theorem roundWithAccuracy_shifts (s : Sign) (m : Nat) (e : Int) (a : Accuracy) :
    ∃ k j : Nat, (e + k : Int) = max e (max (m.log2 + 1 + e - 53) (-1074)) ∧
      (e + k + j : Int) = max (e + k) (max
        ((ExtendedMantissa.ofMantissaAndAccuracy m a >>> k).roundedMantissa.log2 + 1 + (e + k) - 53)
        (-1074)) ∧
      (e + k + j ≤ maxExponent →
        (Float.Model.pack (roundWithAccuracy .binary64 s m e a)).isFinite = true) := by
  obtain ⟨k, hk, hfirst⟩ := shiftToTargetExponent_eq m e a
  obtain ⟨j, hj, hsecond⟩ := shiftToTargetExponent_eq
    (ExtendedMantissa.ofMantissaAndAccuracy m a >>> k).roundedMantissa (e + k) .exact
  refine ⟨k, j, hk, hj, fun hle => ?_⟩
  rw [roundWithAccuracy_eq hfirst hsecond]
  exact isFinite_signed hle

theorem isFinite_roundWithAccuracy {s : Sign} {m : Nat} {e : Int} (he : e ≤ maxExponent)
    (hm : 2 * m < (2 ^ 54 - 1) * 2 ^ (maxExponent - e).toNat) :
    (Float.Model.pack (roundWithAccuracy .binary64 s m e .exact)).isFinite = true := by
  obtain ⟨k, j, hk, hj, hfinite⟩ := roundWithAccuracy_shifts s m e .exact
  rw [maxExponent] at he hm hfinite
  -- the exact value is below two to the power 1024
  have hlog : (m.log2 : Int) + e < 1024 := by
    have hlt : m < 2 ^ (52 + (971 - e).toNat + 1) := by
      rw [Nat.add_right_comm, Nat.pow_add]
      omega
    have := log2_lt_of_lt hlt
    omega
  apply hfinite
  by_cases htop : e + k = 971
  · have hlt := rounded_lt (m := m) (k := k) (by omega) (by rwa [show k = (971 - e).toNat by omega])
    have := log2_lt_of_lt (k := 52) hlt
    omega
  · have := log2_rounded_lt (m := m) (k := k) .exact (by omega)
    omega

/-- Whatever is lost before rounding, the result is finite if it stays below the largest powers. -/
theorem isFinite_roundWithAccuracy_of_log2 {s : Sign} {m : Nat} {e : Int} {a : Accuracy}
    (he : e < maxExponent) (hlog : (m.log2 : Int) + e ≤ 1022) :
    (Float.Model.pack (roundWithAccuracy .binary64 s m e a)).isFinite = true := by
  obtain ⟨k, j, hk, hj, hfinite⟩ := roundWithAccuracy_shifts s m e a
  rw [maxExponent] at he hfinite
  apply hfinite
  have := log2_rounded_lt (m := m) (k := k) a (by omega)
  omega

theorem natAbs_num_le {q : Rat} {bound : Nat} (h : |q| ≤ bound) : q.num.natAbs ≤ bound * q.den := by
  have hden : (0 : Rat) < q.den := by exact_mod_cast q.den_pos
  have hnum : |(q.num : Rat)| ≤ bound * q.den := by
    rwa [← Rat.num_div_den q, abs_div, Nat.abs_cast, div_le_iff₀ hden] at h
  rw [← Int.cast_abs, ← Int.natCast_natAbs] at hnum
  exact_mod_cast hnum

/-- The double closest to a number that is not too large is finite. -/
theorem isFinite_nearest_of_abs_le {q : Rat} {bound : Nat} (hbound : bound.log2 ≤ 1022)
    (hq : |q| ≤ bound) : (nearest q).isFinite = true := by
  unfold nearest
  split
  · decide
  · have hparts := natAbs_num_le hq
    change (Float.Model.pack _).isFinite = true
    unfold UnpackedFloat.div divCore
    dsimp only
    generalize hexponent : min ((0 : Int) - 0) _ = e
    have he : e ≤ 0 := by omega
    apply isFinite_roundWithAccuracy_of_log2
    · rw [maxExponent]
      omega
    · obtain ⟨k, rfl⟩ : ∃ k : Nat, e = -k := ⟨(-e).toNat, by omega⟩
      rw [show ((0 : Int) - 0 - -k).toNat = k by omega, Nat.shiftLeft_eq]
      have hlt : q.num.natAbs * 2 ^ k / q.den < 2 ^ (bound.log2 + k + 1) := by
        rw [Nat.div_lt_iff_lt_mul q.den_pos, Nat.add_right_comm, Nat.pow_add]
        calc q.num.natAbs * 2 ^ k ≤ bound * q.den * 2 ^ k := Nat.mul_le_mul_right _ hparts
          _ < 2 ^ (bound.log2 + 1) * q.den * 2 ^ k :=
            Nat.mul_lt_mul_of_pos_right
              (Nat.mul_lt_mul_of_pos_right Nat.lt_log2_self q.den_pos) (Nat.two_pow_pos k)
          _ = 2 ^ (bound.log2 + 1) * 2 ^ k * q.den := Nat.mul_right_comm ..
      have := log2_lt_of_lt hlt
      omega

theorem isFinite_normalize {m : Int} {e : Int} {s : Sign} (he : e ≤ maxExponent)
    (hm : 2 * m.natAbs < (2 ^ 54 - 1) * 2 ^ (maxExponent - e).toNat) :
    (Float.Model.pack (UnpackedFloat.normalize .binary64 m e s)).isFinite = true := by
  have hround (sign : Sign) (n : Nat) (hn : n = m.natAbs) :
      (Float.Model.pack (UnpackedFloat.round .binary64 sign n e)).isFinite = true := by
    subst hn
    unfold UnpackedFloat.round decreaseExponent
    dsimp only
    generalize hk : (e - _).toNat = k
    apply isFinite_roundWithAccuracy (by omega)
    rw [Nat.shiftLeft_eq, show (maxExponent - (e - k)).toNat = (maxExponent - e).toNat + k by omega,
      Nat.pow_add, ← Nat.mul_assoc, ← Nat.mul_assoc]
    exact Nat.mul_lt_mul_of_pos_right hm (Nat.two_pow_pos k)
  unfold UnpackedFloat.normalize
  split
  · rename_i h
    exact hround _ _ (by have := Int.compare_eq_lt.1 h; omega)
  · cases s <;> rfl
  · rename_i h
    exact hround _ _ (by have := Int.compare_eq_gt.1 h; omega)

/-! ### Order -/

theorem lt_iff_compare {x y : Float} :
    x < y ↔ x.toModel.unpack.compare y.toModel.unpack = some .lt := by
  change decide (x.toModel.unpack.lt y.toModel.unpack = true) = true ↔ _
  rw [decide_eq_true_eq, UnpackedFloat.lt, beq_iff_eq]

theorem le_iff_compare {x y : Float} :
    x ≤ y ↔ (x.toModel.unpack.compare y.toModel.unpack).any (·.isLE) = true := by
  change decide (x.toModel.unpack.le y.toModel.unpack = true) = true ↔ _
  rw [decide_eq_true_eq, UnpackedFloat.le]

theorem unpack_zero : (0.0 : Float).toModel.unpack = .zero .positive := rfl

theorem pos_of_not_le {x : Float} (hnan : x.isNaN = false) (h : ¬x ≤ 0.0) : 0.0 < x := by
  change x.toModel.unpack.isNaN = false at hnan
  rw [le_iff_compare, unpack_zero] at h
  rw [lt_iff_compare, unpack_zero]
  cases hu : x.toModel.unpack with
  | notANumber => rw [hu] at hnan; cases hnan
  | zero s => rw [hu] at h; exact absurd rfl h
  | infinity s | finite s m e hm =>
    cases s with
    | negative => rw [hu] at h; exact absurd rfl h
    | positive => rfl

theorem le_of_lt {x y : Float} (h : x < y) : x ≤ y := by
  rw [le_iff_compare, lt_iff_compare.1 h]
  rfl

/-! ### Differences -/

theorem decreaseExponent_le {m : Nat} {e t : Int} (hm : m < 2 ^ 53) (he : e ≤ maxExponent) :
    m <<< (e - t).toNat ≤ (2 ^ 53 - 1) * 2 ^ (maxExponent - t).toNat := by
  rw [Nat.shiftLeft_eq]
  exact Nat.mul_le_mul (by omega) (Nat.pow_le_pow_right (by decide) (by omega))

/-- A double that is at least zero has no negative sign, unless it is a zero. -/
theorem unpack_of_nonneg {x : Float} (hx : x.isFinite = true) (h : 0.0 ≤ x) :
    (∃ s, x.toModel.unpack = .zero s) ∨
    ∃ m e hm, x.toModel.unpack = .finite .positive m e hm := by
  change x.toModel.unpack.isFinite = true at hx
  rw [le_iff_compare, unpack_zero] at h
  cases hu : x.toModel.unpack with
  | notANumber | infinity s => rw [hu] at hx; cases hx
  | zero s => exact .inl ⟨s, rfl⟩
  | finite s m e hm =>
    cases s with
    | negative => rw [hu] at h; cases h
    | positive => exact .inr ⟨m, e, hm, rfl⟩

theorem isFinite_normalize_of_le {m n : Nat} {e f z : Int} {s : Sign}
    (hm : m < 2 ^ 53 ∧ e ≤ maxExponent) (hn : n < 2 ^ 53 ∧ f ≤ maxExponent)
    (hz : z.natAbs ≤ max (m <<< (e - min e f).toNat) (n <<< (f - min e f).toNat)) :
    (Float.Model.pack (UnpackedFloat.normalize .binary64 z (min e f) s)).isFinite = true := by
  have hmax := decreaseExponent_le (t := min e f) hm.1 hm.2
  have hmax' := decreaseExponent_le (t := min e f) hn.1 hn.2
  have he := hm.2
  have hpos := Nat.two_pow_pos (maxExponent - min e f).toNat
  exact isFinite_normalize (by omega) (by omega)

/-- The difference of finite doubles that are not negative is finite. -/
theorem isFinite_sub {x y : Float} (hx : x.isFinite = true) (hy : y.isFinite = true)
    (hx0 : 0.0 ≤ x) (hy0 : 0.0 ≤ y) : (x - y).isFinite = true := by
  change (Float.Model.pack (UnpackedFloat.sub .binary64 x.toModel.unpack
    y.toModel.unpack)).isFinite = true
  rcases unpack_of_nonneg hx hx0 with ⟨s, hu⟩ | ⟨m, e, hm, hu⟩ <;>
    rcases unpack_of_nonneg hy hy0 with ⟨t, hv⟩ | ⟨n, f, hn, hv⟩ <;> rw [hu, hv]
  · cases s <;> cases t <;> rfl
  · change (Float.Model.pack (.finite _ n f hn)).isFinite = true
    exact isFinite_pack hn (unpack_bounds hv).2
  · change (Float.Model.pack (.finite _ m e hm)).isFinite = true
    exact isFinite_pack hm (unpack_bounds hu).2
  · apply isFinite_normalize_of_le (unpack_bounds hu) (unpack_bounds hv)
    simp only [Sign.apply]
    generalize m <<< (e - min e f).toNat = a
    generalize n <<< (f - min e f).toNat = b
    omega

/-- The difference of a finite double and one that is far smaller than the largest is finite. -/
theorem isFinite_sub_of_exponent_le {x y : Float} {t : Sign} {n : Nat} {f : Int} {hn : 0 < n}
    (hx : x.isFinite = true) (hy : y.toModel.unpack = .finite t n f hn) (hf : f ≤ 917) :
    (x - y).isFinite = true := by
  change (Float.Model.pack (UnpackedFloat.sub .binary64 x.toModel.unpack
    y.toModel.unpack)).isFinite = true
  change x.toModel.unpack.isFinite = true at hx
  have hy53 := (unpack_bounds hy).1
  rw [hy]
  cases hu : x.toModel.unpack with
  | notANumber | infinity => rw [hu] at hx; cases hx
  | zero s =>
    change (Float.Model.pack (.finite _ n f hn)).isFinite = true
    exact isFinite_pack hn (unpack_bounds hy).2
  | finite s m e hm =>
    have hlarge := decreaseExponent_le (t := min e f) (unpack_bounds hu).1 (unpack_bounds hu).2
    have he := (unpack_bounds hu).2
    have hsmall : n <<< (f - min e f).toNat < 2 ^ (maxExponent - 1 - min e f).toNat := by
      rw [Nat.shiftLeft_eq]
      calc n * 2 ^ (f - min e f).toNat < 2 ^ 53 * 2 ^ (f - min e f).toNat :=
            Nat.mul_lt_mul_of_pos_right hy53 (Nat.two_pow_pos _)
        _ = 2 ^ (53 + (f - min e f).toNat) := (Nat.pow_add ..).symm
        _ ≤ 2 ^ (maxExponent - 1 - min e f).toNat :=
            Nat.pow_le_pow_right (by decide) (by rw [maxExponent]; omega)
    have hdouble : 2 ^ (maxExponent - min e f).toNat
        = 2 * 2 ^ (maxExponent - 1 - min e f).toNat := by
      rw [Nat.mul_comm, ← Nat.pow_succ]
      congr 1
      rw [maxExponent]
      omega
    apply isFinite_normalize (by omega)
    rw [hdouble] at hlarge ⊢
    generalize 2 ^ (maxExponent - 1 - min e f).toNat = half at hlarge hsmall ⊢
    generalize m <<< (e - min e f).toNat = a at hlarge ⊢
    generalize n <<< (f - min e f).toNat = b at hsmall ⊢
    cases s <;> cases t <;> simp only [Sign.apply] <;> omega

/-- The sum of a negative double and one that is not negative is finite if they are. -/
theorem isFinite_add_of_neg {x y : Float} (hx : x.isFinite = true) (hy : y.isFinite = true)
    (hx0 : x < 0.0) (hy0 : 0.0 ≤ y) : (x + y).isFinite = true := by
  change (Float.Model.pack (UnpackedFloat.add .binary64 x.toModel.unpack
    y.toModel.unpack)).isFinite = true
  change x.toModel.unpack.isFinite = true at hx
  rw [lt_iff_compare, unpack_zero] at hx0
  cases hu : x.toModel.unpack with
  | notANumber | infinity => rw [hu] at hx; cases hx
  | zero s => rw [hu] at hx0; cases s <;> cases hx0
  | finite s m e hm =>
    cases s with
    | positive => rw [hu] at hx0; cases hx0
    | negative =>
      rcases unpack_of_nonneg hy hy0 with ⟨t, hv⟩ | ⟨n, f, hn, hv⟩ <;> rw [hv]
      · change (Float.Model.pack (.finite _ m e hm)).isFinite = true
        exact isFinite_pack hm (unpack_bounds hu).2
      · apply isFinite_normalize_of_le (unpack_bounds hu) (unpack_bounds hv)
        simp only [Sign.apply]
        generalize m <<< (e - min e f).toNat = a
        generalize n <<< (f - min e f).toNat = b
        omega

/-- Nothing is lost or gained by adding zero, but the sign of a zero. -/
theorem isFinite_add_zero {x : Float} (hx : x.isFinite = true) : (x + 0.0).isFinite = true := by
  change (Float.Model.pack (UnpackedFloat.add .binary64 x.toModel.unpack
    (0.0 : Float).toModel.unpack)).isFinite = true
  change x.toModel.unpack.isFinite = true at hx
  rw [unpack_zero]
  cases hu : x.toModel.unpack with
  | notANumber | infinity => rw [hu] at hx; cases hx
  | zero s => cases s <;> rfl
  | finite s m e hm =>
    change (Float.Model.pack (.finite _ m e hm)).isFinite = true
    exact isFinite_pack hm (unpack_bounds hu).2

end SpriteStage.Double
