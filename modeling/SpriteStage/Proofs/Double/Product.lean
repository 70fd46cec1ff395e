import SpriteStage.Proofs.Double.Whole

/-!
# Bounds on products

Doubles that are not negative are ordered by their exponents first. The exponent of a product is the
sum of the exponents of the factors and the bits that rounding takes off the product of their
significands, which are no more than 54.
-/

namespace SpriteStage.Double

open Float.Model Float.Model.UnpackedFloat

theorem compare_of_exponent_lt {s : Sign} {m n : Nat} {e f : Int} {hm : 0 < m} {hn : 0 < n}
    (h : e < f) :
    (UnpackedFloat.finite s m e hm).compare (.finite .positive n f hn) = some .lt := by
  cases s with
  | negative => rfl
  | positive => simp [UnpackedFloat.compare, Int.compare_eq_lt.2 h]

theorem exponent_le_of_compare {m n : Nat} {e f : Int} {hm : 0 < m} {hn : 0 < n}
    (h : (UnpackedFloat.finite .positive m e hm).compare (.finite .positive n f hn) = some .lt) :
    e ≤ f := by
  by_contra hlt
  simp [UnpackedFloat.compare, Int.compare_eq_gt.2 (Int.not_le.1 hlt)] at h

/-- What is packed with a small exponent field is smaller than a positive number with a larger
exponent. -/
theorem compare_unpack_packComponents {s : Sign} {x : BitVec 11} {m : BitVec 52} {n : Nat} {f : Int}
    {hn : 0 < n} (hx : x.toNat < 2047) (hlt : (x.toNat : Int) - 1075 < f) (hf : -1074 < f) :
    (UnpackedFloat.unpack .binary64 (packComponents .binary64 s x m)).compare
      (.finite .positive n f hn) = some .lt := by
  have hbias : (Format.binary64.exponentBias : Int) = 1023 := rfl
  have hwidth : (Format.binary64.mantissaBitsWithoutImplicit : Int) = 52 := rfl
  have hne : x ≠ -1#11 := by
    rintro rfl
    exact absurd hx (by decide)
  unfold UnpackedFloat.unpack
  simp only [unpackExponent_packComponents, if_neg hne, hbias, hwidth]
  split
  · rename_i hzero
    split
    · rfl
    · apply compare_of_exponent_lt
      rw [hzero, BitVec.toNat_zero]
      omega
  · apply compare_of_exponent_lt
    omega

/-- A significand that is packed with a small exponent is smaller than a positive number with a
larger exponent. -/
theorem compare_unpack_pack {s : Sign} {m n : Nat} {e f : Int} {hn : 0 < n} (hlt : e < f)
    (he : e ≤ maxExponent) (hf : -1074 < f) :
    (Float.Model.pack (signed s m e)).unpack.compare (.finite .positive n f hn) = some .lt := by
  rw [maxExponent] at he
  unfold signed
  split
  · cases s <;> rfl
  change (UnpackedFloat.unpack .binary64 (UnpackedFloat.pack .binary64 _)).compare _ = _
  unfold UnpackedFloat.pack
  simp only [exponentField_eq e]
  rw [if_neg (by omega)]
  have hfield : (BitVec.ofNat 11 (e + 1075).toNat).toNat = (e + 1075).toNat := by
    rw [BitVec.toNat_ofNat, Nat.mod_eq_of_lt (by omega)]
  split
  · apply compare_unpack_packComponents _ _ hf
    · rw [hfield]; omega
    · rw [hfield]; omega
  · apply compare_unpack_packComponents (by decide) _ hf
    change (0 : Int) - 1075 < f
    omega

theorem log2_mul_lt {x y : Float} {s t : Sign} {m n : Nat} {e f : Int} {hm : 0 < m} {hn : 0 < n}
    (hx : x.toModel.unpack = .finite s m e hm) (hy : y.toModel.unpack = .finite t n f hn) :
    (m * n).log2 < 106 := by
  apply log2_lt_of_lt
  calc m * n < 2 ^ 53 * 2 ^ 53 :=
        Nat.mul_lt_mul_of_lt_of_lt (unpack_bounds hx).1 (unpack_bounds hy).1
    _ = 2 ^ (105 + 1) := by decide

/-- A product is smaller than a positive number whose exponent is larger by more than the bits that
are rounded off. -/
theorem mul_lt_of_exponents {x y z : Float} {s t : Sign} {m n k : Nat} {e f g : Int} {hm : 0 < m}
    {hn : 0 < n} {hk : 0 < k} (hx : x.toModel.unpack = .finite s m e hm)
    (hy : y.toModel.unpack = .finite t n f hn) (hz : z.toModel.unpack = .finite .positive k g hk)
    (hlt : e + f + 54 < g) (hmin : -1073 < g) (hmax : g ≤ maxExponent) : x * y < z := by
  rw [lt_iff_compare, hz]
  change (Float.Model.pack (UnpackedFloat.mul .binary64 x.toModel.unpack
    y.toModel.unpack)).unpack.compare _ = _
  rw [hx, hy]
  change (Float.Model.pack (roundWithAccuracy .binary64 (s * t) (m * n) (e + f)
    .exact)).unpack.compare _ = _
  have hlog := log2_mul_lt hx hy
  obtain ⟨i, hi, hfirst⟩ := shiftToTargetExponent_eq (m * n) (e + f) .exact
  obtain ⟨j, hj, hsecond⟩ := shiftToTargetExponent_eq
    (ExtendedMantissa.ofMantissaAndAccuracy (m * n) .exact >>> i).roundedMantissa (e + f + i) .exact
  rw [roundWithAccuracy_eq hfirst hsecond]
  have := log2_rounded_lt (m := m * n) (k := i) .exact (by omega)
  exact compare_unpack_pack (by omega) (by omega) (by omega)

/-- The product of a finite double and one that is smaller than one half is finite. -/
theorem isFinite_mul_of_exponent_le {x y : Float} {t : Sign} {n : Nat} {f : Int} {hn : 0 < n}
    (hx : x.isFinite = true) (hy : y.toModel.unpack = .finite t n f hn) (hf : f ≤ -54) :
    (x * y).isFinite = true := by
  change (Float.Model.pack (UnpackedFloat.mul .binary64 x.toModel.unpack
    y.toModel.unpack)).isFinite = true
  change x.toModel.unpack.isFinite = true at hx
  rw [hy]
  cases hu : x.toModel.unpack with
  | notANumber | infinity => rw [hu] at hx; cases hx
  | zero s =>
    change (Float.Model.pack (.zero (s * t))).isFinite = true
    cases s <;> cases t <;> rfl
  | finite s m e hm =>
    have hlog := log2_mul_lt hu hy
    have he := (unpack_bounds hu).2
    rw [maxExponent] at he
    change (Float.Model.pack (roundWithAccuracy .binary64 (s * t) (m * n) (e + f)
      .exact)).isFinite = true
    exact isFinite_roundWithAccuracy_of_log2 (by rw [maxExponent]; omega) (by omega)

/-- What lies between two positive numbers is positive, and its exponent is no larger than that of
the larger one. -/
theorem exists_unpack_of_between {x y z : Float} {m n : Nat} {e f : Int} {hm : 0 < m} {hn : 0 < n}
    (hx : x.toModel.unpack = .finite .positive m e hm)
    (hz : z.toModel.unpack = .finite .positive n f hn) (hxy : x < y) (hyz : y < z) :
    ∃ k g hk, y.toModel.unpack = .finite .positive k g hk ∧ g ≤ f := by
  rw [lt_iff_compare, hx] at hxy
  rw [lt_iff_compare, hz] at hyz
  cases hy : y.toModel.unpack with
  | notANumber => rw [hy] at hxy; cases hxy
  | infinity s =>
    cases s with
    | positive => rw [hy] at hyz; cases hyz
    | negative => rw [hy] at hxy; cases hxy
  | zero s => rw [hy] at hxy; cases hxy
  | finite s k g hk =>
    cases s with
    | negative => rw [hy] at hxy; cases hxy
    | positive =>
      rw [hy] at hyz
      exact ⟨k, g, hk, rfl, exponent_le_of_compare hyz⟩

end SpriteStage.Double
