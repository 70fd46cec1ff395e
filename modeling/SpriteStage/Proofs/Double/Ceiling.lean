import SpriteStage.Proofs.Double.Whole

/-!
# Ceilings of doubles

The rational number of a double has the sign of the double, so taking the larger of zero and a
double, and rounding up, gives what it gives exactly. Rounding a whole number keeps its sign, and
leaves a number of more than 53 bits no smaller than any number of 53 bits. Therefore it makes no
difference below a small bound whether a whole number is rounded first.
-/

namespace SpriteStage.Double

open Float.Model Float.Model.UnpackedFloat

/-! ### The rational number of a double -/

/-- A significand with a sign and an exponent denotes a rational number. -/
def signedSize (s : Sign) (m : Nat) (e : Int) : Rat :=
  match s with
  | .positive => m * 2 ^ e
  | .negative => -(m * 2 ^ e)

theorem rational?_of_unpack {x : Float} {s : Sign} {m : Nat} {e : Int} {hm : 0 < m}
    (h : x.toModel.unpack = .finite s m e hm) : rational? x = some (signedSize s m e) := by
  have hsize : (if 0 ≤ e then ((m * Nat.pow 2 e.toNat : Nat) : Rat)
      else mkRat m (Nat.pow 2 (-e).toNat)) = m * 2 ^ e := by
    split
    · rename_i he
      obtain ⟨k, rfl⟩ := Int.eq_ofNat_of_zero_le he
      change ((m * 2 ^ k : Nat) : Rat) = m * 2 ^ (k : Int)
      rw [Nat.cast_mul, Nat.cast_pow, Nat.cast_ofNat, zpow_natCast]
    · rename_i he
      obtain ⟨k, hk⟩ := Int.eq_ofNat_of_zero_le (show 0 ≤ -e by omega)
      obtain rfl : e = -k := by omega
      rw [Rat.mkRat_eq_div, neg_neg, zpow_neg, zpow_natCast, ← div_eq_mul_inv]
      change (m : Rat) / ((2 ^ k : Nat) : Rat) = _
      rw [Nat.cast_pow, Nat.cast_ofNat]
  rw [rational?, h]
  dsimp only
  rw [hsize]
  cases s <;> rfl

theorem size_pos {m : Nat} (hm : 0 < m) (e : Int) : (0 : Rat) < m * 2 ^ e :=
  mul_pos (Nat.cast_pos.2 hm) (zpow_pos two_pos e)

/-- A double is positive if its rational number is. -/
theorem zero_lt_iff {x : Float} {q : Rat} (h : rational? x = some q) : 0.0 < x ↔ 0 < q := by
  rw [lt_iff_compare, unpack_zero]
  cases hu : x.toModel.unpack with
  | notANumber | infinity s =>
    rw [rational?, hu] at h
    cases h
  | zero s =>
    rw [rational?, hu] at h
    cases h
    exact iff_of_false (by intro hlt; cases hlt) (lt_irrefl _)
  | finite s m e hm =>
    cases (rational?_of_unpack hu).symm.trans h
    have hpos := size_pos hm e
    cases s with
    | positive => exact iff_of_true rfl hpos
    | negative =>
      exact iff_of_false (by intro hlt; cases hlt) (not_lt.2 (neg_nonpos.2 hpos.le))

theorem rational?_atLeastZero {x : Float} {q : Rat} (h : rational? x = some q) :
    rational? (atLeastZero x) = some (max 0 q) := by
  rw [atLeastZero]
  split
  · rename_i hpos
    rw [h, max_eq_right ((zero_lt_iff h).1 hpos).le]
  · rename_i hneg
    rw [max_eq_left (not_lt.1 fun hpos => hneg ((zero_lt_iff h).2 hpos))]
    decide

theorem ceil?_atLeastZero {x : Float} {q : Rat} (h : rational? x = some q) :
    ceil? (atLeastZero x) = some (max 0 q).ceil := by
  rw [ceil?, rational?_atLeastZero h, Option.map_some]

/-- The number of a finite double, and zero for the others. -/
theorem rational?_finite (x : Float) : rational? (finite x) = some ((rational? x).getD 0) := by
  unfold finite
  split
  · rename_i hx
    obtain ⟨q, hq⟩ := exists_rational? hx
    rw [hq, Option.getD_some]
  · rename_i hx
    have hnone : rational? x = none := by
      change ¬x.toModel.unpack.isFinite = true at hx
      rw [rational?]
      cases hu : x.toModel.unpack with
      | notANumber | infinity s => rfl
      | zero s | finite s m e hm =>
        rw [hu] at hx
        exact absurd rfl hx
    rw [hnone]
    decide

/-! ### Whole numbers -/

theorem mantissa_le_rounded (em : ExtendedMantissa) : em.mantissa ≤ em.roundedMantissa := by
  rcases em with ⟨m, roundBit, stickyBit⟩
  cases roundBit <;> cases stickyBit <;>
    simp only [ExtendedMantissa.roundedMantissa, ExtendedMantissa.accuracy,
      Accuracy.roundToNearestEven] <;> omega

/-- A significand of at least 53 bits is rounded to 53 bits, and the exponent makes up for the bits
that are lost. -/
theorem roundWithAccuracy_normal (s : Sign) {m : Nat} {e : Int} (a : Accuracy) (hm : 52 ≤ m.log2)
    (he : -1074 ≤ m.log2 + e - 52) :
    ∃ m' e' hm', roundWithAccuracy .binary64 s m e a = .finite s m' e' hm' ∧ m'.log2 = 52 ∧
      (m.log2 : Int) + e - 52 ≤ e' ∧ e' ≤ m.log2 + e - 51 := by
  obtain ⟨k, hk, hfirst⟩ := shiftToTargetExponent_eq m e a
  have hlog : m.log2 = 52 + k := by omega
  have hlow : 2 ^ 52 ≤ m / 2 ^ k := by
    rw [Nat.le_div_iff_mul_le (Nat.two_pow_pos _), ← Nat.pow_add, ← hlog]
    exact Nat.log2_self_le (by rintro rfl; simp at hm)
  have hge := mantissa_le_rounded (ExtendedMantissa.ofMantissaAndAccuracy m a >>> k)
  have hle := rounded_le (m := m) (k := k) a (by omega)
  have hlog54 := log2_rounded_lt (m := m) (k := k) a (by omega)
  obtain ⟨j, hj, hsecond⟩ := shiftToTargetExponent_eq
    (ExtendedMantissa.ofMantissaAndAccuracy m a >>> k).roundedMantissa (e + k) .exact
  have hround := roundWithAccuracy_eq (s := s) hfirst hsecond
  rw [mantissa_shiftRight, mantissa_ofMantissaAndAccuracy] at hge
  dsimp only at hround
  rw [mantissa_shiftRight, mantissa_ofMantissaAndAccuracy] at hround
  generalize (ExtendedMantissa.ofMantissaAndAccuracy m a >>> k).roundedMantissa = r
    at hge hle hlog54 hj hround
  have hr : (r / 2 ^ j).log2 = 52 := by
    rcases hle.lt_or_eq with hlt | rfl
    · have := (Nat.log2_eq_iff (k := 52) (by omega : r ≠ 0)).2 ⟨by omega, hlt⟩
      obtain rfl : j = 0 := by omega
      rwa [Nat.pow_zero, Nat.div_one]
    · -- all bits rounded up
      rw [Nat.log2_two_pow] at hj
      obtain rfl : j = 1 := by omega
      decide
  have hpos : 0 < r / 2 ^ j := Nat.pos_of_ne_zero fun h => by simp [h] at hr
  refine ⟨r / 2 ^ j, e + k + j, hpos, ?_, hr, by omega, by omega⟩
  rw [hround, signed, dif_neg (Nat.ne_of_gt hpos)]

theorem isFinite_pack_of_lt {s : Sign} {m : Nat} {e : Int} (hm : 0 < m) (he : maxExponent < e) :
    (Float.Model.pack (.finite s m e hm)).isFinite = false := by
  rw [maxExponent] at he
  change (UnpackedFloat.unpack .binary64 (UnpackedFloat.pack .binary64 _)).isFinite = false
  rw [UnpackedFloat.pack]
  simp only [exponentField_eq e]
  rw [if_pos (by omega)]
  cases s <;> decide

/-- Rounding a whole number keeps its sign. A number of more than 53 bits keeps its size but for the
last bits. -/
theorem unpack_nearest_intCast {n : Int} (hn : n ≠ 0) (h : (nearest n).isFinite = true) :
    ∃ m e hm, (nearest n).toModel.unpack = .finite (signOf n) m e hm ∧ m.log2 = 52 ∧
      (n.natAbs.log2 : Int) - 52 ≤ e := by
  have hpos : n.natAbs ≠ 0 := Int.natAbs_ne_zero.2 hn
  have hlog := log2_mul_two_pow hpos (53 - n.natAbs.log2)
  obtain ⟨m, e, hm, hround, hm52, he, -⟩ := roundWithAccuracy_normal (signOf n)
    (m := n.natAbs * 2 ^ (53 - n.natAbs.log2)) (e := -(53 - n.natAbs.log2 : Nat)) .exact
    (by omega) (by omega)
  have hnearest := nearest_intCast hn
  rw [div_one_eq, hround] at hnearest
  rw [hnearest] at h ⊢
  have hmax : e ≤ maxExponent := by
    by_contra hlt
    have := isFinite_pack_of_lt (s := signOf n) hm (Int.not_le.1 hlt)
    exact Bool.false_ne_true (this.symm.trans h)
  exact ⟨m, e, hm, unpack_pack hm hm52 (by omega) hmax, hm52, by omega⟩

theorem ofInt?_eq_some {n : Int} {x : Float} :
    ofInt? n = some x ↔ (nearest n).isFinite = true ∧ nearest n = x := by
  unfold ofInt?
  dsimp only
  split <;> simp_all

/-- Rounding a whole number keeps it on its side of zero, and above all numbers of 52 bits if it has
more than 53. -/
theorem rational?_of_ofInt? {n : Int} {x : Float} {q : Rat} (hx : ofInt? n = some x)
    (hq : rational? x = some q) :
    (n ≤ 0 → q ≤ 0) ∧ (0 ≤ n → n < 2 ^ 53 → q = n) ∧ (2 ^ 53 ≤ n → 2 ^ 52 ≤ q) := by
  obtain ⟨hfinite, rfl⟩ := ofInt?_eq_some.1 hx
  have small (h : 0 ≤ n) (hlt : n < 2 ^ 53) : q = n := by
    obtain ⟨k, rfl⟩ := Int.eq_ofNat_of_zero_le h
    exact Option.some.inj (hq.symm.trans (rational?_nearest (by omega)))
  refine ⟨fun h => ?_, small, fun h => ?_⟩
  · rcases h.lt_or_eq with hneg | rfl
    · obtain ⟨m, e, hm, hu, -⟩ := unpack_nearest_intCast (by omega) hfinite
      rw [signOf, if_pos hneg] at hu
      cases (rational?_of_unpack hu).symm.trans hq
      exact neg_nonpos.2 (size_pos hm e).le
    · exact (small le_rfl (by decide)).le
  · obtain ⟨m, e, hm, hu, hlog, he⟩ := unpack_nearest_intCast (by omega) hfinite
    rw [signOf, if_neg (by omega)] at hu
    cases (rational?_of_unpack hu).symm.trans hq
    have hm52 : (2 : Rat) ^ 52 ≤ m := by
      have := Nat.log2_self_le (Nat.ne_of_gt hm)
      rw [hlog] at this
      exact_mod_cast this
    have hlarge : 53 ≤ n.natAbs.log2 := (Nat.le_log2 (by omega)).2 (by omega)
    have he0 : (1 : Rat) ≤ 2 ^ e := one_le_zpow₀ one_le_two (by omega)
    calc (2 : Rat) ^ 52 ≤ m := hm52
      _ = m * 1 := (mul_one _).symm
      _ ≤ m * 2 ^ e := mul_le_mul_of_nonneg_left he0 (Nat.cast_nonneg m)

/-- It makes no difference to the smaller of a bound and a whole number whether the number is
rounded to a double first. -/
theorem min_ceil_of_ofInt? {n : Int} {x : Float} {q : Rat} {bound : Nat} (hbound : bound ≤ 2 ^ 52)
    (hx : ofInt? n = some x) (hq : rational? x = some q) :
    min bound (max 0 q).ceil.toNat = min bound (max 0 (n : Rat)).ceil.toNat := by
  obtain ⟨hneg, hsmall, hlarge⟩ := rational?_of_ofInt? hx hq
  rcases le_total n 0 with h | h
  · rw [max_eq_left (hneg h), max_eq_left (Int.cast_nonpos.2 h)]
  by_cases hlt : n < 2 ^ 53
  · rw [hsmall h hlt]
  · have hn : (2 : Rat) ^ 52 ≤ n := by
      have : ((2 ^ 53 : Int) : Rat) ≤ n := Int.cast_le.2 (by omega)
      push_cast at this
      linarith
    have bounded (r : Rat) (hr : 2 ^ 52 ≤ r) : min bound (max 0 r).ceil.toNat = bound := by
      rw [max_eq_right (le_trans (by positivity) hr)]
      have hle : (2 ^ 52 : Rat) ≤ r.ceil := hr.trans Rat.le_ceil
      have : (2 ^ 52 : Int) ≤ r.ceil := by exact_mod_cast hle
      omega
    rw [bounded q (hlarge (by omega)), bounded n hn]

end SpriteStage.Double
