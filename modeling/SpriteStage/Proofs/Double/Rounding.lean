import SpriteStage.Proofs.Double.Packing
import SpriteStage.Proofs.Double.Grid

/-!
# What rounding does

Rounding shifts out the bits behind 53, or behind the least exponent. What is lost decides whether
the significand goes up by one, so that the result is the closest number that fits, and of two the
even one. It is in canonical form, which packing keeps.
-/

namespace SpriteStage.Double

open Float.Model Float.Model.UnpackedFloat

/-! ### Canonical forms -/

/-- A significand has 53 bits, or fewer at the least exponent. -/
structure Canonical (m : Nat) (e : Int) : Prop where
  bits : m < 2 ^ 53
  least : -1074 ≤ e
  full : 2 ^ 52 ≤ m ∨ e = -1074

/-- Significands are unpacked in their canonical form. -/
theorem canonical_of_unpack {x : Float.Model} {s : Sign} {m : Nat} {e : Int} {hm : 0 < m}
    (h : x.unpack = .finite s m e hm) : Canonical m e := by
  have hbits := (unpack_bounds h).1
  have hbias : (Format.binary64.exponentBias : Int) = 1023 := rfl
  have hwidth : (Format.binary64.mantissaBitsWithoutImplicit : Int) = 52 := rfl
  rw [Float.Model.unpack, UnpackedFloat.unpack, hbias, hwidth] at h
  split at h
  · split at h <;> cases h
  split at h
  · split at h
    · cases h
    · cases h
      rename_i hzero _
      rw [hzero, BitVec.toNat_zero]
      exact ⟨hbits, by decide, .inr rfl⟩
  · cases h
    rename_i hne
    have hfield : (@unpackExponent .binary64 x.toBits.toBitVec).toNat ≠ 0 :=
      fun heq => hne (BitVec.eq_of_toNat_eq heq)
    refine ⟨hbits, by omega, .inl ?_⟩
    rw [BitVec.toNat_append, ← Nat.shiftLeft_add_eq_or_of_lt
      (@unpackMantissa .binary64 x.toBits.toBitVec).isLt, Nat.shiftLeft_eq]
    change 2 ^ 52 ≤ 1 * 2 ^ 52 + _
    omega

/-- Packing loses nothing of a canonical form. -/
theorem unpack_pack_canonical {s : Sign} {m : Nat} {e : Int} (hm : 0 < m) (h : Canonical m e)
    (he : e ≤ maxExponent) :
    (Float.Model.pack (.finite s m e hm)).unpack = .finite s m e hm := by
  rcases le_or_gt (2 ^ 52) m with hfull | hshort
  · exact unpack_pack hm ((Nat.log2_eq_iff hm.ne').2 ⟨hfull, h.bits⟩) h.least he
  obtain rfl : e = -1074 := h.full.resolve_left (not_le.2 hshort)
  have hne : BitVec.ofNat 52 m ≠ 0#52 := by
    intro heq
    have := congrArg BitVec.toNat heq
    rw [BitVec.toNat_ofNat, Nat.mod_eq_of_lt hshort] at this
    exact hm.ne' this
  have hmantissa : (BitVec.ofNat 52 m).toNat = m := by
    rw [BitVec.toNat_ofNat, Nat.mod_eq_of_lt hshort]
  change UnpackedFloat.unpack .binary64 (UnpackedFloat.pack .binary64 _) = _
  rw [pack_of_short s hm hshort he, UnpackedFloat.unpack]
  simp only [unpackMantissa_packComponents, unpackExponent_packComponents,
    unpackSign_packComponents]
  rw [if_neg (by decide), if_pos trivial, dif_neg hne]
  simp only [hmantissa]
  congr 1

/-! ### Doubles as whole numbers -/

/-- How many of the smallest doubles are in an unpacked double. -/
def unitsOf : UnpackedFloat → Int
  | .finite s m e _ => s.apply (m * 2 ^ (e + 1074).toNat : Nat)
  | _ => 0

/-- How many of the smallest doubles are in a finite double. -/
def units (x : Float) : Int := unitsOf x.toModel.unpack

theorem abs_apply (s : Sign) (n : Nat) : |s.apply n| = n := by
  cases s
  · exact (abs_neg _).trans (Nat.abs_cast n)
  · exact Nat.abs_cast n

/-! ### Rounding -/

theorem shiftRight_succ (em : ExtendedMantissa) (k : Nat) :
    em >>> (k + 1) = (em >>> k).shiftRightOne := rfl

/-- The bits behind a significand that is shifted to the right tell what is lost. -/
theorem exists_lost (m k : Nat) : ∃ em lost,
    ExtendedMantissa.ofMantissaAndAccuracy m .exact >>> k =
      ⟨em, decide (2 ^ k ≤ 2 * lost), decide (lost ≠ 0 ∧ 2 * lost ≠ 2 ^ k)⟩ ∧
    m = em * 2 ^ k + lost ∧ lost < 2 ^ k := by
  induction k with
  | zero => exact ⟨m, 0, rfl, by omega, by decide⟩
  | succ k ih =>
    obtain ⟨em, lost, hem, hm, hlt⟩ := ih
    have hpow := pow_succ 2 k
    have hsize : m = em / 2 * 2 ^ (k + 1) + (em % 2 * 2 ^ k + lost) := by
      rw [hm, hpow]
      conv_lhs => rw [← Nat.div_add_mod em 2]
      ring
    refine ⟨em / 2, em % 2 * 2 ^ k + lost, ?_, hsize, ?_⟩
    · rw [shiftRight_succ, hem, ExtendedMantissa.shiftRightOne, ExtendedMantissa.mk.injEq]
      refine ⟨rfl, ?_, ?_⟩ <;> rw [Bool.eq_iff_iff] <;>
        rcases Nat.mod_two_eq_zero_or_one em with h | h <;>
        simp only [h, bne_iff_ne, ne_eq, Bool.or_eq_true, decide_eq_true_eq, not_true_eq_false,
          false_iff] <;>
        omega
    · rcases Nat.mod_two_eq_zero_or_one em with h | h <;> rw [h] <;> omega

theorem roundedMantissa_lost (em : Nat) {lost k : Nat} :
    ExtendedMantissa.roundedMantissa
      ⟨em, decide (2 ^ k ≤ 2 * lost), decide (lost ≠ 0 ∧ 2 * lost ≠ 2 ^ k)⟩ =
      if 2 * lost < 2 ^ k then em else if 2 * lost = 2 ^ k then em + em % 2 else em + 1 := by
  rcases lt_trichotomy (2 * lost) (2 ^ k) with h | h | h
  · rw [if_pos h, decide_eq_false (not_le.2 h)]
    cases decide (lost ≠ 0 ∧ 2 * lost ≠ 2 ^ k) <;> rfl
  · rw [if_neg h.not_lt, if_pos h, decide_eq_true h.ge, decide_eq_false (fun hne => hne.2 h)]
    rfl
  · have hpos := Nat.two_pow_pos k
    rw [if_neg h.not_gt, if_neg h.ne', decide_eq_true h.le, decide_eq_true (by omega)]
    rfl

/-- Bits are rounded off to the closest significand, and in the middle to the even one. -/
theorem rounded_near {m k r : Nat}
    (hr : (ExtendedMantissa.ofMantissaAndAccuracy m .exact >>> k).roundedMantissa = r) :
    2 * |(m : Int) - r * 2 ^ k| ≤ 2 ^ k ∧ (2 * |(m : Int) - r * 2 ^ k| = 2 ^ k → 2 ∣ r) := by
  obtain ⟨em, lost, hem, hm, hlt⟩ := exists_lost m k
  have hsize : (m : Int) = em * 2 ^ k + lost := by exact_mod_cast hm
  have hcast : ((2 ^ k : Nat) : Int) = 2 ^ k := Nat.cast_pow 2 k
  have hup : (em * 2 ^ k + lost : Int) - (em + 1 : Nat) * 2 ^ k = lost - 2 ^ k := by
    push_cast
    ring
  have hstay : (em * 2 ^ k + lost : Int) - em * 2 ^ k = lost := add_sub_cancel_left _ _
  rw [hem, roundedMantissa_lost] at hr
  subst hr
  rw [hsize]
  split
  · rw [hstay, Nat.abs_cast]
    omega
  split
  · rcases Nat.mod_two_eq_zero_or_one em with h | h
    · rw [h, Nat.add_zero, hstay, Nat.abs_cast]
      omega
    · rw [h, hup, abs_of_nonpos (by omega)]
      omega
  · rw [hup, abs_of_nonpos (by omega)]
    omega

/-- A significand that is shifted to 53 bits, if it has more, is rounded. -/
theorem rounds_rounded {m k r : Nat}
    (hr : (ExtendedMantissa.ofMantissaAndAccuracy m .exact >>> k).roundedMantissa = r)
    (hk : k = 0 ∧ m < 2 ^ 53 ∨ m ≠ 0 ∧ m.log2 = 52 + k) : Rounds m (r * 2 ^ k : Nat) := by
  obtain ⟨hnear, heven⟩ := rounded_near hr
  rcases hk with ⟨rfl, hlt⟩ | ⟨hm, hlog⟩
  · have heq : m = r := by
      rw [pow_zero, mul_one] at hnear
      have := Int.abs_lt_one_iff.1 (show |(m : Int) - r| < 1 by omega)
      omega
    rw [pow_zero, mul_one, heq]
    refine .inl ⟨⟨0, one_dvd _, ?_⟩, rfl⟩
    rw [Nat.abs_cast]
    exact_mod_cast heq ▸ hlt.le
  · have hmost := rounded_le (m := m) (k := k) .exact (by omega)
    have hleast := Nat.log2_self_le hm
    rw [hr] at hmost
    rw [hlog] at hleast
    refine .inr ⟨k, ?_, ?_, ?_, ?_, ?_⟩
    · exact_mod_cast Nat.dvd_mul_left _ _
    · exact_mod_cast hnear
    · intro h
      rw [pow_succ']
      exact_mod_cast Nat.mul_dvd_mul_right (heven (by exact_mod_cast h)) _
    · rw [Nat.abs_cast]
      exact_mod_cast hleast
    · rw [Nat.abs_cast, pow_add]
      exact_mod_cast Nat.mul_le_mul_right _ hmost

/-! ### Results of arithmetic -/

theorem unitsOf_signed (s : Sign) (m : Nat) (e : Int) :
    unitsOf (signed s m e) = s.apply (m * 2 ^ (e + 1074).toNat : Nat) := by
  rw [signed]
  split
  · rename_i h
    rw [h, Nat.zero_mul]
    cases s <;> rfl
  · rfl

theorem unpack_pack_signed {s : Sign} {m : Nat} {e : Int} (h : Canonical m e)
    (he : e ≤ maxExponent) : (Float.Model.pack (signed s m e)).unpack = signed s m e := by
  rw [signed]
  split
  · cases s <;> rfl
  · exact unpack_pack_canonical _ h he

/-- A rounded significand of more than 53 bits is shifted once more, which loses nothing. -/
theorem exists_second_shift {r : Nat} {t : Int} (hr : r ≤ 2 ^ 53) (ht : -1074 ≤ t) :
    ∃ n j : Nat, (shiftToTargetExponent .binary64 r t .exact).1.mantissa = n ∧
      (shiftToTargetExponent .binary64 r t .exact).2 = t + j ∧ n * 2 ^ j = r ∧ n < 2 ^ 53 ∧ j ≤ 1 ∧
      (2 ^ 52 ≤ n ∨ j = 0) := by
  obtain ⟨j, hj, hshift⟩ := shiftToTargetExponent_eq r t .exact
  refine ⟨r / 2 ^ j, j, ?_, by rw [hshift], ?_⟩
  · rw [hshift, mantissa_shiftRight, mantissa_ofMantissaAndAccuracy]
  rcases hr.lt_or_eq with hlt | rfl
  · have := log2_lt_of_lt (k := 52) hlt
    obtain rfl : j = 0 := by omega
    rw [pow_zero, Nat.div_one, mul_one]
    exact ⟨rfl, hlt, by decide, .inr rfl⟩
  · rw [Nat.log2_two_pow] at hj
    obtain rfl : j = 1 := by omega
    decide

/-- A significand with an exponent that is not too large for it is rounded to its canonical form. -/
theorem exists_canonical (s : Sign) {m k : Nat} {e : Int} (hm : m ≠ 0) (he : -1074 ≤ e)
    (hk : (e + k : Int) = max (m.log2 + 1 + e - 53) (-1074)) :
    ∃ n f, roundWithAccuracy .binary64 s m e .exact = signed s n f ∧ Canonical n f ∧
      f ≤ e + k + 1 ∧
      Rounds (m * 2 ^ (e + 1074).toNat : Nat) (n * 2 ^ (f + 1074).toNat : Nat) := by
  obtain ⟨k', hk', hfirst⟩ := shiftToTargetExponent_eq m e .exact
  obtain rfl : k' = k := by omega
  have hle := rounded_le (m := m) (k := k') .exact (by omega)
  have hge := mantissa_le_rounded (ExtendedMantissa.ofMantissaAndAccuracy m .exact >>> k')
  rw [mantissa_shiftRight, mantissa_ofMantissaAndAccuracy] at hge
  generalize hr : (ExtendedMantissa.ofMantissaAndAccuracy m .exact >>> k').roundedMantissa = r
    at hle hge
  obtain ⟨n, j, hn, hf, hsize, hlt, hj, hfull⟩ :=
    exists_second_shift (t := e + k') hle (by omega)
  have hround : roundWithAccuracy .binary64 s m e .exact = signed s n (e + k' + j) := by
    rw [roundWithAccuracy_eq hfirst rfl]
    dsimp only
    rw [hr, hn, hf]
  have hbits : e + k' = -1074 ∨ m.log2 = 52 + k' := by omega
  have hshift : k' = 0 ∧ m < 2 ^ 53 ∨ m ≠ 0 ∧ m.log2 = 52 + k' := by
    rcases hbits with h | h
    · exact .inl ⟨by omega, (Nat.log2_lt hm).1 (by omega)⟩
    · exact .inr ⟨hm, h⟩
  refine ⟨n, e + k' + j, hround, ⟨hlt, by omega, ?_⟩, by omega, ?_⟩
  · rcases hfull with h | rfl
    · exact .inl h
    rw [pow_zero, mul_one] at hsize
    rcases hbits with h | hlog
    · exact .inr (by omega)
    · refine .inl ((le_trans ?_ hge).trans hsize.ge)
      rw [Nat.le_div_iff_mul_le (Nat.two_pow_pos _), ← Nat.pow_add, ← hlog]
      exact Nat.log2_self_le hm
  · have hexponent : (e + k' + j + 1074).toNat = j + (k' + (e + 1074).toNat) := by omega
    rw [hexponent, pow_add, ← mul_assoc, hsize, pow_add, ← mul_assoc, Nat.cast_mul, Nat.cast_mul]
    exact_mod_cast (rounds_rounded hr hshift).mul_two_pow (e + 1074).toNat

/-- A number that is not too large is rounded to a finite double. -/
theorem unpack_pack_round (s : Sign) {m : Nat} {e : Int} (hm : 0 < m) (he : -1074 ≤ e)
    (hlt : m * 2 ^ (e + 1074).toNat < 2 ^ 2097) :
    let u := (Float.Model.pack (UnpackedFloat.round .binary64 s m e)).unpack
    u.isFinite = true ∧ ∃ z : Nat, unitsOf u = s.apply z ∧
      Rounds (m * 2 ^ (e + 1074).toNat : Nat) z := by
  obtain ⟨d, hd⟩ : ∃ d, (e - Format.binary64.targetExponent (totalExponent m e)).toNat = d :=
    ⟨_, rfl⟩
  have hlog := log2_mul_two_pow hm.ne' d
  rw [targetExponent_eq, totalExponent] at hd
  obtain ⟨k, hk⟩ : ∃ k : Nat, (e - d + k : Int) =
      max ((m * 2 ^ d).log2 + 1 + (e - d) - 53) (-1074) :=
    ⟨(max ((m * 2 ^ d).log2 + 1 + (e - d) - 53) (-1074) - (e - d) : Int).toNat, by omega⟩
  obtain ⟨r, f, hround, hcanonical, hf, hrounds⟩ := exists_canonical s
    (Nat.mul_pos hm (Nat.two_pow_pos d)).ne' (show -1074 ≤ e - d by omega) hk
  have hsize : m * 2 ^ d * 2 ^ (e - d + 1074).toNat = m * 2 ^ (e + 1074).toNat := by
    rw [mul_assoc, ← pow_add]
    congr 2
    omega
  rw [hsize] at hrounds
  have hmax : f ≤ maxExponent := by
    have hlt := (Nat.log2_lt (Nat.mul_pos hm (Nat.two_pow_pos _)).ne').2 hlt
    rw [log2_mul_two_pow hm.ne'] at hlt
    rw [maxExponent]
    omega
  have hunpack :
      (Float.Model.pack (UnpackedFloat.round .binary64 s m e)).unpack = signed s r f := by
    rw [← unpack_pack_signed hcanonical hmax, ← hround, UnpackedFloat.round, targetExponent_eq,
      totalExponent, decreaseExponent, hd, Nat.shiftLeft_eq]
  rw [hunpack]
  refine ⟨?_, _, unitsOf_signed s r f, hrounds⟩
  rw [signed]
  split <;> rfl

/-- A number with a sign that is not too large is rounded to a finite double. -/
theorem unpack_pack_normalize (s : Sign) {n : Int} {e : Int} (he : -1074 ≤ e)
    (hlt : |n * 2 ^ (e + 1074).toNat| < 2 ^ 2097) :
    let u := (Float.Model.pack (UnpackedFloat.normalize .binary64 n e s)).unpack
    u.isFinite = true ∧ Rounds (n * 2 ^ (e + 1074).toNat) (unitsOf u) := by
  have hround (sign : Sign) {m : Nat} (hm : 0 < m) (hn : n = sign.apply m) :
      let u := (Float.Model.pack (UnpackedFloat.round .binary64 sign m e)).unpack
      u.isFinite = true ∧ Rounds (n * 2 ^ (e + 1074).toNat) (unitsOf u) := by
    have habs : |n| = m := hn ▸ abs_apply sign m
    rw [abs_mul, habs, abs_of_pos (by positivity)] at hlt
    obtain ⟨hfinite, z, hz, hrounds⟩ := unpack_pack_round sign hm he (by exact_mod_cast hlt)
    refine ⟨hfinite, ?_⟩
    rw [hz, hn]
    push_cast at hrounds
    cases sign with
    | positive => exact hrounds
    | negative => simpa only [Sign.apply, neg_mul] using hrounds.neg
  rw [UnpackedFloat.normalize]
  split
  · rename_i h
    have := Int.compare_eq_lt.1 h
    exact hround .negative (by omega) (by rw [Sign.apply]; omega)
  · rename_i h
    rw [Int.compare_eq_eq.1 h, zero_mul]
    cases s <;> exact ⟨rfl, .inl ⟨fits_zero, rfl⟩⟩
  · rename_i h
    have := Int.compare_eq_gt.1 h
    exact hround .positive (by omega) (by rw [Sign.apply]; omega)

end SpriteStage.Double
