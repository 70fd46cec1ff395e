import SpriteStage.Proofs.Double.Range

/-!
# Whole numbers are exact

A whole number of at most 53 bits is a double, and the double closest to it is that number: rounding
leaves a significand that fits as it is, and packing loses nothing of a significand of 53 bits.
-/

namespace SpriteStage.Double

open Float.Model Float.Model.UnpackedFloat

theorem log2_mul_two_pow {m : Nat} (hm : m ≠ 0) (k : Nat) : (m * 2 ^ k).log2 = m.log2 + k := by
  induction k with
  | zero => rw [Nat.pow_zero, Nat.mul_one, Nat.add_zero]
  | succ k ih =>
    have hne : m * 2 ^ k ≠ 0 := Nat.mul_ne_zero hm (Nat.ne_of_gt (Nat.two_pow_pos k))
    rw [Nat.pow_succ, ← Nat.mul_assoc, Nat.mul_comm, Nat.log2_two_mul hne, ih, Nat.add_assoc]

/-- Rounding leaves a significand of 53 bits as it is, also if zeros follow it. -/
theorem roundWithAccuracy_exact {s : Sign} {m k : Nat} {e : Int} (hm : 0 < m) (hlog : m.log2 = 52)
    (he : -1074 ≤ e) :
    roundWithAccuracy .binary64 s (m * 2 ^ k) (e - k) .exact = .finite s m e hm := by
  have hlog' := log2_mul_two_pow (by omega : m ≠ 0) k
  obtain ⟨k', hk', hfirst⟩ := shiftToTargetExponent_eq (m * 2 ^ k) (e - k) .exact
  obtain rfl : k' = k := by omega
  rw [exact_shiftRight, Int.sub_add_cancel] at hfirst
  obtain ⟨j, hj, hsecond⟩ := shiftToTargetExponent_eq m e .exact
  obtain rfl : j = 0 := by omega
  have hzero := exact_shiftRight m 0
  rw [Nat.pow_zero, Nat.mul_one] at hzero
  rw [hzero, Int.natCast_zero, Int.add_zero] at hsecond
  rw [roundWithAccuracy_eq hfirst hsecond, signed, dif_neg (Nat.ne_of_gt hm)]

/-! ### Packing and unpacking -/

theorem unpackSign_packComponents (s : Sign) (e : BitVec 11) (m : BitVec 52) :
    Sign.ofBitVec (unpackSign (packComponents .binary64 s e m)) = s := by
  simp only [unpackSign, packComponents, BitVec.extractLsb]
  rw [BitVec.extractLsb'_append_eq_of_le (by omega), BitVec.extractLsb'_append_eq_of_le (by omega)]
  cases s <;> rfl

/-- Packing loses nothing of a significand of 53 bits. -/
theorem unpack_pack {s : Sign} {m : Nat} {e : Int} (hm : 0 < m) (hlog : m.log2 = 52)
    (lo : -1074 ≤ e) (hi : e ≤ maxExponent) :
    (Float.Model.pack (.finite s m e hm)).unpack = .finite s m e hm := by
  obtain ⟨hge, hlt⟩ := (Nat.log2_eq_iff (by omega)).1 hlog
  have hbias : (Format.binary64.exponentBias : Int) = 1023 := rfl
  rw [maxExponent] at hi
  -- the exponent field is neither that of infinities nor that of zeros
  have hfield : (BitVec.ofNat 11 (e + 1075).toNat).toNat = (e + 1075).toNat := by
    rw [BitVec.toNat_ofNat, Nat.mod_eq_of_lt (by omega)]
  have hne (v : BitVec 11) (h : v.toNat = 2047 ∨ v.toNat = 0) :
      BitVec.ofNat 11 (e + 1075).toNat ≠ v := by
    intro heq
    have := congrArg BitVec.toNat heq
    omega
  have hmantissa : (1#1 ++ BitVec.ofNat 52 m).toNat = m := by
    rw [BitVec.toNat_append, ← Nat.shiftLeft_add_eq_or_of_lt (BitVec.ofNat 52 m).isLt,
      BitVec.toNat_ofNat, BitVec.toNat_ofNat, Nat.shiftLeft_eq]
    omega
  change UnpackedFloat.unpack .binary64 (UnpackedFloat.pack .binary64 _) = _
  rw [UnpackedFloat.pack]
  simp only [exponentField_eq e, hlog]
  rw [if_neg (by omega), if_pos (show 52 + 1 = Format.binary64.mantissaBits from rfl),
    UnpackedFloat.unpack]
  simp only [unpackMantissa_packComponents, unpackExponent_packComponents,
    unpackSign_packComponents]
  rw [if_neg (hne _ (.inl rfl)), if_neg (hne _ (.inr rfl))]
  simp only [hmantissa, hfield, hbias]
  congr 1
  change ((e + 1075).toNat : Int) - (1023 + 52) = e
  omega

/-! ### The double of a whole number -/

/-- A quotient by one is rounded from the dividend, with zeros behind it if it is short. -/
theorem div_one_eq {s : Sign} {n : Nat} (hn : 0 < n) :
    UnpackedFloat.div .binary64 (.finite s n 0 hn) (.finite .positive 1 0 Nat.one_pos) =
      roundWithAccuracy .binary64 s (n * 2 ^ (53 - n.log2)) (-(53 - n.log2 : Nat)) .exact := by
  have htarget : min (0 - 0) (Format.binary64.targetExponent
      (totalExponent n 0 - totalExponent 1 0)) = -((53 - n.log2 : Nat) : Int) := by
    rw [targetExponent_eq, totalExponent, totalExponent, show Nat.log2 1 = 0 by decide]
    omega
  have hsign : s / .positive = s := by cases s <;> rfl
  simp only [UnpackedFloat.div, divCore, htarget, hsign, Nat.div_one, Nat.mod_one, Nat.shiftLeft_eq]
  rw [show ((0 : Int) - 0 - -((53 - n.log2 : Nat) : Int)).toNat = 53 - n.log2 by omega]
  rfl

/-- The sign of a whole number other than zero. -/
def signOf (n : Int) : Sign := if n < 0 then .negative else .positive

theorem nearest_intCast {n : Int} (hn : n ≠ 0) :
    nearest n = .ofModel (Float.Model.pack (UnpackedFloat.div .binary64
      (.finite (signOf n) n.natAbs 0 (Int.natAbs_pos.2 hn))
      (.finite .positive 1 0 Nat.one_pos))) := by
  have hnum : (n : Rat).num.natAbs ≠ 0 := Int.natAbs_ne_zero.2 hn
  rw [nearest, dif_neg hnum]
  rfl

/-- A whole number of at most 53 bits with zeros behind it is rounded to itself. -/
theorem roundWithAccuracy_natCast {n k : Nat} (hpos : 0 < n) (hn : n < 2 ^ 53)
    (hk : 52 ≤ n.log2 + k) :
    roundWithAccuracy .binary64 .positive (n * 2 ^ k) (-k) .exact =
      .finite .positive (n * 2 ^ (52 - n.log2)) (n.log2 - 52)
        (Nat.mul_pos hpos (Nat.two_pow_pos _)) := by
  have hlt := (Nat.log2_lt (k := 53) (by omega)).2 hn
  have hlog : (n * 2 ^ (52 - n.log2)).log2 = 52 := by
    rw [log2_mul_two_pow (by omega)]
    omega
  have hround := roundWithAccuracy_exact (s := .positive) (k := n.log2 + k - 52)
    (Nat.mul_pos hpos (Nat.two_pow_pos _)) hlog (show -1074 ≤ (n.log2 : Int) - 52 by omega)
  rwa [Nat.mul_assoc, ← Nat.pow_add, show 52 - n.log2 + (n.log2 + k - 52) = k by omega,
    show (n.log2 : Int) - 52 - (n.log2 + k - 52 : Nat) = -k by omega] at hround

theorem nearest_natCast {n : Nat} (hpos : 0 < n) (hn : n < 2 ^ 53) :
    nearest (n : Int) = .ofModel (Float.Model.pack
      (.finite .positive (n * 2 ^ (52 - n.log2)) (n.log2 - 52)
        (Nat.mul_pos hpos (Nat.two_pow_pos _)))) := by
  rw [nearest_intCast (by omega), signOf, if_neg (by omega), div_one_eq, Int.natAbs_natCast,
    roundWithAccuracy_natCast hpos hn (by omega)]

theorem unpack_nearest {n : Nat} (hpos : 0 < n) (hn : n < 2 ^ 53) :
    (nearest (n : Int)).toModel.unpack =
      .finite .positive (n * 2 ^ (52 - n.log2)) (n.log2 - 52)
        (Nat.mul_pos hpos (Nat.two_pow_pos _)) := by
  have hlt := (Nat.log2_lt (k := 53) (by omega)).2 hn
  rw [nearest_natCast hpos hn]
  change (Float.Model.pack _).unpack = _
  apply unpack_pack
  · rw [log2_mul_two_pow (by omega)]
    omega
  · omega
  · rw [maxExponent]
    omega

/-- A whole number of at most 53 bits is the double closest to it. -/
theorem rational?_nearest {n : Nat} (hn : n < 2 ^ 53) :
    rational? (nearest (n : Int)) = some ((n : Int) : Rat) := by
  rcases Nat.eq_zero_or_pos n with rfl | hpos
  · decide
  have h := unpack_nearest hpos hn
  rw [rational?, h]
  dsimp only
  congr 1
  split
  · -- the number has 53 bits by itself
    have hlt := (Nat.log2_lt (k := 53) (by omega)).2 hn
    rw [show 52 - n.log2 = 0 by omega, show ((n.log2 : Int) - 52).toNat = 0 by omega]
    change ((n * 2 ^ 0 * 2 ^ 0 : Nat) : Rat) = _
    rw [Nat.pow_zero, Nat.mul_one, Nat.mul_one, Rat.intCast_natCast]
  · rw [show (-((n.log2 : Int) - 52)).toNat = 52 - n.log2 by omega, Int.natCast_mul,
      ← Nat.one_mul (Nat.pow 2 _)]
    change mkRat (n * ((2 ^ (52 - n.log2) : Nat) : Int)) (1 * 2 ^ (52 - n.log2)) = _
    rw [Rat.mkRat_mul_right (Nat.ne_of_gt (Nat.two_pow_pos _)), Rat.mkRat_one]

theorem isFinite_nearest {n : Nat} (hn : n < 2 ^ 53) : (nearest (n : Int)).isFinite = true := by
  rcases Nat.eq_zero_or_pos n with rfl | hpos
  · decide
  have h := unpack_nearest hpos hn
  change (nearest (n : Int)).toModel.unpack.isFinite = true
  rw [h]
  rfl

theorem ofInt?_natCast {n : Nat} (hn : n < 2 ^ 53) : ofInt? n = some (nearest (n : Int)) := by
  rw [ofInt?, if_pos (isFinite_nearest hn)]

theorem nearest_pos {n : Nat} (hpos : 0 < n) (hn : n < 2 ^ 53) : 0.0 < nearest (n : Int) := by
  have h := unpack_nearest hpos hn
  rw [lt_iff_compare, unpack_zero, h]
  rfl

end SpriteStage.Double
