import SpriteStage.Proofs.Double.Steps

/-!
# Doubles without a negative sign

Packing gives back a finite double that was unpacked, so adding zero gives it back as well, unless
it is the negative zero. What rounding does to a significand does not touch its sign: a sum is
rounded to a double without a negative sign if the exact sum is not negative.
-/

namespace SpriteStage.Double

open Float.Model Float.Model.UnpackedFloat

/-- A double that denotes a number is a zero, or the number is its significand at its exponent. -/
theorem unpack_cases {x : Float} {p : Rat} (h : rational? x = some p) :
    (∃ s, x.toModel.unpack = .zero s ∧ p = 0) ∨
    ∃ s m e hm, x.toModel.unpack = .finite s m e hm ∧ p = signedSize s m e := by
  cases hu : x.toModel.unpack with
  | notANumber | infinity s =>
    rw [rational?, hu] at h
    cases h
  | zero s =>
    rw [rational?, hu] at h
    exact .inl ⟨s, rfl, (Option.some.inj h).symm⟩
  | finite s m e hm =>
    exact .inr ⟨s, m, e, hm, rfl, Option.some.inj (h.symm.trans (rational?_of_unpack hu))⟩

/-! ### Packing what was unpacked -/

/-- The three fields of a double, put together again. -/
theorem packComponents_fields (b : BitVec Format.binary64.numBits) :
    packComponents .binary64 (Sign.ofBitVec (unpackSign b)) (unpackExponent b) (unpackMantissa b)
      = b := by
  have hsign (v : BitVec 1) : (Sign.ofBitVec v).toBitVec = v := by
    rcases BitVec.eq_zero_or_eq_one v with rfl | rfl <;> rfl
  simp only [packComponents, hsign]
  apply BitVec.eq_of_getLsbD_eq
  intro i hi
  simp only [unpackSign, unpackExponent, unpackMantissa]
  grind

/-- A significand that is too short is packed with an empty exponent. -/
theorem pack_of_short (s : Sign) {m : Nat} {e : Int} (hm : 0 < m) (hlt : m < 2 ^ 52)
    (he : e ≤ maxExponent) : UnpackedFloat.pack .binary64 (.finite s m e hm) =
      packComponents .binary64 s 0#11 (BitVec.ofNat 52 m) := by
  have hlog := log2_lt_of_lt (k := 51) hlt
  have hshort : m.log2 + 1 ≠ Format.binary64.mantissaBits :=
    Nat.ne_of_lt (show m.log2 + 1 < 53 by omega)
  rw [maxExponent] at he
  rw [UnpackedFloat.pack]
  simp only [exponentField_eq e]
  rw [if_neg (by omega), if_neg hshort]

theorem pack_of_full (s : Sign) {m : Nat} {e : Int} (hm : 0 < m) (hlog : m.log2 = 52)
    (he : e ≤ maxExponent) : UnpackedFloat.pack .binary64 (.finite s m e hm) =
      packComponents .binary64 s (BitVec.ofNat 11 (e + 1075).toNat) (BitVec.ofNat 52 m) := by
  rw [maxExponent] at he
  rw [UnpackedFloat.pack]
  simp only [exponentField_eq e, hlog]
  rw [if_neg (by omega), if_pos (show 52 + 1 = Format.binary64.mantissaBits from rfl)]

/-- Packing gives back the bits of a finite double. -/
theorem pack_unpack_bits {b : BitVec Format.binary64.numBits}
    (h : (UnpackedFloat.unpack .binary64 b).isFinite = true) :
    UnpackedFloat.pack .binary64 (UnpackedFloat.unpack .binary64 b) = b := by
  have hlt : (unpackMantissa b).toNat < 2 ^ 52 := (unpackMantissa b).isLt
  have hfield : (unpackExponent b).toNat < 2048 := (unpackExponent b).isLt
  have hfields := packComponents_fields b
  rw [UnpackedFloat.unpack] at h ⊢
  split at h
  · split at h <;> cases h
  rename_i hfinite
  have hmax : (unpackExponent b).toNat ≠ 2047 := fun heq => hfinite (BitVec.eq_of_toNat_eq heq)
  rw [if_neg hfinite]
  split
  · rename_i hempty
    rw [hempty] at hfields
    split
    · rename_i hzero
      rwa [hzero] at hfields
    · refine (pack_of_short _ _ hlt ?_).trans ?_
      · rw [hempty]
        decide
      · rwa [BitVec.ofNat_toNat, BitVec.setWidth_eq]
  · have hmantissa : (1#1 ++ unpackMantissa b).toNat = 2 ^ 52 + (unpackMantissa b).toNat := by
      rw [BitVec.toNat_append, ← Nat.shiftLeft_add_eq_or_of_lt (unpackMantissa b).isLt]
      rfl
    have hlog : (1#1 ++ unpackMantissa b).toNat.log2 = 52 := by
      rw [hmantissa]
      exact (Nat.log2_eq_iff (by omega)).2 ⟨by omega, by omega⟩
    have hrest : BitVec.ofNat 52 (2 ^ 52 + (unpackMantissa b).toNat) = unpackMantissa b :=
      BitVec.eq_of_toNat_eq (by rw [BitVec.toNat_ofNat]; omega)
    have hexponent (n : Int) : n - (1023 + 52) + 1075 = n := by omega
    refine (pack_of_full _ _ hlog ?_).trans ?_
    · change ((unpackExponent b).toNat - (1023 + 52) : Int) ≤ _
      rw [maxExponent]
      omega
    · change packComponents .binary64 _ (BitVec.ofNat 11
        ((unpackExponent b).toNat - (1023 + 52) + 1075 : Int).toNat) _ = b
      rwa [hexponent, Int.toNat_natCast, BitVec.ofNat_toNat, BitVec.setWidth_eq, hmantissa, hrest]

theorem pack_unpack {x : Float} (h : x.isFinite = true) :
    Float.ofModel (Float.Model.pack x.toModel.unpack) = x := by
  have hbits := pack_unpack_bits h
  obtain ⟨⟨bits, valid⟩⟩ := x
  simp only [Float.Model.pack, Float.Model.unpack] at hbits ⊢
  simp only [hbits]

/-- Nothing is lost by adding zero to a finite double other than zero. -/
theorem add_zero_of_unpack {x : Float} {s : Sign} {m : Nat} {e : Int} {hm : 0 < m}
    (h : x.toModel.unpack = .finite s m e hm) : x + 0.0 = x := by
  have hfinite : x.isFinite = true := by
    change x.toModel.unpack.isFinite = true
    rw [h]
    rfl
  change Float.ofModel (Float.Model.pack (UnpackedFloat.add .binary64 x.toModel.unpack
    (.zero .positive))) = x
  conv_rhs => rw [← pack_unpack hfinite]
  rw [h]
  rfl

/-! ### Signs -/

theorem isNegative_eq (x : Float) : isNegative x =
    (Sign.ofBitVec (@unpackSign .binary64 x.toModel.toBits.toBitVec) == .negative) := by
  change (x.toModel.toBits >>> 63 == 1) = _
  generalize x.toModel.toBits = bits
  have hshift : bits >>> 63 = 1 ↔ bits.toBitVec.extractLsb' 63 1 = 1#1 := by
    have hlt := bits.toNat_lt
    rw [← UInt64.toBitVec_inj, ← BitVec.toNat_inj, ← BitVec.toNat_inj]
    simp [Nat.shiftRight_eq_div_pow]
    omega
  rw [Bool.eq_iff_iff, beq_iff_eq, hshift]
  change _ ↔ (Sign.ofBitVec (bits.toBitVec.extractLsb' 63 1) == .negative) = true
  rcases BitVec.eq_zero_or_eq_one (bits.toBitVec.extractLsb' 63 1) with h | h <;> rw [h] <;> decide

theorem isNegative_of_unpack {x : Float} {s : Sign} {m : Nat} {e : Int} {hm : 0 < m}
    (h : x.toModel.unpack = .finite s m e hm) : isNegative x = (s == .negative) := by
  rw [isNegative_eq]
  rw [Float.Model.unpack, UnpackedFloat.unpack] at h
  split at h
  · split at h <;> cases h
  · split at h
    · split at h <;> cases h
      rfl
    · cases h
      rfl

theorem isNegative_of_unpack_zero {x : Float} {s : Sign} (h : x.toModel.unpack = .zero s) :
    isNegative x = (s == .negative) := by
  rw [isNegative_eq]
  rw [Float.Model.unpack, UnpackedFloat.unpack] at h
  split at h
  · split at h <;> cases h
  · split at h
    · split at h <;> cases h
      rfl
    · cases h

/-- A finite double without a negative sign is a zero or has a positive significand. -/
theorem unpack_of_not_isNegative {x : Float} (hx : x.isFinite = true) (h : isNegative x = false) :
    x.toModel.unpack = .zero .positive ∨ ∃ m e hm, x.toModel.unpack = .finite .positive m e hm := by
  change x.toModel.unpack.isFinite = true at hx
  cases hu : x.toModel.unpack with
  | notANumber | infinity s => rw [hu] at hx; cases hx
  | zero s =>
    rw [isNegative_of_unpack_zero hu] at h
    cases s with
    | negative => cases h
    | positive => exact .inl rfl
  | finite s m e hm =>
    rw [isNegative_of_unpack hu] at h
    cases s with
    | negative => cases h
    | positive => exact .inr ⟨m, e, hm, rfl⟩

/-- A significand keeps its sign when it is packed. -/
theorem isNegative_pack_signed (s : Sign) (m : Nat) (e : Int) :
    isNegative (.ofModel (Float.Model.pack (signed s m e))) = (s == .negative) := by
  have hcomponents (f : BitVec 11) (n : BitVec 52) :
      (Sign.ofBitVec (unpackSign (packComponents .binary64 s f n)) == .negative)
        = (s == .negative) := by rw [unpackSign_packComponents]
  rw [isNegative_eq]
  change (Sign.ofBitVec (unpackSign (UnpackedFloat.pack .binary64 _)) == _) = _
  rw [signed]
  split
  · exact hcomponents _ _
  · rw [UnpackedFloat.pack]
    dsimp only
    split
    · exact hcomponents _ _
    · split <;> exact hcomponents _ _

theorem isNegative_roundWithAccuracy (s : Sign) (m : Nat) (e : Int) (a : Accuracy) :
    isNegative (.ofModel (Float.Model.pack (roundWithAccuracy .binary64 s m e a)))
      = (s == .negative) := by
  rw [roundWithAccuracy_eq rfl rfl]
  exact isNegative_pack_signed ..

theorem isNegative_normalize {m : Int} (hm : 0 ≤ m) (e : Int) :
    isNegative (.ofModel (Float.Model.pack (UnpackedFloat.normalize .binary64 m e .positive)))
      = false := by
  rw [UnpackedFloat.normalize]
  split
  · rename_i h
    have := Int.compare_eq_lt.1 h
    omega
  · rfl
  · exact isNegative_roundWithAccuracy ..

theorem shiftLeft_size {m : Nat} {e t : Int} (h : t ≤ e) :
    ((m <<< (e - t).toNat : Nat) : Rat) * 2 ^ t = m * 2 ^ e := by
  rw [Nat.shiftLeft_eq, Nat.cast_mul, Nat.cast_pow, Nat.cast_ofNat, mul_assoc, ← zpow_natCast,
    ← zpow_add₀ two_ne_zero]
  congr 2
  omega

/-- A sum has no negative sign if the exact sum is not negative and one summand is positive. -/
theorem isNegative_add {x y : Float} {p q : Rat} (hx : rational? x = some p)
    (hy : rational? y = some q) (hq : 0 < q) (hsum : 0 ≤ p + q) : isNegative (x + y) = false := by
  obtain ⟨n, f, hn, hv, rfl⟩ := unpack_of_pos hy hq
  change isNegative (.ofModel (Float.Model.pack
    (UnpackedFloat.add .binary64 x.toModel.unpack y.toModel.unpack))) = false
  rcases unpack_cases hx with ⟨s, hu, rfl⟩ | ⟨s, m, e, hm, hu, rfl⟩ <;> rw [hu, hv]
  · have hsigned := isNegative_pack_signed .positive n f
    rw [signed, dif_neg (Nat.ne_of_gt hn)] at hsigned
    cases s <;> exact hsigned
  · apply isNegative_normalize
    -- the exact sum is the sum of the significands at the smaller exponent
    have hleft := shiftLeft_size (m := m) (show min e f ≤ e by omega)
    have hright := shiftLeft_size (m := n) (show min e f ≤ f by omega)
    have hpos := zpow_pos (two_pos (α := Rat)) (min e f)
    generalize m <<< (e - min e f).toNat = a at hleft ⊢
    generalize n <<< (f - min e f).toNat = b at hright ⊢
    cases s with
    | positive =>
      change (0 : Int) ≤ a + b
      omega
    | negative =>
      rw [signedSize, ← hleft, ← hright, neg_add_eq_sub, ← sub_mul] at hsum
      have : (0 : Rat) ≤ b - a := nonneg_of_mul_nonneg_left hsum hpos
      change (0 : Int) ≤ -a + b
      rw [neg_add_eq_sub]
      exact_mod_cast this

end SpriteStage.Double
