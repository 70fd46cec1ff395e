import SpriteStage.Proofs.Double.Ceiling

/-!
# One less

Nothing is rounded when one is taken off a whole number of no more than 53 bits: at the smaller of
the two exponents the difference is that whole number with zeros behind it. So a count goes down to
zero in exactly as many steps as it says.
-/

namespace SpriteStage.Double

open Float.Model Float.Model.UnpackedFloat

/-- A double is no larger than zero if its rational number is not. -/
theorem le_zero_iff {x : Float} {q : Rat} (h : rational? x = some q) : x ≤ 0.0 ↔ q ≤ 0 := by
  rw [le_iff_compare, unpack_zero]
  cases hu : x.toModel.unpack with
  | notANumber | infinity s =>
    rw [rational?, hu] at h
    cases h
  | zero s =>
    rw [rational?, hu] at h
    cases h
    exact iff_of_true rfl le_rfl
  | finite s m e hm =>
    cases (rational?_of_unpack hu).symm.trans h
    have hpos := size_pos hm e
    cases s with
    | positive => exact iff_of_false Bool.false_ne_true (not_le.2 hpos)
    | negative => exact iff_of_true rfl (neg_nonpos.2 hpos.le)

theorem unpack_of_pos {x : Float} {q : Rat} (h : rational? x = some q) (hq : 0 < q) :
    ∃ m e hm, x.toModel.unpack = .finite .positive m e hm ∧ (m : Rat) * 2 ^ e = q := by
  have hlt := (zero_lt_iff h).2 hq
  rw [lt_iff_compare, unpack_zero] at hlt
  cases hu : x.toModel.unpack with
  | notANumber =>
    rw [hu] at hlt
    cases hlt
  | infinity s =>
    rw [rational?, hu] at h
    cases h
  | zero s =>
    rw [hu] at hlt
    cases hlt
  | finite s m e hm =>
    cases s with
    | negative =>
      rw [hu] at hlt
      cases hlt
    | positive => exact ⟨m, e, hm, rfl, Option.some.inj ((rational?_of_unpack hu).symm.trans h)⟩

theorem unpack_of_eq_zero {x : Float} (h : rational? x = some 0) :
    ∃ s, x.toModel.unpack = .zero s := by
  cases hu : x.toModel.unpack with
  | notANumber | infinity s =>
    rw [rational?, hu] at h
    cases h
  | zero s => exact ⟨s, rfl⟩
  | finite s m e hm =>
    have hzero := Option.some.inj ((rational?_of_unpack hu).symm.trans h)
    have hpos := size_pos hm e
    cases s <;> simp only [signedSize] at hzero <;> linarith

theorem shiftLeft_eq_of_size {m k n : Nat} {e : Int} (he : -k ≤ e)
    (h : (m : Rat) * 2 ^ e = n) : m <<< (e - -k).toNat = n * 2 ^ k := by
  have hshift : (2 : Rat) ^ (e - -k).toNat = 2 ^ e * 2 ^ k := by
    rw [← zpow_natCast, ← zpow_natCast, ← zpow_add₀ two_ne_zero]
    congr 1
    omega
  rw [Nat.shiftLeft_eq]
  have : (m : Rat) * 2 ^ (e - -k).toNat = n * 2 ^ k := by rw [hshift, ← mul_assoc, h]
  exact_mod_cast this

theorem round_natCast {n k : Nat} (hpos : 0 < n) (hn : n < 2 ^ 53) (hk : 52 ≤ k) :
    UnpackedFloat.round .binary64 .positive (n * 2 ^ k) (-k) =
      .finite .positive (n * 2 ^ (52 - n.log2)) (n.log2 - 52)
        (Nat.mul_pos hpos (Nat.two_pow_pos _)) := by
  have htarget : Format.binary64.targetExponent (totalExponent (n * 2 ^ k) (-k)) = n.log2 - 52 := by
    rw [targetExponent_eq, totalExponent, log2_mul_two_pow (by omega)]
    omega
  rw [← roundWithAccuracy_natCast hpos hn (show 52 ≤ n.log2 + k by omega), UnpackedFloat.round]
  simp only [htarget, decreaseExponent]
  rw [show (-(k : Int) - (n.log2 - 52)).toNat = 0 by omega, Nat.shiftLeft_zero, Int.natCast_zero,
    Int.sub_zero]

theorem normalize_natCast {n k : Nat} (hn : n < 2 ^ 53) (hk : 52 ≤ k) :
    Float.ofModel (Float.Model.pack
      (UnpackedFloat.normalize .binary64 ((n + 1) * 2 ^ k - 2 ^ k : Int) (-k) .positive)) =
      nearest (n : Int) := by
  rw [show ((n + 1) * 2 ^ k - 2 ^ k : Int) = (n * 2 ^ k : Nat) by push_cast; ring,
    UnpackedFloat.normalize]
  rcases Nat.eq_zero_or_pos n with rfl | hpos
  · rw [Nat.zero_mul]
    rfl
  · have hlt : (0 : Int) < (n * 2 ^ k : Nat) :=
      Int.natCast_pos.2 (Nat.mul_pos hpos (Nat.two_pow_pos k))
    rw [Int.compare_eq_gt.2 hlt, nearest_natCast hpos hn]
    dsimp only
    rw [Int.toNat_natCast, round_natCast hpos hn hk]

theorem sub_one_eq (x : Float) :
    x - 1.0 = .ofModel (Float.Model.pack (UnpackedFloat.sub .binary64 x.toModel.unpack
      (.finite .positive (2 ^ 52) (-52) (Nat.two_pow_pos 52)))) := rfl

/-- The whole number before another one is the double closest to it. -/
theorem sub_one {x : Float} {n : Nat} (hx : rational? x = some (n + 1 : Nat)) (hn : n < 2 ^ 53) :
    x - 1.0 = nearest (n : Int) := by
  obtain ⟨m, e, hm, hu, hsize⟩ := unpack_of_pos hx (Nat.cast_pos.2 n.succ_pos)
  obtain ⟨k, hk⟩ : ∃ k : Nat, min e (-52) = -k := ⟨(-min e (-52)).toNat, by omega⟩
  -- at the smaller exponent both are whole numbers with as many zeros behind them
  have hleft := shiftLeft_eq_of_size (k := k) (by omega) hsize
  have hright := shiftLeft_eq_of_size (m := 2 ^ 52) (n := 1) (e := -52) (k := k) (by omega)
    (by norm_num)
  rw [sub_one_eq, hu, UnpackedFloat.sub]
  simp only [hk, decreaseExponent, hleft, hright, Sign.apply]
  push_cast
  rw [one_mul]
  exact normalize_natCast hn (by omega)

/-- One taken off a whole number of no more than 53 bits, and nothing taken off zero. -/
theorem rational?_atLeastZero_sub_one {x : Float} {n : Nat} (hx : rational? x = some (n : Rat))
    (hn : n ≤ 2 ^ 53) : rational? (atLeastZero (x - 1.0)) = some ((n - 1 : Nat) : Rat) := by
  cases n with
  | zero =>
    obtain ⟨s, hu⟩ := unpack_of_eq_zero hx
    have hminus : rational? (x - 1.0) = some (-1) := by
      rw [sub_one_eq, hu]
      cases s <;> decide
    rw [rational?_atLeastZero hminus]
    decide
  | succ n =>
    rw [sub_one hx hn, rational?_atLeastZero (rational?_nearest hn), Nat.add_sub_cancel,
      Int.cast_natCast, max_eq_right (Nat.cast_nonneg n)]

end SpriteStage.Double
