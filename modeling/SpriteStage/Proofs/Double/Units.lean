import SpriteStage.Proofs.Double.Rounding

/-!
# Sums and differences of doubles

A finite double is a whole number of the smallest doubles. A sum or a difference of two is the exact
one, rounded, as long as it stays in range, and doubles are ordered as these numbers are.
-/

namespace SpriteStage.Double

open Float.Model Float.Model.UnpackedFloat

/-- A significand is the same number of smallest doubles at a smaller exponent. -/
theorem apply_shiftLeft (s : Sign) {m : Nat} {e t : Int} (ht : -1074 ≤ t) (hle : t ≤ e) :
    s.apply (m <<< (e - t).toNat : Nat) * 2 ^ (t + 1074).toNat =
      s.apply (m * 2 ^ (e + 1074).toNat : Nat) := by
  have hsize : m <<< (e - t).toNat * 2 ^ (t + 1074).toNat = m * 2 ^ (e + 1074).toNat := by
    rw [Nat.shiftLeft_eq, mul_assoc, ← pow_add]
    congr 2
    omega
  rw [← hsize]
  cases s <;> simp [Sign.apply]

/-- What is unpacked from a finite double. -/
inductive Proper : UnpackedFloat → Prop where
  | zero (s : Sign) : Proper (.zero s)
  | finite (s : Sign) {m : Nat} {e : Int} (hm : 0 < m) (h : Canonical m e) (he : e ≤ maxExponent) :
    Proper (.finite s m e hm)

theorem proper_unpack {x : Float} (h : x.isFinite = true) : Proper x.toModel.unpack := by
  change x.toModel.unpack.isFinite = true at h
  cases hu : x.toModel.unpack with
  | notANumber | infinity s => rw [hu] at h; cases h
  | zero s => exact .zero s
  | finite s m e hm => exact .finite s hm (canonical_of_unpack hu) (unpack_bounds hu).2

variable {u v : UnpackedFloat}

theorem Proper.unpack_pack (h : Proper u) : (Float.Model.pack u).unpack = u := by
  cases h with
  | zero s => cases s <;> rfl
  | finite s hm h he => exact unpack_pack_canonical hm h he

theorem Proper.isFinite (h : Proper u) : u.isFinite = true := by cases h <;> rfl

theorem Proper.neg (h : Proper u) : Proper u.neg := by
  cases h with
  | zero s => exact .zero (-s)
  | finite s hm h he => exact .finite (-s) hm h he

theorem Proper.abs (h : Proper u) : Proper u.abs := by
  cases h with
  | zero s => exact .zero .positive
  | finite s hm h he => exact .finite .positive hm h he

theorem neg_apply (s : Sign) (n : Int) : (-s).apply n = -s.apply n := by
  cases s
  · exact (Int.neg_neg n).symm
  · rfl

theorem unitsOf_neg (u : UnpackedFloat) : unitsOf u.neg = -unitsOf u := by
  cases u with
  | finite s m e hm => exact neg_apply s _
  | zero s | infinity s | notANumber => rfl

theorem sub_eq_add_neg_unpacked (u v : UnpackedFloat) :
    UnpackedFloat.sub .binary64 u v = UnpackedFloat.add .binary64 u v.neg := by
  cases u <;> cases v <;> try rfl
  simp only [UnpackedFloat.sub, UnpackedFloat.add, UnpackedFloat.neg, neg_apply, sub_eq_add_neg]

theorem Proper.fits (h : Proper u) : Fits (unitsOf u) := by
  cases h with
  | zero s => exact fits_zero
  | @finite s m e hm h he =>
    refine ⟨(e + 1074).toNat, ?_, ?_⟩
    · rw [← dvd_abs, unitsOf, abs_apply, Nat.cast_mul, Nat.cast_pow]
      exact Dvd.intro_left _ rfl
    · rw [unitsOf, abs_apply, pow_add]
      exact_mod_cast Nat.mul_le_mul_right _ h.bits.le

/-- The sum of two unpacked doubles is rounded. -/
theorem Proper.add (hu : Proper u) (hv : Proper v) (h : |unitsOf u + unitsOf v| < 2 ^ 2097) :
    let w := (Float.Model.pack (UnpackedFloat.add .binary64 u v)).unpack
    w.isFinite = true ∧ Rounds (unitsOf u + unitsOf v) (unitsOf w) := by
  intro w
  have keeps {u : UnpackedFloat} (hu : Proper u) :
      let w := (Float.Model.pack u).unpack
      w.isFinite = true ∧ Rounds (unitsOf u) (unitsOf w) := by
    rw [hu.unpack_pack]
    exact ⟨hu.isFinite, .inl ⟨hu.fits, rfl⟩⟩
  cases hu with
  | zero s =>
    cases hv with
    | zero t =>
      cases s <;> cases t <;> exact ⟨rfl, .inl ⟨fits_zero, rfl⟩⟩
    | @finite t n f hn hd hf =>
      change let w := (Float.Model.pack (.finite t n f hn)).unpack; _ ∧ Rounds (0 + _) _
      rw [zero_add]
      exact keeps (.finite t hn hd hf)
  | @finite s m e hm hc he =>
    cases hv with
    | zero t =>
      change let w := (Float.Model.pack (.finite s m e hm)).unpack; _ ∧ Rounds (_ + 0) _
      rw [add_zero]
      exact keeps (.finite s hm hc he)
    | @finite t n f hn hd hf =>
      have hleast : -1074 ≤ min e f := le_min hc.least hd.least
      have hsum : unitsOf (.finite s m e hm) + unitsOf (.finite t n f hn) =
          (s.apply (m <<< (e - min e f).toNat : Nat) +
            t.apply (n <<< (f - min e f).toNat : Nat)) * 2 ^ (min e f + 1074).toNat := by
        rw [add_mul, apply_shiftLeft s hleast (min_le_left e f),
          apply_shiftLeft t hleast (min_le_right e f)]
        rfl
      rw [hsum] at h ⊢
      exact unpack_pack_normalize .positive hleast h

variable {x y : Float}

theorem fits_units (x : Float) : Fits (units x) := by
  rw [units]
  cases hu : x.toModel.unpack with
  | notANumber | infinity s | zero s => exact fits_zero
  | finite s m e hm => exact (Proper.finite s hm (canonical_of_unpack hu) (unpack_bounds hu).2).fits

theorem add_rounds (hx : x.isFinite = true) (hy : y.isFinite = true)
    (h : |units x + units y| < 2 ^ 2097) :
    (x + y).isFinite = true ∧ Rounds (units x + units y) (units (x + y)) :=
  (proper_unpack hx).add (proper_unpack hy) h

theorem sub_rounds (hx : x.isFinite = true) (hy : y.isFinite = true)
    (h : |units x - units y| < 2 ^ 2097) :
    (x - y).isFinite = true ∧ Rounds (units x - units y) (units (x - y)) := by
  have hadd := (proper_unpack hx).add (proper_unpack hy).neg
  rw [unitsOf_neg, ← sub_eq_add_neg, ← sub_eq_add_neg_unpacked] at hadd
  exact hadd h

/-! ### Order -/

/-- A larger exponent makes a larger number. -/
theorem Canonical.lt_of_exponent_lt {m n : Nat} {e f : Int} (h : Canonical m e) (h' : Canonical n f)
    (hlt : e < f) : m * 2 ^ (e + 1074).toNat < n * 2 ^ (f + 1074).toNat := by
  have hleast := h.least
  have hfull := h'.full.resolve_right (by omega)
  calc m * 2 ^ (e + 1074).toNat < 2 ^ 53 * 2 ^ (e + 1074).toNat :=
        Nat.mul_lt_mul_of_pos_right h.bits (Nat.two_pow_pos _)
    _ = 2 ^ (53 + (e + 1074).toNat) := (pow_add ..).symm
    _ ≤ 2 ^ (52 + (f + 1074).toNat) := Nat.pow_le_pow_right (by decide) (by omega)
    _ = 2 ^ 52 * 2 ^ (f + 1074).toNat := pow_add ..
    _ ≤ n * 2 ^ (f + 1074).toNat := Nat.mul_le_mul_right _ hfull

/-- Canonical forms are ordered by their exponents first. -/
theorem Canonical.compare_eq_lt {m n : Nat} {e f : Int} (h : Canonical m e) (h' : Canonical n f) :
    (compare e f).then (compare m n) = .lt ↔
      m * 2 ^ (e + 1074).toNat < n * 2 ^ (f + 1074).toNat := by
  rcases lt_trichotomy e f with hef | rfl | hef
  · rw [compare_lt_iff_lt.2 hef]
    exact iff_of_true rfl (h.lt_of_exponent_lt h' hef)
  · rw [compare_eq_iff_eq.2 rfl, Nat.mul_lt_mul_right (Nat.two_pow_pos _)]
    exact Nat.compare_eq_lt
  · rw [compare_gt_iff_gt.2 hef]
    exact iff_of_false (by rintro ⟨⟩) (h'.lt_of_exponent_lt h hef).not_gt

theorem abs_unitsOf_pos (s : Sign) {m : Nat} {e : Int} (hm : 0 < m) :
    0 < |unitsOf (.finite s m e hm)| := by
  rw [unitsOf, abs_apply]
  exact_mod_cast Nat.mul_pos hm (Nat.two_pow_pos _)

theorem Proper.abs_compare (hu : Proper u) (hv : Proper v) :
    u.abs.compare v.abs = some .lt ↔ |unitsOf u| < |unitsOf v| := by
  cases hu with
  | zero s =>
    cases hv with
    | zero t => exact iff_of_false (by rintro ⟨⟩) (lt_irrefl _)
    | finite t hn hd hf => exact iff_of_true rfl (abs_unitsOf_pos t hn)
  | @finite s m e hm hc he =>
    cases hv with
    | zero t => exact iff_of_false (by rintro ⟨⟩) (not_lt.2 (abs_nonneg _))
    | @finite t n f hn hd hf =>
      rw [unitsOf, unitsOf, abs_apply, abs_apply, Nat.cast_lt, ← hc.compare_eq_lt hd]
      exact Option.some_inj

theorem abs_lt_iff (hx : x.isFinite = true) (hy : y.isFinite = true) :
    x.abs < y.abs ↔ |units x| < |units y| := by
  have habs {x : Float} (hx : x.isFinite = true) : x.abs.toModel.unpack = x.toModel.unpack.abs :=
    (proper_unpack hx).abs.unpack_pack
  rw [lt_iff_compare, habs hx, habs hy]
  exact (proper_unpack hx).abs_compare (proper_unpack hy)

theorem eq_zero_iff (hx : x.isFinite = true) : (x == 0.0) = true ↔ units x = 0 := by
  have hu := proper_unpack hx
  change (x.toModel.unpack.compare (0.0 : Float).toModel.unpack == some .eq) = true ↔ _
  rw [units, unpack_zero]
  generalize x.toModel.unpack = u at hu ⊢
  cases hu with
  | zero s => exact iff_of_true rfl rfl
  | finite s hm hc he =>
    refine iff_of_false ?_ (abs_pos.1 (abs_unitsOf_pos s hm))
    cases s <;> rintro ⟨⟩

/-! ### Rational numbers -/

def smallest : Rat := 2 ^ (-1074 : Int)

theorem smallest_pos : 0 < smallest := zpow_pos two_pos _

/-- A finite double denotes its number of smallest doubles. -/
theorem rational?_eq_units (hx : x.isFinite = true) :
    rational? x = some (units x * smallest) := by
  have hu := proper_unpack hx
  cases hv : x.toModel.unpack with
  | infinity s | notANumber => rw [hv] at hu; cases hu
  | zero s =>
    have hzero : units x = 0 := congrArg unitsOf hv
    rw [rational?, hv, hzero, Int.cast_zero, zero_mul]
  | finite s m e hm =>
    have hunits : units x = s.apply (m * 2 ^ (e + 1074).toNat : Nat) := congrArg unitsOf hv
    have hsize := shiftLeft_size (m := m) (canonical_of_unpack hv).least
    rw [Nat.shiftLeft_eq, sub_neg_eq_add] at hsize
    rw [rational?_of_unpack hv, hunits, smallest]
    cases s with
    | positive => rw [signedSize, Sign.apply, Int.cast_natCast, hsize]
    | negative => rw [signedSize, Sign.apply, Int.cast_neg, Int.cast_natCast, neg_mul, hsize]

end SpriteStage.Double
