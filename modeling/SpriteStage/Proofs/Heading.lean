import SpriteStage.Heading
import SpriteStage.Proofs.Double.Product
import SpriteStage.Proofs.Stage.Finite

/-!
# Headings are finite

Folding an angle into one turn takes whole turns off it, which leaves less than a turn, and brings
what is negative up by one turn. Neither leaves the range of doubles, and nor does the conversion of
a heading into radians.
-/

namespace SpriteStage

namespace Double

theorem abs_eq_abs (q : Rat) : q.abs = |q| := by
  unfold Rat.abs
  split
  · rename_i h
    exact (abs_of_nonneg h).symm
  · rename_i h
    exact (abs_of_neg (not_le.1 h)).symm

/-- What is left when whole periods are taken off is smaller than the period. -/
theorem remainder_bounds {p q : Rat} (hq : q ≠ 0) :
    0 ≤ |p| - |q| * (|p| / |q|).floor ∧ |p| - |q| * (|p| / |q|).floor < |q| := by
  have hpos : 0 < |q| := abs_pos.2 hq
  have hle := Rat.floor_le (|p| / |q|)
  have hlt := Rat.lt_floor_add_one (|p| / |q|)
  rw [le_div_iff₀ hpos] at hle
  rw [div_lt_iff₀ hpos, Rat.intCast_add, Rat.intCast_one] at hlt
  constructor <;> linarith

theorem isFinite_nearestSigned {q : Rat} {bound : Nat} (negative : Bool)
    (hbound : bound.log2 ≤ 1022) (hq : |q| ≤ bound) :
    (nearestSigned negative q).isFinite = true := by
  unfold nearestSigned
  split
  · decide
  · exact isFinite_nearest_of_abs_le hbound hq

/-- The remainder of a finite double is finite if the period is not too large. -/
theorem isFinite_remainder {x period : Float} {q : Rat} {bound : Nat} (hx : x.isFinite = true)
    (hperiod : rational? period = some q) (hq : q ≠ 0) (hbound : bound.log2 ≤ 1022)
    (hle : |q| ≤ bound) : (remainder x period).isFinite = true := by
  obtain ⟨p, hp⟩ := exists_rational? hx
  unfold remainder
  rw [hp, hperiod]
  dsimp only
  rw [if_neg (by simpa using hq)]
  split
  · exact hx
  · obtain ⟨hnonneg, hlt⟩ := remainder_bounds (p := p) hq
    rw [← abs_eq_abs, ← abs_eq_abs] at hnonneg hlt
    rw [← abs_eq_abs] at hle
    apply isFinite_nearestSigned _ hbound
    split
    · rw [abs_neg, abs_of_nonneg hnonneg]
      exact hlt.le.trans hle
    · rw [abs_of_nonneg hnonneg]
      exact hlt.le.trans hle

end Double

/-- A folded angle is finite, whatever was folded. -/
theorem Heading.isFinite_fold (angle : Float) : (fold angle).isFinite = true := by
  have hperiod : Double.rational? full = some 360 := by decide
  have hrest : (Double.remainder (Double.finite angle) full).isFinite = true :=
    Double.isFinite_remainder (Double.isFinite_finite angle) hperiod (by decide)
      (show Nat.log2 360 ≤ 1022 by decide) (by decide)
  unfold fold
  dsimp only
  generalize Double.remainder (Double.finite angle) full = rest at hrest
  have hraised : (if rest < 0.0 then rest + full else rest).isFinite = true := by
    split
    · rename_i hneg
      exact Double.isFinite_add_of_neg hrest (by decide) hneg (by decide)
    · exact hrest
  generalize (if rest < 0.0 then rest + full else rest) = raised at hraised
  apply Double.isFinite_add_zero
  split
  · decide
  · exact hraised

theorem Heading.isFinite_radians {angle : Float} (h : angle.isFinite = true) :
    (radians angle).isFinite = true := by
  have hoffset : (90.0 : Float).toModel.unpack = .finite .positive (45 * 2 ^ 47) (-46) (by decide) :=
    rfl
  have hfactor : (0.017453292519943295 : Float).toModel.unpack =
      .finite .positive 5030569068109113 (-58) (by decide) := rfl
  exact Double.isFinite_mul_of_exponent_le
    (Double.isFinite_sub_of_exponent_le h hoffset (by decide)) hfactor (by decide)

end SpriteStage
