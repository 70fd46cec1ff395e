import SpriteStage.Proofs.Double.Remainder

/-!
# Angles of one turn

Folding gives an angle from zero up to, and without, the full turn, which is never the negative
zero. What is left of a negative angle is above minus one turn, so it is not negative once it is
raised by one turn; if it then rounds up to the full turn it counts as zero. An angle of one turn is
left as it is.
-/

namespace SpriteStage

namespace Double

open Float.Model

theorem isFinite_of_rational? {x : Float} {q : Rat} (h : rational? x = some q) :
    x.isFinite = true := by
  change x.toModel.unpack.isFinite = true
  rcases unpack_cases h with ⟨s, hu, -⟩ | ⟨s, m, e, hm, hu, -⟩ <;> rw [hu] <;> rfl

theorem zero_le_of_not_isNegative {x : Float} (hx : x.isFinite = true)
    (h : isNegative x = false) : 0.0 ≤ x := by
  rw [le_iff_compare, unpack_zero]
  rcases unpack_of_not_isNegative hx h with hu | ⟨m, e, hm, hu⟩ <;> rw [hu] <;> rfl

/-- Comparing the other way round. -/
theorem compare_swap (a b : UnpackedFloat) : b.compare a = (a.compare b).map Ordering.swap := by
  have hlex (m n : Nat) (e f : Int) :
      (compare f e).then (compare n m) = ((compare e f).then (compare m n)).swap := by
    rw [Ordering.swap_then, Int.compare_swap, Nat.compare_swap]
  cases a with
  | notANumber => cases b <;> rfl
  | infinity s => cases b with
    | notANumber => cases s <;> rfl
    | infinity t => cases s <;> cases t <;> rfl
    | zero t | finite t n f hn => cases s <;> rfl
  | zero s => cases b with
    | notANumber | zero t => rfl
    | infinity t | finite t n f hn => cases t <;> rfl
  | finite s m e hm => cases b with
    | notANumber => cases s <;> rfl
    | infinity t => cases s <;> cases t <;> rfl
    | zero t => cases s <;> rfl
    | finite t n f hn =>
      cases s <;> cases t
      · exact congrArg (some ·.swap) (hlex m n e f)
      · rfl
      · rfl
      · exact congrArg some (hlex m n e f)

theorem exists_compare {a b : UnpackedFloat} (ha : a.isFinite = true) (hb : b.isFinite = true) :
    ∃ c, a.compare b = some c := by
  cases a with
  | notANumber | infinity s => cases ha
  | zero s => cases b with
    | notANumber | infinity t => cases hb
    | zero t => exact ⟨_, rfl⟩
    | finite t n f hn => cases t <;> exact ⟨_, rfl⟩
  | finite s m e hm => cases b with
    | notANumber | infinity t => cases hb
    | zero t => cases s <;> exact ⟨_, rfl⟩
    | finite t n f hn => cases s <;> cases t <;> exact ⟨_, rfl⟩

theorem lt_iff_not_le {x y : Float} (hx : x.isFinite = true) (hy : y.isFinite = true) :
    x < y ↔ ¬y ≤ x := by
  obtain ⟨c, hc⟩ := exists_compare hx hy
  change x.toModel.unpack.compare y.toModel.unpack = some c at hc
  rw [lt_iff_compare, le_iff_compare, compare_swap x.toModel.unpack, hc]
  cases c <;> decide

/-- A double that is not below zero, without the sign of the negative zero. -/
theorem add_zero_of_nonneg {x : Float} (hx : x.isFinite = true) (h : 0.0 ≤ x) :
    x + 0.0 = if isNegative x then 0.0 else x := by
  rcases unpack_of_nonneg hx h with ⟨s, hu⟩ | ⟨m, e, hm, hu⟩
  · rw [isNegative_of_unpack_zero hu]
    change Float.ofModel (Float.Model.pack (Float.Model.UnpackedFloat.add .binary64 x.toModel.unpack
      (.zero .positive))) = _
    cases s with
    | negative =>
      rw [hu]
      rfl
    | positive =>
      rw [if_neg (by decide)]
      conv_rhs => rw [← pack_unpack hx]
      rw [hu]
      rfl
  · rw [isNegative_of_unpack hu, add_zero_of_unpack hu, if_neg (by decide)]

end Double

namespace Heading

/-- An angle from zero up to, and without, the full turn; the negative zero is not meant. -/
structure InTurn (x : Float) : Prop where
  isNaN : x.isNaN = false
  nonneg : 0.0 ≤ x
  lt_full : x < full
  isNegative : Double.isNegative x = false

theorem unpack_full :
    full.toModel.unpack = .finite .positive (45 * 2 ^ 47) (-44) (by decide) := rfl

theorem rational?_full : Double.rational? full = some (360 : Nat) := by decide

/-- Below the full turn by their exponents and significands, and so by their numbers. -/
theorem rational_lt_of_lt_full {x : Float} {p : Rat} (hx : Double.rational? x = some p)
    (h : x < full) : p < 360 := by
  rw [Double.lt_iff_compare, unpack_full] at h
  rcases Double.unpack_cases hx with ⟨s, -, rfl⟩ | ⟨s, m, e, hm, hu, rfl⟩
  · norm_num
  have hpos := Double.size_pos hm e
  cases s with
  | negative => exact (neg_nonpos.2 hpos.le).trans_lt (by norm_num)
  | positive =>
    have hm53 := (Double.unpack_bounds hu).1
    rw [hu] at h
    have hless : (compare e (-44)).then (compare m (45 * 2 ^ 47)) = .lt := Option.some.inj h
    rw [Ordering.then_eq_lt] at hless
    rw [Double.signedSize]
    rcases hless with he | ⟨he, hm⟩
    · have he' : (2 : Rat) ^ e ≤ 2 ^ (-45 : Int) :=
        zpow_le_zpow_right₀ one_le_two (by have := Int.compare_eq_lt.1 he; omega)
      have hm' : (m : Rat) ≤ 2 ^ 53 := by exact_mod_cast hm53.le
      calc (m : Rat) * 2 ^ e ≤ 2 ^ 53 * 2 ^ (-45 : Int) :=
            mul_le_mul hm' he' (zpow_pos two_pos e).le (by positivity)
        _ < 360 := by norm_num
    · rw [Int.compare_eq_eq.1 he]
      have hm' : (m : Rat) < 45 * 2 ^ 47 := by exact_mod_cast Nat.compare_eq_lt.1 hm
      calc (m : Rat) * 2 ^ (-44 : Int) < 45 * 2 ^ 47 * 2 ^ (-44 : Int) :=
            mul_lt_mul_of_pos_right hm' (by positivity)
        _ = 360 := by norm_num

namespace InTurn

theorem isFinite {x : Float} (h : InTurn x) : x.isFinite = true := by
  have hlt := h.lt_full
  have hnonneg := h.nonneg
  rw [Double.lt_iff_compare, unpack_full] at hlt
  rw [Double.le_iff_compare, Double.unpack_zero] at hnonneg
  change x.toModel.unpack.isFinite = true
  cases hu : x.toModel.unpack with
  | notANumber =>
    rw [hu] at hlt
    cases hlt
  | infinity s =>
    rw [hu] at hlt hnonneg
    cases s with
    | positive => cases hlt
    | negative => cases hnonneg
  | zero s | finite s m e hm => rfl

theorem add_zero {x : Float} (hx : x.isFinite = true) (h0 : 0.0 ≤ x) (h : ¬full ≤ x) :
    InTurn (x + 0.0) := by
  rw [Double.add_zero_of_nonneg hx h0]
  split
  · exact ⟨by decide, by decide, by decide, by decide⟩
  · rename_i hsign
    refine ⟨?_, h0, (Double.lt_iff_not_le hx (by decide)).2 h, Bool.eq_false_iff.2 hsign⟩
    change x.toModel.unpack.isFinite = true at hx
    change x.toModel.unpack.isNaN = false
    cases hu : x.toModel.unpack with
    | notANumber | infinity s => rw [hu] at hx; cases hx
    | zero s | finite s m e hm => rfl

end InTurn

/-- Whatever is folded, the result is an angle of one turn. -/
theorem inTurn_fold (angle : Float) : InTurn (fold angle) := by
  obtain ⟨p, hp⟩ := Double.exists_rational? (Double.isFinite_finite angle)
  obtain ⟨r, hr, habs, -⟩ := Double.rational?_remainder hp rational?_full (by decide) (by decide)
  have hrest := Double.isFinite_of_rational? hr
  unfold fold
  dsimp only
  generalize Double.remainder (Double.finite angle) full = rest at hr hrest
  -- a negative rest is above minus one turn
  have hraised : (if rest < 0.0 then rest + full else rest).isFinite = true ∧
      0.0 ≤ if rest < 0.0 then rest + full else rest := by
    split
    · rename_i hneg
      have hfinite := Double.isFinite_add_of_neg hrest (by decide) hneg
        (show 0.0 ≤ full by decide)
      have hsign := Double.isNegative_add hr rational?_full (by norm_num)
        (by have := (abs_lt.1 habs).1; linarith)
      exact ⟨hfinite, Double.zero_le_of_not_isNegative hfinite hsign⟩
    · rename_i hneg
      exact ⟨hrest, not_not.1 fun h => hneg ((Double.lt_iff_not_le hrest (by decide)).2 h)⟩
  generalize (if rest < 0.0 then rest + full else rest) = raised at hraised
  split
  · exact ⟨by decide, by decide, by decide, by decide⟩
  · rename_i hlt
    exact InTurn.add_zero hraised.1 hraised.2 hlt

/-- A tiny negative angle would round up to the full turn. -/
example : fold (-1.0e-20) = 0.0 ∧ fold (-0.0) = 0.0 ∧ fold (-450.0) = 270.0 := by decide +kernel

/-- An angle of one turn is left as it is. -/
theorem fold_of_inTurn {x : Float} (h : InTurn x) : fold x = x := by
  obtain ⟨p, hp⟩ := Double.exists_rational? h.isFinite
  have hfinite : Double.finite x = x := by rw [Double.finite, if_pos h.isFinite]
  have hless : |p| < |((360 : Nat) : Rat)| := by
    have hneg : ¬p < 0 := by
      by_cases hzero : p = 0
      · rw [hzero]
        exact lt_irrefl 0
      · rw [← Double.isNegative_iff hp hzero, h.isNegative]
        exact Bool.false_ne_true
    rw [abs_of_nonneg (not_lt.1 hneg), abs_of_pos (by norm_num)]
    exact_mod_cast rational_lt_of_lt_full hp h.lt_full
  unfold fold
  dsimp only
  rw [hfinite, Double.remainder_of_lt hp rational?_full hless,
    if_neg fun hneg => (Double.lt_iff_not_le h.isFinite (by decide)).1 hneg h.nonneg,
    if_neg ((Double.lt_iff_not_le h.isFinite (by decide)).1 h.lt_full),
    Double.add_zero_of_nonneg h.isFinite h.nonneg, h.isNegative, if_neg Bool.false_ne_true]

end Heading

end SpriteStage
