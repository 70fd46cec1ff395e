import SpriteStage.Benchmark.Summary
import SpriteStage.Proofs.Sorting.Runs
import Mathlib.Algebra.Order.Field.Rat
import Mathlib.Data.List.GetD
import Mathlib.Data.List.Sort
import Mathlib.Order.Bounds.Basic
import Mathlib.Tactic.Linarith
import Mathlib.Tactic.NormNum
import Mathlib.Tactic.Ring

/-!
# Percentiles are bounded and monotone

A percentile of rational numbers is the value at a place on the line that joins the sorted values.
The line rises from the smallest to the largest of them, and the place moves with the level between
the first and the last, so percentiles rise with their level and stay between both. Rounding keeps
their order.
-/

namespace SpriteStage.Benchmark

open scoped List

variable {ε : Type}

/-! ### The line through some points -/

/-- The line that joins the points over the whole numbers. -/
def line (points : Nat → Rat) (place : Rat) : Rat :=
  let low := place.floor.toNat
  points low * (1 - (place - place.floor)) + points (low + 1) * (place - place.floor)

theorem line_eq (points : Nat → Rat) (place : Rat) :
    line points place = points place.floor.toNat +
      (place - place.floor) * (points (place.floor.toNat + 1) - points place.floor.toNat) := by
  rw [line]
  ring

theorem floor_share (q : Rat) : 0 ≤ q - q.floor ∧ q - q.floor < 1 := by
  have hle := Rat.floor_le q
  have hlt := Rat.lt_floor_add_one q
  push_cast at hlt
  constructor <;> linarith

theorem line_mem {points : Nat → Rat} (h : Monotone points) (place : Rat) :
    points place.floor.toNat ≤ line points place ∧
      line points place ≤ points (place.floor.toNat + 1) := by
  obtain ⟨hlow, hhigh⟩ := floor_share place
  have hstep := sub_nonneg.2 (h (Nat.le_succ place.floor.toNat))
  have hup := mul_nonneg hlow hstep
  have hdown := mul_le_of_le_one_left hstep hhigh.le
  rw [line_eq]
  constructor <;> linarith

theorem line_mono {points : Nat → Rat} (h : Monotone points) {p q : Rat} (hp : 0 ≤ p)
    (hpq : p ≤ q) : line points p ≤ line points q := by
  have hfloor : p.floor ≤ q.floor := Rat.floor_monotone hpq
  have hp0 : 0 ≤ p.floor := Rat.le_floor_iff.2 hp
  rcases Int.lt_or_eq_of_le hfloor with hlt | heq
  · -- the place has moved past a point
    calc line points p ≤ points (p.floor.toNat + 1) := (line_mem h p).2
      _ ≤ points q.floor.toNat := h (by omega)
      _ ≤ line points q := (line_mem h q).1
  · have hstep := sub_nonneg.2 (h (Nat.le_succ q.floor.toNat))
    have hshare := mul_le_mul_of_nonneg_right (sub_le_sub_right hpq (q.floor : Rat)) hstep
    rw [line_eq, line_eq, heq]
    linarith

theorem line_natCast (points : Nat → Rat) (n : Nat) : line points n = points n := by
  have hfloor : (n : Rat).floor = n := by exact_mod_cast Rat.floor_intCast n
  rw [line_eq, hfloor]
  simp

/-! ### The place of a percentile -/

def placeOf (level : Rat) (steps : Nat) : Rat := clamp level * steps

theorem place_eq (level : Rat) (steps : Nat) :
    (exactScale ε).place level steps =
      .ok ⟨(placeOf level steps).floor.toNat, (placeOf level steps).ceil.toNat,
        placeOf level steps - (placeOf level steps).floor⟩ := rfl

theorem clamp_eq (level : Rat) : clamp level = max 0 (min 1 level) := by
  unfold clamp
  split_ifs with hhigh hlow
  · rw [min_eq_right hhigh.le, max_eq_right hlow.le]
  · rw [min_eq_right hhigh.le, max_eq_left (not_lt.1 hlow)]
  · rw [min_eq_left (not_lt.1 hhigh), max_eq_right zero_le_one]

theorem placeOf_mem (level : Rat) (steps : Nat) :
    0 ≤ placeOf level steps ∧ placeOf level steps ≤ steps := by
  have hsteps : (0 : Rat) ≤ steps := Nat.cast_nonneg steps
  have hlow : 0 ≤ max 0 (min 1 level) := le_max_left _ _
  have hhigh : max 0 (min 1 level) ≤ 1 := max_le zero_le_one (min_le_left _ _)
  rw [placeOf, clamp_eq]
  exact ⟨mul_nonneg hlow hsteps, mul_le_of_le_one_left hsteps hhigh⟩

theorem placeOf_mono (steps : Nat) : Monotone (placeOf · steps) := fun p q h => by
  have hclamp : clamp p ≤ clamp q := by
    rw [clamp_eq, clamp_eq]
    exact max_le_max_left 0 (min_le_min_left 1 h)
  exact mul_le_mul_of_nonneg_right hclamp (Nat.cast_nonneg steps)

theorem placeOf_of_nonpos {level : Rat} (h : level ≤ 0) (steps : Nat) :
    placeOf level steps = (0 : Nat) := by
  rw [placeOf, clamp_eq, max_eq_left ((min_le_right _ _).trans h), zero_mul, Nat.cast_zero]

theorem placeOf_of_one_le {level : Rat} (h : 1 ≤ level) (steps : Nat) :
    placeOf level steps = steps := by
  rw [placeOf, clamp_eq, min_eq_left h, max_eq_right zero_le_one, one_mul]

theorem floor_ceil_le {place : Rat} {steps : Nat} (h : place ≤ steps) :
    place.floor.toNat ≤ steps ∧ place.ceil.toNat ≤ steps := by
  have hceil : place.ceil ≤ (steps : Int) := Rat.ceil_le_iff.2 (by exact_mod_cast h)
  have hfloor : (place.floor : Rat) ≤ steps := (Rat.floor_le place).trans h
  have : place.floor ≤ (steps : Int) := by exact_mod_cast hfloor
  omega

/-- A place is a whole number, or its neighbours are one step apart. -/
theorem ceil_cases (q : Rat) : q = q.floor ∨ q.ceil = q.floor + 1 := by
  have hle : q.floor ≤ q.ceil := by exact_mod_cast (Rat.floor_le q).trans Rat.le_ceil
  have hceil : q.ceil ≤ q.floor + 1 := Rat.ceil_le_iff.2 (Rat.lt_floor_add_one q).le
  rcases Int.lt_or_eq_of_le hle with hlt | heq
  · exact .inr (by omega)
  · refine .inl (le_antisymm ?_ (Rat.floor_le q))
    rw [heq]
    exact Rat.le_ceil

/-! ### Percentiles as places on a line -/

def pointsOf (values : List Rat) (n : Nat) : Rat := values.getD (min n (values.length - 1)) 0

theorem getD_eq_pointsOf {values : List Rat} {n : Nat} (h : n ≤ values.length - 1) :
    values.getD n 0 = pointsOf values n := by
  rw [pointsOf, min_eq_left h]

theorem pointsOf_mem {values : List Rat} (h : values ≠ []) (n : Nat) :
    pointsOf values n ∈ values := by
  have hpos := List.length_pos_iff.2 h
  rw [pointsOf, List.getD_eq_getElem _ _ (by omega)]
  exact List.getElem_mem _

theorem pointsOf_mono {values : List Rat} (h : values.Pairwise (· ≤ ·)) :
    Monotone (pointsOf values) := by
  intro i j hij
  rcases Nat.eq_zero_or_pos values.length with hzero | hpos
  · rw [List.eq_nil_of_length_eq_zero hzero]
    exact le_rfl
  · rw [pointsOf, pointsOf, List.getD_eq_getElem _ _ (by omega),
      List.getD_eq_getElem _ _ (by omega)]
    rcases Nat.lt_or_eq_of_le (min_le_min_right (values.length - 1) hij) with hlt | heq
    · exact List.pairwise_iff_getElem.1 h _ _ (by omega) (by omega) hlt
    · exact le_of_eq (by simp only [heq])

/-- The value at a place, or the blend of its neighbours, lies on the line. -/
theorem blend_eq_line {points : List Rat} {place : Rat} (h0 : 0 ≤ place)
    (h : place ≤ (points.length - 1 : Nat)) :
    (if place.floor.toNat == place.ceil.toNat then .ok (points.getD place.floor.toNat 0)
      else (exactScale ε).blend (points.getD place.floor.toNat 0) (points.getD place.ceil.toNat 0)
        (place - place.floor)) = .ok (line (pointsOf points) place) := by
  obtain ⟨hlow, hhigh⟩ := floor_ceil_le h
  have hfloor : 0 ≤ place.floor := Rat.le_floor_iff.2 h0
  rw [getD_eq_pointsOf hlow, getD_eq_pointsOf hhigh]
  rcases ceil_cases place with hwhole | hstep
  · have hceil : place.ceil = place.floor := by
      conv_lhs => rw [hwhole, Rat.ceil_intCast]
    rw [if_pos (beq_iff_eq.2 (by rw [hceil])), line_eq, ← hwhole, sub_self, zero_mul, add_zero]
  · have hnext : place.ceil.toNat = place.floor.toNat + 1 := by omega
    rw [if_neg (by rw [beq_iff_eq]; omega), hnext]
    rfl

def percentileOf (points : List Rat) (level : Rat) : Rat :=
  line (pointsOf points) (placeOf level (points.length - 1))

theorem percentile_eq {values points : List Rat} (hsort : (exactScale ε).sort values = .ok points)
    (h : points ≠ []) (level : Rat) :
    percentile (exactScale ε) values level = .ok (percentileOf points level) := by
  rw [percentile, hsort]
  match points, h with
  | [v], _ =>
    have hplace : placeOf level ([v].length - 1) = (0 : Nat) := by
      rw [placeOf, List.length_singleton, Nat.sub_self, Nat.cast_zero, mul_zero]
    rw [percentileOf, hplace, line_natCast]
    rfl
  | v :: w :: rest, _ =>
    obtain ⟨h0, hle⟩ := placeOf_mem level ((v :: w :: rest).length - 1)
    exact blend_eq_line h0 hle

theorem percentileOf_mem {points : List Rat} (hpoints : points.Pairwise (· ≤ ·)) (level : Rat) :
    pointsOf points 0 ≤ percentileOf points level ∧
      percentileOf points level ≤ pointsOf points (points.length - 1) := by
  have hmono := pointsOf_mono hpoints
  obtain ⟨h0, hle⟩ := placeOf_mem level (points.length - 1)
  rw [← line_natCast (pointsOf points) 0, ← line_natCast (pointsOf points) (points.length - 1),
    Nat.cast_zero]
  exact ⟨line_mono hmono le_rfl h0, line_mono hmono h0 hle⟩

theorem percentileOf_mono {points : List Rat} (hpoints : points.Pairwise (· ≤ ·)) :
    Monotone (percentileOf points) := fun p _ h =>
  line_mono (pointsOf_mono hpoints) (placeOf_mem p _).1 (placeOf_mono _ h)

theorem percentileOf_of_nonpos (points : List Rat) {level : Rat} (h : level ≤ 0) :
    percentileOf points level = pointsOf points 0 := by
  rw [percentileOf, placeOf_of_nonpos h, line_natCast]

theorem percentileOf_of_one_le (points : List Rat) {level : Rat} (h : 1 ≤ level) :
    percentileOf points level = pointsOf points (points.length - 1) := by
  rw [percentileOf, placeOf_of_one_le h, line_natCast]

/-! ### Sorted values -/

theorem isOrder_lt : Sorting.IsOrder fun a b : Rat => decide (a < b) where
  asymm a b h := decide_eq_false (not_lt_of_gt (of_decide_eq_true h))
  trans a b c hba hcb := by
    rw [decide_eq_false_iff_not, not_lt] at hba hcb ⊢
    exact hba.trans hcb

theorem sort_eq (ε : Type) (values : List Rat) :
    ∃ points, (exactScale ε).sort values = .ok points ∧ points ~ values ∧
      points.Pairwise (· ≤ ·) := by
  obtain ⟨points, hsort, hperm, horder⟩ :=
    Sorting.byRuns_returns (m := Except ε) (fun a b : Rat => decide (a < b)) values
  refine ⟨points, hsort, hperm, (horder isOrder_lt).imp fun {a b} h => ?_⟩
  exact not_lt.1 (of_decide_eq_false h)

theorem sort_of_perm {values values' points : List Rat} (h : values' ~ values)
    (hsort : (exactScale ε).sort values = .ok points) :
    (exactScale ε).sort values' = .ok points := by
  obtain ⟨points', hsort', hperm', horder'⟩ := sort_eq ε values'
  obtain ⟨points'', hsort'', hperm, horder⟩ := sort_eq ε values
  obtain rfl := Except.ok.inj (hsort.symm.trans hsort'')
  rw [hsort', (hperm'.trans (h.trans hperm.symm)).eq_of_pairwise' horder' horder]

theorem isLeast_pointsOf {points values : List Rat} (hperm : points ~ values)
    (hpoints : points.Pairwise (· ≤ ·)) (h : points ≠ []) :
    IsLeast {v | v ∈ values} (pointsOf points 0) := by
  refine ⟨hperm.subset (pointsOf_mem h 0), fun v hv => ?_⟩
  obtain ⟨n, hn, rfl⟩ := List.getElem_of_mem (hperm.symm.subset hv)
  rw [← List.getD_eq_getElem _ 0 hn, getD_eq_pointsOf (by omega)]
  exact pointsOf_mono hpoints (Nat.zero_le n)

theorem isGreatest_pointsOf {points values : List Rat} (hperm : points ~ values)
    (hpoints : points.Pairwise (· ≤ ·)) (h : points ≠ []) :
    IsGreatest {v | v ∈ values} (pointsOf points (points.length - 1)) := by
  refine ⟨hperm.subset (pointsOf_mem h _), fun v hv => ?_⟩
  obtain ⟨n, hn, rfl⟩ := List.getElem_of_mem (hperm.symm.subset hv)
  rw [← List.getD_eq_getElem _ 0 hn, getD_eq_pointsOf (by omega)]
  exact pointsOf_mono hpoints (by omega)

/-! ### Summaries -/

theorem isGreatest_largest {values : List Rat} (h : values ≠ []) :
    IsGreatest {v | v ∈ values} ((exactMeasure ε).largest values) := by
  obtain ⟨first, rest, rfl⟩ := List.exists_cons_of_ne_nil h
  have hlarger (a b : Rat) : (exactMeasure ε).larger a b = max a b := by
    simp only [Measure.larger, exactMeasure, decide_eq_true_eq]
    split
    · rename_i hlt
      rw [max_eq_right hlt.le]
    · rename_i hge
      rw [max_eq_left (not_lt.1 hge)]
  have hmax : (first :: rest).max? = some ((exactMeasure ε).largest (first :: rest)) := by
    rw [List.max?_cons', Measure.largest, funext₂ hlarger]
  obtain ⟨hmem, hle⟩ := List.max?_eq_some_iff.1 hmax
  exact ⟨hmem, fun v hv => hle v hv⟩

theorem roundEven_le {p q : Rat} (h : p ≤ q) : Double.roundEven p ≤ Double.roundEven q := by
  have hfloor : p.floor ≤ q.floor := Rat.floor_monotone h
  rcases Int.lt_or_eq_of_le hfloor with hlt | heq
  · rcases Double.roundEven_mem p with hp | hp <;> rcases Double.roundEven_mem q with hq | hq <;>
      omega
  · -- both lie between the same whole numbers
    have hrest : p - q.floor ≤ q - q.floor := sub_le_sub_right h _
    unfold Double.roundEven
    rw [heq]
    dsimp only
    split_ifs <;> first | omega | (exfalso; linarith)

theorem toPlaces_mono (places : Nat) : Monotone (Double.toPlaces places) := fun p q h => by
  have hscale : (0 : Rat) < 10 ^ places := by positivity
  have hround := roundEven_le (mul_le_mul_of_nonneg_right h hscale.le)
  exact div_le_div_of_nonneg_right (by exact_mod_cast hround) hscale.le

theorem summary_exact {values : List Rat} (h : values ≠ []) {f : Rat → Rat}
    (hf : ∀ level, percentile (exactScale ε) values level = .ok (f level)) :
    (exactMeasure ε).summary values = .ok {
      count := values.length
      mean := Double.toPlaces places (values.foldr (· + ·) 0 / values.length)
      p50 := Double.toPlaces places (f (1 / 2))
      p95 := Double.toPlaces places (f (19 / 20))
      max := Double.toPlaces places ((exactMeasure ε).largest values) } := by
  have hread : values.filterMap (exactMeasure ε).read = values := List.filterMap_some
  rw [Measure.summary_eq h rfl (by rw [hread]; exact hf _) (by rw [hread]; exact hf _), hread]
  rfl

/-- Percentiles of rational numbers are bounded and monotone. Sorting succeeds, and both indices of
every place lie inside the sorted list. The percentile is the same for every order of the values; it
rises with the level, from the smallest value at zero and below to the largest at one and above. So
every summary gives its median, its upper percentile and its largest value in that order. -/
theorem percentile_law (ε : Type) (values : List Rat) :
    (values ≠ [] →
      (∃ points, (exactScale ε).sort values = .ok points ∧ points ~ values ∧
        points.Pairwise (· ≤ ·) ∧ ∀ level, ∃ place,
          (exactScale ε).place level (points.length - 1) = .ok place ∧
            place.low < points.length ∧ place.high < points.length) ∧
      ∃ (f : Rat → Rat) (low high : Rat),
        (∀ values', values' ~ values → ∀ level,
          percentile (exactScale ε) values' level = .ok (f level)) ∧
        IsLeast {v | v ∈ values} low ∧ IsGreatest {v | v ∈ values} high ∧
        (∀ level, low ≤ f level ∧ f level ≤ high) ∧
        (∀ level ≤ 0, f level = low) ∧ (∀ level ≥ 1, f level = high) ∧ Monotone f) ∧
    ∃ s, (exactMeasure ε).summary values = .ok s ∧ s.p50 ≤ s.p95 ∧ s.p95 ≤ s.max := by
  obtain ⟨points, hsort, hperm, horder⟩ := sort_eq ε values
  rcases eq_or_ne values [] with rfl | h
  · exact ⟨fun h => absurd rfl h, _, rfl, le_rfl, le_rfl⟩
  have hpoints : points ≠ [] := fun hnil => h (hnil ▸ hperm).symm.eq_nil
  have hgreatest := isGreatest_pointsOf hperm horder hpoints
  have hpercentile (values' : List Rat) (h' : values' ~ values) :=
    percentile_eq (sort_of_perm h' hsort) hpoints
  refine ⟨fun _ => ⟨⟨points, hsort, hperm, horder, fun level => ⟨_, place_eq level _, ?_⟩⟩,
    percentileOf points, _, _, hpercentile, isLeast_pointsOf hperm horder hpoints, hgreatest,
    percentileOf_mem horder, fun _ => percentileOf_of_nonpos points,
    fun _ => percentileOf_of_one_le points, percentileOf_mono horder⟩,
    _, summary_exact h (hpercentile values (.refl _)), ?_, ?_⟩
  · have hpos := List.length_pos_iff.2 hpoints
    obtain ⟨hlow, hhigh⟩ := floor_ceil_le (placeOf_mem level (points.length - 1)).2
    constructor <;> dsimp only <;> omega
  · exact toPlaces_mono places (percentileOf_mono horder (by norm_num))
  · rw [(isGreatest_largest h).unique hgreatest]
    exact toPlaces_mono places (percentileOf_mem horder _).2

/-- Three numbers, in whatever order they come. -/
theorem percentile_of_three :
    ([3, 1 / 2, 2] : List Rat) ≠ [] ∧ ∃ f : Rat → Rat,
      (∀ level, percentile (exactScale SummaryError) [2, 3, 1 / 2] level = .ok (f level)) ∧
      f (-1) = 1 / 2 ∧ f 5 = 3 ∧ Monotone f := by
  have hne : [3, 1 / 2, 2] ≠ ([] : List Rat) := List.cons_ne_nil _ _
  obtain ⟨-, f, low, high, hf, hlow, hhigh, -, hbelow, habove, hmono⟩ :=
    (percentile_law SummaryError [3, 1 / 2, 2]).1 hne
  have hturned : [2] ++ [3, 1 / 2] ~ [3, 1 / 2] ++ [(2 : Rat)] := List.perm_append_comm
  refine ⟨hne, f, hf _ hturned, ?_, ?_, hmono⟩
  · rw [hbelow _ (by norm_num)]
    exact hlow.unique ⟨by simp, by simp [lowerBounds]; norm_num⟩
  · rw [habove _ (by norm_num)]
    exact hhigh.unique ⟨by simp, by simp [upperBounds]; norm_num⟩

end SpriteStage.Benchmark
