import SpriteStage.Benchmark.Summary
import SpriteStage.Proofs.Double.Units

/-!
# Sums of doubles

A sum on the way is kept in parts that are apart: what comes before a part is less than half of its
last place. Such parts do not cancel out, so that together they are no larger than three times their
exact sum. Therefore none of them leaves the range of doubles if the sizes of the summands are well
within it, and then the sum is the exact one, rounded once.
-/

namespace SpriteStage.Benchmark

open SpriteStage.Double

/-! ### Numbers that are apart -/

/-- Some numbers are multiples of a power of two that something is less than. -/
def Clears (below : Int) (ns : List Int) : Prop :=
  ∃ k : Nat, below < 2 ^ k ∧ ∀ n ∈ ns, (2 ^ k : Int) ∣ n

/-- Each number, and all that come after it, are multiples of a power of two that is more than twice
the numbers before it and what else is below them. -/
def Apart (below : Int) : List Int → Prop
  | [] => True
  | n :: rest => Clears below (n :: rest) ∧ Apart (below + 2 * |n|) rest

def totalSize (ns : List Int) : Int := (ns.map abs).sum

variable {below b q e z n : Int} {rest ns front : List Int}

theorem clears_nil (below : Int) : Clears below [] := by
  refine ⟨below.toNat, ?_, by simp⟩
  have : below.toNat < 2 ^ below.toNat := Nat.lt_two_pow_self
  have hcast : ((2 ^ below.toNat : Nat) : Int) = 2 ^ below.toNat := by push_cast; rfl
  omega

theorem Apart.clears (h : Apart below ns) : Clears below ns := by
  cases ns with
  | nil => exact clears_nil below
  | cons n rest => exact h.1

theorem Clears.mono (h : Clears below ns) (hle : b ≤ below) : Clears b ns :=
  let ⟨k, hlt, hdvd⟩ := h
  ⟨k, hle.trans_lt hlt, hdvd⟩

/-- What is lost by rounding a sum comes below the rounded sum and the numbers that are left. -/
theorem Clears.step (h : Clears below (q :: e :: rest)) (hrest : Clears (2 * |e|) rest)
    (hq : Fits q) (hz : Rounds (q + e) z) : Clears (below + 2 * |q + e - z|) (z :: rest) := by
  obtain ⟨k, hbelow, hdvd⟩ := h
  have hqdvd := hdvd q (by simp)
  have hedvd := hdvd e (by simp)
  have hzdvd := hz.dvd (dvd_add hqdvd hedvd)
  have hlost : (2 ^ k : Int) ∣ q + e - z := dvd_sub (dvd_add hqdvd hedvd) hzdvd
  by_cases hzero : q + e - z = 0
  · rw [hzero, abs_zero, mul_zero, add_zero]
    refine ⟨k, hbelow, List.forall_mem_cons.2 ⟨hzdvd, fun n hn => hdvd n ?_⟩⟩
    exact List.mem_cons_of_mem _ (List.mem_cons_of_mem _ hn)
  -- what is lost is below the last place of the rounded sum, and it is no larger than the summand,
  -- which is below the others
  obtain ⟨i, hidvd, hilt⟩ := hz.exists_dvd
  obtain ⟨j, hjlt, hjdvd⟩ := hrest
  have hsmall := hz.lost_le hq
  have hlt : 2 * |q + e - z| < 2 ^ min i j := by
    rcases min_choice i j with h | h <;> rw [h] <;> omega
  have hroom := two_mul_abs_add_lt hlost hzero hlt
  refine ⟨min i j, by omega, List.forall_mem_cons.2 ⟨?_, fun n hn => ?_⟩⟩
  · exact two_pow_dvd (min_le_left i j) hidvd
  · exact two_pow_dvd (min_le_right i j) (hjdvd n hn)

theorem totalSize_cons (n : Int) (ns : List Int) : totalSize (n :: ns) = |n| + totalSize ns :=
  List.sum_cons

theorem totalSize_nil : totalSize [] = 0 := rfl

theorem totalSize_nonneg (ns : List Int) : 0 ≤ totalSize ns :=
  List.sum_nonneg fun _ hm => let ⟨_, _, heq⟩ := List.mem_map.1 hm; heq ▸ abs_nonneg _

theorem totalSize_append (ns ms : List Int) :
    totalSize (ns ++ ms) = totalSize ns + totalSize ms := by
  rw [totalSize, List.map_append, List.sum_append, totalSize, totalSize]

theorem totalSize_sublist {ns ms : List Int} (h : ns.Sublist ms) : totalSize ns ≤ totalSize ms := by
  induction h with
  | slnil => exact le_rfl
  | cons n _ ih =>
    rw [totalSize_cons]
    exact ih.trans (le_add_of_nonneg_left (abs_nonneg n))
  | cons_cons n _ ih =>
    rw [totalSize_cons, totalSize_cons]
    exact Int.add_le_add_left ih |n|

theorem abs_sum_le (ns : List Int) : |ns.sum| ≤ totalSize ns := by
  induction ns with
  | nil => exact le_rfl
  | cons n rest ih =>
    rw [List.sum_cons, totalSize_cons]
    exact (abs_add_le _ _).trans (add_le_add_right ih |n|)

/-- The first of some numbers that are apart are apart, and clear what comes next. -/
theorem Apart.append (h : Apart below (front ++ rest)) :
    Apart below front ∧ Clears (below + 2 * totalSize front) rest := by
  induction front generalizing below with
  | nil =>
    refine ⟨trivial, ?_⟩
    rw [totalSize_nil, mul_zero, add_zero]
    exact h.clears
  | cons n front ih =>
    obtain ⟨⟨k, hlt, hdvd⟩, happend⟩ := h
    obtain ⟨hfront, hclears⟩ := ih happend
    refine ⟨⟨⟨k, hlt, fun m hm => hdvd m (List.mem_append_left rest hm)⟩, hfront⟩, ?_⟩
    rw [totalSize_cons, mul_add, ← add_assoc]
    exact hclears

theorem Clears.subset (h : Clears below ns) (hsub : front ⊆ ns) : Clears below front :=
  let ⟨k, hlt, hdvd⟩ := h
  ⟨k, hlt, fun n hn => hdvd n (hsub hn)⟩

theorem Clears.lt_abs (h : Clears below [n]) (hn : n ≠ 0) : below < |n| := by
  obtain ⟨k, hlt, hdvd⟩ := h
  exact hlt.trans_le (Int.le_abs_of_dvd hn (hdvd n (List.mem_singleton_self n)))

/-- Numbers that are apart do not cancel out. -/
theorem Apart.totalSize_le (h : Apart 0 ns) : totalSize ns ≤ 3 * |ns.sum| := by
  induction ns using List.reverseRecOn with
  | nil => exact le_rfl
  | append_singleton front n ih =>
    obtain ⟨hfront, hclears⟩ := h.append
    have hle := abs_sum_le front
    have htri := abs_sub_abs_le_abs_sub n (-front.sum)
    rw [abs_neg, sub_neg_eq_add, add_comm n] at htri
    rw [totalSize_append, totalSize_cons, totalSize_nil, add_zero, List.sum_append,
      List.sum_singleton]
    by_cases hn : n = 0
    · rw [hn, abs_zero, add_zero, add_zero]
      exact ih hfront
    · have hlt := hclears.lt_abs hn
      omega

/-! ### Rounded sums -/

variable {x y : Float} {parts : List Float}

/-- The larger of two doubles taken off their rounded sum, and the rest of the smaller one, are
exact. -/
theorem rounded_and_lost (hx : x.isFinite = true) (hy : y.isFinite = true)
    (hlimit : |units x| ≤ 2 ^ 2095) (hle : |units y| ≤ |units x|) :
    (x + y).isFinite = true ∧ (y - (x + y - x)).isFinite = true ∧
      Rounds (units x + units y) (units (x + y)) ∧
      units (y - (x + y - x)) = units x + units y - units (x + y) := by
  have hpow : (2 ^ 2097 : Int) = 2 ^ 2095 * 2 ^ 2 := pow_add 2 2095 2
  have hpos : (0 : Int) < 2 ^ 2095 := by positivity
  have htri := abs_add_le (units x) (units y)
  obtain ⟨hsum, hrounds⟩ := add_rounds hx hy (by omega)
  have hlost := hrounds.lost_le (fits_units x)
  have htri' := abs_sub (units y) (units x + units y - units (x + y))
  rw [show units y - (units x + units y - units (x + y)) = units (x + y) - units x by omega]
    at htri'
  obtain ⟨hdiff, hdiffrounds⟩ := sub_rounds hsum hx (by omega)
  have hdiffeq := hdiffrounds.eq_of_fits (hrounds.fits_sub (fits_units x) (fits_units y) hle)
  have hrest : units y - units (x + y - x) = units x + units y - units (x + y) := by omega
  obtain ⟨hfinite, hlostrounds⟩ := sub_rounds hy hdiff (by rw [hrest]; omega)
  rw [hrest] at hlostrounds
  exact ⟨hsum, hfinite, hrounds,
    hlostrounds.eq_of_fits (hrounds.fits_lost (fits_units x) (fits_units y) hle)⟩

theorem roundedSum_spec (hx : x.isFinite = true) (hy : y.isFinite = true)
    (hxlimit : |units x| ≤ 2 ^ 2095) (hylimit : |units y| ≤ 2 ^ 2095) :
    (roundedSum x y).1.isFinite = true ∧ (roundedSum x y).2.isFinite = true ∧
      Rounds (units x + units y) (units (roundedSum x y).1) ∧
      units (roundedSum x y).2 = units x + units y - units (roundedSum x y).1 := by
  rw [roundedSum]
  by_cases h : x.abs < y.abs
  · rw [if_pos h, add_comm (units x)]
    exact rounded_and_lost hy hx hylimit ((abs_lt_iff hx hy).1 h).le
  · rw [if_neg h]
    exact rounded_and_lost hx hy hxlimit (not_lt.1 fun hlt => h ((abs_lt_iff hx hy).2 hlt))

/-! ### Adding a double to parts -/

/-- What keeps while a double `x` is added to the parts that are left: what was lost so far is below
both. Here `p` is the exact sum of the first double and of the parts before. -/
structure Carrying (x : Float) (parts : List Float) (below above p : Int) : Prop where
  finite : x.isFinite = true
  partsFinite : ∀ y ∈ parts, y.isFinite = true
  clears : Clears below (units x :: parts.map units)
  apart : Apart above (parts.map units)
  nonneg : 0 ≤ above
  lost : 2 * |p - units x| ≤ below
  limit : |p| + totalSize (parts.map units) ≤ 2 ^ 2094

variable {above p : Int}

/-- A rounded sum is at most twice the exact one. -/
theorem Carrying.abs_le (h : Carrying x parts below above p) : |units x| ≤ 2 * |p| := by
  have hp := abs_nonneg p
  by_cases hzero : units x = 0
  · rw [hzero, abs_zero]
    omega
  · have hone : [units x] ⊆ units x :: parts.map units := by simp
    have hlt := (h.clears.subset hone).lt_abs hzero
    have hlost := h.lost
    have htri := abs_sub_abs_le_abs_sub (units x) p
    rw [abs_sub_comm] at htri
    omega

/-- One part more is added. -/
theorem Carrying.step {y : Float} (h : Carrying x (y :: parts) below above p) :
    (roundedSum x y).2.isFinite = true ∧
      Rounds (units x + units y) (units (roundedSum x y).1) ∧
      units (roundedSum x y).2 = units x + units y - units (roundedSum x y).1 ∧
      Carrying (roundedSum x y).1 parts (below + 2 * |units (roundedSum x y).2|)
        (above + 2 * |units y|) (p + units y) := by
  obtain ⟨hy, hparts⟩ := List.forall_mem_cons.1 h.partsFinite
  have hlimit := h.limit
  rw [List.map_cons, totalSize_cons] at hlimit
  have hpow : (2 ^ 2095 : Int) = 2 ^ 2094 * 2 := pow_succ 2 2094
  have hrest := totalSize_nonneg (parts.map units)
  have hp := abs_nonneg p
  have hyabs := abs_nonneg (units y)
  have hx := h.abs_le
  obtain ⟨hsum, hfinite, hrounds, hlost⟩ := roundedSum_spec h.finite hy (by omega) (by omega)
  refine ⟨hfinite, hrounds, hlost, hsum, hparts, ?_, h.apart.2, ?_, ?_, ?_⟩
  · have hnonneg := h.nonneg
    rw [hlost]
    exact h.clears.step (h.apart.2.clears.mono (by omega)) (fits_units x) hrounds
  · have hnonneg := h.nonneg
    omega
  · have hbefore := h.lost
    have htri := abs_add_le (p - units x) (units (roundedSum x y).2)
    rw [show p + units y - units (roundedSum x y).1 =
      p - units x + units (roundedSum x y).2 by omega]
    omega
  · have htri := abs_add_le p (units y)
    omega

/-- What adding a double to parts leads to: finite parts that are apart, with the right sum. -/
structure Carried (x : Float) (parts : List Float) (below : Int) (out : List Float) : Prop where
  finite : ∀ y ∈ out, y.isFinite = true
  exact : (out.map units).sum = units x + (parts.map units).sum
  dvd : ∀ k : Nat, (∀ n ∈ units x :: parts.map units, (2 ^ k : Int) ∣ n) →
    ∀ n ∈ out.map units, (2 ^ k : Int) ∣ n
  apart : Apart below (out.map units)

/-- What one part loses comes before the parts that the others lead to. -/
theorem Carried.cons {y sum lost : Float} {out : List Float}
    (h : Carried sum parts (below + 2 * |units lost|) out)
    (hclears : Clears below (units x :: (y :: parts).map units)) (hfinite : lost.isFinite = true)
    (hrounds : Rounds (units x + units y) (units sum))
    (hlost : units lost = units x + units y - units sum) :
    Carried x (y :: parts) below (lost :: out) := by
  have hdvd (k : Nat) (hk : ∀ n ∈ units x :: (y :: parts).map units, (2 ^ k : Int) ∣ n) :
      ∀ n ∈ (lost :: out).map units, (2 ^ k : Int) ∣ n := by
    rw [List.map_cons, List.forall_mem_cons, List.forall_mem_cons] at hk
    have hxy := dvd_add hk.1 hk.2.1
    refine List.forall_mem_cons.2
      ⟨?_, h.dvd k (List.forall_mem_cons.2 ⟨hrounds.dvd hxy, hk.2.2⟩)⟩
    rw [hlost]
    exact dvd_sub hxy (hrounds.dvd hxy)
  obtain ⟨k, hlt, hk⟩ := hclears
  refine ⟨List.forall_mem_cons.2 ⟨hfinite, h.finite⟩, ?_, hdvd, ⟨k, hlt, hdvd k hk⟩, h.apart⟩
  rw [List.map_cons, List.sum_cons, h.exact, List.map_cons, List.sum_cons]
  omega

theorem Carried.of_cons {lost : Float} {out : List Float}
    (h : Carried x parts below (lost :: out)) (hzero : units lost = 0) :
    Carried x parts below out := by
  have hexact := h.exact
  have hapart := h.apart.2
  rw [List.map_cons, List.sum_cons, hzero, zero_add] at hexact
  rw [hzero, abs_zero, mul_zero, add_zero] at hapart
  exact ⟨(List.forall_mem_cons.1 h.finite).2, hexact,
    fun k hk => (List.forall_mem_cons.1 (h.dvd k hk)).2, hapart⟩

theorem carry_cons (x y : Float) (rest : List Float) : carry x (y :: rest) =
    (if (roundedSum x y).2 == 0.0 then (carry (roundedSum x y).1 rest).1
      else (roundedSum x y).2 :: (carry (roundedSum x y).1 rest).1,
      (carry (roundedSum x y).1 rest).2) := rfl

/-- A double is added to parts that are apart. -/
theorem Carrying.carried (h : Carrying x parts below above p) :
    Carried x parts below ((carry x parts).1 ++ [(carry x parts).2]) := by
  induction parts generalizing x below above p with
  | nil =>
    exact ⟨by simpa [carry] using h.finite, by simp [carry], fun k hk => hk, h.clears, trivial⟩
  | cons y rest ih =>
    obtain ⟨hfinite, hrounds, hlost, hnext⟩ := h.step
    have hcarried := (ih hnext).cons h.clears hfinite hrounds hlost
    rw [carry_cons]
    split
    · rename_i hzero
      exact hcarried.of_cons ((eq_zero_iff hfinite).1 hzero)
    · exact hcarried

/-! ### Sums on the way -/

/-- The parts of a sum on the way are apart, and their exact sum is the sum of what was added. -/
structure Running.Holds (r : Running) (sum : Int) : Prop where
  finite : ∀ y ∈ r.parts, y.isFinite = true
  apart : Apart 0 (r.parts.map units)
  exact : (r.parts.map units).sum = sum
  special : r.special = 0.0

/-- A double is added to a sum on the way. -/
theorem Running.Holds.add {r : Running} {sum : Int} (h : r.Holds sum) (hx : x.isFinite = true)
    (hlimit : |units x| + 3 * |sum| ≤ 2 ^ 2094) :
    ∃ r', r.add x = .ok r' ∧ r'.Holds (sum + units x) := by
  have hsize := h.apart.totalSize_le
  rw [h.exact] at hsize
  have hstart : Carrying x r.parts 0 0 (units x) :=
    ⟨hx, h.finite, ⟨0, by decide, by simp⟩, h.apart, le_rfl, by simp, by omega⟩
  obtain ⟨hfinite, hexact, -, hapart⟩ := hstart.carried
  obtain ⟨hparts, hlargest⟩ := List.forall_mem_append.1 hfinite
  have hlargest := hlargest _ (List.mem_singleton_self _)
  rw [h.exact, add_comm] at hexact
  rw [Running.add]
  generalize carry x r.parts = c at hfinite hparts hlargest hexact hapart ⊢
  dsimp only
  split
  · rename_i hzero
    rw [eq_zero_iff hlargest] at hzero
    rw [List.map_append, List.map_singleton] at hexact hapart
    rw [hzero, List.sum_append, List.sum_singleton, add_zero] at hexact
    exact ⟨_, rfl, hparts, hapart.append.1, hexact, h.special⟩
  · exact ⟨_, rfl, hfinite, hapart, hexact, h.special⟩

theorem Running.Holds.foldlM {r : Running} {sum : Int} (h : r.Holds sum) {xs : List Float}
    (hxs : ∀ x ∈ xs, x.isFinite = true) (hlimit : |sum| + totalSize (xs.map units) ≤ 2 ^ 2092) :
    ∃ r', (xs.map Value.float).foldlM Running.addValue r = .ok r' ∧
      r'.Holds (sum + (xs.map units).sum) := by
  induction xs generalizing r sum with
  | nil => exact ⟨r, rfl, by simpa using h⟩
  | cons x xs ih =>
    obtain ⟨hx, hxs⟩ := List.forall_mem_cons.1 hxs
    rw [List.map_cons, totalSize_cons] at hlimit
    have hpow : (2 ^ 2094 : Int) = 2 ^ 2092 * 2 ^ 2 := pow_add 2 2092 2
    have hsize := totalSize_nonneg (xs.map units)
    have hsum := abs_nonneg sum
    have hxabs := abs_nonneg (units x)
    have htri := abs_add_le sum (units x)
    obtain ⟨next, hadd, hnext⟩ := h.add hx (by omega)
    obtain ⟨last, hfold, hlast⟩ := ih hnext hxs (by omega)
    refine ⟨last, ?_, ?_⟩
    · have hstep : r.addValue (.float x) = .ok next := hadd
      rw [List.map_cons, List.foldlM_cons, hstep]
      exact hfold
    · rwa [List.map_cons, List.sum_cons, ← add_assoc]

theorem foldr_rational {parts : List Float} (h : ∀ y ∈ parts, y.isFinite = true) :
    (parts.filterMap rational?).foldr (· + ·) 0 =
      (parts.map units).sum * smallest := by
  induction parts with
  | nil => simp
  | cons y rest ih =>
    obtain ⟨hy, hrest⟩ := List.forall_mem_cons.1 h
    rw [List.filterMap_cons_some (rational?_eq_units hy), List.foldr_cons, ih hrest, List.map_cons,
      List.sum_cons, Int.cast_add, add_mul]

theorem Running.Holds.total {r : Running} {sum : Int} (h : r.Holds sum) :
    r.total = .ok (nearest (sum * smallest)) := by
  have hspecial : (r.special == 0.0) = true := by rw [h.special]; decide
  rw [Running.total, if_pos hspecial, foldr_rational h.finite, h.exact]

/-- Doubles whose sizes are together well within the range of doubles have a sum, which is the exact
one, rounded once. -/
theorem exactSum_floats {xs : List Float} (hxs : ∀ x ∈ xs, x.isFinite = true)
    (hlimit : totalSize (xs.map units) ≤ 2 ^ 2092) :
    exactSum (xs.map .float) = .ok (nearest ((xs.map units).sum * smallest)) := by
  have hstart : Running.Holds {} 0 := ⟨by simp, trivial, rfl, rfl⟩
  obtain ⟨r, hfold, hr⟩ := hstart.foldlM hxs (by rwa [abs_zero, zero_add])
  rw [exactSum, hfold]
  rw [zero_add] at hr
  exact hr.total

theorem sum_abs_rational {xs : List Float} (h : ∀ x ∈ xs, x.isFinite = true) :
    (xs.map fun x => |(rational? x).getD 0|).sum = totalSize (xs.map units) * smallest := by
  induction xs with
  | nil => exact (zero_mul smallest).symm
  | cons x xs ih =>
    obtain ⟨hx, hxs⟩ := List.forall_mem_cons.1 h
    rw [List.map_cons, List.sum_cons, ih hxs, List.map_cons, totalSize_cons, rational?_eq_units hx,
      Option.getD_some, abs_mul, abs_of_pos smallest_pos, ← add_mul, Int.cast_add, Int.cast_abs]

/-- Doubles that are some of those whose sizes are together no more than `2 ^ 1018` have a sum. -/
theorem exactSum_sublist {xs ys : List Float} (hys : ys.Sublist xs)
    (hxs : ∀ x ∈ xs, x.isFinite = true)
    (hlimit : (xs.map fun x => |(rational? x).getD 0|).sum ≤ 2 ^ 1018) :
    exactSum (ys.map .float) = .ok (nearest ((ys.map units).sum * smallest)) := by
  have hunits : (totalSize (xs.map units) : Rat) ≤ ((2 ^ 2092 : Int) : Rat) := by
    rw [sum_abs_rational hxs, smallest, zpow_neg, ← div_eq_mul_inv,
      div_le_iff₀ (zpow_pos two_pos _)] at hlimit
    rw [Int.cast_pow, Int.cast_ofNat]
    exact hlimit.trans_eq (pow_add 2 1018 1074).symm
  exact exactSum_floats (fun x hx => hxs x (hys.subset hx))
    ((totalSize_sublist (hys.map units)).trans (Int.cast_le.1 hunits))

end SpriteStage.Benchmark
