import SpriteStage.Proofs.Sorting.Merge
import SpriteStage.Sorting.Runs
import Mathlib.Data.List.Chain

/-!
# What sorting by runs gives

`byRuns` gives the values that it was given, whatever the comparisons say. If they put the values in
order, it gives them in that order.
-/

namespace SpriteStage.Sorting

open scoped List

variable {α : Type} {m : Type → Type} [Monad m] [LawfulMonad m]

/-! ### Taking runs -/

theorem chain_returns (continues : α → α → Bool) (last : α) (xs : List α) :
    Returns (chain (m := m) (fun a b => pure (continues a b)) last xs) fun r =>
      r.1 ++ r.2 = xs ∧ (last :: r.1).IsChain fun a b => continues a b = true := by
  induction xs generalizing last with
  | nil => exact .pure ⟨rfl, .singleton last⟩
  | cons x xs ih =>
    rw [chain, pure_bind]
    split
    · rename_i hx
      refine (ih x).bind fun r ⟨hr, hchain⟩ => .pure ⟨?_, hchain.cons_cons hx⟩
      rw [← hr, List.cons_append]
    · exact .pure ⟨rfl, .singleton last⟩

theorem IsOrder.inOrder_of_isChain {lt : α → α → Bool} (h : IsOrder lt) {xs : List α}
    (hxs : xs.IsChain (Before lt)) : InOrder lt xs :=
  have : IsTrans α (Before lt) := ⟨fun _ _ _ => h.before_trans⟩
  hxs.pairwise

theorem firstRun_returns (lt : α → α → Bool) (xs : List α) :
    Returns (firstRun (m := m) (fun a b => pure (lt a b)) xs) fun r =>
      r.1 ++ r.2 ~ xs ∧ (xs ≠ [] → r.1 ≠ []) ∧ (IsOrder lt → InOrder lt r.1) := by
  unfold firstRun
  split
  · rename_i x y xs
    rw [pure_bind]
    split
    · rename_i hfalls
      refine (chain_returns (fun last next => lt next last) y xs).bind fun r ⟨hr, hchain⟩ =>
        .pure ⟨?_, fun _ => by simp, fun hlt => ?_⟩
      · rw [← hr]
        exact (List.reverse_perm _).append_right _
      · have hchain : (x :: y :: r.1).IsChain fun a b => lt b a = true := hchain.cons_cons hfalls
        exact inOrder_reverse.2 (hlt.flip.inOrder_of_isChain (hchain.imp fun b a => hlt.before))
    · rename_i hrises
      simp only [map_pure]
      refine (chain_returns (fun last next => !lt next last) y xs).bind fun r ⟨hr, hchain⟩ =>
        .pure ⟨?_, fun _ => List.cons_ne_nil _ _, fun hlt => ?_⟩
      · rw [← hr]
        exact .refl _
      · refine hlt.inOrder_of_isChain (.cons_cons (Bool.eq_false_iff.2 hrises) (hchain.imp ?_))
        exact fun _ _ h => (Bool.not_eq_true' _).mp h
  · rename_i hshort
    refine .pure ⟨by rw [List.append_nil], id, fun _ => ?_⟩
    match xs, hshort with
    | [], _ => exact .nil
    | [x], _ => exact List.pairwise_singleton _ _
    | x :: y :: xs, hshort => exact absurd rfl (hshort x y xs)

theorem insertInto_returns (lt : α → α → Bool) (run : List α) (v : α) :
    Returns (insertInto (m := m) (fun a b => pure (lt a b)) run v) fun r =>
      r ~ v :: run ∧ (IsOrder lt → InOrder lt run → InOrder lt r) := by
  simp only [insertInto, map_pure, testAt_eq]
  refine (narrow_returns .front _ (Nat.le_refl _) (Nat.zero_le _)).bind fun n ⟨⟨_, hn⟩, hsplit⟩ =>
    .pure ⟨?_, fun hlt hrun => ?_⟩
  · refine List.perm_middle.trans (.cons v ?_)
    rw [List.take_append_drop]
  · have hmono : run.Pairwise fun x y => (!lt v y) = true → (!lt v x) = true :=
      hrun.imp fun {x y} hxy hy => by
        rw [Bool.not_eq_true'] at hy ⊢
        exact hlt.before_trans hxy hy
    obtain ⟨hpass, hfail⟩ := hsplit (comeFirst_holdsAt hmono)
    obtain ⟨htake, hdrop⟩ := split_of_holdsAt (fun i hi => hpass i (Nat.zero_le i) hi) hfail
    have hfront : ∀ x ∈ run.take n, Before lt x v := fun x hx =>
      (Bool.not_eq_true' _).mp (htake x hx)
    have hback : ∀ x ∈ run.drop n, Before lt v x := fun x hx =>
      hlt.before ((Bool.not_eq_false' _).mp (hdrop x hx))
    refine List.pairwise_append.2 ⟨hrun.sublist (List.take_sublist n run),
      List.pairwise_cons.2 ⟨hback, hrun.sublist (List.drop_sublist n run)⟩, fun x hx y hy => ?_⟩
    rcases List.mem_cons.1 hy with rfl | hy
    · exact hfront x hx
    · exact hrun.take_before_drop n x hx y hy

/-- A run has a value, if there is one to take. -/
theorem takeRun_returns (lt : α → α → Bool) (least : Nat) (xs : List α) :
    Returns (takeRun (m := m) (fun a b => pure (lt a b)) least xs) fun r =>
      r.1 ++ r.2 ~ xs ∧ (xs ≠ [] → r.1 ≠ []) ∧ (IsOrder lt → InOrder lt r.1) := by
  refine (firstRun_returns lt xs).bind fun r ⟨hperm, hne, hr⟩ => ?_
  have hfold := Returns.foldlM (m := m) (f := insertInto fun a b => pure (lt a b))
    (P := fun run left => run ++ left ~ r.1 ++ r.2.take (least - r.1.length) ∧
      (IsOrder lt → InOrder lt run)) ⟨.refl _, hr⟩ fun run v left ⟨hrun, horder⟩ =>
        (insertInto_returns lt run v).mono fun run' ⟨hrun', horder'⟩ =>
          ⟨(hrun'.append_right left).trans (List.perm_middle.symm.trans hrun),
            fun hlt => horder' hlt (horder hlt)⟩
  refine hfold.bind fun run ⟨hrun, horder⟩ => .pure ⟨?_, fun hxs => ?_, horder⟩
  · rw [List.append_nil] at hrun
    refine (hrun.append_right _).trans ?_
    rw [List.append_assoc, List.take_append_drop]
    exact hperm
  · rintro rfl
    exact hne hxs (List.append_eq_nil_iff.1 hrun.symm.eq_nil).1

/-! ### Merging the runs -/

/-- Runs with all the values of a list, each in order if the comparisons put values in order. -/
structure Holds (lt : α → α → Bool) (runs : List (Waiting α)) (xs : List α) : Prop where
  perm : runs.flatMap Waiting.values ~ xs
  order : IsOrder lt → ∀ run ∈ runs, InOrder lt run.values

/-- Two neighbours may be replaced by one run that has the values of both. -/
theorem Holds.joined {lt : α → α → Bool} {a b ab : Waiting α} {front back : List (Waiting α)}
    {xs : List α} (h : Holds lt (front ++ b :: a :: back) xs)
    (hperm : ab.values ~ a.values ++ b.values)
    (horder : IsOrder lt → InOrder lt a.values → InOrder lt b.values → InOrder lt ab.values) :
    Holds lt (front ++ ab :: back) xs where
  perm := by
    refine .trans ?_ h.perm
    simp only [List.flatMap_append, List.flatMap_cons]
    rw [← List.append_assoc b.values]
    exact ((hperm.trans List.perm_append_comm).append_right _).append_left _
  order hlt := by
    have hall := h.order hlt
    rw [List.forall_mem_append, List.forall_mem_cons, List.forall_mem_cons] at hall
    obtain ⟨hfront, hb, ha, hback⟩ := hall
    exact List.forall_mem_append.2 ⟨hfront, List.forall_mem_cons.2 ⟨horder hlt ha hb, hback⟩⟩

namespace Pile

variable {lt : α → α → Bool} {xs : List α}

theorem join_returns {a b : Waiting α} (front : List (Waiting α)) {back : List (Waiting α)}
    (h : Holds lt (front ++ b :: a :: back) xs) (patience : Nat) :
    Returns (join (m := m) (fun a b => pure (lt a b)) patience a b) fun r =>
      Holds lt (front ++ r.1 :: back) xs :=
  (mergeRuns_returns lt patience a.values b.values).bind fun _ ⟨hperm, horder⟩ =>
    .pure (h.joined hperm horder)

theorem settleDeeper_returns (depth : Nat) {runs : List (Waiting α)} (patience : Nat)
    (h : Holds lt runs xs) :
    Returns (settleDeeper (m := m) (fun a b => pure (lt a b)) depth runs patience) fun p =>
      Holds lt p.runs xs ∧ (runs ≠ [] → p.runs ≠ []) := by
  induction runs, patience using settleDeeper.induct depth with
  | case1 b a runs patience hdeeper ih =>
    rw [settleDeeper, if_pos hdeeper]
    refine (join_returns [] h patience).bind fun r hr => ?_
    exact (ih r.1 r.2 hr).mono fun p hp => ⟨hp.1, fun _ => hp.2 (List.cons_ne_nil _ _)⟩
  | case2 b a runs patience hdeeper =>
    rw [settleDeeper, if_neg hdeeper]
    exact .pure ⟨h, id⟩
  | case3 runs patience hshort =>
    rw [settleDeeper]
    · exact .pure ⟨h, id⟩
    · exact hshort

/-- A run that is added brings its values. -/
theorem push_returns (size : Nat) {p : Pile α} {values : List α} (h : Holds lt p.runs xs)
    (hvalues : IsOrder lt → InOrder lt values) :
    Returns (p.push (m := m) (fun a b => pure (lt a b)) size values) fun q =>
      Holds lt q.runs (values ++ xs) := by
  unfold push
  split
  · rename_i hruns
    rw [hruns] at h
    exact .pure ⟨h.perm.append_left values, fun hlt => List.forall_mem_singleton.2 (hvalues hlt)⟩
  · rename_i last runs hruns
    refine (settleDeeper_returns _ p.patience h).bind fun settled ⟨hsettled, hne⟩ => ?_
    split
    · rename_i top runs htop
      rw [htop] at hsettled
      have hall := fun hlt => List.forall_mem_cons.1 (hsettled.order hlt)
      exact .pure ⟨hsettled.perm.append_left values, fun hlt => List.forall_mem_cons.2
        ⟨hvalues hlt, List.forall_mem_cons.2 (hall hlt)⟩⟩
    · rename_i htop
      exact absurd htop (hne (hruns ▸ List.cons_ne_nil _ _))

theorem collapse_returns {runs : List (Waiting α)} (patience : Nat) (h : Holds lt runs xs) :
    Returns (collapse (m := m) (fun a b => pure (lt a b)) runs patience) fun ys =>
      ys ~ xs ∧ (IsOrder lt → InOrder lt ys) := by
  have single {run : Waiting α} (h : Holds lt [run] xs) :
      run.values ~ xs ∧ (IsOrder lt → InOrder lt run.values) := by
    refine ⟨?_, fun hlt => h.order hlt run (List.mem_singleton_self run)⟩
    simpa using h.perm
  induction runs, patience using collapse.induct with
  | case1 c b a runs patience hlt ih =>
    rw [collapse, if_pos hlt]
    exact (join_returns [c] h patience).bind fun r => ih r.1 r.2
  | case2 c b a runs patience hlt ih =>
    rw [collapse, if_neg hlt]
    exact (join_returns [] h patience).bind fun r => ih r.1 r.2
  | case3 b a patience =>
    rw [collapse]
    exact (join_returns [] h patience).bind fun r hr => .pure (single hr)
  | case4 a =>
    rw [collapse]
    exact .pure (single h)
  | case5 =>
    rw [collapse]
    exact .pure ⟨h.perm, fun _ => .nil⟩

end Pile

theorem pileUp_returns (lt : α → α → Bool) (size least : Nat) {fuel : Nat} {xs ys : List α}
    {p : Pile α} (hfuel : xs.length ≤ fuel) (h : Holds lt p.runs ys) :
    Returns (pileUp (m := m) (fun a b => pure (lt a b)) size least fuel xs p) fun q =>
      Holds lt q.runs (xs ++ ys) := by
  induction fuel generalizing xs ys p with
  | zero =>
    rw [List.length_eq_zero_iff.1 (Nat.le_zero.1 hfuel)]
    exact .pure h
  | succ fuel ih =>
    cases xs with
    | nil => exact .pure h
    | cons x xs =>
      refine (takeRun_returns lt least (x :: xs)).bind fun r ⟨hperm, hne, hr⟩ => ?_
      refine (Pile.push_returns size h hr).bind fun q hq => ?_
      have hlen := hperm.length_eq
      have hpos := List.length_pos_iff.2 (hne (List.cons_ne_nil _ _))
      rw [List.length_append] at hlen
      refine (ih (by omega) hq).mono fun t ht => ⟨ht.perm.trans ?_, ht.order⟩
      -- what is taken stands in front of what was there, and what is left in front of both
      calc r.2 ++ (r.1 ++ ys) ~ r.1 ++ r.2 ++ ys := by
            rw [← List.append_assoc]
            exact List.perm_append_comm.append_right ys
        _ ~ x :: xs ++ ys := hperm.append_right ys

/-- Sorting never fails where comparing does not. It gives the values that it was given, and gives
them in order if the comparisons put values in order. -/
theorem byRuns_returns (lt : α → α → Bool) (xs : List α) :
    Returns (byRuns (m := m) (fun a b => pure (lt a b)) xs) fun ys =>
      ys ~ xs ∧ (IsOrder lt → InOrder lt ys) := by
  have hempty : Holds lt ({} : Pile α).runs [] := ⟨.refl _, fun _ _ h => absurd h List.not_mem_nil⟩
  refine (pileUp_returns lt _ _ (Nat.le_refl _) hempty).bind fun p hp => ?_
  rw [List.append_nil] at hp
  exact Pile.collapse_returns p.patience hp

end SpriteStage.Sorting
