import SpriteStage.Proofs.Sorting.Search
import SpriteStage.Sorting.Merge
import Mathlib.Data.List.Basic

/-!
# What a merge does

Whatever the comparisons say, a merge loses no value and adds none. If they put the values in order,
and both runs are in order, then so is the merge. A merge from the back is one from the front of the
reversed runs with the opposite order, so both are followed at once: `Merging.Ready` is what holds
between the steps of a merge in the order of its end.
-/

namespace SpriteStage.Sorting

open scoped List

variable {α : Type}

/-- Comparisons that put all values in order, where several may share a place. -/
structure IsOrder (lt : α → α → Bool) : Prop where
  asymm : ∀ a b, lt a b = true → lt b a = false
  trans : ∀ a b c, lt b a = false → lt c b = false → lt c a = false

/-- A value may stand in front of another. -/
def Before (lt : α → α → Bool) (a b : α) : Prop := lt b a = false

/-- Every value may stand in front of those behind it. -/
def InOrder (lt : α → α → Bool) (xs : List α) : Prop := xs.Pairwise (Before lt)

namespace IsOrder

variable {lt : α → α → Bool} {a b c : α}

theorem before (h : IsOrder lt) (hab : lt a b = true) : Before lt a b := h.asymm a b hab

theorem before_trans (h : IsOrder lt) (hab : Before lt a b) (hbc : Before lt b c) :
    Before lt a c := h.trans a b c hab hbc

theorem lt_of_before (h : IsOrder lt) (hab : Before lt a b) (hbc : lt b c = true) :
    lt a c = true := by
  by_contra hac
  have hca : Before lt c a := Bool.eq_false_iff.2 hac
  exact absurd hbc (Bool.eq_false_iff.1 (h.before_trans hca hab))

theorem flip (h : IsOrder lt) : IsOrder fun a b => lt b a :=
  ⟨fun a b => h.asymm b a, fun a b c hab hbc => h.trans c b a hbc hab⟩

/-- What stands in front of the first of some values in order stands in front of all. -/
theorem before_of_cons (h : IsOrder lt) {xs : List α} (hxs : InOrder lt (b :: xs))
    (hab : Before lt a b) : ∀ x ∈ b :: xs, Before lt a x :=
  List.forall_mem_cons.2
    ⟨hab, fun _ hx => h.before_trans hab ((List.pairwise_cons.1 hxs).1 _ hx)⟩

theorem before_of_getLast? (h : IsOrder lt) {xs : List α} (hxs : InOrder lt xs)
    (hb : xs.getLast? = some b) (hbc : Before lt b c) : ∀ x ∈ xs, Before lt x c := by
  obtain ⟨front, rfl⟩ := List.getLast?_eq_some_iff.1 hb
  have hcross := (List.pairwise_append.1 hxs).2.2
  intro x hx
  rcases List.mem_append.1 hx with hx | hx
  · exact h.before_trans (hcross x hx b (List.mem_singleton_self b)) hbc
  · rwa [List.mem_singleton.1 hx]

end IsOrder

theorem inOrder_reverse {lt : α → α → Bool} {xs : List α} :
    InOrder lt xs.reverse ↔ InOrder (fun a b => lt b a) xs := List.pairwise_reverse

theorem InOrder.take_before_drop {lt : α → α → Bool} {xs : List α} (h : InOrder lt xs) (n : Nat) :
    ∀ a ∈ xs.take n, ∀ b ∈ xs.drop n, Before lt a b := by
  rw [InOrder, ← List.take_append_drop n xs, List.pairwise_append] at h
  exact h.2.2

/-! ### The order of an end -/

def End.order (e : End) (lt : α → α → Bool) : α → α → Bool :=
  match e with
  | .front => lt
  | .back => fun a b => lt b a

variable {m : Type → Type} [Monad m]

theorem End.wins_eq (e : End) (lt : α → α → Bool) (far near : α) :
    e.wins (m := m) (fun a b => pure (lt a b)) far near = pure (e.order lt far near) := by
  cases e <;> rfl

namespace Merging

variable {lt : α → α → Bool} {run r t : Merging α}

def all (run : Merging α) : List α := run.done ++ (run.near ++ run.far)

/-- How many values are left to be merged. -/
def size (run : Merging α) : Nat := run.near.length + run.far.length

/-- What holds between the steps of a merge: what has been merged is in order and comes before what
is left, both runs are in order, and the last value of the near run comes after all of the far
run. -/
structure Ready (lt : α → α → Bool) (nearRun farRun merged : List α) : Prop where
  order : IsOrder lt
  near : InOrder lt nearRun
  far : InOrder lt farRun
  done : InOrder lt merged.reverse
  ahead : ∀ d ∈ merged, ∀ v ∈ nearRun ++ farRun, Before lt d v
  last : ∃ x, nearRun.getLast? = some x ∧ ∀ y ∈ farRun, lt y x = true

/-- A merge that is ready for its next step. -/
def IsReady (lt : α → α → Bool) (run : Merging α) : Prop := Ready lt run.near run.far run.done

/-- What a step of a merge does: it keeps all values, and leaves the merge ready. -/
structure LeadsTo (lt : α → α → Bool) (run r : Merging α) : Prop where
  perm : r.all.Perm run.all
  ready : run.IsReady lt → r.IsReady lt

namespace LeadsTo

theorem refl (run : Merging α) : LeadsTo lt run run := ⟨.refl _, id⟩

theorem trans (h : LeadsTo lt run r) (h' : LeadsTo lt r t) : LeadsTo lt run t :=
  ⟨h'.perm.trans h.perm, h'.ready ∘ h.ready⟩

theorem noted (h : LeadsTo lt run r) (patience stretch : Nat) :
    LeadsTo lt run { r with patience, stretch } := ⟨h.perm, h.ready⟩

end LeadsTo

/-! ### Taking values -/

theorem perm_taken (taken done left : List α) :
    (taken.reverse ++ done) ++ left ~ done ++ (taken ++ left) := by
  rw [List.append_assoc]
  exact (List.perm_append_comm_assoc _ _ _).trans
    (((List.reverse_perm taken).append_right left).append_left done)

theorem perm_takeNear (run : Merging α) (n : Nat) : (run.takeNear n).all ~ run.all := by
  refine (perm_taken (run.near.take n) run.done (run.near.drop n ++ run.far)).trans ?_
  rw [← List.append_assoc (run.near.take n), List.take_append_drop]
  exact .refl _

theorem perm_takeFar (run : Merging α) (n : Nat) : (run.takeFar n).all ~ run.all := by
  refine (perm_taken (run.far.take n) run.done (run.near ++ run.far.drop n)).trans ?_
  refine ((List.perm_append_comm_assoc _ _ _).trans ?_).append_left run.done
  rw [List.take_append_drop]

/-- The first values of the far run may be taken next. -/
def FarNext (lt : α → α → Bool) (n : Nat) (run : Merging α) : Prop :=
  ∀ y ∈ run.far.take n, ∀ x ∈ run.near, Before lt y x

/-- The first values of the near run may be taken next. -/
def NearNext (lt : α → α → Bool) (n : Nat) (run : Merging α) : Prop :=
  ∀ x ∈ run.near.take n, ∀ y ∈ run.far, Before lt x y

/-- Taking values of the near run that come before all of the far run, but not the last one. -/
theorem LeadsTo.takeNear {n : Nat} (h : LeadsTo lt run r)
    (hnext : run.IsReady lt → n < r.near.length ∧ r.NearNext lt n) :
    LeadsTo lt run (r.takeNear n) where
  perm := (perm_takeNear r n).trans h.perm
  ready hrun := by
    obtain ⟨hn, hbefore⟩ := hnext hrun
    have hr := h.ready hrun
    obtain ⟨x, hx, hlast⟩ := hr.last
    have hsub := List.drop_sublist n r.near
    refine ⟨hr.order, hr.near.sublist hsub, hr.far, ?_, ?_, x, ?_, hlast⟩
    · change InOrder lt ((r.near.take n).reverse ++ r.done).reverse
      rw [List.reverse_append, List.reverse_reverse]
      exact List.pairwise_append.2 ⟨hr.done, hr.near.sublist (List.take_sublist n _),
        fun d hd x hx => hr.ahead d (List.mem_reverse.1 hd) x
          (List.mem_append_left _ (List.mem_of_mem_take hx))⟩
    · intro d hd v hv
      change d ∈ (r.near.take n).reverse ++ r.done at hd
      change v ∈ r.near.drop n ++ r.far at hv
      rcases List.mem_append.1 hd with hd | hd
      · rw [List.mem_reverse] at hd
        rcases List.mem_append.1 hv with hv | hv
        · exact hr.near.take_before_drop n d hd v hv
        · exact hbefore d hd v hv
      · exact hr.ahead d hd v ((hsub.append_right _).subset hv)
    · change (r.near.drop n).getLast? = some x
      rw [List.getLast?_drop, if_neg (by omega), hx]

/-- Taking values of the far run that come before all of the near run. -/
theorem LeadsTo.takeFar {n : Nat} (h : LeadsTo lt run r)
    (hnext : run.IsReady lt → r.FarNext lt n) : LeadsTo lt run (r.takeFar n) where
  perm := (perm_takeFar r n).trans h.perm
  ready hrun := by
    have hr := h.ready hrun
    obtain ⟨x, hx, hlast⟩ := hr.last
    have hsub := List.drop_sublist n r.far
    refine ⟨hr.order, hr.near, hr.far.sublist hsub, ?_, ?_, x, hx,
      fun y hy => hlast y (hsub.subset hy)⟩
    · change InOrder lt ((r.far.take n).reverse ++ r.done).reverse
      rw [List.reverse_append, List.reverse_reverse]
      exact List.pairwise_append.2 ⟨hr.done, hr.far.sublist (List.take_sublist n _),
        fun d hd y hy => hr.ahead d (List.mem_reverse.1 hd) y
          (List.mem_append_right _ (List.mem_of_mem_take hy))⟩
    · intro d hd v hv
      change d ∈ (r.far.take n).reverse ++ r.done at hd
      change v ∈ r.near ++ r.far.drop n at hv
      rcases List.mem_append.1 hd with hd | hd
      · rw [List.mem_reverse] at hd
        rcases List.mem_append.1 hv with hv | hv
        · exact hnext hrun d hd v hv
        · exact hr.far.take_before_drop n d hd v hv
      · exact hr.ahead d hd v ((hsub.append_left _).subset hv)

/-! ### Stretches -/

variable [LawfulMonad m] {e : End}

theorem stretchNear_returns (e : End) (lt : α → α → Bool) (run : Merging α) :
    Returns (stretchNear (m := m) e (fun a b => pure (lt a b)) run) fun r =>
      LeadsTo (e.order lt) run r ∧ r.size ≤ run.size ∧
        (run.IsReady (e.order lt) → r.FarNext (e.order lt) 1) := by
  unfold stretchNear
  split
  · rename_i y far hfar
    simp only [End.wins_eq, map_pure]
    refine (leading_returns e (fun x => !e.order lt y x) run.near).bind fun n ⟨hn, hsplit⟩ =>
      .pure ?_
    have split (hrun : run.IsReady (e.order lt)) :
        (∀ x ∈ run.near.take n, Before (e.order lt) x y) ∧
          ∀ x ∈ run.near.drop n, e.order lt y x = true := by
      have h := hsplit (hrun.near.imp fun {x x'} hx hx' => ?_)
      · simpa [Before] using h
      · rw [Bool.not_eq_true'] at hx' ⊢
        exact hrun.order.before_trans hx hx'
    refine ⟨((LeadsTo.refl run).takeNear fun hrun => ⟨?_, fun x hx => ?_⟩).noted _ _, ?_,
      fun hrun y' hy' x hx => ?_⟩
    · -- the last value of the near run comes after the far run, so it is not taken
      obtain ⟨x, hx, hlast⟩ := hrun.last
      refine Nat.lt_of_le_of_ne hn fun heq => ?_
      have hmem : x ∈ run.near.take n := by
        rw [heq, List.take_length]
        exact List.mem_of_getLast? hx
      have hbefore := (split hrun).1 x hmem
      rw [Before, hlast y (hfar ▸ List.mem_cons_self)] at hbefore
      cases hbefore
    · rw [hfar]
      exact hrun.order.before_of_cons (hfar ▸ hrun.far) ((split hrun).1 x hx)
    · simp only [size, takeNear, List.length_drop]
      omega
    · change y' ∈ run.far.take 1 at hy'
      rw [hfar] at hy'
      obtain rfl := List.mem_singleton.1 hy'
      exact hrun.order.before ((split hrun).2 x hx)
  · rename_i hfar
    refine .pure ⟨.refl _, Nat.le_refl _, fun _ y hy => ?_⟩
    rw [hfar] at hy
    cases hy

theorem stretchFar_returns (e : End) (lt : α → α → Bool) (run : Merging α) :
    Returns (stretchFar (m := m) e (fun a b => pure (lt a b)) run) fun r =>
      LeadsTo (e.order lt) run r ∧ r.size ≤ run.size ∧
        (run.IsReady (e.order lt) → r.NearNext (e.order lt) 1) := by
  unfold stretchFar
  split
  · rename_i x near hnear
    simp only [End.wins_eq]
    refine (leading_returns e (fun y => e.order lt y x) run.far).bind fun n ⟨hn, hsplit⟩ => .pure ?_
    have split (hrun : run.IsReady (e.order lt)) :
        (∀ y ∈ run.far.take n, e.order lt y x = true) ∧
          ∀ y ∈ run.far.drop n, Before (e.order lt) x y :=
      hsplit (hrun.far.imp fun hy hy' => hrun.order.lt_of_before hy hy')
    refine ⟨((LeadsTo.refl run).takeFar fun hrun y hy => ?_).noted _ _, ?_,
      fun hrun x' hx' y hy => ?_⟩
    · rw [hnear]
      exact hrun.order.before_of_cons (hnear ▸ hrun.near) (hrun.order.before ((split hrun).1 y hy))
    · simp only [size, takeFar, List.length_drop]
      omega
    · change x' ∈ run.near.take 1 at hx'
      rw [hnear] at hx'
      obtain rfl := List.mem_singleton.1 hx'
      exact (split hrun).2 y hy
  · rename_i hnear
    refine .pure ⟨.refl _, Nat.le_refl _, fun _ x hx => ?_⟩
    rw [hnear] at hx
    cases hx

/-! ### Rounds -/

theorem of_not_settled (h : run.isSettled = false) :
    1 < run.near.length ∧ 0 < run.far.length := by
  rw [isSettled, Bool.or_eq_false_iff, decide_eq_false_iff_not, List.isEmpty_eq_false_iff] at h
  exact ⟨by omega, List.length_pos_iff.2 h.2⟩

/-- What steps of a merge do that take a value unless the merge gets settled. -/
structure Advances (lt : α → α → Bool) (run r : Merging α) : Prop where
  leads : LeadsTo lt run r
  size_le : r.size ≤ run.size
  smaller : r.isSettled = false → r.size < run.size

namespace Advances

theorem trans (h : Advances lt run r) (h' : Advances lt r t) : Advances lt run t where
  leads := h.leads.trans h'.leads
  size_le := Nat.le_trans h'.size_le h.size_le
  smaller ht := Nat.lt_of_lt_of_le (h'.smaller ht) h.size_le

theorem noted (h : Advances lt run r) (patience stretch : Nat) :
    Advances lt run { r with patience, stretch } := ⟨h.leads.noted _ _, h.size_le, h.smaller⟩

theorem of_noted {patience stretch : Nat} (h : Advances lt { run with patience, stretch } r) :
    Advances lt run r := ⟨⟨h.leads.perm, h.leads.ready⟩, h.size_le, h.smaller⟩

theorem takeFar (h : LeadsTo lt run r) (hsize : r.size ≤ run.size) (hr : r.isSettled = false)
    (hnext : run.IsReady lt → r.FarNext lt 1) : Advances lt run (r.takeFar 1) := by
  have hfar := (of_not_settled hr).2
  have hlt : (r.takeFar 1).size < run.size := by
    simp only [size, Merging.takeFar, List.length_drop] at hsize ⊢
    omega
  exact ⟨h.takeFar hnext, Nat.le_of_lt hlt, fun _ => hlt⟩

theorem takeNear (h : LeadsTo lt run r) (hsize : r.size ≤ run.size) (hr : r.isSettled = false)
    (hnext : run.IsReady lt → r.NearNext lt 1) : Advances lt run (r.takeNear 1) := by
  have hnear := (of_not_settled hr).1
  have hlt : (r.takeNear 1).size < run.size := by
    simp only [size, Merging.takeNear, List.length_drop] at hsize ⊢
    omega
  exact ⟨h.takeNear fun hrun => ⟨hnear, hnext hrun⟩, Nat.le_of_lt hlt, fun _ => hlt⟩

end Advances

/-- Two moves of a round that belong together: a stretch of one run and a value of the other. -/
theorem two_moves_returns (stretch : Merging α → m (Merging α)) (take : Merging α → Merging α)
    {next : Merging α → Prop}
    (hstretch : Returns (stretch run) fun r =>
      LeadsTo lt run r ∧ r.size ≤ run.size ∧ (run.IsReady lt → next r))
    (htake : ∀ r, LeadsTo lt run r → r.size ≤ run.size → r.isSettled = false →
      (run.IsReady lt → next r) → Advances lt run (take r)) :
    Returns ([stretch, pure ∘ take].foldlM
      (fun run move => if run.isSettled then pure run else move run) run) (Advances lt run) := by
  simp only [List.foldlM_cons, List.foldlM_nil, Function.comp_apply, bind_pure]
  split
  · rename_i hrun
    rw [pure_bind, if_pos hrun]
    exact .pure ⟨.refl _, Nat.le_refl _, fun h => absurd hrun (Bool.eq_false_iff.1 h)⟩
  · refine hstretch.bind fun r ⟨hleads, hsize, hnext⟩ => ?_
    split
    · rename_i hr
      exact .pure ⟨hleads, hsize, fun h => absurd hr (Bool.eq_false_iff.1 h)⟩
    · rename_i hr
      exact .pure (htake r hleads hsize (Bool.eq_false_iff.2 hr) hnext)

theorem round_returns (e : End) (lt : α → α → Bool) (run : Merging α) :
    Returns (run.round (m := m) e fun a b => pure (lt a b)) (Advances (e.order lt) run) := by
  have near (run : Merging α) := two_moves_returns (m := m) _ (takeFar 1)
    (stretchNear_returns e lt run) fun r => Advances.takeFar
  have far (run : Merging α) := two_moves_returns (m := m) _ (takeNear 1)
    (stretchFar_returns e lt run) fun r => Advances.takeNear
  cases e with
  | front =>
    change Returns (List.foldlM _ _ ([_, _] ++ [_, _])) _
    rw [List.foldlM_append]
    exact (near _).bind fun r hr => (far r).mono fun t ht => (hr.trans ht).of_noted
  | back =>
    change Returns (List.foldlM _ _ ([_, _] ++ [_, _])) _
    rw [List.foldlM_append]
    exact (far _).bind fun r hr => (near r).mono fun t ht => (hr.trans ht).of_noted

/-! ### Steps -/

theorem compareOne_returns (e : End) (lt : α → α → Bool) (nearWins farWins : Nat)
    (h : run.isSettled = false) :
    Returns (run.compareOne (m := m) e (fun a b => pure (lt a b)) nearWins farWins) fun r =>
      Advances (e.order lt) run r.2 := by
  unfold compareOne
  obtain ⟨hnear, hfar⟩ := of_not_settled h
  split
  · rename_i x near y far hx hy
    rw [End.wins_eq, pure_bind]
    split
    · rename_i hlt
      refine .pure (.takeFar (.refl _) (Nat.le_refl _) h fun hrun y' hy' => ?_)
      rw [hy] at hy'
      obtain rfl := List.mem_singleton.1 hy'
      rw [hx]
      exact hrun.order.before_of_cons (hx ▸ hrun.near) (hrun.order.before hlt)
    · rename_i hlt
      refine .pure (.takeNear (.refl _) (Nat.le_refl _) h fun hrun x' hx' => ?_)
      rw [hx] at hx'
      obtain rfl := List.mem_singleton.1 hx'
      rw [hy]
      exact hrun.order.before_of_cons (hy ▸ hrun.far) (Bool.eq_false_iff.2 hlt)
  · rename_i hnone
    obtain ⟨x, near, hx⟩ := List.exists_cons_of_length_pos (Nat.lt_of_succ_lt hnear)
    obtain ⟨y, far, hy⟩ := List.exists_cons_of_length_pos hfar
    exact absurd hy (hnone x near y far hx)

theorem compareRound_returns (e : End) (lt : α → α → Bool) (first : Bool) (run : Merging α) :
    Returns (run.compareRound (m := m) e (fun a b => pure (lt a b)) first) fun r =>
      Advances (e.order lt) run r.2 := by
  refine (round_returns e lt _).bind fun r hr => ?_
  split
  · exact .pure hr.of_noted
  · exact .pure (hr.of_noted.noted _ _)

omit [LawfulMonad m] in
theorem goOn_of_settled (e : End) (lt : α → α → m Bool) (fuel : Nat) (pace : Pace)
    (h : run.isSettled = true) : run.goOn e lt fuel pace = pure run := by
  cases fuel with
  | zero => rfl
  | succ fuel => rw [goOn, if_pos h]

/-- A merge goes on until it is settled. -/
theorem goOn_returns (e : End) (lt : α → α → Bool) {fuel : Nat} (pace : Pace)
    (hfuel : run.size ≤ fuel) :
    Returns (run.goOn (m := m) e (fun a b => pure (lt a b)) fuel pace) fun r =>
      LeadsTo (e.order lt) run r ∧ r.isSettled = true := by
  induction fuel generalizing run pace with
  | zero =>
    refine .pure ⟨.refl _, ?_⟩
    rw [size] at hfuel
    rw [isSettled, Bool.or_eq_true, decide_eq_true_iff]
    omega
  | succ fuel ih =>
    cases hsettled : run.isSettled with
    | true =>
      rw [goOn_of_settled e _ _ pace hsettled]
      exact .pure ⟨.refl _, hsettled⟩
    | false =>
      have next (r : Pace × Merging α) (hr : Advances (e.order lt) run r.2) :
          Returns (r.2.goOn (m := m) e (fun a b => pure (lt a b)) fuel r.1) fun r =>
            LeadsTo (e.order lt) run r ∧ r.isSettled = true := by
        cases hsettled : r.2.isSettled with
        | true =>
          rw [goOn_of_settled e _ _ _ hsettled]
          exact .pure ⟨hr.leads, hsettled⟩
        | false =>
          have hlt := hr.smaller hsettled
          exact (ih r.1 (by omega)).mono fun t ht => ⟨hr.leads.trans ht.1, ht.2⟩
      rw [goOn, if_neg (Bool.eq_false_iff.1 hsettled)]
      cases pace with
      | single near far => exact (compareOne_returns e lt near far hsettled).bind next
      | stretches first => exact (compareRound_returns e lt first run).bind next

theorem all_perm_result (run : Merging α) : run.result ~ run.all := by
  have hleft : (if run.near.length = 1 then run.far ++ run.near else run.near ++ run.far) ~
      run.near ++ run.far := by
    split
    · exact List.perm_append_comm
    · exact .refl _
  exact (List.reverse_perm _).append hleft

/-- The values of a settled merge that is ready are in order. -/
theorem IsReady.inOrder_result (h : run.IsReady lt) (hsettled : run.isSettled = true) :
    InOrder lt run.result := by
  obtain ⟨x, hx, hlast⟩ := h.last
  have hleft : InOrder lt
      (if run.near.length = 1 then run.far ++ run.near else run.near ++ run.far) := by
    split
    · rename_i hone
      obtain ⟨x', hx'⟩ := List.length_eq_one_iff.1 hone
      rw [hx'] at hx ⊢
      obtain rfl := Option.some.inj hx
      exact List.pairwise_append.2 ⟨h.far, List.pairwise_singleton _ _, fun y hy x' hx' =>
        List.mem_singleton.1 hx' ▸ h.order.before (hlast y hy)⟩
    · rename_i hone
      have hnear := List.length_pos_of_mem (List.mem_of_getLast? hx)
      rw [isSettled, Bool.or_eq_true, decide_eq_true_iff, List.isEmpty_iff] at hsettled
      rw [hsettled.resolve_left (by omega), List.append_nil]
      exact h.near
  refine List.pairwise_append.2 ⟨h.done, hleft, fun d hd v hv => ?_⟩
  refine h.ahead d (List.mem_reverse.1 hd) v ?_
  split at hv
  · exact (List.perm_append_comm.mem_iff).1 hv
  · exact hv

/-- A merge that is ready, where the first value of the far run comes first, puts the values in
order. -/
theorem settle_returns (e : End) (lt : α → α → Bool) (near far : List α) (patience : Nat) :
    Returns (settle (m := m) e (fun a b => pure (lt a b)) near far patience) fun r =>
      r.result ~ near ++ far ∧ (Ready (e.order lt) near far [] →
        (∀ y ∈ far.take 1, ∀ x ∈ near, Before (e.order lt) y x) →
          InOrder (e.order lt) r.result) := by
  let start : Merging α := { near, far, patience }
  have hsize : (start.takeFar 1).size ≤ near.length + far.length := by
    simp only [start, size, takeFar, List.length_drop]
    omega
  refine (goOn_returns e lt (.single 0 0) hsize).mono fun r ⟨hr, hsettled⟩ =>
    ⟨(all_perm_result r).trans (hr.perm.trans (perm_takeFar start 1)), fun hready hnext => ?_⟩
  have hstart : LeadsTo (e.order lt) start (start.takeFar 1) :=
    (LeadsTo.refl start).takeFar fun _ => hnext
  exact ((hstart.trans hr).ready hready).inOrder_result hsettled

end Merging

/-! ### Runs side by side -/

variable [LawfulMonad m] {lt : α → α → Bool} {a b : List α}

theorem inFront_returns (lt : α → α → Bool) (a b : List α) :
    Returns (inFront (m := m) (fun a b => pure (lt a b)) a b) fun n =>
      IsOrder lt → InOrder lt a → InOrder lt b →
        (∀ x ∈ a.take n, ∀ y ∈ b, Before lt x y) ∧
          ∀ x ∈ a.drop n, ∀ y ∈ b.head?, lt y x = true := by
  cases b with
  | nil => exact .pure fun _ _ _ =>
      ⟨fun _ _ _ hy => absurd hy List.not_mem_nil, fun _ _ _ hy => by cases hy⟩
  | cons y b =>
    simp only [inFront, map_pure]
    refine (leading_returns .front (fun x => !lt y x) a).mono fun n ⟨_, hsplit⟩ hlt ha hb => ?_
    obtain ⟨htake, hdrop⟩ := hsplit (ha.imp fun {x x'} hx hx' => by
      rw [Bool.not_eq_true'] at hx' ⊢
      exact hlt.before_trans hx hx')
    refine ⟨fun x hx => hlt.before_of_cons hb ?_, fun x hx y' hy' => ?_⟩
    · simpa [Before] using htake x hx
    · obtain rfl := Option.some.inj hy'
      simpa using hdrop x hx

theorem behind_returns (lt : α → α → Bool) (a b : List α) :
    Returns (behind (m := m) (fun a b => pure (lt a b)) a b) fun n =>
      IsOrder lt → InOrder lt a → InOrder lt b →
        (∀ y ∈ b.drop (b.length - n), ∀ x ∈ a, Before lt x y) ∧
          ∀ y ∈ b.take (b.length - n), ∀ x ∈ a.getLast?, lt y x = true := by
  rw [behind]
  split
  · rename_i x hx
    simp only [map_pure]
    refine (leading_returns .back (fun y => !lt y x) b.reverse).mono
      fun n ⟨_, hsplit⟩ hlt ha hb => ?_
    obtain ⟨htake, hdrop⟩ := hsplit (List.pairwise_reverse.2 (hb.imp fun {y y'} hy hy' => by
      rw [Bool.not_eq_true'] at hy' ⊢
      exact hlt.before_trans hy' hy))
    refine ⟨fun y hy => hlt.before_of_getLast? ha hx ?_, fun y hy x' hx' => ?_⟩
    · rw [← List.mem_reverse, ← List.take_reverse] at hy
      simpa [Before] using htake y hy
    · obtain rfl := Option.some.inj (hx.symm.trans hx')
      rw [← List.mem_reverse, ← List.drop_reverse] at hy
      simpa using hdrop y hy
  · rename_i hnone
    rw [List.getLast?_eq_none_iff.1 hnone]
    exact .pure fun _ _ _ =>
      ⟨fun _ _ _ hx => absurd hx List.not_mem_nil, fun _ _ _ hx => by cases hx⟩

/-- Two runs that each have a value are merged in order, if the first value of the right run comes
before all of the left one, and the last value of the left run after all of the right one. -/
theorem mergeFromEnd_returns (lt : α → α → Bool) (patience : Nat) (left right : List α) :
    Returns (mergeFromEnd (m := m) (fun a b => pure (lt a b)) patience left right) fun r =>
      r.1 ~ left ++ right ∧ (IsOrder lt → InOrder lt left → InOrder lt right →
        left ≠ [] → right ≠ [] → (∀ x ∈ left, ∀ y ∈ right.head?, lt y x = true) →
        (∀ y ∈ right, ∀ x ∈ left.getLast?, lt y x = true) → InOrder lt r.1) := by
  rw [mergeFromEnd]
  split
  · refine (Merging.settle_returns .front lt left right patience).bind fun run ⟨hperm, horder⟩ =>
      .pure ⟨hperm, fun hlt hl hr hleft _ hfirst hlast => horder ?_ fun y hy x hx => ?_⟩
    · obtain ⟨x, hx⟩ := Option.ne_none_iff_exists'.1 (mt List.getLast?_eq_none_iff.1 hleft)
      exact ⟨hlt, hl, hr, .nil, fun _ h => absurd h List.not_mem_nil, x, hx,
        fun y hy => hlast y hy x hx⟩
    · rw [List.take_one, Option.mem_toList] at hy
      exact hlt.before (hfirst x hx y hy)
  · refine (Merging.settle_returns .back lt right.reverse left.reverse patience).bind
      fun run ⟨hperm, horder⟩ => .pure ⟨?_, fun hlt hl hr _ hright hfirst hlast =>
        inOrder_reverse.2 (horder ?_ fun x hx y hy => ?_)⟩
    · rw [← List.reverse_append] at hperm
      exact (List.reverse_perm _).trans (hperm.trans (List.reverse_perm _))
    · obtain ⟨y, hy⟩ := Option.ne_none_iff_exists'.1 (mt List.head?_eq_none_iff.1 hright)
      exact ⟨hlt.flip, inOrder_reverse.2 hr, inOrder_reverse.2 hl, .nil,
        fun _ h => absurd h List.not_mem_nil, y, by rw [List.getLast?_reverse, hy],
        fun x hx => hfirst x (List.mem_reverse.1 hx) y hy⟩
    · rw [List.take_one, Option.mem_toList, List.head?_reverse] at hx
      exact hlt.asymm _ _ (hlast y (List.mem_reverse.1 hy) x hx)

/-- Values in order between the ends of two runs that are in place. -/
theorem inOrder_between {merged : List α} {i k : Nat} (ha : InOrder lt a) (hb : InOrder lt b)
    (hfront : ∀ x ∈ a.take i, ∀ y ∈ b, Before lt x y)
    (hback : ∀ y ∈ b.drop k, ∀ x ∈ a.drop i, Before lt x y)
    (hmerged : InOrder lt merged) (hperm : merged ~ a.drop i ++ b.take k) :
    InOrder lt (a.take i ++ merged ++ b.drop k) := by
  have between (v : α) (hv : v ∈ merged) : v ∈ a.drop i ∨ v ∈ b.take k :=
    List.mem_append.1 (hperm.mem_iff.1 hv)
  refine List.pairwise_append.2 ⟨List.pairwise_append.2 ⟨?_, hmerged, fun x hx v hv => ?_⟩, ?_,
    fun v hv y hy => ?_⟩
  · exact ha.sublist (List.take_sublist i a)
  · rcases between v hv with hv | hv
    · exact ha.take_before_drop i x hx v hv
    · exact hfront x hx v (List.mem_of_mem_take hv)
  · exact hb.sublist (List.drop_sublist k b)
  · rcases List.mem_append.1 hv with hv | hv
    · exact hfront v hv y (List.mem_of_mem_drop hy)
    · rcases between v hv with hv | hv
      · exact hback y hy v hv
      · exact hb.take_before_drop k v hv y hy

/-- A merge of two runs has the values of both, and has them in order if both are. -/
theorem mergeRuns_returns (lt : α → α → Bool) (patience : Nat) (a b : List α) :
    Returns (mergeRuns (m := m) (fun a b => pure (lt a b)) patience a b) fun r =>
      r.1 ~ a ++ b ∧ (IsOrder lt → InOrder lt a → InOrder lt b → InOrder lt r.1) := by
  unfold mergeRuns
  refine (inFront_returns lt a b).bind fun i hi => ?_
  refine (behind_returns lt (a.drop i) b).bind fun n hn => ?_
  dsimp only
  generalize b.length - n = k at hn ⊢
  have hsub := List.drop_sublist i a
  have hall : a.take i ++ (a.drop i ++ b.take k) ++ b.drop k = a ++ b := by
    rw [← List.append_assoc, List.take_append_drop, List.append_assoc, List.take_append_drop]
  have hbetween {merged : List α} (hlt : IsOrder lt) (ha : InOrder lt a) (hb : InOrder lt b)
      (hmerged : InOrder lt merged) :=
    inOrder_between ha hb (hi hlt ha hb).1 (hn hlt (ha.sublist hsub) hb).1 hmerged
  split
  · rename_i hempty
    refine .pure ⟨.refl _, fun hlt ha hb => hall ▸ hbetween hlt ha hb ?_ (.refl _)⟩
    rw [Bool.or_eq_true, List.isEmpty_iff, List.isEmpty_iff] at hempty
    rcases hempty with hempty | hempty
    · rw [hempty, List.nil_append]
      exact hb.sublist (List.take_sublist k b)
    · rw [hempty, List.append_nil]
      exact ha.sublist hsub
  · rename_i hsome
    rw [Bool.or_eq_true, List.isEmpty_iff, List.isEmpty_iff, not_or] at hsome
    refine (mergeFromEnd_returns lt patience _ _).bind fun r ⟨hperm, horder⟩ =>
      .pure ⟨?_, fun hlt ha hb => hbetween hlt ha hb ?_ hperm⟩
    · exact hall ▸ (hperm.append_left _).append_right _
    · have hright := hb.sublist (List.take_sublist k b)
      refine horder hlt (ha.sublist hsub) hright hsome.1 hsome.2 (fun x hx y hy => ?_)
        (hn hlt (ha.sublist hsub) hb).2
      -- what is left of the second run starts as it does
      have htake : k ≠ 0 := fun hk => hsome.2 (by rw [hk, List.take_zero])
      rw [List.head?_take, if_neg htake] at hy
      exact (hi hlt ha hb).2 x hx y hy

end SpriteStage.Sorting
