import SpriteStage.Proofs.Double.Range
import SpriteStage.Proofs.Stage.Poses
import SpriteStage.Proofs.Value.Texts

/-!
# The roster

The actors stand on the roster in the order in which they came last, each under its own identifier,
which is a name, and in a size that can be drawn. The poses are kept under the same identifiers in
the same order.
-/

namespace SpriteStage

theorem Draft.isName_idOr? {d : Draft} {number : Nat} {id : String}
    (h : d.idOr? (Ids.label "sprite" number) = some id) : Text.IsName id := by
  obtain ⟨given, hgiven, rfl⟩ := Option.map_eq_some_iff.1 h
  split
  · exact Text.isName_label (by decide) number
  · rename_i hne
    exact Value.isName_trimmed hgiven (by simpa using hne)

/-! ### Sizes -/

theorem Actor.size_pos {v : Value} {x : Float} (h : Actor.size v = .ok x) :
    0.0 < x ∧ x.isNaN = false := by
  have hdefault : 0.0 < Actor.defaultSize ∧ Actor.defaultSize.isNaN = false := by decide
  unfold Actor.size at h
  split at h
  · rename_i y hy
    cases h
    split
    · exact hdefault
    · rename_i hok
      rw [Bool.or_eq_true, not_or, Bool.not_eq_true, decide_eq_true_eq] at hok
      exact ⟨Double.pos_of_not_le hok.1 hok.2, hok.1⟩
  · cases h
  · cases h
    exact hdefault

/-- The width and the height of an actor are positive numbers. -/
structure Actor.Sized (a : Actor) : Prop where
  width : 0.0 < a.width ∧ a.width.isNaN = false
  height : 0.0 < a.height ∧ a.height.isNaN = false

theorem Draft.sized_actor {d : Draft} {id : String} {number : Nat} {a : Actor}
    (h : d.actor id number = .ok a) : a.Sized := by
  obtain ⟨-, -, -, hwidth, hheight, -⟩ := Draft.actor_eq_ok.1 h
  exact ⟨Actor.size_pos hwidth, Actor.size_pos hheight⟩

theorem Actor.sized_set {a b : Actor} {v : Value} {t : Attribute} (hb : a.set v t = .ok b)
    (h : a.Sized) : b.Sized := by
  rcases Actor.set_cases hb with ⟨_, _, _, rfl⟩ | ⟨x, hx, ⟨-, rfl⟩ | ⟨-, rfl⟩⟩
  · exact ⟨h.width, h.height⟩
  · exact ⟨Actor.size_pos hx, h.height⟩
  · exact ⟨h.width, Actor.size_pos hx⟩

theorem Edit.sized_apply {a : Actor} (h : a.Sized) (e : Edit) : (e.apply a).1.Sized :=
  Edit.apply_invariant Actor.sized_set h

namespace Stage

variable {s : Stage}

/-! ### Who is on the roster -/

/-- An operation puts an actor behind the others, or leaves those who stay in their order. -/
theorem perform_keys_cases (s : Stage) (op : Operation) :
    (∃ a, s.entrant? op = some a ∧ (s.perform op).roster.keys = s.roster.keys ++ [a.id] ∧
      a.id ∉ s.roster.keys) ∨
    s.entrant? op = none ∧ (s.perform op).roster.keys.Sublist s.roster.keys := by
  have hsame {keys : List String} (h : keys = s.roster.keys) : keys.Sublist s.roster.keys :=
    h ▸ .refl _
  cases op with
  | add number draft =>
    rcases s.add_cases number draft with ⟨hin, h⟩ | ⟨a, hin, h, -, -, -, hfree⟩
    · exact .inr ⟨hin, hsame (by rw [h])⟩
    · have hfresh := Keyed.not_mem_keys.2 hfree
      exact .inl ⟨a, hin, by rw [h, Keyed.keys_put_of_not_mem hfresh], hfresh⟩
  | remove id =>
    refine .inr ⟨rfl, ?_⟩
    rcases s.remove_cases id with ⟨-, -, h⟩ | ⟨_, a, -, -, h⟩
    · exact hsame (by rw [perform, h])
    · rw [perform, h, Keyed.keys_erase]
      exact List.filter_sublist
  | clear => exact .inr ⟨rfl, List.nil_sublist _⟩
  | update | replaceScript | collide | start | stop | detect =>
    exact .inr ⟨rfl, hsame (perform_keys _ (.inl rfl))⟩
  | reset => exact .inr ⟨rfl, hsame (perform_keys _ (.inr (.inl rfl)))⟩
  | tick => exact .inr ⟨rfl, hsame (perform_keys _ (.inr (.inr rfl)))⟩

theorem entrant?_isName_sized {op : Operation} {a : Actor} (h : s.entrant? op = some a) :
    Text.IsName a.id ∧ a.Sized := by
  cases op with
  | add number draft =>
    rcases s.add_cases number draft with ⟨hin, -⟩ | ⟨b, hin, -, hactor, hid, -⟩
    · cases hin.symm.trans h
    · cases hin.symm.trans h
      exact ⟨Draft.isName_idOr? hid, Draft.sized_actor hactor⟩
  | _ => cases h

end Stage

namespace History

theorem isName_sized (h : History) :
    ∀ k a, h.stage.roster.get? k = some a → Text.IsName k ∧ a.Sized :=
  forall_actor (P := fun k a => Text.IsName k ∧ a.Sized)
    (fun _ _ _ hin => Stage.entrant?_isName_sized hin)
    (fun _ _ e ⟨hname, hsized⟩ => ⟨hname, Edit.sized_apply hsized e⟩)
    (fun _ _ _ ⟨hname, hsized⟩ => ⟨hname, hsized.width, hsized.height⟩) h

theorem arrival_le (h : History) (k : String) : h.arrival k ≤ h.length := by
  induction h with
  | nil => exact Nat.le_refl 0
  | cons op past ih =>
    rw [arrival, List.length_cons]
    split <;> omega

/-- The actors stand in the order in which they came last. -/
theorem pairwise_arrival (h : History) :
    h.stage.roster.keys.Pairwise fun j k => h.arrival j < h.arrival k := by
  induction h with
  | nil => exact .nil
  | cons op past ih =>
    rcases (stage past).perform_keys_cases op with ⟨a, hin, hkeys, hfresh⟩ | ⟨hin, hkeys⟩
    · -- the newcomer is later than all others, whose arrivals stay as they were
      have hnew : arrival (op :: past) a.id = past.length + 1 := by
        simp [arrival, hin]
      have hold : ∀ k ∈ (stage past).roster.keys, arrival (op :: past) k = arrival past k := by
        intro k hk
        have hne : a.id ≠ k := fun heq => hfresh (heq ▸ hk)
        simp [arrival, hin, hne]
      rw [stage, hkeys, List.pairwise_append]
      refine ⟨ih.imp_of_mem fun hj hk hlt => by rwa [hold _ hj, hold _ hk],
        List.pairwise_singleton _ _, fun j hj k hk => ?_⟩
      rw [List.mem_singleton.1 hk, hnew, hold j hj]
      exact Nat.lt_succ_of_le (arrival_le past j)
    · refine (ih.sublist hkeys).imp fun hlt => ?_
      simpa [arrival, hin] using hlt

/-- The poses are kept under the identifiers of the actors, in the same order. -/
theorem keys_poses (h : History) : h.stage.poses.keys = h.stage.roster.keys := by
  induction h with
  | nil => rfl
  | cons op past ih =>
    cases hop : op.poses with
    | false =>
      rw [stage, Stage.perform_poses op hop, ih, Stage.perform_keys op (.inl hop)]
    | true =>
      cases op with
      | add number draft =>
        rcases (stage past).add_cases number draft with ⟨-, h⟩ | ⟨a, -, h, -, -, -, hfree⟩
        · rw [stage, h, ih]
        · have hfresh := Keyed.not_mem_keys.2 hfree
          rw [stage, h, Keyed.keys_put_of_not_mem hfresh, Keyed.keys_put_of_not_mem (ih ▸ hfresh),
            ih]
      | remove key =>
        rcases (stage past).remove_cases key with ⟨-, -, h⟩ | ⟨id, a, -, ha, h⟩
        · rw [stage, Stage.perform, h, ih]
        · have hid := own_id past id a ha
          rw [stage, Stage.perform, h, Keyed.keys_erase, Keyed.keys_erase, ih, hid]
      | tick =>
        cases hr : (stage past).running with
        | false => rw [stage, Stage.perform, Stage.tick_stopped hr, ih]
        | true =>
          rw [stage, Stage.perform, Stage.tick_running hr]
          exact Keyed.keys_map _ _
      | reset =>
        rw [stage, Stage.perform_keys .reset (.inr (.inl rfl))]
        exact Keyed.keys_map _ _
      | clear => rfl
      | _ => cases hop

end History

end SpriteStage
