import SpriteStage.Proofs.Collision.Halves

/-!
# The algebra of exchanges

Two scripts exchange their motion and keep the rest, so between them no block is lost, and none
comes twice. Each of the new scripts has its motion in front. An exchange looks at the halves of a
script and not at how they are mixed, so a second one gives the old scripts back, but for the place
of their motion, and a third is the first one again.
-/

namespace SpriteStage.Script

/-- Motion comes before everything else. -/
def MotionFirst (s : Script) : Prop :=
  s.Pairwise fun b c => c.isMotion = true → b.isMotion = true

/-- The script with its motion moved to the front, where both halves keep their order. -/
def partitioned (s : Script) : Script := s.motion ++ s.rest

theorem motionFirst_collide (own other : Script) : (own.collide other).MotionFirst := by
  refine List.pairwise_append.2 ⟨?_, ?_, ?_⟩
  · exact List.pairwise_of_forall_mem_list fun b hb _ _ _ => isMotion_of_mem_motion hb
  · refine List.pairwise_of_forall_mem_list fun b _ c hc hmotion => ?_
    rw [isMotion_of_mem_rest hc] at hmotion
    cases hmotion
  · exact fun b hb _ _ _ => isMotion_of_mem_motion hb

/-- A script in which motion comes first is partitioned already. -/
theorem partitioned_eq_self {s : Script} (h : s.MotionFirst) : s.partitioned = s := by
  induction s with
  | nil => rfl
  | cons b s ih =>
    obtain ⟨hb, hs⟩ := List.pairwise_cons.1 h
    cases hmotion : b.isMotion with
    | true =>
      rw [partitioned, motion, rest, List.filter_cons_of_pos hmotion,
        List.filter_cons_of_neg (by simp [hmotion]), List.cons_append]
      exact congrArg (b :: ·) (ih hs)
    | false =>
      -- a block that is no motion stands in front, so none follows that is
      have hnone : ∀ c ∈ b :: s, c.isMotion = false := by
        intro c hc
        rcases List.mem_cons.1 hc with rfl | hc
        · exact hmotion
        · cases hmove : c.isMotion with
          | false => rfl
          | true => exact (hb c hc hmove).symm.trans hmotion
      rw [partitioned, motion, rest, List.filter_eq_nil_iff.2 fun c hc => by simp [hnone c hc],
        List.filter_eq_self.2 fun c hc => by simp [hnone c hc], List.nil_append]

theorem eq_partitioned_iff {s t : Script} :
    t = s.partitioned ↔ t.MotionFirst ∧ t.motion = s.motion ∧ t.rest = s.rest := by
  constructor
  · rintro rfl
    exact ⟨motionFirst_collide s s, motion_collide s s, rest_collide s s⟩
  · rintro ⟨hfirst, hmotion, hrest⟩
    rw [← partitioned_eq_self hfirst, partitioned, partitioned, hmotion, hrest]

/-- Two exchanges with the same partner leave a script as it was, but for the place of its
motion. -/
theorem collide_collide (own other : Script) :
    (own.collide other).collide (other.collide own) = own.partitioned := by
  rw [collide, motion_collide, rest_collide, partitioned]

theorem collide_partitioned (own other : Script) :
    own.partitioned.collide other.partitioned = own.collide other := by
  have hmotion : other.partitioned.motion = other.motion := motion_collide other other
  have hrest : own.partitioned.rest = own.rest := rest_collide own own
  rw [collide, collide, hmotion, hrest]

theorem perm_collide (a b : Script) : (a.collide b ++ b.collide a).Perm (a ++ b) := by
  have whole (s : Script) : (s.motion ++ s.rest).Perm s := List.filter_append_perm _ s
  have middle : (b.motion ++ (a.rest ++ a.motion)).Perm (a.motion ++ a.rest ++ b.motion) :=
    (List.perm_append_comm.append_left b.motion).trans List.perm_append_comm
  calc List.Perm (a.collide b ++ b.collide a) (b.motion ++ (a.rest ++ a.motion) ++ b.rest) :=
        .of_eq (by simp only [collide, List.append_assoc])
    List.Perm _ (a.motion ++ a.rest ++ b.motion ++ b.rest) := middle.append_right b.rest
    _ = a.motion ++ a.rest ++ (b.motion ++ b.rest) := List.append_assoc ..
    List.Perm _ (a ++ b) := (whole a).append (whole b)

/-- Loops are no motion, so each stays in its script, as it is. -/
theorem filter_loop_collide (own other : Script) :
    (own.collide other).filter (fun b => b.kind? == some .loop) =
      own.filter fun b => b.kind? == some .loop := by
  have hother : other.motion.filter (fun b => b.kind? == some .loop) = [] := by
    refine List.filter_eq_nil_iff.2 fun b hb hloop => ?_
    have hmotion := isMotion_of_mem_motion hb
    rw [Block.isMotion, eq_of_beq hloop] at hmotion
    cases hmotion
  have hown : own.rest.filter (fun b => b.kind? == some .loop) =
      own.filter fun b => b.kind? == some .loop := by
    rw [rest, List.filter_filter]
    refine List.filter_congr fun b _ => ?_
    cases b <;> rfl
  rw [collide, List.filter_append, hother, hown, List.nil_append]

/-- The law of exchanges, for any two scripts. The new scripts hold the blocks of the old ones, each
as often as before. Each of them has its motion in front: the motion of the other side in its order,
and then its own rest in its order. The loops of a script stay in it, in their order and with
everything in them. The exchange is symmetric. A second exchange gives each of the old scripts with
its motion moved to the front, which is the only script with the same halves and motion first, and a
third exchange gives what the first gave. -/
theorem swap_law (a b : Script) :
    ((swap a b).1 ++ (swap a b).2).Perm (a ++ b) ∧
    ((swap a b).1.MotionFirst ∧ (swap a b).2.MotionFirst) ∧
    ((swap a b).1.motion = b.motion ∧ (swap a b).1.rest = a.rest ∧
      (swap a b).2.motion = a.motion ∧ (swap a b).2.rest = b.rest) ∧
    ((swap a b).1.filter (fun c => c.kind? == some .loop) =
        a.filter (fun c => c.kind? == some .loop) ∧
      (swap a b).2.filter (fun c => c.kind? == some .loop) =
        b.filter fun c => c.kind? == some .loop) ∧
    swap b a = ((swap a b).2, (swap a b).1) ∧
    swap (swap a b).1 (swap a b).2 = (a.partitioned, b.partitioned) ∧
    (∀ s t : Script, t = s.partitioned ↔ t.MotionFirst ∧ t.motion = s.motion ∧ t.rest = s.rest) ∧
    swap a.partitioned b.partitioned = swap a b := by
  refine ⟨perm_collide a b, ⟨motionFirst_collide a b, motionFirst_collide b a⟩,
    ⟨motion_collide a b, rest_collide a b, motion_collide b a, rest_collide b a⟩,
    ⟨filter_loop_collide a b, filter_loop_collide b a⟩, rfl, ?_, fun _ _ => eq_partitioned_iff, ?_⟩
  · rw [swap, swap, collide_collide, collide_collide]
  · rw [swap, swap, collide_partitioned, collide_partitioned]

end SpriteStage.Script
