import SpriteStage.Collision.Swap
import SpriteStage.Proofs.Block.Parsing

/-!
# The halves of a script

A collision puts the motion of one script before the rest of another, so each half of the new script
is a half of an old one. The cost of a script is shared between its halves, and the halves of a
checked script are checked.
-/

namespace SpriteStage.Script

theorem isMotion_of_mem_motion {s : Script} {b : Block} (h : b ∈ s.motion) : b.isMotion = true :=
  (List.mem_filter.1 h).2

theorem isMotion_of_mem_rest {s : Script} {b : Block} (h : b ∈ s.rest) : b.isMotion = false := by
  simpa using (List.mem_filter.1 h).2

theorem motion_collide (own other : Script) : (own.collide other).motion = other.motion := by
  have hother : other.motion.filter Block.isMotion = other.motion :=
    List.filter_eq_self.2 fun _ => isMotion_of_mem_motion
  have hown : own.rest.filter Block.isMotion = [] :=
    List.filter_eq_nil_iff.2 fun _ h => by simp [isMotion_of_mem_rest h]
  rw [motion, collide, List.filter_append, hother, hown, List.append_nil]

theorem rest_collide (own other : Script) : (own.collide other).rest = own.rest := by
  have hother : other.motion.filter (fun b => !b.isMotion) = [] :=
    List.filter_eq_nil_iff.2 fun _ h => by simp [isMotion_of_mem_motion h]
  have hown : own.rest.filter (fun b => !b.isMotion) = own.rest :=
    List.filter_eq_self.2 fun _ h => by simp [isMotion_of_mem_rest h]
  rw [rest, collide, List.filter_append, hother, hown, List.nil_append]

/-! ### Cost -/

theorem cost_motion_add_rest (s : Script) : s.motion.cost + s.rest.cost = s.cost := by
  induction s with
  | nil => rfl
  | cons b s ih =>
    cases h : b.isMotion with
    | true =>
      rw [motion, List.filter_cons_of_pos h, rest, List.filter_cons_of_neg (by simp [h]), cost,
        cost, ← ih, Nat.add_assoc]
      rfl
    | false =>
      rw [motion, List.filter_cons_of_neg (by simp [h]), rest,
        List.filter_cons_of_pos (by simp [h]), cost, cost, ← ih, Nat.add_left_comm]
      rfl

/-! ### Checks -/

theorem checked_motion {s : Script} (h : s.Checked) : s.motion.Checked :=
  checked_iff_forall.2 fun b hb => checked_iff_forall.1 h b (List.mem_filter.1 hb).1

theorem checked_rest {s : Script} (h : s.Checked) : s.rest.Checked :=
  checked_iff_forall.2 fun b hb => checked_iff_forall.1 h b (List.mem_filter.1 hb).1

theorem checked_collide {own other : Script} (hown : own.Checked) (hother : other.Checked) :
    (own.collide other).Checked :=
  checked_iff_forall.2 fun b hb => (List.mem_append.1 hb).elim
    (checked_iff_forall.1 (checked_motion hother) b) (checked_iff_forall.1 (checked_rest hown) b)

theorem isKnown_of_checked {s : Script} (h : s.Checked) : s.isKnown = true := by
  refine List.all_eq_true.2 fun b hb => ?_
  have hchecked := checked_iff_forall.1 h b hb
  cases b with
  | unknown => exact hchecked.elim
  | _ => rfl

theorem swap?_of_checked {a b : Script} (ha : a.Checked) (hb : b.Checked) :
    a.partition? = some (a.motion, a.rest) ∧ a.swap? b = some (swap a b) :=
  ⟨partition?_of_isKnown (isKnown_of_checked ha),
    swap?_of_isKnown (isKnown_of_checked ha) (isKnown_of_checked hb)⟩

end SpriteStage.Script
