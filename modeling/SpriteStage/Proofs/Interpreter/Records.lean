import SpriteStage.Proofs.Heading
import SpriteStage.Proofs.Interpreter.Unrolling

/-!
# Records of poses

A script runs over the record of a pose as it runs over the pose, as long as the heading is finite.
Actions keep the heading finite, so such a run never stops.
-/

namespace SpriteStage.Pose

theorem moved_record (old new : Float) :
    PoseRecord.moved (.float old) new = .float (keepFinite new old) := by
  unfold PoseRecord.moved keepFinite
  split <;> rfl

theorem record_advance {p : Pose} (h : p.heading.isFinite = true) (distance : Float) :
    p.record.advance distance = .ok (p.advance distance).record := by
  have hangle := Heading.isFinite_radians h
  have hx : p.record.x.coordinate = .ok p.x := rfl
  have hy : p.record.y.coordinate = .ok p.y := rfl
  have hheading : p.record.heading.coordinate = .ok p.heading := rfl
  rw [PoseRecord.advance, Pose.advance, hx, hy, hheading]
  split
  · rfl
  · rw [Except.ok_bind]
    dsimp only
    rw [hangle, Bool.not_true, Bool.false_and, if_neg Bool.false_ne_true, Except.ok_bind,
      Except.ok_bind]
    simp only [record, moved_record]
    rfl

theorem record_act {p : Pose} (h : p.heading.isFinite = true) (a : Action) :
    p.record.act a = .ok (p.act a).record := by
  cases a with
  | advance distance => exact record_advance h distance
  | stay | rotate | place | display => rfl

theorem isFinite_heading_act {p : Pose} (h : p.heading.isFinite = true) (a : Action) :
    (p.act a).heading.isFinite = true := by
  cases a with
  | advance distance =>
    rw [act, advance]
    split <;> exact h
  | rotate degrees => exact Heading.isFinite_fold _
  | stay | place | display => exact h

theorem foldlM_record {p : Pose} (h : p.heading.isFinite = true) (actions : List Action) :
    actions.foldlM PoseRecord.act p.record = .ok (actions.foldl Pose.act p).record := by
  induction actions generalizing p with
  | nil => rfl
  | cons a actions ih =>
    rw [List.foldlM_cons, record_act h]
    exact ih (isFinite_heading_act h a)

theorem record_interpret {p : Pose} (h : p.heading.isFinite = true) (s : Script) :
    p.record.interpret s = .ok (interpret p s).record := by
  rw [PoseRecord.interpret_eq_foldlM, foldlM_record h, interpret_eq_foldl]

end SpriteStage.Pose
