import SpriteStage.Proofs.Double.Range
import SpriteStage.Proofs.Interpreter.Walk
import SpriteStage.Proofs.Stage.Poses

/-!
# Poses stay finite

Whatever stands in the parameters of a script, every reading of a parameter is finite, and a
coordinate that would not be finite is not taken. So positions stay finite, and a bubble is shown
for a finite time that is not negative.
-/

namespace SpriteStage

/-! ### Readings -/

theorem Double.isFinite_finite (x : Float) : (Double.finite x).isFinite = true := by
  unfold Double.finite
  split
  · assumption
  · decide

theorem Value.isFinite_finite (v : Value) : v.finite.isFinite = true := by
  unfold Value.finite
  split
  · exact Double.isFinite_finite _
  · decide

theorem Double.isFinite_atLeastZero {x : Float} (h : x.isFinite = true) :
    (Double.atLeastZero x).isFinite = true := by
  unfold Double.atLeastZero
  split
  · exact h
  · decide

theorem Double.zero_le_atLeastZero (x : Float) : 0.0 ≤ Double.atLeastZero x := by
  unfold Double.atLeastZero
  split
  · rename_i h
    exact Double.le_of_lt h
  · decide

theorem isFinite_keepFinite {new old : Float} (h : old.isFinite = true) :
    (keepFinite new old).isFinite = true := by
  unfold keepFinite
  split
  · assumption
  · exact h

/-! ### Poses -/

/-- A display that is empty, or a bubble for a finite time that is not negative. -/
def Display.WellFormed : Display → Prop
  | .none => True
  | .bubble _ _ remaining => remaining.isFinite = true ∧ 0.0 ≤ remaining

/-- A pose at a finite position with such a display. -/
structure Pose.WellFormed (p : Pose) : Prop where
  x : p.x.isFinite = true
  y : p.y.isFinite = true
  display : p.display.WellFormed

namespace Pose.WellFormed

theorem rest : Pose.rest.WellFormed := ⟨by decide, by decide, trivial⟩

theorem age {p : Pose} (h : p.WellFormed) : p.age.WellFormed := by
  refine ⟨h.x, h.y, ?_⟩
  have hdisplay := h.display
  change p.display.countdown.WellFormed
  cases hd : p.display with
  | none => trivial
  | bubble b text remaining =>
    rw [hd] at hdisplay
    rw [Display.countdown]
    split
    · trivial
    · exact ⟨Double.isFinite_atLeastZero
        (Double.isFinite_sub hdisplay.1 (by decide) hdisplay.2 (by decide)),
        Double.zero_le_atLeastZero _⟩

/-- The action of a block, with any parameters. -/
theorem act {p : Pose} (h : p.WellFormed) (b : Block) : (p.act b.action).WellFormed := by
  cases b with
  | move id steps =>
    change (p.advance steps.finite).WellFormed
    unfold Pose.advance
    split
    · exact h
    · exact ⟨isFinite_keepFinite h.x, isFinite_keepFinite h.y, h.display⟩
  | turn id degrees => exact ⟨h.x, h.y, h.display⟩
  | goto id x y => exact ⟨x.isFinite_finite, y.isFinite_finite, h.display⟩
  | bubble id b text seconds =>
    exact ⟨h.x, h.y, Double.isFinite_atLeastZero seconds.isFinite_finite,
      Double.zero_le_atLeastZero _⟩
  | loop | unknown => exact h

theorem interpret {p : Pose} (h : p.WellFormed) (script : Script) :
    (interpret p script).WellFormed :=
  Script.walk_invariant (P := Pose.WellFormed) (Q := fun _ => True) (v := performer)
    (fun _ _ _ _ _ _ => trivial) (fun b _ _ hp => act hp b) (fun _ hp => hp) script
    (fun _ _ => trivial) h

theorem tick {p : Pose} (h : p.WellFormed) (script : Script) : (p.tick script).WellFormed :=
  interpret (age h) script

theorem ticks {p : Pose} (h : p.WellFormed) (scripts : List Script) :
    (scripts.foldl Pose.tick p).WellFormed := by
  induction scripts generalizing p with
  | nil => exact h
  | cons script scripts ih => exact ih (tick h script)

/-- The record of a pose has finite coordinates, and its display is empty in all fields or has the
mode of a bubble and a finite time that is not negative. -/
theorem record {p : Pose} (h : p.WellFormed) :
    (∃ x y : Float, p.record.x = .float x ∧ x.isFinite = true ∧
      p.record.y = .float y ∧ y.isFinite = true) ∧
    (p.record.display = ⟨.str "none", .null, .null⟩ ∨
      ∃ (b : Bubble) (text : Value) (r : Float),
        p.record.display = ⟨.str b.name, text, .float r⟩ ∧ r.isFinite = true ∧ 0.0 ≤ r) := by
  refine ⟨⟨p.x, p.y, rfl, h.x, rfl, h.y⟩, ?_⟩
  have hdisplay := h.display
  unfold Pose.record
  cases hd : p.display with
  | none => exact .inl rfl
  | bubble b text r =>
    rw [hd] at hdisplay
    exact .inr ⟨b, text, r, rfl, hdisplay⟩

end Pose.WellFormed

namespace History

/-- The law of finite poses, for every history of the stage and scripts with any parameters. Every
actor has a pose. Its coordinates are finite, and its display is empty in all fields or says or
thinks something for a finite time that is not negative. -/
theorem finite_law (h : History) {k : String} {a : Actor} (ha : h.stage.roster.get? k = some a) :
    ∃ p, h.stage.poses.get? k = some p ∧
      (∃ x y : Float, p.record.x = .float x ∧ x.isFinite = true ∧
        p.record.y = .float y ∧ y.isFinite = true) ∧
      (p.record.display = ⟨.str "none", .null, .null⟩ ∨
        ∃ (b : Bubble) (text : Value) (r : Float),
          p.record.display = ⟨.str b.name, text, .float r⟩ ∧ r.isFinite = true ∧ 0.0 ≤ r) := by
  refine ⟨h.posed k, by rw [poses_get?, ha]; rfl, ?_⟩
  exact (Pose.WellFormed.rest.ticks (h.journal k)).record

/-- An actor is ticked with a script of parameters that make no sense. -/
def astray : History :=
  [.tick, .start, .add 1 {
    id := .str "a"
    script := [.move "far" (.float (1.0 / 0.0)), .goto "nowhere" .null (.str "1e999"),
      .loop "often" (.int 2) [.unknown, .bubble "aside" .think (.int 7) (.int 3)]] }]

/-- The law of finite poses at that history. -/
theorem finite_of_astray : ∃ a, astray.stage.roster.get? "a" = some a ∧
    ∃ p, astray.stage.poses.get? "a" = some p ∧
      (∃ x y : Float, p.record.x = .float x ∧ x.isFinite = true ∧
        p.record.y = .float y ∧ y.isFinite = true) ∧
      (p.record.display = ⟨.str "none", .null, .null⟩ ∨
        ∃ (b : Bubble) (text : Value) (r : Float),
          p.record.display = ⟨.str b.name, text, .float r⟩ ∧ r.isFinite = true ∧ 0.0 ≤ r) := by
  have hactor : (astray.stage.roster.get? "a").isSome = true := by decide
  obtain ⟨a, ha⟩ := Option.isSome_iff_exists.1 hactor
  exact ⟨a, ha, finite_law astray ha⟩

end History

end SpriteStage
