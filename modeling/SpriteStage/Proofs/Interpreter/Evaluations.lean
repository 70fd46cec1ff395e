import SpriteStage.Proofs.Interpreter.Counting
import SpriteStage.Proofs.Interpreter.Records

/-!
# Evaluations of a checked script

The cost of a script is read off the script, and the evaluations are counted while it runs. For a
checked script the two are the same number. A record from outside may stop a script; the blocks
after the one that stopped it are not evaluated any more.
-/

namespace SpriteStage

namespace PoseRecord

/-- The visitor that carries out actions on a record until one fails, and counts the evaluations up
to that one. -/
def counter : Visitor (Except RunError PoseRecord × Nat) :=
  ⟨fun b s => (s.1.bind (·.act b.action), if s.1.isOk then s.2 + 1 else s.2), id⟩

/-- A counted run, the run itself and the count of all evaluations, side by side. The outcomes are
the same, and the first count falls behind the other only after a failure. -/
structure Tallied (w : (Except RunError PoseRecord × Nat) × Except RunError PoseRecord × Nat) :
    Prop where
  run : w.1.1 = w.2.1
  le : w.1.2 ≤ w.2.2
  eq : w.1.1.isOk = true → w.1.2 = w.2.2

theorem isOk_of_isOk_bind {ε α β : Type} {r : Except ε α} {f : α → Except ε β}
    (h : (r.bind f).isOk = true) : r.isOk = true := by
  cases r with
  | error e => cases h
  | ok a => rfl

theorem Tallied.block {w : (Except RunError PoseRecord × Nat) × Except RunError PoseRecord × Nat}
    (h : Tallied w) (b : Block) :
    Tallied ((counter.prod (performer.prod Visitor.evaluations)).block b w) := by
  obtain ⟨⟨result, calls⟩, run, all⟩ := w
  obtain ⟨hrun, hle, heq⟩ := h
  obtain rfl : result = run := hrun
  refine ⟨rfl, ?_, fun hok => ?_⟩
  · change (if result.isOk then calls + 1 else calls) ≤ all + 1
    change calls ≤ all at hle
    split <;> omega
  · change (if result.isOk then calls + 1 else calls) = all + 1
    have hbefore := isOk_of_isOk_bind hok
    rw [if_pos hbefore]
    exact congrArg (· + 1) (heq hbefore)

end PoseRecord

/-- A counted run has the outcome of the run. It counts no more than all evaluations of the script,
and all of them if it does not stop. -/
theorem Script.walk_counter (s : Script) (p : PoseRecord) :
    ∃ calls, s.walk PoseRecord.counter (.ok p, 0) = (p.interpret s, calls) ∧
      calls ≤ s.walk Visitor.evaluations 0 ∧
      ((p.interpret s).isOk = true → calls = s.walk Visitor.evaluations 0) := by
  have htallied := Script.walk_invariant (P := PoseRecord.Tallied) (Q := fun _ => True)
    (v := PoseRecord.counter.prod (PoseRecord.performer.prod Visitor.evaluations))
    (fun _ _ _ _ _ _ => trivial) (fun b _ _ hw => hw.block b) (fun _ hw => hw) s
    (fun _ _ => trivial) (s := ((.ok p, 0), .ok p, 0)) ⟨rfl, le_rfl, fun _ => rfl⟩
  rw [Script.walk_prod, Script.walk_prod] at htallied
  obtain ⟨hrun, hle, heq⟩ := htallied
  exact ⟨(s.walk PoseRecord.counter (.ok p, 0)).2, Prod.ext hrun rfl, hle,
    fun h => heq (hrun.symm ▸ h)⟩

/-- The law of evaluations, for every script that the reader gives out. Carrying it out on any pose
evaluates as many blocks, at all depths, as the script costs. The same is true of the record of a
pose with a finite heading, for which the run does not stop, and of every other record for which it
does not stop; if it stops, no more blocks than that were evaluated. -/
theorem Script.evaluation_law {raw : List Value} {ids ids' : Ids} {s : Script}
    (h : Script.parse raw ids = .ok (s, ids')) :
    (∀ p : Pose, s.walk (performer.prod Visitor.evaluations) (p, 0) = (interpret p s, s.cost)) ∧
    (∀ p : Pose, p.heading.isFinite = true →
      s.walk PoseRecord.counter (.ok p.record, 0) = (.ok (interpret p s).record, s.cost)) ∧
    ∀ p : PoseRecord, ∃ calls,
      s.walk PoseRecord.counter (.ok p, 0) = (p.interpret s, calls) ∧ calls ≤ s.cost ∧
      ∀ r, p.interpret s = .ok r → calls = s.cost := by
  have hcost : s.walk Visitor.evaluations 0 = s.cost := by
    rw [Script.walk_evaluations s (Script.parse_checked h).1, Nat.zero_add]
  refine ⟨fun p => ?_, fun p hp => ?_, fun p => ?_⟩
  · rw [Script.walk_prod, hcost]
    rfl
  · obtain ⟨calls, hwalk, -, hcalls⟩ := s.walk_counter p.record
    have hrun := Pose.record_interpret hp s
    rw [hwalk, hcalls (by rw [hrun]; rfl), hrun, hcost]
  · obtain ⟨calls, hwalk, hle, hcalls⟩ := s.walk_counter p
    rw [hcost] at hle hcalls
    exact ⟨calls, hwalk, hle, fun r hr => hcalls (by rw [hr]; rfl)⟩

/-- A dance of two and a half rounds: a step and two turns in each. -/
def danceForms : List Value :=
  [.object [("type", .str "repeat"), ("id", .str "dance"), ("params", .object [("times", .float 2.5)]),
    ("children", .list
      [.object [("type", .str "move"), ("id", .str "step"), ("params", .object [("steps", .int 1)])],
        .object [("type", .str "repeat"), ("id", .str "twice"),
          ("params", .object [("times", .int 2)]), ("children", .list
            [.object [("type", .str "turn"), ("id", .str "spin"),
              ("params", .object [("degrees", .float 0.5)])]])]])]]

/-- The script that it is read as. -/
def dance : Script :=
  [.loop "dance" (.int 3) [.move "step" (.int 1), .loop "twice" (.int 2) [.turn "spin" (.float 0.5)]]]

/-- The law of evaluations at the dance. -/
theorem Script.evaluation_of_dance :
    Script.parse danceForms {} = .ok (dance, {}) ∧
    dance.walk (performer.prod Visitor.evaluations) (Pose.rest, 0) = (interpret Pose.rest dance, 13) ∧
    dance.walk PoseRecord.counter (.ok Pose.rest.record, 0) =
      (.ok (interpret Pose.rest dance).record, 13) := by
  have hparse : Script.parse danceForms {} = .ok (dance, {}) := rfl
  have hcost : dance.cost = 13 := rfl
  obtain ⟨hpose, hrecord, -⟩ := Script.evaluation_law hparse
  exact ⟨hparse, hcost ▸ hpose Pose.rest, hcost ▸ hrecord Pose.rest (by decide)⟩

end SpriteStage
