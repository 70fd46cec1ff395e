import SpriteStage.Proofs.Block.Parsing
import SpriteStage.Proofs.Interpreter.Walk

/-!
# Counting the work of a tick

Two visitors count the evaluations of blocks and the rounds of loops during a walk. Together with
the visitor that carries out actions they count what happens while a script is carried out. A
checked script evaluates as many blocks as it costs. The rounds of its loops are fewer, as long as
each round evaluates something; rounds of an empty body cost nothing.
-/

namespace SpriteStage

namespace Visitor

def evaluations : Visitor Nat := ⟨fun _ n => n + 1, id⟩

def rounds : Visitor Nat := ⟨fun _ n => n, fun n => n + 1⟩

end Visitor

mutual

/-- The rounds of loops in one evaluation of a block, at all depths. -/
def Block.roundCount : Block → Nat
  | .loop _ times body => repeatCount times * (1 + Script.roundCount body)
  | _ => 0

/-- The rounds of loops in one pass over a script, at all depths. -/
def Script.roundCount : Script → Nat
  | [] => 0
  | b :: rest => Block.roundCount b + Script.roundCount rest

end

mutual

/-- Whether no loop in a block has an empty body, at any depth. -/
def Block.isBusy : Block → Bool
  | .loop _ _ body => !body.isEmpty && Script.isBusy body
  | _ => true

/-- Whether no loop in a script has an empty body, at any depth. -/
def Script.isBusy : Script → Bool
  | [] => true
  | b :: rest => Block.isBusy b && Script.isBusy rest

end

/-! ### The counts -/

/-- A checked number of rounds is the number of rounds that a loop runs. -/
theorem repeatCount_natCast {n : Nat} (hn : n ≤ maxRounds) : repeatCount (.int n) = n := by
  have hsmall : n < 2 ^ 53 := Nat.lt_of_le_of_lt hn (by decide)
  rcases Nat.eq_zero_or_pos n with rfl | hpos
  · decide
  have hread : Value.nonNegative (.int n) = Double.nearest (n : Int) := by
    simp only [Value.nonNegative, Value.finite, Value.toFloat, Number.toFloat,
      Double.ofInt?_natCast hsmall, Double.finite, Double.isFinite_nearest hsmall, if_true,
      Double.atLeastZero]
    exact if_pos (Double.nearest_pos hpos hsmall)
  rw [repeatCount, hread, Double.ceil?, Double.rational?_nearest hsmall, Option.map_some,
    Option.getD_some, Rat.ceil_intCast]
  omega

theorem repeat_add {f : Nat → Nat} {c : Nat} (hf : ∀ m, f m = m + c) (n m : Nat) :
    Nat.repeat f n m = m + n * c := by
  induction n with
  | zero => rw [Nat.repeat, Nat.zero_mul, Nat.add_zero]
  | succ n ih => rw [Nat.repeat, ih, hf, Nat.succ_mul, Nat.add_assoc]

mutual

theorem Block.walk_evaluations : (b : Block) → b.Checked → ∀ m,
    b.walk Visitor.evaluations m = m + b.cost
  | .loop id _ body, ⟨_, ⟨n, rfl, hn⟩, hbody, _⟩, m => by
    rw [Block.walk, repeatCount_natCast hn, repeat_add (c := Script.cost body)]
    · rw [Block.cost, ← Nat.add_assoc]
      rfl
    · exact Script.walk_evaluations body hbody
  | .move .., _, _ | .turn .., _, _ | .goto .., _, _ | .bubble .., _, _ => rfl

theorem Script.walk_evaluations : (s : Script) → s.Checked → ∀ m,
    s.walk Visitor.evaluations m = m + s.cost
  | [], _, _ => rfl
  | b :: rest, ⟨hb, hrest⟩, m => by
    rw [Script.walk, Block.walk_evaluations b hb, Script.walk_evaluations rest hrest, Script.cost,
      Nat.add_assoc]

end

mutual

theorem Block.walk_rounds : (b : Block) → (m : Nat) →
    b.walk Visitor.rounds m = m + b.roundCount
  | .loop id times body, m => by
    rw [Block.walk, repeat_add (c := 1 + Script.roundCount body)]
    · rfl
    · intro m
      rw [Script.walk_rounds body, ← Nat.add_assoc]
      rfl
  | .move .., _ | .turn .., _ | .goto .., _ | .bubble .., _ | .unknown, _ => rfl

theorem Script.walk_rounds : (s : Script) → (m : Nat) →
    s.walk Visitor.rounds m = m + s.roundCount
  | [], _ => rfl
  | b :: rest, m => by
    rw [Script.walk, Block.walk_rounds b, Script.walk_rounds rest, Script.roundCount, Nat.add_assoc]

end

/-! ### How many rounds there are -/

mutual

/-- A round is the price of no more than the largest number of rounds. -/
theorem Block.roundCount_le : (b : Block) → b.Checked → b.roundCount ≤ maxRounds * b.cost
  | .loop id _ body, ⟨_, ⟨n, rfl, hn⟩, hbody, _⟩ => by
    have hle := Script.roundCount_le body hbody
    rw [Block.roundCount, Block.cost, repeatCount_natCast hn]
    calc n * (1 + Script.roundCount body)
        ≤ n * (1 + maxRounds * Script.cost body) := Nat.mul_le_mul_left n (by omega)
      _ = n + maxRounds * (n * Script.cost body) := by
          rw [Nat.mul_add, Nat.mul_one, Nat.mul_left_comm]
      _ ≤ maxRounds * (1 + n * Script.cost body) := by
          rw [Nat.mul_add, Nat.mul_one]
          exact Nat.add_le_add_right hn _
  | .move .., _ | .turn .., _ | .goto .., _ | .bubble .., _ => Nat.zero_le _

theorem Script.roundCount_le : (s : Script) → s.Checked → s.roundCount ≤ maxRounds * s.cost
  | [], _ => Nat.zero_le _
  | b :: rest, ⟨hb, hrest⟩ => by
    rw [Script.roundCount, Script.cost, Nat.mul_add]
    exact Nat.add_le_add (Block.roundCount_le b hb) (Script.roundCount_le rest hrest)

end

mutual

/-- Without empty bodies every round evaluates a block, on top of the blocks of the script. -/
theorem Block.roundCount_lt : (b : Block) → b.Checked → b.isBusy = true → b.roundCount < b.cost
  | .loop id _ body, ⟨_, ⟨n, rfl, hn⟩, hbody, _⟩, busy => by
    rw [Block.isBusy, Bool.and_eq_true] at busy
    have hle := Script.roundCount_add_length_le body hbody busy.2
    have hpos : 0 < body.length := by
      rw [List.length_pos_iff, ← List.isEmpty_eq_false_iff]
      simpa using busy.1
    rw [Block.roundCount, Block.cost, repeatCount_natCast hn]
    change n * _ < 1 + n * _
    have := Nat.mul_le_mul_left n (show 1 + Script.roundCount body ≤ Script.cost body by omega)
    omega
  | .move .., _, _ | .turn .., _, _ | .goto .., _, _ | .bubble .., _, _ => Nat.one_pos

theorem Script.roundCount_add_length_le : (s : Script) → s.Checked → s.isBusy = true →
    s.roundCount + s.length ≤ s.cost
  | [], _, _ => Nat.zero_le _
  | b :: rest, ⟨hb, hrest⟩, busy => by
    rw [Script.isBusy, Bool.and_eq_true] at busy
    have := Block.roundCount_lt b hb busy.1
    have := Script.roundCount_add_length_le rest hrest busy.2
    rw [Script.roundCount, Script.cost, List.length_cons]
    omega

end

/-- The work of a tick, for every script that the reader gives out and every pose. Carrying out the
script evaluates no more blocks than the budget. No more rounds are run than blocks are evaluated,
if no loop has an empty body; in any case there are no more rounds than the budget times the largest
number of rounds of a loop. -/
theorem work_law {raw : List Value} {ids ids' : Ids} {s : Script}
    (h : Script.parse raw ids = .ok (s, ids')) (p : Pose) :
    ∃ evaluations rounds,
      s.walk (performer.prod (Visitor.evaluations.prod Visitor.rounds)) (p, 0, 0)
        = (interpret p s, evaluations, rounds) ∧
      evaluations ≤ maxCost ∧ rounds ≤ maxCost * maxRounds ∧
      (s.isBusy = true → rounds + s.length ≤ evaluations) := by
  obtain ⟨hs, hcost⟩ := Script.parse_checked h
  refine ⟨s.cost, s.roundCount, ?_, hcost, ?_, Script.roundCount_add_length_le s hs⟩
  · rw [Script.walk_prod, Script.walk_prod, Script.walk_evaluations s hs, Script.walk_rounds,
      Nat.zero_add, Nat.zero_add]
    rfl
  · have := Nat.mul_le_mul_left maxRounds hcost
    have := Script.roundCount_le s hs
    rw [Nat.mul_comm]
    omega

def strollForms : List Value :=
  [.object
    [("id", .str "stroll"), ("type", .str "repeat"), ("category", .str "control"),
      ("params", .object [("times", .int 10000)]),
      ("children", .list [.object
        [("id", .str "step"), ("type", .str "move"), ("category", .str "motion"),
          ("params", .object [("steps", .int 1)])]])]]

/-- The law of work at a script with a loop that moves. -/
theorem work_of_stroll : ∃ s, Script.parse strollForms {} = .ok (s, {}) ∧
    ∃ evaluations rounds,
      s.walk (performer.prod (Visitor.evaluations.prod Visitor.rounds)) (Pose.rest, 0, 0)
        = (interpret Pose.rest s, evaluations, rounds) ∧
      evaluations ≤ maxCost ∧ rounds + s.length ≤ evaluations := by
  have hchecked : Script.Checked
      [.loop "stroll" (.int 10000) [.move "step" (.int 1)]] :=
    ⟨⟨by decide, ⟨_, rfl, by decide⟩,
      ⟨⟨by decide, _, rfl, Number.isFinite_natCast (n := 1) (by decide)⟩,
        trivial⟩, by decide⟩, trivial⟩
  have hparse : Script.parse strollForms {} = .ok (_, {}) :=
    Script.parse_of_forms hchecked (by decide) rfl {}
  obtain ⟨evaluations, rounds, hwalk, hevaluations, -, hrounds⟩ := work_law hparse Pose.rest
  exact ⟨_, hparse, evaluations, rounds, hwalk, hevaluations, hrounds (by decide)⟩

def idleScript : Script := List.replicate 11 (.loop "idle" (.int 10000) [])

/-- The written form of that script. -/
def idleForms : List Value :=
  List.replicate 11 (.object
    [("id", .str "idle"), ("type", .str "repeat"), ("category", .str "control"),
      ("params", .object [("times", .int 10000)]), ("children", .list [])])

/-- A script that is accepted at a cost of eleven evaluations runs more rounds than the budget. -/
theorem idleScript_rounds : Script.parse idleForms {} = .ok (idleScript, {}) ∧
    (idleScript.walk (performer.prod Visitor.rounds) (Pose.rest, 0)).2 = 110000 ∧
    ¬110000 ≤ maxCost := by
  have hloop : Block.Checked (.loop "idle" (.int 10000) []) :=
    ⟨by decide, ⟨_, rfl, by decide⟩, trivial, by decide⟩
  have hchecked : idleScript.Checked :=
    Script.checked_iff_forall.2 fun b hb => List.eq_of_mem_replicate hb ▸ hloop
  refine ⟨Script.parse_of_forms hchecked (by decide) rfl {}, ?_, by decide⟩
  rw [Script.walk_prod, Script.walk_rounds]
  decide

end SpriteStage
