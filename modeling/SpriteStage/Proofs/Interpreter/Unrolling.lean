import SpriteStage.Interpreter.Record
import SpriteStage.Proofs.Double.Ceiling
import SpriteStage.Proofs.Interpreter.Walk

/-!
# Unrolled scripts

A script does what a flat list of blocks does, in which each loop is replaced by copies of its
unrolled body. The number of copies is the count of the loop, taken exactly, rounded up and bounded.
Only the actions of the blocks in that list matter, so identifiers do not.
-/

namespace SpriteStage

variable {σ : Type}

/-! ### The flat list -/

/-- The number that a value stands for, taken exactly. What has no finite reading as a double stands
for zero. -/
def Value.amount : Value → Rat
  | .int n => if (Double.ofInt? n).isSome then n else 0
  | .bool b => if b then 1 else 0
  | .float x => (Double.rational? x).getD 0
  | .str s => ((Double.readFloat? s).bind Double.rational?).getD 0
  | .null | .torn _ | .list _ | .object _ => 0

/-- The number of copies that a loop with a given count is replaced by. -/
def Value.copies (times : Value) : Nat := min maxRounds (max 0 times.amount).ceil.toNat

mutual

/-- The blocks that are not loops in one evaluation of a block. -/
def Block.unroll : Block → Script
  | .loop _ times body => (List.replicate times.copies (Script.unroll body)).flatten
  | b => [b]

/-- The blocks that are not loops in one pass over a script. -/
def Script.unroll : Script → Script
  | [] => []
  | b :: rest => Block.unroll b ++ Script.unroll rest

end

/-- The actions of those blocks. -/
def Block.actions (b : Block) : List Action := b.unroll.map Block.action

/-- The actions of those blocks. -/
def Script.actions (s : Script) : List Action := s.unroll.map Block.action

theorem Script.actions_cons (b : Block) (s : Script) :
    actions (b :: s) = b.actions ++ s.actions := by
  rw [actions, unroll, List.map_append]
  rfl

theorem Script.actions_append (s t : Script) : actions (s ++ t) = s.actions ++ t.actions := by
  induction s with
  | nil => rfl
  | cons b s ih => rw [List.cons_append, actions_cons, ih, actions_cons, List.append_assoc]

theorem Block.actions_loop (id : String) (times : Value) (body : Script) :
    (loop id times body).actions = (List.replicate times.copies body.actions).flatten := by
  rw [actions, unroll, List.map_flatten, List.map_replicate]
  rfl

mutual

theorem Block.loopless_unroll : (b : Block) → ∀ c ∈ b.unroll, c.kind? ≠ some .loop
  | .loop _ _ body, c, hc => by
    rw [Block.unroll] at hc
    obtain ⟨copy, hcopy, hc⟩ := List.mem_flatten.1 hc
    rw [List.eq_of_mem_replicate hcopy] at hc
    exact Script.loopless_unroll body c hc
  | .move .., _, hc | .turn .., _, hc | .goto .., _, hc | .bubble .., _, hc | .unknown, _, hc => by
    cases List.mem_singleton.1 hc
    exact nofun

theorem Script.loopless_unroll : (s : Script) → ∀ c ∈ s.unroll, c.kind? ≠ some .loop
  | [], _, hc => nomatch hc
  | b :: rest, c, hc => by
    rw [Script.unroll] at hc
    rcases List.mem_append.1 hc with hc | hc
    · exact Block.loopless_unroll b c hc
    · exact Script.loopless_unroll rest c hc

end

/-! ### Readings -/

theorem Value.finite_int {n : Int} {x : Float} (h : Double.ofInt? n = some x) :
    (Value.int n).finite = x := by
  rw [finite, toFloat, Number.toFloat, h]
  change Double.finite x = x
  rw [Double.finite, if_pos ((Double.ofInt?_eq_some.1 h).2 ▸ (Double.ofInt?_eq_some.1 h).1)]

/-- The reading of a value is the number that it stands for, but for whole numbers, which are
rounded. -/
theorem Value.rational?_finite (v : Value) :
    Double.rational? v.finite = some v.amount ∨ ∃ n x, v = .int n ∧ Double.ofInt? n = some x := by
  have readable {x : Float} (hx : v.toFloat = .ok x) :
      Double.rational? v.finite = some ((Double.rational? x).getD 0) := by
    rw [finite, hx]
    exact Double.rational?_finite x
  have unreadable {e : ReadingError} (he : v.toFloat = .error e) :
      Double.rational? v.finite = some 0 := by
    rw [finite, he]
    change Double.rational? 0.0 = _
    decide
  cases v with
  | int n =>
    cases hn : Double.ofInt? n with
    | none =>
      rw [amount, hn]
      exact .inl (unreadable (by rw [toFloat, Number.toFloat, hn]))
    | some x => exact .inr ⟨n, x, rfl, hn⟩
  | bool b =>
    rw [readable rfl]
    cases b <;> exact .inl (by decide)
  | float x => exact .inl (readable rfl)
  | str s =>
    rw [amount]
    cases hs : Double.readFloat? s with
    | none => exact .inl (unreadable (by rw [toFloat, hs]))
    | some x => exact .inl (readable (by rw [toFloat, hs]))
  | null | torn | list | object => exact .inl (unreadable rfl)

theorem Value.amount_int {n : Int} {x : Float} (h : Double.ofInt? n = some x) :
    (Value.int n).amount = n := by
  rw [amount, h]
  rfl

/-! ### Rounds and copies -/

theorem repeatCount_eq_copies (times : Value) : repeatCount times = times.copies := by
  rw [repeatCount, Value.nonNegative, Value.copies]
  rcases times.rational?_finite with h | ⟨n, x, rfl, hx⟩
  · rw [Double.ceil?_atLeastZero h, Option.getD_some]
  · -- the count is rounded to a double only here, which makes no difference below the bound
    obtain ⟨q, hq⟩ := Double.exists_rational? ((Double.ofInt?_eq_some.1 hx).2 ▸
      (Double.ofInt?_eq_some.1 hx).1)
    rw [Value.finite_int hx, Double.ceil?_atLeastZero hq, Option.getD_some, Value.amount_int hx]
    exact Double.min_ceil_of_ofInt? (by decide) hx hq

/-! ### Walks of unrolled scripts -/

/-- A visitor that does nothing when it meets a loop or starts a round. -/
structure Visitor.PassesLoops (v : Visitor σ) : Prop where
  loop : ∀ id times body s, v.block (.loop id times body) s = s
  round : ∀ s, v.round s = s

theorem repeat_foldl {α : Type} (f : σ → α → σ) (l : List α) (n : Nat) (s : σ) :
    Nat.repeat (fun s => l.foldl f s) n s = (List.replicate n l).flatten.foldl f s := by
  induction n with
  | zero => rfl
  | succ n ih =>
    rw [Nat.repeat, ih, List.replicate_succ', List.flatten_append, List.foldl_append,
      List.flatten_singleton]

mutual

theorem Block.walk_unroll {v : Visitor σ} (hv : v.PassesLoops) : (b : Block) → (s : σ) →
    b.walk v s = b.unroll.foldl (fun s b => v.block b s) s
  | .loop id times body, s => by
    have hbody : (fun s => Script.walk v body (v.round s)) =
        fun s => (Script.unroll body).foldl (fun s b => v.block b s) s := by
      funext s
      rw [hv.round, Script.walk_unroll hv body]
    rw [Block.walk, Block.unroll, hv.loop, hbody, repeat_foldl, repeatCount_eq_copies]
  | .move .., _ | .turn .., _ | .goto .., _ | .bubble .., _ | .unknown, _ => rfl

/-- If nothing is done for loops themselves, a walk visits the blocks of the flat list in order. -/
theorem Script.walk_unroll {v : Visitor σ} (hv : v.PassesLoops) : (script : Script) → (s : σ) →
    script.walk v s = script.unroll.foldl (fun s b => v.block b s) s
  | [], _ => rfl
  | b :: rest, s => by
    rw [Script.walk, Script.unroll, List.foldl_append, Block.walk_unroll hv b,
      Script.walk_unroll hv rest]

end

theorem performer_passesLoops : performer.PassesLoops := ⟨fun _ _ _ _ => rfl, fun _ => rfl⟩

theorem PoseRecord.performer_passesLoops : performer.PassesLoops :=
  ⟨fun _ _ _ r => by cases r <;> rfl, fun _ => rfl⟩

theorem interpret_eq_foldl (p : Pose) (s : Script) :
    interpret p s = s.actions.foldl Pose.act p := by
  rw [interpret, Script.walk_unroll performer_passesLoops, Script.actions, List.foldl_map]
  rfl

theorem Except.ok_bind {ε α β : Type} (a : α) (f : α → Except ε β) :
    (Except.ok a >>= f) = f a := rfl

theorem Except.foldl_bind_eq_foldlM {ε α β : Type} (f : β → α → Except ε β) (l : List α)
    (r : Except ε β) : l.foldl (fun r a => r.bind fun p => f p a) r = r.bind (l.foldlM f) := by
  induction l generalizing r with
  | nil => cases r <;> rfl
  | cons a l ih =>
    rw [List.foldl_cons, ih]
    cases r <;> rfl

theorem PoseRecord.interpret_eq_foldlM (p : PoseRecord) (s : Script) :
    p.interpret s = s.actions.foldlM PoseRecord.act p := by
  rw [interpret, Script.walk_unroll performer_passesLoops, Script.actions, List.foldlM_map]
  exact Except.foldl_bind_eq_foldlM _ _ _

/-! ### Identifiers -/

mutual

/-- A block without its identifiers, at all depths. -/
def Block.anonymous : Block → Block
  | .move _ steps => .move "" steps
  | .turn _ degrees => .turn "" degrees
  | .goto _ x y => .goto "" x y
  | .bubble _ b text seconds => .bubble "" b text seconds
  | .loop _ times body => .loop "" times (Script.anonymous body)
  | .unknown => .unknown

/-- A script without the identifiers of its blocks, at all depths. Scripts that differ in nothing
else are equal without them. -/
def Script.anonymous : Script → Script
  | [] => []
  | b :: rest => Block.anonymous b :: Script.anonymous rest

end

mutual

theorem Block.actions_anonymous : (b : Block) → b.anonymous.actions = b.actions
  | .loop _ times body => by
    rw [Block.anonymous, Block.actions_loop, Block.actions_loop, Script.actions_anonymous body]
  | .move .. | .turn .. | .goto .. | .bubble .. | .unknown => rfl

theorem Script.actions_anonymous : (s : Script) → s.anonymous.actions = s.actions
  | [] => rfl
  | b :: rest => by
    rw [Script.anonymous, Script.actions_cons, Script.actions_cons, Block.actions_anonymous b,
      Script.actions_anonymous rest]

end

theorem interpret_congr {s t : Script} (h : s.actions = t.actions) :
    (∀ p : Pose, interpret p s = interpret p t) ∧
      ∀ p : PoseRecord, p.interpret s = p.interpret t := by
  constructor
  · intro p
    rw [interpret_eq_foldl, interpret_eq_foldl, h]
  · intro p
    rw [PoseRecord.interpret_eq_foldlM, PoseRecord.interpret_eq_foldlM, h]

/-- The law of unrolling, for every script. It does to every pose, and to every record of a pose,
what the blocks of its flat list do one after another, none of which is a loop; a record stops both
at the same block for the same reason. A script that differs from it only in identifiers does the
same. -/
theorem Script.unrolling_law (s : Script) :
    (∀ b ∈ s.unroll, b.kind? ≠ some .loop) ∧
    (∀ p : Pose, interpret p s = s.unroll.foldl (fun p b => p.act b.action) p) ∧
    (∀ p : PoseRecord, p.interpret s = s.unroll.foldlM (fun p b => p.act b.action) p) ∧
    ∀ t : Script, t.anonymous = s.anonymous →
      (∀ p : Pose, interpret p t = interpret p s) ∧
      ∀ p : PoseRecord, p.interpret t = p.interpret s := by
  refine ⟨Script.loopless_unroll s, fun p => ?_, fun p => ?_, fun t h => interpret_congr ?_⟩
  · rw [interpret_eq_foldl, Script.actions, List.foldl_map]
  · rw [PoseRecord.interpret_eq_foldlM, Script.actions, List.foldlM_map]
  · rw [← Script.actions_anonymous, h, Script.actions_anonymous]

/-- Half a round is a round, and less than no rounds are none. -/
example : Script.unroll [.loop "often" (.float 1.5) [.turn "left" (.int (-90)),
    .loop "never" (.int (-3)) [.unknown]], .goto "home" (.int 0) (.int 0)] =
      [.turn "left" (.int (-90)), .turn "left" (.int (-90)), .goto "home" (.int 0) (.int 0)] := by
  rfl

end SpriteStage
