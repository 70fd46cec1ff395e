import SpriteStage.Proofs.Block.Canonical
import SpriteStage.Proofs.Interpreter.Records

/-!
# Checked and unchecked scripts

The reader rounds up the count of a loop, and the interpreter rounds up whatever count it finds.
`Script.asGiven` builds a script from what was written without the reader, with the counts as they
were given. It does what the script does that the reader gives out.
-/

namespace SpriteStage

/-- The block of a kind with the parameters that are given. -/
def Kind.build (k : Kind) (id : String) (given : Value) (body : Script) : Block :=
  match k with
  | .move => .move id (given.field "steps")
  | .turn => .turn id (given.field "degrees")
  | .goto => .goto id (given.field "x") (given.field "y")
  | .bubble b => .bubble id b (given.field "text") (given.field "seconds")
  | .loop => .loop id (given.field "times") body

mutual

/-- The block that a value tells, with its parameters as they are given. -/
def Block.asGiven : Value → Block
  | .object fields =>
    let v := Value.object fields
    match (v.field "type").trimmed?.bind Kind.ofName? with
    | some k => k.build ((v.field "id").trimmed?.getD "") (v.field "params")
      (Script.childrenAsGiven fields)
    | none => .unknown
  | _ => .unknown

/-- The script that the children among the fields of a loop tell. -/
def Script.childrenAsGiven : List (String × Value) → Script
  | [] => []
  | (name, v) :: rest =>
    if "children" == name then
      match v with
      | .list items => Script.asGiven items
      | _ => []
    else Script.childrenAsGiven rest

/-- The script that the members of a list tell. -/
def Script.asGiven : List Value → Script
  | [] => []
  | v :: rest => Block.asGiven v :: Script.asGiven rest

end

/-! ### Counts -/

theorem ceil_max_zero (q : Rat) : (max 0 q).ceil = max 0 q.ceil := by
  rcases le_total 0 q with h | h
  · have hceil : 0 ≤ q.ceil := by
      have : ((0 : Int) : Rat) ≤ q.ceil := le_trans (by exact_mod_cast h) Rat.le_ceil
      exact_mod_cast this
    rw [max_eq_right h, max_eq_right hceil]
  · have hceil : q.ceil ≤ 0 := Rat.ceil_le_iff.2 (by exact_mod_cast h)
    rw [max_eq_left h, max_eq_left hceil]
    rfl

theorem Number.Denotes.amount {n : Number} {q : Rat} (h : n.Denotes q) (hfinite : n.IsFinite) :
    n.toValue.amount = q := by
  cases n with
  | int m =>
    obtain rfl : q = m := h
    obtain ⟨x, hx, -⟩ := hfinite
    rw [Number.toValue, Value.amount, if_pos]
    rw [Number.toFloat] at hx
    cases hm : Double.ofInt? m with
    | none => rw [hm] at hx; cases hx
    | some x => rfl
  | float x =>
    have hx : Double.rational? x = some q := h
    rw [Number.toValue, Value.amount, hx, Option.getD_some]

theorem Value.AsksRounds.copies {v : Value} {rounds : Nat} (h : v.AsksRounds rounds) :
    v.copies = rounds := by
  have hle := h.le
  obtain ⟨n, q, rfl, hfinite, hq, -, hrounds⟩ := h
  rw [Value.copies, hq.amount hfinite, ceil_max_zero]
  omega

theorem Value.copies_natCast {n : Nat} (hn : n ≤ maxRounds) : Value.copies (.int n) = n := by
  have hfinite := Number.isFinite_natCast (Nat.lt_of_le_of_lt hn (by decide : maxRounds < 2 ^ 53))
  have hceil : (n : Int) = max 0 ((n : Int) : Rat).ceil := by
    rw [Rat.ceil_intCast]
    omega
  exact Value.AsksRounds.copies ⟨.int n, (n : Int), rfl, hfinite, rfl, by exact_mod_cast hn, hceil⟩

/-! ### Actions -/

/-- A block that is no loop acts as the one with the parameters that are given. -/
theorem Value.Outlines.actions_build {v : Value} {k : Kind} {b : Block} (h : v.Outlines k b)
    (hk : k ≠ .loop) (id : String) (body : Script) :
    (k.build id (v.field "params") body).actions = b.actions := by
  have hparams := h.canonicalParams
  have hkind := h.kind
  cases b with
  | loop => exact absurd (Option.some.inj hkind).symm hk
  | unknown => cases hkind
  | _ =>
    cases hkind
    simp only [Kind.canonicalParams, Kind.params, ParamSort.canonical, Block.params, List.map_cons,
      List.map_nil, List.cons.injEq, Prod.mk.injEq, true_and, and_true] at hparams
    simp only [Kind.build, hparams]
    rfl

theorem Script.childrenAsGiven_eq {items : List Value} : (fields : List (String × Value)) →
    (Value.object fields).Lists items → Script.childrenAsGiven fields = Script.asGiven items
  | [], hitems => by
    obtain ⟨-, rfl⟩ | hlist := hitems
    · rfl
    · cases hlist
  | (name, v) :: rest, hitems => by
    unfold Script.childrenAsGiven
    rcases hitems.of_cons with ⟨hname, ⟨rfl, rfl⟩ | rfl⟩ | ⟨hname, hrest⟩
    · rw [if_pos hname]
      rfl
    · rw [if_pos hname]
    · rw [hname]
      exact Script.childrenAsGiven_eq rest hrest

theorem Value.Outlines.asGiven {fields : List (String × Value)} {k : Kind} {b : Block}
    (h : (Value.object fields).Outlines k b) : Block.asGiven (.object fields) =
      k.build (((Value.object fields).field "id").trimmed?.getD "")
        ((Value.object fields).field "params")
        (Script.childrenAsGiven fields) := by
  rw [Block.asGiven, h.type, Option.bind_some, Kind.ofName?_name]

mutual

theorem Value.Describes.actions_asGiven {v : Value} {b : Block} :
    v.Describes b → (Block.asGiven v).actions = b.actions
  | .plain houtlines hk => by
    obtain ⟨fields, rfl⟩ := houtlines.object
    rw [houtlines.asGiven, houtlines.actions_build hk]
  | .loop houtlines hitems hbody _ => by
    obtain ⟨fields, rfl⟩ := houtlines.object
    obtain ⟨⟨-, given, hgiven, rounds, hasks, rfl⟩, -⟩ := List.forall₂_cons.1 houtlines.params
    rw [houtlines.asGiven, Kind.build, Value.field_of_field? hgiven,
      Script.childrenAsGiven_eq fields hitems, Block.actions_loop, Block.actions_loop,
      hbody.actions_asGiven, hasks.copies, Value.copies_natCast hasks.le]

theorem Value.DescribeAll.actions_asGiven {items : List Value} {s : Script} :
    Value.DescribeAll items s → (Script.asGiven items).actions = s.actions
  | .nil => rfl
  | .cons hb hs => by
    rw [Script.asGiven, Script.actions_cons, Script.actions_cons, hb.actions_asGiven,
      hs.actions_asGiven]

end

/-- The law of checking, for every list of values that the reader accepts. A script that is built
from the list without the reader, whatever identifiers its blocks have, does to every pose and to
every record of a pose what the script does that was read; only the reader rounds the counts up. The
number of rounds that the reader keeps for a count is the number that the interpreter runs for it,
and for the count as it was given. -/
theorem Script.validation_law {raw : List Value} {ids ids' : Ids} {s : Script}
    (h : Script.parse raw ids = .ok (s, ids')) :
    (∀ t : Script, t.anonymous = (Script.asGiven raw).anonymous →
      (∀ p : Pose, interpret p t = interpret p s) ∧
      ∀ p : PoseRecord, p.interpret t = p.interpret s) ∧
    ∀ params rounds, roundsParam params = .ok rounds →
      ∃ given, params.field? "times" = some given ∧
        repeatCount given = rounds ∧ repeatCount (.int rounds) = rounds := by
  refine ⟨fun t ht => interpret_congr ?_, fun params rounds hrounds => ?_⟩
  · rw [← Script.actions_anonymous t, ht, Script.actions_anonymous,
      (Script.describeAll_of_parse h).1.actions_asGiven]
  · obtain ⟨given, hgiven, hasks⟩ := roundsParam_eq_ok.1 hrounds
    refine ⟨given, hgiven, ?_, ?_⟩
    · rw [repeatCount_eq_copies, hasks.copies]
    · rw [repeatCount_eq_copies, Value.copies_natCast hasks.le]

/-- A loop of a bit more than two rounds around a step, a loop of less than no rounds and one of a
tiny part of a round. -/
def raggedForms : List Value :=
  [.object [("type", .str "repeat"), ("id", .str "outer"), ("params", .object [("times", .float 2.25)]),
    ("children", .list
      [.object [("type", .str "move"), ("id", .str "step"), ("params", .object [("steps", .int 4)])],
        .object [("type", .str "repeat"), ("id", .str "never"),
          ("params", .object [("times", .int (-(10 ^ 30)))]), ("children", .list
            [.object [("type", .str "turn"), ("id", .str "back"),
              ("params", .object [("degrees", .int 180)])]])],
        .object [("type", .str "repeat"), ("id", .str "once"),
          ("params", .object [("times", .float 1e-9)]), ("children", .list
            [.object [("type", .str "think"), ("id", .str "hm"),
              ("params", .object [("text", .str "Hm"), ("seconds", .float (-0.5))])]])]])]]

/-- The script that it is built as, with blocks named anew. -/
def ragged : Script :=
  [.loop "a" (.float 2.25) [.move "b" (.int 4), .loop "c" (.int (-(10 ^ 30))) [.turn "d" (.int 180)],
    .loop "e" (.float 1e-9) [.bubble "f" .think (.str "Hm") (.float (-0.5))]]]

/-- The script that it is read as. -/
def raggedChecked : Script :=
  [.loop "outer" (.int 3) [.move "step" (.int 4), .loop "never" (.int 0) [.turn "back" (.int 180)],
    .loop "once" (.int 1) [.bubble "hm" .think (.str "Hm") (.float (-0.5))]]]

/-- The law of checking at the ragged script. -/
theorem Script.validation_of_ragged :
    Script.parse raggedForms {} = .ok (raggedChecked, {}) ∧
    (∀ p : Pose, interpret p ragged = interpret p raggedChecked) ∧
    (∀ p : PoseRecord, p.interpret ragged = p.interpret raggedChecked) ∧
    ∃ given, (Value.object [("times", .float 2.25)]).field? "times" = some given ∧
      repeatCount given = 3 ∧ repeatCount (.int 3) = 3 := by
  have hparse : Script.parse raggedForms {} = .ok (raggedChecked, {}) := rfl
  have hrounds : roundsParam (.object [("times", .float 2.25)]) = .ok 3 := rfl
  obtain ⟨hbuilt, hcounts⟩ := Script.validation_law hparse
  obtain ⟨hpose, hrecord⟩ := hbuilt ragged rfl
  exact ⟨hparse, hpose, hrecord, hcounts _ _ hrounds⟩

end SpriteStage
