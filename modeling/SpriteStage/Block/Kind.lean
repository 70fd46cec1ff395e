import SpriteStage.Value

/-!
# Kinds of blocks

The six kinds of instruction, the three categories they belong to, and the catalog that tells an
editor which parameters a kind takes and with which values a new block of it starts.
-/

namespace SpriteStage

/-- What a block is about. Collisions exchange the motion blocks of two sprites and leave the others
in place. -/
inductive Category where
  | motion
  | looks
  | control
  deriving Repr, DecidableEq

namespace Category

def name : Category → String
  | motion => "motion"
  | looks => "looks"
  | control => "control"

def all : List Category := [motion, looks, control]

end Category

/-- A bubble over a sprite holds speech or thought. -/
inductive Bubble where
  | say
  | think
  deriving Repr, DecidableEq

/-- The kinds of instruction. -/
inductive Kind where
  | move
  | turn
  | goto
  | bubble (b : Bubble)
  | loop
  deriving Repr, DecidableEq

/-- The sort of value that a parameter takes. -/
inductive ParamSort where
  | number
  | text
  | count
  deriving Repr, DecidableEq

def ParamSort.name : ParamSort → String
  | number => "number"
  | text => "string"
  | count => "integer"

def Bubble.name : Bubble → String
  | say => "say"
  | think => "think"

namespace Kind

def name : Kind → String
  | move => "move"
  | turn => "turn"
  | goto => "goto"
  | bubble b => b.name
  | loop => "repeat"

def all : List Kind := [move, turn, goto, bubble .say, bubble .think, loop]

def ofName? (s : String) : Option Kind := all.find? fun k => k.name == s

def category : Kind → Category
  | move | turn | goto => .motion
  | bubble _ => .looks
  | loop => .control

def params : Kind → List (String × ParamSort)
  | move => [("steps", .number)]
  | turn => [("degrees", .number)]
  | goto => [("x", .number), ("y", .number)]
  | bubble _ => [("text", .text), ("seconds", .number)]
  | loop => [("times", .count)]

def template : Kind → List (String × Value)
  | move => [("steps", .int 10)]
  | turn => [("degrees", .int 15)]
  | goto => [("x", .int 0), ("y", .int 0)]
  | bubble .say => [("text", .str "Hello!"), ("seconds", .int 2)]
  | bubble .think => [("text", .str "Hmm..."), ("seconds", .int 2)]
  | loop => [("times", .int 10)]

def entry (k : Kind) : Value :=
  .object
    [("type", .str k.name), ("category", .str k.category.name),
      ("params", .list (k.params.map fun (name, sort) =>
        .object [("name", .str name), ("kind", .str sort.name)])),
      ("has_children", .bool (k == loop)), ("template", .object k.template)]

def catalog : List Value := all.map entry

theorem ofName?_name (k : Kind) : ofName? k.name = some k := by
  cases k with
  | bubble b => cases b <;> decide
  | _ => decide

theorem template_keys (k : Kind) : k.template.map Prod.fst = k.params.map Prod.fst := by
  cases k with
  | bubble b => cases b <;> rfl
  | _ => rfl

end Kind

end SpriteStage
