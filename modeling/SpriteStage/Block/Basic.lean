import SpriteStage.Block.Kind

/-!
# Blocks and scripts

A script is a list of blocks, and a loop holds a script of its own. Parameters are kept as they were
written. A script may also hold an object that is no block at all; it does nothing.
-/

namespace SpriteStage

/-- An instruction with its identifier and parameters. -/
inductive Block where
  | move (id : String) (steps : Value)
  | turn (id : String) (degrees : Value)
  | goto (id : String) (x y : Value)
  | bubble (id : String) (b : Bubble) (text seconds : Value)
  | loop (id : String) (times : Value) (body : List Block)
  | unknown
  deriving Inhabited

/-- Blocks in the order in which they run. -/
abbrev Script := List Block

namespace Block

def kind? : Block → Option Kind
  | move .. => some .move
  | turn .. => some .turn
  | goto .. => some .goto
  | bubble _ b .. => some (.bubble b)
  | loop .. => some .loop
  | unknown => none

def id? : Block → Option String
  | move id _ | turn id _ | goto id .. | bubble id .. | loop id .. => some id
  | unknown => none

/-- The parameters of a block, named as in the catalog. -/
def params : Block → List (String × Value)
  | move _ steps => [("steps", steps)]
  | turn _ degrees => [("degrees", degrees)]
  | goto _ x y => [("x", x), ("y", y)]
  | bubble _ _ text seconds => [("text", text), ("seconds", seconds)]
  | loop _ times _ => [("times", times)]
  | unknown => []

/-- Whether a block moves its sprite. A loop is control, whatever it holds. -/
def isMotion (b : Block) : Bool := b.kind?.any fun k => k.category == .motion

end Block

end SpriteStage
