import SpriteStage.Block.Basic

/-!
# The written form of blocks

Blocks are sent to clients as objects. Only what is a block has a form, so a script with an unknown
object in it, at any depth, has none.
-/

namespace SpriteStage

/-- The fields that describe a block of a kind, without those of its children. -/
def Kind.describe (k : Kind) (id : String) (params : List (String × Value)) :
    List (String × Value) :=
  [("id", .str id), ("type", .str k.name), ("category", .str k.category.name),
    ("params", .object params)]

mutual

/-- The object that describes a block; a loop carries its children with it. -/
def Block.form? : Block → Option Value
  | .move id steps => some (.object (Kind.describe .move id [("steps", steps)]))
  | .turn id degrees => some (.object (Kind.describe .turn id [("degrees", degrees)]))
  | .goto id x y => some (.object (Kind.describe .goto id [("x", x), ("y", y)]))
  | .bubble id b text seconds =>
    some (.object (Kind.describe (.bubble b) id [("text", text), ("seconds", seconds)]))
  | .loop id times body => do
    let children ← Script.forms? body
    return .object (Kind.describe .loop id [("times", times)] ++ [("children", .list children)])
  | .unknown => none

def Script.forms? : Script → Option (List Value)
  | [] => some []
  | b :: rest => do
    let form ← Block.form? b
    let forms ← Script.forms? rest
    return form :: forms

end

end SpriteStage
