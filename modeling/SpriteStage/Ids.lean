import SpriteStage.Text.Quoted

/-!
# Identifiers

Blocks and sprites without an identifier of their own get a numbered one. The two counters are all
that is remembered of the numbers given out.
-/

namespace SpriteStage

/-- How many identifiers of each sort were given out. -/
structure Ids where
  blocks : Nat := 0
  sprites : Nat := 0
  deriving Repr, DecidableEq

namespace Ids

/-- The identifier with a number: twelve hexadecimal digits after a name. -/
def label (name : String) (n : Nat) : String := name ++ "-" ++ String.ofList (Text.hex 12 n)

def block (ids : Ids) : String × Ids :=
  (label "block" (ids.blocks + 1), { ids with blocks := ids.blocks + 1 })

def sprite (ids : Ids) : String × Ids :=
  (label "sprite" (ids.sprites + 1), { ids with sprites := ids.sprites + 1 })

end Ids

end SpriteStage
