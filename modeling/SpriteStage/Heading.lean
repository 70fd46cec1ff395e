import SpriteStage.Double.Exact

/-!
# Headings

A heading is an angle in degrees from zero up to, and without, 360, clockwise from straight up;
negative zero is not used.
-/

namespace SpriteStage.Heading

def full : Float := 360.0

/-- The heading of a sprite at rest: to the right. -/
def rest : Float := 90.0

/-- Folds an angle into one turn; what is not finite counts as zero. A tiny negative angle would
round up to the full turn, and is zero. -/
def fold (angle : Float) : Float :=
  let rest := Double.remainder (Double.finite angle) full
  let rest := if rest < 0.0 then rest + full else rest
  let rest := if rest ≥ full then 0.0 else rest
  rest + 0.0

/-- The angle in radians, counted from the horizontal axis, in which a sprite with a heading
moves. -/
def radians (angle : Float) : Float := (angle - 90.0) * 0.017453292519943295

end SpriteStage.Heading
