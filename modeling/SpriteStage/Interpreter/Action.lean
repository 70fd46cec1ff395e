import SpriteStage.Block.Basic
import SpriteStage.Pose.Basic
import SpriteStage.Value.Reading

/-!
# Actions

What a block does to a pose, apart from the rounds of a loop, is an action with numbers for its
parameters. `Block.action` reads the parameters, where anything without a finite reading counts as
zero, and `Pose.act` carries the action out.
-/

namespace SpriteStage

/-- An effect on a pose. -/
inductive Action where
  | stay
  | advance (distance : Float)
  | rotate (degrees : Float)
  | place (x y : Float)
  | display (b : Bubble) (text : Value) (seconds : Float)

/-- The effect of a block by itself. A loop has none: its body acts. -/
def Block.action : Block → Action
  | move _ steps => .advance steps.finite
  | turn _ degrees => .rotate degrees.finite
  | goto _ x y => .place x.finite y.finite
  | bubble _ b text seconds => .display b text seconds.nonNegative
  | loop .. | unknown => .stay

/-- The new coordinate if it is finite, and the old one otherwise. -/
def keepFinite (new old : Float) : Float := if new.isFinite then new else old

def Pose.advance (p : Pose) (distance : Float) : Pose :=
  if distance == 0.0 then p
  else
    let angle := Heading.radians p.heading
    { p with
      x := keepFinite (p.x + distance * angle.cos) p.x
      y := keepFinite (p.y + distance * angle.sin) p.y }

def Pose.act (p : Pose) : Action → Pose
  | .stay => p
  | .advance distance => p.advance distance
  | .rotate degrees => { p with heading := Heading.fold (p.heading + degrees) }
  | .place x y => { p with x, y }
  | .display b text seconds => { p with display := .bubble b text seconds }

end SpriteStage
