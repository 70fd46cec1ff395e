import SpriteStage.Block.Kind
import SpriteStage.Heading

/-!
# Poses

The pose of a sprite is its position, its heading and the bubble over it. A bubble is shown for a
number of ticks: each tick counts it down first, and an empty count takes it away.
-/

namespace SpriteStage

/-- What is shown over a sprite. -/
inductive Display where
  | none
  | bubble (b : Bubble) (text : Value) (remaining : Float)
  deriving Inhabited

def Display.countdown : Display → Display
  | none => none
  | bubble b text remaining =>
    let left := Double.atLeastZero (remaining - 1.0)
    if left ≤ 0.0 then none else bubble b text left

/-- Position, heading and bubble of a sprite. -/
structure Pose where
  x : Float
  y : Float
  heading : Float
  display : Display
  deriving Inhabited

namespace Pose

def rest : Pose := ⟨0.0, 0.0, Heading.rest, .none⟩

/-- The pose at the start of a tick: its bubble is counted down. -/
def age (p : Pose) : Pose := { p with display := p.display.countdown }

end Pose

end SpriteStage
