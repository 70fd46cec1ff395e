import SpriteStage.Interpreter.Action
import SpriteStage.Interpreter.Walk

/-!
# The interpreter

A tick runs a script once over the pose of its sprite: the walk of the script in which each block
carries out its action.
-/

namespace SpriteStage

def performer : Visitor Pose := ⟨fun b p => p.act b.action, id⟩

def interpret (p : Pose) (script : Script) : Pose := script.walk performer p

/-- The pose after a tick with a script: the bubble is counted down, then the script runs. -/
def Pose.tick (p : Pose) (script : Script) : Pose := interpret p.age script

@[simp] theorem interpret_nil (p : Pose) : interpret p [] = p := rfl

@[simp] theorem interpret_cons (p : Pose) (b : Block) (script : Script) :
    interpret p (b :: script) = interpret (b.walk performer p) script := rfl

end SpriteStage
