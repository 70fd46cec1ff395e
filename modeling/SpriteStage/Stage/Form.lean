import SpriteStage.Block.Form
import SpriteStage.Pose.Record
import SpriteStage.Stage.Basic

/-!
# The written form of the stage

What clients see of actors, ticks and the stage. Moments are not told apart: every moment is written
by the same word. A form that includes a script with an unknown object in it does not exist.
-/

namespace SpriteStage

def moment : Value := .str "<time>"

def Pose.form (p : Pose) : Value := p.record.form

def Actor.fields? (a : Actor) : Option (List (String × Value)) := do
  let script ← Script.forms? a.script
  return [("actor_id", .str a.id), ("name", .str a.name), ("color", .str a.color),
    ("shape", .str a.shape.name), ("width", .float a.width), ("height", .float a.height),
    ("block_count", .ofNat a.script.length), ("created_at", moment), ("script", .list script)]

def Actor.form? (a : Actor) : Option Value := a.fields?.map .object

def Actor.formWith? (a : Actor) (pose : Value) : Option Value :=
  a.fields?.map fun fields => .object (fields ++ [("pose", pose)])

namespace Stage

def formPoses (poses : Keyed Pose) : Value :=
  .object (poses.entries.map fun (id, p) => (id, p.form))

/-- The object that describes a tick: its number, how many actors moved, and their poses. -/
def formTick (tick : Nat) (poses : Keyed Pose) : List (String × Value) :=
  [("tick", .ofNat tick), ("actor_count", .ofNat poses.size), ("poses", formPoses poses)]

def formPair (pair : String × String) : Value := .ofNames [pair.1, pair.2]

def form? (s : Stage) : Option Value := do
  let actors ← s.actors.mapM fun a => a.formWith? ((s.poses.get? a.id).getD .rest).form
  return .object
    [("running", .bool s.running), ("tick", .ofNat s.ticks),
      ("session_started_at", if s.started then moment else .null),
      ("actor_count", .ofNat s.roster.size), ("collision_count", .ofNat s.collisions),
      ("last_collision", .ofOption (s.lastCollision.map formPair)), ("actors", .list actors)]

end Stage

end SpriteStage
