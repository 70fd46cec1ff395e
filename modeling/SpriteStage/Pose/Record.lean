import SpriteStage.Pose.Basic
import SpriteStage.Value.Reading

/-!
# Pose records

A pose record is a pose as it is written down: its fields hold values, and a record from outside may
hold any. `Pose.record` writes a pose down, and `PoseRecord.form` is the object that clients see.
-/

namespace SpriteStage

/-- A display as it is written down. -/
structure DisplayRecord where
  mode : Value
  text : Value
  remaining : Value
  deriving Inhabited

namespace DisplayRecord

def emptyMode : String := "none"

def empty : DisplayRecord := ⟨.str emptyMode, .null, .null⟩

def hasMode (d : DisplayRecord) (name : String) : Bool :=
  match d.mode with
  | .str s => s == name
  | _ => false

/-- Whether something is shown: every mode shows something but the empty one. -/
def isVisible (d : DisplayRecord) : Bool := !d.hasMode emptyMode

/-- The display one tick later. A void count is empty. -/
def countdown (d : DisplayRecord) : Except ReadingError DisplayRecord := do
  if d.isVisible then
    let remaining ← (d.remaining.orElse (.int 0)).toFloat
    let left := Double.atLeastZero (remaining - 1.0)
    return if left ≤ 0.0 then empty else { d with remaining := .float left }
  else return d

def form (d : DisplayRecord) : Value :=
  .object [("mode", d.mode), ("text", d.text), ("ticks_remaining", d.remaining)]

end DisplayRecord

/-- A pose as it is written down. -/
structure PoseRecord where
  x : Value
  y : Value
  heading : Value
  display : DisplayRecord
  deriving Inhabited

namespace PoseRecord

def textIn (p : PoseRecord) (b : Bubble) : Value :=
  if p.display.hasMode b.name then p.display.text else .null

/-- The object that clients see: the display is given in full, and its text once more under the name
of its bubble. -/
def form (p : PoseRecord) : Value :=
  .object
    [("x", p.x), ("y", p.y), ("direction", p.heading), ("display", p.display.form),
      ("say_text", p.textIn .say), ("think_text", p.textIn .think),
      ("is_thinking", .bool (p.display.hasMode Bubble.think.name))]

end PoseRecord

def Display.record : Display → DisplayRecord
  | none => .empty
  | bubble b text remaining => ⟨.str b.name, text, .float remaining⟩

def Pose.record (p : Pose) : PoseRecord :=
  ⟨.float p.x, .float p.y, .float p.heading, p.display.record⟩

end SpriteStage
