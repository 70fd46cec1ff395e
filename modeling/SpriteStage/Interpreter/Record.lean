import SpriteStage.Interpreter.Basic
import SpriteStage.Pose.Record

/-!
# Running scripts over pose records

A script also runs over a pose that was written down by someone else. A field is read as a number
when an action first needs it, so a field that no action needs keeps whatever it holds, and a field
that cannot be read stops the run.
-/

namespace SpriteStage

/-- Why a script stopped on a pose record. -/
inductive RunError where
  /-- A field that was needed is no number. -/
  | unreadable (e : ReadingError)
  /-- The heading is infinite, so it points nowhere. -/
  | noAngle
  deriving Repr, DecidableEq

/-- A field of a record, as a double. -/
def Value.coordinate (v : Value) : Except RunError Float :=
  match v.asNumber.bind Number.toFloat with
  | .ok x => .ok x
  | .error e => .error (.unreadable e)

namespace PoseRecord

/-- The new coordinate if it is finite, and otherwise the field as it was. -/
def moved (old : Value) (new : Float) : Value := if new.isFinite then .float new else old

def advance (p : PoseRecord) (distance : Float) : Except RunError PoseRecord :=
  if distance == 0.0 then return p
  else do
    let angle := Heading.radians (← p.heading.coordinate)
    if !angle.isFinite && !angle.isNaN then throw .noAngle
    let x := (← p.x.coordinate) + distance * angle.cos
    let y := (← p.y.coordinate) + distance * angle.sin
    return { p with x := moved p.x x, y := moved p.y y }

def act (p : PoseRecord) : Action → Except RunError PoseRecord
  | .stay => return p
  | .advance distance => p.advance distance
  | .rotate degrees => do
    let heading ← p.heading.coordinate
    return { p with heading := .float (Heading.fold (heading + degrees)) }
  | .place x y => return { p with x := .float x, y := .float y }
  | .display b text seconds => return { p with display := ⟨.str b.name, text, .float seconds⟩ }

def performer : Visitor (Except RunError PoseRecord) := ⟨fun b p => p.bind (·.act b.action), id⟩

def interpret (p : PoseRecord) (script : Script) : Except RunError PoseRecord :=
  script.walk performer (.ok p)

def trace (p : PoseRecord) : Script → Except RunError (List PoseRecord)
  | [] => return []
  | b :: rest => do
    let next ← b.walk performer (.ok p)
    return next :: (← trace next rest)

end PoseRecord

end SpriteStage
