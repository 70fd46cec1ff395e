import SpriteStage.Clock.Calls
import SpriteStage.Stage.Form

/-!
# The written form of the clock

What clients see of a clock and of its ticks.
-/

namespace SpriteStage

def Tick.form (t : Tick) : Value :=
  let fields := Stage.formTick t.number t.poses
  match t.collisions with
  | none => .object fields
  | some pairs => .object (fields ++ [("collisions", .list (pairs.map Stage.formPair))])

namespace Clock

def workerName : String := "swapstudio-stage-scheduler"

def milliseconds (c : Clock) : Except ClockError Int :=
  match c.setup.seconds with
  | .error e => .error (.unreadable e)
  | .ok seconds =>
    match Double.rational? (seconds * 1000.0) with
    | some q => .ok (Double.roundEven q)
    | none => .error .tooLong

def outline (c : Clock) : Except ClockError (List (String × Value)) := do
  let milliseconds ← c.milliseconds
  return [
    ("running", .bool c.isRunning),
    ("thread_name", if c.current.isSome then .str workerName else .null),
    ("tick_interval_ms", .int milliseconds),
    ("auto_collide", .bool c.setup.collides),
    ("last_error", .ofOption (c.lastError.map .str))]

def tally (c : Clock) : List (String × Value) :=
  [("ticks_fired", .ofNat c.fired), ("last_tick_at", if c.fired = 0 then .null else moment)]

def form (c : Clock) : Except ClockError Value := do
  return .object ((← c.outline) ++ c.tally)

end Clock

end SpriteStage
