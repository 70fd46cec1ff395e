import SpriteStage.Clock.Worker

/-!
# Calls to the clock

What clients ask of a clock: to start, to stop, to put the stage back, and to tick at once. A call
that does not apply to the state of the clock answers no and changes nothing.
-/

namespace SpriteStage

/-- Why a call failed. -/
inductive ClockError where
  /-- A time was not given as a number. -/
  | unreadable (e : ReadingError)
  /-- A time is longer than the system clock can count. -/
  | tooLong
  /-- The listener failed on the caller's tick. -/
  | listener (f : Failure)

namespace Clock

/-- Starts the session and the worker. An interval that cannot be read is noticed once both run. -/
def start (c : Clock) : Except ClockError Bool × Clock :=
  match c.launch with
  | (false, c) => (.ok false, c)
  | (true, c) =>
    match c.setup.seconds with
    | .ok _ => (.ok true, c.settle)
    | .error e => (.error (.unreadable e), c.settle)

/-- The time, in seconds, for which a stop waits for the worker to end unless told otherwise. -/
def patience : Value := .int 3

/-- Reads the time for which a stop waits for a worker: at least a tenth of a second, and one that
can be waited for unless the worker has ended. -/
def readPatience (c : Clock) (w : Nat) (v : Value) : Except ClockError Float :=
  match v.toFloat with
  | .ok x =>
    let x := if x > 0.1 then x else 0.1
    if c.isAlive w && !Lock.isWaitable x then .error .tooLong else .ok x
  | .error e => .error (.unreadable e)

/-- Stops the session and waits for the worker on record to end; a worker that does not end in time
stays on record. -/
def stop (c : Clock) (patience : Value) : Except ClockError Bool × Clock :=
  let worker := c.current
  match c.halt, worker with
  | (stopped, c), none => (.ok stopped, c)
  | (_, c), some w =>
    match c.readPatience w patience with
    | .ok _ => (.ok true, c.settle.forget w)
    | .error e => (.error e, c.settle)

/-- Stops the clock and puts the stage back to its beginning. -/
def reset (c : Clock) : Clock := (c.stop patience).2.rewind

/-- Ticks at once, if the session runs. The listener is told of the tick before the call returns. -/
def tick (c : Clock) : Except ClockError (Option Tick) × Clock :=
  match c.commit, c.setup.listener with
  | (some tick, c), some l =>
    let c := c.hear tick.number
    let c := if l.stopsAt tick.number then (c.stop patience).2 else c
    match l.failsAt tick.number with
    | some failure => (.error (.listener failure), c)
    | none => (.ok (some tick), c)
  | (tick, c), _ => (.ok tick, c)

/-- Lets the workers that wait in the listener go, now and in future. -/
def release (c : Clock) : Clock := { c with released := true }.settle

end Clock

end SpriteStage
