import SpriteStage.Clock.Basic
import SpriteStage.Lock

/-!
# Workers

`Clock.step` is what a worker does between two points at which others may come in. The interval is
longer than anything that is waited for, so a sleeping worker wakes up only to halt; `Clock.settle`
lets the worker on record go on until it sleeps, waits or has ended.
-/

namespace SpriteStage

/-- The phase of a worker that is done with a tick: it sleeps, unless its interval cannot be slept,
which ends it. -/
def Setup.pause (s : Setup) : Phase :=
  match s.seconds with
  | .ok seconds => if Lock.isWaitable seconds then .sleeping else .ended
  | .error _ => .ended

namespace Clock

/-- A worker looks whether it was told to halt, and ends if so. -/
def look (c : Clock) (w : Nat) : Clock := c.setPhase w (if c.halted then .ended else .ticking)

/-- A worker ticks. It turns to the listener, if there is one, unless no session runs. -/
def beat (c : Clock) (w : Nat) : Clock :=
  match c.commit, c.setup.listener with
  | (some tick, c), some _ => c.setPhase w (.telling tick.number)
  | (_, c), _ => c.setPhase w c.setup.pause

/-- The listener returns to a worker, or fails; then the worker sleeps. -/
def finish (c : Clock) (w : Nat) (failure : Option Failure) : Clock :=
  let c :=
    match failure with
    | some failure => { c with lastError := some failure.text }
    | none => c
  c.setPhase w c.setup.pause

/-- The listener is told of a tick by a worker. A stop from inside the listener does not wait for
the worker. -/
def tell (c : Clock) (w : Nat) (l : Listener) (tick : Nat) : Clock :=
  let c := c.hear tick
  let c := if l.stopsAt tick then c.halt.2 else c
  if l.waitsAt tick && !c.released then c.setPhase w (.waiting tick)
  else c.finish w (l.failsAt tick)

/-- The next step of a worker, if it can do one. -/
def step (c : Clock) (w : Nat) : Clock :=
  match c.workers[w]?, c.setup.listener with
  | some .checking, _ => c.look w
  | some .ticking, _ => c.beat w
  | some (.telling tick), some l => c.tell w l tick
  | some (.waiting tick), some l => if c.released then c.finish w (l.failsAt tick) else c
  | some .sleeping, _ => if c.halted then c.setPhase w .checking else c
  | _, _ => c

/-- Lets the worker on record go on as far as it can: it looks up, ticks, tells, sleeps and looks up
again at most once before it ends. -/
def settle (c : Clock) : Clock :=
  match c.current with
  | some w => Nat.repeat (fun c => c.step w) 5 c
  | none => c

end Clock

end SpriteStage
