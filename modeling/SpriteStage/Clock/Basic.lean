import SpriteStage.Clock.Setup
import SpriteStage.Stage.Basic

/-!
# The clock

The clock ticks the stage. Each start sends out a worker, which ticks, tells the listener, sleeps
for the interval and looks whether it was told to halt; clients may tick the stage themselves
meanwhile. The operations of this module are the sections of which calls are made: nothing happens
between the reads and the writes of one of them. `launch` and `halt` are the sections of a start and
of a stop one after the other.
-/

namespace SpriteStage

/-- Where a worker stands. -/
inductive Phase where
  /-- Looks next whether it was told to halt. -/
  | checking
  /-- Was not told to halt when it looked, and ticks next. -/
  | ticking
  /-- Has ticked and tells the listener next. -/
  | telling (tick : Nat)
  /-- Waits in the listener. -/
  | waiting (tick : Nat)
  | sleeping
  | ended
  deriving Repr, DecidableEq

/-- The state of a clock and of the stage that it ticks. -/
structure Clock where
  setup : Setup := {}
  stage : Stage := {}
  /-- All workers ever sent out. -/
  workers : List Phase := []
  /-- The number of the worker on record. -/
  current : Option Nat := none
  /-- Whether workers are told to halt. -/
  halted : Bool := false
  /-- Whether the workers that wait in the listener were let go. -/
  released : Bool := false
  /-- The number of ticks. -/
  fired : Nat := 0
  /-- The ticks that the listener was told of. -/
  heard : List Nat := []
  /-- The last failure of the listener on a worker. -/
  lastError : Option String := none
  deriving Inhabited

/-- A tick: its number, the poses after it and, if overlapping actors collide, the pairs that
did. -/
structure Tick where
  number : Nat
  poses : Keyed Pose
  collisions : Option (List (String × String))

namespace Clock

def isAlive (c : Clock) (w : Nat) : Bool := c.workers[w]?.any (· != .ended)

def isRunning (c : Clock) : Bool := c.current.any c.isAlive

def setPhase (c : Clock) (w : Nat) (p : Phase) : Clock := { c with workers := c.workers.set w p }

/-- Starts a session of the stage, unless one runs. -/
def openSession (c : Clock) : Bool × Clock :=
  let (opened, stage) := c.stage.start
  (opened, { c with stage })

def clearHalt (c : Clock) : Clock := { c with halted := false }

def send (c : Clock) : Clock := { c with workers := c.workers ++ [.checking] }

def record (c : Clock) (w : Nat) : Clock := { c with current := some w }

/-- Starts a session and sends out a worker for it, unless there is one or the session runs. -/
def launch (c : Clock) : Bool × Clock :=
  if c.isRunning then (false, c)
  else
    match c.openSession with
    | (false, c) => (false, c)
    | (true, c) => (true, c.clearHalt.send.record c.workers.length)

def closeSession (c : Clock) : Bool × Clock :=
  let (closed, stage) := c.stage.stop
  (closed, { c with stage })

def signal (c : Clock) : Clock := { c with halted := true }

/-- Stops the session and tells the worker on record to halt. The answer is yes if there is such a
worker or the session ran. -/
def halt (c : Clock) : Bool × Clock :=
  match c.closeSession, c.current with
  | (closed, c), none => (closed, c)
  | (_, c), some _ => (true, c.signal)

/-- Strikes a worker off the record if it has ended. -/
def forget (c : Clock) (w : Nat) : Clock :=
  if c.current = some w ∧ c.isAlive w = false then { c with current := none } else c

def rewind (c : Clock) : Clock := { c with stage := c.stage.reset }

/-- Lets the overlapping actors of a stage collide, pair by pair, and lists the pairs that did. -/
def collideOverlaps (s : Stage) : List (String × String) × Stage :=
  let pairs := s.overlaps
  let (swapped, s) := s.collideAll (pairs.map fun (a, b) => (.str a, .str b))
  (((pairs.zip swapped).filter Prod.snd).map Prod.fst, s)

/-- Ticks the stage, if its session runs. -/
def commit (c : Clock) : Option Tick × Clock :=
  match c.stage.tick with
  | (none, _) => (none, c)
  | (some poses, stage) =>
    let number := stage.ticks
    let fired := c.fired + 1
    if c.setup.collides then
      let (pairs, stage) := collideOverlaps stage
      (some ⟨number, poses, some pairs⟩, { c with stage, fired })
    else (some ⟨number, poses, none⟩, { c with stage, fired })

def hear (c : Clock) (tick : Nat) : Clock := { c with heard := c.heard ++ [tick] }

end Clock

end SpriteStage
