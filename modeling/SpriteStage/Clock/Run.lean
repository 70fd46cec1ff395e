import SpriteStage.Clock.Calls

/-!
# Runs of a clock

A run is a sequence of moves, each by a client or by a worker, in any order. A tick is one move,
with the listener told of it, whoever ticks. A stop and a reset are one move each, or are made in
parts with other moves in between: the stop is requested, and later it is over; then a reset puts
the stage back. `Clock.commits` lists the ticks that the moves of a run commit.
-/

namespace SpriteStage

namespace Clock

def pulse (c : Clock) (w : Nat) : Clock :=
  let c := c.beat w
  match c.workers[w]?, c.setup.listener with
  | some (.telling tick), some l => c.tell w l tick
  | _, _ => c

/-- A worker goes on: it looks whether it was told to halt, ticks, or wakes up, because its interval
is over or because it was told to halt. -/
def work (c : Clock) (w : Nat) : Clock :=
  match c.workers[w]? with
  | some .checking => c.look w
  | some .ticking => c.pulse w
  | some .sleeping => c.setPhase w .checking
  | _ => c

/-- What is done with a clock in one go. -/
inductive Move where
  | start
  | stop (patience : Value)
  | reset
  | tick
  /-- The request of a stop. -/
  | halt
  /-- The end of a stop that has waited for a worker. -/
  | forget (w : Nat)
  /-- The end of a reset. -/
  | rewind
  | work (w : Nat)

def perform (c : Clock) : Move → Clock
  | .start => c.launch.2
  | .stop patience => (c.stop patience).2
  | .reset => c.reset
  | .tick => c.tick.2
  | .halt => c.halt.2
  | .forget w => c.forget w
  | .rewind => c.rewind
  | .work w => c.work w

def committed? (c : Clock) : Move → Option Tick
  | .tick => c.commit.1
  | .work w => if c.workers[w]? = some .ticking then c.commit.1 else none
  | _ => none

def run (c : Clock) : List Move → Clock
  | [] => c
  | m :: rest => (c.perform m).run rest

def commits (c : Clock) : List Move → List Tick
  | [] => []
  | m :: rest => (c.committed? m).toList ++ (c.perform m).commits rest

end Clock

end SpriteStage
