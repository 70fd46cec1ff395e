import SpriteStage.Clock.Worker

/-!
# Interleaved calls

Many clients call one clock while its workers run. A start and a stop take a gate, so that no two of
them look at the record of the worker at once; the stage has a lock of its own, held for a section
at a time. A `System` says how far everyone is, and `Step` is one section of one call or one step of
a worker, with all that may come in between left open: when a wait ends, when a sleeper wakes, and
what the listener does, which may return, fail, wait, or stop the clock as often as it likes.
-/

namespace SpriteStage

/-- Someone who acts on a clock. -/
inductive Agent where
  | client (i : Nat)
  | worker (w : Nat)
  deriving Repr, DecidableEq

/-- How far a start is. From `opening` on it is inside the gate. -/
inductive Starting where
  | entering
  | opening
  | clearing
  | sending
  | recording (w : Nat)
  deriving Repr, DecidableEq

/-- How far a stop is, with the worker that was on record when it entered the gate. It is inside
while it closes and signals. -/
inductive Stopping where
  | entering
  | closing (worker : Option Nat)
  | signalling (w : Nat)
  | joining (w : Nat)
  | forgetting (w : Nat)
  deriving Repr, DecidableEq

/-- What a stop is part of. -/
inductive Aim where
  | stop
  | reset
  | listener
  deriving Repr, DecidableEq

/-- What an agent is doing with the clock. -/
inductive Call where
  | idle
  | start (place : Starting)
  | stop (place : Stopping) (aim : Aim)
  /-- A reset that has stopped the clock and puts the stage back next. -/
  | rewind
  | tick
  /-- A tick that tells the listener next. -/
  | tell (tick : Nat)
  /-- In the listener. -/
  | listen
  deriving Repr, DecidableEq

namespace Call

def isInside : Call → Bool
  | start .entering => false
  | start _ => true
  | stop (.closing _) _ | stop (.signalling _) _ => true
  | _ => false

end Call

namespace Aim

def next : Aim → Call
  | stop => .idle
  | reset => .rewind
  | listener => .listen

/-- What follows a stop that failed: a reset fails with it, and the listener decides. -/
def failed : Aim → Call
  | stop | reset => .idle
  | listener => .listen

end Aim

/-- What a client may ask of a clock. -/
inductive Ask where
  | start
  | stop
  | reset
  | tick
  deriving Repr, DecidableEq

def Ask.call : Ask → Call
  | start => .start .entering
  | stop => .stop .entering .stop
  | reset => .stop .entering .reset
  | tick => .tick

/-- What has happened in a step. -/
inductive Act where
  | asked
  /-- A start was answered with no. -/
  | refused
  /-- A call entered the gate. -/
  | entered
  | opened
  | cleared
  | sent
  /-- The worker is on record, and the start was answered with yes. -/
  | recorded
  | closed
  | signalled
  /-- The wait for a worker was over. -/
  | joined
  | forgot
  | rewound
  /-- The stage was ticked, or was found without a session. -/
  | ticked (committed : Bool)
  | told
  | finished
  /-- The agent was failed by a lock, a wait or the listener. -/
  | failed
  | looked
  | woke
  deriving Repr, DecidableEq

/-- Who did what. -/
abbrev Event := Agent × Act

/-- A clock, who is inside its gate, and what everyone is doing with it. -/
structure System where
  clock : Clock
  inside : Option Agent := none
  calls : Agent → Call := fun _ => .idle

namespace System

def initial (setup : Setup) (stage : Stage) : System := { clock := { setup, stage } }

def go (s : System) (a : Agent) (call : Call) : System :=
  { s with calls := fun b => if b = a then call else s.calls b }

/-- What follows a client's tick: the listener is told of it, if there is one. -/
def afterTick (c : Clock) : Call :=
  match c.commit.1, c.setup.listener with
  | some tick, some _ => .tell tick.number
  | _, _ => .idle

/-- One section of a call, or one step of a worker. -/
inductive Step (s : System) : Event → System → Prop
  | ask {i : Nat} (r : Ask) (h : s.calls (.client i) = .idle) :
      Step s (.client i, .asked) (s.go (.client i) r.call)
  -- a start
  | refuse {a : Agent} (h : s.calls a = .start .entering) (free : s.inside = none)
      (busy : s.clock.isRunning = true) : Step s (a, .refused) (s.go a .idle)
  | enterStart {a : Agent} (h : s.calls a = .start .entering) (free : s.inside = none)
      (rest : s.clock.isRunning = false) :
      Step s (a, .entered) { s.go a (.start .opening) with inside := some a }
  | deny {a : Agent} (h : s.calls a = .start .opening) (no : s.clock.openSession.1 = false) :
      Step s (a, .refused) { s.go a .idle with inside := none }
  | failStart {a : Agent} (h : s.calls a = .start .opening) :
      Step s (a, .failed) { s.go a .idle with inside := none }
  | openSession {a : Agent} (h : s.calls a = .start .opening) (yes : s.clock.openSession.1 = true) :
      Step s (a, .opened) { s.go a (.start .clearing) with clock := s.clock.openSession.2 }
  | clear {a : Agent} (h : s.calls a = .start .clearing) :
      Step s (a, .cleared) { s.go a (.start .sending) with clock := s.clock.clearHalt }
  | send {a : Agent} (h : s.calls a = .start .sending) :
      Step s (a, .sent)
        { s.go a (.start (.recording s.clock.workers.length)) with clock := s.clock.send }
  | record {a : Agent} {w : Nat} (h : s.calls a = .start (.recording w)) :
      Step s (a, .recorded) { s.go a .idle with clock := s.clock.record w, inside := none }
  -- a stop, also of a reset or of the listener
  | enterStop {a : Agent} {aim : Aim} (h : s.calls a = .stop .entering aim)
      (free : s.inside = none) :
      Step s (a, .entered)
        { s.go a (.stop (.closing s.clock.current) aim) with inside := some a }
  | failStop {a : Agent} {worker : Option Nat} {aim : Aim}
      (h : s.calls a = .stop (.closing worker) aim) :
      Step s (a, .failed) { s.go a aim.failed with inside := none }
  | closeAlone {a : Agent} {aim : Aim} (h : s.calls a = .stop (.closing none) aim) :
      Step s (a, .closed) { s.go a aim.next with clock := s.clock.closeSession.2, inside := none }
  | close {a : Agent} {w : Nat} {aim : Aim} (h : s.calls a = .stop (.closing (some w)) aim) :
      Step s (a, .closed)
        { s.go a (.stop (.signalling w) aim) with clock := s.clock.closeSession.2 }
  | signal {a : Agent} {w : Nat} {aim : Aim} (h : s.calls a = .stop (.signalling w) aim) :
      Step s (a, .signalled)
        { s.go a (.stop (.joining w) aim) with clock := s.clock.signal, inside := none }
  /-- The worker has ended, the time is over, or the worker is the one that asks. -/
  | join {a : Agent} {w : Nat} {aim : Aim} (h : s.calls a = .stop (.joining w) aim) :
      Step s (a, .joined) (s.go a (.stop (.forgetting w) aim))
  | failJoin {a : Agent} {w : Nat} {aim : Aim} (h : s.calls a = .stop (.joining w) aim) :
      Step s (a, .failed) (s.go a aim.failed)
  | forget {a : Agent} {w : Nat} {aim : Aim} (h : s.calls a = .stop (.forgetting w) aim)
      (free : s.inside = none) :
      Step s (a, .forgot) { s.go a aim.next with clock := s.clock.forget w }
  -- the rest of a reset
  | rewind {a : Agent} (h : s.calls a = .rewind) :
      Step s (a, .rewound) { s.go a .idle with clock := s.clock.rewind }
  | failRewind {a : Agent} (h : s.calls a = .rewind) : Step s (a, .failed) (s.go a .idle)
  -- a tick by a client
  | tick {i : Nat} (h : s.calls (.client i) = .tick) :
      Step s (.client i, .ticked s.clock.commit.1.isSome)
        { s.go (.client i) (afterTick s.clock) with clock := s.clock.commit.2 }
  | tell {i tick : Nat} (h : s.calls (.client i) = .tell tick) :
      Step s (.client i, .told) { s.go (.client i) .listen with clock := s.clock.hear tick }
  | finish {i : Nat} (h : s.calls (.client i) = .listen) :
      Step s (.client i, .finished) (s.go (.client i) .idle)
  -- the listener, wherever it runs
  | stopFromListener {a : Agent} (h : s.calls a = .listen) :
      Step s (a, .asked) (s.go a (.stop .entering .listener))
  -- a worker
  | look {w : Nat} (h : s.clock.workers[w]? = some .checking) :
      Step s (.worker w, .looked) { s with clock := s.clock.look w }
  | beat {w : Nat} (h : s.clock.workers[w]? = some .ticking) :
      Step s (.worker w, .ticked s.clock.commit.1.isSome) { s with clock := s.clock.beat w }
  | hear {w tick : Nat} (h : s.clock.workers[w]? = some (.telling tick))
      (free : s.calls (.worker w) = .idle) :
      Step s (.worker w, .told) { s.go (.worker w) .listen with
        clock := (s.clock.hear tick).setPhase w (.waiting tick) }
  | leave {w tick : Nat} (failure : Option Failure)
      (h : s.clock.workers[w]? = some (.waiting tick)) (free : s.calls (.worker w) = .listen) :
      Step s (.worker w, .finished)
        { s.go (.worker w) .idle with clock := s.clock.finish w failure }
  /-- The listener fails in a way that nothing on the worker stops. -/
  | die {w tick : Nat} (h : s.clock.workers[w]? = some (.waiting tick))
      (free : s.calls (.worker w) = .listen) :
      Step s (.worker w, .failed)
        { s.go (.worker w) .idle with clock := s.clock.setPhase w .ended }
  /-- The interval is over, or the worker was told to halt. -/
  | wake {w : Nat} (h : s.clock.workers[w]? = some .sleeping) :
      Step s (.worker w, .woke) { s with clock := s.clock.setPhase w .checking }

/-- The steps from one state to another, the latest event first. -/
inductive Trace (s : System) : List Event → System → Prop
  | nil : Trace s [] s
  | cons {es : List Event} {e : Event} {t u : System} (past : Trace s es t) (step : Step t e u) :
      Trace s (e :: es) u

end System

end SpriteStage
