import SpriteStage.Api.Respond

/-!
# Runs of a server

A server comes up, serves requests while the workers of its clock go on, and goes down. What clients
see of a reply first is its status.
-/

namespace SpriteStage.Api

/-- The status that the client gets, unless it still waits. If the body of a reply cannot be sent,
the server says that it failed. -/
def Outcome.status? : Outcome → Option Nat
  | .reply r => some r.status
  | .unsent .. => some 500
  | .page => some 200
  | .waits => none

/-- What a new server with some settings becomes by requests that are allowed, and by what goes on
in the background. -/
inductive Server.Reached (settings : Settings) (allowed : Request → Prop) : Server → Prop
  | fresh : Reached settings allowed { clock := { setup := { settings } } }
  | startup {s : Server} (past : Reached settings allowed s) : Reached settings allowed s.startup
  | shutdown {s : Server} (past : Reached settings allowed s) : Reached settings allowed s.shutdown
  | request {s : Server} {r : Request} (past : Reached settings allowed s) (h : allowed r) :
      Reached settings allowed (s.respond r).2
  /-- A worker goes on by one step. -/
  | work {s : Server} (w : Nat) (past : Reached settings allowed s) :
      Reached settings allowed { s with clock := s.clock.step w }
  /-- A worker has slept for the interval. -/
  | wake {s : Server} {w : Nat} (past : Reached settings allowed s)
      (h : s.clock.workers[w]? = some .sleeping) :
      Reached settings allowed { s with clock := s.clock.setPhase w .checking }

/-- What may happen next to a server, with requests that are allowed. -/
inductive Server.Step (allowed : Request → Prop) : Server → Server → Prop
  | startup {s : Server} : Step allowed s s.startup
  | shutdown {s : Server} : Step allowed s s.shutdown
  | request {s : Server} {r : Request} (h : allowed r) : Step allowed s (s.respond r).2
  | work {s : Server} (w : Nat) : Step allowed s { s with clock := s.clock.step w }
  | wake {s : Server} {w : Nat} (h : s.clock.workers[w]? = some .sleeping) :
      Step allowed s { s with clock := s.clock.setPhase w .checking }

end SpriteStage.Api
