import SpriteStage.Api.Actors

/-!
# Requests about the session

The replies to requests that look at the stage, run its clock and report collisions.
-/

namespace SpriteStage.Api.Server

/-- The object that describes the clock. The clock of the server has its pace from the settings, so
the object exists. -/
def clockForm (c : Clock) : Value := .ofOption c.form.toOption

def outlineForm (c : Clock) : Value := .ofOption (c.outline.toOption.map .object)

def stageForm (s : Stage) : Value := .ofOption s.form?

def stageState (s : Server) (busy : Bool) : Reply × Server :=
  s.locked busy
    (.ok [("ok", .bool true), ("state", stageForm s.stage), ("scheduler", clockForm s.clock)], s)

def poses (s : Server) (busy : Bool) : Reply × Server :=
  s.locked busy
    (.ok [("count", .ofNat s.stage.poses.size), ("poses", Stage.formPoses s.stage.poses)], s)

/-- The reply to a start. The first tick may come before or after it, so ticks are left out. -/
def startReply (s : Server) (started : Bool) : Reply × Server :=
  (.ok [("ok", .bool true), ("started", .bool started), ("scheduler", outlineForm s.clock)], s)

/-- Starts the clock. A clock whose worker is out says so without the lock. -/
def start (s : Server) (busy : Bool) : Reply × Server :=
  if s.clock.isRunning then s.startReply false
  else
    s.locked busy
      (let (started, clock) := s.clock.start
      startReply { s with clock } (started.toOption.getD true))

def stop (s : Server) (busy : Bool) : Reply × Server :=
  s.locked busy
    (let (stopped, clock) := s.clock.stop Clock.patience
    (.ok [("ok", .bool true), ("stopped", .bool (stopped.toOption.getD true)),
      ("scheduler", clockForm clock)], { s with clock }))

/-- Stops the clock and puts the stage back to its beginning. -/
def reset (s : Server) (busy : Bool) : Reply × Server :=
  s.locked busy
    (let clock := s.clock.reset
    (.ok [("ok", .bool true), ("state", stageForm clock.stage)], { s with clock }))

def tick (s : Server) : Reply × Server :=
  let (tick, clock) := s.clock.tick
  let tick := tick.toOption.join
  (.ok [("ok", .bool true), ("ticked", .bool tick.isSome),
    ("tick", .ofOption (tick.map Tick.form))], { s with clock })

def outcomeForm (pair : Value × Value) (swapped : Bool) : Value :=
  .object [("actor_a", pair.1), ("actor_b", pair.2), ("swapped", .bool swapped)]

/-- Lets reported pairs of actors collide, one after the other. -/
def collisions (s : Server) (busy : Bool) (body : Body) : Reply × Server :=
  s.withBody reportForm body fun v =>
    s.locked busy
      (let pairs := pairsIn v
      let (swapped, stage) := s.stage.collideAll pairs
      (.ok [("ok", .bool true), ("swapped_count", .ofNat (swapped.count true)),
        ("results", .list (List.zipWith outcomeForm pairs swapped))], s.withStage stage))

def clockState (s : Server) : Reply × Server :=
  (.ok [("ok", .bool true), ("scheduler", clockForm s.clock)], s)

end SpriteStage.Api.Server
