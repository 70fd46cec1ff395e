import SpriteStage.Api.Respond
import SpriteStage.Benchmark.Script
import SpriteStage.Benchmark.Summary

/-!
# Running the benchmark

The benchmark fills an empty stage with sprites and ticks it by hand. After each tick it reports the
pairs that overlap, and after some it asks for all poses. Every request goes through a client, which
also says how long the reply took; the rest of the run does not depend on that.
-/

namespace SpriteStage.Benchmark

open SpriteStage.Api

/-- The size of a run. -/
structure Plan where
  actors : Int := 40
  ticks : Int := 200

/-- Why a run failed. -/
inductive RunError where
  | tooFewActors
  /-- A request that the run depends on was refused. -/
  | refused (request : String) (status : Nat)
  /-- The measured times cannot be summed up. -/
  | unsummed (e : SummaryError)

def RunError.message : RunError → String
  | tooFewActors => "--actors must be >= 2"
  | refused request status => request ++ " failed (" ++ toString status ++ ")"
  | unsummed _ => "latencies out of range"

/-- Sends a request to a server; with the reply comes the time that it took, in milliseconds. A
request that gets no reply counts as refused. -/
abbrev Client (m : Type → Type) := Server → Request → m (Reply × Server × Float)

def exchange (s : Server) (r : Request) : Reply × Server :=
  match s.respond r with
  | (.reply reply, s) => (reply, s)
  | (_, s) => (.refused 504 "No reply", s)

/-- A client that keeps the requests that it sent, the latest first. The times that they take are
given, by the number of requests before. -/
def Client.recorded (times : Nat → Float) : Client (StateM (List Request)) := fun s r => do
  let sent ← get
  let (reply, s) := exchange s r
  set (r :: sent)
  return (reply, s, times sent.length)

/-- The times that the requests of each sort took, the latest first. -/
structure Latencies where
  createActor : List Float := []
  tick : List Float := []
  collisions : List Float := []
  poses : List Float := []

/-- A run on its way. -/
structure Course where
  server : Server := {}
  latencies : Latencies := {}
  swaps : Nat := 0

/-- A step of a run. -/
abbrev Runner (m : Type → Type) := StateT Course (ExceptT RunError m)

def plain (method path : String) : Request := { method, path }

def report (method path name : String) (v : Value) : Request :=
  { method, path, body := .document (.object [(name, v)]) }

variable {m : Type → Type} [Monad m]

def send (client : Client m) (r : Request) : Runner m (Reply × Float) := do
  let c ← get
  let (reply, server, time) ← (client c.server r : m _)
  set { c with server }
  return (reply, time)

def note (f : Latencies → Latencies) : Runner m Unit :=
  modify fun c => { c with latencies := f c.latencies }

def createRequest (i : Nat) : Request :=
  let script := (script (.ofNat i)).toOption.getD []
  { method := "POST"
    path := "/api/v1/actors"
    body := .document (.object
      [("actor_id", .str ("bench-" ++ toString i)), ("name", .str ("Bench-" ++ toString i)),
        ("script", .list script)]) }

/-- Puts the sprite with a number on the stage. -/
def create (client : Client m) (i : Nat) : Runner m Unit := do
  let (reply, time) ← send client (createRequest i)
  if reply.status ≠ 200 then throw (.refused "create" reply.status)
  note fun l => { l with createActor := time :: l.createActor }

/-- Starts the session without the clock, so that no tick comes in between. -/
def begin : Runner m Unit :=
  modify fun c => { c with server := c.server.withStage c.server.stage.start.2 }

def swapsIn (r : Reply) : Nat :=
  match r.body.field "swapped_count" with
  | .int n => n.toNat
  | _ => 0

/-- Reports the pairs that overlap, if there are any, and no more than a report may hold. -/
def reportOverlaps (client : Client m) : Runner m Unit := do
  let pairs := (← get).server.stage.overlaps
  if !pairs.isEmpty then
    let pairs := (pairs.take pairLimit).map Stage.formPair
    let (reply, time) ← send client (report "POST" "/api/v1/stage/collisions" "pairs" (.list pairs))
    if reply.status = 200 then
      note fun l => { l with collisions := time :: l.collisions }
      modify fun c => { c with swaps := c.swaps + swapsIn reply }

/-- The number of ticks from one request for all poses to the next. -/
def poseInterval : Nat := 5

def glance (client : Client m) (tick : Nat) : Runner m Unit := do
  if tick % poseInterval = 0 then
    let (reply, time) ← send client (plain "GET" "/api/v1/stage/poses")
    if reply.status = 200 then note fun l => { l with poses := time :: l.poses }

/-- The lap of a tick with a number, counted from zero. -/
def lap (client : Client m) (tick : Nat) : Runner m Unit := do
  let (reply, time) ← send client (plain "POST" "/api/v1/stage/tick")
  if reply.status ≠ 200 then throw (.refused "tick" reply.status)
  note fun l => { l with tick := time :: l.tick }
  reportOverlaps client
  glance client tick

/-- What is reported of a run. -/
structure Report where
  actors : Int
  ticksRun : Value
  swaps : Nat
  collisions : Value
  latencies : List (String × Summary Number)

def Latencies.summaries (l : Latencies) : Except SummaryError (List (String × Summary Number)) :=
  [("create_actor", l.createActor), ("tick", l.tick), ("collisions", l.collisions),
    ("poses", l.poses)].mapM fun (name, times) => do
      return (name, ← summarize (times.reverse.map .float))

/-- Runs the benchmark on a new server. -/
def run (client : Client m) (plan : Plan) : Runner m Report := do
  if plan.actors < 2 then throw .tooFewActors
  (List.range plan.actors.toNat).forM (create client)
  begin
  (List.range plan.ticks.toNat).forM (lap client)
  let (state, _) ← send client (plain "GET" "/api/v1/stage/state")
  let _ ← send client (plain "POST" "/api/v1/stage/stop")
  let c ← get
  match c.latencies.summaries with
  | .error e => throw (.unsummed e)
  | .ok latencies =>
    return {
      actors := plan.actors
      ticksRun := (state.body.field "state").field "tick"
      swaps := c.swaps
      collisions := (state.body.field "state").field "collision_count"
      latencies }

def Report.form (r : Report) : Value :=
  .object
    [("actors", .int r.actors), ("ticks_run", r.ticksRun), ("swaps", .ofNat r.swaps),
      ("collision_count", r.collisions),
      ("latency_ms", .object (r.latencies.map fun (name, s) => (name, s.form)))]

/-- The report of a run on a new server with some settings, where the times are given, and the
requests that were sent. -/
def rehearse (settings : Settings) (times : Nat → Float) (plan : Plan) :
    Except RunError Report × List Request :=
  let start : Course := { server := { clock := { setup := { settings } } } }
  let (result, sent) := ((run (Client.recorded times) plan).run' start).run.run []
  (result, sent.reverse)

def simulate (plan : Plan) : Except RunError Report := (rehearse {} (fun _ => 0.0) plan).1

end SpriteStage.Benchmark
