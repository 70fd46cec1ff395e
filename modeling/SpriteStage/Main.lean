import SpriteStage.Benchmark.Run
import SpriteStage.Json.Writer

/-!
# The benchmark command

Runs the benchmark with the number of sprites and ticks given on the command line, measures how long
each reply takes, and prints the report.
-/

namespace SpriteStage

open Benchmark

/-- A plan with the changes that the arguments describe; other arguments are ignored. -/
def Benchmark.Plan.withArguments (plan : Plan) : List String → Plan
  | "--actors" :: n :: rest =>
    { plan with actors := (Double.readInt? n).getD plan.actors }.withArguments rest
  | "--ticks" :: n :: rest =>
    { plan with ticks := (Double.readInt? n).getD plan.ticks }.withArguments rest
  | _ :: rest => plan.withArguments rest
  | [] => plan

def Benchmark.Client.timed : Client IO := fun s r => do
  let start ← IO.monoNanosNow
  let (reply, server) ← IO.lazyPure fun _ => exchange s r
  let stop ← IO.monoNanosNow
  return (reply, server, Double.nearest (stop - start : Nat) / 1000000.0)

end SpriteStage

open SpriteStage Benchmark in
/-- Runs the benchmark and prints its report. -/
def main (arguments : List String) : IO UInt32 := do
  match ← ((run Client.timed (Plan.withArguments {} arguments)).run' {}).run with
  | .ok report =>
    IO.println (Json.write report.form)
    return 0
  | .error e =>
    IO.eprintln e.message
    return 1
