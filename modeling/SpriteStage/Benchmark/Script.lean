import SpriteStage.Benchmark.Template
import SpriteStage.Block.Kind
import SpriteStage.Value.Reading
import SpriteStage.Value.Text

/-!
# The scripts of the benchmark

Every sprite of the benchmark speaks, walks in a circle and thinks. Its number decides how far it
walks and how sharply it turns.
-/

namespace SpriteStage.Benchmark

/-- The remainder of a number by a positive whole number: not negative for whole numbers, and for
doubles zero or of positive sign as far as rounding allows. -/
def modulo (n : Number) (m : Nat) : Number :=
  match n with
  | .int n => .int (n % m)
  | .float x =>
    let rest := Double.remainder x (Double.nearest m)
    .float (if rest == 0.0 then 0.0 else if rest < 0.0 then rest + Double.nearest m else rest)

def block (k : Kind) (params : List (String × Value)) : Value :=
  .object [("type", .str k.name), ("params", .object params)]

def loop (times : Nat) (children : List Value) : Value :=
  .object
    [("type", .str Kind.loop.name), ("params", .object [("times", .ofNat times)]),
      ("children", .list children)]

def number : Value → Except ReadingError Number
  | .str s => .error (Template.fault s)
  | v => v.asNumber

def script (index : Value) : Except ReadingError (List Value) := do
  let some text := index.text? | throw .tooManyDigits
  let n ← number index
  let steps ← (Number.int 3).add (modulo n 5)
  let turns ← (Number.int 1).add (modulo n 3)
  let degrees ← (Number.int 15).mul turns
  return [
    block (.bubble .say) [("text", .str ("bench " ++ text)), ("seconds", .int 2)],
    loop 4 [
      block .move [("steps", steps.toValue)],
      block .turn [("degrees", degrees.toValue)],
      loop 2 [block (.bubble .think) [("text", .str "hmm"), ("seconds", .int 1)]]]]

end SpriteStage.Benchmark
