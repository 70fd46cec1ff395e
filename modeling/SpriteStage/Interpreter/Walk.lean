import SpriteStage.Block.Cost
import SpriteStage.Value.Reading

/-!
# Walking a script

A script runs from its first block to its last, and a loop runs its body as often as its count says.
`Script.walk` is this order of execution, for any state and any visitor: the visitor is told of each
block when it is evaluated and of each round of a loop when it starts. The interpreter is one
visitor; counting evaluations or rounds is another.
-/

namespace SpriteStage

/-- The rounds of a loop with a given count: rounded up, none if negative or without a finite
reading, and never more than the largest number of rounds. -/
def repeatCount (times : Value) : Nat :=
  min maxRounds ((Double.ceil? times.nonNegative).getD 0).toNat

/-- What is done during a walk with the state that is carried along. -/
structure Visitor (σ : Type) where
  /-- Called for each evaluation of a block; for a loop, before its rounds. -/
  block : Block → σ → σ
  /-- Called at the start of each round. -/
  round : σ → σ

mutual

def Block.walk (v : Visitor σ) : Block → σ → σ
  | .loop id times body, s =>
    Nat.repeat (fun s => Script.walk v body (v.round s)) (repeatCount times)
      (v.block (.loop id times body) s)
  | .move id steps, s => v.block (.move id steps) s
  | .turn id degrees, s => v.block (.turn id degrees) s
  | .goto id x y, s => v.block (.goto id x y) s
  | .bubble id b text seconds, s => v.block (.bubble id b text seconds) s
  | .unknown, s => v.block .unknown s

def Script.walk (v : Visitor σ) : Script → σ → σ
  | [], s => s
  | b :: rest, s => Script.walk v rest (Block.walk v b s)

end

end SpriteStage
