import SpriteStage.Block.Basic
import SpriteStage.Value.Reading

/-!
# The cost of a script

The cost of a script is the number of blocks that one pass over it evaluates: each block counts one,
and a loop adds the cost of its body once for every round. `Script.cost` takes whole numbers of
rounds, as checked scripts have them; `Script.charge` works out the cost of unchecked scripts in the
arithmetic of the numbers that stand in them.
-/

namespace SpriteStage

def maxRounds : Nat := 10000

def maxCost : Nat := 100000

/-- The rounds of a loop whose count is a whole number; none if it is not. -/
def Value.rounds : Value → Nat
  | int n => n.toNat
  | _ => 0

mutual

/-- The number of blocks that one evaluation of a block evaluates, itself included. -/
def Block.cost : Block → Nat
  | .loop _ times body => 1 + times.rounds * Script.cost body
  | _ => 1

/-- The number of blocks that one pass over a script evaluates. -/
def Script.cost : Script → Nat
  | [] => 0
  | b :: rest => Block.cost b + Script.cost rest

end

def Number.atLeastZero (n : Number) : Number := if (Number.int 0).lt n then n else .int 0

mutual

/-- What a loop adds to the cost besides itself: its rounds, none if negative, times the cost of its
body. Other blocks add nothing. -/
def Block.surcharge? : Block → Except ReadingError (Option Number)
  | .loop _ times body => do
    let rounds ← times.asNumber
    let each ← Script.charge body
    return some (← rounds.atLeastZero.mul each)
  | _ => return none

/-- The cost of an unchecked script: a whole number, unless a count of rounds is a double. -/
def Script.charge (script : Script) : Except ReadingError Number :=
  Script.chargeFrom (.int 0) script

def Script.chargeFrom (total : Number) : Script → Except ReadingError Number
  | [] => return total
  | b :: rest => do
    let total ← total.add (.int 1)
    let total ←
      match ← Block.surcharge? b with
      | some extra => total.add extra
      | none => pure total
    Script.chargeFrom total rest

end

end SpriteStage
