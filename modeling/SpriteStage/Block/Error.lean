import SpriteStage.Block.Cost
import SpriteStage.Value.Text

/-!
# Why a block is refused

The causes for which a written block or script is refused, and the words in which a client is told.
All but one are faults of the block: a kind or an identifier that cannot be written out stops the
reader before it has looked at the block.
-/

namespace SpriteStage

/-- A cause for which a written block or script is refused. -/
inductive BlockError where
  | notObject
  | missingKind
  | unknownKind (name : String)
  | paramsNotObject (k : Kind)
  | missingParam (k : Kind) (param : String)
  | notNumber (k : Kind) (param : String)
  | notFinite (k : Kind) (param : String)
  | notText (k : Kind) (param : String)
  | childrenNotList
  | tooManyRounds
  | tooCostly (cost : Nat)
  /-- A whole number, given as a kind or an identifier, has too many digits. -/
  | tooManyDigits
  deriving Repr, DecidableEq

namespace BlockError

private def about (k : Kind) (param : String) : String :=
  "Block '" ++ k.name ++ "' parameter '" ++ param ++ "'"

def message : BlockError → String
  | notObject => "Block payload must be an object"
  | missingKind => "Unknown block type: <missing>"
  | unknownKind name => "Unknown block type: " ++ name
  | paramsNotObject k => "Block '" ++ k.name ++ "' params must be an object"
  | missingParam k param =>
    "Block '" ++ k.name ++ "' is missing required parameter '" ++ param ++ "'"
  | notNumber k param => about k param ++ " must be a number"
  | notFinite k param => about k param ++ " must be finite"
  | notText k param => about k param ++ " must be a string"
  | childrenNotList => "Block 'repeat' children must be a list"
  | tooManyRounds => about .loop "times" ++ " must be at most " ++ toString maxRounds
  | tooCostly cost =>
    "Script would evaluate " ++ toString cost ++ " blocks per tick; the limit is "
      ++ toString maxCost
  | tooManyDigits => "Too many digits"

/-- Whether a cause is a fault of the block. -/
def isFault (e : BlockError) : Bool := e != tooManyDigits

end BlockError

/-- The category of the kind that a value names, word for word. -/
def Category.ofValue (v : Value) : Except BlockError Category := do
  let some name := v.text? | throw .tooManyDigits
  let some k := Kind.ofName? name | throw (.unknownKind name)
  return k.category

end SpriteStage
