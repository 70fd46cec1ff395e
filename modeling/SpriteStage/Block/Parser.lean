import SpriteStage.Block.Error
import SpriteStage.Ids
import SpriteStage.Value.Text

/-!
# Reading blocks

A client writes a block as an object with a kind, parameters, an optional identifier and, for a
loop, children. `Block.parse` checks one and `Script.parse` checks a list of them, together with the
bound on its cost, which therefore also holds of every list of children. A block without an
identifier is numbered once its children have been.
-/

namespace SpriteStage

/-- A reader of blocks gives out identifiers and may refuse. -/
abbrev Parse := StateT Ids (Except BlockError)

/-- The number under a name: no truth value, and finite as a double. -/
def Kind.numberParam (k : Kind) (params : Value) (name : String) :
    Except BlockError Number := do
  let some v := params.field? name | throw (.missingParam k name)
  let some n := Number.ofValue? v | throw (.notNumber k name)
  match n.toFloat with
  | .ok x => if x.isFinite then return n else throw (.notFinite k name)
  | .error _ => throw (.notFinite k name)

def Kind.textParam (k : Kind) (params : Value) (name : String) : Except BlockError Value := do
  let some v := params.field? name | throw (.missingParam k name)
  match v with
  | .str _ | .torn _ => return v
  | _ => throw (.notText k name)

/-- The rounds of a loop: the number under its name, rounded up, and none if negative. -/
def roundsParam (params : Value) : Except BlockError Nat := do
  let n ← Kind.loop.numberParam params "times"
  if (Number.int maxRounds).lt n then throw .tooManyRounds
  match n with
  | .int n => return n.toNat
  | .float x => return ((Double.ceil? x).getD 0).toNat

def Kind.ofBlock (raw : Value) : Except BlockError Kind := do
  let some name := (raw.field "type").trimmed? | throw .tooManyDigits
  match Kind.ofName? name with
  | some k => return k
  | none => throw (if name.isEmpty then .missingKind else .unknownKind name)

/-- The parameters of a written block; they may be left out. -/
def Kind.paramsOf (k : Kind) (raw : Value) : Except BlockError Value :=
  match raw.field "params" with
  | .null => .ok (.object [])
  | .object fields => .ok (.object fields)
  | _ => .error (.paramsNotObject k)

/-- The identifier that a written block gives; it is empty if there is none. -/
def Parse.given (raw : Value) : Except BlockError String :=
  match (raw.field "id").trimmed? with
  | some given => .ok given
  | none => .error .tooManyDigits

/-- The identifier that a written block has given, or else a new one. -/
def Parse.id (given : String) : Parse String := fun ids =>
  if given.isEmpty then .ok ids.block else .ok (given, ids)

def Script.checked (script : Script) : Except BlockError Script :=
  if maxCost < script.cost then .error (.tooCostly script.cost) else .ok script

mutual

/-- The block that a value describes. -/
def Block.parse : Value → Parse Block
  | .object fields => do
    let raw := Value.object fields
    let k ← Kind.ofBlock raw
    let params ← k.paramsOf raw
    let given ← Parse.given raw
    match k with
    | .move =>
      let steps ← k.numberParam params "steps"
      return .move (← Parse.id given) steps.toValue
    | .turn =>
      let degrees ← k.numberParam params "degrees"
      return .turn (← Parse.id given) degrees.toValue
    | .goto =>
      let x ← k.numberParam params "x"
      let y ← k.numberParam params "y"
      return .goto (← Parse.id given) x.toValue y.toValue
    | .bubble b =>
      let text ← k.textParam params "text"
      let seconds ← k.numberParam params "seconds"
      return .bubble (← Parse.id given) b text seconds.toValue
    | .loop =>
      match raw.field "children" with
      | .null | .list _ => pure ()
      | _ => throw .childrenNotList
      let rounds ← roundsParam params
      let body ← Script.parseChildren fields
      return .loop (← Parse.id given) (.int rounds) body
  | _ => throw .notObject

/-- The script that the children among the fields of a loop describe; they may be left out. -/
def Script.parseChildren : List (String × Value) → Parse Script
  | [] => return []
  | (name, v) :: rest =>
    if "children" == name then
      match v with
      | .list items => do
        let script ← Script.parseBlocks items
        Script.checked script
      | _ => return []
    else Script.parseChildren rest

def Script.parseBlocks : List Value → Parse Script
  | [] => return []
  | v :: rest => do
    let b ← Block.parse v
    let script ← Script.parseBlocks rest
    return b :: script

end

def Script.parse (raw : List Value) : Parse Script := do
  let script ← Script.parseBlocks raw
  Script.checked script

end SpriteStage
