import SpriteStage.Api.Fault
import SpriteStage.Block.Kind
import SpriteStage.Double.Reader
import SpriteStage.Json.Encoding
import SpriteStage.Json.Reader
import SpriteStage.Stage.Actor

/-!
# The forms of request bodies

Each endpoint that takes a body wants an object with certain fields. A form lists the fields and
what may stand in them; its check finds the faults of a body, field by field in the order of the
form. Fields that the form does not list may hold anything. What a check accepts is an assumption on
the web framework, see `Api.Respond`.
-/

namespace SpriteStage.Api

/-- What comes with a request. -/
inductive Body where
  | absent
  /-- Characters that are no document. -/
  | unreadable
  /-- What cannot be turned into characters, or holds a number that is not read. -/
  | garbled
  | document (v : Value)

def Body.ofText (s : String) : Body :=
  if s.isEmpty then .absent
  else
    match (Json.contentOf? s.toList).map Json.read with
    | some (.ok v) => .document v
    | some (.error .malformed) => .unreadable
    | some (.error .tooManyDigits) | none => .garbled

/-! ## Fields -/

def Check.ofKind (f : Value → Option FaultKind) : Check := fun place v =>
  (f v).toList.map fun kind => ⟨place, kind, v⟩

def Check.orNull (c : Check) : Check := fun place v =>
  match v with
  | .null => []
  | v => c place v

def Check.anyText : Check := .ofKind fun v =>
  match v with
  | .str _ | .torn _ => none
  | _ => some .notText

def Check.text (least most : Nat) : Check := .ofKind fun v =>
  match v with
  | .str s =>
    if most < s.length then some .tooLong
    else if s.length < least then some .tooShort
    else none
  | .torn _ => some .notWhole
  | _ => some .notText

def Check.pattern (p : String → Bool) : Check := .ofKind fun v =>
  match v with
  | .str s => if p s then none else some .badPattern
  | .torn _ => some .notWhole
  | _ => some .notText

def nameLimit : Nat := 120

def Check.name : Check := .text 1 nameLimit

/-- Whether a text is a colour: a hash sign and six hexadecimal digits. -/
def isColor (s : String) : Bool :=
  match s.toList with
  | '#' :: digits => digits.length == 6 && digits.all fun c => (Text.hexDigit? c).isSome
  | _ => false

def isShape (s : String) : Bool := s == Shape.square.name || s == Shape.circle.name

def sizeLimit : Float := 1000.0

/-- The double in a field: truth values are one and zero, and texts are read. -/
def readNumber : Value → Except FaultKind Float
  | .bool b => .ok (if b then 1.0 else 0.0)
  | .int n =>
    match Double.ofInt? n with
    | some x => .ok x
    | none => .error .notNumber
  | .float x => .ok x
  | .str s =>
    match Double.readPlain? s with
    | some x => .ok x
    | none => .error .badNumeral
  | .torn _ => .error .notWhole
  | _ => .error .notNumber

/-- The width or height in a field: positive and not too large. What is not a number counts as too
large. -/
def readSize (v : Value) : Except FaultKind Float := do
  let x ← readNumber v
  if !(x ≤ sizeLimit) then throw .tooLarge
  if x ≤ 0.0 then throw .notPositive
  return x

def Check.size : Check := .ofKind fun v =>
  match readSize v with
  | .ok _ => none
  | .error kind => some kind

def Check.object : Check := .ofKind fun v =>
  match v with
  | .object _ => none
  | _ => some .notObject

def Check.membersFrom (c : Check) (place : Place) (n : Nat) : List Value → List Fault
  | [] => []
  | v :: rest => c (place ++ [.index n]) v ++ c.membersFrom place (n + 1) rest

def Check.list (c : Check) (most : Option Nat) : Check := fun place v =>
  match v with
  | .list items =>
    if most.any (· < items.length) then [⟨place, .tooMany, v⟩] else c.membersFrom place 0 items
  | _ => [⟨place, .notList, v⟩]

/-- A field of a form. -/
structure Field where
  name : String
  check : Check
  required : Bool := false

def Field.faults (f : Field) (place : Place) (v : Value) : List Fault :=
  let place := place ++ [.field f.name]
  match v.field? f.name with
  | some w => f.check place w
  | none => if f.required then [⟨place, .missing, v⟩] else []

/-! ## Blocks -/

def blockForm : List Field :=
  [⟨"id", .orNull .name, false⟩, ⟨"type", .pattern fun s => (Kind.ofName? s).isSome, true⟩,
    ⟨"category", .orNull .anyText, false⟩, ⟨"params", .object, false⟩]

mutual

def blockFaults (place : Place) : Value → List Fault
  | .object fields =>
    blockForm.flatMap (fun f => f.faults place (.object fields)) ++ childFaults place fields
  | v => [⟨place, .notRecord, v⟩]

def childFaults (place : Place) : List (String × Value) → List Fault
  | [] => []
  | (name, v) :: rest =>
    if "children" == name then
      match v with
      | .list items => memberFaults (place ++ [.field "children"]) 0 items
      | v => [⟨place ++ [.field "children"], .notList, v⟩]
    else childFaults place rest

def memberFaults (place : Place) (n : Nat) : List Value → List Fault
  | [] => []
  | v :: rest => blockFaults (place ++ [.index n]) v ++ memberFaults place (n + 1) rest

end

def Check.script : Check := fun place v =>
  match v with
  | .list items => memberFaults place 0 items
  | _ => [⟨place, .notList, v⟩]

/-! ## Bodies -/

def createForm : List Field :=
  [⟨"actor_id", .orNull .name, false⟩, ⟨"name", .text 0 nameLimit, false⟩,
    ⟨"color", .pattern isColor, false⟩, ⟨"shape", .pattern isShape, false⟩,
    ⟨"width", .size, false⟩, ⟨"height", .size, false⟩, ⟨"script", .script, false⟩]

def editForm : List Field :=
  [⟨"name", .orNull .name, false⟩, ⟨"color", .orNull (.pattern isColor), false⟩,
    ⟨"shape", .orNull (.pattern isShape), false⟩, ⟨"width", .orNull .size, false⟩,
    ⟨"height", .orNull .size, false⟩]

def scriptForm : List Field := [⟨"script", .script, false⟩]

def pairLimit : Nat := 500

def reportForm : List Field :=
  [⟨"pairs", .list (.list .anyText none) (some pairLimit), false⟩]

/-- Why a body is refused. -/
inductive BodyError where
  | faults (found : List Fault)
  /-- The body is garbled. -/
  | garbled

/-- The object in a body that has the fields of a form, or else why the body is refused. -/
def Body.read (form : List Field) : Body → Except BodyError Value
  | .absent => .error (.faults [⟨.body, .missing, .null⟩])
  | .unreadable => .error (.faults [⟨.body, .unreadable, .object []⟩])
  | .garbled => .error .garbled
  | .document (.object fields) =>
    match form.flatMap fun f => f.faults .body (.object fields) with
    | [] => .ok (.object fields)
    | found => .error (.faults found)
  | .document v => .error (.faults [⟨.body, .notRecord, v⟩])

/-! ## Contents -/

/-- The members of a list in a field; none if there is no such field. -/
def listIn (v : Value) (name : String) : List Value :=
  match v.field name with
  | .list items => items
  | _ => []

/-- The size in a field, or a substitute if there is none. -/
def sizeIn (v : Value) (name : String) (other : Value) : Value :=
  match (v.field? name).map readSize with
  | some (.ok x) => .float x
  | _ => other

def draftIn (v : Value) (script : Script) : Draft :=
  let blank : Draft := { script }
  { blank with
    id := v.field "actor_id"
    name := (v.field? "name").getD blank.name
    color := (v.field? "color").getD blank.color
    shape := (v.field? "shape").getD blank.shape
    width := sizeIn v "width" blank.width
    height := sizeIn v "height" blank.height }

def editIn (v : Value) : Edit where
  name := v.field "name"
  color := v.field "color"
  shape := v.field "shape"
  width := sizeIn v "width" .null
  height := sizeIn v "height" .null

/-- The pairs of a report: lists of two texts that are not blank, without the blanks around them. -/
def pairsIn (v : Value) : List (Value × Value) :=
  (listIn v "pairs").filterMap fun pair =>
    match pair with
    | .list [a, b] =>
      if a.isBlank || b.isBlank then none else some (a.trim, b.trim)
    | _ => none

end SpriteStage.Api
