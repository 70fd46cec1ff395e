import SpriteStage.Block.Basic
import SpriteStage.Value.Reading
import SpriteStage.Value.Text

/-!
# Actors

An actor is a sprite on the stage: a name, a look, a size and a script. The values that a client
gives for them are made to fit, so that every actor has a shape and a size that can be drawn. What
cannot be made to fit is a whole number that is too long to be written out or too large for a size.
-/

namespace SpriteStage

/-- The outline of a sprite. -/
inductive Shape where
  | square
  | circle
  deriving Repr, DecidableEq, Inhabited

namespace Shape

def name : Shape → String
  | square => "square"
  | circle => "circle"

/-- The shape that a value names, in whatever case; a square if it names none. No letter outside
ASCII has one of the letters of these names as its small form. -/
def ofValue? (v : Value) : Option Shape :=
  v.trimmed?.map fun name =>
    if name.toList.map Char.toLower = circle.name.toList then circle else square

end Shape

/-- A sprite on the stage. -/
structure Actor where
  id : String
  name : String
  color : String
  shape : Shape
  width : Float
  height : Float
  script : Script
  deriving Inhabited

namespace Actor

/-- The colour of a sprite that was given none. -/
def defaultColor : String := "#4C97FF"

/-- The width and height of a sprite that was given none. -/
def defaultSize : Float := 50.0

/-- The width or height that a value gives: the default unless it is a positive number. Only a whole
number beyond the range of doubles is refused. -/
def size (v : Value) : Except ReadingError Float :=
  match v.toFloat with
  | .ok x => .ok (if x.isNaN || x ≤ 0.0 then defaultSize else x)
  | .error .outOfRange => .error .outOfRange
  | .error _ => .ok defaultSize

end Actor

/-- What a client gives for a new actor. -/
structure Draft where
  id : Value := .null
  name : Value := .str ""
  color : Value := .str Actor.defaultColor
  shape : Value := .str Shape.square.name
  width : Value := .float Actor.defaultSize
  height : Value := .float Actor.defaultSize
  script : Script := []

namespace Draft

/-- Whether the new actor has to be given an identifier. -/
def needsId (d : Draft) : Bool := d.id.isBlank

/-- The identifier of the new actor, where `fresh` is the one to be used if none is given. -/
def idOr? (d : Draft) (fresh : String) : Option String :=
  d.id.trimmed?.map fun given => if given.isEmpty then fresh else given

/-- The name of the new actor: the given one, or a numbered one. -/
def nameOr? (d : Draft) (number : Nat) : Option String :=
  d.name.trimmed?.map fun given => if given.isEmpty then "Sprite " ++ toString number else given

/-- The new actor, as number `number` on the stage. -/
def actor (d : Draft) (id : String) (number : Nat) : Except ReadingError Actor := do
  let some name := d.nameOr? number | throw .tooManyDigits
  let some color := (d.color.orElse (.str Actor.defaultColor)).text? | throw .tooManyDigits
  let some shape := Shape.ofValue? d.shape | throw .tooManyDigits
  let width ← Actor.size d.width
  let height ← Actor.size d.height
  return { id, name, color, shape, width, height, script := d.script }

end Draft

/-- What can be changed about an actor, in the order in which changes are made. -/
inductive Attribute where
  | name
  | color
  | shape
  | width
  | height
  deriving Repr, DecidableEq

def Attribute.all : List Attribute := [name, color, shape, width, height]

/-- The actor with another value for an attribute. A blank name is no name. -/
def Actor.set (a : Actor) (v : Value) : Attribute → Except ReadingError Actor
  | .name => do
    let some text := v.text? | throw .tooManyDigits
    let name := Text.trim text
    return if name.isEmpty then a else { a with name }
  | .color => do
    let some color := v.text? | throw .tooManyDigits
    return { a with color }
  | .shape => do
    let some shape := Shape.ofValue? v | throw .tooManyDigits
    return { a with shape }
  | .width => do return { a with width := ← Actor.size v }
  | .height => do return { a with height := ← Actor.size v }

/-- What a client changes about an actor; nothing stands for no change. -/
structure Edit where
  name : Value := .null
  color : Value := .null
  shape : Value := .null
  width : Value := .null
  height : Value := .null

namespace Edit

def value (e : Edit) : Attribute → Value
  | .name => e.name
  | .color => e.color
  | .shape => e.shape
  | .width => e.width
  | .height => e.height

def change (e : Edit) (t : Attribute) (a : Actor) : Except ReadingError Actor :=
  match e.value t with
  | .null => .ok a
  | v => a.set v t

/-- The actor after changes of attributes, made one by one; the first change that is refused ends
them, and those before it stay. -/
def applyAll (e : Edit) : List Attribute → Actor → Actor × Option ReadingError
  | [], a => (a, none)
  | t :: rest, a =>
    match e.change t a with
    | .ok b => e.applyAll rest b
    | .error why => (a, some why)

def apply (e : Edit) (a : Actor) : Actor × Option ReadingError := e.applyAll Attribute.all a

end Edit

end SpriteStage
