import SpriteStage.Value

/-!
# Faults of a request body

A body that does not have the form that an endpoint wants is answered by the list of its faults: for
each, where it is, of what kind, and the value in which it was found. Of that value some fields are
kept from sight.
-/

namespace SpriteStage.Api

/-- A step from a value into one of its parts. -/
inductive Step where
  | field (name : String)
  | index (n : Nat)
  deriving Repr, DecidableEq

/-- The way from the request to a value. -/
abbrev Place := List Step

def Place.body : Place := [.field "body"]

/-- What is wrong with a value. -/
inductive FaultKind where
  | missing
  | unreadable
  | notRecord
  | notText
  | notWhole
  | tooShort
  | tooLong
  | badPattern
  | notNumber
  | badNumeral
  | tooLarge
  | notPositive
  | notList
  | tooMany
  | notObject
  deriving Repr, DecidableEq

def FaultKind.name : FaultKind → String
  | missing => "missing"
  | unreadable => "json_invalid"
  | notRecord => "model_attributes_type"
  | notText => "string_type"
  | notWhole => "string_unicode"
  | tooShort => "string_too_short"
  | tooLong => "string_too_long"
  | badPattern => "string_pattern_mismatch"
  | notNumber => "float_type"
  | badNumeral => "float_parsing"
  | tooLarge => "less_than_equal"
  | notPositive => "greater_than"
  | notList => "list_type"
  | tooMany => "too_long"
  | notObject => "dict_type"

/-- A kind of fault, where it is, and the faulty value; for a value that is missing, the one around
it. -/
structure Fault where
  place : Place
  kind : FaultKind
  input : Value

def Step.form : Step → Value
  | field name => .str name
  | index n => .ofNat n

/-! ## What is shown of a faulty value -/

def isHidden (name : String) : Bool := name.startsWith "_sa"

mutual

/-- A value without the fields that are kept from sight, at any depth. -/
def visible : Value → Value
  | .list items => .list (visibleItems items)
  | .object fields => .object (visibleFields fields)
  | v => v

def visibleItems : List Value → List Value
  | [] => []
  | v :: rest => visible v :: visibleItems rest

def visibleFields : List (String × Value) → List (String × Value)
  | [] => []
  | (name, v) :: rest =>
    if isHidden name then visibleFields rest else (name, visible v) :: visibleFields rest

end

def Fault.form (f : Fault) : Value :=
  .object
    [("type", .str f.kind.name), ("loc", .list (f.place.map Step.form)),
      ("input", visible f.input)]

/-- Looks for faults in a value at a place. -/
abbrev Check := Place → Value → List Fault

end SpriteStage.Api
