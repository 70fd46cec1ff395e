/-!
# Values

The data that clients write and read: nothing, truth values, whole numbers of any size, doubles,
text, lists and objects. A whole number and a double that denote the same number stay apart, because
an answer gives a number back in the form in which it was written. A text may come torn; then it can
be kept, but not written.
-/

namespace SpriteStage

/-- A datum as a client writes it; the fields of an object keep their order. -/
inductive Value where
  | null
  | bool (b : Bool)
  | int (n : Int)
  | float (x : Float)
  | str (s : String)
  /-- A text in which half a character stands alone. The replacement character shows where. -/
  | torn (s : String)
  | list (items : List Value)
  | object (fields : List (String × Value))
  deriving Inhabited

namespace Value

def field? (name : String) : Value → Option Value
  | object fields => fields.lookup name
  | _ => none

/-- A field, where an absent field reads as nothing. -/
def field (name : String) (v : Value) : Value := (v.field? name).getD null

/-- Whether a value is nothing, no, zero or empty. A double that is not a number is none of them. -/
def isVoid : Value → Bool
  | null => true
  | bool b => !b
  | int n => n == 0
  | float x => x == 0.0
  | str s => s.isEmpty
  | torn _ => false
  | list items => items.isEmpty
  | object fields => fields.isEmpty

def isTorn : Value → Bool
  | torn _ => true
  | _ => false

def orElse (v other : Value) : Value := if v.isVoid then other else v

@[simp] theorem orElse_null (v : Value) : Value.orElse null v = v := rfl

def ofNames (names : List String) : Value := list (names.map str)

def ofNat (n : Nat) : Value := int n

def ofOption (v : Option Value) : Value := v.getD null

end Value

/-- A number in the form in which it was written. -/
inductive Number where
  | int (n : Int)
  | float (x : Float)
  deriving Inhabited

namespace Number

def toValue : Number → Value
  | int n => .int n
  | float x => .float x

/-- The number that a value holds, if it holds one; truth values are no numbers. -/
def ofValue? : Value → Option Number
  | .int n => some (int n)
  | .float x => some (float x)
  | _ => none

theorem ofValue?_toValue (n : Number) : ofValue? n.toValue = some n := by
  cases n <;> rfl

end Number

end SpriteStage
