import SpriteStage.Value
import SpriteStage.Double.Reader

/-!
# Reading values as numbers

Where a number is wanted and any value may have been written, `toFloat` reads it or tells why it
cannot. `finite` is the reading of block parameters: whatever has no finite reading counts as zero.
Where a series of numbers is wanted, `elements` takes the value apart.
-/

namespace SpriteStage

/-- Why a value has no reading as a double. -/
inductive ReadingError where
  /-- Something that is no number, or no series, stands where one is wanted. -/
  | notNumeric
  /-- A text does not denote a number. -/
  | malformed
  /-- A whole number is beyond the range of doubles, or a slot asks for too many digits. -/
  | outOfRange
  /-- A whole number has too many digits to be written out. -/
  | tooManyDigits
  /-- A text would be too long to be held. -/
  | tooLong
  deriving Repr, DecidableEq

namespace Number

/-- The double closest to a number, unless it is beyond the range of doubles. -/
def toFloat : Number → Except ReadingError Float
  | int n =>
    match Double.ofInt? n with
    | some x => .ok x
    | none => .error .outOfRange
  | float x => .ok x

/-- Whether a number is below another, both taken exactly. -/
def lt : Number → Number → Bool
  | int m, int n => m < n
  | float x, float y => x < y
  | int m, float y =>
    match Double.rational? y with
    | some q => (m : Rat) < q
    | none => y > 0.0
  | float x, int n =>
    match Double.rational? x with
    | some q => q < (n : Rat)
    | none => x < 0.0

/-- The sum: exact on whole numbers, and on doubles otherwise. -/
def add : Number → Number → Except ReadingError Number
  | int m, int n => .ok (int (m + n))
  | a, b => do return float ((← a.toFloat) + (← b.toFloat))

/-- The product: exact on whole numbers, and on doubles otherwise. -/
def mul : Number → Number → Except ReadingError Number
  | int m, int n => .ok (int (m * n))
  | a, b => do return float ((← a.toFloat) * (← b.toFloat))

end Number

namespace Value

/-- The double that a value denotes: truth values are one and zero, texts are read, and whole
numbers go to the closest double. -/
def toFloat : Value → Except ReadingError Float
  | bool b => .ok (if b then 1.0 else 0.0)
  | int n => (Number.int n).toFloat
  | float x => .ok x
  | str s =>
    match Double.readFloat? s with
    | some x => .ok x
    | none => .error .malformed
  | torn _ => .error .malformed
  | null | list _ | object _ => .error .notNumeric

/-- The number that a value counts as in a sum or a product: truth values are one and zero, and
texts are no numbers. -/
def asNumber : Value → Except ReadingError Number
  | bool b => .ok (.int (if b then 1 else 0))
  | int n => .ok (.int n)
  | float x => .ok (.float x)
  | _ => .error .notNumeric

/-- The parts that a value is a series of: the members of a list, the characters of a text or the
names of the fields of an object. A void value has none. -/
def elements : Value → Except ReadingError (List Value)
  | list items => .ok items
  | str s => .ok (s.toList.map fun c => str (String.singleton c))
  | object fields => .ok (fields.map fun (name, _) => str name)
  | v => if v.isVoid then .ok [] else .error .notNumeric

/-- The finite double that a value denotes, and zero when it denotes none. -/
def finite (v : Value) : Float :=
  match v.toFloat with
  | .ok x => Double.finite x
  | .error _ => 0.0

def nonNegative (v : Value) : Float := Double.atLeastZero v.finite

end Value

end SpriteStage
