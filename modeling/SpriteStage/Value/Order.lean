import SpriteStage.Value.Reading

/-!
# The order of values

Numbers are ordered by size, texts by their characters and lists by the first members in which they
differ. `less` compares two values, which fails if nothing orders them. Whether two values are equal
can always be told: a number equals every number of the same size, in whatever form it is written.
-/

namespace SpriteStage

def Number.equals : Number → Number → Bool
  | int m, int n => m == n
  | float x, float y => x == y
  | int n, float x | float x, int n => Double.rational? x == some (n : Rat)

namespace Value

mutual

/-- Whether two values are equal; the order of the fields of an object does not matter. -/
def equals : Value → Value → Bool
  | null, null => true
  | str s, str t => s == t
  | list items, list others => equalItems items others
  | object fields, object others =>
    fields.length == others.length && equalFields fields others
  | v, w =>
    match v.asNumber, w.asNumber with
    | .ok m, .ok n => m.equals n
    | _, _ => false

def equalItems : List Value → List Value → Bool
  | [], [] => true
  | v :: rest, w :: others => equals v w && equalItems rest others
  | _, _ => false

def equalFields : List (String × Value) → List (String × Value) → Bool
  | [], _ => true
  | (name, v) :: rest, others =>
    (match others.lookup name with
    | some w => equals v w
    | none => false) && equalFields rest others

end

mutual

def less : Value → Value → Except ReadingError Bool
  | str s, str t => .ok (s < t)
  | list items, list others => lessItems items others
  | v, w => do return (← v.asNumber).lt (← w.asNumber)

/-- Whether a list comes before another, if the first members in which they differ can be
ordered. -/
def lessItems : List Value → List Value → Except ReadingError Bool
  | [], others => .ok !others.isEmpty
  | _ :: _, [] => .ok false
  | v :: rest, w :: others => if v.equals w then lessItems rest others else less v w

end

end Value

end SpriteStage
