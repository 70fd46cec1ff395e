import SpriteStage.Value
import SpriteStage.Double.Reader
import SpriteStage.Double.Shortest
import SpriteStage.Text.Blank
import SpriteStage.Text.Quoted

/-!
# The text of a value

Identifiers, names, colours and shapes are texts; a client may write any value for them, and then
its text is taken. `text?` is that text and `shown?` is the form a value has inside a list, an
object or a message, where texts are quoted. A whole number with too many digits is not written out,
and neither is what holds one: such a value has no text, and whatever needs one is refused.
Identifiers are valid text, so a torn text is the key of nothing.
-/

namespace SpriteStage.Value

/-- Whether a value is a whole number with more digits than are written out. -/
def isLong : Value → Bool
  | int n => Nat.pow 10 Double.maxDigits ≤ n.natAbs
  | _ => false

mutual

/-- A value as it appears inside another: texts are quoted. -/
def shown? : Value → Option String
  | null => some "None"
  | bool true => some "True"
  | bool false => some "False"
  | int n => if isLong (int n) then none else some (toString n)
  | float x => some (Double.text x)
  | str s | torn s => some (Text.quote s)
  | list items => do return "[" ++ ", ".intercalate (← shownItems? items) ++ "]"
  | object fields => do return "\x7b" ++ ", ".intercalate (← shownFields? fields) ++ "\x7d"

def shownItems? : List Value → Option (List String)
  | [] => some []
  | v :: rest => do return (← shown? v) :: (← shownItems? rest)

def shownFields? : List (String × Value) → Option (List String)
  | [] => some []
  | (name, v) :: rest => do
    return (Text.quote name ++ ": " ++ (← shown? v)) :: (← shownFields? rest)

end

/-- The text of a value; a text stands for itself. -/
def text? : Value → Option String
  | str s | torn s => some s
  | v => shown? v

/-- The key under which a value looks something up. -/
def key? (v : Value) : Option String := if v.isTorn then none else v.text?

/-- A value without blanks at its ends, if it is a text. -/
def trim : Value → Value
  | str s => str (Text.trim s)
  | torn s => torn (Text.trim s)
  | v => v

/-- The text of a value without blanks at its ends, where a void value has an empty text. -/
def trimmed? (v : Value) : Option String := (v.orElse (str "")).text?.map Text.trim

/-- Whether nothing is left of the text of a value without the blanks. -/
def isBlank (v : Value) : Bool := v.trimmed? == some ""

@[simp] theorem text?_str (s : String) : (str s).text? = some s := by simp [text?]

@[simp] theorem key?_str (s : String) : (str s).key? = some s := by simp [key?, isTorn]

end SpriteStage.Value
