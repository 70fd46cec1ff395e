import SpriteStage.Value
import SpriteStage.Double.Shortest
import SpriteStage.Text.Quoted

/-!
# Writing JSON

`Json.write` writes a value on one line. Doubles keep a point or an exponent, so that they read back
as doubles; a torn text is written as it is shown.
-/

namespace SpriteStage.Json

/-- One character of a text: quotes, backslashes and controls are escaped. -/
def writeChar (c : Char) : List Char :=
  if c == '"' || c == '\\' then ['\\', c]
  else if c.toNat < 0x20 then '\\' :: 'u' :: Text.hex 4 c.toNat
  else [c]

def writeText (s : String) : String :=
  String.ofList ('"' :: s.toList.flatMap writeChar ++ ['"'])

def writeFloat (x : Float) : String :=
  if x.isNaN then "NaN"
  else if x.isFinite then Double.text x
  else if x > 0.0 then "Infinity" else "-Infinity"

mutual

def write : Value → String
  | .null => "null"
  | .bool true => "true"
  | .bool false => "false"
  | .int n => toString n
  | .float x => writeFloat x
  | .str s | .torn s => writeText s
  | .list items => "[" ++ ", ".intercalate (writeItems items) ++ "]"
  | .object fields => "\x7b" ++ ", ".intercalate (writeFields fields) ++ "\x7d"

def writeItems : List Value → List String
  | [] => []
  | v :: rest => write v :: writeItems rest

def writeFields : List (String × Value) → List String
  | [] => []
  | (name, v) :: rest => (writeText name ++ ": " ++ write v) :: writeFields rest

end

end SpriteStage.Json
