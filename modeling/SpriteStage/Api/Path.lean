import SpriteStage.Text.Digit
import SpriteStage.Text.Pieces
import SpriteStage.Text.Quoted
import SpriteStage.Text.Utf8

/-!
# Paths

In a written path a percent sign and two hexadecimal digits stand for a byte. `decode` reads such a
path, where a percent sign without digits stands for itself; `encode` writes a text so that it can
stand between two slashes, and `escape` writes a whole path. `segments` takes a path apart.
-/

namespace SpriteStage.Api.Path

open SpriteStage.Text

def byte? (high low : Char) : Option Nat := do
  return 16 * (← hexDigit? high) + (← hexDigit? low)

def bytes : List Char → List Nat
  | '%' :: high :: low :: rest =>
    match byte? high low with
    | some b => b :: bytes rest
    | none => '%'.toNat :: bytes (high :: low :: rest)
  | c :: rest => Utf8.encodeChar c ++ bytes rest
  | [] => []

def decode (path : String) : String := String.ofList (Utf8.decode (bytes path.toList))

/-- A text with a percent sign and two digits for each of its bytes. -/
def encode (text : String) : String :=
  String.ofList ((Utf8.encode text.toList).flatMap fun b => '%' :: Text.hex 2 b)

/-- Whether a byte stays as it is in a path that is escaped: letters and digits of ASCII, slashes, a
few marks and the percent sign, which may belong to a byte that is written already. -/
def isPlain (b : Nat) : Bool :=
  let c := Char.ofNat b
  b < 0x80 && (c.isAlphanum || ['/', '-', '.', '_', '~', '%'].contains c)

/-- A path with a percent sign and two digits for each byte that does not stay as it is. -/
def escape (path : String) : String :=
  String.ofList ((Utf8.encode path.toList).flatMap fun b =>
    if isPlain b then [Char.ofNat b] else '%' :: Text.hex 2 b)

/-- The segments of a path, which stand between its slashes. -/
def segments (path : List Char) : List (List Char) := pieces (· == '/') path

end SpriteStage.Api.Path
