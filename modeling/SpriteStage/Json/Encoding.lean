import SpriteStage.Json.Symbol
import SpriteStage.Text.Utf8

/-!
# Encodings of documents

A document comes as bytes, whose zeros tell how it is encoded: it starts with a character of ASCII,
which takes one, two or four bytes. `contentOf?` gives the symbols of a document. What is sent is
a text, so the bytes are those of its characters in UTF-8.
-/

namespace SpriteStage.Json

/-- The order of the bytes of a number. -/
inductive ByteOrder where
  /-- The most significant byte comes first. -/
  | big
  /-- The least significant byte comes first. -/
  | little
  deriving Repr, DecidableEq

def ByteOrder.number (o : ByteOrder) (bytes : List Nat) : Nat :=
  let digits :=
    match o with
    | .big => bytes
    | .little => bytes.reverse
  digits.foldl (fun n b => 0x100 * n + b) 0

/-- How the characters of a document are written. -/
inductive Encoding where
  | utf8
  | utf16 (order : ByteOrder)
  | utf32 (order : ByteOrder)
  deriving Repr, DecidableEq

def Encoding.ofBytes : List Nat → Encoding
  | [0, _] => .utf16 .big
  | [_, 0] => .utf16 .little
  | 0 :: 0 :: _ :: _ :: _ => .utf32 .big
  | 0 :: _ :: _ :: _ :: _ => .utf16 .big
  | _ :: 0 :: 0 :: 0 :: _ => .utf32 .little
  | _ :: 0 :: _ :: _ :: _ => .utf16 .little
  | _ => .utf8

def ByteOrder.pairs? (o : ByteOrder) : List Nat → Option (List Nat)
  | a :: b :: rest => (o.pairs? rest).map (o.number [a, b] :: ·)
  | [] => some []
  | [_] => none

def ByteOrder.quads? (o : ByteOrder) : List Nat → Option (List Nat)
  | a :: b :: c :: d :: rest => (o.quads? rest).map (o.number [a, b, c, d] :: ·)
  | [] => some []
  | _ => none

/-- The symbols of code units of two bytes, where two halves form a character. -/
def ofUnits : List Nat → List Symbol
  | high :: low :: rest =>
    if isHigh high && isLow low then .ofPair high low :: ofUnits rest
    else .ofCode high :: ofUnits (low :: rest)
  | [n] => [.ofCode n]
  | [] => []

def lastCode : Nat := 0x10FFFF

/-- The symbols of a document that is sent as a text, unless its bytes are none in the encoding that
they show. A byte order mark at the front is dropped, and halves of four bytes each form no
character. -/
def contentOf? (sent : List Char) : Option (List Symbol) :=
  let bytes := Text.Utf8.encode sent
  match Encoding.ofBytes bytes with
  | .utf8 =>
    match sent with
    | '\uFEFF' :: rest => some (rest.map .char)
    | _ => some (sent.map .char)
  | .utf16 order => (order.pairs? bytes).map ofUnits
  | .utf32 order =>
    match order.quads? bytes with
    | some codes => if codes.all (· ≤ lastCode) then some (codes.map .ofCode) else none
    | none => none

end SpriteStage.Json
