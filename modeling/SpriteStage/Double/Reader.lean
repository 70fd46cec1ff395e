import SpriteStage.Double.Exact
import SpriteStage.Text.Blank
import SpriteStage.Text.Digit

/-!
# Reading numbers

The texts that denote numbers. `readInt?` takes a sign and digits, as long as they are not too many;
`readFloat?` also takes a point, a power of ten, and the names of infinity and of what is not a
number. Digits of every script count, and a single underscore may stand between two digits.
`readPlain?` is the narrower reading of form fields: ASCII digits, and underscores only as a second
attempt.
-/

namespace SpriteStage.Double

open SpriteStage.Text

/-- What counts as a digit, and whether an underscore may join two digits. -/
structure Alphabet where
  digit? : Char → Option Nat
  joined : Bool

/-- Digits of all scripts, joined by underscores. -/
def everyScript : Alphabet := ⟨digit?, true⟩

/-- The ten ASCII digits, not joined. -/
def asciiOnly : Alphabet := ⟨asciiDigit?, false⟩

def Alphabet.starts (a : Alphabet) (cs : List Char) : Bool := (cs.head?.bind a.digit?).isSome

/-- The longest run of digits at the front, and the rest; `inside` tells that a digit came just
before, so that an underscore may join it to the next one. -/
def Alphabet.runFrom (a : Alphabet) (inside : Bool) : List Char → List Nat × List Char
  | [] => ([], [])
  | c :: cs =>
    match a.digit? c with
    | some d =>
      let (ds, rest) := a.runFrom true cs
      (d :: ds, rest)
    | none =>
      if c == '_' && a.joined && inside && a.starts cs then a.runFrom false cs else ([], c :: cs)

/-- The longest run of digits at the front, and the rest. -/
def Alphabet.run (a : Alphabet) (cs : List Char) : List Nat × List Char := a.runFrom false cs

/-- A sign at the front, true for minus, and the rest. -/
def sign : List Char → Bool × List Char
  | '-' :: cs => (true, cs)
  | '+' :: cs => (false, cs)
  | cs => (false, cs)

/-- The power of ten at the front, zero if there is none, and the rest. -/
def Alphabet.power (a : Alphabet) (cs : List Char) : Int × List Char :=
  match cs with
  | c :: rest =>
    if c == 'e' || c == 'E' then
      let (negative, rest) := sign rest
      match a.run rest with
      | ([], _) => (0, cs)
      | (ds, left) => (if negative then -(ofDigits ds : Int) else ofDigits ds, left)
    else (0, cs)
  | [] => (0, [])

/-- The double that a list of characters denotes as a whole, without sign. -/
def Alphabet.size? (a : Alphabet) (cs : List Char) : Option Float :=
  let word := cs.map Char.toLower
  if word == "inf".toList || word == "infinity".toList then some (1.0 / 0.0)
  else if word == "nan".toList then some (0.0 / 0.0)
  else
    let (whole, rest) := a.run cs
    let (fraction, rest) :=
      match rest with
      | '.' :: rest => a.run rest
      | _ => ([], rest)
    if whole.isEmpty && fraction.isEmpty then none
    else
      match a.power rest with
      | (power, []) =>
        let exponent := power - fraction.length
        some (.ofScientific (ofDigits (whole ++ fraction)) (exponent < 0) exponent.natAbs)
      | _ => none

/-- The double that a list of characters denotes as a whole. -/
def Alphabet.float? (a : Alphabet) (cs : List Char) : Option Float :=
  let (negative, size) := sign cs
  (a.size? size).map fun x => if negative then -x else x

/-- The double that a text denotes, spaces around it aside. Beyond the range it is an infinity. -/
def readFloat? (s : String) : Option Float :=
  everyScript.float? (trimList isSpace s.toList)

/-- The most digits with which a whole number is read, zeros at the front included. -/
def maxDigits : Nat := 4300

/-- The whole number with the given digits, if they are not too many. -/
def wholeNumber? (negative : Bool) (digits : List Nat) : Option Int :=
  if maxDigits < digits.length then none
  else some (if negative then -(ofDigits digits : Int) else ofDigits digits)

/-- The whole number that a text denotes, spaces around it aside. -/
def readInt? (s : String) : Option Int :=
  let (negative, digits) := sign (trimList isSpace s.toList)
  match everyScript.run digits with
  | ([], _) => none
  | (ds, []) => wholeNumber? negative ds
  | _ => none

/-- A text without its underscores, if it has some and none of them is at an end or beside
another. -/
def unjoined? (cs : List Char) : Option (List Char) :=
  let doubled := (cs.zip (cs.drop 1)).any fun pair => pair.1 == '_' && pair.2 == '_'
  if cs.head? == some '_' || cs.getLast? == some '_' || !cs.contains '_' || doubled then none
  else some (cs.filter (· != '_'))

/-- The double that a form field denotes: spaces around it are dropped; a text with underscores is
tried again without them, spaces and all. -/
def readPlain? (s : String) : Option Float :=
  (asciiOnly.float? (trimList isSpace s.toList)).or
    ((unjoined? s.toList).bind asciiOnly.float?)

end SpriteStage.Double
