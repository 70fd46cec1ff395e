import SpriteStage.Json.Symbol
import SpriteStage.Value.Text
import SpriteStage.Double.Reader

/-!
# Reading JSON

`Json.read` reads a whole document. Besides the standard it takes the words for infinity and for
what is not a number, where a number may stand. A number with a fraction or an exponent is a double
and any other is a whole number, which may not have too many digits. Of the fields of one name the
last counts, in the place of the first.
-/

namespace SpriteStage.Json

open SpriteStage.Text

def isSpace (c : Symbol) : Bool :=
  c == .char ' ' || c == .char '\t' || c == .char '\n' || c == .char '\r'

def skip (cs : List Symbol) : List Symbol := cs.dropWhile isSpace

/-- The rest of a document after a given start. -/
def after? : List Char → List Symbol → Option (List Symbol)
  | [], cs => some cs
  | w :: ws, c :: cs => if c == .char w then after? ws cs else none
  | _ :: _, [] => none

def digit? (c : Symbol) : Option Nat := c.char?.bind hexDigit?

/-- Four hexadecimal digits at the front, as a number, and the rest. -/
def unit? : List Symbol → Option (Nat × List Symbol)
  | a :: b :: c :: d :: rest => do
    let a ← digit? a
    let b ← digit? b
    let c ← digit? c
    let d ← digit? d
    return (((a * 16 + b) * 16 + c) * 16 + d, rest)
  | _ => none

/-- The character that a letter stands for after a backslash. -/
def escaped? : Char → Option Char
  | '"' => some '"'
  | '\\' => some '\\'
  | '/' => some '/'
  | 'b' => some '\x08'
  | 'f' => some '\x0c'
  | 'n' => some '\n'
  | 'r' => some '\r'
  | 't' => some '\t'
  | _ => none

/-- The symbol written by the code of an escape, or by two escapes when they form a pair, and the
rest. -/
def unitSymbol (n : Nat) (rest : List Symbol) : Symbol × List Symbol :=
  match isHigh n, rest with
  | true, .char '\\' :: .char 'u' :: more =>
    match unit? more with
    | some (low, more) => if isLow low then (.ofPair n low, more) else (.ofCode n, rest)
    | none => (.ofCode n, rest)
  | _, _ => (.ofCode n, rest)

/-! ## Failures -/

/-- Why a text is not read. -/
inductive Failure where
  /-- The text is no document. -/
  | malformed
  /-- A whole number has too many digits. -/
  | tooManyDigits
  deriving Repr, DecidableEq

/-- What there is, or else a failure because the text is no document. -/
def orMalformed : Option α → Except Failure α
  | some a => .ok a
  | none => .error .malformed

/-! ## Texts and numbers -/

/-- Whether a symbol is a control, which no text may hold as it is. -/
def isControl (c : Symbol) : Bool := c.char?.any fun c => c.toNat < 0x20

/-- The symbols of a text up to its closing quote. Every round takes at least one symbol, so the
length of the list is fuel enough. -/
def symbols : Nat → List Symbol → Except Failure (List Symbol × List Symbol)
  | 0, _ | _ + 1, [] => .error .malformed
  | fuel + 1, c :: cs =>
    if c == .char '"' then .ok ([], cs)
    else if c == .char '\\' then
      match cs with
      | .char 'u' :: digits => do
        let (n, rest) ← orMalformed (unit? digits)
        let (symbol, rest) := unitSymbol n rest
        let (text, rest) ← symbols fuel rest
        return (symbol :: text, rest)
      | letter :: rest => do
        let char ← orMalformed (letter.char?.bind escaped?)
        let (text, rest) ← symbols fuel rest
        return (.char char :: text, rest)
      | [] => .error .malformed
    else if isControl c then .error .malformed
    else do
      let (text, rest) ← symbols fuel cs
      return (c :: text, rest)

def textOf (cs : List Symbol) : Value :=
  match cs.mapM Symbol.char? with
  | some chars => .str (String.ofList chars)
  | none => .torn (String.ofList (cs.map fun c => c.char?.getD '\uFFFD'))

def isNumeral (c : Char) : Bool := c.isDigit || ['+', '-', '.', 'e', 'E'].contains c

/-- The characters at the front that can stand in a number. -/
def numeral : List Symbol → List Char
  | .char c :: rest => if isNumeral c then c :: numeral rest else []
  | _ => []

/-- A number at the front of some characters, and the rest: an optional minus, digits without a
leading zero, an optional fraction and an optional exponent. -/
def readNumber (cs : List Char) : Except Failure (Value × List Char) := do
  let (negative, size) :=
    match cs with
    | '-' :: rest => (true, rest)
    | _ => (false, cs)
  let (whole, rest) :=
    match size with
    | '0' :: rest => ([0], rest)
    | _ => Double.asciiOnly.run size
  let (fraction, rest) :=
    match rest with
    | '.' :: digits =>
      match Double.asciiOnly.run digits with
      | ([], _) => (none, rest)
      | (ds, rest) => (some ds, rest)
    | _ => (none, rest)
  let (power, left) := Double.asciiOnly.power rest
  if whole.isEmpty then throw .malformed
  else if fraction.isNone && left.length == rest.length then
    match Double.wholeNumber? negative whole with
    | some n => return (.int n, rest)
    | none => throw .tooManyDigits
  else
    let digits := fraction.getD []
    let exponent := power - digits.length
    let x : Float := .ofScientific (ofDigits (whole ++ digits)) (exponent < 0) exponent.natAbs
    return (.float (if negative then -x else x), left)

def number (cs : List Symbol) : Except Failure (Value × List Symbol) := do
  let chars := numeral cs
  let (v, left) ← readNumber chars
  return (v, cs.drop (chars.length - left.length))

def words : List (String × Value) :=
  [("null", .null), ("true", .bool true), ("false", .bool false), ("NaN", .float (0.0 / 0.0)),
    ("Infinity", .float (1.0 / 0.0)), ("-Infinity", .float (-1.0 / 0.0))]

def word? (cs : List Symbol) : Option (Value × List Symbol) :=
  words.findSome? fun (word, v) => (after? word.toList cs).map fun rest => (v, rest)

/-! ## Documents -/

/-- A field of an object: the symbols of its name, and its value. -/
abbrev Field := List Symbol × Value

/-- Stores a field: in place of a field of the same name, or at the end. -/
def store (new : Field) : List Field → List Field
  | [] => [new]
  | field :: rest => if field.1 == new.1 then new :: rest else field :: store new rest

/-- The object of some fields. A field whose name is torn cannot be asked for; the torn name is kept
with its value. -/
def objectOf (fields : List Field) : Value :=
  .object (fields.map fun (name, v) =>
    match textOf name with
    | .str s => (s, v)
    | torn => (torn.text?.getD "", .list [torn, v]))

mutual

/-- A value at the front, and the rest. Of two calls in a row one takes a character, so twice the
length of the list is fuel enough. -/
def value : Nat → List Symbol → Except Failure (Value × List Symbol)
  | 0, _ => .error .malformed
  | fuel + 1, cs =>
    match cs with
    | .char '"' :: rest => do
      let (text, rest) ← symbols fuel rest
      return (textOf text, rest)
    | .char '[' :: rest =>
      match skip rest with
      | .char ']' :: rest => .ok (.list [], rest)
      | rest => do
        let (vs, rest) ← items fuel rest
        return (.list vs, rest)
    | .char '\x7b' :: rest =>
      match skip rest with
      | .char '\x7d' :: rest => .ok (.object [], rest)
      | rest => do
        let (fs, rest) ← fields fuel [] rest
        return (objectOf fs, rest)
    | _ =>
      match word? cs with
      | some r => .ok r
      | none => number cs

/-- The members of a list up to its closing bracket, and the rest after it. -/
def items : Nat → List Symbol → Except Failure (List Value × List Symbol)
  | 0, _ => .error .malformed
  | fuel + 1, cs => do
    let (v, rest) ← value fuel (skip cs)
    match skip rest with
    | .char ']' :: rest => return ([v], rest)
    | .char ',' :: rest =>
      let (vs, rest) ← items fuel rest
      return (v :: vs, rest)
    | _ => throw .malformed

/-- The fields of an object up to its closing brace, added to those before them, and the rest. -/
def fields : Nat → List Field → List Symbol → Except Failure (List Field × List Symbol)
  | 0, _, _ => .error .malformed
  | fuel + 1, found, cs =>
    match skip cs with
    | .char '"' :: rest => do
      let (name, rest) ← symbols fuel rest
      match skip rest with
      | .char ':' :: rest =>
        let (v, rest) ← value fuel (skip rest)
        match skip rest with
        | .char '\x7d' :: rest => return (store (name, v) found, rest)
        | .char ',' :: rest => fields fuel (store (name, v) found) rest
        | _ => throw .malformed
      | _ => throw .malformed
    | _ => .error .malformed

end

/-- The value of a whole document; of two failures the first counts. -/
def read (cs : List Symbol) : Except Failure Value := do
  let cs := skip cs
  let (v, rest) ← value (2 * cs.length + 1) cs
  if (skip rest).isEmpty then return v else throw .malformed

def read? (s : String) : Option Value := (read (Symbol.ofText s)).toOption

end SpriteStage.Json
