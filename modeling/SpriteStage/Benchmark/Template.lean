import SpriteStage.Double.Reader
import SpriteStage.Value.Reading

/-!
# Templates

A template is a text with slots for numbers. A slot is a percent sign, then perhaps flags, a width,
a precision and a letter for the size, and at last a letter for the form of the number. A star as
width or precision takes a number of its own; two percent signs stand for one and take none. A text
that is used as a number counts as a template for one number, and `fault` says what is wrong with
it. The number of a sprite can be such a text: its remainder is then what the template makes of the
divisor, which is never a number, and `Benchmark.script` fails with that fault.
-/

namespace SpriteStage.Benchmark.Template

def flags : List Char := ['-', '+', ' ', '#', '0']

def sizes : List Char := ['h', 'l', 'L']

def forms : List Char := "sraduioxXeEfFgGc".toList

def digitForms : List Char := "diuoxX".toList

def widthLimit : Nat := Nat.pow 2 63 - 1

def precisionLimit : Nat := Nat.pow 2 31 - 1

def digitLimit : Nat := precisionLimit - 3

def memoryLimit : Nat := Nat.pow 2 36

/-- A width or a precision at the front and the rest. A star is none that is known. `taken` tells
whether the number has been taken. -/
def measure (limit : Nat) (taken : Bool) :
    List Char → Except ReadingError (Nat × Bool × List Char)
  | '*' :: rest => if taken then .error .notNumeric else .ok (0, true, rest)
  | cs =>
    let (digits, rest) := Double.asciiOnly.run cs
    let size := Text.ofDigits digits
    if limit < size then .error .malformed else .ok (size, taken, rest)

def precision (taken : Bool) : List Char → Except ReadingError (Nat × Bool × List Char)
  | '.' :: rest => measure precisionLimit taken rest
  | cs => .ok (0, taken, cs)

def afterSize : List Char → List Char
  | c :: rest => if sizes.contains c then rest else c :: rest
  | [] => []

/-- The end of a slot with a width and a precision, and the rest. The number is written first and
then gets its width. -/
def ending (width digits : Nat) (taken : Bool) :
    List Char → Except ReadingError (Bool × List Char)
  | [] => .error .malformed
  | c :: rest =>
    if taken then .error .notNumeric
    else if !forms.contains c then .error .malformed
    else if digitForms.contains c && digitLimit < digits then .error .outOfRange
    else if memoryLimit < width then .error .tooLong
    else .ok (true, rest)

/-- A slot whose percent sign has been read, and the rest. A named slot takes no number. -/
def slot (taken : Bool) : List Char → Except ReadingError (Bool × List Char)
  | '%' :: rest => .ok (taken, rest)
  | '(' :: _ => .error .notNumeric
  | cs => do
    let (width, taken, cs) ← measure widthLimit taken (cs.dropWhile flags.contains)
    let (digits, taken, cs) ← precision taken cs
    ending width digits taken (afterSize cs)

/-- What is wrong with the rest of a text. Every round takes a character, so the length of the rest
is fuel enough. -/
def faultFrom : Nat → Bool → List Char → ReadingError
  | fuel + 1, taken, '%' :: rest =>
    match slot taken rest with
    | .ok (taken, rest) => faultFrom fuel taken rest
    | .error e => e
  | fuel + 1, taken, _ :: rest => faultFrom fuel taken rest
  | _, _, _ => .notNumeric

/-- What is wrong with a text that is used as a number: it is malformed if a slot is, or a slot asks
for too much, as far as the slots before it take no more than one number. -/
def fault (s : String) : ReadingError := faultFrom s.length false s.toList

end SpriteStage.Benchmark.Template
