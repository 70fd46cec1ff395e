import SpriteStage.Text.Printable

/-!
# Quoted text

A text inside a list or an object is written between quotes, with its special characters escaped:
`quote` chooses the quote mark and `escape` writes one character.
-/

namespace SpriteStage.Text

/-- The digits of a number in base sixteen, padded with zeros to a width. -/
def hex (width n : Nat) : List Char :=
  let digits := Nat.toDigits 16 n
  List.replicate (width - digits.length) '0' ++ digits

/-- One character between quotes: the quote mark and the backslash take a backslash, tabulator and
line ends have letters, and what is not printable is written by number, in two, four or eight
digits. -/
def escape (mark c : Char) : List Char :=
  if c == mark || c == '\\' then ['\\', c]
  else if c == '\t' then ['\\', 't']
  else if c == '\n' then ['\\', 'n']
  else if c == '\r' then ['\\', 'r']
  else if isPrintable c then [c]
  else if c.toNat ≤ 0xFF then '\\' :: 'x' :: hex 2 c.toNat
  else if c.toNat ≤ 0xFFFF then '\\' :: 'u' :: hex 4 c.toNat
  else '\\' :: 'U' :: hex 8 c.toNat

/-- The quote mark of a text: a double one if the text holds single quotes and no double ones. -/
def quoteMark (s : String) : Char :=
  if s.contains '\'' && !s.contains '"' then '"' else '\''

def quote (s : String) : String :=
  let mark := quoteMark s
  String.ofList (mark :: s.toList.flatMap (escape mark) ++ [mark])

end SpriteStage.Text
