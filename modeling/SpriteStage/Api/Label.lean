import SpriteStage.Text.Letter
import SpriteStage.Text.Mark
import SpriteStage.Text.Pieces

/-!
# Labels

A name of a host consists of labels with dots between them. As long as all of it is ASCII, any name
will do. Otherwise each label has to be a word: of letters, composed, of one direction and not too
long. What counts is its length in ASCII, where the other characters are written as digits behind
those of ASCII: for each, in ascending order, how far it is from the one before. `Api.Host` tests
the labels of a host in this way.
-/

namespace SpriteStage.Api.Label

open SpriteStage.Text

/-! ## Written length -/

def threshold (bias position : Nat) : Nat := max 1 (min 26 (position - bias))

/-- The number of digits in base thirty-six that a distance takes from a position on. -/
def digitCount (bias position distance : Nat) : Nat :=
  let t := threshold bias position
  if h : distance < t then 1
  else 1 + digitCount bias (position + 36) ((distance - t) / (36 - t))
termination_by distance
decreasing_by
  have ht : 1 ≤ threshold bias position := Nat.le_max_left ..
  have := Nat.div_le_self (distance - threshold bias position) (36 - threshold bias position)
  omega

/-- The bias for a mean distance, which positions shift by as long as it is large. -/
def biasOf (distance shift : Nat) : Nat :=
  if h : 455 < distance then biasOf (distance / 35) (shift + 36)
  else shift + 36 * distance / (distance + 38)
termination_by distance

/-- What has been written of a label. -/
structure Progress where
  length : Nat
  /-- How many characters are written. -/
  written : Nat
  distance : Nat := 0
  bias : Nat := 72

namespace Progress

/-- The bias after a character; the first distance is known to be large. -/
def nextBias (p : Progress) (isFirst : Bool) : Nat :=
  let mean := p.distance / (if isFirst then 700 else 2)
  biasOf (mean + mean / (p.written + 1)) 0

/-- Passes a character of a label while those of one code are written. -/
def pass (ascii code : Nat) (p : Progress) (c : Char) : Progress :=
  if c.toNat < code then { p with distance := p.distance + 1 }
  else if c.toNat = code then
    { length := p.length + digitCount p.bias 36 p.distance
      written := p.written + 1
      bias := p.nextBias (p.written == ascii) }
  else p

/-- Writes the characters of some codes in ascending order, where `next` is the least that is
left. -/
def writeCodes (label : List Char) (ascii : Nat) : Nat → List Nat → Progress → Progress
  | _, [], p => p
  | next, code :: codes, p =>
    let p := { p with distance := p.distance + (code - next) * (p.written + 1) }
    let p := label.foldl (pass ascii code) p
    writeCodes label ascii (code + 1) codes { p with distance := p.distance + 1 }

end Progress

def isAscii (c : Char) : Bool := c.toNat < 0x80

def writtenStart : List Char := ['x', 'n', '-', '-']

/-- The number of characters of a label as it is written in ASCII. -/
def writtenLength (label : List Char) : Nat :=
  if label.all isAscii then label.length
  else
    let ascii := label.countP isAscii
    let others := (label.filter fun c => !isAscii c).map Char.toNat
    let codes := (others.mergeSort (· ≤ ·)).eraseDups
    let hyphen := if ascii = 0 then 0 else 1
    let start : Progress := { length := writtenStart.length + ascii + hyphen, written := ascii }
    (start.writeCodes label ascii 0x80 codes).length

/-! ## Words -/

/-- Whether the hyphens of a label do not stand at an end, nor where they mark a written label. -/
def hasPlainHyphens (label : List Char) : Bool :=
  label.head? != some '-' && label.getLast? != some '-' && (label.drop 2).take 2 != ['-', '-']

def isWithin (ranges : List (Nat × Nat)) (c : Char) : Bool :=
  ranges.any fun r => r.1 ≤ c.toNat && c.toNat ≤ r.2

def isArabicDigit : Char → Bool := isWithin [(0x660, 0x669)]

def isPersianDigit : Char → Bool := isWithin [(0x6F0, 0x6F9)]

def isEastAsian : Char → Bool :=
  isWithin [(0x3005, 0x3007), (0x3041, 0x309F), (0x30A1, 0x30FA), (0x30FD, 0x30FF),
    (0x31F0, 0x31FF), (0x3400, 0x9FFF), (0x20000, 0x3FFFF)]

/-- Whether a character may stand where it stands: some signs need certain letters around them. -/
def fits (label before : List Char) (c : Char) (after : List Char) : Bool :=
  let ends (p : Char → Bool) : Bool := before.head?.any p
  let starts (p : Char → Bool) : Bool := after.head?.any p
  if c == '\u00B7' then ends (· == 'l') && starts (· == 'l')
  else if c == '\u0375' then starts (isWithin [(0x370, 0x3FF), (0x1F00, 0x1FFF)])
  else if c == '\u05F3' || c == '\u05F4' then ends (isWithin [(0x591, 0x5F4)])
  else if c == '\u30FB' then label.any isEastAsian
  else if isArabicDigit c then !label.any isPersianDigit
  else if isPersianDigit c then !label.any isArabicDigit
  else true

/-- Whether all characters from a place on may stand where they stand; those before it are given
from the last to the first. -/
def allFit (label before : List Char) : List Char → Bool
  | [] => true
  | c :: after => fits label before c after && allFit label (c :: before) after

/-- The ranges of letters that run from right to left. Marks may lie inside of them. -/
def leftwardRanges : List (Nat × Nat) :=
  [(0x5D0, 0x64A), (0x66E, 0x6EF), (0x6FA, 0x8C9), (0xFE73, 0xFE73), (0x10800, 0x10D23),
    (0x10E80, 0x10FF6), (0x1E800, 0x1E959)]

/-- Whether a character is a letter that runs from right to left. -/
def isLeftward (c : Char) : Bool := isWithin leftwardRanges c && !isMark c

/-- Whether a character is a digit that only texts from right to left have. -/
def isLeftwardDigit : Char → Bool := isWithin [(0x660, 0x669), (0x10D30, 0x10D39)]

def isCommonDigit (c : Char) : Bool := c.isDigit || isPersianDigit c

/-- Whether a label runs in one direction. One that runs from right to left starts with a letter,
ends with a letter or a digit, and has digits of one kind only. -/
def isDirected (label : List Char) : Bool :=
  !label.any (fun c => isLeftward c || isLeftwardDigit c)
    || label.head?.any isLeftward
      && label.all (fun c =>
        isLeftward c || isLeftwardDigit c || isCommonDigit c || isMark c || c == '-')
      && !(label.any isLeftwardDigit && label.any isCommonDigit)
      && (label.filter fun c => !isMark c).getLast? != some '-'

def isWord (label : List Char) : Bool :=
  !label.isEmpty && isComposed label && hasPlainHyphens label && !label.head?.any isMark
    && label.all isLetter && allFit label [] label && isDirected label

def isWritten (rest : List Char) : Bool := !rest.isEmpty && rest.getLast? != some '-'

def labelLimit : Nat := 63

def isSound (label : List Char) : Bool :=
  writtenLength label ≤ labelLimit
    && (if writtenStart.isPrefixOf label && label.all isAscii then isWritten (label.drop 4)
      else isWord label)

/-! ## Names -/

def isDot (c : Char) : Bool := ['.', '\u3002', '\uFF0E', '\uFF61'].contains c

def nameLimit : Nat := 253

/-- Whether a name of a host is sound. A dot may stand at its end. -/
def isName (name : List Char) : Bool :=
  let labels := pieces isDot (name.map Char.toLower)
  let labels := if labels.getLast? = some [] then labels.dropLast else labels
  let length := (labels.map fun label => writtenLength label + 1).foldr (· + ·) 0
  name.all isAscii || !labels.isEmpty && labels.all isSound && length ≤ nameLimit + 1

end SpriteStage.Api.Label
