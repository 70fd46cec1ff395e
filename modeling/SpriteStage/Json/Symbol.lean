/-!
# Symbols

A document is a list of symbols. Most are characters, but some encodings, and escapes, can give one
half of a pair without its partner. Such a half is a symbol of its own, which a text can hold and
which is kept apart from every character.
-/

namespace SpriteStage.Json

/-- What a document consists of. -/
inductive Symbol where
  | char (c : Char)
  /-- Half a character that stands alone, by its code. -/
  | half (n : Nat)
  deriving Repr, DecidableEq

/-- Whether a code is that of the first half of a pair. -/
def isHigh (n : Nat) : Bool := 0xD800 ≤ n && n ≤ 0xDBFF

/-- Whether a code is that of the second half of a pair. -/
def isLow (n : Nat) : Bool := 0xDC00 ≤ n && n ≤ 0xDFFF

namespace Symbol

def ofCode (n : Nat) : Symbol := if isHigh n || isLow n then half n else char (Char.ofNat n)

def ofPair (high low : Nat) : Symbol :=
  char (Char.ofNat (0x10000 + (high - 0xD800) * 0x400 + (low - 0xDC00)))

def char? : Symbol → Option Char
  | char c => some c
  | half _ => none

def ofText (s : String) : List Symbol := s.toList.map char

end Symbol

end SpriteStage.Json
