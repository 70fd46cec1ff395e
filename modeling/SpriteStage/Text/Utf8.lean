/-!
# UTF-8

Characters as bytes and back. `encode` writes a text; `decode` reads any bytes, and puts the
replacement character in place of what is no character: one for each longest run of bytes that
starts a character without finishing it, and one for each byte that starts none.
-/

namespace SpriteStage.Text.Utf8

def encodeChar (c : Char) : List Nat :=
  let n := c.toNat
  if n < 0x80 then [n]
  else if n < 0x800 then [0xC0 + n / 0x40, 0x80 + n % 0x40]
  else if n < 0x10000 then [0xE0 + n / 0x1000, 0x80 + n / 0x40 % 0x40, 0x80 + n % 0x40]
  else
    [0xF0 + n / 0x40000, 0x80 + n / 0x1000 % 0x40, 0x80 + n / 0x40 % 0x40, 0x80 + n % 0x40]

def encode (cs : List Char) : List Nat := cs.flatMap encodeChar

def replacement : Char := '\uFFFD'

/-- A character that has been started: the number of bytes it still needs, the bounds of the next
one, and the code so far. -/
structure Started where
  needed : Nat
  low : Nat := 0x80
  high : Nat := 0xBF
  code : Nat

/-- The characters that a byte finishes between characters, and the character that it starts. -/
def first (b : Nat) : List Char × Option Started :=
  if b < 0x80 then ([Char.ofNat b], none)
  else if b < 0xC2 then ([replacement], none)
  else if b < 0xE0 then ([], some { needed := 1, code := b - 0xC0 })
  else if b < 0xF0 then
    ([], some {
      needed := 2
      low := if b = 0xE0 then 0xA0 else 0x80
      high := if b = 0xED then 0x9F else 0xBF
      code := b - 0xE0 })
  else if b < 0xF5 then
    ([], some {
      needed := 3
      low := if b = 0xF0 then 0x90 else 0x80
      high := if b = 0xF4 then 0x8F else 0xBF
      code := b - 0xF0 })
  else ([replacement], none)

/-- The characters that a byte finishes within a character, and the character that goes on. -/
def next (s : Started) (b : Nat) : List Char × Option Started :=
  if s.low ≤ b ∧ b ≤ s.high then
    let code := s.code * 0x40 + (b - 0x80)
    if s.needed ≤ 1 then ([Char.ofNat code], none) else ([], some { needed := s.needed - 1, code })
  else
    let (cs, started) := first b
    (replacement :: cs, started)

/-- The characters of bytes, in a character that may have been started. -/
def decodeFrom (started : Option Started) : List Nat → List Char
  | [] => if started.isSome then [replacement] else []
  | b :: rest =>
    let (cs, started) :=
      match started with
      | none => first b
      | some s => next s b
    cs ++ decodeFrom started rest

def decode (bytes : List Nat) : List Char := decodeFrom none bytes

end SpriteStage.Text.Utf8
