/-!
# Blank characters

Names, identifiers and settings are compared without the blanks around them. The blanks are the
white space of Unicode together with the four separators of the control block.
-/

namespace SpriteStage.Text

/-- Whether a character is white space in the sense of the Unicode property. -/
def isSpace (c : Char) : Bool :=
  let n := c.toNat
  (0x09 ≤ n && n ≤ 0x0D) || n == 0x20 || n == 0x85 || n == 0xA0 || n == 0x1680
    || (0x2000 ≤ n && n ≤ 0x200A) || n == 0x2028 || n == 0x2029 || n == 0x202F || n == 0x205F
    || n == 0x3000

/-- Whether a character is dropped at the ends of a name: a space, or one of the file, group,
record and unit separators. -/
def isBlank (c : Char) : Bool := isSpace c || (0x1C ≤ c.toNat && c.toNat ≤ 0x1F)

/-- A list without the leading and trailing members of a class. -/
def trimList (p : α → Bool) (cs : List α) : List α :=
  ((cs.dropWhile p).reverse.dropWhile p).reverse

/-- A text without the characters of a class at its ends. -/
def trimBy (p : Char → Bool) (s : String) : String := String.ofList (trimList p s.toList)

def trim (s : String) : String := trimBy isBlank s

theorem trimList_eq_self {p : α → Bool} {cs : List α} (head : ∀ c ∈ cs.head?, p c = false)
    (last : ∀ c ∈ cs.getLast?, p c = false) : trimList p cs = cs := by
  have drop {l : List α} (h : ∀ c ∈ l.head?, p c = false) : l.dropWhile p = l := by
    cases l with
    | nil => rfl
    | cons c l => simp [List.dropWhile, h c (by simp)]
  rw [trimList, drop head, drop (by simpa [List.head?_reverse] using last), List.reverse_reverse]

end SpriteStage.Text
