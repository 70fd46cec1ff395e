import Mathlib
import SpriteStage.Text.Utf8

/-!
# Texts come back from their bytes

The bytes of a character start one and finish it, whatever comes after them, so every text is read
back from its bytes.
-/

namespace SpriteStage.Text.Utf8

variable {s : Started} {b n : Nat} {rest : List Nat}

/-- A byte within the bounds that is not the last one adds six bits to the code. -/
theorem decodeFrom_next (h : s.low ≤ b ∧ b ≤ s.high) (hneeded : 1 < s.needed) :
    decodeFrom (some s) (b :: rest) =
      decodeFrom (some { needed := s.needed - 1, code := s.code * 0x40 + (b - 0x80) }) rest := by
  simp [decodeFrom, next, h, Nat.not_le.2 hneeded]

theorem decodeFrom_last (h : s.low ≤ b ∧ b ≤ s.high) (hneeded : s.needed = 1) :
    decodeFrom (some s) (b :: rest) =
      Char.ofNat (s.code * 0x40 + (b - 0x80)) :: decodeFrom none rest := by
  simp [decodeFrom, next, h, hneeded]

theorem decodeFrom_two {x : Nat} (hlow : 2 ≤ x) (hhigh : x < 0x20) :
    decodeFrom none ((0xC0 + x) :: rest) = decodeFrom (some { needed := 1, code := x }) rest := by
  have hfirst : first (0xC0 + x) = ([], some { needed := 1, code := x }) := by
    rw [first, if_neg (by omega), if_neg (by omega), if_pos (by omega), Nat.add_sub_cancel_left]
  rw [decodeFrom, hfirst]
  rfl

/-- The first of three bytes. -/
theorem decodeFrom_three {x : Nat} (hhigh : x < 0x10) :
    decodeFrom none ((0xE0 + x) :: rest) = decodeFrom (some {
      needed := 2
      low := if x = 0 then 0xA0 else 0x80
      high := if x = 0xD then 0x9F else 0xBF
      code := x }) rest := by
  have hfirst : first (0xE0 + x) = ([], some {
      needed := 2
      low := if x = 0 then 0xA0 else 0x80
      high := if x = 0xD then 0x9F else 0xBF
      code := x }) := by
    rw [first, if_neg (by omega), if_neg (by omega), if_neg (by omega), if_pos (by omega),
      Nat.add_sub_cancel_left]
    simp only [show 0xE0 + x = 0xE0 ↔ x = 0 by omega, show 0xE0 + x = 0xED ↔ x = 0xD by omega]
  rw [decodeFrom, hfirst]
  rfl

/-- The first of four bytes. -/
theorem decodeFrom_four {x : Nat} (hhigh : x < 5) :
    decodeFrom none ((0xF0 + x) :: rest) = decodeFrom (some {
      needed := 3
      low := if x = 0 then 0x90 else 0x80
      high := if x = 4 then 0x8F else 0xBF
      code := x }) rest := by
  have hfirst : first (0xF0 + x) = ([], some {
      needed := 3
      low := if x = 0 then 0x90 else 0x80
      high := if x = 4 then 0x8F else 0xBF
      code := x }) := by
    rw [first, if_neg (by omega), if_neg (by omega), if_neg (by omega), if_neg (by omega),
      if_pos (by omega), Nat.add_sub_cancel_left]
    simp only [show 0xF0 + x = 0xF0 ↔ x = 0 by omega, show 0xF0 + x = 0xF4 ↔ x = 4 by omega]
  rw [decodeFrom, hfirst]
  rfl

/-- A character is read back from its bytes, whatever comes after them. -/
theorem decodeFrom_encodeChar (c : Char) (rest : List Nat) :
    decodeFrom none (encodeChar c ++ rest) = c :: decodeFrom none rest := by
  have hvalid : c.toNat < 0xD800 ∨ 0xDFFF < c.toNat ∧ c.toNat < 0x110000 := c.valid
  have hback {n : Nat} (h : n = c.toNat) : Char.ofNat n = c := h ▸ Char.ofNat_toNat c
  unfold encodeChar
  dsimp only
  split
  · rename_i h1
    simp [decodeFrom, first, h1]
  split
  · rename_i h2
    change decodeFrom none (_ :: _ :: rest) = _
    rw [decodeFrom_two (by omega) (by omega), decodeFrom_last ⟨?_, ?_⟩ rfl, hback]
    all_goals dsimp only; omega
  split
  · rename_i h3
    change decodeFrom none (_ :: _ :: _ :: rest) = _
    rw [decodeFrom_three (by omega), decodeFrom_next ⟨?_, ?_⟩ ?_,
      decodeFrom_last ⟨?_, ?_⟩ rfl, hback]
    all_goals dsimp only; first | omega | split <;> omega
  · change decodeFrom none (_ :: _ :: _ :: _ :: rest) = _
    rw [decodeFrom_four (by omega), decodeFrom_next ⟨?_, ?_⟩ ?_,
      decodeFrom_next ⟨?_, ?_⟩ ?_, decodeFrom_last ⟨?_, ?_⟩ rfl, hback]
    all_goals dsimp only; first | omega | split <;> omega

theorem decode_encode (cs : List Char) : decode (encode cs) = cs := by
  induction cs with
  | nil => rfl
  | cons c cs ih =>
    rw [encode, List.flatMap_cons, decode, decodeFrom_encodeChar]
    exact congrArg (c :: ·) ih

end SpriteStage.Text.Utf8
