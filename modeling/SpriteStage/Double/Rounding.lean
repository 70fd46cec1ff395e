import SpriteStage.Double.Exact
import SpriteStage.Text.Digit

/-!
# Rounding to whole numbers and to decimal places

A half goes to the even neighbour. The exact value of a double decides, not its text.
-/

namespace SpriteStage.Double

open SpriteStage.Text

/-- The closest whole number; of two the even one. -/
def roundEven (q : Rat) : Int :=
  let below := q.floor
  let rest := q - below
  if rest < 1 / 2 then below
  else if 1 / 2 < rest then below + 1
  else if below % 2 = 0 then below else below + 1

def toPlaces (places : Nat) (q : Rat) : Rat := roundEven (q * 10 ^ places) / 10 ^ places

/-- A double rounded to a number of decimal places, as a double of the same sign. What is not finite
stays as it is. -/
def roundPlaces (places : Nat) (x : Float) : Float :=
  match rational? x with
  | none => x
  | some q => nearestSigned (isNegative x) (toPlaces places q)

/-- A non-negative number with a fixed number of decimal places. -/
def fixedText (places : Nat) (q : Rat) : String :=
  let units := (roundEven (q * 10 ^ places)).toNat
  let fraction := decimal (units % Nat.pow 10 places)
  decimal (units / Nat.pow 10 places) ++ "."
    ++ String.ofList (List.replicate (places - fraction.length) '0') ++ fraction

theorem roundEven_mem (q : Rat) : roundEven q = q.floor ∨ roundEven q = q.floor + 1 := by
  unfold roundEven
  dsimp only
  split
  · exact .inl rfl
  · split
    · exact .inr rfl
    · split
      · exact .inl rfl
      · exact .inr rfl

end SpriteStage.Double
