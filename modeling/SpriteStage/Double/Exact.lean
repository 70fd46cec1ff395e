/-!
# Doubles as exact rationals

A finite double denotes a rational number. `rational?` gives that number and `nearest` goes back,
to the closest double with ties to the even significand. Every rule of this library that needs an
exact result computes it on rationals and rounds once.
-/

namespace SpriteStage.Double

open Float.Model

/-- The rational number that a finite double denotes. -/
def rational? (x : Float) : Option Rat :=
  match x.toModel.unpack with
  | .finite sign significand exponent _ =>
    let size : Rat :=
      if 0 ≤ exponent then ((significand * Nat.pow 2 exponent.toNat : Nat) : Rat)
      else mkRat significand (Nat.pow 2 (-exponent).toNat)
    some (match sign with
      | .positive => size
      | .negative => -size)
  | .zero _ => some 0
  | .infinity _ => none
  | .notANumber => none

/-- The double closest to a rational number; beyond the largest double it is an infinity. -/
def nearest (q : Rat) : Float :=
  if h : q.num.natAbs = 0 then 0.0
  else
    let sign := if q.num < 0 then UnpackedFloat.Sign.negative else .positive
    .ofModel (Float.Model.pack (UnpackedFloat.div .binary64
      (.finite sign q.num.natAbs 0 (Nat.pos_of_ne_zero h))
      (.finite .positive q.den 0 (Nat.pos_of_ne_zero q.den_nz))))

/-- Whether the sign bit is set, also on a zero. -/
def isNegative (x : Float) : Bool := x.toBits >>> 63 == 1

/-- The closest double, where a zero takes the given sign. -/
def nearestSigned (negative : Bool) (q : Rat) : Float :=
  if q == 0 && negative then -0.0 else nearest q

/-- The closest double to a whole number, unless the number is beyond the range of doubles. -/
def ofInt? (n : Int) : Option Float :=
  let x := nearest n
  if x.isFinite then some x else none

/-- What is left of `x` after a whole number of `period`s is taken off towards zero; it has the sign
of `x`. Doubles are closed under this operation, so the last step does not round. -/
def remainder (x period : Float) : Float :=
  match rational? x, rational? period with
  | some p, some q =>
    if q == 0 then 0.0 / 0.0
    else if p.abs < q.abs then x
    else
      let turns : Int := (p.abs / q.abs).floor
      let rest := p.abs - q.abs * turns
      nearestSigned (isNegative x) (if isNegative x then -rest else rest)
  | some _, none => if period.isNaN then period else x
  | none, _ => 0.0 / 0.0

/-- A finite double itself, and zero for the others. -/
def finite (x : Float) : Float := if x.isFinite then x else 0.0

/-- The larger of zero and a double; what is not a number gives zero. -/
def atLeastZero (x : Float) : Float := if x > 0.0 then x else 0.0

/-- The smallest whole number that is not below a finite double. -/
def ceil? (x : Float) : Option Int := (rational? x).map Rat.ceil

/-- The largest whole number that is not above a finite double. -/
def floor? (x : Float) : Option Int := (rational? x).map Rat.floor

end SpriteStage.Double
