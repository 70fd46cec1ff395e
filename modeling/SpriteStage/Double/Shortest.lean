import SpriteStage.Double.Exact
import SpriteStage.Text.Digit

/-!
# The shortest text of a double

A double is written with the fewest decimal digits that read back as the same double, and among
those texts the nearest to its exact value. The search runs over decimal grids, from one digit to
seventeen: a grid has a point that reads back exactly when one of the two neighbours of the value
on that grid does.
-/

namespace SpriteStage.Double

open SpriteStage.Text

def pow10 (e : Int) : Rat := if 0 ≤ e then 10 ^ e.toNat else 1 / 10 ^ (-e).toNat

def decimalExponent (q : Rat) : Int :=
  let guess : Int := (digitsOf q.num.natAbs).length - (digitsOf q.den).length
  if pow10 guess ≤ q then guess else guess - 1

/-- The numbers that read as a given double: an interval, with or without its ends. -/
structure Reach where
  low : Rat
  high : Rat
  closed : Bool

def Reach.contains (r : Reach) (q : Rat) : Bool :=
  if r.closed then r.low ≤ q && q ≤ r.high else r.low < q && q < r.high

/-- The interval of a positive finite double: half way to each neighbour, ends included exactly when
its significand is even. Above the largest double stands the power of two that would follow it. -/
def reach (x : Float) : Reach :=
  let value := (rational? x).getD 0
  let below := (rational? (.ofBits (x.toBits - 1))).getD 0
  let above := (rational? (.ofBits (x.toBits + 1))).getD ((Nat.pow 2 1024 : Nat) : Rat)
  ⟨(value + below) / 2, (value + above) / 2, x.toBits % 2 == 0⟩

/-- A decimal numeral: its digits as a whole number, times a power of ten. -/
structure Numeral where
  digits : Nat
  exponent : Int
  deriving Repr, DecidableEq

namespace Numeral

def value (d : Numeral) : Rat := d.digits * pow10 d.exponent

def strip (d : Numeral) : Numeral :=
  if d.digits ≠ 0 ∧ d.digits % 10 = 0 then strip ⟨d.digits / 10, d.exponent + 1⟩ else d
  termination_by d.digits
  decreasing_by omega

end Numeral

/-- The neighbour on the grid with `count` digits that lies in the interval; of two the nearer, and
of two equally near the even one. -/
def onGrid? (value : Rat) (r : Reach) (count : Nat) : Option Numeral :=
  let exponent := decimalExponent value - count + 1
  let unit := pow10 exponent
  let below := (value / unit).floor.toNat
  let above := below + 1
  let gapBelow := value - below * unit
  let gapAbove := above * unit - value
  let chosen :=
    if gapBelow < gapAbove then below
    else if gapAbove < gapBelow then above
    else if below % 2 == 0 then below else above
  let other := if chosen == below then above else below
  if r.contains (chosen * unit) then some ⟨chosen, exponent⟩
  else if r.contains (other * unit) then some ⟨other, exponent⟩
  else none

/-- The shortest numeral of a positive finite double. Seventeen digits always suffice. -/
def shortest (x : Float) : Numeral :=
  let value := (rational? x).getD 0
  let r := reach x
  let found := (List.range 17).findSome? fun k => onGrid? value r (k + 1)
  (found.getD ⟨0, 0⟩).strip

/-- How numerals are laid out: from which exponent of the leading digit on, and up to which, digits
are written in place, and the least number of digits of a written exponent. -/
structure Layout where
  leastInPlace : Int
  mostInPlace : Int
  exponentWidth : Nat

/-- Numbers from 0.0001 up to, and without, ten to the sixteenth are written in place. -/
def layout : Layout := ⟨-4, 15, 2⟩

/-- The text of a numeral without sign. In place there is always a digit after the point. -/
def Layout.write (l : Layout) (d : Numeral) : String :=
  let digits := decimal d.digits
  let leading : Int := d.exponent + digits.length - 1
  if l.leastInPlace ≤ leading ∧ leading ≤ l.mostInPlace then
    if leading < 0 then
      "0." ++ String.ofList (List.replicate (-leading - 1).toNat '0') ++ digits
    else
      let whole := leading.toNat + 1
      if digits.length ≤ whole then
        digits ++ String.ofList (List.replicate (whole - digits.length) '0') ++ ".0"
      else
        String.ofList (digits.toList.take whole) ++ "." ++ String.ofList (digits.toList.drop whole)
  else
    let fraction := String.ofList (digits.toList.drop 1)
    let size := decimal leading.natAbs
    String.ofList (digits.toList.take 1) ++ (if fraction.isEmpty then "" else "." ++ fraction)
      ++ (if leading < 0 then "e-" else "e+")
      ++ String.ofList (List.replicate (l.exponentWidth - size.length) '0') ++ size

def text (x : Float) : String :=
  if x.isNaN then "nan"
  else
    let sign := if isNegative x then "-" else ""
    if !x.isFinite then sign ++ "inf"
    else if x == 0.0 then sign ++ "0.0"
    else sign ++ layout.write (shortest x.abs)

end SpriteStage.Double
