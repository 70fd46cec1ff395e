import SpriteStage.Sorting.Runs
import SpriteStage.Value.Order

/-!
# Percentiles

A percentile lies at a place between the first and the last of the sorted values. At a whole place
stands a value; between two places the percentile is the blend of the values there. `percentile` is
stated for any arithmetic: `exactScale` reads it on rationals, `numberScale` on the numbers that
were measured, and `valueScale` on whatever was written in their place.
-/

namespace SpriteStage.Benchmark

/-- A place in a sorted list: the indices on both sides of it and the share of the upper one. -/
structure Place (κ : Type) where
  low : Nat
  high : Nat
  share : κ

/-- The arithmetic in which percentiles of `α` for levels `κ` are computed. -/
structure Scale (α κ ε : Type) where
  zero : α
  /-- The values from the smallest to the largest; equal ones stay in order. -/
  sort : List α → Except ε (List α)
  place : κ → Nat → Except ε (Place κ)
  blend : α → α → κ → Except ε α

/-- The same arithmetic with its errors read in another way. -/
def Scale.mapError (f : ε → ε') (s : Scale α κ ε) : Scale α κ ε' where
  zero := s.zero
  sort values := (s.sort values).mapError f
  place level last := (s.place level last).mapError f
  blend low high share := (s.blend low high share).mapError f

/-- The percentile of some values at a level between zero and one; zero if there are none. -/
def percentile (s : Scale α κ ε) (values : List α) (level : κ) : Except ε α := do
  match ← s.sort values with
  | [] => return s.zero
  | [v] => return v
  | points =>
    let place ← s.place level (points.length - 1)
    let low := points.getD place.low s.zero
    let high := points.getD place.high s.zero
    if place.low == place.high then return low else s.blend low high place.share

def clamp (level : Rat) : Rat := if level < 1 then if 0 < level then level else 0 else 1

def exactScale (ε : Type) : Scale Rat Rat ε where
  zero := 0
  sort := Sorting.byRuns fun a b => .ok (a < b)
  place level last :=
    let place := clamp level * last
    .ok ⟨place.floor.toNat, place.ceil.toNat, place - place.floor⟩
  blend low high share := .ok (low * (1 - share) + high * share)

/-- A level as a double kept between zero and one; what is not a number counts as one. -/
def clampLevel (level : Number) : Float :=
  if level.lt (.float 1.0) then
    if (Number.float 0.0).lt level then
      match level with
      | .float x => x
      | .int n => Double.nearest n
    else 0.0
  else 1.0

/-- The arithmetic of measured numbers: places, shares and blends are doubles. What is not a number
has no place in the order, which is then the one in which runs are merged. A level is read when it
is needed. -/
def numberScale : Scale Number Value ReadingError where
  zero := .float 0.0
  sort := Sorting.byRuns fun a b => .ok (a.lt b)
  place level last := do
    let place := clampLevel (← level.asNumber) * Double.nearest last
    let low := (Double.floor? place).getD 0
    let high := (Double.ceil? place).getD 0
    return ⟨low.toNat, high.toNat, .float (place - Double.nearest low)⟩
  blend low high share := do
    let share ← share.toFloat
    return .float ((← low.toFloat) * (1.0 - share) + (← high.toFloat) * share)

/-- The arithmetic of written values: only numbers can be blended, and values that are compared have
to be of one kind. -/
def valueScale : Scale Value Value ReadingError where
  zero := numberScale.zero.toValue
  sort := Sorting.byRuns Value.less
  place := numberScale.place
  blend low high share := do
    return (← numberScale.blend (← low.asNumber) (← high.asNumber) share).toValue

end SpriteStage.Benchmark
