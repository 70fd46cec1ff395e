import SpriteStage.Benchmark.Percentile
import SpriteStage.Double.Rounding

/-!
# Summaries of latencies

A summary gives the number of values, their mean, two percentiles and the largest, each rounded to
three decimal places. `Measure.summary` is stated for any arithmetic, as percentiles are:
`exactMeasure` reads it on rationals, and `numberMeasure` on what was measured. There the mean comes
from the exact sum, rounded once. On the way the sum is kept in parts, which are doubles, so it has
to stay in their range.
-/

namespace SpriteStage.Benchmark

/-- Why values cannot be summed. -/
inductive SummaryError where
  /-- A value is no number. -/
  | notNumber
  /-- A value, or a sum on the way, is beyond the range of doubles. -/
  | outOfRange
  /-- Both infinities are among the values. -/
  | opposedInfinities
  deriving Repr, DecidableEq

/-- The rounded sum of two doubles, and what the rounding lost. -/
def roundedSum (x y : Float) : Float × Float :=
  let (large, small) := if x.abs < y.abs then (y, x) else (x, y)
  let sum := large + small
  (sum, small - (sum - large))

/-- A double added to parts from the smallest on: the parts without the largest, which may be zero,
and the largest. -/
def carry : Float → List Float → List Float × Float
  | x, [] => ([], x)
  | x, y :: rest =>
    let (sum, lost) := roundedSum x y
    let (parts, largest) := carry sum rest
    (if lost == 0.0 then parts else lost :: parts, largest)

/-- A sum on the way: parts with the same exact sum as the finite values so far, none of which
reaches the digits of the next, then the sum of the other values and of the infinities among
them. -/
structure Running where
  parts : List Float := []
  special : Float := 0.0
  endless : Float := 0.0

namespace Running

/-- Adds a double to a sum on the way. A value that is not finite settles the sum, so that the parts
start anew. -/
def add (r : Running) (x : Float) : Except SummaryError Running :=
  let (parts, largest) := carry x r.parts
  if largest == 0.0 then .ok { r with parts }
  else if largest.isFinite then .ok { r with parts := parts ++ [largest] }
  else if x.isFinite then .error .outOfRange
  else .ok ⟨[], r.special + x, if x.isNaN then r.endless else r.endless + x⟩

def addValue (r : Running) (v : Value) : Except SummaryError Running :=
  match v.asNumber.map Number.toFloat with
  | .ok (.ok x) => r.add x
  | .ok (.error _) => .error .outOfRange
  | .error _ => .error .notNumber

/-- The sum, rounded once. -/
def total (r : Running) : Except SummaryError Float :=
  if r.special == 0.0 then
    .ok (Double.nearest ((r.parts.filterMap Double.rational?).foldr (· + ·) 0))
  else if r.endless.isNaN then .error .opposedInfinities
  else .ok r.special

end Running

/-- The sum of written values, rounded once. The values are read one after the other. -/
def exactSum (values : List Value) : Except SummaryError Float := do
  (← values.foldlM Running.addValue {}).total

/-! ## Summaries in any arithmetic -/

/-- What is reported of a series of values. -/
structure Summary (α : Type) where
  count : Nat
  mean : α
  p50 : α
  p95 : α
  max : α

/-- The arithmetic in which written values `β` are summed up as numbers `α`. -/
structure Measure (β α κ ε : Type) extends Scale α κ ε where
  mean : List β → Except ε α
  /-- The number that is written, if it is one. -/
  read : β → Option α
  /-- The levels of the percentiles that are reported. -/
  middle : κ
  upper : κ
  less : α → α → Bool
  /-- A number rounded to three decimal places. -/
  round : α → α

namespace Measure

/-- The larger of two numbers; of equal ones the first. -/
def larger (m : Measure β α κ ε) (a b : α) : α := if m.less a b then b else a

/-- The largest of some numbers, of equal ones the first; zero if there are none. -/
def largest (m : Measure β α κ ε) : List α → α
  | [] => m.zero
  | first :: rest => rest.foldl m.larger first

/-- The summary of some values; all zeros if there are none. -/
def summary (m : Measure β α κ ε) (values : List β) : Except ε (Summary α) := do
  if values.isEmpty then return ⟨0, m.zero, m.zero, m.zero, m.zero⟩
  let mean ← m.mean values
  let numbers := values.filterMap m.read
  return {
    count := values.length
    mean := m.round mean
    p50 := m.round (← percentile m.toScale numbers m.middle)
    p95 := m.round (← percentile m.toScale numbers m.upper)
    max := m.round (m.largest numbers) }

theorem summary_eq {m : Measure β α κ ε} {values : List β} {mean p50 p95 : α}
    (h : values ≠ []) (hmean : m.mean values = .ok mean)
    (h50 : percentile m.toScale (values.filterMap m.read) m.middle = .ok p50)
    (h95 : percentile m.toScale (values.filterMap m.read) m.upper = .ok p95) :
    m.summary values = .ok {
      count := values.length
      mean := m.round mean
      p50 := m.round p50
      p95 := m.round p95
      max := m.round (m.largest (values.filterMap m.read)) } := by
  simp only [summary, List.isEmpty_iff, if_neg h, hmean, h50, h95]
  rfl

end Measure

def places : Nat := 3

def exactMeasure (ε : Type) : Measure Rat Rat Rat ε where
  toScale := exactScale ε
  mean values := .ok (values.foldr (· + ·) 0 / values.length)
  read := some
  middle := 1 / 2
  upper := 19 / 20
  less a b := a < b
  round := Double.toPlaces places

/-! ## Summaries of what was measured -/

/-- A number rounded to the places of a summary; a whole number stays as it is. -/
def round : Number → Number
  | .int n => .int n
  | .float x => .float (Double.roundPlaces places x)

/-- Summaries of written values. Once they are summed they are known to be numbers, so that in what
comes after it only their range can be at fault. -/
def numberMeasure : Measure Value Number Value SummaryError where
  toScale := numberScale.mapError fun _ => .outOfRange
  mean values := do return .float ((← exactSum values) / Double.nearest values.length)
  read v := v.asNumber.toOption
  middle := .float 0.5
  upper := .float 0.95
  less := Number.lt
  round := round

def summarize (values : List Value) : Except SummaryError (Summary Number) :=
  numberMeasure.summary values

def Summary.form (s : Summary Number) : Value :=
  .object
    [("count", .ofNat s.count), ("mean_ms", s.mean.toValue), ("p50_ms", s.p50.toValue),
      ("p95_ms", s.p95.toValue), ("max_ms", s.max.toValue)]

end SpriteStage.Benchmark
