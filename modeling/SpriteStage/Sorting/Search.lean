/-!
# Searching from an end

How many values at one end of a list have a property, when those that have it come first? `leading`
finds out with few tests: it leaps away from the end over ever longer stretches and then halves the
last one. In a list that is not in order the number depends on which places are tested, and a test
may fail, so the places are fixed here, for both ends.
-/

namespace SpriteStage.Sorting

variable {α : Type} {m : Type → Type}

/-- An end of a list. -/
inductive End where
  | front
  | back
  deriving Repr, DecidableEq

/-- The place that halves so many places. With an even number there are two; seen from either end of
the search it is the one that lies closer to the back of the list. -/
def End.middle : End → Nat → Nat
  | .front, n => n / 2
  | .back, n => (n - 1) / 2

/-- The first place from `low` on, and before `high`, that does not pass. Every round at least
halves the places that are left, so their number is fuel enough. -/
def narrow [Monad m] (e : End) (passes : Nat → m Bool) : Nat → Nat → Nat → m Nat
  | 0, low, _ => pure low
  | fuel + 1, low, high => do
    if low < high then
      let n := low + e.middle (high - low)
      if ← passes n then narrow e passes fuel (n + 1) high else narrow e passes fuel low n
    else return low

/-- The last place of the leaps that passes, and the place of the leap after it, where a leap ends
one place beyond twice the place before. Places grow, so the number of places is fuel enough. -/
def leap [Monad m] (passes : Nat → m Bool) (size : Nat) : Nat → Nat → Nat → m (Nat × Nat)
  | 0, last, next => pure (last, next)
  | fuel + 1, last, next => do
    if next < size then
      if ← passes next then leap passes size fuel next (2 * next + 1) else return (last, next)
    else return (last, next)

/-- Tests the value at a place of a list; a place without one does not pass. -/
def testAt [Monad m] (p : α → m Bool) (xs : List α) (n : Nat) : m Bool :=
  match xs[n]? with
  | some x => p x
  | none => pure false

/-- The number of values at the front of a list that have a property. The list is given in the order
of the search: for a search from the back it is reversed. -/
def leading [Monad m] (e : End) (p : α → m Bool) (xs : List α) : m Nat := do
  if ← testAt p xs 0 then
    let (last, next) ← leap (testAt p xs) xs.length xs.length 0 1
    narrow e (testAt p xs) xs.length (last + 1) (min next xs.length)
  else return 0

end SpriteStage.Sorting
