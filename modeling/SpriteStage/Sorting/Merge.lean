import SpriteStage.Sorting.Search

/-!
# Merging two runs

Two runs that stand side by side are merged from the end at which the shorter one stands. As long as
the runs win in turns, values are compared one by one. When one run has won many times in a row, the
merge looks for the whole stretch that it wins, until the stretches get short again. How many wins
are many is the patience of the merge, which is carried on to the next one.
-/

namespace SpriteStage.Sorting

variable {α : Type} {m : Type → Type}

/-- A merge on its way, in the order of the merge: from the back all lists are reversed. -/
structure Merging (α : Type) where
  /-- What is left of the run at whose end the merge started. -/
  near : List α
  /-- What is left of the other run. -/
  far : List α
  /-- What has been merged, the latest first. -/
  done : List α := []
  patience : Nat
  /-- The longest stretch of the current round. -/
  stretch : Nat := 0

namespace Merging

/-- Takes so many values of the run at whose end the merge started. -/
def takeNear (n : Nat) (m : Merging α) : Merging α :=
  { m with near := m.near.drop n, done := (m.near.take n).reverse ++ m.done }

def takeFar (n : Nat) (m : Merging α) : Merging α :=
  { m with far := m.far.drop n, done := (m.far.take n).reverse ++ m.done }

/-- Whether nothing is left to compare. The last value of the near run is known to come last. -/
def isSettled (m : Merging α) : Bool := m.near.length ≤ 1 || m.far.isEmpty

/-- All values of a settled merge, in its order. -/
def result (m : Merging α) : List α :=
  m.done.reverse ++ (if m.near.length = 1 then m.far ++ m.near else m.near ++ m.far)

end Merging

/-- Whether a value of the far run comes before one of the near run in the order of a merge. -/
def End.wins (e : End) (lt : α → α → m Bool) (far near : α) : m Bool :=
  match e with
  | .front => lt far near
  | .back => lt near far

namespace Merging

def stretchNear [Monad m] (e : End) (lt : α → α → m Bool) (run : Merging α) : m (Merging α) := do
  match run.far with
  | y :: _ =>
    let n ← leading e (fun x => not <$> e.wins lt y x) run.near
    return { run.takeNear n with stretch := max run.stretch n }
  | [] => return run

def stretchFar [Monad m] (e : End) (lt : α → α → m Bool) (run : Merging α) : m (Merging α) := do
  match run.near with
  | x :: _ =>
    let n ← leading e (fun y => e.wins lt y x) run.far
    return { run.takeFar n with stretch := max run.stretch n }
  | [] => return run

/-- The moves of a round of stretches: each run gives a stretch and then loses a value to the other.
The run that stands in front in the list gives its stretch first. -/
def moves [Monad m] (e : End) (lt : α → α → m Bool) : List (Merging α → m (Merging α)) :=
  match e with
  | .front => [stretchNear e lt, pure ∘ takeFar 1, stretchFar e lt, pure ∘ takeNear 1]
  | .back => [stretchFar e lt, pure ∘ takeNear 1, stretchNear e lt, pure ∘ takeFar 1]

def round [Monad m] (e : End) (lt : α → α → m Bool) (run : Merging α) : m (Merging α) :=
  (moves e lt).foldlM (fun run move => if run.isSettled then pure run else move run)
    { run with stretch := 0 }

end Merging

/-- How a merge goes on. -/
inductive Pace where
  /-- One by one, where one of the runs has just won so many times in a row. -/
  | single (near far : Nat)
  /-- By stretches; in the first round the patience stays as it is. -/
  | stretches (first : Bool)

def longStretch : Nat := 7

namespace Merging

/-- Compares the first values of both runs and takes the one that comes first. -/
def compareOne [Monad m] (e : End) (lt : α → α → m Bool) (nearWins farWins : Nat)
    (run : Merging α) : m (Pace × Merging α) := do
  let paceOf (wins : Nat) (pace : Pace) : Pace :=
    if run.patience ≤ wins then .stretches true else pace
  match run.near, run.far with
  | x :: _, y :: _ =>
    if ← e.wins lt y x then
      return (paceOf (farWins + 1) (.single 0 (farWins + 1)), run.takeFar 1)
    else return (paceOf (nearWins + 1) (.single (nearWins + 1) 0), run.takeNear 1)
  | _, _ => return (.single 0 0, run)

/-- Takes a round of stretches. Patience wanes from round to round, and grows again when a round had
no long stretch. -/
def compareRound [Monad m] (e : End) (lt : α → α → m Bool) (first : Bool) (run : Merging α) :
    m (Pace × Merging α) := do
  let patience := if first then run.patience else max 1 (run.patience - 1)
  let run ← round e lt { run with patience }
  if run.isSettled || longStretch ≤ run.stretch then return (.stretches false, run)
  else return (.single 0 0, { run with patience := patience + 1 })

/-- Merges until the merge is settled. Every step takes a value, so the number of values is fuel
enough. -/
def goOn [Monad m] (e : End) (lt : α → α → m Bool) : Nat → Pace → Merging α → m (Merging α)
  | 0, _, run => pure run
  | fuel + 1, pace, run => do
    if run.isSettled then return run
    let (pace, run) ←
      match pace with
      | .single near far => run.compareOne e lt near far
      | .stretches first => run.compareRound e lt first
    goOn e lt fuel pace run

/-- The settled merge of two runs, where the first value of the far run is known to come first. -/
def settle [Monad m] (e : End) (lt : α → α → m Bool) (near far : List α) (patience : Nat) :
    m (Merging α) :=
  (takeFar 1 { near, far, patience }).goOn e lt (near.length + far.length) (.single 0 0)

end Merging

/-- How many values of a run may stay in front of another run. -/
def inFront [Monad m] (lt : α → α → m Bool) (a b : List α) : m Nat :=
  match b with
  | y :: _ => leading .front (fun x => not <$> lt y x) a
  | [] => pure a.length

/-- How many values of a run may stay behind another run. -/
def behind [Monad m] (lt : α → α → m Bool) (a b : List α) : m Nat :=
  match a.getLast? with
  | some x => leading .back (fun y => not <$> lt y x) b.reverse
  | none => pure b.length

/-- The values of two runs, merged from the end at which the shorter one stands, and the patience
afterwards. -/
def mergeFromEnd [Monad m] (lt : α → α → m Bool) (patience : Nat) (left right : List α) :
    m (List α × Nat) :=
  if left.length ≤ right.length then do
    let run ← Merging.settle .front lt left right patience
    return (run.result, run.patience)
  else do
    let run ← Merging.settle .back lt right.reverse left.reverse patience
    return (run.result.reverse, run.patience)

/-- The values of two runs that stand side by side, merged, and the patience afterwards. What the
first run has before all of the second, and the second after all of the first, is in place. -/
def mergeRuns [Monad m] (lt : α → α → m Bool) (patience : Nat) (a b : List α) :
    m (List α × Nat) := do
  let before ← inFront lt a b
  let left := a.drop before
  let after ← behind lt left b
  let right := b.take (b.length - after)
  if left.isEmpty || right.isEmpty then return (a ++ b, patience)
  let (merged, patience) ← mergeFromEnd lt patience left right
  return (a.take before ++ merged ++ b.drop (b.length - after), patience)

end SpriteStage.Sorting
