import SpriteStage.Sorting.Merge

/-!
# Sorting by runs

`byRuns` cuts a list into runs that are in order as they stand, fills up short ones by insertion and
merges neighbours until one run is left. When every two values compare, it sorts the list and keeps
equal values in order, as any stable sort does. A value that compares with nothing makes the outcome
depend on the comparisons, and a comparison may fail, so the comparisons are fixed here.
-/

namespace SpriteStage.Sorting

variable {α : Type} {m : Type → Type}

/-! ## Runs -/

/-- The values at the front of a list that each continue the one before, and the rest. -/
def chain [Monad m] (continues : α → α → m Bool) : α → List α → m (List α × List α)
  | _, [] => pure ([], [])
  | last, x :: xs => do
    if ← continues last x then
      let (more, rest) ← chain continues x xs
      return (x :: more, rest)
    else return ([], x :: xs)

/-- The run at the front of a list, and the rest. A run that falls all the way is turned round. -/
def firstRun [Monad m] (lt : α → α → m Bool) : List α → m (List α × List α)
  | x :: y :: xs => do
    if ← lt y x then
      let (more, rest) ← chain (fun last next => lt next last) y xs
      return ((x :: y :: more).reverse, rest)
    else
      let (more, rest) ← chain (fun last next => not <$> lt next last) y xs
      return (x :: y :: more, rest)
  | xs => pure (xs, [])

/-- A run with another value, which goes behind the equal ones. -/
def insertInto [Monad m] (lt : α → α → m Bool) (run : List α) (v : α) : m (List α) := do
  let place ← narrow .front (testAt (fun x => not <$> lt v x) run) run.length 0 run.length
  return run.take place ++ v :: run.drop place

/-- The length from which a list is cut into several runs. -/
def manyValues : Nat := 64

/-- The least length of a run but the last one: a list of so many values then has about a power of
two runs. `odd` is one if a value was left over on the way. -/
def leastRun (n odd : Nat) : Nat :=
  if h : manyValues ≤ n then leastRun (n / 2) (max odd (n % 2)) else n + odd
termination_by n
decreasing_by
  unfold manyValues at h
  omega

/-- The run at the front of a list, filled up to a least length, and the rest. -/
def takeRun [Monad m] (lt : α → α → m Bool) (least : Nat) (xs : List α) :
    m (List α × List α) := do
  let (run, rest) ← firstRun lt xs
  let missing := least - run.length
  return (← (rest.take missing).foldlM (insertInto lt) run, rest.drop missing)

/-! ## Merging in balance -/

/-- A run that waits to be merged with its neighbour. -/
structure Waiting (α : Type) where
  values : List α
  /-- Where the run starts in the list. -/
  start : Nat
  /-- How deep the gap behind the run lies in the tree of merges. -/
  depth : Nat := 0

/-- The depth of the gap between the middles of two runs, as doubled fractions `a` and `b` of the
list: the number of the first binary digit in which they differ. Neighbours differ after a number of
digits below the size of the list. -/
def gapDepth (size : Nat) : Nat → Nat → Nat → Nat
  | 0, _, _ => 1
  | fuel + 1, a, b =>
    if size ≤ a then gapDepth size fuel (2 * (a - size)) (2 * (b - size)) + 1
    else if size ≤ b then 1
    else gapDepth size fuel (2 * a) (2 * b) + 1

/-- The runs that wait, the last one first, and the patience of their merges. -/
structure Pile (α : Type) where
  runs : List (Waiting α) := []
  patience : Nat := longStretch

namespace Pile

def join [Monad m] (lt : α → α → m Bool) (patience : Nat) (a b : Waiting α) :
    m (Waiting α × Nat) := do
  let (values, patience) ← mergeRuns lt patience a.values b.values
  return ({ a with values }, patience)

/-- Merges the last two runs as long as the gap between them lies deeper than a new one. -/
def settleDeeper [Monad m] (lt : α → α → m Bool) (depth : Nat) :
    List (Waiting α) → Nat → m (Pile α)
  | b :: a :: runs, patience => do
    if depth < a.depth then
      let (ab, patience) ← join lt patience a b
      settleDeeper lt depth (ab :: runs) patience
    else return ⟨b :: a :: runs, patience⟩
  | runs, patience => pure ⟨runs, patience⟩
termination_by runs => runs.length

/-- Adds a run of a list of a given size. -/
def push [Monad m] (lt : α → α → m Bool) (size : Nat) (p : Pile α) (values : List α) :
    m (Pile α) := do
  match p.runs with
  | [] => return { p with runs := [{ values, start := 0 }] }
  | last :: _ =>
    let a := 2 * last.start + last.values.length
    let b := a + last.values.length + values.length
    let depth := gapDepth size (size + 2) a b
    let settled ← settleDeeper lt depth p.runs p.patience
    match settled.runs with
    | top :: runs =>
      let added := { values, start := top.start + top.values.length }
      return { settled with runs := added :: { top with depth } :: runs }
    | [] => return settled

/-- Merges all runs, the shorter of two neighbours first. -/
def collapse [Monad m] (lt : α → α → m Bool) : List (Waiting α) → Nat → m (List α)
  | c :: b :: a :: runs, patience => do
    if a.values.length < c.values.length then
      let (ab, patience) ← join lt patience a b
      collapse lt (c :: ab :: runs) patience
    else
      let (bc, patience) ← join lt patience b c
      collapse lt (bc :: a :: runs) patience
  | [b, a], patience => do return (← join lt patience a b).1.values
  | [a], _ => pure a.values
  | [], _ => pure []
termination_by runs => runs.length

end Pile

/-- Piles up the runs of a list. Every run has a value, so the length of the list is fuel enough. -/
def pileUp [Monad m] (lt : α → α → m Bool) (size least : Nat) :
    Nat → List α → Pile α → m (Pile α)
  | 0, _, p => pure p
  | _ + 1, [], p => pure p
  | fuel + 1, xs, p => do
    let (run, rest) ← takeRun lt least xs
    pileUp lt size least fuel rest (← p.push lt size run)

/-- The values of a list in order, as far as they compare. -/
def byRuns [Monad m] (lt : α → α → m Bool) (xs : List α) : m (List α) := do
  let pile ← pileUp lt xs.length (leastRun xs.length 0) xs.length xs {}
  Pile.collapse lt pile.runs pile.patience

end SpriteStage.Sorting
