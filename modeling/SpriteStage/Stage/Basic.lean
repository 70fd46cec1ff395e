import SpriteStage.Collision.Box
import SpriteStage.Collision.Swap
import SpriteStage.Interpreter.Basic
import SpriteStage.Keyed
import SpriteStage.Stage.Actor

/-!
# The stage

The stage holds the roster of actors, their poses, the session and what happened in it. While a
session runs, the scripts that the actors had at its start are kept aside: collisions build on them.
-/

namespace SpriteStage

/-- The state of a stage. -/
structure Stage where
  /-- The actors, in the order in which they came. -/
  roster : Keyed Actor := .empty
  /-- The poses committed by the last tick. -/
  poses : Keyed Pose := .empty
  /-- The scripts at the start of the session. -/
  snapshot : Option (Keyed Script) := none
  /-- Whether a session runs. -/
  running : Bool := false
  /-- The ticks since the last reset. -/
  ticks : Nat := 0
  /-- The collisions since the last reset. -/
  collisions : Nat := 0
  /-- The actors of the last collision since the last reset. -/
  lastCollision : Option (String × String) := none
  /-- Whether a session was started since the last reset. -/
  started : Bool := false
  deriving Inhabited

/-- Why the stage refused an operation. -/
inductive StageError where
  /-- An actor with this identifier is on the stage. -/
  | actorExists (id : String)
  /-- No actor with this identifier, as it was given, is on the stage. -/
  | actorNotFound (id : Value)
  /-- An identifier or an attribute has no text, or a size is beyond the range of doubles. -/
  | unreadable (e : ReadingError)

namespace StageError

def message : StageError → String
  | actorExists id => "Actor already exists: " ++ id
  | actorNotFound id => id.shown?.getD ""
  | unreadable .tooManyDigits => "Too many digits"
  | unreadable _ => "Size out of range"

end StageError

/-- What is stored under the key that a value stands for. Identifiers are valid text, so a torn text
finds nothing. -/
def Keyed.named? (m : Keyed α) (id : Value) : Option α := id.key?.bind m.get?

namespace Stage

def actor? (s : Stage) (id : Value) : Option Actor := s.roster.named? id

def actors (s : Stage) : List Actor := s.roster.values

def pose? (s : Stage) (id : Value) : Option Pose := s.poses.named? id

/-- The script of an actor at the start of the session, if a session runs and it was there. -/
def snapshotScript? (s : Stage) (id : Value) : Option Script :=
  s.snapshot.bind fun scripts => scripts.named? id

/-- The answer to a question about an identifier, which must have a text. -/
def answer (id : Value) (found : Option α) : Except StageError (Option α) :=
  if id.text?.isSome then .ok found else .error (.unreadable .tooManyDigits)

def askActor (s : Stage) (id : Value) : Except StageError (Option Actor) :=
  answer id (s.actor? id)

def askPose (s : Stage) (id : Value) : Except StageError (Option Pose) := answer id (s.pose? id)

/-- The script at the start of the session that someone asks for. The identifier is not looked at
while no session runs. -/
def askSnapshot (s : Stage) (id : Value) : Except StageError (Option Script) :=
  match s.snapshot with
  | none => .ok none
  | some scripts => answer id (scripts.named? id)

/-- The actor with an identifier and its key, or why there is none. -/
def find (s : Stage) (id : Value) : Except StageError (String × Actor) :=
  match id.text?, s.actor? id with
  | some key, some a => .ok (key, a)
  | some _, none => .error (.actorNotFound id)
  | none, _ => .error (.unreadable .tooManyDigits)

def script (s : Stage) (id : Value) : Except StageError Script := do
  let (_, a) ← s.find id
  return a.script

/-- Puts a new actor on the stage, at rest. Its identifier must not be in use. -/
def add (s : Stage) (fresh : String) (d : Draft) : Except StageError Actor × Stage :=
  match d.idOr? fresh with
  | none => (.error (.unreadable .tooManyDigits), s)
  | some id =>
    if s.roster.contains id then (.error (.actorExists id), s)
    else
      match d.actor id (s.roster.size + 1) with
      | .error e => (.error (.unreadable e), s)
      | .ok a => (.ok a, { s with roster := s.roster.put id a, poses := s.poses.put id .rest })

/-- Changes an actor. Changes made before one that is refused stay. -/
def update (s : Stage) (id : Value) (e : Edit) : Except StageError Actor × Stage :=
  match s.find id with
  | .error why => (.error why, s)
  | .ok (key, a) =>
    let (a, refused) := e.apply a
    let s := { s with roster := s.roster.put key a }
    match refused with
    | some why => (.error (.unreadable why), s)
    | none => (.ok a, s)

def replaceScript (s : Stage) (id : Value) (script : Script) : Except StageError Actor × Stage :=
  match s.find id with
  | .error why => (.error why, s)
  | .ok (key, a) =>
    let a := { a with script }
    (.ok a, { s with roster := s.roster.put key a })

/-- Takes an actor off the stage, and tells whether it was there. -/
def remove (s : Stage) (id : Value) : Except StageError Bool × Stage :=
  match s.find id with
  | .ok (key, a) => (.ok true, { s with roster := s.roster.erase key, poses := s.poses.erase a.id })
  | .error (.actorNotFound _) => (.ok false, s)
  | .error why => (.error why, s)

/-- Starts a session, unless one runs. -/
def start (s : Stage) : Bool × Stage :=
  if s.running then (false, s)
  else
    (true, { s with
      snapshot := some (s.roster.map fun _ a => a.script)
      running := true
      started := true })

def stop (s : Stage) : Bool × Stage :=
  if s.running then (true, { s with running := false, snapshot := none }) else (false, s)

/-- Stops the session, puts every actor back to rest and forgets what happened. Scripts stay as
collisions left them. -/
def reset (s : Stage) : Stage :=
  { s.stop.2 with
    poses := s.roster.map fun _ _ => .rest
    ticks := 0
    collisions := 0
    lastCollision := none
    started := false }

def clear (_ : Stage) : Stage := {}

def nextPoses (s : Stage) : Keyed Pose :=
  s.roster.map fun id a => ((s.poses.get? id).getD .rest).tick a.script

/-- Moves every actor by one tick and commits all poses together, while a session runs. -/
def tick (s : Stage) : Option (Keyed Pose) × Stage :=
  if s.running then
    let poses := s.nextPoses
    (some poses, { s with poses, ticks := s.ticks + 1 })
  else (none, s)

/-- Swaps the motion of two different actors, both on the stage now and at the start of the session,
building on the scripts of that time. The identifiers are not looked at while no session runs. -/
def collide (s : Stage) (a b : Value) : Except StageError Bool × Stage :=
  match s.running, s.snapshot with
  | true, some snapshot =>
    match a.text?, b.text? with
    | some i, some j =>
      if i = j then (.ok false, s)
      else
        match snapshot.named? a, snapshot.named? b, s.actor? a, s.actor? b with
        | some oldA, some oldB, some first, some second =>
          let (newA, newB) := Script.swap oldA oldB
          (.ok true, { s with
            roster := (s.roster.put i { first with script := newA }).put j
              { second with script := newB }
            collisions := s.collisions + 1
            lastCollision := some (i, j) })
        | _, _, _, _ => (.ok false, s)
    | _, _ => (.error (.unreadable .tooManyDigits), s)
  | _, _ => (.ok false, s)

def isYes : Except StageError Bool → Bool
  | .ok yes => yes
  | .error _ => false

/-- The keys of two identifiers. -/
def keys? (a b : Value) : Option (String × String) := do return (← a.key?, ← b.key?)

def boxes (s : Stage) : List (String × Box) :=
  s.actors.filterMap fun a =>
    (s.poses.get? a.id).map fun p => (a.id, .around p.x p.y a.width a.height)

/-- The pairs of actors that overlap. -/
def overlaps (s : Stage) : List (String × String) := Box.overlaps s.boxes

/-- Lets pairs of actors collide one after the other, and tells which did. A pair that is refused
ends them, and there are fewer answers than pairs. -/
def collideAll (s : Stage) : List (Value × Value) → List Bool × Stage
  | [] => ([], s)
  | (a, b) :: rest =>
    match s.collide a b with
    | (.error _, s) => ([], s)
    | (.ok swapped, s) =>
      let (others, s) := s.collideAll rest
      (swapped :: others, s)

end Stage

end SpriteStage
