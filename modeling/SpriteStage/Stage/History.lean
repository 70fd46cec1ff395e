import SpriteStage.Ids
import SpriteStage.Stage.Basic

/-!
# Histories of a stage

Whatever happens to a stage is a sequence of operations. A history lists them, the latest first, and
leads from the empty stage to `History.stage`. What the script and the pose of an actor ought to be
can be told from the history: `History.written?` is the script that was last given to the actor, and
`History.journal` lists the scripts with which it was ticked since it was last at rest.
`History.solo` is the history in which no other actor ever comes. `History.arrival` tells when an
actor came last, and `History.era` is what has happened since everything was last forgotten.
-/

namespace SpriteStage

namespace Stage

/-- What may be asked of a stage. -/
inductive Operation where
  /-- A new actor; the number makes its identifier if it is given none. -/
  | add (number : Nat) (draft : Draft)
  | update (id : Value) (edit : Edit)
  | replaceScript (id : Value) (script : Script)
  | remove (id : Value)
  | start
  | stop
  | reset
  | clear
  | tick
  | detect
  | collide (a b : Value)

/-- The stage after an operation, whether the operation was carried out or refused. -/
def perform (s : Stage) : Operation → Stage
  | .add number draft => (s.add (Ids.label "sprite" number) draft).2
  | .update id edit => (s.update id edit).2
  | .replaceScript id script => (s.replaceScript id script).2
  | .remove id => (s.remove id).2
  | .start => s.start.2
  | .stop => s.stop.2
  | .reset => s.reset
  | .clear => s.clear
  | .tick => s.tick.2
  | .detect => s
  | .collide a b => (s.collide a b).2

/-- The script of an actor that is on the stage. -/
def scriptOf? (s : Stage) (id : String) : Option Script := (s.roster.get? id).map Actor.script

/-- The actor that an operation puts on the stage, if it does. -/
def entrant? (s : Stage) : Operation → Option Actor
  | .add number draft => (s.add (Ids.label "sprite" number) draft).1.toOption
  | _ => none

end Stage

/-- The operations on a stage that was empty at first, the latest first. -/
abbrev History := List Stage.Operation

namespace History

/-- The stage to which a history leads. -/
def stage : History → Stage
  | [] => {}
  | op :: past => (stage past).perform op

/-- The script that an actor had when the latest session was started. -/
def original? : History → String → Option Script
  | [], _ => none
  | .start :: past, id =>
    if (stage past).start.1 then (stage past).scriptOf? id else original? past id
  | _ :: past, id => original? past id

/-- The script that a collision gives to an actor: the motion that its partner had when the session
was started, before what else it had itself. -/
def collided? (past : History) (id partner : String) : Option Script := do
  let own ← past.original? id
  let other ← past.original? partner
  return other.motion ++ own.rest

/-- The identifiers of the two actors that collided in an operation, if they did. -/
def pair? : Stage.Operation × History → Option (String × String)
  | (.collide a b, past) =>
    if Stage.isYes ((stage past).collide a b).1 then Stage.keys? a b else none
  | _ => none

/-- The script that an operation gives to an actor, if it does. -/
def given? (past : History) (id : String) : Stage.Operation → Option Script
  | .add number draft =>
    if ((stage past).entrant? (.add number draft)).any (·.id == id) then some draft.script
    else none
  | .replaceScript key script =>
    if ((stage past).replaceScript key script).1.isOk && key.key? == some id then some script
    else none
  | .collide a b => do
    let (i, j) ← pair? (.collide a b, past)
    if i = id then past.collided? id j
    else if j = id then past.collided? id i
    else none
  | _ => none

/-- The script that was last given to an actor. -/
def written? : History → String → Option Script
  | [], _ => none
  | op :: past, id => (given? past id op).or (written? past id)

/-- The scripts with which an actor was ticked since it came or was put back to rest, the first
tick first. -/
def journal : History → String → List Script
  | [], _ => []
  | op :: past, id =>
    match op with
    | .reset | .clear => []
    | .tick =>
      if (stage past).running then
        journal past id ++ ((stage past).scriptOf? id).toList
      else journal past id
    | op => if ((stage past).entrant? op).any (·.id == id) then [] else journal past id

/-- The history with one actor alone: what happened to others is left out, and a collision becomes
a replacement of the script by the one that the collision gave. -/
def solo : History → String → History
  | [], _ => []
  | op :: past, id =>
    match op with
    | .add number draft =>
      if ((stage past).entrant? (.add number draft)).any (·.id == id) then op :: solo past id
      else solo past id
    | .update key _ | .remove key =>
      if key.key? = some id then op :: solo past id else solo past id
    | .replaceScript .. | .collide .. =>
      match given? past id op with
      | some script => .replaceScript (.str id) script :: solo past id
      | none => solo past id
    | .start | .stop | .reset | .clear | .tick | .detect => op :: solo past id

/-- When an actor came last, as the number of operations up to then; zero if it never came. -/
def arrival : History → String → Nat
  | [], _ => 0
  | op :: past, id =>
    if ((stage past).entrant? op).any (·.id == id) then past.length + 1 else arrival past id

/-- The operations since the stage was last reset or cleared, each with what was before it. -/
def era : History → List (Stage.Operation × History)
  | [] => []
  | .reset :: _ | .clear :: _ => []
  | op :: past => (op, past) :: era past

/-- Whether an operation is a tick that moved the actors. -/
def isTick : Stage.Operation × History → Bool
  | (.tick, past) => (stage past).tick.1.isSome
  | _ => false

end History

end SpriteStage
