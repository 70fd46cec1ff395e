import SpriteStage.Block.Basic

/-!
# Swapping motion

When two sprites collide they exchange the motion blocks of their scripts. Only the blocks on the
top level are sorted into motion and rest; a loop belongs to the rest with everything in it. An
object that is no block has no category, so `partition?` and `swap?` sort scripts of blocks only. On
such scripts, which are those of a stage, they are `motion`, `rest` and `swap`.
-/

namespace SpriteStage.Script

def motion (s : Script) : Script := s.filter Block.isMotion

/-- The other blocks of a script, in order. -/
def rest (s : Script) : Script := s.filter fun b => !b.isMotion

/-- The script that one side of a collision gets: the motion of the other side before its own
rest. -/
def collide (own other : Script) : Script := other.motion ++ own.rest

def swap (a b : Script) : Script × Script := (a.collide b, b.collide a)

/-- Whether every member on the top level is a block. -/
def isKnown (s : Script) : Bool := s.all fun b => b.kind?.isSome

def partition? (s : Script) : Option (Script × Script) :=
  if s.isKnown then some (s.motion, s.rest) else none

/-- The scripts of both sides after a collision, for scripts of blocks. -/
def swap? (a b : Script) : Option (Script × Script) := do
  let (motionA, restA) ← a.partition?
  let (motionB, restB) ← b.partition?
  return (motionB ++ restA, motionA ++ restB)

theorem partition?_of_isKnown {s : Script} (h : s.isKnown = true) :
    s.partition? = some (s.motion, s.rest) := if_pos h

theorem swap?_of_isKnown {a b : Script} (ha : a.isKnown = true) (hb : b.isKnown = true) :
    a.swap? b = some (swap a b) := by
  simp [swap?, partition?_of_isKnown ha, partition?_of_isKnown hb, swap, collide]

/-- The identifiers of the blocks on the top level, if all members are blocks. -/
def ids? (s : Script) : Option (List String) := s.mapM Block.id?

end SpriteStage.Script
