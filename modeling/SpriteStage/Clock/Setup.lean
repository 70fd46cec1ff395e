import SpriteStage.Settings

/-!
# How a clock is set up

A clock ticks at the pace and with the collisions that it was given, or else as the settings say. It
may have a listener that it tells of every tick.
-/

namespace SpriteStage

/-- A failure, as the one who failed reports it. -/
structure Failure where
  kind : String
  message : String
  deriving Repr, DecidableEq

def Failure.text (f : Failure) : String := f.kind ++ ": " ++ f.message

/-- What a listener does when it is told of the tick with a number: it may stop the clock, then make
the worker that told it wait, and then fail. -/
structure Listener where
  stopsAt : Nat → Bool
  waitsAt : Nat → Bool
  failsAt : Nat → Option Failure

/-- How a clock is set up; nothing stands for what the settings say. -/
structure Setup where
  settings : Settings := {}
  interval : Value := .null
  autoCollide : Value := .null
  listener : Option Listener := none
  deriving Inhabited

namespace Setup

/-- The time between ticks in seconds; a given one is at least a thousandth. -/
def seconds (s : Setup) : Except ReadingError Float :=
  match s.interval with
  | .null => .ok s.settings.tickSeconds
  | given => do
    let x ← given.toFloat
    return if x > 0.001 then x else 0.001

def collides (s : Setup) : Bool :=
  match s.autoCollide with
  | .null => s.settings.collides
  | given => !given.isVoid

end Setup

end SpriteStage
