import SpriteStage.Settings
import SpriteStage.Double.Rounding

/-!
# The stage lock

Whoever reads or changes the stage holds its lock. A caller waits for the lock for a limited time
and is then told that the stage is busy. `Lock.acquire` answers for a lock that stays held, or stays
free, for the whole wait.
-/

namespace SpriteStage

/-- Why the lock was not acquired. -/
inductive LockError where
  /-- The lock was held for the whole wait, of so many seconds. -/
  | busy (seconds : Float)
  /-- The wait was not given as a number. -/
  | unreadable (e : ReadingError)
  /-- The wait is longer than the system clock can count. -/
  | tooLong

namespace Lock

/-- The words for a busy stage; the wait has two decimal places. -/
def busyMessage (seconds : Float) : String :=
  "Stage is busy; lock not acquired within "
    ++ Double.fixedText 2 ((Double.rational? seconds).getD 0) ++ "s"

/-- The number of nanoseconds from which on a wait cannot be counted. -/
def longest : Float := 9223372036854775808.0

def isWaitable (seconds : Float) : Bool := seconds * 1000000000.0 < longest

/-- The wait for the lock: the given one, none if it is negative, or else the setting. -/
def wait (settings : Settings) : Value → Except LockError Float
  | .null => .ok settings.lockSeconds
  | given =>
    match given.toFloat with
    | .ok x => .ok (Double.atLeastZero x)
    | .error e => .error (.unreadable e)

/-- Acquires the lock, which is held by someone else or free. -/
def acquire (settings : Settings) (held : Bool) (timeout : Value) : Except LockError Unit := do
  let seconds ← wait settings timeout
  if !isWaitable seconds then throw .tooLong
  if held then throw (.busy seconds)

end Lock

end SpriteStage
