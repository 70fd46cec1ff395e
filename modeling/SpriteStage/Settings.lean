import SpriteStage.Double.Reader
import SpriteStage.Text.Blank
import SpriteStage.Value.Reading

/-!
# Settings

The surroundings of the program may set four variables. Each is read anew when it is needed; a
variable that is missing, blank or unreadable leaves the default in force.
-/

namespace SpriteStage

/-- The variables as they are set, if they are set. -/
structure Settings where
  tickInterval : Option String := none
  autoCollide : Option String := none
  lockTimeout : Option String := none
  seedActor : Option String := none
  deriving Inhabited

namespace Settings

/-- The name of the variable with the time between ticks, in milliseconds. -/
def tickIntervalName : String := "SWAPSTUDIO_TICK_INTERVAL_MS"

/-- The name of the variable that turns on collisions by overlap. -/
def autoCollideName : String := "SWAPSTUDIO_AUTO_COLLIDE"

/-- The name of the variable with the longest wait for the stage, in seconds. -/
def lockTimeoutName : String := "SWAPSTUDIO_LOCK_TIMEOUT_SECONDS"

/-- The name of the variable that puts a first sprite on an empty stage. -/
def seedActorName : String := "SWAPSTUDIO_SEED_DEFAULT_ACTOR"

def ofVariables (given : List (String × String)) : Settings where
  tickInterval := given.lookup tickIntervalName
  autoCollide := given.lookup autoCollideName
  lockTimeout := given.lookup lockTimeoutName
  seedActor := given.lookup seedActorName

/-- The text of a variable without blanks around it; empty if it is not set. -/
def content (raw : Option String) : String := Text.trim (raw.getD "")

/-- The words that turn a setting on, in lower case. -/
def yesWords : List String := ["1", "true", "yes", "on"]

/-- Whether a setting is on. Capitals make no difference; no other letter has one of the letters of
these words as its small form, so it is enough to lower the letters of ASCII. -/
def isOn (raw : Option String) (default : Bool) : Bool :=
  let word := content raw
  if word.isEmpty then default else yesWords.contains (String.ofList (word.toList.map Char.toLower))

/-- The time between ticks in seconds: a tenth by default, and between ten milliseconds and five
seconds. -/
def tickSeconds (s : Settings) : Float :=
  let milliseconds := (Double.readInt? (content s.tickInterval)).getD 100
  let milliseconds : Int := max 10 (min 5000 milliseconds)
  Double.nearest milliseconds / 1000.0

def collides (s : Settings) : Bool := isOn s.autoCollide false

/-- Whether an empty stage gets a first sprite. -/
def seeds (s : Settings) : Bool := isOn s.seedActor true

/-- The longest wait for the stage in seconds: five by default, and between a hundredth and sixty.
What is not a number counts as the longest. -/
def lockSeconds (s : Settings) : Float :=
  let word := content s.lockTimeout
  if word.isEmpty then 5.0
  else
    match Double.readFloat? word with
    | none => 5.0
    | some x =>
      let capped := if x < 60.0 then x else 60.0
      if capped > 0.01 then capped else 0.01

end Settings

end SpriteStage
