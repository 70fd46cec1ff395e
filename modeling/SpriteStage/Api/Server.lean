import SpriteStage.Api.Fault
import SpriteStage.Api.Path
import SpriteStage.Clock.Form
import SpriteStage.Ids
import SpriteStage.Lock

/-!
# The server

The server owns the shared stage with its clock, and the counters of identifiers. Most of what it
does needs the lock of the stage, which it waits for as long as the settings say: then it replies
that the stage is busy.
-/

namespace SpriteStage.Api

/-- A reply. -/
structure Reply where
  status : Nat
  body : Value
  /-- After how many seconds to try again. -/
  retryAfter : Option Nat := none
  /-- The written path to go to instead. -/
  location : Option String := none

namespace Reply

def ok (fields : List (String × Value)) : Reply := ⟨200, .object fields, none, none⟩

def detail (v : Value) : Value := .object [("detail", v)]

def refused (status : Nat) (reason : String) : Reply := ⟨status, detail (.str reason), none, none⟩

def faulty (faults : List Fault) : Reply :=
  ⟨422, detail (.list (faults.map Fault.form)), none, none⟩

def noActor (id : String) : Reply := refused 404 ("Actor not found: " ++ id)

def elsewhere (path : String) : Reply := ⟨307, .null, none, some (Path.escape path)⟩

/-- The refusal for a lock that was not acquired. The settings give a number of seconds that can be
waited for, so the stage is busy then. -/
def unlocked : LockError → Reply
  | .busy seconds => { refused 503 (Lock.busyMessage seconds) with retryAfter := some 1 }
  | .unreadable _ | .tooLong => refused 500 "Internal Server Error"

def isRefusal (r : Reply) : Bool := 400 ≤ r.status

end Reply

/-- The state of the server. -/
structure Server where
  ids : Ids := {}
  clock : Clock := {}
  deriving Inhabited

namespace Server

def stage (s : Server) : Stage := s.clock.stage

def withStage (s : Server) (stage : Stage) : Server := { s with clock := { s.clock with stage } }

/-- What the server does with the lock of the stage, which someone else may hold. -/
def locked (s : Server) (busy : Bool) (act : Reply × Server) : Reply × Server :=
  match Lock.acquire s.clock.setup.settings busy .null with
  | .ok () => act
  | .error e => (.unlocked e, s)

def add (s : Server) (d : Draft) : Except StageError Actor × Server :=
  let (fresh, ids) := if d.needsId then s.ids.sprite else ("", s.ids)
  match s.stage.add fresh d with
  | (.ok a, stage) => (.ok a, { s.withStage stage with ids })
  | (.error e, stage) => (.error e, s.withStage stage)

def firstName : String := "Sprite 1"

/-- What the server does when it comes up: an empty stage gets a first actor if the settings say
so. -/
def startup (s : Server) : Server :=
  if s.clock.setup.settings.seeds && s.stage.roster.size == 0 then
    (s.add { name := .str firstName }).2
  else s

/-- What the server does when it goes down: it stops the clock. -/
def shutdown (s : Server) : Server := { s with clock := (s.clock.stop Clock.patience).2 }

end Server

end SpriteStage.Api
