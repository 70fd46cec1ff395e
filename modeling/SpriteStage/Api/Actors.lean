import SpriteStage.Api.Form
import SpriteStage.Api.Server
import SpriteStage.Block.Parser

/-!
# Requests about actors

The replies to requests that read and change the roster. A request first has its body checked and
its blocks read, and then waits for the lock; a refused one leaves the server as it was.
-/

namespace SpriteStage.Api.Server

/-- The object that describes an actor with its pose. Every actor of the server has a script of
blocks, so the object exists. -/
def actorForm (s : Stage) (a : Actor) : Value :=
  .ofOption (a.formWith? (.ofOption ((s.pose? (.str a.id)).map Pose.form)))

def blocksForm (script : Script) : Value := .ofOption ((Script.forms? script).map .list)

/-- Reads the body of a request and goes on with it. -/
def withBody (s : Server) (form : List Field) (body : Body) (act : Value → Reply × Server) :
    Reply × Server :=
  match body.read form with
  | .ok v => act v
  | .error (.faults found) => (.faulty found, s)
  | .error .garbled => (.refused 400 "There was an error parsing the body", s)

/-- Reads the script in a body and goes on with it and with the identifiers that are left. -/
def withScript (s : Server) (v : Value) (act : Script → Ids → Reply × Server) : Reply × Server :=
  match Script.parse (listIn v "script") s.ids with
  | .ok (script, ids) => act script ids
  | .error e => (.refused 422 e.message, s)

def listActors (s : Server) (busy : Bool) : Reply × Server :=
  s.locked busy
    (.ok [("count", .ofNat s.stage.roster.size),
      ("actors", .list (s.stage.actors.map fun a => .ofOption a.form?))], s)

def createActor (s : Server) (busy : Bool) (body : Body) : Reply × Server :=
  s.withBody createForm body fun v => s.withScript v fun script ids =>
    s.locked busy
      (match add { s with ids } (draftIn v script) with
      | (.ok a, s) => (.ok [("ok", .bool true), ("actor", actorForm s.stage a)], s)
      | (.error e, t) => (.refused 409 e.message, s.withStage t.stage))

def readActor (s : Server) (busy : Bool) (id : String) : Reply × Server :=
  s.locked busy
    (match s.stage.actor? (.str id) with
    | some a => (.ok [("actor", actorForm s.stage a)], s)
    | none => (.noActor id, s))

def editActor (s : Server) (busy : Bool) (id : String) (body : Body) : Reply × Server :=
  s.withBody editForm body fun v =>
    s.locked busy
      (match s.stage.update (.str id) (editIn v) with
      | (.ok a, stage) =>
        (.ok [("ok", .bool true), ("actor", actorForm stage a)], s.withStage stage)
      | (.error _, stage) => (.noActor id, s.withStage stage))

def deleteActor (s : Server) (busy : Bool) (id : String) : Reply × Server :=
  s.locked busy
    (match s.stage.remove (.str id) with
    | (.ok true, stage) => (.ok [("ok", .bool true), ("actor_id", .str id)], s.withStage stage)
    | (_, stage) => (.noActor id, s.withStage stage))

/-- Shows the script of an actor, and the one it had at the start of the session. -/
def readScript (s : Server) (busy : Bool) (id : String) : Reply × Server :=
  s.locked busy
    (match s.stage.script (.str id) with
    | .ok script =>
      (.ok [("actor_id", .str id), ("running", .bool s.stage.running),
        ("script", blocksForm script),
        ("original_script", .ofOption ((s.stage.snapshotScript? (.str id)).map blocksForm))], s)
    | .error _ => (.noActor id, s))

def replaceScript (s : Server) (busy : Bool) (id : String) (body : Body) : Reply × Server :=
  s.withBody scriptForm body fun v => s.withScript v fun script ids =>
    s.locked busy
      (match s.stage.replaceScript (.str id) script with
      | (.ok a, stage) =>
        (.ok [("ok", .bool true), ("actor_id", .str a.id), ("script", blocksForm a.script)],
          { s.withStage stage with ids })
      | (.error _, stage) => (.noActor id, s.withStage stage))

def readPose (s : Server) (busy : Bool) (id : String) : Reply × Server :=
  s.locked busy
    (match s.stage.pose? (.str id) with
    | some p =>
      (.ok [("actor_id", .str id), ("tick", .ofNat s.stage.ticks), ("pose", p.form)], s)
    | none => (.noActor id, s))

end SpriteStage.Api.Server
