import SpriteStage.Api.Path
import SpriteStage.Api.Route
import SpriteStage.Api.Session
import SpriteStage.Json.Flaw

/-!
# Responding to requests

A request is led to its endpoint, which replies. Only a tick waits for the lock without limit: as
long as the stage is busy it gets no reply.

The server stands on a web framework, and all results about requests assume of it what is written in
four places:

* `Api.destination`: a path is decoded once and taken apart at its slashes, routes are tried in
  order, and a path that fails only for the slashes at its end leads elsewhere;
* `Json.read` with `Json.contentOf?`: which bodies are documents, and which value each of them is;
* `Api.Body.read`: a body is checked field by field before its endpoint sees it, and all its faults
  are reported together;
* `Json.flaw?`: a reply is sent unless a double in it is not finite or a text in it is torn.

Limits on resources are not among them: the framework also gives up on documents, and on replies,
that are nested too deeply, how deeply depends on the machine, and here documents of any depth are
read, checked and sent.
-/

namespace SpriteStage.Api

/-- A request. Its path is written with percent signs. If it is `busy`, it never gets the lock of
the stage: someone else holds the lock for as long as this request waits. Otherwise it gets the lock
in time, whether or not it had to wait, and whoever held the lock before has been served by then. -/
structure Request where
  method : String
  path : String
  body : Body := .absent
  busy : Bool := false

/-- What comes of a request. -/
inductive Outcome where
  | reply (r : Reply)
  /-- The request was served, but the body of its reply cannot be sent. -/
  | unsent (r : Reply) (flaw : Json.Flaw)
  /-- A page that describes the server, which is written for people. -/
  | page
  /-- The request waits until the stage is no longer busy. -/
  | waits

def Reply.outcome (r : Reply) : Outcome :=
  match Json.flaw? r.body with
  | some flaw => .unsent r flaw
  | none => .reply r

def catalogReply : Reply :=
  .ok [("categories", .ofNames (Category.all.map Category.name)),
    ("count", .ofNat Kind.catalog.length), ("blocks", .list Kind.catalog)]

namespace Server

/-- What comes of a request to an endpoint. -/
def serve (s : Server) (busy : Bool) (body : Body) : Endpoint → Outcome × Server
  | .page => (.page, s)
  | .health => (.reply (.ok [("status", .str "ok")]), s)
  | .catalog => (.reply catalogReply, s)
  | .listActors => replied (s.listActors busy)
  | .createActor => replied (s.createActor busy body)
  | .readActor id => replied (s.readActor busy id)
  | .editActor id => replied (s.editActor busy id body)
  | .deleteActor id => replied (s.deleteActor busy id)
  | .readScript id => replied (s.readScript busy id)
  | .replaceScript id => replied (s.replaceScript busy id body)
  | .readPose id => replied (s.readPose busy id)
  | .stageState => replied (s.stageState busy)
  | .poses => replied (s.poses busy)
  | .start => replied (s.start busy)
  | .stop => replied (s.stop busy)
  | .reset => replied (s.reset busy)
  | .tick => if busy then (.waits, s) else replied s.tick
  | .collisions => replied (s.collisions busy body)
  | .clock => replied s.clockState
where
  /-- A reply as what comes of a request. -/
  replied (r : Reply × Server) : Outcome × Server := (r.1.outcome, r.2)

def respond (s : Server) (r : Request) : Outcome × Server :=
  match destination r.method (Path.decode r.path) with
  | .endpoint e => s.serve r.busy r.body e
  | .wrongMethod => (.reply (.refused 405 "Method Not Allowed"), s)
  | .elsewhere path => (.reply (.elsewhere path), s)
  | .nowhere => (.reply (.refused 404 "Not Found"), s)

end Server

end SpriteStage.Api
