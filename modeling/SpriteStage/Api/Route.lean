import SpriteStage.Api.Path

/-!
# Routes

A request names an endpoint by its method and its path. Some paths hold the identifier of an actor,
which is any text without a slash. How routes are tried is an assumption on the web framework, see
`Api.Respond`.
-/

namespace SpriteStage.Api

/-- What can be asked for. -/
inductive Endpoint where
  /-- A page that describes the server. -/
  | page
  | health
  | catalog
  | listActors
  | createActor
  | readActor (id : String)
  | editActor (id : String)
  | deleteActor (id : String)
  | readScript (id : String)
  | replaceScript (id : String)
  | readPose (id : String)
  | stageState
  | poses
  | start
  | stop
  | reset
  | tick
  | collisions
  | clock
  deriving Repr, DecidableEq

/-- A part of a path: a fixed name, or the place of an identifier. -/
inductive Part where
  | name (s : String)
  | id

/-- A method, the parts of a path and what they stand for. -/
structure Route where
  method : String
  parts : List Part
  endpoint : String → Endpoint

def base : List Part := [.name "", .name "api", .name "v1"]

def actorPath (parts : List Part) : List Part := base ++ .name "actors" :: parts

def stagePath (name : String) : List Part := base ++ [.name "stage", .name name]

def pagePaths : List (List Part) :=
  [[.name "", .name "openapi.json"], [.name "", .name "docs"],
    [.name "", .name "docs", .name "oauth2-redirect"], [.name "", .name "redoc"]]

def pageRoutes : List Route :=
  pagePaths.flatMap fun parts =>
    [⟨"GET", parts, fun _ => .page⟩, ⟨"HEAD", parts, fun _ => .page⟩]

/-- The routes, in the order in which they are tried. -/
def routes : List Route :=
  pageRoutes ++
  [⟨"GET", actorPath [], fun _ => .listActors⟩,
    ⟨"GET", actorPath [.name ""], fun _ => .listActors⟩,
    ⟨"POST", actorPath [], fun _ => .createActor⟩,
    ⟨"GET", actorPath [.id], .readActor⟩,
    ⟨"PATCH", actorPath [.id], .editActor⟩,
    ⟨"DELETE", actorPath [.id], .deleteActor⟩,
    ⟨"GET", actorPath [.id, .name "script"], .readScript⟩,
    ⟨"PUT", actorPath [.id, .name "script"], .replaceScript⟩,
    ⟨"GET", actorPath [.id, .name "pose"], .readPose⟩,
    ⟨"GET", base ++ [.name "blocks", .name "catalog"], fun _ => .catalog⟩,
    ⟨"GET", stagePath "state", fun _ => .stageState⟩,
    ⟨"GET", stagePath "poses", fun _ => .poses⟩,
    ⟨"POST", stagePath "start", fun _ => .start⟩,
    ⟨"POST", stagePath "stop", fun _ => .stop⟩,
    ⟨"POST", stagePath "reset", fun _ => .reset⟩,
    ⟨"POST", stagePath "tick", fun _ => .tick⟩,
    ⟨"POST", stagePath "collisions", fun _ => .collisions⟩,
    ⟨"GET", stagePath "scheduler", fun _ => .clock⟩,
    ⟨"GET", [.name "", .name "healthz"], fun _ => .health⟩]

/-- The identifier in a path with the given parts; empty if the parts have no place for one. A fixed
name at the end may be followed by a line feed. -/
def matchParts : List Part → List String → Option String
  | [], [] => some ""
  | [.name s], [segment] => if segment = s ∨ segment = s ++ "\n" then some "" else none
  | .name s :: parts, segment :: segments =>
    if segment = s then matchParts parts segments else none
  | .id :: parts, segment :: segments =>
    if segment = "" then none else (matchParts parts segments).map fun _ => segment
  | _, _ => none

def candidates (path : String) : List (String × Endpoint) :=
  let segments := (Path.segments path.toList).map String.ofList
  routes.filterMap fun r =>
    (matchParts r.parts segments).map fun id => (r.method, r.endpoint id)

def withoutSlashes (path : String) : String :=
  String.ofList ((path.toList.reverse.dropWhile (· == '/')).reverse)

/-- What a method and a path lead to. -/
inductive Destination where
  | endpoint (e : Endpoint)
  /-- The path stands for something, but not with this method. -/
  | wrongMethod
  /-- Only the path without its last slashes stands for something. -/
  | elsewhere (path : String)
  | nowhere
  deriving Repr, DecidableEq

def destination (method path : String) : Destination :=
  let found := candidates path
  match found.find? fun c => c.1 == method with
  | some c => .endpoint c.2
  | none =>
    if !found.isEmpty then .wrongMethod
    else if path.toList.getLast? == some '/' && !(candidates (withoutSlashes path)).isEmpty then
      .elsewhere (withoutSlashes path)
    else .nowhere

end SpriteStage.Api
