import SpriteStage.Api.Reference
import SpriteStage.Api.Respond

/-!
# Clients

A client calls a server by a reference and follows where the replies lead, up to a number of times.
What a client writes into a path is read once by the client and once more by the server.

Results about the server start from a `Request`, whose path is given. This module and those for
references and hosts are the way from what a user of the server writes to that path, with the
references that a client refuses before anything is sent.
-/

namespace SpriteStage.Api

/-- What a client asks for. -/
structure Call where
  /-- The method, in capitals. -/
  method : String
  reference : String
  body : Body := .absent
  busy : Bool := false

/-- What a client gets. -/
inductive Answer where
  | reply (r : Reply)
  /-- An answer without a document: a page, or only what stands in front of a reply. -/
  | blank

/-- Why a client gets no answer. -/
inductive CallError where
  | reference (e : ReferenceError)
  | tooManyRedirects
  /-- The call was served, but the body of the reply cannot be sent. -/
  | unsent (r : Reply) (flaw : Json.Flaw)

/-- The most replies in a row that lead elsewhere. -/
def redirectLimit : Nat := 20

/-- The method that asks only for what stands in front of a reply. -/
def headMethod : String := "HEAD"

def Call.answer (c : Call) (r : Reply) : Answer :=
  if c.method == headMethod then .blank else .reply r

def Call.request (c : Call) (path : String) : Request where
  method := c.method
  path := Path.decode path
  body := c.body
  busy := c.busy

namespace Server

/-- Sends a request; one that has to wait is sent again once the stage is free. -/
def send (s : Server) (r : Request) : Outcome × Server :=
  match s.respond r with
  | (.waits, s) => s.respond { r with busy := false }
  | result => result

/-- Makes a call and follows where the replies lead, with so many requests at most. -/
def follow : Nat → Server → Call → Except CallError Answer × Server
  | 0, s, _ => (.error .tooManyRedirects, s)
  | requests + 1, s, c =>
    match target c.reference with
    | .error e => (.error (.reference e), s)
    | .ok path =>
      match s.send (c.request path) with
      | (.reply r, s) =>
        match r.location with
        | some location => follow requests s { c with reference := location }
        | none => (.ok (c.answer r), s)
      | (.unsent r flaw, s) => (.error (.unsent r flaw), s)
      | (.page, s) | (.waits, s) => (.ok .blank, s)

def call (s : Server) (c : Call) : Except CallError Answer × Server :=
  follow (redirectLimit + 1) s c

end Server

end SpriteStage.Api
