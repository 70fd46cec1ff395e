import SpriteStage.Api.Host
import SpriteStage.Api.Path
import SpriteStage.Double.Reader

/-!
# References

A client names what it asks for by a reference: a scheme, an authority and a path, each of which may
be left out, and then a query and a fragment, which no endpoint looks at. `target` is the written
path that a reference leads to, from the root of the server. A reference whose other parts are wrong
leads nowhere, so `Api.Client` needs all of them.
-/

namespace SpriteStage.Api

/-- An authority: who asks, the host, and the number of the service on it, as they are written. -/
structure Authority where
  user : List Char := []
  host : List Char := []
  service : List Char := []

/-- A reference without its query and fragment. -/
structure Reference where
  scheme : String := ""
  authority : Authority := {}
  path : List Char

/-- Why a reference leads nowhere. -/
inductive ReferenceError where
  | malformed
  /-- The scheme is not one of the web. -/
  | unknownScheme
  /-- The scheme asks for a lasting connection. -/
  | connection
  deriving Repr, DecidableEq

/-! ## Parts -/

/-- A list before the first member of a class, and from it on. -/
def splitWhere (p : Char → Bool) (cs : List Char) : List Char × List Char :=
  (cs.takeWhile fun c => !p c, cs.dropWhile fun c => !p c)

/-- A list before the last member of a class, and the list after it, if there is such a member. -/
def splitAtLast? (p : Char → Bool) (cs : List Char) : Option (List Char × List Char) :=
  match splitWhere p cs.reverse with
  | (_, []) => none
  | (after, _ :: before) => some (before.reverse, after.reverse)

def isSchemeChar (c : Char) : Bool := c.isAlphanum || c == '+' || c == '.' || c == '-'

/-- The scheme at the front, without regard to capitals, and the rest. A colon may also stand
alone. -/
def readScheme (cs : List Char) : String × List Char :=
  match splitWhere (fun c => !isSchemeChar c) cs with
  | ([], ':' :: rest) => ("", rest)
  | (c :: word, ':' :: rest) =>
    if c.isAlpha then (String.ofList ((c :: word).map Char.toLower), rest) else ("", cs)
  | _ => ("", cs)

/-- What stands after the host; a colon may stand before it. -/
def afterColon : List Char → List Char
  | ':' :: rest => rest
  | cs => cs

/-- The host and the service of an authority. A host between brackets may hold colons. -/
def readHost (cs : List Char) : List Char × List Char :=
  match cs.head? == some '[', splitAtLast? (· == ']') cs with
  | true, some (before, after) => (before ++ [']'], afterColon after)
  | _, _ =>
    let (host, rest) := splitWhere (· == ':') cs
    (host, afterColon rest)

def Authority.ofChars (cs : List Char) : Authority :=
  let (user, rest) := (splitAtLast? (· == '@') cs).getD ([], cs)
  let (host, service) := readHost rest
  { user, host, service }

def endsAuthority (c : Char) : Bool := c == '/' || c == '?' || c == '#'

/-- The authority at the front, if there is one, and the rest. -/
def readAuthority : List Char → Authority × List Char
  | '/' :: '/' :: rest =>
    let (written, rest) := splitWhere endsAuthority rest
    (.ofChars written, rest)
  | cs => ({}, cs)

def Reference.ofChars (cs : List Char) : Reference :=
  let (scheme, rest) := readScheme cs
  let (authority, rest) := readAuthority rest
  { scheme, authority, path := (splitWhere (fun c => c == '?' || c == '#') rest).1 }

/-! ## Rules -/

def referenceLimit : Nat := 65536

def isControl (c : Char) : Bool := c.toNat < 0x20 || c.toNat == 0x7F

def Authority.number? (a : Authority) : Option Int := Double.readInt? (String.ofList a.service)

def usualNumber? (scheme : String) : Option Int :=
  [("ftp", 21), ("http", 80), ("https", 443), ("ws", 80), ("wss", 443)].lookup scheme

/-- Whether a reference says who serves it. The usual service says nothing. -/
def Reference.hasAuthority (r : Reference) : Bool :=
  !r.authority.user.isEmpty || !r.authority.host.isEmpty
    || (!r.authority.service.isEmpty && r.authority.number? != usualNumber? r.scheme)

def Reference.isRooted (r : Reference) : Bool := !r.scheme.isEmpty || r.hasAuthority

/-- Whether a reference with these parts can be understood: its host is sound and its service
is a number, and a path alone does not look like an authority or a scheme. -/
def Reference.isSound (r : Reference) : Bool :=
  Host.isSound r.authority.host
    && (r.authority.service.isEmpty || r.authority.number?.isSome)
    && (r.isRooted || !(['/', '/'].isPrefixOf r.path || [':'].isPrefixOf r.path))

def Reference.isAbsolute (r : Reference) : Bool :=
  !r.scheme.isEmpty && !r.authority.host.isEmpty

/-! ## Targets -/

/-- The segments of a path after those before it, the latest first. A single dot stays where it is
and two dots go back by one segment, but not beyond the root. -/
def walkSegments : List (List Char) → List (List Char) → List (List Char)
  | found, [] => found
  | found, segment :: rest =>
    if segment = ['.'] then walkSegments found rest
    else if segment = ['.', '.'] then
      walkSegments (if found = [[]] then found else found.tail) rest
    else walkSegments (segment :: found) rest

def withoutDots (path : List Char) : List Char :=
  ['/'].intercalate (walkSegments [] (Path.segments path)).reverse

def fromRoot (path : List Char) : List Char := '/' :: path.dropWhile (· == '/')

/-- The written path that a reference leads to. A reference that names a server is taken as it is,
and any other is put behind the root. -/
def Reference.resolved (r : Reference) : List Char :=
  let path := if r.isRooted then withoutDots r.path else r.path
  if r.isAbsolute then path else withoutDots (fromRoot path)

def Reference.checkScheme (r : Reference) : Except ReferenceError Unit :=
  if !r.isAbsolute || r.scheme == "http" || r.scheme == "https" then .ok ()
  else if r.scheme == "ws" || r.scheme == "wss" then .error .connection
  else .error .unknownScheme

/-- The written path that a text leads to when it is used as a reference. -/
def target (text : String) : Except ReferenceError String := do
  let cs := text.toList
  if referenceLimit < cs.length || cs.any isControl then throw .malformed
  let r := Reference.ofChars cs
  if !r.isSound then throw .malformed
  r.checkScheme
  let path := r.resolved
  return if path.isEmpty then "/" else String.ofList path

end SpriteStage.Api
