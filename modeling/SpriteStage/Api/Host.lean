import SpriteStage.Api.Label
import SpriteStage.Text.Digit
import SpriteStage.Text.Pieces

/-!
# Hosts

A host is a name or an address. What looks like an address has to be one: four numbers with points
between them, or, in brackets, eight groups of hexadecimal digits with colons between them, where
zeros may be left out once. The server answers under any host; hosts are looked at because a client
refuses a reference with a wrong one.
-/

namespace SpriteStage.Api.Host

open SpriteStage.Text

/-! ## Addresses of four numbers -/

/-- Whether some characters write a number below 256 without needless zeros. -/
def isOctet (cs : List Char) : Bool :=
  match cs.mapM asciiDigit? with
  | some [_] => true
  | some (d :: ds) => d != 0 && ds.length ≤ 2 && ofDigits (d :: ds) ≤ 255
  | _ => false

def isFourNumbers (cs : List Char) : Bool :=
  let parts := pieces (· == '.') cs
  parts.length == 4 && parts.all isOctet

/-- Whether a host looks like four numbers, however large. -/
def looksNumeric (cs : List Char) : Bool :=
  let parts := pieces (· == '.') cs
  parts.length == 4 && parts.all fun part => !part.isEmpty && part.all Char.isDigit

/-! ## Addresses of groups -/

def isGroup (cs : List Char) : Bool :=
  !cs.isEmpty && cs.length ≤ 4 && cs.all fun c => (hexDigit? c).isSome

/-- The groups of an address, where four numbers at the end stand for two groups. -/
def groups? (address : List Char) : Option (List (List Char)) :=
  let parts := pieces (· == ':') address
  match parts.getLast? with
  | some last =>
    if !last.contains '.' then some parts
    else if isFourNumbers last then some (parts.dropLast ++ [['0'], ['0']])
    else none
  | none => none

/-- The groups on one side of the place where zeros are left out. There may be none. -/
def side (parts : List (List Char)) : List (List Char) := if parts = [[]] then [] else parts

/-- Whether groups make an address: eight of them, or fewer around the one place that is empty. -/
def areGroups (parts : List (List Char)) : Bool :=
  match parts.tail.dropLast.findIdx? List.isEmpty with
  | none => parts.length == 8 && parts.all isGroup
  | some n =>
    let before := side (parts.take (n + 1))
    let after := side (parts.drop (n + 2))
    before.all isGroup && after.all isGroup && before.length + after.length < 8

/-- Whether an address may have such a zone, which stands after a percent sign. -/
def isZone : List Char → Bool
  | [] => true
  | _ :: zone => !zone.isEmpty && !zone.contains '%'

/-- Whether characters are an address of groups, perhaps with a zone. -/
def isGrouped (cs : List Char) : Bool :=
  let address := cs.takeWhile (· != '%')
  !cs.contains '/' && isZone (cs.dropWhile (· != '%')) && address.count ':' ≥ 2
    && (groups? address).any areGroups

/-! ## Hosts -/

def inBrackets? : List Char → Option (List Char)
  | '[' :: rest => if rest.getLast? = some ']' then some rest.dropLast else none
  | _ => none

/-- Whether a host is a sound name, or an address if it looks like one. -/
def isSound (cs : List Char) : Bool :=
  match inBrackets? cs with
  | some inner => isGrouped inner
  | none => if looksNumeric cs then isFourNumbers cs else Label.isName cs

end SpriteStage.Api.Host
