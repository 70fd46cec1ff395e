import SpriteStage.Value

/-!
# Flaws

Not every value can be sent as a document: the standard has no word for a double that is not finite,
and a torn text has no encoding. `flaw?` finds out what keeps a value from being sent.
That nothing else does is an assumption on the web framework, see `Api.Respond`.
-/

namespace SpriteStage

mutual

def Value.any (p : Value → Bool) : Value → Bool
  | .list items => p (.list items) || anyItem p items
  | .object fields => p (.object fields) || anyField p fields
  | v => p v

def Value.anyItem (p : Value → Bool) : List Value → Bool
  | [] => false
  | v :: rest => v.any p || anyItem p rest

def Value.anyField (p : Value → Bool) : List (String × Value) → Bool
  | [] => false
  | (_, v) :: rest => v.any p || anyField p rest

end

namespace Json

/-- What keeps a value from being sent. -/
inductive Flaw where
  /-- A double in it is not finite. -/
  | notFinite
  /-- A text in it is torn. -/
  | torn
  deriving Repr, DecidableEq

def isEndless : Value → Bool
  | .float x => !x.isFinite
  | _ => false

/-- What keeps a value from being sent, if something does. Numbers are looked at before texts are
encoded. -/
def flaw? (v : Value) : Option Flaw :=
  if v.any isEndless then some .notFinite else if v.any Value.isTorn then some .torn else none

end Json

end SpriteStage
