/-!
# Pieces

A list of characters is taken apart at the members of a class. There is always one piece more than
there are such members, and pieces may be empty.
-/

namespace SpriteStage.Text

/-- The pieces of a list between the members of a class. -/
def pieces (p : Char → Bool) : List Char → List (List Char)
  | [] => [[]]
  | c :: cs =>
    match pieces p cs with
    | piece :: rest => if p c then [] :: piece :: rest else (c :: piece) :: rest
    | [] => []

theorem pieces_ne_nil (p : Char → Bool) (cs : List Char) : pieces p cs ≠ [] := by
  induction cs with
  | nil => simp [pieces]
  | cons c cs ih =>
    unfold pieces
    split
    · split <;> simp
    · next h => exact absurd h ih

theorem pieces_cons_of_pos {p : Char → Bool} {c : Char} (h : p c = true) (cs : List Char) :
    pieces p (c :: cs) = [] :: pieces p cs := by
  cases found : pieces p cs with
  | nil => exact absurd found (pieces_ne_nil p cs)
  | cons piece rest => simp [pieces, found, h]

theorem pieces_of_forall_neg {p : Char → Bool} {cs : List Char} (h : ∀ c ∈ cs, p c = false) :
    pieces p cs = [cs] := by
  induction cs with
  | nil => rfl
  | cons c cs ih =>
    rw [List.forall_mem_cons] at h
    simp [pieces, ih h.2, h.1]

end SpriteStage.Text
