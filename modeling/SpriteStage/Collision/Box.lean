import SpriteStage.Pose.Record

/-!
# Overlap

Each sprite fills a box around its position. Two boxes overlap when they share an area; touching
edges are not enough. The pairs of overlapping members of a list are listed once each, by the order
of their first and then of their second member.
-/

namespace SpriteStage

/-- A rectangle with its sides parallel to the axes; `top` is the smaller of the two heights. -/
structure Box where
  left : Float
  top : Float
  right : Float
  bottom : Float

namespace Box

/-- The box around a point; a negative width or height counts as none. -/
def around (x y width height : Float) : Box :=
  let across := Double.atLeastZero width / 2.0
  let down := Double.atLeastZero height / 2.0
  ⟨x - across, y - down, x + across, y + down⟩

/-- The box around the position of a pose record. The size is read first. -/
def ofRecord (p : PoseRecord) (width height : Value) : Except ReadingError Box := do
  let width ← width.toFloat
  let height ← height.toFloat
  let x ← p.x.asNumber >>= Number.toFloat
  let y ← p.y.asNumber >>= Number.toFloat
  return around x y width height

/-- Whether two boxes share an area. -/
def intersects (a b : Box) : Bool :=
  a.left < b.right && b.left < a.right && a.top < b.bottom && b.top < a.bottom

/-- The names of overlapping boxes, in pairs. -/
def overlaps : List (α × Box) → List (α × α)
  | [] => []
  | (name, box) :: rest =>
    (rest.filter fun other => box.intersects other.2).map (fun other => (name, other.1))
      ++ overlaps rest

theorem intersects_comm (a b : Box) : a.intersects b = b.intersects a := by
  simp only [intersects]
  cases decide (a.left < b.right) <;> cases decide (b.left < a.right)
    <;> cases decide (a.top < b.bottom) <;> cases decide (b.top < a.bottom) <;> rfl

end Box

end SpriteStage
