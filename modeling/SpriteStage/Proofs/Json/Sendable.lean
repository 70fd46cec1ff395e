import SpriteStage.Proofs.Double.Range
import SpriteStage.Proofs.Value.Texts

/-!
# Values that can be sent

A value can be sent as a document if nothing in it is a double that is not finite or a torn text. It
can be exactly if all its parts can. A value that came in valid text has no torn text in it, and so
have its parts, but its doubles may be anything.
-/

namespace SpriteStage.Value

variable {v : Value} {items : List Value} {fields : List (String × Value)}

/-! ### Sending -/

/-- A value that can be sent as a document. -/
def Sendable (v : Value) : Prop := Json.flaw? v = none

theorem sendable_iff : v.Sendable ↔ v.any Json.isEndless = false ∧ v.any isTorn = false := by
  unfold Sendable Json.flaw?
  cases v.any Json.isEndless <;> cases v.any isTorn <;> simp

@[simp] theorem sendable_list : (list items).Sendable ↔ ∀ v ∈ items, v.Sendable := by
  simp only [sendable_iff, any, Json.isEndless, isTorn, Bool.false_or, anyItem_eq,
    List.any_eq_false, Bool.not_eq_true]
  exact ⟨fun h v hv => ⟨h.1 v hv, h.2 v hv⟩,
    fun h => ⟨fun v hv => (h v hv).1, fun v hv => (h v hv).2⟩⟩

@[simp] theorem sendable_object : (object fields).Sendable ↔ ∀ f ∈ fields, f.2.Sendable := by
  simp only [sendable_iff, any, Json.isEndless, isTorn, Bool.false_or, anyField_eq,
    List.any_eq_false, Bool.not_eq_true]
  exact ⟨fun h v hv => ⟨h.1 v hv, h.2 v hv⟩,
    fun h => ⟨fun v hv => (h v hv).1, fun v hv => (h v hv).2⟩⟩

@[simp] theorem sendable_null : null.Sendable := rfl

@[simp] theorem sendable_bool (b : Bool) : (bool b).Sendable := rfl

@[simp] theorem sendable_int (n : Int) : (int n).Sendable := rfl

@[simp] theorem sendable_str (s : String) : (str s).Sendable := rfl

@[simp] theorem sendable_float (x : Float) : (float x).Sendable ↔ x.isFinite = true := by
  simp [sendable_iff, any, Json.isEndless, isTorn]

@[simp] theorem sendable_ofNat (n : Nat) : (ofNat n).Sendable := rfl

theorem sendable_ofOption {o : Option Value} (h : ∀ v ∈ o, v.Sendable) : (ofOption o).Sendable := by
  cases o with
  | none => exact sendable_null
  | some v => exact h v rfl

/-! ### Whole values -/

/-- A value in which no text is torn. -/
def IsWhole (v : Value) : Prop := v.any isTorn = false

theorem IsWhole.of_mem (h : (list items).IsWhole) (hv : v ∈ items) : v.IsWhole := any_of_mem h hv

theorem IsWhole.field? {name : String} {w : Value} (h : v.IsWhole)
    (hw : v.field? name = some w) : w.IsWhole := any_field? h hw

theorem IsWhole.field (h : v.IsWhole) (name : String) : (v.field name).IsWhole :=
  any_field h rfl name

theorem IsWhole.sendable_text (h : v.IsWhole) {s : String} (hs : v = .str s ∨ v = .torn s) :
    v.Sendable := by
  rcases hs with rfl | rfl
  · exact sendable_str s
  · cases h

end SpriteStage.Value
