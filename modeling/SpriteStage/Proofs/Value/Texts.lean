import SpriteStage.Json.Flaw
import SpriteStage.Proofs.Text.Names
import SpriteStage.Value.Text

/-!
# Values that have a text

A value has no text exactly if there is a whole number with too many digits somewhere in it. Short
values, in which there is none, have one, and so have their parts.
-/

namespace SpriteStage.Value

variable {p : Value → Bool} {v : Value} {items : List Value} {fields : List (String × Value)}

/-! ### Parts of values -/

theorem anyItem_eq (p : Value → Bool) (items : List Value) :
    anyItem p items = items.any (·.any p) := by
  induction items with
  | nil => rfl
  | cons v items ih => rw [anyItem, ih, List.any_cons]

theorem anyField_eq (p : Value → Bool) (fields : List (String × Value)) :
    anyField p fields = fields.any (·.2.any p) := by
  induction fields with
  | nil => rfl
  | cons f fields ih => rw [anyField, ih, List.any_cons]

theorem any_of_mem (h : (list items).any p = false) (hv : v ∈ items) : v.any p = false := by
  rw [any, Bool.or_eq_false_iff, anyItem_eq, List.any_eq_false] at h
  exact Bool.eq_false_iff.2 (h.2 v hv)

theorem any_field? {name : String} {w : Value} (h : v.any p = false)
    (hw : v.field? name = some w) : w.any p = false := by
  cases v with
  | object fields =>
    rw [any, Bool.or_eq_false_iff, anyField_eq, List.any_eq_false] at h
    rw [field?, List.lookup_eq_some_iff] at hw
    obtain ⟨before, after, rfl, -⟩ := hw
    exact Bool.eq_false_iff.2 (h.2 (name, w) (by simp))
  | _ => cases hw

theorem any_field (h : v.any p = false) (hnull : p null = false) (name : String) :
    (v.field name).any p = false := by
  unfold field
  cases hw : v.field? name with
  | none => exact hnull
  | some w => exact any_field? h hw

/-! ### Texts -/

mutual

theorem shown?_eq_none : (v : Value) → (v.shown? = none ↔ v.any isLong = true)
  | null | bool true | bool false | float _ | str _ | torn _ => by simp [shown?, any, isLong]
  | int n => by
    have hany : (int n).any isLong = isLong (int n) := by simp [any]
    rw [shown?, hany]
    split <;> simp_all
  | list items => by
    change _ ↔ (false || anyItem isLong items) = true
    rw [Bool.false_or, ← shownItems?_eq_none items, shown?]
    cases shownItems? items <;> simp
  | object fields => by
    change _ ↔ (false || anyField isLong fields) = true
    rw [Bool.false_or, ← shownFields?_eq_none fields, shown?]
    cases shownFields? fields <;> simp

theorem shownItems?_eq_none :
    (items : List Value) → (shownItems? items = none ↔ anyItem isLong items = true)
  | [] => by simp [shownItems?, anyItem]
  | v :: rest => by
    rw [anyItem, Bool.or_eq_true, ← shown?_eq_none v, ← shownItems?_eq_none rest, shownItems?]
    cases v.shown? <;> cases shownItems? rest <;> simp

theorem shownFields?_eq_none : (fields : List (String × Value)) →
    (shownFields? fields = none ↔ anyField isLong fields = true)
  | [] => by simp [shownFields?, anyField]
  | (name, v) :: rest => by
    rw [anyField, Bool.or_eq_true, ← shown?_eq_none v, ← shownFields?_eq_none rest, shownFields?]
    cases v.shown? <;> cases shownFields? rest <;> simp

end

theorem text?_ofNat {n : Nat} (h : isLong (int n) = false) :
    (ofNat n).text? = some (toString n) := by
  simp only [ofNat, text?, shown?, h, Bool.false_eq_true, if_false]
  rfl

theorem text?_eq_none : v.text? = none ↔ v.any isLong = true := by
  cases v with
  | str | torn => simp [text?, any, isLong]
  | _ => exact shown?_eq_none _

/-- A void value holds no long number, so it does not matter that something else stands in for it.
-/
theorem any_isLong_of_isVoid (h : v.isVoid = true) : v.any isLong = false := by
  cases v with
  | int n =>
    obtain rfl : n = 0 := by simpa [isVoid] using h
    simp [any, isLong]
  | list items =>
    obtain rfl := List.isEmpty_iff.1 h
    rfl
  | object fields =>
    obtain rfl := List.isEmpty_iff.1 h
    rfl
  | _ => rfl

theorem orElse_text?_eq_none {other : Value} (hother : other.any isLong = false) :
    (v.orElse other).text? = none ↔ v.any isLong = true := by
  rw [text?_eq_none, orElse]
  split
  · rename_i hvoid
    rw [hother, any_isLong_of_isVoid hvoid]
  · rfl

theorem trimmed?_eq_none : v.trimmed? = none ↔ v.any isLong = true := by
  rw [trimmed?, Option.map_eq_none_iff]
  exact orElse_text?_eq_none rfl

theorem trimmed?_str {s : String} (h : Text.IsName s) : (str s).trimmed? = some s := by
  simp [trimmed?, orElse, isVoid, h.nonempty, h.trim_eq]

theorem isName_trimmed {s : String} (h : v.trimmed? = some s) (hs : s.isEmpty = false) :
    Text.IsName s := by
  obtain ⟨text, -, rfl⟩ := Option.map_eq_some_iff.1 h
  exact Text.isName_trim fun hempty => by rw [hempty] at hs; cases hs

/-! ### Short values -/

/-- A value whose whole numbers all have few enough digits to be written out. -/
def IsShort (v : Value) : Prop := v.any isLong = false

theorem not_isShort : ¬v.IsShort ↔ v.any isLong = true := by simp [IsShort]

theorem isShort_list_cons : (list (v :: items)).IsShort ↔ v.IsShort ∧ (list items).IsShort := by
  simp [IsShort, any, anyItem, isLong]

theorem isShort_object_cons {name : String} :
    (object ((name, v) :: fields)).IsShort ↔ v.IsShort ∧ (object fields).IsShort := by
  simp [IsShort, any, anyField, isLong]

theorem IsShort.of_mem (h : (list items).IsShort) (hv : v ∈ items) : v.IsShort := any_of_mem h hv

theorem IsShort.field (h : v.IsShort) (name : String) : (v.field name).IsShort :=
  any_field h rfl name

theorem IsShort.exists_trimmed (h : v.IsShort) : ∃ s, v.trimmed? = some s :=
  Option.ne_none_iff_exists'.1 fun hnone => by
    rw [IsShort, trimmed?_eq_none.1 hnone] at h
    cases h

end SpriteStage.Value
