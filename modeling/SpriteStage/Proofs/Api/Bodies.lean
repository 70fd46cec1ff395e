import SpriteStage.Api.Form
import SpriteStage.Proofs.Stage.Sendable

/-!
# What is read from a body

What an endpoint reads from a body has passed the check of its form. Sizes are finite then, and if
the body came in valid text, what is taken from it can be sent back.
-/

namespace SpriteStage

theorem Double.isFinite_of_bounds {x : Float} (hle : x ≤ 1000.0) (hpos : ¬x ≤ 0.0) :
    x.isFinite = true := by
  change x.toModel.unpack.isFinite = true
  rw [Double.le_iff_compare] at hle hpos
  rw [Double.unpack_zero] at hpos
  cases hu : x.toModel.unpack with
  | notANumber => rw [hu] at hle; cases hle
  | zero | finite => rfl
  | infinity s =>
    cases s with
    | positive => rw [hu] at hle; cases hle
    | negative => rw [hu] at hpos; exact absurd rfl hpos

namespace Api

theorem isFinite_of_readSize {v : Value} {x : Float} (h : readSize v = .ok x) :
    x.isFinite = true := by
  unfold readSize at h
  cases hx : readNumber v with
  | error e => rw [hx] at h; cases h
  | ok y =>
    rw [hx] at h
    simp only [bind, Except.bind] at h
    split at h
    · cases h
    · rename_i hle
      split at h
      · cases h
      · rename_i hpos
        cases h
        exact Double.isFinite_of_bounds (show x ≤ sizeLimit by simpa using hle) hpos

theorem isSize_sizeIn (v : Value) (name : String) {other : Value} (h : other.IsSize) :
    (sizeIn v name other).IsSize := by
  unfold sizeIn
  split
  · rename_i x hx
    obtain ⟨w, -, hw⟩ := Option.map_eq_some_iff.1 hx
    exact .inr ⟨x, rfl, isFinite_of_readSize hw⟩
  · exact h

theorem sendable_draftIn (v : Value) {script : Script} (h : script.Sendable) :
    (draftIn v script).Sendable where
  width := isSize_sizeIn v "width" (.inr ⟨_, rfl, by decide⟩)
  height := isSize_sizeIn v "height" (.inr ⟨_, rfl, by decide⟩)
  script := h

theorem mem_listIn {v w : Value} {name : String} (h : w ∈ listIn v name) :
    ∃ items, v.field? name = some (.list items) ∧ w ∈ items := by
  unfold listIn Value.field at h
  cases hv : v.field? name with
  | none => rw [hv] at h; cases h
  | some field =>
    rw [hv, Option.getD_some] at h
    cases field with
    | list items => exact ⟨items, rfl, h⟩
    | _ => cases h

theorem isWhole_of_mem_listIn {v w : Value} {name : String} (hv : v.IsWhole)
    (hw : w ∈ listIn v name) : w.IsWhole := by
  obtain ⟨items, hfield, hmem⟩ := mem_listIn hw
  exact (hv.field? hfield).of_mem hmem

/-- What is read from a body is the object in it, in which no field has a fault. -/
theorem Body.read_eq_ok {form : List Field} {body : Body} {v : Value} (h : body.read form = .ok v) :
    body = .document v ∧ ∀ f ∈ form, f.faults .body v = [] := by
  unfold Body.read at h
  split at h
  · cases h
  · cases h
  · cases h
  · split at h
    · rename_i hfaults
      cases h
      exact ⟨rfl, List.flatMap_eq_nil_iff.1 hfaults⟩
    · cases h
  · cases h

theorem Check.orNull_eq_nil {c : Check} {place : Place} {v : Value}
    (h : Check.orNull c place v = []) : v = .null ∨ c place v = [] := by
  unfold Check.orNull at h
  split at h
  · exact .inl rfl
  · exact .inr h

theorem Check.isShort_of_name {place : Place} {v : Value} (h : Check.name place v = []) :
    v.IsShort := by
  cases v with
  | str s => rfl
  | _ => cases h

theorem Check.isShort_of_pattern {p : String → Bool} {place : Place} {v : Value}
    (h : Check.pattern p place v = []) : v.IsShort := by
  cases v with
  | str s => rfl
  | _ => cases h

/-- A field that must be a text, if anything, is short. -/
theorem isShort_field (c : Check) {name : String} {v : Value}
    (hc : ∀ place w, c place w = [] → w.IsShort)
    (h : Field.faults ⟨name, .orNull c, false⟩ .body v = []) : (v.field name).IsShort := by
  unfold Value.field
  unfold Field.faults at h
  dsimp only at h
  cases hv : v.field? name with
  | none => rfl
  | some w =>
    rw [hv] at h
    rcases Check.orNull_eq_nil h with rfl | hw
    · rfl
    · exact hc _ w hw

theorem sendable_editIn {v : Value} (hform : ∀ f ∈ editForm, f.faults .body v = []) :
    (editIn v).Sendable where
  name := isShort_field .name (fun _ _ => Check.isShort_of_name) (hform _ (by simp [editForm]))
  color := isShort_field (.pattern isColor) (fun _ _ => Check.isShort_of_pattern)
    (hform _ (by simp [editForm]))
  shape := isShort_field (.pattern isShape) (fun _ _ => Check.isShort_of_pattern)
    (hform _ (by simp [editForm]))
  width := isSize_sizeIn v "width" (.inl rfl)
  height := isSize_sizeIn v "height" (.inl rfl)

theorem Check.list_eq_nil {c : Check} {most : Option Nat} {place : Place} {v : Value}
    (h : Check.list c most place v = []) :
    ∃ items, v = .list items ∧ ∀ w ∈ items, ∃ place, c place w = [] := by
  have members (items : List Value) (n : Nat) (hm : c.membersFrom place n items = []) :
      ∀ w ∈ items, ∃ place, c place w = [] := by
    induction items generalizing n with
    | nil => exact List.forall_mem_nil _
    | cons w items ih =>
      obtain ⟨hw, hitems⟩ := List.append_eq_nil_iff.1 hm
      exact List.forall_mem_cons.2 ⟨⟨_, hw⟩, ih (n + 1) hitems⟩
  unfold Check.list at h
  split at h
  · rename_i items
    split at h
    · cases h
    · exact ⟨items, rfl, members items 0 h⟩
  · cases h

theorem Check.anyText_eq_nil {place : Place} {v : Value} (h : Check.anyText place v = []) :
    v.IsText := by
  unfold Check.anyText Check.ofKind at h
  cases v with
  | str s => exact ⟨s, .inl rfl⟩
  | torn s => exact ⟨s, .inr rfl⟩
  | _ => cases h

theorem sendable_trim {v : Value} (hv : v.IsWhole) (h : v.IsText) : v.trim.Sendable := by
  obtain ⟨s, rfl | rfl⟩ := h
  · exact Value.sendable_str _
  · cases hv

/-- The identifiers in a report that came in valid text can be sent. -/
theorem sendable_of_mem_pairsIn {v : Value} (hv : v.IsWhole)
    (hform : ∀ f ∈ reportForm, f.faults .body v = []) {p : Value × Value} (hp : p ∈ pairsIn v) :
    p.1.Sendable ∧ p.2.Sendable := by
  obtain ⟨pair, hpair, hmatch⟩ := List.mem_filterMap.1 hp
  obtain ⟨pairs, hpairs, hmem⟩ := mem_listIn hpair
  have hwhole := isWhole_of_mem_listIn hv hpair
  -- the check of the form finds each identifier to be a text
  have hfaults := hform _ List.mem_cons_self
  unfold Field.faults at hfaults
  rw [hpairs] at hfaults
  dsimp only at hfaults
  obtain ⟨_, heq, hlists⟩ := Check.list_eq_nil hfaults
  cases heq
  obtain ⟨_, hlist⟩ := hlists pair hmem
  obtain ⟨names, rfl, hnames⟩ := Check.list_eq_nil hlist
  have hname : ∀ w ∈ names, w.trim.Sendable := by
    intro w hw
    obtain ⟨_, htext⟩ := hnames w hw
    exact sendable_trim (hwhole.of_mem hw) (Check.anyText_eq_nil htext)
  split at hmatch
  · rename_i a b heq
    cases heq
    split at hmatch
    · cases hmatch
    · cases hmatch
      exact ⟨hname a (by simp), hname b (by simp)⟩
  · cases hmatch

end Api

end SpriteStage
