import SpriteStage.Block.Form
import SpriteStage.Collision.Swap
import SpriteStage.Proofs.Block.Grammar
import SpriteStage.Proofs.Json.Sendable

/-!
# Scripts that can be sent

A script that was read from valid text has a written form that can be sent: the reader lets no
number pass that is not finite, and the texts are those that came.
-/

namespace SpriteStage

/-- A block that has a written form which can be sent. -/
def Block.Sendable (b : Block) : Prop := ∃ form, b.form? = some form ∧ form.Sendable

/-- A script of such blocks. -/
def Script.Sendable (s : Script) : Prop := ∀ b ∈ s, b.Sendable

@[simp] theorem Kind.sendable_describe {k : Kind} {id : String} {params : List (String × Value)} :
    (Value.object (k.describe id params)).Sendable ↔ ∀ p ∈ params, p.2.Sendable := by
  simp [Kind.describe]

theorem Script.Sendable.forms {s : Script} (h : s.Sendable) :
    ∃ forms, s.forms? = some forms ∧ ∀ v ∈ forms, v.Sendable := by
  induction s with
  | nil => exact ⟨[], rfl, List.forall_mem_nil _⟩
  | cons b s ih =>
    obtain ⟨hb, hs⟩ := List.forall_mem_cons.1 h
    obtain ⟨form, hform, hsend⟩ := hb
    obtain ⟨forms, hforms, hsends⟩ := ih hs
    exact ⟨form :: forms, by simp [forms?, hform, hforms], List.forall_mem_cons.2 ⟨hsend, hsends⟩⟩

theorem Script.sendable_of_forms {s : Script} {forms : List Value} (h : s.forms? = some forms)
    (hforms : ∀ v ∈ forms, v.Sendable) : s.Sendable := by
  induction s generalizing forms with
  | nil => exact List.forall_mem_nil _
  | cons b s ih =>
    simp only [forms?, bind, Option.bind_eq_some_iff] at h
    obtain ⟨form, hform, rest, hrest, heq⟩ := h
    cases heq
    obtain ⟨hsend, hsends⟩ := List.forall_mem_cons.1 hforms
    exact List.forall_mem_cons.2 ⟨⟨form, hform, hsend⟩, ih hrest hsends⟩

theorem Block.sendable_of_params {b : Block} {k : Kind} (hk : b.kind? = some k) (hne : k ≠ .loop)
    (h : ∀ p ∈ b.params, p.2.Sendable) : b.Sendable := by
  cases b with
  | move | turn | goto | bubble => exact ⟨_, rfl, Kind.sendable_describe.2 h⟩
  | loop => exact absurd (Option.some.inj hk).symm hne
  | unknown => cases hk

theorem Block.sendable_loop {id : String} {times : Value} {body : Script}
    (htimes : times.Sendable) (hbody : body.Sendable) : (Block.loop id times body).Sendable := by
  obtain ⟨forms, hforms, hsend⟩ := hbody.forms
  refine ⟨_, by rw [form?, hforms]; rfl, ?_⟩
  simpa [Kind.describe, htimes] using hsend

theorem Block.Sendable.body {id : String} {times : Value} {body : Script}
    (h : (Block.loop id times body).Sendable) : body.Sendable := by
  obtain ⟨form, hform, hsend⟩ := h
  simp only [form?, bind, Option.bind_eq_some_iff] at hform
  obtain ⟨forms, hforms, heq⟩ := hform
  cases heq
  refine Script.sendable_of_forms hforms ?_
  simpa [Kind.describe] using (Value.sendable_object.1 hsend ("children", .list forms) (by simp))

theorem Block.Sendable.text {id : String} {b : Bubble} {text seconds : Value}
    (h : (Block.bubble id b text seconds).Sendable) : text.Sendable := by
  obtain ⟨form, hform, hsend⟩ := h
  cases hform
  exact Kind.sendable_describe.1 hsend ("text", text) (by simp)

theorem Script.Sendable.collide {own other : Script} (hown : own.Sendable)
    (hother : other.Sendable) : (own.collide other).Sendable := fun b hb =>
  (List.mem_append.1 hb).elim (fun h => hother b (List.mem_filter.1 h).1)
    (fun h => hown b (List.mem_filter.1 h).1)

/-! ### Reading scripts from valid text -/

theorem ParamSort.Takes.sendable {sort : ParamSort} {given kept : Value} (h : sort.Takes given kept)
    (hwhole : given.IsWhole) : kept.Sendable := by
  cases sort with
  | number =>
    obtain ⟨⟨n, rfl, x, hx, hfinite⟩, rfl⟩ := h
    cases n with
    | int n => exact Value.sendable_int n
    | float y =>
      cases hx
      exact (Value.sendable_float _).2 hfinite
  | text =>
    obtain ⟨⟨s, hs⟩, rfl⟩ := h
    exact hwhole.sendable_text hs
  | count =>
    obtain ⟨rounds, -, rfl⟩ := h
    exact Value.sendable_int _

theorem Value.Outlines.sendable_params {v : Value} {k : Kind} {b : Block} (h : v.Outlines k b)
    (hv : v.IsWhole) : ∀ p ∈ b.params, p.2.Sendable := by
  have hparams := h.params
  generalize k.params = sorts at hparams
  generalize b.params = kept at hparams
  induction hparams with
  | nil => exact List.forall_mem_nil _
  | cons hp _ ih =>
    obtain ⟨-, given, hgiven, htakes⟩ := hp
    exact List.forall_mem_cons.2 ⟨htakes.sendable ((hv.field "params").field? hgiven), ih⟩

theorem Value.Lists.isWhole {v : Value} {items : List Value} (h : v.Lists items) (hv : v.IsWhole) :
    ∀ w ∈ items, w.IsWhole := by
  rcases h with ⟨-, rfl⟩ | h
  · exact List.forall_mem_nil _
  · have hfield := hv.field "children"
    rw [h] at hfield
    exact fun w hw => hfield.of_mem hw

mutual

theorem Value.Describes.sendable {v : Value} {b : Block} : v.Describes b → v.IsWhole → b.Sendable
  | .plain houtlines hk, hv => Block.sendable_of_params houtlines.kind hk
    (houtlines.sendable_params hv)
  | .loop houtlines hitems hbody _, hv => Block.sendable_loop
    (houtlines.sendable_params hv ("times", _) List.mem_cons_self)
    (hbody.sendable (hitems.isWhole hv))

theorem Value.DescribeAll.sendable {items : List Value} {s : Script} :
    Value.DescribeAll items s → (∀ v ∈ items, v.IsWhole) → s.Sendable
  | .nil, _ => List.forall_mem_nil _
  | .cons hb hs, h => List.forall_mem_cons.2 ⟨hb.sendable (List.forall_mem_cons.1 h).1,
    hs.sendable (List.forall_mem_cons.1 h).2⟩

end

end SpriteStage
