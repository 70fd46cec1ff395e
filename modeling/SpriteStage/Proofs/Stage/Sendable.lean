import SpriteStage.Clock.Form
import SpriteStage.Proofs.Block.Sendable
import SpriteStage.Proofs.Heading
import SpriteStage.Proofs.Stage.Edits
import SpriteStage.Proofs.Stage.Roster

/-!
# What clients see of the stage can be sent

Running scripts that can be sent keeps a pose finite and shows no other text than theirs. So
whatever is done with the stage, the forms of its actors, poses and ticks can be sent, as long as
nothing comes to it that cannot.
-/

namespace SpriteStage

/-! ### Poses -/

theorem PoseRecord.sendable_form {p : PoseRecord} (hx : p.x.Sendable) (hy : p.y.Sendable)
    (hheading : p.heading.Sendable) (hmode : p.display.mode.Sendable)
    (htext : p.display.text.Sendable) (hremaining : p.display.remaining.Sendable) :
    p.form.Sendable := by
  have htextIn (b : Bubble) : (p.textIn b).Sendable := by
    unfold textIn
    split
    · exact htext
    · exact Value.sendable_null
  simp [form, DisplayRecord.form, hx, hy, hheading, hmode, htext, hremaining, htextIn]

/-- A pose that can be sent: finite in all parts, and with a text that can be sent. -/
structure Pose.Sendable (p : Pose) : Prop extends p.WellFormed where
  heading : p.heading.isFinite = true
  text : ∀ b text remaining, p.display = .bubble b text remaining → text.Sendable

namespace Pose.Sendable

variable {p : Pose}

theorem rest : Pose.rest.Sendable where
  toWellFormed := .rest
  heading := by decide
  text := nofun

theorem age (h : p.Sendable) : p.age.Sendable where
  toWellFormed := h.toWellFormed.age
  heading := h.heading
  text b text remaining hdisplay := by
    change p.display.countdown = _ at hdisplay
    cases hd : p.display with
    | none => rw [hd] at hdisplay; cases hdisplay
    | bubble b' text' remaining' =>
      rw [hd, Display.countdown] at hdisplay
      split at hdisplay
      · cases hdisplay
      · cases hdisplay
        exact h.text _ _ _ hd

/-- The action of a block that can be sent. -/
theorem act {b : Block} (hb : b.Sendable) (h : p.Sendable) : (p.act b.action).Sendable where
  toWellFormed := h.toWellFormed.act b
  heading := by
    cases b with
    | turn id degrees => exact Heading.isFinite_fold _
    | move id steps =>
      change (p.advance steps.finite).heading.isFinite = true
      unfold Pose.advance
      split <;> exact h.heading
    | goto | bubble | loop | unknown => exact h.heading
  text := by
    cases b with
    | bubble id b text seconds =>
      intro b' text' remaining hdisplay
      cases hdisplay
      exact hb.text
    | move id steps =>
      change ∀ b text remaining, (p.advance steps.finite).display = _ → _
      unfold Pose.advance
      split <;> exact h.text
    | turn | goto | loop | unknown => exact h.text

theorem tick {script : Script} (hscript : script.Sendable) (h : p.Sendable) :
    (p.tick script).Sendable :=
  Script.walk_invariant (P := Pose.Sendable) (Q := Block.Sendable) (v := performer)
    (fun _ _ _ hb => hb.body) (fun _ _ hb hp => act hb hp) (fun _ hp => hp) script hscript h.age

theorem form (h : p.Sendable) : p.form.Sendable := by
  have hdisplay : p.display.record.mode.Sendable ∧ p.display.record.text.Sendable ∧
      p.display.record.remaining.Sendable := by
    have hfinite := h.display
    cases hd : p.display with
    | none => exact ⟨rfl, rfl, rfl⟩
    | bubble b text remaining =>
      rw [hd] at hfinite
      exact ⟨rfl, h.text b text remaining hd, (Value.sendable_float _).2 hfinite.1⟩
  exact PoseRecord.sendable_form ((Value.sendable_float _).2 h.x) ((Value.sendable_float _).2 h.y)
    ((Value.sendable_float _).2 h.heading) hdisplay.1 hdisplay.2.1 hdisplay.2.2

end Pose.Sendable

/-! ### Actors -/

/-- A size that is given as a finite double, or not at all. -/
def Value.IsSize (v : Value) : Prop := v = .null ∨ ∃ x, v = .float x ∧ x.isFinite = true

/-- An actor that can be sent. -/
structure Actor.Sendable (a : Actor) : Prop where
  width : a.width.isFinite = true
  height : a.height.isFinite = true
  script : a.script.Sendable

/-- A new actor whose script can be sent and whose sizes are finite. -/
structure Draft.Sendable (d : Draft) : Prop where
  width : d.width.IsSize
  height : d.height.IsSize
  script : d.script.Sendable

/-- Changes to an actor that have texts and finite sizes. -/
structure Edit.Sendable (e : Edit) : Prop where
  name : e.name.IsShort
  color : e.color.IsShort
  shape : e.shape.IsShort
  width : e.width.IsSize
  height : e.height.IsSize

theorem Value.IsSize.size {v : Value} (h : v.IsSize) :
    ∃ x, Actor.size v = .ok x ∧ x.isFinite = true := by
  have hdefault : Actor.defaultSize.isFinite = true := by decide
  rcases h with rfl | ⟨x, rfl, hx⟩
  · exact ⟨_, rfl, hdefault⟩
  · refine ⟨_, rfl, ?_⟩
    split
    · exact hdefault
    · exact hx

theorem Value.IsSize.isFinite {v : Value} (h : v.IsSize) {x : Float} (hx : Actor.size v = .ok x) :
    x.isFinite = true := by
  obtain ⟨y, hy, hfinite⟩ := h.size
  cases hx.symm.trans hy
  exact hfinite

theorem Value.IsSize.not_tooLarge {v : Value} (h : v.IsSize) : ¬v.TooLarge := fun hlarge => by
  obtain ⟨x, hx, -⟩ := h.size
  cases hx.symm.trans (Actor.size_eq_error.2 ⟨hlarge, rfl⟩)

theorem Draft.Sendable.actor {d : Draft} (h : d.Sendable) {id : String} {number : Nat} {a : Actor}
    (ha : d.actor id number = .ok a) : a.Sendable := by
  obtain ⟨-, -, -, hwidth, hheight, -, hscript⟩ := Draft.actor_eq_ok.1 ha
  exact ⟨h.width.isFinite hwidth, h.height.isFinite hheight, hscript ▸ h.script⟩

/-- Changes that have texts and finite sizes are carried out in full. -/
theorem Edit.Sendable.apply {e : Edit} (h : e.Sendable) (a : Actor) :
    (e.apply a).2 = none ∧ (a.Sendable → (e.apply a).1.Sendable) := by
  refine ⟨?_, Edit.apply_invariant fun hb ha => ?_⟩
  · rcases e.apply_cases a with ⟨-, b, hb⟩ | ⟨t, b, why, hrefuses, -, -⟩
    · rw [hb]
    · cases t with
      | name => exact absurd h.name hrefuses.1
      | color => exact absurd h.color hrefuses.1
      | shape => exact absurd h.shape hrefuses.1
      | width => exact absurd hrefuses.1 h.width.not_tooLarge
      | height => exact absurd hrefuses.1 h.height.not_tooLarge
  · rcases Actor.set_cases hb with ⟨_, _, _, rfl⟩ | ⟨x, hx, ⟨rfl, rfl⟩ | ⟨rfl, rfl⟩⟩
    · exact ⟨ha.width, ha.height, ha.script⟩
    · exact ⟨h.width.isFinite hx, ha.height, ha.script⟩
    · exact ⟨ha.width, h.height.isFinite hx, ha.script⟩

theorem Actor.Sendable.formWith? {a : Actor} (h : a.Sendable) {pose : Value}
    (hpose : pose.Sendable) : ∃ v, a.formWith? pose = some v ∧ v.Sendable := by
  obtain ⟨forms, hforms, hsend⟩ := h.script.forms
  refine ⟨_, by rw [Actor.formWith?, Actor.fields?, hforms]; rfl, ?_⟩
  simpa [moment, h.width, h.height, hpose] using hsend

/-! ### The stage -/

/-- A stage all of whose parts can be sent. -/
structure Stage.Sendable (s : Stage) : Prop where
  actors : s.roster.All fun _ a => a.Sendable
  kept : ∀ scripts ∈ s.snapshot, scripts.All fun _ script => script.Sendable
  poses : s.poses.All fun _ p => p.Sendable

/-- An operation that brings nothing to the stage that cannot be sent. -/
def Stage.Operation.Sendable : Stage.Operation → Prop
  | .add _ draft => draft.Sendable
  | .update _ edit => edit.Sendable
  | .replaceScript _ script => script.Sendable
  | _ => True

namespace Stage.Sendable

variable {s : Stage}

theorem empty : ({} : Stage).Sendable :=
  ⟨.empty, fun _ h => absurd h (Option.not_mem_none _), .empty⟩

theorem nextPoses (h : s.Sendable) : s.nextPoses.All fun _ p => p.Sendable := by
  refine h.actors.map fun k a ha => Pose.Sendable.tick ha.script ?_
  cases hp : s.poses.get? k with
  | none => exact .rest
  | some p => exact h.poses k p hp

/-- Whatever is done with a stage that can be sent, it can be sent afterwards. -/
theorem perform (h : s.Sendable) {op : Operation} (hop : op.Sendable) :
    (s.perform op).Sendable := by
  cases op with
  | add number draft =>
    rcases s.add_cases number draft with ⟨-, heq⟩ | ⟨a, -, heq, hactor, -⟩ <;> rw [heq]
    · exact h
    · exact ⟨h.actors.put (Draft.Sendable.actor hop hactor), h.kept, h.poses.put .rest⟩
  | update id edit =>
    rcases s.update_apply id edit with heq | ⟨key, a, -, ha, heq⟩ <;> rw [Stage.perform, heq]
    · exact h
    · exact ⟨h.actors.put ((Edit.Sendable.apply hop a).2 (h.actors key a ha)), h.kept, h.poses⟩
  | replaceScript id script =>
    rcases s.replaceScript_cases id script with ⟨-, _, heq⟩ | ⟨key, a, -, ha, heq⟩ <;>
      rw [Stage.perform, heq]
    · exact h
    · have hactor := h.actors key a ha
      exact ⟨h.actors.put ⟨hactor.width, hactor.height, hop⟩, h.kept, h.poses⟩
  | remove id =>
    rcases s.remove_cases id with ⟨-, -, heq⟩ | ⟨_, a, -, -, heq⟩ <;> rw [Stage.perform, heq]
    · exact h
    · exact ⟨h.actors.erase _, h.kept, h.poses.erase _⟩
  | start =>
    cases hr : s.running with
    | true => rwa [Stage.perform, start_running hr]
    | false =>
      rw [Stage.perform, start_stopped hr]
      refine ⟨h.actors, fun scripts hscripts => ?_, h.poses⟩
      cases hscripts
      exact h.actors.map fun _ _ ha => ha.script
  | stop =>
    simp only [Stage.perform, Stage.stop]
    split
    · exact ⟨h.actors, fun _ h => absurd h (Option.not_mem_none _), h.poses⟩
    · exact h
  | reset =>
    have hposes : (s.roster.map fun _ _ => Pose.rest).All fun _ p => p.Sendable :=
      h.actors.map fun _ _ _ => .rest
    simp only [Stage.perform, Stage.reset, Stage.stop]
    split
    · exact ⟨h.actors, fun _ h => absurd h (Option.not_mem_none _), hposes⟩
    · exact ⟨h.actors, h.kept, hposes⟩
  | clear => exact empty
  | tick =>
    cases hr : s.running with
    | false => rwa [Stage.perform, tick_stopped hr]
    | true =>
      rw [Stage.perform, tick_running hr]
      exact ⟨h.actors, h.kept, h.nextPoses⟩
  | detect => exact h
  | collide a b =>
    rcases s.collide_cases a b with ⟨-, heq, -⟩ | ⟨m, heq⟩ <;> rw [Stage.perform, heq]
    · exact h
    · have holdA := h.kept m.scripts m.snapshot m.i m.oldA m.keptA
      have holdB := h.kept m.scripts m.snapshot m.j m.oldB m.keptB
      have swapped {a : Actor} {own other : Script} (ha : a.Sendable) (hown : own.Sendable)
          (hother : other.Sendable) : Actor.Sendable { a with script := own.collide other } :=
        ⟨ha.width, ha.height, hown.collide hother⟩
      exact ⟨(h.actors.put (swapped (h.actors m.i m.first m.actorA) holdA holdB)).put
        (swapped (h.actors m.j m.second m.actorB) holdB holdA), h.kept, h.poses⟩

/-! ### Forms -/

theorem pose? (h : s.Sendable) (id : Value) :
    (Value.ofOption ((s.pose? id).map Pose.form)).Sendable := by
  refine Value.sendable_ofOption fun v hv => ?_
  obtain ⟨p, hp, rfl⟩ := Option.map_eq_some_iff.1 hv
  obtain ⟨_, -, hpose⟩ := h.poses.named? hp
  exact hpose.form

theorem actorForm (h : s.Sendable) {a : Actor} (ha : a.Sendable) :
    (Value.ofOption (a.formWith? (.ofOption ((s.pose? (.str a.id)).map Pose.form)))).Sendable := by
  obtain ⟨v, hv, hsend⟩ := ha.formWith? (h.pose? (.str a.id))
  rwa [hv]

theorem formPoses {poses : Keyed Pose} (h : poses.All fun _ p => p.Sendable) :
    (Stage.formPoses poses).Sendable := by
  refine Value.sendable_object.2 fun f hf => ?_
  obtain ⟨e, he, rfl⟩ := List.mem_map.1 hf
  exact (h _ _ (Keyed.get?_of_mem he)).form

theorem formPair (pair : String × String) : (Stage.formPair pair).Sendable := by
  simp [Stage.formPair, Value.ofNames]

theorem mapM_forms {α : Type} {f : α → Option Value} {l : List α}
    (h : ∀ a ∈ l, ∃ v, f a = some v ∧ v.Sendable) :
    ∃ vs, l.mapM f = some vs ∧ ∀ v ∈ vs, v.Sendable := by
  induction l with
  | nil => exact ⟨[], rfl, List.forall_mem_nil _⟩
  | cons a l ih =>
    obtain ⟨⟨v, hv, hsend⟩, hl⟩ := List.forall_mem_cons.1 h
    obtain ⟨vs, hvs, hsends⟩ := ih hl
    exact ⟨v :: vs, by simp [hv, hvs], List.forall_mem_cons.2 ⟨hsend, hsends⟩⟩

theorem actorForms (h : s.Sendable) :
    ∃ vs, (s.actors.mapM fun a => a.formWith? ((s.poses.get? a.id).getD .rest).form) = some vs ∧
      ∀ v ∈ vs, v.Sendable := by
  refine mapM_forms fun a ha => ?_
  obtain ⟨e, he, rfl⟩ := List.mem_map.1 ha
  refine (h.actors _ _ (Keyed.get?_of_mem he)).formWith? (Pose.Sendable.form ?_)
  cases hp : s.poses.get? e.2.id with
  | none => exact .rest
  | some p => exact h.poses _ p hp

theorem form? (h : s.Sendable) : (Value.ofOption s.form?).Sendable := by
  obtain ⟨vs, hvs, hsend⟩ := h.actorForms
  have hlast : (Value.ofOption (s.lastCollision.map Stage.formPair)).Sendable := by
    cases s.lastCollision with
    | none => exact Value.sendable_null
    | some pair => exact formPair pair
  have hmoment : (if s.started then moment else Value.null).Sendable := by
    cases s.started <;> rfl
  unfold Stage.form?
  rw [hvs]
  change (Value.object _).Sendable
  simpa [hlast, hmoment] using hsend

end Stage.Sendable

/-! ### Ticks and clocks -/

theorem Tick.sendable_form {t : Tick} (h : t.poses.All fun _ p => p.Sendable) :
    t.form.Sendable := by
  have hposes := Stage.Sendable.formPoses h
  unfold Tick.form Stage.formTick
  cases t.collisions with
  | none => simp [hposes]
  | some pairs =>
    have hpairs : (Value.list (pairs.map Stage.formPair)).Sendable :=
      Value.sendable_list.2 (List.forall_mem_map.2 fun p _ => Stage.Sendable.formPair p)
    simpa [hposes] using hpairs

namespace Clock

variable {c : Clock}

theorem outline_sendable {fields : List (String × Value)} (h : c.outline = .ok fields) :
    ∀ f ∈ fields, f.2.Sendable := by
  have hname : (if c.current.isSome then Value.str workerName else .null).Sendable := by
    split <;> rfl
  have herror : (Value.ofOption (c.lastError.map .str)).Sendable := by
    cases c.lastError <;> rfl
  unfold outline at h
  cases hm : c.milliseconds with
  | error e => rw [hm] at h; cases h
  | ok milliseconds =>
    rw [hm] at h
    cases h
    simp [hname, herror]

theorem sendable_outline : (Value.ofOption (c.outline.toOption.map .object)).Sendable := by
  cases h : c.outline with
  | error e => exact Value.sendable_null
  | ok fields => exact Value.sendable_object.2 (outline_sendable h)

theorem sendable_form : (Value.ofOption c.form.toOption).Sendable := by
  have hmoment : (if c.fired = 0 then Value.null else moment).Sendable := by split <;> rfl
  unfold form
  cases h : c.outline with
  | error e => exact Value.sendable_null
  | ok fields =>
    change (Value.object _).Sendable
    rw [Value.sendable_object, List.forall_mem_append]
    exact ⟨outline_sendable h, by simp [tally, hmoment]⟩

/-- A tick moves every actor once. -/
theorem poses_of_commit {t : Tick} (h : c.commit.1 = some t) : t.poses = c.stage.nextPoses := by
  unfold commit at h
  cases hr : c.stage.running with
  | false =>
    rw [Stage.tick_stopped hr] at h
    cases h
  | true =>
    rw [Stage.tick_running hr] at h
    dsimp only at h
    split at h <;> cases h <;> rfl

/-- What a client is told of a tick is what was committed. -/
theorem commit_of_tick {t : Tick} (h : c.tick.1.toOption.join = some t) : c.commit.1 = some t := by
  unfold tick at h
  split at h
  · rename_i heq _
    rw [heq]
    dsimp only at h
    split at h
    · cases h
    · exact h
  · rename_i heq _
    rw [heq]
    exact h

theorem sendable_of_tick {t : Tick} (h : c.stage.Sendable) (ht : c.tick.1.toOption.join = some t) :
    t.form.Sendable :=
  Tick.sendable_form (poses_of_commit (commit_of_tick ht) ▸ h.nextPoses)

end Clock

end SpriteStage
