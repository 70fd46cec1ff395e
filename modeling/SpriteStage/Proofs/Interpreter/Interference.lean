import SpriteStage.Proofs.Interpreter.Records

/-!
# Places and displays

A script moves a sprite without looking at its display, and it changes the display without looking
at where the sprite is. So the place after a script is that after the script without its bubbles,
and the display is the one that was shown last, or the one at the start.
-/

namespace SpriteStage

/-! ### Bubbles in scripts -/

/-- What an action shows, if it shows something. -/
def Action.shown? : Action → Option Display
  | display b text seconds => some (.bubble b text seconds)
  | _ => none

/-- What a block shows when it is evaluated, if it is a bubble. -/
def Block.shown? : Block → Option Display
  | bubble _ b text seconds => some (.bubble b text seconds.nonNegative)
  | _ => none

/-- What the last bubble shows that is evaluated in one pass over a script, if there is one. -/
def Script.lastShown? (s : Script) : Option Display := (s.unroll.filterMap Block.shown?).getLast?

mutual

/-- What is left of a block when its bubbles are erased, at all depths. -/
def Block.mute : Block → Script
  | .bubble .. => []
  | .loop id times body => [.loop id times (Script.mute body)]
  | b => [b]

/-- A script without its bubbles, at all depths. -/
def Script.mute : Script → Script
  | [] => []
  | b :: rest => Block.mute b ++ Script.mute rest

end

theorem Block.shown?_action (b : Block) : b.action.shown? = b.shown? := by cases b <;> rfl

theorem Script.filterMap_shown?_actions (s : Script) :
    s.actions.filterMap Action.shown? = s.unroll.filterMap Block.shown? := by
  rw [actions, List.filterMap_map]
  exact List.filterMap_congr fun b _ => b.shown?_action

mutual

theorem Block.actions_mute : (b : Block) →
    b.mute.actions = b.actions.filter (·.shown?.isNone)
  | .loop id times body => by
    rw [Block.mute, Script.actions_cons, Block.actions_loop, Block.actions_loop,
      Script.actions_mute body, List.filter_flatten, List.map_replicate]
    exact List.append_nil _
  | .move .. | .turn .. | .goto .. | .bubble .. | .unknown => rfl

/-- Erasing bubbles takes away the actions that show something, and no others. -/
theorem Script.actions_mute : (s : Script) →
    s.mute.actions = s.actions.filter (·.shown?.isNone)
  | [] => rfl
  | b :: rest => by
    rw [Script.mute, Script.actions_append, Block.actions_mute b, Script.actions_mute rest,
      Script.actions_cons, List.filter_append]

end

theorem Script.exists_of_lastShown? {s : Script} {d : Display} (h : s.lastShown? = some d) :
    ∃ id b text seconds, Block.bubble id b text seconds ∈ s.unroll ∧
      d = .bubble b text seconds.nonNegative ∧ seconds.nonNegative.isFinite = true ∧
      0.0 ≤ seconds.nonNegative := by
  obtain ⟨block, hblock, hshown⟩ := List.mem_filterMap.1 (List.mem_of_getLast? h)
  cases block with
  | bubble id b text seconds =>
    cases hshown
    exact ⟨id, b, text, seconds, hblock, rfl,
      Double.isFinite_atLeastZero seconds.isFinite_finite, Double.zero_le_atLeastZero _⟩
  | _ => cases hshown

theorem Script.lastShown?_eq (s : Script) :
    s.lastShown? = (s.actions.filterMap Action.shown?).getLast? := by
  rw [lastShown?, filterMap_shown?_actions]

/-! ### Runs -/

section Runs

variable {m : Type → Type} [Monad m] {σ δ : Type}

/-- A way to carry out actions on states with a display. What an action shows takes the place of the
display, and the other actions keep it and do not look at it. -/
structure KeepsDisplay (act : σ → Action → m σ) (showing : σ → δ → σ) (written : Display → δ) :
    Prop where
  shown : ∀ {a d}, a.shown? = some d → ∀ s e, act (showing s e) a = pure (showing s (written d))
  other : ∀ {a}, a.shown? = none → ∀ s e, act (showing s e) a = (showing · e) <$> act s a

/-- From any display, actions do what those do among them that show nothing, and the display is what
was shown last. -/
theorem KeepsDisplay.foldlM [LawfulMonad m] {act : σ → Action → m σ} {showing : σ → δ → σ}
    {written : Display → δ} (h : KeepsDisplay act showing written) (s : σ) (e : δ)
    (actions : List Action) :
    actions.foldlM act (showing s e) =
      (showing · (((actions.filterMap Action.shown?).getLast?.map written).getD e)) <$>
        (actions.filter (·.shown?.isNone)).foldlM act s := by
  induction actions generalizing s e with
  | nil => rw [List.foldlM_nil, List.filter_nil, List.foldlM_nil, map_pure]; rfl
  | cons a actions ih =>
    cases ha : a.shown? with
    | none =>
      rw [List.foldlM_cons, h.other ha, bind_map_left, List.filter_cons_of_pos (by rw [ha]; rfl),
        List.filterMap_cons_none ha, List.foldlM_cons, map_bind]
      exact bind_congr fun next => ih next e
    | some d =>
      -- what was shown before is lost, with the old display
      rw [List.foldlM_cons, h.shown ha, pure_bind, ih,
        List.filter_cons_of_neg (by rw [ha]; exact Bool.false_ne_true),
        List.filterMap_cons_some ha, List.getLast?_cons]
      cases (actions.filterMap Action.shown?).getLast? <;> rfl

end Runs

/-! ### Poses -/

namespace Pose

def place (p : Pose) : Float × Float × Float := (p.x, p.y, p.heading)

/-- A pose with another display. -/
def showing (p : Pose) (d : Display) : Pose := { p with display := d }

theorem eq_showing {p q : Pose} (h : p.place = q.place) : p = q.showing p.display := by
  obtain ⟨x, y, heading, d⟩ := p
  obtain ⟨x', y', heading', d'⟩ := q
  cases h
  rfl

theorem keepsDisplay : KeepsDisplay (m := Id) act showing id where
  shown {a d} ha p e := by
    cases a <;> cases ha
    rfl
  other {a} ha p e := by
    cases a with
    | advance distance =>
      change (p.showing e).advance distance = (p.advance distance).showing e
      rw [advance, advance]
      split <;> rfl
    | display => cases ha
    | stay | rotate | place => rfl

/-- A script does to a pose with any display what it does without its bubbles, and the last bubble
is shown. -/
theorem interpret_showing (p : Pose) (d : Display) (s : Script) :
    interpret (p.showing d) s = (interpret p s.mute).showing (s.lastShown?.getD d) := by
  have hrun := congrArg Id.run (keepsDisplay.foldlM p d s.actions)
  rw [Id.run_map, List.idRun_foldlM, List.idRun_foldlM, Option.map_id] at hrun
  rw [interpret_eq_foldl, interpret_eq_foldl, Script.actions_mute, Script.lastShown?_eq]
  exact hrun

end Pose

/-! ### Records -/

namespace PoseRecord

/-- Where a sprite is and where it looks, as it is written down. -/
def place (p : PoseRecord) : Value × Value × Value := (p.x, p.y, p.heading)

/-- A record with another display. -/
def showing (p : PoseRecord) (d : DisplayRecord) : PoseRecord := { p with display := d }

theorem eq_showing {p q : PoseRecord} (h : p.place = q.place) : p = q.showing p.display := by
  obtain ⟨x, y, heading, d⟩ := p
  obtain ⟨x', y', heading', d'⟩ := q
  cases h
  rfl

theorem advance_showing (p : PoseRecord) (d : DisplayRecord) (distance : Float) :
    (p.showing d).advance distance = (p.advance distance).map (·.showing d) := by
  unfold advance showing
  split
  · rfl
  · cases p.heading.coordinate with
    | error e => rfl
    | ok heading =>
      rw [Except.ok_bind, Except.ok_bind]
      dsimp only
      split
      · rfl
      · cases p.x.coordinate with
        | error e => rfl
        | ok x =>
          cases p.y.coordinate with
          | error e => rfl
          | ok y => rfl

theorem keepsDisplay : KeepsDisplay act showing Display.record where
  shown {a d} ha p e := by
    cases a <;> cases ha
    rfl
  other {a} ha p e := by
    cases a with
    | advance distance => exact advance_showing p e distance
    | rotate degrees =>
      change (p.heading.coordinate >>= fun _ => _) =
        Except.map _ (p.heading.coordinate >>= fun _ => _)
      cases p.heading.coordinate <;> rfl
    | display => cases ha
    | stay | place => rfl

/-- A script does to a record with any display what it does without its bubbles, and the last bubble
is shown. -/
theorem interpret_showing (p : PoseRecord) (d : DisplayRecord) (s : Script) :
    (p.showing d).interpret s =
      (p.interpret s.mute).map (·.showing ((s.lastShown?.map Display.record).getD d)) := by
  rw [interpret_eq_foldlM, interpret_eq_foldlM, keepsDisplay.foldlM, Script.actions_mute,
    Script.lastShown?_eq]
  rfl

theorem map_place_showing (r : Except RunError PoseRecord) (d : DisplayRecord) :
    (r.map (·.showing d)).map place = r.map place := by
  cases r <;> rfl

end PoseRecord

/-- Places and displays do not interfere, for every script. From the same place, with whatever
displays, a script leads to the same place, and so does the script without its bubbles. What is
shown afterwards is what the last bubble shows that is evaluated, for a finite time that is not
negative, or what was shown before if none is evaluated. The same is true of records; where one
stops the script, all stop it for the same reason. -/
theorem Script.noninterference (s : Script) :
    (∀ p q : Pose, p.place = q.place →
      (interpret p s).place = (interpret q s).place ∧
      (interpret p s).place = (interpret q s.mute).place) ∧
    (∀ p : Pose, (interpret p s).display = s.lastShown?.getD p.display) ∧
    (∀ p q : PoseRecord, p.place = q.place →
      (p.interpret s).map PoseRecord.place = (q.interpret s).map PoseRecord.place ∧
      (p.interpret s).map PoseRecord.place = (q.interpret s.mute).map PoseRecord.place) ∧
    (∀ p r : PoseRecord, p.interpret s = .ok r →
      r.display = (s.lastShown?.map Display.record).getD p.display) ∧
    ∀ d, s.lastShown? = some d → ∃ id b text seconds, Block.bubble id b text seconds ∈ s.unroll ∧
      d = .bubble b text seconds.nonNegative ∧ seconds.nonNegative.isFinite = true ∧
      0.0 ≤ seconds.nonNegative := by
  have poses {p q : Pose} (h : p.place = q.place) :
      (interpret p s).place = (interpret q s.mute).place := by
    rw [Pose.eq_showing h, Pose.interpret_showing]
    rfl
  have records {p q : PoseRecord} (h : p.place = q.place) :
      (p.interpret s).map PoseRecord.place = (q.interpret s.mute).map PoseRecord.place := by
    rw [PoseRecord.eq_showing h, PoseRecord.interpret_showing, PoseRecord.map_place_showing]
  refine ⟨fun p q h => ⟨(poses h).trans (poses rfl).symm, poses h⟩, fun p => ?_,
    fun p q h => ⟨(records h).trans (records rfl).symm, records h⟩, fun p r hr => ?_,
    fun d => Script.exists_of_lastShown?⟩
  · exact congrArg Pose.display (Pose.interpret_showing p p.display s)
  · have hshowing := PoseRecord.interpret_showing p p.display s
    cases hmute : p.interpret s.mute with
    | error e =>
      rw [hmute] at hshowing
      cases hr.symm.trans hshowing
    | ok muted =>
      rw [hmute] at hshowing
      cases hr.symm.trans hshowing
      rfl

end SpriteStage
