import SpriteStage.Proofs.Stage.Roster

/-!
# The accounts of the stage

The stage keeps the actors, their poses, the session and its counters apart from one another, and
every operation keeps them in agreement. The counters tell what has happened since the stage was
last reset or cleared, over any number of sessions.
-/

namespace SpriteStage

/-- The operations after which the stage has forgotten what happened before. -/
def Stage.Operation.forgets : Stage.Operation → Bool
  | .reset | .clear => true
  | _ => false

namespace History

variable {past : History}

/-- What one operation adds to the counters. -/
theorem perform_counters (past : History) {op : Stage.Operation} (h : op.forgets = false) :
    (past.stage.perform op).ticks = past.stage.ticks + (if isTick (op, past) then 1 else 0) ∧
    (past.stage.perform op).collisions
      = past.stage.collisions + (pair? (op, past)).toList.length ∧
    (past.stage.perform op).lastCollision
      = (pair? (op, past)).or past.stage.lastCollision := by
  cases op with
  | add number draft =>
    rcases past.stage.add_cases number draft with ⟨-, h⟩ | ⟨a, -, h, -⟩ <;> simp [isTick, pair?, h]
  | update id edit =>
    rcases past.stage.update_cases id edit with h | ⟨_, a, b, -, -, -, -, h⟩ <;>
      simp [Stage.perform, isTick, pair?, h]
  | replaceScript id script =>
    rcases past.stage.replaceScript_cases id script with ⟨-, _, h⟩ | ⟨_, a, -, -, h⟩ <;>
      simp [Stage.perform, isTick, pair?, h]
  | remove id =>
    rcases past.stage.remove_cases id with ⟨-, -, h⟩ | ⟨_, a, -, -, h⟩ <;>
      simp [Stage.perform, isTick, pair?, h]
  | collide a b =>
    rcases past.stage.collide_cases a b with ⟨hno, h, -⟩ | ⟨m, h⟩
    · simp [Stage.perform, isTick, pair?_of_ne hno, h]
    · rw [pair?_of_meeting m, Stage.perform, h]
      simp [isTick, Stage.Meeting.after]
  | tick =>
    cases hr : past.stage.running with
    | false => simp [Stage.perform, isTick, pair?, Stage.tick_stopped hr]
    | true => simp [Stage.perform, isTick, pair?, Stage.tick_running hr]
  | start | stop =>
    simp only [Stage.perform, Stage.start, Stage.stop]
    split <;> simp [isTick, pair?]
  | detect => simp [Stage.perform, isTick, pair?]
  | reset | clear => cases h

/-- The counters tell how many ticks and collisions there were in the current era, and which
collision was the last. -/
structure Counted (h : History) : Prop where
  ticks : h.stage.ticks = (h.era.filter isTick).length
  collisions : h.stage.collisions = (h.era.filterMap pair?).length
  last : h.stage.lastCollision = (h.era.filterMap pair?).head?

theorem Counted.perform (counted : past.Counted) (op : Stage.Operation) :
    Counted (op :: past) := by
  cases hop : op.forgets with
  | false =>
    have hera : era (op :: past) = (op, past) :: past.era := by
      cases op <;> first | rfl | cases hop
    obtain ⟨hticks, hcollisions, hlast⟩ := past.perform_counters hop
    refine ⟨?_, ?_, ?_⟩
    · rw [stage, hticks, counted.ticks, hera, List.filter_cons]
      split <;> rfl
    · rw [stage, hcollisions, counted.collisions, hera, List.filterMap_cons]
      cases pair? (op, past) <;> rfl
    · rw [stage, hlast, counted.last, hera, List.filterMap_cons]
      cases pair? (op, past) <;> rfl
  | true =>
    cases op with
    | reset | clear => exact ⟨rfl, rfl, rfl⟩
    | _ => cases hop

theorem counted (h : History) : h.Counted := by
  induction h with
  | nil => exact ⟨rfl, rfl, rfl⟩
  | cons op past ih => exact ih.perform op

/-! ### Reading the stage -/

theorem exists_pose {h : History} {k : String} {a : Actor} (ha : h.stage.roster.get? k = some a) :
    ∃ p, h.stage.poses.get? k = some p :=
  Keyed.mem_keys.1 (h.keys_poses ▸ Keyed.mem_keys.2 ⟨a, ha⟩)

private theorem map_fst_filterMap {α β : Type} {f : String × α → Option (String × β)}
    {es : List (String × α)} (hf : ∀ e ∈ es, ∃ v, f e = some (e.1, v)) :
    (es.filterMap f).map Prod.fst = es.map Prod.fst := by
  induction es with
  | nil => rfl
  | cons e es ih =>
    obtain ⟨v, hv⟩ := hf e List.mem_cons_self
    rw [List.filterMap_cons_some hv, List.map_cons, List.map_cons,
      ih fun e he => hf e (List.mem_cons_of_mem _ he)]

theorem map_fst_boxes (h : History) : h.stage.boxes.map Prod.fst = h.stage.roster.keys := by
  rw [Stage.boxes, Stage.actors, Keyed.values, List.filterMap_map]
  apply map_fst_filterMap
  intro e he
  have ha := Keyed.get?_of_mem he
  obtain ⟨p, hp⟩ := exists_pose ha
  rw [Function.comp, h.own_id _ _ ha, hp]
  exact ⟨_, rfl⟩

theorem isSome_snapshot (h : History) : h.stage.snapshot.isSome = h.stage.running := by
  cases hr : h.stage.running with
  | false => rw [h.sound.stopped hr]; rfl
  | true =>
    obtain ⟨scripts, hs, -⟩ := h.sound.running hr
    rw [hs]
    rfl

/-- The law of the state of the stage, for every history. Poses and actors stand under the same
identifiers, in the order in which the actors came last. An actor stands under its own identifier,
which is a name, and has a size and a shape that can be drawn. Scripts are kept aside exactly while
a session runs. No actor lacks a pose, so there is a box for each. The counters tell what has
happened since the latest reset or clearing. -/
theorem state_law (h : History) :
    (h.stage.poses.keys = h.stage.roster.keys ∧
      h.stage.roster.keys.Pairwise fun j k => h.arrival j < h.arrival k) ∧
    (∀ k a, h.stage.roster.get? k = some a → a.id = k ∧ Text.IsName k ∧
      (0.0 < a.width ∧ a.width.isNaN = false) ∧ (0.0 < a.height ∧ a.height.isNaN = false) ∧
      (a.shape = .square ∨ a.shape = .circle)) ∧
    h.stage.snapshot.isSome = h.stage.running ∧
    ((∀ k a, h.stage.roster.get? k = some a → ∃ p, h.stage.poses.get? k = some p) ∧
      h.stage.boxes.map Prod.fst = h.stage.roster.keys) ∧
    (h.stage.ticks = (h.era.filter isTick).length ∧
      h.stage.collisions = (h.era.filterMap pair?).length ∧
      h.stage.lastCollision = (h.era.filterMap pair?).head?) := by
  refine ⟨⟨h.keys_poses, h.pairwise_arrival⟩, ?_, h.isSome_snapshot,
    ⟨fun _ _ ha => exists_pose ha, h.map_fst_boxes⟩,
    h.counted.ticks, h.counted.collisions, h.counted.last⟩
  intro k a ha
  obtain ⟨hname, hsized⟩ := h.isName_sized k a ha
  refine ⟨h.own_id k a ha, hname, hsized.width, hsized.height, ?_⟩
  cases a.shape with
  | square => exact .inl rfl
  | circle => exact .inr rfl

end History

end SpriteStage
