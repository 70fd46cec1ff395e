import SpriteStage.Proofs.Stage.Scripts

/-!
# The pose law

The pose of an actor is what its own ticks made of the rest pose. Poses change only when all actors
are ticked or put back to rest, or when an actor comes or goes; what a tick makes of the pose of an
actor depends on nothing but that pose and its own script.
-/

namespace SpriteStage

namespace Stage

variable {s : Stage}

/-- The operations that change poses. -/
def Operation.poses : Operation → Bool
  | .add .. | .remove .. | .reset | .clear | .tick => true
  | _ => false

theorem perform_poses (op : Operation) (h : op.poses = false) : (s.perform op).poses = s.poses := by
  cases op with
  | update id edit =>
    rcases s.update_cases id edit with h | ⟨_, a, b, -, -, -, -, h⟩ <;> simp [perform, h]
  | replaceScript id script =>
    rcases s.replaceScript_cases id script with ⟨-, _, h⟩ | ⟨_, a, -, -, h⟩ <;> simp [perform, h]
  | collide a b =>
    rcases s.collide_cases a b with ⟨-, h, -⟩ | ⟨m, h⟩ <;> simp [perform, h, Meeting.after]
  | start =>
    simp only [perform, start]
    split <;> rfl
  | stop =>
    simp only [perform, stop]
    split <;> rfl
  | detect => rfl
  | add | remove | reset | clear | tick => cases h

theorem nextPoses_get? (s : Stage) (k : String) :
    s.nextPoses.get? k =
      (s.scriptOf? k).map fun script => ((s.poses.get? k).getD .rest).tick script := by
  rw [nextPoses, Keyed.get?_map, scriptOf?, Option.map_map]
  rfl

theorem reset_poses_get? (s : Stage) (k : String) :
    s.reset.poses.get? k = (s.scriptOf? k).map fun _ => .rest := by
  rw [reset, Keyed.get?_map, scriptOf?, Option.map_map]
  rfl

/-- Only additions, removals and clearing change who is on the roster and in which order. -/
theorem perform_keys (op : Operation) (h : op.poses = false ∨ op = .reset ∨ op = .tick) :
    (s.perform op).roster.keys = s.roster.keys := by
  have hput {roster : Keyed Actor} {key : String} {a : Actor} (ha : roster.get? key = some a)
      (b : Actor) : (roster.put key b).keys = roster.keys :=
    Keyed.keys_put_of_mem (Keyed.mem_keys.2 ⟨a, ha⟩) b
  cases op with
  | update id edit =>
    rcases s.update_cases id edit with h | ⟨key, a, b, -, ha, -, -, h⟩
    · rw [perform, h]
    · rw [perform, h]
      exact hput ha b
  | replaceScript id script =>
    rcases s.replaceScript_cases id script with ⟨-, _, h⟩ | ⟨key, a, -, ha, h⟩
    · rw [perform, h]
    · rw [perform, h]
      exact hput ha _
  | collide a b =>
    rcases s.collide_cases a b with ⟨-, h, -⟩ | ⟨m, h⟩
    · rw [perform, h]
    · rw [perform, h]
      refine (hput (a := m.second) ?_ _).trans (hput m.actorA _)
      rw [Keyed.get?_put, if_neg m.ne.symm, m.actorB]
  | start | stop | tick =>
    simp only [perform, start, stop, tick]
    split <;> rfl
  | reset =>
    simp only [perform, reset, stop]
    split <;> rfl
  | detect => rfl
  | add | remove | clear => simp [Operation.poses] at h

/-- Who is on the stage changes only when an actor comes or goes or the stage is cleared. -/
theorem perform_present (op : Operation) (h : op.poses = false ∨ op = .reset) (k : String) :
    ((s.perform op).roster.get? k).isSome = (s.roster.get? k).isSome := by
  rw [Bool.eq_iff_iff, Option.isSome_iff_exists, Option.isSome_iff_exists, ← Keyed.mem_keys,
    ← Keyed.mem_keys, perform_keys op (h.imp_right .inl)]

end Stage

namespace History

variable {past : History}

/-- The pose that a history leaves an actor in: its ticks, folded over the rest pose. -/
def posed (h : History) (k : String) : Pose := (h.journal k).foldl Pose.tick .rest

theorem journal_cons {op : Stage.Operation} (h : op.poses = false) (k : String) :
    journal (op :: past) k = journal past k := by
  cases op <;> first | rfl | cases h

private theorem map_congr_isSome {α β γ : Type} {o : Option α} {o' : Option β}
    (h : o.isSome = o'.isSome) (x : γ) : (o.map fun _ => x) = o'.map fun _ => x := by
  cases o <;> cases o' <;> first | rfl | cases h

/-- Every actor on the roster has the pose that its ticks led to, and no one else has a pose: one
operation keeps it so. -/
theorem poses_get?_cons (op : Stage.Operation) {k : String}
    (ih : past.stage.poses.get? k = (past.stage.roster.get? k).map fun _ => past.posed k) :
    (stage (op :: past)).poses.get? k =
      ((stage (op :: past)).roster.get? k).map fun _ => posed (op :: past) k := by
  cases hop : op.poses with
  | false =>
    rw [stage, Stage.perform_poses op hop, ih, posed, posed, journal_cons hop]
    exact map_congr_isSome (Stage.perform_present op (.inl hop) k).symm _
  | true =>
    cases op with
    | add number draft =>
      rcases past.stage.add_cases number draft with ⟨hin, h⟩ | ⟨a, hin, h, -⟩
      · simp [stage, posed, journal, hin, h, ih]
      · by_cases hk : k = a.id
        · simp [stage, posed, journal, hin, h, Keyed.get?_put, hk]
        · simp [stage, posed, journal, hin, h, Keyed.get?_put, hk, Ne.symm hk, ih]
    | remove key =>
      rcases past.stage.remove_cases key with ⟨-, -, h⟩ | ⟨id, a, -, ha, h⟩
      · simp [stage, Stage.perform, posed, journal, Stage.entrant?, h, ih]
      · have hid := past.own_id id a ha
        by_cases hk : k = id
        · simp [stage, Stage.perform, h, hid, Keyed.get?_erase, hk]
        · simp [stage, Stage.perform, posed, journal, Stage.entrant?, h, hid,
            Keyed.get?_erase, hk, ih]
    | tick =>
      cases hr : past.stage.running with
      | false => simp [stage, Stage.perform, Stage.tick_stopped hr, posed, journal, hr, ih]
      | true =>
        rw [stage, Stage.perform, Stage.tick_running hr, Stage.nextPoses_get?, ih]
        -- a tick of an actor that is there is the last step of the fold
        cases hk : past.stage.roster.get? k with
        | none => simp [Stage.scriptOf?, hk]
        | some a => simp [Stage.scriptOf?, hk, posed, journal, hr]
    | reset =>
      rw [stage, Stage.perform, Stage.reset_poses_get?, Stage.scriptOf?, Option.map_map]
      exact map_congr_isSome (Stage.perform_present .reset (.inr rfl) k).symm _
    | clear => rfl
    | _ => cases hop

theorem poses_get? (h : History) (k : String) :
    h.stage.poses.get? k = (h.stage.roster.get? k).map fun _ => h.posed k := by
  induction h with
  | nil => rfl
  | cons op past ih => exact poses_get?_cons op ih

/-- A stage on which one actor is alone, and where all is as for that actor on another stage. -/
structure Alone (k : String) (s t : Stage) : Prop where
  running : t.running = s.running
  script : t.scriptOf? k = s.scriptOf? k
  pose : t.poses.get? k = s.poses.get? k
  others : ∀ j, j ≠ k → t.scriptOf? j = none

namespace Alone

variable {k : String} {s s' t : Stage}

theorem frame (h : Alone k s t) (hr : s'.running = s.running)
    (hs : s'.scriptOf? k = s.scriptOf? k) (hp : s'.poses.get? k = s.poses.get? k) :
    Alone k s' t :=
  ⟨h.running.trans hr.symm, h.script.trans hs.symm, h.pose.trans hp.symm, h.others⟩

theorem add (h : Alone k s t) (number : Nat) (draft : Draft) {a : Actor}
    (ha : s.entrant? (.add number draft) = some a) (hk : a.id = k) :
    Alone k (s.perform (.add number draft)) (t.perform (.add number draft)) := by
  rcases s.add_cases number draft with
    ⟨hin, -⟩ | ⟨a', hin, hs, hactor, hid, hscript, hfree⟩
  · cases hin.symm.trans ha
  · cases hin.symm.trans ha
    subst hk
    obtain ⟨b, hb⟩ := Draft.actor_renumber hactor (t.roster.size + 1)
    have hfree' : t.roster.get? a.id = none := by
      have := h.script
      rw [Stage.scriptOf?, Stage.scriptOf?, hfree] at this
      simpa using this
    rw [hs, Stage.add_free t hid hfree' hb]
    refine ⟨h.running, ?_, ?_, fun j hj => ?_⟩
    · simp [Stage.scriptOf?, Keyed.get?_put, (Draft.actor_id_script hb).2, hscript]
    · simp [Keyed.get?_put]
    · rw [scriptOf?_put t a.id b rfl, if_neg hj, h.others j hj]

theorem replaceScript (h : Alone k s t) {script : Script}
    (hr : s'.running = s.running) (hs : s'.scriptOf? k = some script)
    (hp : s'.poses.get? k = s.poses.get? k) (hpresent : (s.scriptOf? k).isSome = true) :
    Alone k s' (t.perform (.replaceScript (.str k) script)) := by
  rw [← h.script, Stage.scriptOf?, Option.isSome_map] at hpresent
  obtain ⟨b, hb⟩ := Option.isSome_iff_exists.1 hpresent
  have hb' : t.actor? (.str k) = some b := (Keyed.named?_str _ _).trans hb
  rcases t.replaceScript_cases (.str k) script with ⟨hno, -⟩ | ⟨key, b, hkey, -, ht⟩
  · cases hno.symm.trans hb'
  · cases (Value.key?_str k).symm.trans hkey
    rw [Stage.perform, ht]
    refine ⟨h.running.trans hr.symm, ?_, h.pose.trans hp.symm, fun j hj => ?_⟩
    · rw [hs, scriptOf?_put t k _ rfl, if_pos rfl]
    · rw [scriptOf?_put t k _ rfl, if_neg hj, h.others j hj]

theorem update (h : Alone k s t) (key : Value) (edit : Edit) :
    Alone k (s.perform (.update key edit)) (t.perform (.update key edit)) := by
  refine ⟨?_, ?_, ?_, fun j hj => ?_⟩
  · rw [(Stage.perform_session _ rfl).1, (Stage.perform_session _ rfl).1, h.running]
  · exact (scriptOf?_update t key edit k).trans
      (h.script.trans (scriptOf?_update s key edit k).symm)
  · rw [Stage.perform_poses _ rfl, Stage.perform_poses _ rfl, h.pose]
  · exact (scriptOf?_update t key edit j).trans (h.others j hj)

theorem remove (h : Alone k s t) {key : Value} (hk : key.key? = some k)
    (hs : ∀ a, s.roster.get? k = some a → a.id = k)
    (ht : ∀ a, t.roster.get? k = some a → a.id = k) :
    Alone k (s.perform (.remove key)) (t.perform (.remove key)) := by
  have hsame : (t.roster.get? k).isSome = (s.roster.get? k).isSome := by
    simpa only [Stage.scriptOf?, Option.isSome_map] using congrArg Option.isSome h.script
  rcases s.remove_cases key with ⟨hno, -, hs'⟩ | ⟨i, a, hi, ha, hs'⟩ <;>
    rcases t.remove_cases key with ⟨hno', -, ht'⟩ | ⟨j, b, hj, hb, ht'⟩
  · rw [Stage.perform, Stage.perform, hs', ht']
    exact h
  · cases hk.symm.trans hj
    rw [hb, ← Stage.actor?_of_key? s hk, hno] at hsame
    cases hsame
  · cases hk.symm.trans hi
    rw [ha, ← Stage.actor?_of_key? t hk, hno'] at hsame
    cases hsame
  · cases hk.symm.trans hi
    cases hk.symm.trans hj
    rw [Stage.perform, Stage.perform, hs', ht', hs a ha, ht b hb]
    refine ⟨h.running, ?_, ?_, fun j hj => ?_⟩
    · simp [Stage.scriptOf?, Keyed.get?_erase]
    · simp [Keyed.get?_erase]
    · simpa [Stage.scriptOf?, Keyed.get?_erase, hj] using h.others j hj

theorem session (h : Alone k s t) : Alone k s.start.2 t.start.2 ∧ Alone k s.stop.2 t.stop.2 := by
  have hr := h.running
  constructor
  · cases hs : s.running with
    | true => rwa [Stage.start_running hs, Stage.start_running (hr.trans hs)]
    | false =>
      rw [Stage.start_stopped hs, Stage.start_stopped (hr.trans hs)]
      exact ⟨rfl, h.script, h.pose, h.others⟩
  · cases hs : s.running with
    | true => simpa [Stage.stop, hs, hr.trans hs] using ⟨rfl, h.script, h.pose, h.others⟩
    | false => simpa [Stage.stop, hs, hr.trans hs] using h

theorem reset (h : Alone k s t) : Alone k s.reset t.reset := by
  have hstop := h.session.2
  refine ⟨hstop.running, hstop.script, ?_, hstop.others⟩
  rw [Stage.reset_poses_get?, Stage.reset_poses_get?, h.script]

theorem tick (h : Alone k s t) : Alone k s.tick.2 t.tick.2 := by
  cases hs : s.running with
  | false => rwa [Stage.tick_stopped hs, Stage.tick_stopped (h.running.trans hs)]
  | true =>
    rw [Stage.tick_running hs, Stage.tick_running (h.running.trans hs)]
    refine ⟨h.running, h.script, ?_, h.others⟩
    rw [Stage.nextPoses_get?, Stage.nextPoses_get?, h.script, h.pose]

end Alone

theorem Alone.skip {k : String} {t : Stage} (h : Alone k past.stage t) {op : Stage.Operation}
    (hbounds : op.bounds = false) (hdrops : op.drops = false) (hgiven : past.given? k op = none)
    (hposes : (past.stage.perform op).poses.get? k = past.stage.poses.get? k) :
    Alone k (past.stage.perform op) t :=
  h.frame (Stage.perform_session op hbounds).1
    (by rw [scriptOf?_perform past hdrops, hgiven, Option.none_or]) hposes

/-- A replacement of the script stands for whatever gives an actor a script. -/
theorem Alone.rewritten {k : String} (h : Alone k past.stage (stage (past.solo k)))
    {op : Stage.Operation} (hbounds : op.bounds = false) (hdrops : op.drops = false)
    (hposes : op.poses = false) :
    Alone k (past.stage.perform op)
      (stage (match past.given? k op with
        | some script => .replaceScript (.str k) script :: past.solo k
        | none => past.solo k)) := by
  have hpose : (past.stage.perform op).poses.get? k = past.stage.poses.get? k := by
    rw [Stage.perform_poses op hposes]
  cases hgiven : past.given? k op with
  | none => exact h.skip hbounds hdrops hgiven hpose
  | some script =>
    have hscript : (past.stage.perform op).scriptOf? k = some script := by
      rw [scriptOf?_perform past hdrops, hgiven, Option.some_or]
    have hpresent := Stage.perform_present (s := past.stage) op (.inl hposes) k
    refine h.replaceScript (Stage.perform_session op hbounds).1 hscript hpose ?_
    rw [Stage.scriptOf?, Option.isSome_map, ← hpresent]
    simpa [Stage.scriptOf?] using congrArg Option.isSome hscript

theorem add_poses_get? (s : Stage) (number : Nat) (draft : Draft) (k : String) :
    (s.perform (.add number draft)).poses.get? k =
      if (s.entrant? (.add number draft)).any (·.id == k) then some .rest else s.poses.get? k := by
  rcases s.add_cases number draft with ⟨hin, h⟩ | ⟨a, hin, h, -⟩
  · simp [hin, h]
  · by_cases hk : k = a.id
    · simp [hin, h, Keyed.get?_put, hk]
    · simp [hin, h, Keyed.get?_put, hk, Ne.symm hk]

/-- A removal of another actor changes neither the pose nor the script of an actor. -/
theorem remove_other (past : History) {key : Value} {k : String} (hk : key.key? ≠ some k) :
    (past.stage.remove key).2.running = past.stage.running ∧
    (past.stage.remove key).2.scriptOf? k = past.stage.scriptOf? k ∧
    (past.stage.remove key).2.poses.get? k = past.stage.poses.get? k := by
  rcases past.stage.remove_cases key with ⟨-, -, h⟩ | ⟨i, a, hi, ha, h⟩
  · rw [h]
    exact ⟨rfl, rfl, rfl⟩
  · have hne : k ≠ i := fun heq => hk (heq ▸ hi)
    rw [h, past.own_id i a ha]
    simp [Stage.scriptOf?, Keyed.get?_erase, hne]

theorem Alone.perform {k : String} (h : Alone k past.stage (stage (past.solo k)))
    (op : Stage.Operation) : Alone k (stage (op :: past)) (stage (solo (op :: past) k)) := by
  cases op with
  | add number draft =>
    have hposes := add_poses_get? past.stage number draft k
    rw [solo]
    split
    · rename_i hk
      obtain ⟨a, ha, hid⟩ := (Option.any_eq_true _ _).1 hk
      exact h.add number draft ha (by simpa using hid)
    · rename_i hk
      rw [if_neg hk] at hposes
      exact h.skip rfl rfl (by rw [given?, if_neg hk]) hposes
  | update key edit =>
    rw [solo]
    split
    · exact h.update key edit
    · exact h.skip rfl rfl rfl (by rw [Stage.perform_poses _ rfl])
  | remove key =>
    rw [solo]
    split
    · rename_i hk
      exact h.remove hk (past.own_id k) ((past.solo k).own_id k)
    · rename_i hk
      obtain ⟨hr, hs, hp⟩ := remove_other past hk
      exact h.frame hr hs hp
  | replaceScript key script => exact h.rewritten rfl rfl rfl
  | collide a b => exact h.rewritten rfl rfl rfl
  | start => exact h.session.1
  | stop => exact h.session.2
  | reset => exact h.reset
  | tick => exact h.tick
  | detect => exact h
  | clear => exact ⟨rfl, rfl, rfl, fun _ _ => rfl⟩

theorem solo_alone (h : History) (k : String) : Alone k h.stage (h.solo k).stage := by
  induction h with
  | nil => exact ⟨rfl, rfl, rfl, fun _ _ => rfl⟩
  | cons op past ih => exact Alone.perform ih op

/-- The pose law, for every history of the stage. The pose of an actor is the fold of its ticks over
the rest pose. Sessions, edits, collisions, and the coming and going of others do not touch it; a
tick without a session does nothing, and any other gives the poses that it commits. On its own the
actor would have the same pose, so the pose is the same after any two histories that agree on what
happened to that actor. -/
theorem pose_law (h : History) :
    (∀ k, h.stage.poses.get? k = (h.stage.roster.get? k).map fun _ =>
      (h.journal k).foldl
        (fun p script => interpret { p with display := p.display.countdown } script) .rest) ∧
    (h.stage.start.2.poses = h.stage.poses ∧ h.stage.stop.2.poses = h.stage.poses ∧
      (∀ key edit, (h.stage.update key edit).2.poses = h.stage.poses) ∧
      (∀ key script, (h.stage.replaceScript key script).2.poses = h.stage.poses) ∧
      ∀ a b, (h.stage.collide a b).2.poses = h.stage.poses) ∧
    (∀ number draft k, (∀ a, h.stage.entrant? (.add number draft) = some a → a.id ≠ k) →
      (h.stage.perform (.add number draft)).poses.get? k = h.stage.poses.get? k) ∧
    (∀ (key : Value) k, key.key? ≠ some k → (h.stage.remove key).2.poses.get? k = h.stage.poses.get? k) ∧
    (h.stage.running = false → h.stage.tick = (none, h.stage)) ∧
    (h.stage.running = true → h.stage.tick.1 = some h.stage.tick.2.poses) ∧
    (∀ k, (h.solo k).stage.poses.get? k = h.stage.poses.get? k ∧
      ∀ j, j ≠ k → (h.solo k).stage.roster.get? j = none) ∧
    (∀ h' k, solo h' k = h.solo k → (stage h').poses.get? k = h.stage.poses.get? k) := by
  refine ⟨poses_get? h, ⟨Stage.perform_poses .start rfl, Stage.perform_poses .stop rfl,
    fun key edit => Stage.perform_poses (.update key edit) rfl,
    fun key script => Stage.perform_poses (.replaceScript key script) rfl,
    fun a b => Stage.perform_poses (.collide a b) rfl⟩, ?_,
    fun key k hk => (remove_other h hk).2.2, Stage.tick_stopped, ?_, ?_, ?_⟩
  · intro number draft k hk
    rw [add_poses_get?, if_neg]
    intro hany
    obtain ⟨a, ha, hid⟩ := (Option.any_eq_true _ _).1 hany
    exact hk a ha (by simpa using hid)
  · intro hr
    rw [Stage.tick_running hr]
  · intro k
    apply And.intro (solo_alone h k).pose
    intro j hj
    simpa [Stage.scriptOf?] using (solo_alone h k).others j hj
  · intro h' k hsolo
    rw [← (solo_alone h k).pose, ← (solo_alone h' k).pose, hsolo]

end History

end SpriteStage
