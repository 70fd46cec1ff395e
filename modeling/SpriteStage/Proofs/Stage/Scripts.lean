import SpriteStage.Proofs.Stage.Operations

/-!
# The script law

The script of an actor is the one that was last given to it, by the operation that put it on the
stage, by a replacement or by a collision. The invariant that carries this through a history ties
the scripts that are kept aside to the latest start of a session.
-/

namespace SpriteStage

namespace Stage

variable {s : Stage}

/-- The operations that begin or end a session. -/
def Operation.bounds : Operation → Bool
  | .start | .stop | .reset | .clear => true
  | _ => false

/-- The operations that take actors off the stage. -/
def Operation.drops : Operation → Bool
  | .remove _ | .clear => true
  | _ => false

/-- Between the operations that begin or end a session, neither the session nor the scripts kept
aside change. -/
theorem perform_session (op : Operation) (h : op.bounds = false) :
    (s.perform op).running = s.running ∧ (s.perform op).snapshot = s.snapshot := by
  cases op with
  | add number draft =>
    rcases s.add_cases number draft with ⟨-, h⟩ | ⟨a, -, h, -⟩ <;> simp [h]
  | update id edit =>
    rcases s.update_cases id edit with h | ⟨_, a, b, -, -, -, -, h⟩ <;> simp [perform, h]
  | replaceScript id script =>
    rcases s.replaceScript_cases id script with ⟨-, _, h⟩ | ⟨_, a, -, -, h⟩ <;> simp [perform, h]
  | remove id =>
    rcases s.remove_cases id with ⟨-, -, h⟩ | ⟨_, a, -, -, h⟩ <;> simp [perform, h]
  | tick =>
    simp only [perform, tick]
    split <;> exact ⟨rfl, rfl⟩
  | detect => exact ⟨rfl, rfl⟩
  | collide a b =>
    rcases s.collide_cases a b with ⟨-, h, -⟩ | ⟨m, h⟩ <;> simp [perform, h, Meeting.after]
  | start | stop | reset | clear => cases h

end Stage

namespace History

variable {past : History}

/-- What is true of every actor that comes, and stays true when an actor is edited or gets another
script, is true of all actors on the stage. -/
theorem forall_actor {P : String → Actor → Prop}
    (hcome : ∀ s op a, Stage.entrant? s op = some a → P a.id a)
    (hedit : ∀ k a (e : Edit), P k a → P k (e.apply a).1)
    (hscript : ∀ k a script, P k a → P k { a with script }) (h : History) :
    h.stage.roster.All P := by
  induction h with
  | nil => exact .empty
  | cons op past ih =>
    rw [stage]
    cases op with
    | add number draft =>
      rcases (stage past).add_cases number draft with ⟨-, h⟩ | ⟨a, hin, h, -⟩ <;> rw [h]
      · exact ih
      · exact ih.put (hcome _ _ a hin)
    | update id edit =>
      rcases (stage past).update_apply id edit with h | ⟨key, a, -, ha, h⟩ <;>
        rw [Stage.perform, h]
      · exact ih
      · exact ih.put (hedit _ a edit (ih key a ha))
    | replaceScript id script =>
      rcases (stage past).replaceScript_cases id script with ⟨-, _, h⟩ | ⟨key, a, -, ha, h⟩ <;>
        rw [Stage.perform, h]
      · exact ih
      · exact ih.put (hscript _ a script (ih key a ha))
    | remove id =>
      rcases (stage past).remove_cases id with ⟨-, -, h⟩ | ⟨key, a, -, -, h⟩ <;>
        rw [Stage.perform, h]
      · exact ih
      · exact ih.erase key
    | collide a b =>
      rcases (stage past).collide_cases a b with ⟨-, h, -⟩ | ⟨m, h⟩ <;> rw [Stage.perform, h]
      · exact ih
      · exact (ih.put (hscript _ m.first _ (ih m.i m.first m.actorA))).put
          (hscript _ m.second _ (ih m.j m.second m.actorB))
    | start | stop | tick =>
      simp only [Stage.perform, Stage.start, Stage.stop, Stage.tick]
      split <;> exact ih
    | reset =>
      simp only [Stage.perform, Stage.reset, Stage.stop]
      split <;> exact ih
    | clear => exact .empty
    | detect => exact ih

theorem own_id (h : History) : ∀ k a, h.stage.roster.get? k = some a → a.id = k :=
  forall_actor (P := fun k a => a.id = k) (fun _ _ _ _ => rfl)
    (fun _ a e hid => (e.apply_id_script a).1.trans hid) (fun _ _ _ hid => hid) h

/-- What is true of the session whatever has happened to the stage: the scripts kept aside are those
of its start, while it runs. -/
structure Sound (h : History) : Prop where
  stopped : h.stage.running = false → h.stage.snapshot = none
  running : h.stage.running = true →
    ∃ scripts, h.stage.snapshot = some scripts ∧ ∀ k, scripts.get? k = h.original? k

theorem original?_cons {op : Stage.Operation} (h : op.bounds = false) (k : String) :
    original? (op :: past) k = past.original? k := by
  cases op <;> first | rfl | cases h

theorem Sound.perform (sound : past.Sound) (op : Stage.Operation) : Sound (op :: past) := by
  cases hb : op.bounds with
  | false =>
    obtain ⟨hr, hs⟩ := Stage.perform_session (s := past.stage) op hb
    refine ⟨?_, ?_⟩ <;> rw [stage, hr, hs]
    · exact sound.stopped
    · simpa only [original?_cons hb] using sound.running
  | true =>
    cases op with
    | start =>
      cases hr : past.stage.running with
      | true =>
        have hstart := Stage.start_running hr
        refine ⟨?_, ?_⟩ <;> rw [stage, Stage.perform, hstart]
        · exact sound.stopped
        · simpa [original?, hstart] using sound.running
      | false =>
        have hstart := Stage.start_stopped hr
        refine ⟨?_, ?_⟩ <;> rw [stage, Stage.perform, hstart]
        · intro h
          cases h
        · refine fun _ => ⟨_, rfl, fun k => ?_⟩
          rw [original?, hstart, if_pos rfl, Keyed.get?_map]
          rfl
    | stop | reset =>
      obtain ⟨hr, hs⟩ := Stage.stop_session sound.stopped
      exact ⟨fun _ => hs, fun h => absurd (hr.symm.trans h) Bool.false_ne_true⟩
    | clear => exact ⟨fun _ => rfl, fun h => absurd h Bool.false_ne_true⟩
    | _ => cases hb

theorem sound (h : History) : h.Sound := by
  induction h with
  | nil => exact ⟨fun _ => rfl, nofun⟩
  | cons op past ih => exact ih.perform op

theorem original?_of_meeting (h : History) {a b : Value} (m : h.stage.Meeting a b) :
    h.original? m.i = some m.oldA ∧ h.original? m.j = some m.oldB := by
  obtain ⟨scripts, hs, horiginal⟩ := h.sound.running m.running
  cases m.snapshot.symm.trans hs
  exact ⟨(horiginal m.i).symm.trans m.keptA, (horiginal m.j).symm.trans m.keptB⟩

/-- When a collision is answered with yes. -/
theorem collide_accepted (h : History) (a b : Value) :
    (h.stage.collide a b).1 = .ok true ↔
      h.stage.running = true ∧ ∃ i j, a.key? = some i ∧ b.key? = some j ∧ i ≠ j ∧
        (h.original? i).isSome = true ∧ (h.original? j).isSome = true ∧
        (h.stage.actor? a).isSome = true ∧ (h.stage.actor? b).isSome = true := by
  rcases h.stage.collide_cases a b with ⟨hno, -, hnot⟩ | ⟨m, hc⟩
  · refine iff_of_false hno ?_
    rintro ⟨hr, i, j, hi, hj, hij, ha, hb, hfirst, hsecond⟩
    obtain ⟨scripts, hs, horiginal⟩ := h.sound.running hr
    rw [← horiginal, Option.isSome_iff_exists] at ha hb
    rw [Stage.actor?_of_key? _ hi, Option.isSome_iff_exists] at hfirst
    rw [Stage.actor?_of_key? _ hj, Option.isSome_iff_exists] at hsecond
    obtain ⟨⟨oldA, ha⟩, ⟨oldB, hb⟩, ⟨first, hfirst⟩, ⟨second, hsecond⟩⟩ := ha, hb, hfirst, hsecond
    exact hnot ⟨⟨scripts, i, j, oldA, oldB, first, second, hr, hs, hi, hj, hij, ha, hb, hfirst,
      hsecond⟩⟩
  · obtain ⟨keptA, keptB⟩ := h.original?_of_meeting m
    simp [hc, m.running, m.keyA, m.keyB, m.ne, Stage.actor?_of_key? _ m.keyA,
      Stage.actor?_of_key? _ m.keyB, m.actorA, m.actorB, keptA, keptB]

theorem scriptOf?_put (s : Stage) (key : String) (a : Actor) {t : Stage}
    (h : t.roster = s.roster.put key a) (k : String) :
    t.scriptOf? k = if k = key then some a.script else s.scriptOf? k := by
  rw [Stage.scriptOf?, h, Keyed.get?_put]
  split <;> rfl

theorem scriptOf?_update (s : Stage) (key : Value) (edit : Edit) (k : String) :
    (s.update key edit).2.scriptOf? k = s.scriptOf? k := by
  rcases s.update_cases key edit with h | ⟨id, a, b, -, ha, -, hscript, h⟩
  · rw [h]
  · rw [scriptOf?_put s id b (by rw [h])]
    split
    · rename_i hk
      rw [Stage.scriptOf?, hk, ha, hscript]
      rfl
    · rfl

theorem pair?_of_ne {a b : Value} (h : (past.stage.collide a b).1 ≠ .ok true) :
    pair? (.collide a b, past) = none := by
  rw [pair?, Stage.isYes_eq_false h]
  rfl

theorem pair?_of_meeting {a b : Value} (m : past.stage.Meeting a b) :
    pair? (.collide a b, past) = some (m.i, m.j) := by
  rw [pair?, Stage.collide_of_meeting m, Stage.keys?, m.keyA, m.keyB]
  rfl

theorem given?_of_meeting {a b : Value} (m : past.stage.Meeting a b) (id : String) :
    past.given? id (.collide a b) =
      if m.i = id then past.collided? id m.j
      else if m.j = id then past.collided? id m.i else none := by
  rw [given?, pair?_of_meeting m]
  rfl

/-- Unless actors go, an operation leaves each with the script that it gave to the actor, or else
with the script that the actor had before. -/
theorem scriptOf?_perform (past : History) {op : Stage.Operation} (h : op.drops = false)
    (k : String) :
    (past.stage.perform op).scriptOf? k = (past.given? k op).or (past.stage.scriptOf? k) := by
  cases op with
  | add number draft =>
    rcases past.stage.add_cases number draft with ⟨hin, h⟩ | ⟨a, hin, h, -, -, hscript, -⟩
    · simp [given?, hin, h]
    · rw [scriptOf?_put past.stage a.id a (by rw [h])]
      by_cases hk : k = a.id
      · simp [given?, hin, hk, hscript]
      · simp [given?, hin, hk, Ne.symm hk]
  | update id edit => exact scriptOf?_update past.stage id edit k
  | replaceScript id script =>
    rcases past.stage.replaceScript_cases id script with ⟨-, _, h⟩ | ⟨key, a, hkey, ha, h⟩
    · simp [Stage.perform, given?, h, Except.isOk, Except.toBool]
    · rw [scriptOf?_put past.stage key { a with script }
        (by rw [Stage.perform, h])]
      by_cases hk : k = key
      · simp [given?, h, Except.isOk, Except.toBool, hkey, hk]
      · simp [given?, hkey, hk, Ne.symm hk]
  | collide a b =>
    rcases past.stage.collide_cases a b with ⟨hno, h, -⟩ | ⟨m, h⟩
    · rw [Stage.perform, h, given?, pair?_of_ne hno]
      rfl
    · obtain ⟨keptA, keptB⟩ := past.original?_of_meeting m
      rw [Stage.perform, given?_of_meeting m, h]
      simp only [Stage.scriptOf?, Stage.Meeting.after, Keyed.get?_put]
      by_cases hkb : k = m.j
      · simp [hkb, m.ne, collided?, keptA, keptB, Script.collide]
      · by_cases hka : k = m.i
        · simp [hka, m.ne, collided?, keptA, keptB, Script.collide]
        · simp [hka, hkb, Ne.symm hka, Ne.symm hkb]
  | start | stop | tick =>
    simp only [Stage.perform, Stage.start, Stage.stop, Stage.tick]
    split <;> rfl
  | reset =>
    simp only [Stage.perform, Stage.reset, Stage.stop]
    split <;> rfl
  | detect => rfl
  | remove | clear => cases h

theorem scriptOf?_remove (s : Stage) (key : Value) (k : String) :
    (s.remove key).2.scriptOf? k = none ∨ (s.remove key).2.scriptOf? k = s.scriptOf? k := by
  rcases s.remove_cases key with ⟨-, -, h⟩ | ⟨_, a, -, -, h⟩
  · exact .inr (by rw [h])
  · rw [h, Stage.scriptOf?, Keyed.get?_erase]
    split
    · exact .inl rfl
    · exact .inr rfl

/-- Every actor has the script that was last given to it. -/
theorem scriptOf?_eq_written? (h : History) (k : String) :
    h.stage.scriptOf? k = none ∨ h.stage.scriptOf? k = h.written? k := by
  induction h with
  | nil => exact .inl rfl
  | cons op past ih =>
    cases hop : op.drops with
    | false =>
      rw [stage, scriptOf?_perform past hop, written?]
      cases given? past k op with
      | some script => exact .inr rfl
      | none => exact ih
    | true =>
      cases op with
      | remove key =>
        rcases scriptOf?_remove (stage past) key k with hnone | hsame
        · exact .inl hnone
        · simpa only [stage, Stage.perform, hsame, written?, given?, Option.none_or] using ih
      | clear => exact .inl rfl
      | _ => cases hop

theorem written?_of_get? {h : History} {k : String} {a : Actor}
    (ha : h.stage.roster.get? k = some a) : h.written? k = some a.script := by
  have hscript : h.stage.scriptOf? k = some a.script := by rw [Stage.scriptOf?, ha]; rfl
  rcases scriptOf?_eq_written? h k with hnone | hwritten
  · cases hnone.symm.trans hscript
  · exact hwritten.symm.trans hscript

/-- The script law, for every history of the stage. An actor on the roster has the script that was
last given to it. A collision is answered with yes exactly if a session runs, the identifiers differ
and both actors were there when the session was started and are there now; else it does nothing. It
is answered unless a session runs and an identifier is too long to have a text. While a session runs
the scripts kept aside are those of its start, until it is stopped, reset or cleared. -/
theorem script_law (h : History) :
    (∀ k a, h.stage.roster.get? k = some a → h.written? k = some a.script) ∧
    (∀ a b, (h.stage.collide a b).1 = .ok true ↔
      h.stage.running = true ∧ ∃ i j, a.key? = some i ∧ b.key? = some j ∧ i ≠ j ∧
        (h.original? i).isSome = true ∧ (h.original? j).isSome = true ∧
        (h.stage.actor? a).isSome = true ∧ (h.stage.actor? b).isSome = true) ∧
    (∀ a b, (h.stage.collide a b).1 ≠ .ok true → (h.stage.collide a b).2 = h.stage) ∧
    (∀ a b why, (h.stage.collide a b).1 = .error why ↔ h.stage.running = true ∧
      (a.text? = none ∨ b.text? = none) ∧ why = .unreadable .tooManyDigits) ∧
    (h.stage.running = true →
      ∃ scripts, h.stage.snapshot = some scripts ∧ ∀ k, scripts.get? k = h.original? k) ∧
    (∀ op, h.stage.running = true → op ≠ .stop → op ≠ .reset → op ≠ .clear →
      (h.stage.perform op).running = true ∧ (h.stage.perform op).snapshot = h.stage.snapshot) ∧
    (∀ op, op = .stop ∨ op = .reset ∨ op = .clear → (h.stage.perform op).snapshot = none) := by
  refine ⟨fun _ _ => written?_of_get?, collide_accepted h, ?_, ?_, h.sound.running, ?_, ?_⟩
  · intro a b hc
    rcases h.stage.collide_cases a b with ⟨-, h', -⟩ | ⟨m, h'⟩
    · exact h'
    · exact absurd (congrArg Prod.fst h') hc
  · intro a b why
    rw [h.stage.collide_error]
    refine and_congr_right fun hr => and_iff_right ?_
    obtain ⟨scripts, hs, -⟩ := h.sound.running hr
    rw [hs]
    rfl
  · intro op hr hstop hreset hclear
    cases hb : op.bounds with
    | false =>
      obtain ⟨hrunning, hsnapshot⟩ := Stage.perform_session (s := h.stage) op hb
      exact ⟨hrunning.trans hr, hsnapshot⟩
    | true =>
      cases op with
      | start => rw [Stage.perform, Stage.start_running hr]; exact ⟨hr, rfl⟩
      | stop => exact absurd rfl hstop
      | reset => exact absurd rfl hreset
      | clear => exact absurd rfl hclear
      | _ => cases hb
  · intro op hop
    rcases hop with rfl | rfl | rfl
    · exact (Stage.stop_session h.sound.stopped).2
    · exact (Stage.stop_session h.sound.stopped).2
    · rfl

end History

end SpriteStage
