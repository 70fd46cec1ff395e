import SpriteStage.Proofs.Stage.Provenance

/-!
# The evaluation budget on the stage

Scripts come to the stage through the reader, which refuses a script that costs too much. A
collision makes new scripts out of halves without adding up what they cost. Each half keeps to the
budget; a whole script may cost twice as much, and then its written form is refused.
-/

namespace SpriteStage

/-- A script with checked blocks, each half of which keeps to the budget. -/
structure Script.Halved (s : Script) : Prop where
  checked : s.Checked
  motion : s.motion.cost ≤ maxCost
  rest : s.rest.cost ≤ maxCost

theorem Script.Authored.halved {s : Script} (h : s.Authored) : s.Halved := by
  obtain ⟨hchecked, hcost⟩ := Script.authored_iff.1 h
  have hsum := s.cost_motion_add_rest
  exact ⟨hchecked, by omega, by omega⟩

theorem Script.Halved.collide {own other : Script} (hown : own.Halved) (hother : other.Halved) :
    (own.collide other).Halved where
  checked := checked_collide hown.checked hother.checked
  motion := by
    rw [motion_collide]
    exact hother.motion
  rest := by
    rw [rest_collide]
    exact hown.rest

/-- Whether the scripts that an operation brings come from the reader. -/
def Stage.Operation.Authored : Stage.Operation → Prop
  | .add _ draft => draft.script.Authored
  | .replaceScript _ script => script.Authored
  | _ => True

namespace History

/-- Whether all scripts that clients have brought come from the reader. -/
def Authored (h : History) : Prop := ∀ op ∈ h, op.Authored

theorem authored_of_assigned {h : History} (authored : h.Authored) {k : String} {s : Script}
    (hs : s ∈ h.assigned k) : s.Authored := by
  obtain ⟨op, hop, hbrings⟩ := exists_brings hs
  have hauthored := authored op hop
  cases op with
  | add | replaceScript =>
    cases hbrings
    exact hauthored
  | _ => cases hbrings

theorem halved {h : History} (authored : h.Authored) (k : String) (s : Script) :
    (h.written? k = some s → s.Halved) ∧ (h.original? k = some s → s.Halved) :=
  scripts_invariant (P := fun _ s => s.Halved) (fun _ _ _ _ => Script.Halved.collide)
    (fun _ _ hs => (authored_of_assigned authored hs).halved) k s

/-- A script that does not come from the reader comes from a collision. -/
theorem written?_cases {h : History} (authored : h.Authored) {k : String} {s : Script}
    (hs : h.written? k = some s) :
    s.Authored ∨ ∃ past partner, past <:+ h ∧ collided? past k partner = some s := by
  induction h with
  | nil => cases hs
  | cons op past ih =>
    rw [written?, Option.or_eq_some_iff] at hs
    rcases hs with hgiven | ⟨-, hwritten⟩
    · rcases given?_cases hgiven with hs | ⟨partner, hs⟩
      · exact .inl (authored_of_assigned authored hs)
      · exact .inr ⟨past, partner, List.suffix_cons op past, hs⟩
    · rcases ih (fun op hop => authored op (List.mem_cons_of_mem _ hop)) hwritten with
        hs | ⟨earlier, partner, hsuffix, hs⟩
      · exact .inl hs
      · exact .inr ⟨earlier, partner, hsuffix.trans (List.suffix_cons op past), hs⟩

/-- The budget of the stage, for every history in which all scripts come from the reader. Each half
of the script of an actor keeps to the budget, so the script costs at most twice as much. It has a
written form, which is read back as the same script, or refused for its cost if the script is over
the budget; and only a collision makes such a script. -/
theorem budget_law {h : History} (authored : h.Authored) {k : String} {a : Actor}
    (ha : h.stage.roster.get? k = some a) :
    (a.script.motion.cost ≤ maxCost ∧ a.script.rest.cost ≤ maxCost ∧
      a.script.motion.cost + a.script.rest.cost = a.script.cost) ∧
    (∃ forms, a.script.forms? = some forms ∧ ∀ ids, Script.parse forms ids =
      if maxCost < a.script.cost then .error (.tooCostly a.script.cost)
      else .ok (a.script, ids)) ∧
    (maxCost < a.script.cost →
      ∃ past partner, past <:+ h ∧ collided? past k partner = some a.script) := by
  have halved := (halved authored k a.script).1 (written?_of_get? ha)
  refine ⟨⟨halved.motion, halved.rest, a.script.cost_motion_add_rest⟩,
    Script.parse_written halved.checked, fun hcost => ?_⟩
  rcases written?_cases authored (written?_of_get? ha) with hs | hs
  · exact absurd (Script.authored_iff.1 hs).2 (by omega)
  · exact hs

def speech : Block := .bubble "speech" .say (.str "") (.int 0)

/-- A script of loops that takes up the whole budget. -/
def fullScript : Script :=
  [.loop "most" (.int 10000) (List.replicate 9 speech), .loop "others" (.int 9998) [speech]]

/-- An actor whose script takes up the whole budget collides with one that moves. -/
def overspent : History :=
  [.collide (.str "a") (.str "b"), .start,
    .add 2 { id := .str "b", script := [.move "move" (.int 1)] },
    .add 1 { id := .str "a", script := fullScript }]

theorem fullScript_authored : fullScript.Authored := by
  have hspeech : speech.Checked := ⟨by decide, ⟨_, .inl rfl⟩, _, rfl,
    Number.isFinite_natCast (n := 0) (by decide)⟩
  have hmost : Script.Checked (List.replicate 9 speech) :=
    Script.checked_iff_forall.2 fun b hb => List.eq_of_mem_replicate hb ▸ hspeech
  refine Script.authored_iff.2 ⟨⟨?_, ?_, trivial⟩, by decide⟩
  · exact ⟨by decide, ⟨_, rfl, by decide⟩, hmost, by decide⟩
  · exact ⟨by decide, ⟨_, rfl, by decide⟩, ⟨hspeech, trivial⟩, by decide⟩

theorem overspent_authored : overspent.Authored := by
  have hmove : Script.Authored [.move "move" (.int 1)] :=
    Script.authored_iff.2 ⟨⟨⟨by decide, _, rfl,
      Number.isFinite_natCast (n := 1) (by decide)⟩, trivial⟩, by decide⟩
  intro op hop
  simp only [overspent, List.mem_cons, List.not_mem_nil, or_false] at hop
  rcases hop with rfl | rfl | rfl | rfl
  · trivial
  · trivial
  · exact hmove
  · exact fullScript_authored

theorem overspent_cost :
    ∃ a, overspent.stage.roster.get? "a" = some a ∧ a.script.cost = 100001 := by
  have hcost : (overspent.stage.scriptOf? "a").map Script.cost = some 100001 := by decide
  rw [Stage.scriptOf?, Option.map_map, Option.map_eq_some_iff] at hcost
  exact hcost

/-- A script over the budget on the stage: it costs one evaluation too many, and what is written of
it is refused. -/
theorem overspent_refused : overspent.Authored ∧
    ∃ a, overspent.stage.roster.get? "a" = some a ∧ ¬a.script.cost ≤ maxCost ∧
      ∃ forms, a.script.forms? = some forms ∧
        ∀ ids, Script.parse forms ids = .error (.tooCostly 100001) := by
  obtain ⟨a, ha, hcost⟩ := overspent_cost
  have halved := (halved overspent_authored "a" a.script).1 (written?_of_get? ha)
  obtain ⟨forms, hforms, hparse⟩ := Script.parse_written halved.checked
  refine ⟨overspent_authored, a, ha, by rw [hcost]; decide, forms, hforms, fun ids => ?_⟩
  rw [hparse, hcost]
  rfl

/-- The law of the budget at that script. -/
theorem budget_of_overspent : overspent.Authored ∧
    ∃ a, overspent.stage.roster.get? "a" = some a ∧ a.script.motion.cost ≤ maxCost ∧
      a.script.rest.cost ≤ maxCost ∧
      ∃ past partner, past <:+ overspent ∧ collided? past "a" partner = some a.script := by
  obtain ⟨a, ha, hcost⟩ := overspent_cost
  obtain ⟨⟨hmotion, hrest, -⟩, -, hcollided⟩ := budget_law overspent_authored ha
  exact ⟨overspent_authored, a, ha, hmotion, hrest, hcollided (by rw [hcost]; decide)⟩

end History

end SpriteStage
