import SpriteStage.Proofs.Stage.Accounts

/-!
# Which actors overlap

Overlapping actors are looked for among the boxes of all actors, each box against those behind it.
So each pair that overlaps is found once, with the actor in front first, and the pairs come in the
order of the roster. As overlapping is symmetric, the order of the roster does not matter for which
pairs are found.
-/

namespace SpriteStage

namespace Box

variable {α : Type} {boxes : List (α × Box)}

/-- The edges of a box lie half its width and half its height away from its point. -/
theorem around_of_pos {width height : Float} (x y : Float) (hwidth : 0.0 < width)
    (hheight : 0.0 < height) : around x y width height =
      ⟨x - width / 2.0, y - height / 2.0, x + width / 2.0, y + height / 2.0⟩ := by
  rw [around, Double.atLeastZero, Double.atLeastZero, if_pos hwidth, if_pos hheight]

/-- A pair is found exactly if its first member stands in front of the second and their boxes
overlap. -/
theorem mem_overlaps_iff {a b : α} :
    (a, b) ∈ overlaps boxes ↔
      ∃ A B, [(a, A), (b, B)].Sublist boxes ∧ A.intersects B = true := by
  induction boxes with
  | nil =>
    refine iff_of_false List.not_mem_nil ?_
    rintro ⟨A, B, h, -⟩
    cases h
  | cons e rest ih =>
    rw [overlaps, List.mem_append, List.mem_map, ih]
    constructor
    · rintro (⟨other, hother, hpair⟩ | ⟨A, B, h, hAB⟩)
      · obtain ⟨hmem, hmeet⟩ := List.mem_filter.1 hother
        cases hpair
        exact ⟨e.2, other.2, (List.singleton_sublist.2 hmem).cons_cons e, hmeet⟩
      · exact ⟨A, B, h.cons e, hAB⟩
    · rintro ⟨A, B, h, hAB⟩
      rcases List.sublist_cons_iff.1 h with h | ⟨_, heq, h⟩
      · exact .inr ⟨A, B, h, hAB⟩
      · cases heq
        exact .inl ⟨(b, B), List.mem_filter.2 ⟨List.singleton_sublist.1 h, hAB⟩, rfl⟩

/-- The members of a list of pairs stand as they stood: by the first member, and then by the
second. -/
theorem pairwise_overlaps {R : α → α → Prop} (h : (boxes.map Prod.fst).Pairwise R) :
    (overlaps boxes).Pairwise (Prod.Lex R R) := by
  induction boxes with
  | nil => exact .nil
  | cons e rest ih =>
    obtain ⟨hfirst, hrest⟩ := List.pairwise_cons.1 h
    rw [overlaps, List.pairwise_append]
    refine ⟨?_, ih hrest, ?_⟩
    · rw [List.pairwise_map]
      exact ((List.pairwise_map.1 hrest).filter _).imp fun h => .right _ h
    · intro p hp q hq
      obtain ⟨other, -, rfl⟩ := List.mem_map.1 hp
      obtain ⟨A, B, hpair, -⟩ := mem_overlaps_iff.1 hq
      exact .left _ _ (hfirst _ (List.mem_map_of_mem (hpair.subset List.mem_cons_self)))

end Box

namespace Stage

/-- The box around the current pose of an actor. -/
def box? (s : Stage) (k : String) : Option Box := do
  let a ← s.roster.get? k
  let p ← s.poses.get? k
  return .around p.x p.y a.width a.height

/-- How many actors stand in front of an actor on the roster. -/
def position (s : Stage) (k : String) : Nat := s.roster.keys.idxOf k

theorem pairwise_position (s : Stage) :
    s.roster.keys.Pairwise fun j k => s.position j < s.position k := by
  have hdistinct : s.roster.keys.Nodup := s.roster.distinct
  rw [List.pairwise_iff_getElem]
  intro i j hi hj hij
  rwa [position, position, hdistinct.idxOf_getElem, hdistinct.idxOf_getElem]

/-- An actor stands in front of another if fewer stand in front of it. -/
theorem pair_sublist_of_idxOf_lt {keys : List String} {a b : String} (hb : b ∈ keys)
    (h : keys.idxOf a < keys.idxOf b) : [a, b].Sublist keys := by
  induction keys with
  | nil => cases hb
  | cons k keys ih =>
    have hkb : k ≠ b := by
      rintro rfl
      simp at h
    have hmem : b ∈ keys := (List.mem_cons.1 hb).resolve_left hkb.symm
    by_cases hka : k = a
    · rw [hka]
      exact (List.singleton_sublist.2 hmem).cons_cons a
    · rw [List.idxOf_cons_ne _ hka, List.idxOf_cons_ne _ hkb] at h
      exact (ih hmem (Nat.lt_of_succ_lt_succ h)).cons k

end Stage

namespace History

variable {a b : String}

theorem isSome_box? (h : History) (k : String) :
    (h.stage.box? k).isSome = true ↔ k ∈ h.stage.roster.keys := by
  rw [Keyed.mem_keys, Stage.box?]
  constructor
  · intro hbox
    cases hk : h.stage.roster.get? k with
    | none => rw [hk] at hbox; cases hbox
    | some a => exact ⟨a, rfl⟩
  · rintro ⟨a, ha⟩
    obtain ⟨p, hp⟩ := exists_pose ha
    rw [ha, hp]
    rfl

theorem box?_eq (h : History) {k : String} {actor : Actor} {p : Pose}
    (hactor : h.stage.roster.get? k = some actor) (hp : h.stage.poses.get? k = some p) :
    h.stage.box? k = some ⟨p.x - actor.width / 2.0, p.y - actor.height / 2.0,
      p.x + actor.width / 2.0, p.y + actor.height / 2.0⟩ := by
  obtain ⟨-, hsized⟩ := h.isName_sized k actor hactor
  rw [Stage.box?, hactor, hp, ← Box.around_of_pos p.x p.y hsized.width.1 hsized.height.1]
  rfl

theorem boxes_eq (h : History) :
    h.stage.boxes = h.stage.roster.keys.filterMap fun k =>
      (h.stage.box? k).map fun box => (k, box) := by
  rw [Stage.boxes, Stage.actors, Keyed.values, Keyed.keys, List.filterMap_map, List.filterMap_map]
  refine List.filterMap_congr fun e he => ?_
  have ha := Keyed.get?_of_mem he
  rw [Function.comp, Function.comp, h.own_id _ _ ha, Stage.box?, ha]
  cases h.stage.poses.get? e.1 <;> rfl

theorem pair_sublist_boxes_iff (h : History) {A B : Box} :
    [(a, A), (b, B)].Sublist h.stage.boxes ↔ h.stage.position a < h.stage.position b ∧
      h.stage.box? a = some A ∧ h.stage.box? b = some B := by
  constructor
  · intro hpair
    have hbox {k : String} {K : Box} (hk : (k, K) ∈ h.stage.boxes) : h.stage.box? k = some K := by
      rw [boxes_eq] at hk
      obtain ⟨j, -, hj⟩ := List.mem_filterMap.1 hk
      obtain ⟨J, hJ, hpair⟩ := Option.map_eq_some_iff.1 hj
      cases hpair
      exact hJ
    have hkeys := hpair.map Prod.fst
    rw [h.map_fst_boxes] at hkeys
    exact ⟨List.pairwise_iff_forall_sublist.1 h.stage.pairwise_position hkeys,
      hbox (hpair.subset List.mem_cons_self),
      hbox (hpair.subset (List.mem_cons_of_mem _ List.mem_cons_self))⟩
  · rintro ⟨hlt, ha, hb⟩
    have hmem : b ∈ h.stage.roster.keys := (h.isSome_box? b).1 (by rw [hb]; rfl)
    have hpair := (Stage.pair_sublist_of_idxOf_lt hmem hlt).filterMap fun k =>
      (h.stage.box? k).map fun box => (k, box)
    rw [boxes_eq]
    simpa [ha, hb] using hpair

theorem mem_overlaps_iff (h : History) : (a, b) ∈ h.stage.overlaps ↔
    h.stage.position a < h.stage.position b ∧ ∃ A B,
      h.stage.box? a = some A ∧ h.stage.box? b = some B ∧ A.intersects B = true := by
  rw [Stage.overlaps, Box.mem_overlaps_iff]
  constructor
  · rintro ⟨A, B, hpair, hAB⟩
    obtain ⟨hlt, hA, hB⟩ := h.pair_sublist_boxes_iff.1 hpair
    exact ⟨hlt, A, B, hA, hB, hAB⟩
  · rintro ⟨hlt, A, B, hA, hB, hAB⟩
    exact ⟨A, B, h.pair_sublist_boxes_iff.2 ⟨hlt, hA, hB⟩, hAB⟩

theorem pairwise_overlaps (h : History) :
    h.stage.overlaps.Pairwise (Prod.Lex (fun j k => h.stage.position j < h.stage.position k)
      fun j k => h.stage.position j < h.stage.position k) := by
  apply Box.pairwise_overlaps
  rw [h.map_fst_boxes]
  exact h.stage.pairwise_position

/-- Which of two actors stands in front does not matter for whether they overlap. -/
theorem mem_overlaps_or_iff (h : History) :
    (a, b) ∈ h.stage.overlaps ∨ (b, a) ∈ h.stage.overlaps ↔
      a ≠ b ∧ ∃ A B, h.stage.box? a = some A ∧ h.stage.box? b = some B ∧ A.intersects B = true := by
  rw [mem_overlaps_iff, mem_overlaps_iff]
  constructor
  · rintro (⟨hlt, hboxes⟩ | ⟨hlt, B, A, hB, hA, hBA⟩)
    · exact ⟨fun heq => (heq ▸ hlt).false, hboxes⟩
    · exact ⟨fun heq => (heq ▸ hlt).false, A, B, hA, hB, B.intersects_comm A ▸ hBA⟩
  · rintro ⟨hne, A, B, hA, hB, hAB⟩
    have ha : a ∈ h.stage.roster.keys := (h.isSome_box? a).1 (by rw [hA]; rfl)
    rcases Nat.lt_or_gt_of_ne fun heq => hne ((List.idxOf_inj ha).1 heq) with hlt | hlt
    · exact .inl ⟨hlt, A, B, hA, hB, hAB⟩
    · exact .inr ⟨hlt, B, A, hB, hA, A.intersects_comm B ▸ hAB⟩

/-- The law of detection, for every history of the stage. A pair of actors is found exactly if the
first stands in front of the second on the roster and the boxes around their current poses overlap;
and every actor has such a box, whose edges lie half a width and half a height away from its
position. No actor is found with itself, no pair is found again with its members the other way
round, and none is found twice: the pairs come in the order of the roster, by the first member and
then by the second. Overlapping is symmetric, so which pairs are found, in whatever orientation,
depends on the boxes alone: two stages on which the actors have the same boxes, and stand in
whatever order, find the same. -/
theorem detection_law (h : History) :
    (∀ a b, (a, b) ∈ h.stage.overlaps ↔ h.stage.position a < h.stage.position b ∧ ∃ A B,
      h.stage.box? a = some A ∧ h.stage.box? b = some B ∧ A.intersects B = true) ∧
    (∀ k, (h.stage.box? k).isSome = true ↔ k ∈ h.stage.roster.keys) ∧
    (∀ k actor p, h.stage.roster.get? k = some actor → h.stage.poses.get? k = some p →
      h.stage.box? k = some ⟨p.x - actor.width / 2.0, p.y - actor.height / 2.0,
        p.x + actor.width / 2.0, p.y + actor.height / 2.0⟩) ∧
    (∀ a, (a, a) ∉ h.stage.overlaps) ∧
    (∀ a b, (a, b) ∈ h.stage.overlaps → (b, a) ∉ h.stage.overlaps) ∧
    h.stage.overlaps.Nodup ∧
    h.stage.overlaps.Pairwise (Prod.Lex (fun j k => h.stage.position j < h.stage.position k)
      fun j k => h.stage.position j < h.stage.position k) ∧
    (∀ A B : Box, A.intersects B = B.intersects A) ∧
    (∀ a b, (a, b) ∈ h.stage.overlaps ∨ (b, a) ∈ h.stage.overlaps ↔
      a ≠ b ∧ ∃ A B, h.stage.box? a = some A ∧ h.stage.box? b = some B ∧ A.intersects B = true) ∧
    ∀ h' : History, (∀ k, (stage h').box? k = h.stage.box? k) → ∀ a b,
      ((a, b) ∈ (stage h').overlaps ∨ (b, a) ∈ (stage h').overlaps ↔
        (a, b) ∈ h.stage.overlaps ∨ (b, a) ∈ h.stage.overlaps) := by
  have inFront {a b : String} (hab : (a, b) ∈ h.stage.overlaps) :
      h.stage.position a < h.stage.position b := (h.mem_overlaps_iff.1 hab).1
  refine ⟨fun _ _ => h.mem_overlaps_iff, h.isSome_box?, fun _ _ _ => h.box?_eq,
    fun _ haa => (inFront haa).false, fun _ _ hab hba => (inFront hab).asymm (inFront hba), ?_,
    h.pairwise_overlaps, Box.intersects_comm, fun _ _ => h.mem_overlaps_or_iff,
    fun h' hboxes a b => ?_⟩
  · refine h.pairwise_overlaps.imp fun {p q} hlex heq => ?_
    subst heq
    cases hlex with
    | left _ _ hlt => exact hlt.false
    | right _ hlt => exact hlt.false
  · simp only [mem_overlaps_or_iff, hboxes]

/-- Of three sprites one goes away, and the two that stay on top of each other are found. -/
example : (History.stage [.tick, .start, .add 3 { id := .str "c" },
    .add 2 { id := .str "b", script := [.goto "aside" (.int 60) (.int 0)] },
    .add 1 { id := .str "a" }]).overlaps = [("a", "c")] := by
  decide +kernel

end History

end SpriteStage
