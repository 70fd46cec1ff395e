import SpriteStage.Proofs.Collision.Halves
import SpriteStage.Proofs.Stage.Scripts

/-!
# Where the blocks of a script come from

Clients assign scripts to actors; collisions only put halves of them together. The scripts kept
aside for a session are themselves results of earlier collisions, so what is kept true by joining
halves is an invariant of both: of the scripts of actors and of those kept aside, over any number of
sessions.
-/

namespace SpriteStage

/-- Whether an operation hands in a script for an actor. -/
def Stage.Operation.Brings (s : Script) : Stage.Operation → Prop
  | .add _ draft => draft.script = s
  | .replaceScript _ script => script = s
  | _ => False

namespace History

variable {past h : History} {k : String} {s : Script}

/-- The scripts that clients have assigned to an actor, the latest first. What collisions have given
to it is left out. -/
def assigned : History → String → List Script
  | [], _ => []
  | .collide .. :: past, id => assigned past id
  | op :: past, id => (given? past id op).toList ++ assigned past id

/-- Scripts that were assigned stay so, whatever happens later. -/
theorem mem_assigned_cons (op : Stage.Operation) (h : s ∈ past.assigned k) :
    s ∈ assigned (op :: past) k := by
  cases op with
  | collide => exact h
  | _ => exact List.mem_append_right _ h

/-- What was assigned was handed in by some operation. -/
theorem exists_brings (hs : s ∈ h.assigned k) : ∃ op ∈ h, op.Brings s := by
  induction h with
  | nil => cases hs
  | cons op past ih =>
    have earlier (hs : s ∈ assigned past k) : ∃ o ∈ op :: past, o.Brings s := by
      obtain ⟨o, ho, hbrings⟩ := ih hs
      exact ⟨o, List.mem_cons_of_mem op ho, hbrings⟩
    have latest {script : Script} {c : Prop} [Decidable c] (hop : op.Brings script)
        (hs : s ∈ (if c then some script else none).toList) : ∃ o ∈ op :: past, o.Brings s := by
      rw [Option.mem_toList, Option.ite_none_right_eq_some] at hs
      exact ⟨op, List.mem_cons_self, Option.some.inj hs.2 ▸ hop⟩
    cases op with
    | collide => exact earlier hs
    | add | replaceScript =>
      rcases List.mem_append.1 hs with hs | hs
      · exact latest rfl hs
      · exact earlier hs
    | _ => exact earlier hs

/-- An operation gives an actor a script that a client assigns to it, or one that a collision puts
together. -/
theorem given?_cases {op : Stage.Operation} (h : past.given? k op = some s) :
    s ∈ assigned (op :: past) k ∨ ∃ partner, past.collided? k partner = some s := by
  cases op with
  | collide a b =>
    obtain ⟨⟨i, j⟩, -, h⟩ := Option.bind_eq_some_iff.1 h
    dsimp only at h
    split at h
    · exact .inr ⟨j, h⟩
    · split at h
      · exact .inr ⟨i, h⟩
      · cases h
  | _ => exact .inl (List.mem_append_left _ (by rw [h]; exact List.mem_singleton_self s))

theorem collided?_eq_some {partner : String} (h : past.collided? k partner = some s) :
    ∃ own other, past.original? k = some own ∧ past.original? partner = some other ∧
      s = own.collide other := by
  unfold collided? at h
  cases hown : past.original? k with
  | none => rw [hown] at h; cases h
  | some own =>
    cases hother : past.original? partner with
    | none => rw [hown, hother] at h; cases h
    | some other =>
      rw [hown, hother] at h
      cases h
      exact ⟨own, other, rfl, rfl, rfl⟩

/-- What is true of the scripts that clients have assigned, and kept true when the motion of one
script is put before the rest of another, is true of all scripts that actors have had and of all
that were kept aside for a session. -/
theorem scripts_invariant {P : String → Script → Prop}
    (hcollide : ∀ k j own other, P k own → P j other → P k (own.collide other))
    (hassigned : ∀ k, ∀ s ∈ h.assigned k, P k s) (k : String) (s : Script) :
    (h.written? k = some s → P k s) ∧ (h.original? k = some s → P k s) := by
  induction h generalizing k s with
  | nil => exact ⟨nofun, nofun⟩
  | cons op past ih =>
    have ih := ih fun k s hs => hassigned k s (mem_assigned_cons op hs)
    constructor
    · intro h
      rw [written?, Option.or_eq_some_iff] at h
      rcases h with hgiven | ⟨-, hwritten⟩
      · rcases given?_cases hgiven with hs | ⟨partner, hs⟩
        · exact hassigned k s hs
        · obtain ⟨own, other, hown, hother, rfl⟩ := collided?_eq_some hs
          exact hcollide k partner own other ((ih _ _).2 hown) ((ih _ _).2 hother)
      · exact (ih k s).1 hwritten
    · intro h
      cases op with
      | start =>
        rw [original?] at h
        split at h
        · -- a session keeps aside the scripts that the actors have
          rcases scriptOf?_eq_written? past k with hnone | hwritten
          · cases hnone.symm.trans h
          · exact (ih k s).1 (hwritten.symm.trans h)
        · exact (ih k s).2 h
      | _ => exact (ih k s).2 h

/-- A script whose rest is that of one script assigned to an actor, and whose motion is that of one
script assigned to any actor. -/
structure Joined (h : History) (k : String) (s : Script) : Prop where
  rest : ∃ t ∈ h.assigned k, s.rest = t.rest
  motion : ∃ j, ∃ t ∈ h.assigned j, s.motion = t.motion

theorem Joined.collide {j : String} {own other : Script} (hown : h.Joined k own)
    (hother : h.Joined j other) : h.Joined k (own.collide other) where
  rest := by
    rw [Script.rest_collide]
    exact hown.rest
  motion := by
    rw [Script.motion_collide]
    exact hother.motion

/-- The law of provenance, for every history of the stage. The rest of the script of an actor is the
rest of one script that a client assigned to this actor, and its motion is the motion of one script
that a client assigned to some actor. So every block of it was in an assigned script, and in one
assigned to this actor unless it is a motion block. -/
theorem provenance_law (h : History) {k : String} {a : Actor}
    (ha : h.stage.roster.get? k = some a) :
    (∃ s ∈ h.assigned k, a.script.rest = s.rest) ∧
    (∃ j, ∃ s ∈ h.assigned j, a.script.motion = s.motion) ∧
    ∀ b ∈ a.script, ∃ j, ∃ s ∈ h.assigned j, b ∈ s ∧ (b.isMotion = false → j = k) := by
  have joined : h.Joined k a.script :=
    (scripts_invariant (P := h.Joined) (fun _ _ _ _ => Joined.collide)
      (fun j s hs => ⟨⟨s, hs, rfl⟩, j, s, hs, rfl⟩) k a.script).1 (written?_of_get? ha)
  refine ⟨joined.rest, joined.motion, fun b hb => ?_⟩
  cases hmotion : b.isMotion with
  | true =>
    obtain ⟨j, s, hs, heq⟩ := joined.motion
    have hmem : b ∈ s.motion := heq ▸ List.mem_filter.2 ⟨hb, hmotion⟩
    exact ⟨j, s, hs, (List.mem_filter.1 hmem).1, nofun⟩
  | false =>
    obtain ⟨s, hs, heq⟩ := joined.rest
    have hmem : b ∈ s.rest := heq ▸ List.mem_filter.2 ⟨hb, by rw [hmotion]; rfl⟩
    exact ⟨k, s, hs, (List.mem_filter.1 hmem).1, fun _ => rfl⟩

/-- Two sessions: in the first `a` takes over the motion of `b`, and in the second `c` takes it over
from `a`. -/
def handedOn : History :=
  [.collide (.str "a") (.str "c"), .start, .stop, .collide (.str "a") (.str "b"), .start,
    .add 3 { id := .str "c", script := [.bubble "hello" .say (.str "") (.int 2)] },
    .add 2 { id := .str "b", script := [.move "stride" (.int 1)] },
    .add 1 { id := .str "a", script := [.turn "spin" (.int 9)] }]

/-- The law of provenance at that history, where the script of `c` holds the motion of `b`. -/
theorem provenance_of_handedOn :
    (handedOn.stage.scriptOf? "c").map (List.map Block.id?) = some [some "stride", some "hello"] ∧
    ∃ a, handedOn.stage.roster.get? "c" = some a ∧
      (∃ s ∈ handedOn.assigned "c", a.script.rest = s.rest) ∧
      (∃ j, ∃ s ∈ handedOn.assigned j, a.script.motion = s.motion) ∧
      ∀ b ∈ a.script, ∃ j, ∃ s ∈ handedOn.assigned j, b ∈ s ∧ (b.isMotion = false → j = "c") := by
  have hactor : (handedOn.stage.roster.get? "c").isSome = true := by decide
  obtain ⟨a, ha⟩ := Option.isSome_iff_exists.1 hactor
  exact ⟨by decide, a, ha, provenance_law handedOn ha⟩

end History

end SpriteStage
