import SpriteStage.Proofs.Clock.Stages
import SpriteStage.Proofs.Stage.Roster

/-!
# What an operation leaves alone

An edit, a new script and a removal are about one actor. The other actors keep their places, scripts
and poses, and the session goes on as it was. An actor leaves the stage only when it is removed, or
when the stage is cleared.
-/

namespace SpriteStage

namespace Stage

variable {s t u : Stage} {k : String}

/-- The operations that are about one actor. -/
def Operation.About (k : String) : Operation → Prop
  | .update id _ | .replaceScript id _ | .remove id => id.key? = some k
  | _ => False

/-- The operations that do not take an actor off the stage. -/
def Operation.Spares (k : String) : Operation → Prop
  | .remove id => id.key? ≠ some k
  | .clear => False
  | _ => True

/-- Two stages that differ in nothing but one actor. -/
structure SameBut (k : String) (s t : Stage) : Prop where
  actors : ∀ j, j ≠ k → t.roster.get? j = s.roster.get? j
  order : (t.roster.keys.filter fun j => j != k) = s.roster.keys.filter fun j => j != k
  poses : ∀ j, j ≠ k → t.poses.get? j = s.poses.get? j
  session : t.snapshot = s.snapshot ∧ t.running = s.running ∧ t.started = s.started
  accounts : t.ticks = s.ticks ∧ t.collisions = s.collisions ∧ t.lastCollision = s.lastCollision

namespace SameBut

theorem refl (k : String) (s : Stage) : s.SameBut k s :=
  ⟨fun _ _ => rfl, rfl, fun _ _ => rfl, ⟨rfl, rfl, rfl⟩, rfl, rfl, rfl⟩

theorem trans (h : s.SameBut k t) (h' : t.SameBut k u) : s.SameBut k u where
  actors j hj := (h'.actors j hj).trans (h.actors j hj)
  order := h'.order.trans h.order
  poses j hj := (h'.poses j hj).trans (h.poses j hj)
  session := by simp only [h'.session, h.session, and_self]
  accounts := by simp only [h'.accounts, h.accounts, and_self]

theorem put (hk : k ∈ s.roster.keys) (a : Actor) :
    s.SameBut k { s with roster := s.roster.put k a } where
  actors j hj := by rw [Keyed.get?_put, if_neg hj]
  order := by rw [Keyed.keys_put_of_mem hk]
  poses _ _ := rfl
  session := ⟨rfl, rfl, rfl⟩
  accounts := ⟨rfl, rfl, rfl⟩

theorem erase (k : String) (s : Stage) :
    s.SameBut k { s with roster := s.roster.erase k, poses := s.poses.erase k } where
  actors j hj := by rw [Keyed.get?_erase, if_neg hj]
  order := by rw [Keyed.keys_erase, List.filter_filter]; simp only [Bool.and_self]
  poses j hj := by rw [Keyed.get?_erase, if_neg hj]
  session := ⟨rfl, rfl, rfl⟩
  accounts := ⟨rfl, rfl, rfl⟩

end SameBut

/-! ### An actor that is there -/

theorem update_present {id : Value} {a : Actor} {e : Edit} (hk : id.key? = some k)
    (ha : s.roster.get? k = some a) (hfull : (e.apply a).2 = none) :
    s.update id e = (.ok (e.apply a).1, s.perform (.update id e)) ∧
    (s.perform (.update id e)).roster.get? k = some (e.apply a).1 := by
  rw [perform, update_of_key? s hk ha, hfull]
  exact ⟨rfl, (Keyed.get?_put ..).trans (if_pos rfl)⟩

theorem replaceScript_present {id : Value} {a : Actor} (hk : id.key? = some k)
    (ha : s.roster.get? k = some a) (script : Script) :
    s.replaceScript id script = (.ok { a with script }, s.perform (.replaceScript id script)) ∧
    (s.perform (.replaceScript id script)).roster.get? k = some { a with script } := by
  rw [perform, replaceScript, find_of_key? s hk ha]
  exact ⟨rfl, (Keyed.get?_put ..).trans (if_pos rfl)⟩

theorem remove_present {id : Value} {a : Actor} (hk : id.key? = some k)
    (ha : s.roster.get? k = some a) :
    s.remove id = (.ok true, s.perform (.remove id)) ∧
    (s.perform (.remove id)).roster.get? k = none := by
  rw [perform, remove, find_of_key? s hk ha]
  exact ⟨rfl, (Keyed.get?_erase ..).trans (if_pos rfl)⟩

/-- An actor stays on the stage through the operations that spare it. -/
theorem mem_keys_perform {op : Operation} (hop : op.Spares k) (hk : k ∈ s.roster.keys) :
    k ∈ (s.perform op).roster.keys := by
  cases op with
  | add number draft =>
    rcases s.add_cases number draft with ⟨-, h⟩ | ⟨a, -, h, -, -, -, hfree⟩ <;> rw [h]
    · exact hk
    · rw [Keyed.keys_put_of_not_mem (Keyed.not_mem_keys.2 hfree)]
      exact List.mem_append_left _ hk
  | remove id =>
    rcases s.remove_cases id with ⟨-, -, h⟩ | ⟨key, a, hkey, -, h⟩ <;> rw [perform, h]
    · exact hk
    · have hne : k ≠ key := fun heq => hop (heq ▸ hkey)
      rw [Keyed.keys_erase]
      exact List.mem_filter.2 ⟨hk, by simpa using hne⟩
  | clear => exact hop.elim
  | reset => rwa [perform_keys .reset (.inr (.inl rfl))]
  | tick => rwa [perform_keys .tick (.inr (.inr rfl))]
  | _ => rwa [perform_keys _ (.inl rfl)]

theorem Operation.Timed.spares {op : Operation} (h : op.Timed) (k : String) : op.Spares k := by
  cases op <;> trivial

theorem Leads.mem_keys (h : s.Leads (Operation.Spares k) t) (hk : k ∈ s.roster.keys) :
    k ∈ t.roster.keys :=
  h.keeps (P := fun s => k ∈ s.roster.keys) (fun _ _ => mem_keys_perform) hk

end Stage

namespace History

variable {past : History} {k : String} {t : Stage}

theorem stage_append (later past : History) :
    stage (later ++ past) = later.foldr (fun op s => s.perform op) past.stage := by
  induction later with
  | nil => rfl
  | cons op later ih => rw [List.cons_append, stage, ih, List.foldr_cons]

theorem of_leads {allowed : Stage.Operation → Prop} {s : Stage} (h : s.Leads allowed t)
    (hs : ∃ past : History, s = past.stage) : ∃ h : History, t = h.stage := by
  obtain ⟨past, rfl⟩ := hs
  obtain ⟨later, -, rfl⟩ := h
  exact ⟨later ++ past, (stage_append later past).symm⟩

/-- An operation about one actor leaves all else alone. -/
theorem sameBut_cons {op : Stage.Operation} (hop : op.About k) :
    past.stage.SameBut k (stage (op :: past)) := by
  cases op with
  | update id edit =>
    rcases past.stage.update_cases id edit with h | ⟨key, a, b, hkey, ha, -, -, h⟩ <;>
      rw [stage, Stage.perform, h]
    · exact .refl _ _
    · cases (hop : id.key? = some k).symm.trans hkey
      exact .put (Keyed.mem_keys.2 ⟨a, ha⟩) b
  | replaceScript id script =>
    rcases past.stage.replaceScript_cases id script with ⟨-, _, h⟩ | ⟨key, a, hkey, ha, h⟩ <;>
      rw [stage, Stage.perform, h]
    · exact .refl _ _
    · cases (hop : id.key? = some k).symm.trans hkey
      exact .put (Keyed.mem_keys.2 ⟨a, ha⟩) _
  | remove id =>
    rcases past.stage.remove_cases id with ⟨-, -, h⟩ | ⟨key, a, hkey, ha, h⟩ <;>
      rw [stage, Stage.perform, h]
    · exact .refl _ _
    · cases (hop : id.key? = some k).symm.trans hkey
      rw [past.own_id k a ha]
      exact .erase _ _
  | _ => exact hop.elim

theorem sameBut_of_leads (h : past.stage.Leads (Stage.Operation.About k) t) :
    past.stage.SameBut k t := by
  obtain ⟨later, hlater, rfl⟩ := h
  rw [← stage_append]
  induction later with
  | nil => exact .refl _ _
  | cons op later ih =>
    obtain ⟨hop, hlater⟩ := List.forall_mem_cons.1 hlater
    exact (ih hlater).trans (sameBut_cons hop)

end History

end SpriteStage
