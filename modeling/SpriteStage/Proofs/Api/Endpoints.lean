import SpriteStage.Proofs.Api.Addresses
import SpriteStage.Proofs.Api.Locking
import SpriteStage.Proofs.Stage.Neighbours
import Mathlib.Logic.Relation

/-!
# What endpoints do to the stage

Whatever comes with a request, its endpoint uses only certain operations of the stage: the ones of
an actor use those about that actor, and the ones of the session use those that clocks use. So an
actor that is on the stage stays there until a request deletes it, and a request about one actor
leaves all else alone.
-/

namespace SpriteStage.Api

def Endpoint.Uses : Endpoint → Stage.Operation → Prop
  | createActor => fun op => ∃ number draft, op = .add number draft
  | editActor id => fun op => ∃ edit, op = .update (.str id) edit
  | deleteActor id => fun op => op = .remove (.str id)
  | replaceScript id => fun op => ∃ script, op = .replaceScript (.str id) script
  | start | stop | reset | tick | collisions => Stage.Operation.Timed
  | _ => fun _ => False

/-- The request takes an actor off the stage, if it is there. -/
def Request.Deletes (r : Request) (k : String) : Prop :=
  destination r.method (Path.decode r.path) = .endpoint (.deleteActor k) ∧ r.busy = false

namespace Endpoint.Uses

variable {e : Endpoint} {op : Stage.Operation} {k : String}

theorem about (h : e.Uses op) (hid : e.actorId? = some k) : op.About k := by
  cases e with
  | editActor id =>
    cases hid
    obtain ⟨edit, rfl⟩ := h
    rfl
  | deleteActor id =>
    cases hid
    obtain rfl := h
    rfl
  | replaceScript id =>
    cases hid
    obtain ⟨script, rfl⟩ := h
    rfl
  | readActor | readScript | readPose => exact h.elim
  | _ => cases hid

theorem spares (h : e.Uses op) (hk : e ≠ .deleteActor k) : op.Spares k := by
  cases e with
  | createActor =>
    obtain ⟨number, draft, rfl⟩ := h
    trivial
  | editActor id =>
    obtain ⟨edit, rfl⟩ := h
    trivial
  | deleteActor id =>
    obtain rfl := h
    intro hkey
    cases (Value.key?_str id).symm.trans hkey
    exact hk rfl
  | replaceScript id =>
    obtain ⟨script, rfl⟩ := h
    trivial
  | start | stop | reset | tick | collisions => exact Stage.Operation.Timed.spares h k
  | _ => exact h.elim

end Endpoint.Uses

namespace Server

variable {s t : Server} {busy : Bool} {body : Body} {k : String}

/-! ### Checks and the lock -/

theorem locked_cases (s : Server) (busy : Bool) (act : Reply × Server) :
    s.locked busy act = act ∨ ∃ reply, reply.status ≠ 200 ∧ s.locked busy act = (reply, s) := by
  cases busy with
  | false => exact .inl locked_free
  | true => exact .inr ⟨_, show (503 : Nat) ≠ 200 by decide, locked_busy⟩

theorem withBody_cases (s : Server) (form : List Field) (body : Body)
    (act : Value → Reply × Server) :
    (∃ v, s.withBody form body act = act v) ∨
    ∃ reply, reply.status ≠ 200 ∧ s.withBody form body act = (reply, s) := by
  unfold withBody
  split
  · exact .inl ⟨_, rfl⟩
  · exact .inr ⟨_, show (422 : Nat) ≠ 200 by decide, rfl⟩
  · exact .inr ⟨_, show (400 : Nat) ≠ 200 by decide, rfl⟩

theorem withScript_cases (s : Server) (v : Value) (act : Script → Ids → Reply × Server) :
    (∃ script ids, s.withScript v act = act script ids) ∨
    ∃ reply, reply.status ≠ 200 ∧ s.withScript v act = (reply, s) := by
  unfold withScript
  split
  · exact .inl ⟨_, _, rfl⟩
  · exact .inr ⟨_, show (422 : Nat) ≠ 200 by decide, rfl⟩

section Leads

variable {allowed : Stage.Operation → Prop}

theorem locked_leads {act : Reply × Server} (h : s.stage.Leads allowed act.2.stage) :
    s.stage.Leads allowed (s.locked busy act).2.stage := by
  rcases s.locked_cases busy act with hact | ⟨reply, -, hact⟩ <;> rw [hact]
  · exact h
  · exact .refl _

theorem withBody_leads {form : List Field} {act : Value → Reply × Server}
    (h : ∀ v, s.stage.Leads allowed (act v).2.stage) :
    s.stage.Leads allowed (s.withBody form body act).2.stage := by
  rcases s.withBody_cases form body act with ⟨v, hact⟩ | ⟨reply, -, hact⟩ <;> rw [hact]
  · exact h v
  · exact .refl _

theorem withScript_leads {v : Value} {act : Script → Ids → Reply × Server}
    (h : ∀ script ids, s.stage.Leads allowed (act script ids).2.stage) :
    s.stage.Leads allowed (s.withScript v act).2.stage := by
  rcases s.withScript_cases v act with ⟨script, ids, hact⟩ | ⟨reply, -, hact⟩ <;> rw [hact]
  · exact h script ids
  · exact .refl _

end Leads

/-! ### Endpoints -/

theorem createActor_leads :
    s.stage.Leads Endpoint.createActor.Uses (s.createActor busy body).2.stage := by
  refine withBody_leads fun v => withScript_leads fun script ids => locked_leads ?_
  obtain ⟨number, -, hstage⟩ := add_eq { s with ids } (draftIn v script)
  have hleads : s.stage.Leads Endpoint.createActor.Uses
      (add { s with ids } (draftIn v script)).2.stage := by
    rw [hstage]
    exact .perform s.stage (.add number (draftIn v script)) ⟨number, _, rfl⟩
  split <;> rename_i heq <;> rw [heq] at hleads <;> exact hleads

theorem editActor_leads (id : String) :
    s.stage.Leads (Endpoint.editActor id).Uses (s.editActor busy id body).2.stage := by
  refine withBody_leads fun v => locked_leads ?_
  have hleads : s.stage.Leads (Endpoint.editActor id).Uses (s.stage.update (.str id) (editIn v)).2 :=
    .perform s.stage (.update (.str id) (editIn v)) ⟨_, rfl⟩
  split <;> rename_i heq <;> rw [heq] at hleads <;> exact hleads

theorem deleteActor_leads (id : String) :
    s.stage.Leads (Endpoint.deleteActor id).Uses (s.deleteActor busy id).2.stage := by
  refine locked_leads ?_
  have hleads : s.stage.Leads (Endpoint.deleteActor id).Uses (s.stage.remove (.str id)).2 :=
    .perform s.stage (.remove (.str id)) rfl
  split <;> rename_i heq <;> rw [heq] at hleads <;> exact hleads

theorem replaceScript_leads (id : String) :
    s.stage.Leads (Endpoint.replaceScript id).Uses (s.replaceScript busy id body).2.stage := by
  refine withBody_leads fun v => withScript_leads fun script ids => locked_leads ?_
  have hleads : s.stage.Leads (Endpoint.replaceScript id).Uses
      (s.stage.replaceScript (.str id) script).2 :=
    .perform s.stage (.replaceScript (.str id) script) ⟨_, rfl⟩
  split <;> rename_i heq <;> rw [heq] at hleads <;> exact hleads

/-- Each endpoint does to the stage what it may, and nothing else. -/
theorem serve_leads (s : Server) (busy : Bool) (body : Body) (e : Endpoint) :
    s.stage.Leads e.Uses (s.serve busy body e).2.stage := by
  cases e with
  | page | health | catalog | clock => exact .refl _
  | listActors | stageState | poses => exact locked_leads (.refl _)
  | readActor | readScript | readPose => exact locked_leads (by split <;> exact .refl _)
  | createActor => exact createActor_leads
  | editActor id => exact editActor_leads id
  | deleteActor id => exact deleteActor_leads id
  | replaceScript id => exact replaceScript_leads id
  | start =>
    simp only [serve, serve.replied, start]
    split
    · exact .refl _
    · exact locked_leads s.clock.start_drives
  | stop => exact locked_leads (s.clock.stop_drives Clock.patience)
  | reset => exact locked_leads s.clock.reset_drives
  | tick =>
    cases busy with
    | true => exact .refl _
    | false => exact s.clock.tick_drives
  | collisions => exact withBody_leads fun v => locked_leads (s.stage.collideAll_leads (pairsIn v))

theorem mem_keys_respond {r : Request} (hr : ¬r.Deletes k) (hk : k ∈ s.stage.roster.keys) :
    k ∈ (s.respond r).2.stage.roster.keys := by
  unfold respond
  split
  · rename_i e hroute
    by_cases he : e = .deleteActor k
    · subst he
      have hbusy : r.busy = true := by simpa [Request.Deletes, hroute] using hr
      rw [hbusy, serve, serve.replied, deleteActor, locked_busy]
      exact hk
    · exact ((s.serve_leads _ _ e).mono fun op hop => hop.spares he).mem_keys hk
  all_goals exact hk

theorem startup_mem_keys (hk : k ∈ s.stage.roster.keys) : k ∈ s.startup.stage.roster.keys := by
  unfold startup
  split
  · obtain ⟨number, -, hstage⟩ := s.add_eq { name := .str firstName }
    rw [hstage]
    exact Stage.mem_keys_perform trivial hk
  · exact hk

/-! ### Runs -/

/-- An actor stays on the stage through all that may happen, until a request deletes it. -/
theorem Step.mem_keys {allowed : Request → Prop} (hallowed : ∀ r, allowed r → ¬r.Deletes k)
    (h : Step allowed s t) (hk : k ∈ s.stage.roster.keys) : k ∈ t.stage.roster.keys := by
  have driven {c d : Clock} (h : c.Drives d) (hk : k ∈ c.stage.roster.keys) :
      k ∈ d.stage.roster.keys := (h.mono fun op hop => hop.spares k).mem_keys hk
  cases h with
  | startup => exact startup_mem_keys hk
  | shutdown => exact driven (s.clock.stop_drives _) hk
  | request hr => exact mem_keys_respond (hallowed _ hr) hk
  | work w => exact driven (s.clock.step_drives w) hk
  | wake => exact hk

theorem mem_keys_of_run {allowed : Request → Prop} (hallowed : ∀ r, allowed r → ¬r.Deletes k)
    (h : Relation.ReflTransGen (Step allowed) s t) (hk : k ∈ s.stage.roster.keys) :
    k ∈ t.stage.roster.keys := by
  induction h with
  | refl => exact hk
  | tail _ hstep ih => exact hstep.mem_keys hallowed ih

variable {settings : Settings} {allowed : Request → Prop}

theorem Reached.mono {more : Request → Prop} (hmore : ∀ r, allowed r → more r)
    (hs : s.Reached settings allowed) : s.Reached settings more := by
  induction hs with
  | fresh => exact .fresh
  | startup _ ih => exact ih.startup
  | shutdown _ ih => exact ih.shutdown
  | request _ hr ih => exact ih.request (hmore _ hr)
  | work w _ ih => exact ih.work w
  | wake _ hw ih => exact ih.wake hw

theorem Reached.step {fewer : Request → Prop} (hfewer : ∀ r, fewer r → allowed r)
    (hs : s.Reached settings allowed) (h : Step fewer s t) : t.Reached settings allowed := by
  cases h with
  | startup => exact hs.startup
  | shutdown => exact hs.shutdown
  | request hr => exact hs.request (hfewer _ hr)
  | work w => exact hs.work w
  | wake hw => exact hs.wake hw

theorem Reached.run {fewer : Request → Prop} (hfewer : ∀ r, fewer r → allowed r)
    (hs : s.Reached settings allowed) (h : Relation.ReflTransGen (Step fewer) s t) :
    t.Reached settings allowed := by
  induction h with
  | refl => exact hs
  | tail _ hstep ih => exact ih.step hfewer hstep

theorem Reached.history (hs : s.Reached settings allowed) : ∃ h : History, s.stage = h.stage := by
  induction hs with
  | fresh => exact ⟨[], rfl⟩
  | @startup s _ ih => exact History.of_leads s.startup_leads ih
  | @shutdown s _ ih => exact History.of_leads (s.clock.stop_drives _) ih
  | @request s r _ _ ih =>
    unfold respond
    split
    · exact History.of_leads (s.serve_leads _ _ _) ih
    all_goals exact ih
  | @work s w _ ih => exact History.of_leads (s.clock.step_drives w) ih
  | wake _ _ ih => exact ih

end Server

end SpriteStage.Api
