import SpriteStage.Api.Run
import SpriteStage.Proofs.Api.Bodies
import SpriteStage.Proofs.Clock.Stages

/-!
# Refused requests change nothing

An endpoint checks a request before it changes anything: whenever its reply is a refusal, the server
is as it was. A reply that cannot be sent is a refusal too, in the eyes of the client. There is none
after a change: what the server holds came in valid text, so every reply that tells of a change can
be sent.
-/

namespace SpriteStage

theorem Stage.Operation.Timed.sendable {op : Stage.Operation} (h : op.Timed) : op.Sendable := by
  cases op <;> trivial

namespace Api

/-- A request whose body came in valid text. -/
def Request.IsWhole (r : Request) : Prop := ∀ v, r.body = .document v → v.IsWhole

/-! ### What endpoints do -/

/-- What an endpoint does: it leaves the server as it was, or it says that it was done. It changes
the stage by operations that bring nothing that cannot be sent, and if all of the stage can be sent,
then so can a reply after a change. The last two hold if the request came in valid text. -/
structure Settles (s : Server) (whole : Prop) (act : Reply × Server) : Prop where
  done : act.2 = s ∨ act.1.status = 200
  leads : whole → s.stage.Leads Stage.Operation.Sendable act.2.stage
  told : whole → s.stage.Sendable → act.2 = s ∨ act.1.body.Sendable

namespace Settles

variable {s : Server} {whole : Prop}

theorem unchanged (r : Reply) : Settles s whole (r, s) :=
  ⟨.inl rfl, fun _ => .refl _, fun _ _ => .inl rfl⟩

theorem locked {busy : Bool} {act : Reply × Server} (h : Settles s whole act) :
    Settles s whole (s.locked busy act) := by
  unfold Server.locked
  split
  · exact h
  · exact unchanged _

theorem withBody {form : List Field} {body : Body} {act : Value → Reply × Server}
    (h : ∀ v, body = .document v → (∀ f ∈ form, f.faults .body v = []) → Settles s whole (act v)) :
    Settles s whole (s.withBody form body act) := by
  unfold Server.withBody
  split
  · rename_i v hv
    obtain ⟨hbody, hfaults⟩ := Body.read_eq_ok hv
    exact h v hbody hfaults
  · exact unchanged _
  · exact unchanged _

theorem withScript {v : Value} (hv : whole → v.IsWhole) {act : Script → Ids → Reply × Server}
    (h : ∀ script ids, (whole → script.Sendable) → Settles s whole (act script ids)) :
    Settles s whole (s.withScript v act) := by
  unfold Server.withScript
  split
  · rename_i script ids hparse
    exact h script ids fun hwhole => (Script.describeAll_of_parse hparse).1.sendable
      fun w hw => isWhole_of_mem_listIn (hv hwhole) hw
  · exact unchanged _

theorem ok {t : Server} {fields : List (String × Value)}
    (hleads : whole → s.stage.Leads Stage.Operation.Sendable t.stage)
    (hfields : whole → s.stage.Sendable → t.stage.Sendable → ∀ f ∈ fields, f.2.Sendable) :
    Settles s whole (.ok fields, t) where
  done := .inr rfl
  leads := hleads
  told hwhole hs := .inr <| Value.sendable_object.2 <| hfields hwhole hs <|
    (hleads hwhole).keeps (fun _ _ hop h => h.perform hop) hs

theorem timed {c : Clock} {fields : List (String × Value)} (hdrives : s.clock.Drives c)
    (hfields : s.stage.Sendable → c.stage.Sendable → ∀ f ∈ fields, f.2.Sendable) :
    Settles s whole (.ok fields, { s with clock := c }) :=
  ok (fun _ => hdrives.mono fun _ => Stage.Operation.Timed.sendable) fun _ => hfields

end Settles

namespace Server

variable {s : Server} {whole : Prop} {busy : Bool} {id : String} {body : Body}

@[simp] theorem stage_withStage (t : Stage) : (s.withStage t).stage = t := rfl

/-! ### Requests about actors -/

/-- The server puts a new actor on the stage under some number. -/
theorem add_eq (s : Server) (d : Draft) : ∃ number,
    (s.add d).1.toOption = s.stage.entrant? (.add number d) ∧
    (s.add d).2.stage = s.stage.perform (.add number d) := by
  have hadd (fresh : String) (ids : Ids) (number : Nat)
      (h : s.stage.add fresh d = s.stage.add (Ids.label "sprite" number) d)
      (heq : (if d.needsId then s.ids.sprite else ("", s.ids)) = (fresh, ids)) :
      (s.add d).1.toOption = s.stage.entrant? (.add number d) ∧
      (s.add d).2.stage = s.stage.perform (.add number d) := by
    rw [Stage.entrant?, Stage.perform, ← h]
    unfold Server.add
    rw [heq]
    dsimp only
    split <;> rename_i hstage <;> rw [hstage] <;> exact ⟨rfl, rfl⟩
  cases hd : d.needsId with
  | true => exact ⟨s.ids.sprites + 1, hadd _ _ _ rfl (if_pos hd)⟩
  | false =>
    -- a draft with an identifier needs no number, so any will do
    exact ⟨0, hadd _ _ _ (by rw [Stage.add, Draft.idOr?_of_needsId hd, Stage.add])
      (if_neg (by simp [hd]))⟩

theorem sendable_actorForm {t : Stage} {a : Actor} (h : t.Sendable) (ha : a.Sendable) :
    (actorForm t a).Sendable := h.actorForm ha

theorem sendable_blocksForm {script : Script} (h : script.Sendable) :
    (blocksForm script).Sendable := by
  obtain ⟨forms, hforms, hsend⟩ := h.forms
  rw [blocksForm, hforms]
  exact Value.sendable_list.2 hsend

theorem listActors_settles : Settles s whole (s.listActors busy) := .locked (.unchanged _)

theorem createActor_settles (hbody : whole → ∀ v, body = .document v → v.IsWhole) :
    Settles s whole (s.createActor busy body) := by
  refine .withBody fun v hv _ => .withScript (fun h => hbody h v hv) fun script ids hscript =>
    .locked ?_
  obtain ⟨number, hentrant, hstage⟩ := add_eq { s with ids } (draftIn v script)
  cases h : add { s with ids } (draftIn v script) with
  | mk r t =>
    rw [h] at hentrant hstage
    rcases s.stage.add_cases number (draftIn v script) with
      ⟨hnone, hsame⟩ | ⟨a, ha, -, hactor, -⟩
    · cases r with
      | ok a => cases hentrant.trans hnone
      | error e =>
        have hsame : t.stage = s.stage := hstage.trans hsame
        dsimp only
        rw [hsame]
        exact .unchanged _
    · cases r with
      | error e => cases hentrant.trans ha
      | ok b =>
        cases hentrant.trans ha
        have hdraft (hw : whole) := sendable_draftIn v (hscript hw)
        refine .ok (fun hw => ?_) fun hw _ ht => ?_
        · rw [hstage]
          exact .perform s.stage _ (hdraft hw)
        · simpa using sendable_actorForm ht ((hdraft hw).actor hactor)

theorem readActor_settles : Settles s whole (s.readActor busy id) :=
  .locked (by split <;> exact .unchanged _)

theorem editActor_settles : Settles s whole (s.editActor busy id body) := by
  refine .withBody fun v _ hform => .locked ?_
  have hedit := sendable_editIn hform
  rcases s.stage.actor?_cases (.str id) with hnone | ⟨key, a, hkey, ha⟩
  · rw [Stage.update, Stage.find_none _ hnone]
    exact .unchanged _
  · -- the form has no value that the stage refuses, so the edit is carried out in full
    obtain ⟨hfull, hsend⟩ := hedit.apply a
    have h : s.stage.update (.str id) (editIn v) =
        (.ok ((editIn v).apply a).1, s.stage.perform (.update (.str id) (editIn v))) := by
      rw [Stage.perform, Stage.update_of_key? _ hkey ha, hfull]
    rw [h]
    refine .ok (fun _ => .perform s.stage (.update (.str id) (editIn v)) hedit) fun _ hs ht => ?_
    simpa using sendable_actorForm ht (hsend (hs.actors key a ha))

theorem deleteActor_settles : Settles s whole (s.deleteActor busy id) := by
  refine .locked ?_
  have hleads : s.stage.Leads Stage.Operation.Sendable (s.stage.remove (.str id)).2 :=
    .perform _ (.remove _) trivial
  rcases s.stage.remove_cases (.str id) with ⟨hnone, hne, h⟩ | ⟨_, a, -, -, h⟩
  · rw [Stage.remove, Stage.find_none _ hnone, Value.text?_str]
    exact .unchanged _
  · rw [h] at hleads ⊢
    exact .ok (fun _ => hleads) fun _ _ _ => by simp

theorem readScript_settles : Settles s whole (s.readScript busy id) :=
  .locked (by split <;> exact .unchanged _)

theorem replaceScript_settles (hbody : whole → ∀ v, body = .document v → v.IsWhole) :
    Settles s whole (s.replaceScript busy id body) := by
  refine .withBody fun v hv _ => .withScript (fun h => hbody h v hv) fun script ids hscript =>
    .locked ?_
  have hleads (hw : whole) :
      s.stage.Leads Stage.Operation.Sendable (s.stage.replaceScript (.str id) script).2 :=
    .perform _ (.replaceScript _ script) (hscript hw)
  rcases s.stage.replaceScript_cases (.str id) script with ⟨-, _, h⟩ | ⟨_, a, -, -, h⟩ <;>
    rw [h] at hleads ⊢
  · exact .unchanged _
  · exact .ok hleads fun hw _ _ => by simpa using sendable_blocksForm (hscript hw)

theorem readPose_settles : Settles s whole (s.readPose busy id) :=
  .locked (by split <;> exact .unchanged _)

/-! ### Requests about the session -/

@[simp] theorem sendable_clockForm (c : Clock) : (clockForm c).Sendable := Clock.sendable_form

@[simp] theorem sendable_outlineForm (c : Clock) : (outlineForm c).Sendable :=
  Clock.sendable_outline

theorem sendable_stageForm {t : Stage} (h : t.Sendable) : (stageForm t).Sendable := h.form?

theorem stageState_settles : Settles s whole (s.stageState busy) := .locked (.unchanged _)

theorem poses_settles : Settles s whole (s.poses busy) := .locked (.unchanged _)

theorem start_settles : Settles s whole (s.start busy) := by
  unfold Server.start
  split
  · exact .unchanged _
  · exact .locked (.timed s.clock.start_drives fun _ _ => by simp)

theorem stop_settles : Settles s whole (s.stop busy) :=
  .locked (.timed (s.clock.stop_drives Clock.patience) fun _ _ => by simp)

theorem reset_settles : Settles s whole (s.reset busy) :=
  .locked (.timed s.clock.reset_drives fun _ h => by simpa using sendable_stageForm h)

theorem sendable_tick (h : s.stage.Sendable) : s.tick.1.body.Sendable := by
  refine Value.sendable_object.2 ?_
  refine List.forall_mem_cons.2 ⟨rfl, List.forall_mem_cons.2 ⟨rfl, List.forall_mem_singleton.2 ?_⟩⟩
  refine Value.sendable_ofOption fun v hv => ?_
  obtain ⟨t, ht, rfl⟩ := Option.map_eq_some_iff.1 hv
  exact Clock.sendable_of_tick h ht

theorem tick_settles : Settles s whole s.tick :=
  .timed s.clock.tick_drives fun h _ => Value.sendable_object.1 (sendable_tick h)

theorem collisions_settles (hbody : whole → ∀ v, body = .document v → v.IsWhole) :
    Settles s whole (s.collisions busy body) := by
  refine .withBody fun v hv hform => .locked ?_
  have hleads := (s.stage.collideAll_leads (pairsIn v)).mono fun _ => Stage.Operation.Timed.sendable
  refine .ok (fun _ => hleads) fun hw _ _ => ?_
  have hresults : ∀ w ∈ List.zipWith outcomeForm (pairsIn v) (s.stage.collideAll (pairsIn v)).1,
      w.Sendable := by
    intro w h
    rw [← List.map_uncurry_zip_eq_zipWith] at h
    obtain ⟨e, he, rfl⟩ := List.mem_map.1 h
    have hpair := sendable_of_mem_pairsIn (hbody hw v hv) hform (List.of_mem_zip he).1
    simpa [Function.uncurry, outcomeForm] using hpair
  simpa using hresults

theorem clockState_settles : Settles s whole s.clockState := .unchanged _

/-! ### All requests -/

/-- What comes of a request to an endpoint: nothing changes, or it is what the endpoint replied. -/
theorem serve_cases (hbody : whole → ∀ v, body = .document v → v.IsWhole) (e : Endpoint) :
    (s.serve busy body e).2 = s ∨
    ∃ act, Settles s whole act ∧ s.serve busy body e = (act.1.outcome, act.2) := by
  cases e with
  | page | health | catalog => exact .inl rfl
  | listActors => exact .inr ⟨_, listActors_settles, rfl⟩
  | createActor => exact .inr ⟨_, createActor_settles hbody, rfl⟩
  | readActor id => exact .inr ⟨_, readActor_settles, rfl⟩
  | editActor id => exact .inr ⟨_, editActor_settles, rfl⟩
  | deleteActor id => exact .inr ⟨_, deleteActor_settles, rfl⟩
  | readScript id => exact .inr ⟨_, readScript_settles, rfl⟩
  | replaceScript id => exact .inr ⟨_, replaceScript_settles hbody, rfl⟩
  | readPose id => exact .inr ⟨_, readPose_settles, rfl⟩
  | stageState => exact .inr ⟨_, stageState_settles, rfl⟩
  | poses => exact .inr ⟨_, poses_settles, rfl⟩
  | start => exact .inr ⟨_, start_settles, rfl⟩
  | stop => exact .inr ⟨_, stop_settles, rfl⟩
  | reset => exact .inr ⟨_, reset_settles, rfl⟩
  | tick =>
    cases busy with
    | true => exact .inl rfl
    | false => exact .inr ⟨_, tick_settles, rfl⟩
  | collisions => exact .inr ⟨_, collisions_settles hbody, rfl⟩
  | clock => exact .inr ⟨_, clockState_settles, rfl⟩

theorem respond_cases (s : Server) (r : Request) :
    (s.respond r).2 = s ∨
    ∃ act, Settles s r.IsWhole act ∧ s.respond r = (act.1.outcome, act.2) := by
  unfold respond
  split
  · exact serve_cases (fun h => h) _
  all_goals exact .inl rfl

theorem respond_leads (s : Server) {r : Request} (hr : r.IsWhole) :
    s.stage.Leads Stage.Operation.Sendable (s.respond r).2.stage := by
  rcases s.respond_cases r with h | ⟨act, hact, h⟩ <;> rw [h]
  · exact .refl _
  · exact hact.leads hr

end Server

/-! ### Runs -/

theorem Server.startup_leads (s : Server) :
    s.stage.Leads Stage.Operation.Sendable s.startup.stage := by
  unfold startup
  split
  · have hdraft : ({ name := .str firstName } : Draft).Sendable :=
      ⟨.inr ⟨_, rfl, by decide⟩, .inr ⟨_, rfl, by decide⟩, List.forall_mem_nil _⟩
    obtain ⟨number, -, hstage⟩ := s.add_eq { name := .str firstName }
    rw [hstage]
    exact .perform s.stage _ hdraft
  · exact .refl _

/-- As long as requests come in valid text, the stage can be sent. -/
theorem Server.Reached.sendable {settings : Settings} {s : Server}
    (h : Server.Reached settings Request.IsWhole s) : s.stage.Sendable := by
  have keeps {s t : Stage} (h : s.Leads Stage.Operation.Sendable t) (hs : s.Sendable) :
      t.Sendable := h.keeps (fun _ _ hop hs => hs.perform hop) hs
  have drives {c d : Clock} (h : c.Drives d) (hc : c.stage.Sendable) : d.stage.Sendable :=
    keeps (h.mono fun _ => Stage.Operation.Timed.sendable) hc
  induction h with
  | fresh => exact .empty
  | @startup s _ ih => exact keeps s.startup_leads ih
  | @shutdown s _ ih => exact drives (s.clock.stop_drives _) ih
  | @request s r _ hr ih => exact keeps (s.respond_leads hr) ih
  | @work s w _ ih => exact drives (s.clock.step_drives w) ih
  | wake _ _ ih => exact ih

theorem Reply.outcome_eq_reply {r reply : Reply} (h : r.outcome = .reply reply) : r = reply := by
  unfold Reply.outcome at h
  split at h <;> cases h
  rfl

theorem Reply.status?_outcome (r : Reply) :
    r.outcome.status? = some r.status ∨ ¬r.body.Sendable := by
  unfold Reply.outcome
  split
  · rename_i flaw h
    exact .inr fun hsend => by cases h.symm.trans hsend
  · exact .inl rfl

/-- A request that is refused by a reply leaves the server as it was, whatever the server and the
request are. If all requests come in valid text, then so does one that the server fails at. -/
theorem refusal_law (settings : Settings) (s : Server) (r : Request) :
    (∀ reply, (s.respond r).1 = .reply reply → reply.isRefusal = true → (s.respond r).2 = s) ∧
    (s.Reached settings Request.IsWhole → r.IsWhole →
      ∀ status, (s.respond r).1.status? = some status → 400 ≤ status → (s.respond r).2 = s) := by
  rcases s.respond_cases r with h | ⟨act, hact, h⟩
  · exact ⟨fun _ _ _ => h, fun _ _ _ _ _ => h⟩
  · rw [h]
    -- a reply that something was done has another status
    have hrefused (hstatus : 400 ≤ act.1.status) : act.2 = s :=
      hact.done.resolve_right fun hok => by omega
    constructor
    · intro reply hreply
      cases Reply.outcome_eq_reply hreply
      exact fun h => hrefused (of_decide_eq_true h)
    · intro hs hr status hstatus hfailed
      rcases Reply.status?_outcome act.1 with hsent | hunsent
      · cases hstatus.symm.trans hsent
        exact hrefused hfailed
      · exact (hact.told hr hs.sendable).resolve_right hunsent

/-- While the session runs, someone asks for a second actor with the identifier of the first. -/
theorem unchanged_of_second :
    let start : Request := { method := "POST", path := "/api/v1/stage/start" }
    let s := ((Server.startup {}).respond start).2
    let body : Value := .object [("actor_id", .str "sprite-000000000001")]
    let second : Request := { method := "POST", path := "/api/v1/actors", body := .document body }
    s.Reached {} Request.IsWhole ∧ second.IsWhole ∧
      (s.respond second).1.status? = some 409 ∧ (s.respond second).2 = s := by
  intro start s body second
  have hreached : s.Reached {} Request.IsWhole := .request (.startup .fresh) nofun
  have hwhole : second.IsWhole := by
    rintro v ⟨⟩
    rfl
  have hstatus : (s.respond second).1.status? = some 409 := by decide +kernel
  exact ⟨hreached, hwhole, hstatus,
    (refusal_law {} s second).2 hreached hwhole 409 hstatus (by decide)⟩

end Api

end SpriteStage
