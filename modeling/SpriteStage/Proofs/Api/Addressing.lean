import SpriteStage.Proofs.Api.Endpoints

/-!
# Actors at their addresses

What was put on the stage under an identifier is found at the address of the identifier until it is
deleted there. The endpoints at the address show and change that actor, and leave all else alone.
Only an identifier with a slash has no address: it may be taken, but no path leads to it.
-/

namespace SpriteStage.Api

open Text

/-- A request for a path, while no one else holds the lock. -/
structure Request.Asks (r : Request) (method path : String) : Prop where
  method : r.method = method
  path : Path.decode r.path = path
  free : r.busy = false

/-- The identifier of the actor that a reply says was created. -/
def Outcome.created? : Outcome → Option String
  | .reply r =>
    match r.status, (r.body.field "actor").field "actor_id" with
    | 200, .str id => some id
    | _, _ => none
  | _ => none

/-- An actor on the stage is found at its address: there it is shown, with its script and its pose,
it takes changes and scripts that are accepted, and it can be deleted. No request to the address
touches anything else. -/
structure Server.Addressable (s : Server) (a : Actor) : Prop where
  shown : (actorForm s.stage a).field "actor_id" = .str a.id
  read : ∀ r : Request, r.Asks "GET" (actorAddress a.id) →
    s.respond r = (.reply (.ok [("actor", actorForm s.stage a)]), s)
  script : ∀ r : Request, r.Asks "GET" (partAddress a.id "script") →
    s.respond r = (.reply (.ok [("actor_id", .str a.id), ("running", .bool s.stage.running),
      ("script", blocksForm a.script),
      ("original_script",
        .ofOption ((s.stage.snapshotScript? (.str a.id)).map blocksForm))]), s)
  pose : ∀ r : Request, r.Asks "GET" (partAddress a.id "pose") →
    ∃ p, s.stage.poses.get? a.id = some p ∧
      s.respond r = (.reply (.ok [("actor_id", .str a.id), ("tick", .ofNat s.stage.ticks),
        ("pose", p.form)]), s)
  edit : ∀ (r : Request) (v : Value), r.Asks "PATCH" (actorAddress a.id) →
    r.body.read editForm = .ok v →
    ∃ t, s.respond r = (.reply (.ok [("ok", .bool true),
        ("actor", actorForm t.stage ((editIn v).apply a).1)]), t) ∧
      t.stage.roster.get? a.id = some ((editIn v).apply a).1
  replace : ∀ (r : Request) (v : Value) (p : Script × Ids),
    r.Asks "PUT" (partAddress a.id "script") → r.IsWhole → r.body.read scriptForm = .ok v →
    Script.parse (listIn v "script") s.ids = .ok p →
    ∃ t, s.respond r = (.reply (.ok [("ok", .bool true), ("actor_id", .str a.id),
        ("script", blocksForm p.1)]), t) ∧
      t.stage.roster.get? a.id = some { a with script := p.1 }
  delete : ∀ r : Request, r.Asks "DELETE" (actorAddress a.id) →
    ∃ t, s.respond r = (.reply (.ok [("ok", .bool true), ("actor_id", .str a.id)]), t) ∧
      t.stage.roster.get? a.id = none
  others : ∀ r : Request, Path.decode r.path ∈
      [actorAddress a.id, partAddress a.id "script", partAddress a.id "pose"] →
    s.stage.SameBut a.id (s.respond r).2.stage

/-! ### What is written of an actor -/

/-- The object that describes an actor names its identifier, unless there is no such object. -/
theorem Server.field_actorForm (s : Stage) (a : Actor) :
    (actorForm s a).field "actor_id" = .str a.id ∨ actorForm s a = .null := by
  unfold actorForm Actor.formWith? Actor.fields?
  cases a.script.forms? with
  | none => exact .inr rfl
  | some forms => exact .inl rfl

theorem Server.shown_of_sendable (s : Stage) {a : Actor} (h : a.Sendable) :
    (actorForm s a).field "actor_id" = .str a.id := by
  obtain ⟨forms, hforms, -⟩ := h.script.forms
  simp only [actorForm, Actor.formWith?, Actor.fields?, hforms]
  rfl

theorem Reply.of_created {r : Reply} {i : String} (h : r.outcome.created? = some i) :
    r.status = 200 ∧ (r.body.field "actor").field "actor_id" = .str i := by
  unfold Reply.outcome at h
  split at h
  · cases h
  · unfold Outcome.created? at h
    dsimp only at h
    split at h
    · rename_i hstatus hid
      cases h
      exact ⟨hstatus, hid⟩
    · cases h

/-! ### Paths that lead to an actor -/

variable {s t : Server} {r : Request} {a : Actor} {id i method path : String} {e : Endpoint}

theorem actorId?_of_candidates (h : ∀ c ∈ candidates path, c.2.actorId? = some id)
    (he : destination method path = .endpoint e) : e.actorId? = some id := by
  unfold destination at he
  dsimp only at he
  split at he
  · rename_i c hc
    cases he
    exact h c (List.mem_of_find?_eq_some hc)
  · split_ifs at he

theorem actorId?_of_address (h : Carried id)
    (hpath : path ∈ [actorAddress id, partAddress id "script", partAddress id "pose"])
    (he : destination method path = .endpoint e) : e.actorId? = some id := by
  refine actorId?_of_candidates ?_ he
  simp only [List.mem_cons, List.not_mem_nil, or_false] at hpath
  rcases hpath with rfl | rfl | rfl
  · simp [candidates_actorAddress h, Endpoint.actorId?]
  · simp [candidates_script h, Endpoint.actorId?]
  · simp [candidates_pose h, Endpoint.actorId?]

theorem destination_actorAddress (h : Carried id) :
    destination "GET" (actorAddress id) = .endpoint (.readActor id) ∧
    destination "PATCH" (actorAddress id) = .endpoint (.editActor id) ∧
    destination "DELETE" (actorAddress id) = .endpoint (.deleteActor id) := by
  simp [destination, candidates_actorAddress h]

theorem destination_script (h : Carried id) :
    destination "GET" (partAddress id "script") = .endpoint (.readScript id) ∧
    destination "PUT" (partAddress id "script") = .endpoint (.replaceScript id) := by
  simp [destination, candidates_script h]

theorem destination_pose (h : Carried id) :
    destination "GET" (partAddress id "pose") = .endpoint (.readPose id) := by
  simp [destination, candidates_pose h]

theorem decode_actorAddress (id : String) :
    Path.decode ("/api/v1/actors/" ++ Path.encode id) = actorAddress id := by
  rw [← String.append_empty (s := _ ++ _), Path.decode_encode (by decide) (by decide),
    String.append_empty, actorAddress]

theorem decode_partAddress {part : String} (h : '%' ∉ part.toList) (id : String) :
    Path.decode ("/api/v1/actors/" ++ Path.encode id ++ "/" ++ part) = partAddress id part := by
  have hpart : '%' ∉ ("/" ++ part).toList := by simpa using h
  rw [String.append_assoc, Path.decode_encode (by decide) hpart, partAddress, actorAddress,
    ← String.append_assoc]

namespace Server

theorem respond_of_asks (hr : r.Asks method path) (he : destination method path = .endpoint e) :
    s.respond r = s.serve false r.body e := by
  rw [respond, hr.method, hr.path, he, hr.free]

/-- A request for an address leaves all but the actor alone. -/
theorem sameBut_respond (hs : ∃ h : History, s.stage = h.stage) (hid : Carried id)
    (hpath : Path.decode r.path ∈
      [actorAddress id, partAddress id "script", partAddress id "pose"]) :
    s.stage.SameBut id (s.respond r).2.stage := by
  unfold respond
  split
  · rename_i e he
    obtain ⟨past, hpast⟩ := hs
    have habout := (s.serve_leads r.busy r.body e).mono fun op hop =>
      hop.about (actorId?_of_address hid hpath he)
    rw [hpast] at habout ⊢
    exact History.sameBut_of_leads habout
  all_goals exact .refl _ _

theorem replied_of_sendable {reply : Reply} (h : reply.body.Sendable) :
    serve.replied (reply, s) = (.reply reply, s) := by
  rw [serve.replied, Reply.outcome_of_sendable h]

/-! ### What the endpoints of an actor do -/

section

variable (hs : s.stage.Sendable) (ha : s.stage.roster.get? id = some a)
include hs ha

theorem serve_readActor (body : Body) : s.serve false body (.readActor id) =
    (.reply (.ok [("actor", actorForm s.stage a)]), s) := by
  have hactor := sendable_actorForm hs (hs.actors id a ha)
  rw [serve, readActor, locked_free, Stage.actor?_of_key? _ (Value.key?_str id), ha]
  exact replied_of_sendable (by simpa [Reply.ok] using hactor)

theorem serve_readScript (body : Body) : s.serve false body (.readScript id) =
    (.reply (.ok [("actor_id", .str id), ("running", .bool s.stage.running),
      ("script", blocksForm a.script),
      ("original_script",
        .ofOption ((s.stage.snapshotScript? (.str id)).map blocksForm))]), s) := by
  have hscript := sendable_blocksForm (hs.actors id a ha).script
  have horiginal : (Value.ofOption
      ((s.stage.snapshotScript? (.str id)).map blocksForm)).Sendable := by
    refine Value.sendable_ofOption fun v hv => ?_
    obtain ⟨original, hkept, rfl⟩ := Option.map_eq_some_iff.1 hv
    obtain ⟨scripts, hscripts, hnamed⟩ := Option.bind_eq_some_iff.1 hkept
    obtain ⟨_, -, hscript⟩ := (hs.kept scripts hscripts).named? hnamed
    exact sendable_blocksForm hscript
  rw [serve, readScript, locked_free, Stage.script,
    Stage.find_of_key? _ (Value.key?_str id) ha]
  exact replied_of_sendable (by simpa [Reply.ok] using ⟨hscript, horiginal⟩)

theorem serve_editActor {body : Body} {v : Value} (hv : body.read editForm = .ok v) :
    ∃ t, s.serve false body (.editActor id) = (.reply (.ok [("ok", .bool true),
        ("actor", actorForm t.stage ((editIn v).apply a).1)]), t) ∧
      t.stage.roster.get? id = some ((editIn v).apply a).1 := by
  -- no value in a body is refused, so the edit is carried out in full
  have hedit := sendable_editIn (Body.read_eq_ok hv).2
  obtain ⟨hfull, hedited⟩ := hedit.apply a
  obtain ⟨hupdate, hleft⟩ := Stage.update_present (Value.key?_str id) ha hfull
  have hsend : (s.stage.perform (.update (.str id) (editIn v))).Sendable := hs.perform hedit
  have hactor := sendable_actorForm hsend (hedited (hs.actors id a ha))
  refine ⟨s.withStage _, ?_, hleft⟩
  rw [serve, editActor, withBody_of_read hv, locked_free, hupdate]
  exact replied_of_sendable (by simpa [Reply.ok] using hactor)

omit hs in
theorem serve_replaceScript {body : Body} {v : Value} {p : Script × Ids} (hwhole : v.IsWhole)
    (hv : body.read scriptForm = .ok v) (hp : Script.parse (listIn v "script") s.ids = .ok p) :
    ∃ t, s.serve false body (.replaceScript id) = (.reply (.ok [("ok", .bool true),
        ("actor_id", .str a.id), ("script", blocksForm p.1)]), t) ∧
      t.stage.roster.get? id = some { a with script := p.1 } := by
  have hscript : p.1.Sendable := (Script.describeAll_of_parse hp).1.sendable
    fun w hw => isWhole_of_mem_listIn hwhole hw
  obtain ⟨hreplace, hleft⟩ := Stage.replaceScript_present (Value.key?_str id) ha p.1
  refine ⟨{ s.withStage _ with ids := p.2 }, ?_, hleft⟩
  rw [serve, replaceScript, withBody_of_read hv, withScript_of_parse hp, locked_free, hreplace]
  exact replied_of_sendable (by simpa [Reply.ok] using sendable_blocksForm hscript)

omit hs in
theorem serve_deleteActor (body : Body) :
    ∃ t, s.serve false body (.deleteActor id) =
        (.reply (.ok [("ok", .bool true), ("actor_id", .str id)]), t) ∧
      t.stage.roster.get? id = none := by
  obtain ⟨hremove, hleft⟩ := Stage.remove_present (Value.key?_str id) ha
  refine ⟨s.withStage _, ?_, hleft⟩
  rw [serve, deleteActor, locked_free, hremove]
  exact replied_of_sendable (by simp [Reply.ok])

end

theorem serve_readPose {p : Pose} (hs : s.stage.Sendable) (hp : s.stage.pose? (.str id) = some p)
    (body : Body) : s.serve false body (.readPose id) =
      (.reply (.ok [("actor_id", .str id), ("tick", .ofNat s.stage.ticks), ("pose", p.form)]), s) := by
  obtain ⟨_, -, hpose⟩ := hs.poses.named? hp
  have hpose := hpose.form
  rw [serve, readPose, locked_free, hp]
  exact replied_of_sendable (by simpa [Reply.ok] using hpose)

/-- An actor with an identifier that a path can carry is found at its address. -/
theorem addressable (hs : ∃ h : History, s.stage = h.stage) (hsend : s.stage.Sendable)
    (ha : s.stage.roster.get? a.id = some a) (hslash : '/' ∉ a.id.toList) : s.Addressable a := by
  obtain ⟨past, hpast⟩ := hs
  have hname : IsName a.id := (past.isName_sized _ a (hpast ▸ ha)).1
  have hid : Carried a.id := ⟨hname, hslash⟩
  have hpose : s.stage.pose? (.str a.id) = some (past.posed a.id) := by
    rw [Stage.pose?, Keyed.named?_str, hpast, past.poses_get?, ← hpast, ha]
    rfl
  obtain ⟨hget, hpatch, hdelete⟩ := destination_actorAddress hid
  obtain ⟨hgetScript, hput⟩ := destination_script hid
  have hgetPose := destination_pose hid
  constructor
  case shown => exact shown_of_sendable s.stage (hsend.actors _ _ ha)
  case read =>
    intro r hr
    rw [respond_of_asks hr hget, serve_readActor hsend ha]
  case script =>
    intro r hr
    rw [respond_of_asks hr hgetScript, serve_readScript hsend ha]
  case pose =>
    intro r hr
    refine ⟨_, (Keyed.named?_str _ _).symm.trans hpose, ?_⟩
    rw [respond_of_asks hr hgetPose, serve_readPose hsend hpose]
  case edit =>
    intro r v hr hv
    rw [respond_of_asks hr hpatch]
    exact serve_editActor hsend ha hv
  case replace =>
    intro r v p hr hwhole hv hp
    rw [respond_of_asks hr hput]
    exact serve_replaceScript ha (hwhole v (Body.read_eq_ok hv).1) hv hp
  case delete =>
    intro r hr
    rw [respond_of_asks hr hdelete]
    exact serve_deleteActor ha r.body
  case others => exact fun r hr => sameBut_respond ⟨past, hpast⟩ hid hr

/-! ### New actors -/

/-- An actor that the server says it added is on the stage. -/
theorem add_ok {d : Draft} (h : s.add d = (.ok a, t)) : a.id ∈ t.stage.roster.keys := by
  obtain ⟨number, hentrant, hstage⟩ := s.add_eq d
  rw [h] at hentrant hstage
  rcases s.stage.add_cases number d with ⟨hnone, -⟩ | ⟨b, hb, hperform, -⟩
  · cases hentrant.trans hnone
  · cases hentrant.trans hb
    have hput : t.stage.roster = s.stage.roster.put a.id a := by
      rw [show t.stage = s.stage.perform (.add number d) from hstage, hperform]
    rw [hput]
    exact Keyed.mem_keys.2 ⟨a, (Keyed.get?_put ..).trans (if_pos rfl)⟩

/-- A reply that an actor was created shows an actor that is on the stage. -/
theorem createActor_cases (s : Server) (busy : Bool) (body : Body) :
    (s.createActor busy body).1.status ≠ 200 ∨
    ∃ a t, s.createActor busy body = (.ok [("ok", .bool true), ("actor", actorForm t.stage a)], t) ∧
      a.id ∈ t.stage.roster.keys := by
  unfold createActor
  rcases s.withBody_cases createForm body _ with ⟨v, h⟩ | ⟨reply, hreply, h⟩ <;> rw [h]
  · rcases s.withScript_cases v _ with ⟨script, ids, h⟩ | ⟨reply, hreply, h⟩ <;> rw [h]
    · rcases s.locked_cases busy _ with h | ⟨reply, hreply, h⟩ <;> rw [h]
      · split
        · rename_i a t hadd
          exact .inr ⟨a, t, rfl, add_ok hadd⟩
        · exact .inl (show (409 : Nat) ≠ 200 by decide)
      · exact .inl hreply
    · exact .inl hreply
  · exact .inl hreply

/-- Who is announced as created is on the stage. -/
theorem mem_keys_of_created
    (hroute : destination r.method (Path.decode r.path) = .endpoint .createActor)
    (hcreated : (s.respond r).1.created? = some i) :
    i ∈ (s.respond r).2.stage.roster.keys := by
  rw [respond, hroute] at hcreated ⊢
  change (s.createActor r.busy r.body).1.outcome.created? = _ at hcreated
  change i ∈ (s.createActor r.busy r.body).2.stage.roster.keys
  obtain ⟨hstatus, hid⟩ := Reply.of_created hcreated
  rcases s.createActor_cases r.busy r.body with h | ⟨a, t, h, ha⟩
  · exact absurd hstatus h
  · rw [h] at hid ⊢
    change (actorForm t.stage a).field "actor_id" = _ at hid
    rcases field_actorForm t.stage a with hshown | hnull
    · cases hshown.symm.trans hid
      exact ha
    · rw [hnull] at hid
      cases hid

end Server

/-- The law of addresses. An actor that a server says it created is on the stage as long as no
request deletes it, whatever else happens. If its identifier has no slash, it is found at its
address, which is read back however it was written with percent signs: if all requests came in valid
text, the endpoints there show, change and delete that actor, and leave all else alone. An
identifier with a slash may be taken all the same, but then no method and no path lead to an
endpoint of it. -/
theorem address_law {settings : Settings} {allowed : Request → Prop} {s t : Server} {r : Request}
    {i : String} (hs : s.Reached settings allowed) (hr : allowed r)
    (hroute : destination r.method (Path.decode r.path) = .endpoint .createActor)
    (hcreated : (s.respond r).1.created? = some i)
    (hrun : Relation.ReflTransGen (Server.Step fun r => allowed r ∧ ¬r.Deletes i)
      (s.respond r).2 t) :
    ∃ a, t.stage.roster.get? i = some a ∧ a.id = i ∧
      ('/' ∉ i.toList →
        Path.decode ("/api/v1/actors/" ++ Path.encode i) = actorAddress i ∧
        (∀ part ∈ ["script", "pose"],
          Path.decode ("/api/v1/actors/" ++ Path.encode i ++ "/" ++ part) = partAddress i part) ∧
        ((∀ r, allowed r → r.IsWhole) → t.Addressable a)) ∧
      ('/' ∈ i.toList → ∀ method path e, destination method path = .endpoint e →
        e.actorId? ≠ some i) := by
  have hreached : t.Reached settings allowed := (hs.request hr).run (fun _ h => h.1) hrun
  have hcame := Server.mem_keys_of_created hroute hcreated
  obtain ⟨a, ha⟩ := Keyed.mem_keys.1 (Server.mem_keys_of_run (fun _ h => h.2) hrun hcame)
  obtain ⟨past, hpast⟩ := hreached.history
  have hown : a.id = i := past.own_id i a (hpast ▸ ha)
  subst hown
  refine ⟨a, ha, rfl, fun hslash => ⟨decode_actorAddress a.id, fun part hpart => ?_,
    fun hwhole => ?_⟩, fun hslash method path e he hid => ?_⟩
  · have hplain : ∀ part ∈ ["script", "pose"], '%' ∉ part.toList := by decide
    exact decode_partAddress (hplain part hpart) a.id
  · exact Server.addressable ⟨past, hpast⟩ (hreached.mono hwhole).sendable ha hslash
  · exact slashless_of_destination he hid hslash

/-- Someone creates an actor, whose identifier has a blank in it, and renames it. -/
theorem address_of_renamed :
    let create : Request :=
      { method := "POST", path := "/api/v1/actors",
        body := .document (.object [("actor_id", .str " sprite one ")]) }
    let rename : Request :=
      { method := "PATCH", path := "/api/v1/actors/sprite%20one",
        body := .document (.object [("name", .str "Star")]) }
    let read : Request := { method := "GET", path := "/api/v1/actors/sprite%20one" }
    let t := ((Server.respond {} create).2.respond rename).2
    ∃ a : Actor, a.id = "sprite one" ∧ a.name = "Star" ∧
      t.respond read = (.reply (.ok [("actor", Server.actorForm t.stage a)]), t) := by
  intro create rename read t
  have hcreate : create.IsWhole := by
    rintro v ⟨⟩
    rfl
  have hrename : rename.IsWhole := by
    rintro v ⟨⟩
    rfl
  have hkeeps : ¬rename.Deletes "sprite one" := by
    rintro ⟨hroute, -⟩
    exact absurd hroute (by decide +kernel)
  have hrun : Relation.ReflTransGen (Server.Step fun r => r.IsWhole ∧ ¬r.Deletes "sprite one")
      (Server.respond {} create).2 t := .single (.request ⟨hrename, hkeeps⟩)
  have hfresh : Server.Reached {} Request.IsWhole {} := .fresh
  obtain ⟨a, ha, hid, hfound, -⟩ :=
    address_law hfresh hcreate (by decide +kernel) (by decide +kernel) hrun
  obtain ⟨-, -, haddress⟩ := hfound (by decide)
  have hname : (t.stage.roster.get? "sprite one").map Actor.name = some "Star" := by
    decide +kernel
  rw [ha] at hname
  refine ⟨a, hid, Option.some.inj hname, (haddress fun _ h => h).read read ⟨rfl, ?_, rfl⟩⟩
  rw [hid]
  decide +kernel

/-- After the creation of `x`, someone creates `x/pose`, and then asks for it: the reply is the pose
of `x`. -/
theorem mistaken_for_part :
    ¬∀ (s t : Server) (r get : Request) (i : String), s.Reached {} Request.IsWhole → r.IsWhole →
      destination r.method (Path.decode r.path) = .endpoint .createActor →
      (s.respond r).1.created? = some i →
      Relation.ReflTransGen (Server.Step fun r => r.IsWhole ∧ ¬r.Deletes i) (s.respond r).2 t →
      get.Asks "GET" (actorAddress i) →
      ∃ a, t.stage.roster.get? i = some a ∧
        t.respond get = (.reply (.ok [("actor", Server.actorForm t.stage a)]), t) := by
  intro h
  let create (id : String) : Request :=
    { method := "POST", path := "/api/v1/actors",
      body := .document (.object [("actor_id", .str id)]) }
  let get : Request := { method := "GET", path := "/api/v1/actors/x%2Fpose" }
  let s := (Server.respond {} (create "x")).2
  let t := (s.respond (create "x/pose")).2
  have hwhole (id : String) : (create id).IsWhole := by
    rintro v ⟨⟩
    rfl
  obtain ⟨a, -, hget⟩ := h s t (create "x/pose") get "x/pose" (.request .fresh (hwhole "x"))
    (hwhole "x/pose") (by decide +kernel) (by decide +kernel) .refl
    ⟨rfl, by decide +kernel, rfl⟩
  have hpose : (match (t.respond get).1 with
      | .reply reply => reply.body.field? "actor_id"
      | _ => none).bind Value.text? = some "x" := by decide +kernel
  rw [hget] at hpose
  change none = some "x" at hpose
  cases hpose

end SpriteStage.Api
