import SpriteStage.Proofs.Api.Refusals
import SpriteStage.Proofs.Lock

/-!
# Requests that find the stage busy

An endpoint that uses the stage checks what the client sent and then waits for the lock, never
longer than the settings say. If someone else holds the lock for all that time, the reply is that
the stage is busy, and nothing has changed. Only a start does not need the lock if the clock runs
already.
-/

namespace SpriteStage.Api

/-- Whether an endpoint looks at the stage or changes it. -/
def Endpoint.usesStage : Endpoint → Bool
  | page | health | catalog | clock => false
  | _ => true

/-- The form of the body that an endpoint wants, if it wants one. -/
def Endpoint.form? : Endpoint → Option (List Field)
  | createActor => some createForm
  | editActor _ => some editForm
  | replaceScript _ => some scriptForm
  | collisions => some reportForm
  | _ => none

/-- Whether an endpoint reads a script out of its body. -/
def Endpoint.takesScript : Endpoint → Bool
  | createActor | replaceScript _ => true
  | _ => false

/-- An endpoint finds no fault with a body: it has no fault of form, and the blocks of the script in
it, if the endpoint takes one, are read. -/
def Endpoint.Accepts (e : Endpoint) (ids : Ids) (body : Body) : Prop :=
  ∀ form, e.form? = some form → ∃ v, body.read form = .ok v ∧
    (e.takesScript = true → ∃ p, Script.parse (listIn v "script") ids = .ok p)

def Reply.busy (seconds : Float) : Reply where
  status := 503
  body := detail (.str (Lock.busyMessage seconds))
  retryAfter := some 1

theorem Reply.outcome_of_sendable {r : Reply} (h : r.body.Sendable) : r.outcome = .reply r := by
  have hflaw : Json.flaw? r.body = none := h
  rw [Reply.outcome, hflaw]

theorem Reply.outcome_busy (seconds : Float) : (busy seconds).outcome = .reply (busy seconds) :=
  outcome_of_sendable (by simp [busy, detail])

namespace Server

variable {s : Server} {busy : Bool} {body : Body} {act : Reply × Server}

theorem locked_free : s.locked false act = act := by
  rw [locked, Lock.acquire_null]
  rfl

theorem locked_busy : s.locked true act = (.busy s.clock.setup.settings.lockSeconds, s) := by
  rw [locked, Lock.acquire_null]
  rfl

theorem withBody_of_read {form : List Field} {v : Value} {act : Value → Reply × Server}
    (h : body.read form = .ok v) : s.withBody form body act = act v := by
  rw [withBody, h]

theorem withScript_of_parse {v : Value} {p : Script × Ids} {act : Script → Ids → Reply × Server}
    (h : Script.parse (listIn v "script") s.ids = .ok p) : s.withScript v act = act p.1 p.2 := by
  rw [withScript, h]

/-- What an endpoint does on a busy stage, if it finds no fault with the body. -/
theorem serve_busy {e : Endpoint} (hstage : e.usesStage = true) (htick : e ≠ .tick)
    (hbody : e.Accepts s.ids body) : s.serve true body e =
      if e = .start ∧ s.clock.isRunning = true then (.reply (s.startReply false).1, s)
      else (.reply (.busy s.clock.setup.settings.lockSeconds), s) := by
  have given_up (act : Reply × Server) : serve.replied (s.locked true act) =
      (.reply (.busy s.clock.setup.settings.lockSeconds), s) := by
    rw [locked_busy, serve.replied, Reply.outcome_busy]
  cases e with
  | page | health | catalog | clock => cases hstage
  | tick => exact absurd rfl htick
  | start =>
    simp only [true_and, serve, start]
    split
    · rw [startReply, serve.replied, Reply.outcome_of_sendable]
      simp [Reply.ok]
    · exact given_up _
  | createActor =>
    obtain ⟨v, hv, hscript⟩ := hbody _ rfl
    obtain ⟨p, hp⟩ := hscript rfl
    rw [if_neg nofun, serve, createActor, withBody_of_read hv, withScript_of_parse hp, given_up]
  | replaceScript id =>
    obtain ⟨v, hv, hscript⟩ := hbody _ rfl
    obtain ⟨p, hp⟩ := hscript rfl
    rw [if_neg nofun, serve, replaceScript, withBody_of_read hv, withScript_of_parse hp, given_up]
  | editActor id =>
    obtain ⟨v, hv, -⟩ := hbody _ rfl
    rw [if_neg nofun, serve, editActor, withBody_of_read hv, given_up]
  | collisions =>
    obtain ⟨v, hv, -⟩ := hbody _ rfl
    rw [if_neg nofun, serve, collisions, withBody_of_read hv, given_up]
  | _ => exact (given_up _).trans (if_neg nofun).symm

theorem serve_waits {e : Endpoint} (htick : e ≠ .tick) : (s.serve busy body e).1 ≠ .waits := by
  have replied (act : Reply × Server) : (serve.replied act).1 ≠ .waits := by
    unfold serve.replied Reply.outcome
    split <;> nofun
  cases e with
  | page | health | catalog => nofun
  | tick => exact absurd rfl htick
  | _ => exact replied _

end Server

/-- No request waits longer for the lock than the settings say, which is between a hundredth of a
second and a minute, unless it asks for a tick. A request to any other endpoint that uses the stage,
with a body that the endpoint finds no fault with, is told that the stage is busy if someone else
holds the lock for so long, and the server stays as it was. Only a start while the clock runs does
not take the lock: it replies that nothing was started, and nothing changes either. -/
theorem busy_law (s : Server) :
    let seconds := s.clock.setup.settings.lockSeconds
    (0.01 ≤ seconds ∧ seconds ≤ 60.0 ∧
      Lock.acquire s.clock.setup.settings true .null = .error (.busy seconds)) ∧
    (∀ (r : Request) (e : Endpoint), r.busy = true →
      destination r.method (Path.decode r.path) = .endpoint e →
      e.usesStage = true → e ≠ .tick → e.Accepts s.ids r.body →
      s.respond r =
        if e = .start ∧ s.clock.isRunning = true then
          (.reply (.ok [("ok", .bool true), ("started", .bool false),
            ("scheduler", Server.outlineForm s.clock)]), s)
        else
          (.reply ⟨503, Reply.detail (.str (Lock.busyMessage seconds)), some 1, none⟩, s)) ∧
    ∀ r : Request, destination r.method (Path.decode r.path) ≠ .endpoint .tick →
      (s.respond r).1 ≠ .waits := by
  intro seconds
  obtain ⟨hlow, hhigh⟩ := s.clock.setup.settings.lockSeconds_bounds
  refine ⟨⟨hlow, hhigh, Lock.acquire_null _ true⟩, fun r e hbusy hroute hstage htick hbody => ?_,
    fun r htick => ?_⟩
  · rw [Server.respond, hroute, hbusy]
    exact Server.serve_busy hstage htick hbody
  · unfold Server.respond
    split
    · rename_i e hroute
      exact Server.serve_waits fun he => htick (he ▸ hroute)
    all_goals nofun

/-- A client puts a script of one block while someone else holds the lock. -/
theorem busy_of_replacement :
    let move : Value := .object [("type", .str "move"), ("params", .object [("steps", .int 1)])]
    let r : Request :=
      { method := "PUT", path := "/api/v1/actors/sprite%20one/script", busy := true,
        body := .document (.object [("script", .list [move])]) }
    destination r.method (Path.decode r.path) = .endpoint (.replaceScript "sprite one") ∧
    (Endpoint.replaceScript "sprite one").Accepts {} r.body ∧
    Server.respond {} r =
      (.reply ⟨503, Reply.detail (.str "Stage is busy; lock not acquired within 5.00s"), some 1,
        none⟩, {}) := by
  intro move r
  have hroute : destination r.method (Path.decode r.path) =
      .endpoint (.replaceScript "sprite one") := by decide +kernel
  have hbody : (Endpoint.replaceScript "sprite one").Accepts {} r.body := by
    rintro form ⟨⟩
    exact ⟨_, rfl, fun _ => ⟨_, rfl⟩⟩
  have hmessage : Lock.busyMessage (Settings.lockSeconds {}) =
      "Stage is busy; lock not acquired within 5.00s" := by decide +kernel
  refine ⟨hroute, hbody, ?_⟩
  rw [(busy_law {}).2.1 r _ rfl hroute rfl nofun hbody, if_neg nofun, ← hmessage]

/-- Someone asks for a start of a clock that runs while someone else holds the lock, and is not told
that the stage is busy. -/
theorem busy_start_replied :
    ¬∀ (s : Server) (r : Request) (e : Endpoint), r.busy = true →
      destination r.method (Path.decode r.path) = .endpoint e →
      e.usesStage = true → e.Accepts s.ids r.body → (s.respond r).1.status? = some 503 := by
  intro h
  let start : Request := { method := "POST", path := "/api/v1/stage/start" }
  have hbusy := h (Server.respond {} start).2 { start with busy := true } .start rfl
    (by decide +kernel) rfl nofun
  have hreplied : ((Server.respond {} start).2.respond { start with busy := true }).1.status? =
      some 200 := by decide +kernel
  rw [hreplied] at hbusy
  exact absurd hbusy (by decide)

end SpriteStage.Api
