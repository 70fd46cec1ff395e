import SpriteStage.Proofs.Benchmark.Laps

/-!
# The requests of the benchmark

The requests that a run sends are known in advance: the sprites come first, and then each lap has
its tick, its report and, from time to time, the poses. `onStage` is the server after some requests,
and it follows the history that they stand for. No request is refused on the way.
-/

namespace SpriteStage.Benchmark

open SpriteStage.Api

/-! ### Requests -/

def creations (actors : Nat) : List Request := (List.range actors).map createRequest

def tickRequest : Request := plain "POST" "/api/v1/stage/tick"

def posesRequest : Request := plain "GET" "/api/v1/stage/poses"

def stateRequest : Request := plain "GET" "/api/v1/stage/state"

def stopRequest : Request := plain "POST" "/api/v1/stage/stop"

def reports (pairs : List (String × String)) : List Request :=
  if pairs = [] then [] else [reportRequest pairs]

def glances (lap : Nat) : List Request := if lap % poseInterval = 0 then [posesRequest] else []

def lapRequests (actors lap : Nat) : List Request :=
  tickRequest :: (reports (reported (ticked actors lap)) ++ glances lap)

def lapsRequests (actors laps : Nat) : List Request :=
  (List.range laps).flatMap (lapRequests actors)

theorem creations_succ (actors : Nat) :
    creations (actors + 1) = creations actors ++ [createRequest actors] := by
  rw [creations, List.range_succ, List.map_append]
  rfl

theorem lapsRequests_succ (actors laps : Nat) :
    lapsRequests actors (laps + 1) = lapsRequests actors laps ++ lapRequests actors laps := by
  rw [lapsRequests, List.range_succ, List.flatMap_append, List.flatMap_singleton]
  rfl

/-! ### The server -/

def after (s : Server) (requests : List Request) : Server :=
  requests.foldl (fun s r => (exchange s r).2) s

/-- A server that was given some settings and nothing else. -/
def fresh (settings : Settings) : Server := { clock := { setup := { settings } } }

def begun (s : Server) : Server := s.withStage s.stage.start.2

def onStage (settings : Settings) (actors : Nat) (requests : List Request) : Server :=
  after (begun (after (fresh settings) (creations actors))) requests

theorem after_append (s : Server) (first rest : List Request) :
    after s (first ++ rest) = after (after s first) rest := List.foldl_append

theorem after_cons (s : Server) (r : Request) (rest : List Request) :
    after s (r :: rest) = after (exchange s r).2 rest := List.foldl_cons

variable {settings : Settings} {h : History} {s : Server}

theorem hasCast_after {actors : Nat} (hactors : actors ≤ castLimit) :
    HasCast settings actors (after (fresh settings) (creations actors)) := by
  induction actors with
  | zero => exact ⟨⟨rfl, rfl⟩, rfl⟩
  | succ i ih =>
    rw [creations_succ, after_append]
    exact (exchange_create (ih (Nat.le_of_succ_le hactors)) hactors).2

theorem follows_begun {actors : Nat} (hs : HasCast settings actors s) :
    Follows settings (opening actors) (begun s) := by
  refine ⟨hs.setup, ?_⟩
  change s.stage.start.2 = (cast actors).stage.start.2
  rw [hs.stage]

/-! ### Laps -/

theorem respond_tickRequest (s : Server) :
    s.respond tickRequest = (s.tick.1.outcome, s.tick.2) := by
  have hroute : destination "POST" (Path.decode "/api/v1/stage/tick") = .endpoint .tick := by
    decide +kernel
  simp only [Server.respond, tickRequest, plain, hroute]
  rfl

/-- A tick of a session moves the actors and lets nobody collide. -/
theorem exchange_tick (hs : Follows settings h s) (hcollides : settings.collides = false)
    (hsession : InSession h.stage) (hsend : h.stage.Sendable) :
    (exchange s tickRequest).1.status = 200 ∧
      Follows settings (.tick :: h) (exchange s tickRequest).2 := by
  have hstage : s.clock.stage = h.stage := hs.stage
  have hrunning : s.clock.stage.running = true := hstage ▸ hsession.running
  have hplain : s.clock.setup.collides = false := hs.setup ▸ hcollides
  have hlistener : s.clock.setup.listener = none := by rw [hs.setup]
  have hrespond : s.respond tickRequest = (.reply s.tick.1, s.tick.2) := by
    rw [respond_tickRequest, Reply.outcome_of_sendable (Server.sendable_tick (hs.stage ▸ hsend))]
  have hclock : s.tick.2.clock = s.clock.tick.2 := rfl
  rw [exchange_of_reply hrespond]
  refine ⟨rfl, ?_, ?_⟩
  · rw [hclock, Clock.tick_quiet hrunning hplain hlistener]
    exact hs.setup
  · rw [Server.stage, hclock, Clock.tick_quiet hrunning hplain hlistener, hstage]
    rfl

/-- All pairs of a report swap. -/
theorem exchange_report (hs : Follows settings h s) (hsession : InSession h.stage) :
    (exchange s (reportRequest (reported h))).1.status = 200 ∧
      swapsIn (exchange s (reportRequest (reported h))).1 = (reported h).length ∧
      Follows settings (collided (reported h) h) (exchange s (reportRequest (reported h))).2 := by
  have hnames : ∀ p ∈ reported h, Text.IsName p.1 ∧ Text.IsName p.2 := fun p hp =>
    h.isName_of_mem_overlaps (List.mem_of_mem_take hp)
  have hlimit : (reported h).length ≤ pairLimit := by
    rw [length_reported]
    exact Nat.min_le_left _ _
  have hswapped := hsession.swapped
  have hstage := stage_collided (reported h) h
  have hrespond := respond_report s hnames hlimit
  rw [hs.stage] at hrespond
  change s.respond _ = (.reply (.ok [("ok", .bool true),
    ("swapped_count", .ofNat ((h.stage.collideAll (texts (reported h))).1.count true)),
    ("results", _)]), s.withStage (h.stage.collideAll (texts (reported h))).2) at hrespond
  rw [hswapped, List.count_replicate_self, ← hstage] at hrespond
  rw [exchange_of_reply hrespond]
  exact ⟨rfl, rfl, hs.setup, rfl⟩

theorem follows_reports (hs : Follows settings h s) (hsession : InSession h.stage) :
    Follows settings (collided (reported h) h) (after s (reports (reported h))) := by
  by_cases hnone : reported h = []
  · rw [reports, if_pos hnone, hnone]
    exact hs
  · rw [reports, if_neg hnone]
    exact (exchange_report hs hsession).2.2

theorem exchange_poses (hs : Follows settings h s) (hsend : h.stage.Sendable) :
    (exchange s posesRequest).1.status = 200 ∧ (exchange s posesRequest).2 = s := by
  have hroute : destination "GET" (Path.decode "/api/v1/stage/poses") = .endpoint .poses := by
    decide +kernel
  have hreply : (Reply.ok [("count", .ofNat s.stage.poses.size),
      ("poses", Stage.formPoses s.stage.poses)]).body.Sendable := by
    have hposes := Stage.Sendable.formPoses (hs.stage ▸ hsend.poses)
    simp [Reply.ok, hposes]
  have hrespond : s.respond posesRequest = (.reply (.ok [("count", .ofNat s.stage.poses.size),
      ("poses", Stage.formPoses s.stage.poses)]), s) := by
    simp only [Server.respond, posesRequest, plain, hroute, Server.serve, Server.poses,
      Server.locked_free]
    rw [Server.serve.replied, Reply.outcome_of_sendable hreply]
  rw [exchange_of_reply hrespond]
  exact ⟨rfl, rfl⟩

theorem after_glances (hs : Follows settings h s) (hsend : h.stage.Sendable) (lap : Nat) :
    after s (glances lap) = s := by
  rw [glances]
  split
  · exact (exchange_poses hs hsend).2
  · rfl

theorem follows_lap {actors lap : Nat} (hs : Follows settings (course actors lap) s)
    (hcollides : settings.collides = false) :
    Follows settings (course actors (lap + 1)) (after s (lapRequests actors lap)) := by
  have hsession := inSession_course actors lap
  have hticked := (exchange_tick hs hcollides hsession (sendable_course actors lap)).2
  have hreported : Follows settings (course actors (lap + 1))
      (after (exchange s tickRequest).2 (reports (reported (ticked actors lap)))) :=
    follows_reports hticked hsession.tick
  rw [lapRequests, after_cons, after_append,
    after_glances hreported (sendable_course actors (lap + 1))]
  exact hreported

theorem follows_laps {actors : Nat} (hactors : actors ≤ castLimit)
    (hcollides : settings.collides = false) (laps : Nat) :
    Follows settings (course actors laps)
      (onStage settings actors (lapsRequests actors laps)) := by
  induction laps with
  | zero => exact follows_begun (hasCast_after hactors)
  | succ laps ih =>
    rw [lapsRequests_succ, onStage, after_append]
    exact follows_lap ih hcollides

theorem follows_ticked {actors : Nat} (hactors : actors ≤ castLimit)
    (hcollides : settings.collides = false) (lap : Nat) :
    Follows settings (ticked actors lap)
      (onStage settings actors (lapsRequests actors lap ++ [tickRequest])) := by
  rw [onStage, after_append]
  exact (exchange_tick (follows_laps hactors hcollides lap) hcollides
    (inSession_course actors lap) (sendable_course actors lap)).2

/-! ### The end of a run -/

/-- The counters that the server shows. -/
theorem exchange_state (hs : Follows settings h s) (hsend : h.stage.Sendable) :
    ((exchange s stateRequest).1.body.field "state").field "tick" = .ofNat h.stage.ticks ∧
      ((exchange s stateRequest).1.body.field "state").field "collision_count" =
        .ofNat h.stage.collisions := by
  have hroute : destination "GET" (Path.decode "/api/v1/stage/state") = .endpoint .stageState := by
    decide +kernel
  have hreply : (Reply.ok [("ok", .bool true), ("state", Server.stageForm s.stage),
      ("scheduler", Server.clockForm s.clock)]).body.Sendable := by
    have hstage := Server.sendable_stageForm (hs.stage ▸ hsend)
    simp [Reply.ok, hstage]
  have hrespond : s.respond stateRequest = (.reply (.ok [("ok", .bool true),
      ("state", Server.stageForm s.stage), ("scheduler", Server.clockForm s.clock)]), s) := by
    simp only [Server.respond, stateRequest, plain, hroute, Server.serve, Server.stageState,
      Server.locked_free]
    rw [Server.serve.replied, Reply.outcome_of_sendable hreply]
  obtain ⟨vs, hvs, -⟩ := hsend.actorForms
  have htick : (Server.stageForm h.stage).field "tick" = .ofNat h.stage.ticks := by
    rw [Server.stageForm, Stage.form?, hvs]
    rfl
  have hcount : (Server.stageForm h.stage).field "collision_count" =
      .ofNat h.stage.collisions := by
    rw [Server.stageForm, Stage.form?, hvs]
    rfl
  rw [exchange_of_reply hrespond, hs.stage]
  exact ⟨htick, hcount⟩

end SpriteStage.Benchmark
