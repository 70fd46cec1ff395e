import SpriteStage.Proofs.Benchmark.Exchanges
import SpriteStage.Proofs.Benchmark.Latencies
import Mathlib.Algebra.Order.Floor.Div

/-!
# The report of the benchmark

A run sends the requests that are known in advance, none of them is refused, and its report agrees
with what happened on the stage.
-/

namespace SpriteStage.Benchmark

open SpriteStage.Api

/-! ### Steps of a run -/

/-- Where a run stands: its course, and the requests that it has sent, the latest first. -/
abbrev Standing := Course × List Request

/-- A step of a run succeeds and leads from one standing to another. -/
def Leads {α : Type} (x : Runner (StateM (List Request)) α) (p : Standing) (v : α)
    (q : Standing) : Prop :=
  (x.run p.1).run.run p.2 = (.ok (v, q.1), q.2)

variable {α β : Type} {p q r : Standing}

theorem Leads.bind {x : Runner (StateM (List Request)) α}
    {f : α → Runner (StateM (List Request)) β} {v : α} {w : β} (hx : Leads x p v q)
    (hf : Leads (f v) q w r) : Leads (x >>= f) p w r := by
  simp only [Leads, StateT.run_bind, ExceptT.run_bind] at *
  rw [hx]
  exact hf

/-- A step of a run fails. -/
def Fails {α : Type} (x : Runner (StateM (List Request)) α) (p : Standing) (e : RunError) : Prop :=
  ∃ sent, (x.run p.1).run.run p.2 = (.error e, sent)

theorem Fails.bind {x : Runner (StateM (List Request)) α}
    {f : α → Runner (StateM (List Request)) β} {e : RunError} (hx : Fails x p e) :
    Fails (x >>= f) p e := by
  obtain ⟨sent, hx⟩ := hx
  refine ⟨sent, ?_⟩
  simp only [StateT.run_bind, ExceptT.run_bind]
  rw [hx]
  rfl

theorem Leads.fails {x : Runner (StateM (List Request)) α}
    {f : α → Runner (StateM (List Request)) β} {v : α} {e : RunError} (hx : Leads x p v q)
    (hf : Fails (f v) q e) : Fails (x >>= f) p e := by
  obtain ⟨sent, hf⟩ := hf
  refine ⟨sent, ?_⟩
  simp only [Leads, StateT.run_bind, ExceptT.run_bind] at *
  rw [hx]
  exact hf

theorem leads_pure (v : α) : Leads (pure v) p v p := rfl

def standing (times : Nat → Float) (s : Server) (sent : List Request) (swaps : Nat) : Standing :=
  (⟨s, noted times sent, swaps⟩, sent)

variable {times : Nat → Float} {s : Server} {l : Latencies} {sent : List Request} {swaps : Nat}

theorem leads_send (r : Request) :
    Leads (send (Client.recorded times) r) (⟨s, l, swaps⟩, sent)
      ((exchange s r).1, times sent.length) (⟨(exchange s r).2, l, swaps⟩, r :: sent) := by
  unfold Client.recorded
  generalize exchange = exchange
  rfl

theorem leads_note (f : Latencies → Latencies) :
    Leads (note f) (⟨s, l, swaps⟩, sent) () (⟨s, f l, swaps⟩, sent) := rfl

theorem leads_get : Leads get p p.1 p := rfl

theorem leads_modify (f : Course → Course) : Leads (modify f) p () (f p.1, p.2) := rfl

/-- A loop whose every pass leads on leads to its end. -/
theorem leads_forM_range {f : Nat → Runner (StateM (List Request)) Unit} (stand : Nat → Standing)
    {n : Nat} (h : ∀ i < n, Leads (f i) (stand i) () (stand (i + 1))) :
    Leads ((List.range n).forM f) (stand 0) () (stand n) := by
  induction n with
  | zero => exact leads_pure ()
  | succ n ih =>
    have hrest : Leads ([n].forM f) (stand n) () (stand (n + 1)) :=
      (h n (Nat.lt_succ_self n)).bind (leads_pure ())
    have hfirst := ih fun i hi => h i (Nat.lt_succ_of_lt hi)
    rw [List.range_succ, List.forM_eq_forM, List.forM_append]
    exact hfirst.bind hrest

/-! ### The steps of a run -/

variable {settings : Settings} {h : History}

/-- A sprite is put on the stage. -/
theorem leads_create {i : Nat} (hstatus : (exchange s (createRequest i)).1.status = 200) :
    Leads (create (Client.recorded times) i) (standing times s sent swaps) ()
      (standing times (after s [createRequest i]) (createRequest i :: sent) swaps) := by
  have hnoted : noted times (createRequest i :: sent) = { noted times sent with
      createActor := times sent.length :: (noted times sent).createActor } := by
    simp [noted, timesTo, createRequest]
  refine (leads_send (createRequest i)).bind ?_
  dsimp only
  rw [if_neg (not_not.2 hstatus), standing, hnoted]
  exact leads_note _

/-- The pairs that overlap are reported. -/
theorem leads_reportOverlaps (hs : Follows settings h s) (hsession : InSession h.stage) :
    Leads (reportOverlaps (Client.recorded times)) (standing times s sent swaps) ()
      (standing times (after s (reports (reported h))) ((reports (reported h)).reverse ++ sent)
        (swaps + (reported h).length)) := by
  have hoverlaps : (standing times s sent swaps).1.server.stage.overlaps = h.stage.overlaps :=
    congrArg Stage.overlaps hs.stage
  rw [reportOverlaps]
  refine leads_get.bind ?_
  dsimp only
  rw [hoverlaps]
  by_cases hnone : reported h = []
  · rw [reported_eq_nil.1 hnone, reports, if_pos hnone, hnone]
    exact leads_pure ()
  · have hfound : (!h.stage.overlaps.isEmpty) = true := by
      rw [Bool.not_eq_true', List.isEmpty_eq_false_iff]
      exact fun hempty => hnone (reported_eq_nil.2 hempty)
    have hnoted : noted times (reportRequest (reported h) :: sent) = { noted times sent with
        collisions := times sent.length :: (noted times sent).collisions } := by
      simp [noted, timesTo, reportRequest]
    obtain ⟨hstatus, hswaps, -⟩ := exchange_report hs hsession
    rw [if_pos hfound, reports, if_neg hnone, ← hswaps]
    refine (leads_send (reportRequest (reported h))).bind ?_
    dsimp only
    rw [if_pos hstatus, after_cons]
    change Leads _ _ _ (⟨_, noted times (reportRequest (reported h) :: sent), _⟩, _)
    rw [hnoted]
    refine (leads_note _).bind ?_
    generalize exchange s (reportRequest (reported h)) = reply
    exact leads_modify _

/-- The poses are asked for, if it is their turn. -/
theorem leads_glance (hs : Follows settings h s) (hsend : h.stage.Sendable) (lap : Nat) :
    Leads (glance (Client.recorded times) lap) (standing times s sent swaps) ()
      (standing times (after s (glances lap)) ((glances lap).reverse ++ sent) swaps) := by
  rw [glance, glances]
  split
  · have hnoted : noted times (posesRequest :: sent) = { noted times sent with
        poses := times sent.length :: (noted times sent).poses } := by
      simp [noted, timesTo, posesRequest, plain]
    refine (leads_send posesRequest).bind ?_
    dsimp only
    rw [if_pos (exchange_poses hs hsend).1]
    change Leads _ _ _ (⟨_, noted times (posesRequest :: sent), _⟩, _)
    rw [hnoted]
    exact leads_note _
  · exact leads_pure ()

/-- A lap sends its requests, and all pairs that it reports swap. -/
theorem leads_lap {actors k : Nat} (hs : Follows settings (course actors k) s)
    (hcollides : settings.collides = false) :
    Leads (lap (Client.recorded times) k) (standing times s sent swaps) ()
      (standing times (after s (lapRequests actors k)) ((lapRequests actors k).reverse ++ sent)
        (swaps + (reported (ticked actors k)).length)) := by
  obtain ⟨hstatus, hticked⟩ := exchange_tick hs hcollides (inSession_course actors k)
    (sendable_course actors k)
  change Follows settings (ticked actors k) _ at hticked
  have hreported : Follows settings (course actors (k + 1))
      (after (exchange s tickRequest).2 (reports (reported (ticked actors k)))) :=
    follows_reports hticked (inSession_ticked actors k)
  have hnoted : noted times (tickRequest :: sent) = { noted times sent with
      tick := times sent.length :: (noted times sent).tick } := by
    simp [noted, timesTo, tickRequest, plain]
  have htick : Leads (note fun l => { l with tick := times sent.length :: l.tick })
      (⟨(exchange s tickRequest).2, noted times sent, swaps⟩, tickRequest :: sent) ()
      (standing times (exchange s tickRequest).2 (tickRequest :: sent) swaps) := by
    rw [standing, hnoted]
    exact leads_note _
  have hsent : (lapRequests actors k).reverse ++ sent = (glances k).reverse ++
      ((reports (reported (ticked actors k))).reverse ++ tickRequest :: sent) := by
    simp [lapRequests]
  refine (leads_send tickRequest).bind ?_
  dsimp only
  rw [if_neg (not_not.2 hstatus), hsent, lapRequests, after_cons, after_append]
  exact htick.bind <| (leads_reportOverlaps hticked (inSession_ticked actors k)).bind <|
    leads_glance hreported (sendable_course actors (k + 1)) k

/-! ### Whole runs -/

theorem leads_creations {actors : Nat} (hactors : actors ≤ castLimit) :
    Leads ((List.range actors).forM (create (Client.recorded times)))
      (standing times (fresh settings) [] 0) ()
      (standing times (after (fresh settings) (creations actors)) (creations actors).reverse 0) := by
  refine leads_forM_range
    (fun i => standing times (after (fresh settings) (creations i)) (creations i).reverse 0)
    fun i hi => ?_
  have hcast : HasCast settings i (after (fresh settings) (creations i)) :=
    hasCast_after (hi.le.trans hactors)
  rw [creations_succ, after_append, List.reverse_append]
  exact leads_create (exchange_create hcast (hi.trans_le hactors)).1

theorem leads_laps {actors : Nat} (hactors : actors ≤ castLimit)
    (hcollides : settings.collides = false) (laps : Nat) :
    Leads ((List.range laps).forM (lap (Client.recorded times)))
      (standing times (onStage settings actors []) (creations actors).reverse 0) ()
      (standing times (onStage settings actors (lapsRequests actors laps))
        ((lapsRequests actors laps).reverse ++ (creations actors).reverse)
        (reportedIn actors laps)) := by
  refine leads_forM_range (fun k => standing times (onStage settings actors (lapsRequests actors k))
    ((lapsRequests actors k).reverse ++ (creations actors).reverse) (reportedIn actors k))
    fun k _ => ?_
  have hafter : onStage settings actors (lapsRequests actors (k + 1)) =
      after (onStage settings actors (lapsRequests actors k)) (lapRequests actors k) := by
    rw [lapsRequests_succ, onStage, onStage, after_append]
  rw [hafter, reportedIn_succ, lapsRequests_succ, List.reverse_append, List.append_assoc]
  exact leads_lap (follows_laps hactors hcollides k) hcollides

/-! ### Requests by their paths -/

theorem count_creations (actors : Nat) (path : String) :
    (creations actors).countP (·.path = path) = if path = "/api/v1/actors" then actors else 0 := by
  have hpath : (fun r : Request => decide (r.path = path)) ∘ createRequest =
      fun _ => decide ("/api/v1/actors" = path) := rfl
  rw [creations, List.countP_map, hpath]
  split
  · rename_i h
    simp [h]
  · rename_i h
    simp [Ne.symm h]

theorem count_lap (actors k : Nat) :
    (lapRequests actors k).countP (·.path = "/api/v1/actors") = 0 ∧
    (lapRequests actors k).countP (·.path = "/api/v1/stage/tick") = 1 ∧
    (lapRequests actors k).countP (·.path = "/api/v1/stage/collisions") =
      (if (ticked actors k).stage.overlaps ≠ [] then 1 else 0) ∧
    (lapRequests actors k).countP (·.path = "/api/v1/stage/poses") =
      (if k % poseInterval = 0 then 1 else 0) := by
  simp only [lapRequests, reports, glances, reported_eq_nil, ne_eq]
  split <;> split <;> simp [*, tickRequest, posesRequest, reportRequest, plain]

theorem ceilDiv_succ (laps : Nat) : (laps + 1) ⌈/⌉ poseInterval =
    laps ⌈/⌉ poseInterval + if laps % poseInterval = 0 then 1 else 0 := by
  rw [poseInterval, Nat.ceilDiv_eq_add_pred_div, Nat.ceilDiv_eq_add_pred_div]
  by_cases h : laps % 5 = 0
  · rw [if_pos h]
    omega
  · rw [if_neg h]
    omega

theorem count_laps (actors laps : Nat) :
    (lapsRequests actors laps).countP (·.path = "/api/v1/actors") = 0 ∧
    (lapsRequests actors laps).countP (·.path = "/api/v1/stage/tick") = laps ∧
    (lapsRequests actors laps).countP (·.path = "/api/v1/stage/collisions") =
      (List.range laps).countP (fun k => (ticked actors k).stage.overlaps ≠ []) ∧
    (lapsRequests actors laps).countP (·.path = "/api/v1/stage/poses") =
      laps ⌈/⌉ poseInterval := by
  induction laps with
  | zero => exact ⟨rfl, rfl, rfl, rfl⟩
  | succ laps ih =>
    obtain ⟨hactors, hticks, hreports, hglances⟩ := ih
    obtain ⟨hactors', hticks', hreports', hglances'⟩ := count_lap actors laps
    simp only [lapsRequests_succ, List.countP_append, List.range_succ, hactors, hticks, hreports,
      hglances, hactors', hticks', hreports', hglances', List.countP_singleton, decide_eq_true_eq,
      ceilDiv_succ, true_and]

theorem length_laps (actors laps : Nat) : (lapsRequests actors laps).length ≤ 3 * laps := by
  have hlap (k : Nat) : (lapRequests actors k).length ≤ 3 := by
    simp only [lapRequests, reports, glances]
    split <;> split <;> simp
  induction laps with
  | zero => exact Nat.le_refl 0
  | succ laps ih =>
    rw [lapsRequests_succ, List.length_append]
    exact Nat.add_le_add ih (hlap laps)

/-! ### The report -/

theorem rehearse_run {plan : Plan} {result : Except RunError (Report × Course)}
    (h : ((run (Client.recorded times) plan).run { server := fresh settings }).run.run [] =
      (result, sent)) :
    rehearse settings times plan = (result.map Prod.fst, sent.reverse) := by
  rw [fresh] at h
  simp only [rehearse, StateT.run'_eq, ExceptT.run_map, StateT.run_map, h]
  rfl

theorem rehearse_of_leads {plan : Plan} {report : Report} {c : Course} (h : Leads
    (run (Client.recorded times) plan) (standing times (fresh settings) [] 0) report (c, sent)) :
    rehearse settings times plan = (.ok report, sent.reverse) := rehearse_run h

theorem rehearse_of_fails {plan : Plan} {e : RunError}
    (h : Fails (run (Client.recorded times) plan) (standing times (fresh settings) [] 0) e) :
    (rehearse settings times plan).1 = .error e := by
  obtain ⟨sent, h⟩ := h
  exact congrArg Prod.fst (rehearse_run h)

/-- The report of a run whose times have summaries, and the requests that it sends. -/
theorem rehearse_ok {plan : Plan} {actors laps : Nat} {summaries : List (String × Summary Number)}
    (hactors : plan.actors.toNat = actors) (hlaps : plan.ticks.toNat = laps)
    (hcollides : settings.collides = false) (hleast : 2 ≤ plan.actors) (hmost : actors ≤ castLimit)
    (hsummaries : (noted times ((lapsRequests actors laps).reverse ++
      (creations actors).reverse)).summaries = .ok summaries) :
    rehearse settings times plan =
      (.ok {
        actors := plan.actors
        ticksRun := .ofNat laps
        swaps := reportedIn actors laps
        collisions := .ofNat (reportedIn actors laps)
        latencies := summaries },
      creations actors ++ lapsRequests actors laps ++ [stateRequest, stopRequest]) := by
  have hfew : ¬ plan.actors < 2 := Int.not_lt.2 hleast
  have hbegin : Leads begin
      (standing times (after (fresh settings) (creations actors)) (creations actors).reverse 0) ()
      (standing times (onStage settings actors []) (creations actors).reverse 0) := rfl
  have hsent : creations actors ++ lapsRequests actors laps ++ [stateRequest, stopRequest] =
      (stopRequest :: stateRequest ::
        ((lapsRequests actors laps).reverse ++ (creations actors).reverse)).reverse := by
    simp
  obtain ⟨htick, hcount⟩ := exchange_state (follows_laps hmost hcollides laps)
    (sendable_course actors laps)
  rw [ticks_course] at htick
  rw [collisions_course] at hcount
  rw [hsent]
  apply rehearse_of_leads
  rw [run, if_neg hfew, hactors, hlaps]
  refine (leads_creations hmost).bind <| hbegin.bind <|
    (leads_laps hmost hcollides laps).bind <| (leads_send stateRequest).bind <|
    (leads_send stopRequest).bind <| leads_get.bind ?_
  rw [hsummaries, htick, hcount]
  exact leads_pure _

/-! ### Too many actors -/

theorem fails_create {i : Nat} (hi : i ≤ castLimit) (hlong : nameLimit < (spriteId i).length) :
    Fails (create (Client.recorded times) i) (standing times s sent swaps)
      (.refused "create" 422) := by
  have hstatus := exchange_create_long s hi hlong
  refine (leads_send (createRequest i)).fails ?_
  dsimp only
  rw [hstatus]
  exact ⟨_, rfl⟩

theorem castLimit_long : nameLimit < (spriteId castLimit).length := by
  rw [length_spriteId]
  decide +kernel

theorem fails_creations {actors limit : Nat} (hactors : limit < actors) (hlimit : limit ≤ castLimit)
    (hlong : nameLimit < (spriteId limit).length) :
    Fails ((List.range actors).forM (create (Client.recorded times)))
      (standing times (fresh settings) [] 0) (.refused "create" 422) := by
  obtain ⟨more, rfl⟩ := Nat.exists_eq_add_of_lt hactors
  rw [Nat.add_assoc, List.range_add, List.range_succ_eq_map, List.map_cons, List.forM_eq_forM,
    List.forM_append, List.forM_cons]
  exact (leads_creations hlimit).fails (fails_create hlimit hlong).bind

theorem rehearse_crowded {plan : Plan} (h : castLimit < plan.actors) :
    (rehearse settings times plan).1 = .error (.refused "create" 422) := by
  have hfew : ¬ plan.actors < 2 := by
    have htwo : 2 ≤ castLimit := by decide
    omega
  have hactors : castLimit < plan.actors.toNat := Int.lt_toNat.2 h
  apply rehearse_of_fails
  rw [run, if_neg hfew]
  exact (fails_creations hactors (Nat.le_refl castLimit) castLimit_long).bind

/-- The law of reports. For every number of actors from two up to the limit of names, and every
number of ticks, where less than none is none, a run succeeds if its server lets nobody collide by
itself and nobody else holds the lock of the stage, and if the times that it measures are finite and
all together far from the largest double. It sends the requests that are known in advance, and the
stage after each tick is the one of its history. The report gives the number of ticks, and counts a
time for every actor, for every tick, for every tick after which some pairs overlap, and for every
fifth tick. Its swaps are the collisions that the stage counts, and both are the pairs that are
reported: after each tick those that overlap, but no more than a report may hold. All of them swap,
and none is reported twice, in whatever order. With more actors than the limit, one of them is
refused for the length of its name, whatever the times are. -/
theorem report_law (settings : Settings) (times : Nat → Float) (plan : Plan)
    (hcollides : settings.collides = false) (hleast : 2 ≤ plan.actors) :
    let actors := plan.actors.toNat
    let laps := plan.ticks.toNat
    (plan.actors ≤ castLimit → Measured times (actors + 3 * laps) →
      (∀ k < laps, (onStage settings actors (lapsRequests actors k ++ [tickRequest])).stage =
        (ticked actors k).stage) ∧
      (∃ report, rehearse settings times plan = (.ok report,
          creations actors ++ lapsRequests actors laps ++ [stateRequest, stopRequest]) ∧
        report.actors = plan.actors ∧
        report.ticksRun = .int (max 0 plan.ticks) ∧
        (report.latencies.map fun (name, s) => (name, s.count)) =
          [("create_actor", actors), ("tick", laps),
            ("collisions", (List.range laps).countP fun k => (ticked actors k).stage.overlaps ≠ []),
            ("poses", laps ⌈/⌉ poseInterval)] ∧
        report.swaps = ((List.range laps).map fun k =>
          min pairLimit (ticked actors k).stage.overlaps.length).sum ∧
        report.collisions = .ofNat report.swaps) ∧
      ∀ k < laps,
        ((ticked actors k).stage.collideAll (texts (reported (ticked actors k)))).1 =
          List.replicate (min pairLimit (ticked actors k).stage.overlaps.length) true ∧
        (reported (ticked actors k)).Nodup ∧
        ∀ a b, (a, b) ∈ reported (ticked actors k) → (b, a) ∉ reported (ticked actors k)) ∧
    (castLimit < plan.actors →
      (rehearse settings times plan).1 = .error (.refused "create" 422)) := by
  intro actors laps
  refine ⟨fun hmost htimes => ?_, rehearse_crowded⟩
  have hactors : actors ≤ castLimit := Int.toNat_le.2 hmost
  refine ⟨fun k _ => (follows_ticked hactors hcollides k).stage, ?_, fun k _ => ?_⟩
  · have hlength : ((lapsRequests actors laps).reverse ++ (creations actors).reverse).length ≤
        actors + 3 * laps := by
      rw [List.length_append, List.length_reverse, List.length_reverse, creations, List.length_map,
        List.length_range, Nat.add_comm]
      exact Nat.add_le_add_left (length_laps actors laps) actors
    obtain ⟨summaries, hsummaries, hcounts⟩ := summaries_noted (htimes.canBeSummed.mono hlength)
    obtain ⟨hcreations, hticks, hreports, hglances⟩ := count_laps actors laps
    have hrehearse := rehearse_ok rfl rfl hcollides hleast hactors hsummaries
    refine ⟨_, hrehearse, rfl, ?_, hcounts.trans ?_, ?_, rfl⟩
    · rw [max_comm, ← Int.ofNat_toNat]
      rfl
    · simp only [List.countP_append, List.countP_reverse, count_creations, hcreations, hticks,
        hreports, hglances]
      simp
    · simp only [reportedIn, length_reported]
      rfl
  · rw [(inSession_ticked actors k).swapped, length_reported]
    exact ⟨rfl, reported_distinct _⟩

def uneven (request : Nat) : Float := if request % 2 = 0 then 0.5 else 1.25

/-- The law of reports for two actors and two ticks. -/
theorem report_of_two :
    let plan : Plan := { actors := 2, ticks := 2 }
    (2 ≤ plan.actors ∧ plan.actors ≤ castLimit ∧ Measured uneven 8) ∧
    ∃ report sent, rehearse {} uneven plan = (.ok report, sent) ∧ report.ticksRun = .int 2 ∧
      report.collisions = .ofNat report.swaps ∧
      (report.latencies.map fun (name, s) => (name, s.count)) =
        [("create_actor", 2), ("tick", 2),
          ("collisions", (List.range 2).countP fun k => (ticked 2 k).stage.overlaps ≠ []),
          ("poses", 1)] := by
  intro plan
  have hmost : plan.actors ≤ castLimit := by decide
  have htimes : Measured uneven 8 := ⟨by decide +kernel, by decide +kernel⟩
  have hposes : 2 ⌈/⌉ poseInterval = 1 := Nat.ceilDiv_eq_add_pred_div 2 poseInterval
  obtain ⟨hsucceeds, -⟩ := report_law {} uneven plan rfl (by decide)
  obtain ⟨-, ⟨report, hreport, -, hticks, hcounts, -, hcollisions⟩, -⟩ := hsucceeds hmost htimes
  refine ⟨⟨by decide, hmost, htimes⟩, report, _, hreport, hticks, hcollisions, ?_⟩
  rw [← hposes]
  exact hcounts

/-- One actor more than there are names: the run is refused. -/
theorem report_of_crowd :
    ({} : Settings).collides = false ∧ 2 ≤ (10 ^ 114 + 1 : Int) ∧
    (rehearse {} (fun _ => 0.0) { actors := 10 ^ 114 + 1 }).1 =
      .error (.refused "create" 422) :=
  ⟨rfl, by decide, rehearse_crowded (by decide)⟩

end SpriteStage.Benchmark
