import SpriteStage.Proofs.Api.Locking
import SpriteStage.Proofs.Stage.Overlaps

/-!
# Reported collisions

Overlapping actors may collide in two ways: the clock lets them collide right after its tick, or a
client asks for a tick, looks which actors overlap, and reports the pairs. The report is checked and
trimmed on its way to the stage. Both ways lead to the same stage and tell of the same collisions,
because the identifiers of actors are names, which the report leaves as they are.
-/

namespace SpriteStage

theorem History.isName_of_mem_overlaps (h : History) {p : String × String}
    (hp : p ∈ h.stage.overlaps) : Text.IsName p.1 ∧ Text.IsName p.2 := by
  have isName {k : String} {box : Box} (hk : h.stage.box? k = some box) : Text.IsName k := by
    obtain ⟨a, ha⟩ := Keyed.mem_keys.1 ((h.isSome_box? k).1 (by rw [hk]; rfl))
    exact (h.isName_sized k a ha).1
  obtain ⟨-, A, B, hA, hB, -⟩ := h.mem_overlaps_iff.1 hp
  exact ⟨isName hA, isName hB⟩

/-! ### Ticks -/

/-- The listener of a clock, if there is one, takes a tick as it is: it neither stops the clock nor
fails. -/
def Setup.Suffers (s : Setup) (tick : Nat) : Prop :=
  ∀ l, s.listener = some l → l.stopsAt tick = false ∧ l.failsAt tick = none

namespace Clock

variable {c : Clock}

/-- A tick that the listener takes as it is answers with what was committed and leaves the stage as
it was committed. -/
theorem tick_of_suffers {t : Tick} (ht : c.commit.1 = some t)
    (h : c.setup.Suffers t.number) :
    c.tick.1 = .ok (some t) ∧ c.tick.2.stage = c.commit.2.stage := by
  obtain ⟨d, hd⟩ : ∃ d, c.commit = (some t, d) := ⟨c.commit.2, by rw [← ht]⟩
  unfold tick
  rw [hd]
  cases hl : c.setup.listener with
  | none => exact ⟨rfl, rfl⟩
  | some l =>
    obtain ⟨hstops, hfails⟩ := h l hl
    simp [hstops, hfails, hear]

theorem commit_plain (hr : c.stage.running = true) (h : c.setup.collides = false) :
    c.commit = (some ⟨c.stage.ticks + 1, c.stage.nextPoses, none⟩,
      { c with stage := c.stage.tick.2, fired := c.fired + 1 }) := by
  simp [commit, Stage.tick_running hr, h]

theorem tick_plain (hr : c.stage.running = true) (h : c.setup.collides = false)
    (hsuffers : c.setup.Suffers (c.stage.ticks + 1)) : c.tick.2.stage = c.stage.tick.2 := by
  have hcommit := commit_plain hr h
  rw [(tick_of_suffers (congrArg Prod.fst hcommit) hsuffers).2, hcommit]

/-- A tick of a clock that lets nobody collide and has no listener changes nothing but the stage and
the number of ticks. -/
theorem tick_quiet (hr : c.stage.running = true) (h : c.setup.collides = false)
    (hl : c.setup.listener = none) :
    c.tick.2 = { c with stage := c.stage.tick.2, fired := c.fired + 1 } := by
  rw [tick, commit_plain hr h, hl]

/-- A tick of a clock that lets overlapping actors collide. -/
theorem tick_collides (hr : c.stage.running = true) (h : c.setup.collides = true)
    (hsuffers : c.setup.Suffers (c.stage.ticks + 1)) :
    c.tick.1 = .ok (some ⟨c.stage.ticks + 1, c.stage.nextPoses,
      some (collideOverlaps c.stage.tick.2).1⟩) ∧
    c.tick.2.stage = (collideOverlaps c.stage.tick.2).2 := by
  have hcommit : c.commit = (some ⟨c.stage.ticks + 1, c.stage.nextPoses,
        some (collideOverlaps c.stage.tick.2).1⟩,
      { c with stage := (collideOverlaps c.stage.tick.2).2, fired := c.fired + 1 }) := by
    simp [commit, Stage.tick_running hr, h]
  obtain ⟨htick, hstage⟩ := tick_of_suffers (congrArg Prod.fst hcommit) hsuffers
  exact ⟨htick, by rw [hstage, hcommit]⟩

end Clock

namespace Api

def report (pairs : List (String × String)) : Value :=
  .object [("pairs", .list (pairs.map Stage.formPair))]

theorem Check.membersFrom_eq_nil {c : Check} {items : List Value}
    (h : ∀ place, ∀ w ∈ items, c place w = []) (place : Place) (n : Nat) :
    c.membersFrom place n items = [] := by
  induction items generalizing n with
  | nil => rfl
  | cons w items ih =>
    rw [Check.membersFrom, h _ w List.mem_cons_self,
      ih (fun place w hw => h place w (List.mem_cons_of_mem _ hw)), List.append_nil]

theorem read_report {pairs : List (String × String)} (h : pairs.length ≤ pairLimit) :
    (Body.document (report pairs)).read reportForm = .ok (report pairs) := by
  have hpair (place : Place) : ∀ w ∈ pairs.map Stage.formPair,
      Check.list .anyText none place w = [] := by
    intro w hw
    obtain ⟨p, -, rfl⟩ := List.mem_map.1 hw
    rfl
  have hfaults : (reportForm.flatMap fun f => f.faults .body (report pairs)) = [] := by
    change Check.list (.list .anyText none) (some pairLimit) _ (.list (pairs.map Stage.formPair))
      ++ [] = []
    simp [Check.list, Nat.not_lt.2 h, Check.membersFrom_eq_nil hpair]
  rw [report, Body.read, ← report, hfaults]

/-- Names come out of a report as they were put into it. -/
theorem pairsIn_report {pairs : List (String × String)}
    (h : ∀ p ∈ pairs, Text.IsName p.1 ∧ Text.IsName p.2) :
    pairsIn (report pairs) = pairs.map fun p => (.str p.1, .str p.2) := by
  have hfull {s : String} (hs : Text.IsName s) : (Value.str s).isBlank = false := by
    simp [Value.isBlank, Value.trimmed?_str hs, hs.nonempty]
  change (pairs.map Stage.formPair).filterMap _ = _
  rw [List.filterMap_map, ← List.filterMap_eq_map]
  apply List.filterMap_congr
  intro p hp
  obtain ⟨hfirst, hsecond⟩ := h p hp
  simp [Stage.formPair, Value.ofNames, hfull hfirst, hfull hsecond, Value.trim, hfirst.trim_eq,
    hsecond.trim_eq]

def reportRequest (pairs : List (String × String)) : Request where
  method := "POST"
  path := "/api/v1/stage/collisions"
  body := .document (report pairs)

def outcomes (pairs : List (String × String)) (swapped : List Bool) : List Value :=
  (pairs.zip swapped).map fun e => Server.outcomeForm (.str e.1.1, .str e.1.2) e.2

theorem zipWith_outcomeForm (pairs : List (String × String)) (swapped : List Bool) :
    List.zipWith Server.outcomeForm (pairs.map fun p => (.str p.1, .str p.2)) swapped =
      outcomes pairs swapped := by
  rw [outcomes, List.zipWith_map_left, List.map_zip_eq_zipWith]
  rfl

theorem sendable_outcomes (pairs : List (String × String)) (swapped : List Bool) :
    (Value.list (outcomes pairs swapped)).Sendable := by
  refine Value.sendable_list.2 fun w hw => ?_
  obtain ⟨e, -, rfl⟩ := List.mem_map.1 hw
  simp [Server.outcomeForm]

/-- A report of names, if they are not too many, is carried out pair by pair. -/
theorem respond_report (s : Server) {pairs : List (String × String)}
    (hnames : ∀ p ∈ pairs, Text.IsName p.1 ∧ Text.IsName p.2) (h : pairs.length ≤ pairLimit) :
    s.respond (reportRequest pairs) =
      let (swapped, stage) := s.stage.collideAll (pairs.map fun p => (.str p.1, .str p.2))
      (.reply (.ok [("ok", .bool true), ("swapped_count", .ofNat (swapped.count true)),
        ("results", .list (outcomes pairs swapped))]), s.withStage stage) := by
  have hroute : destination "POST" (Path.decode "/api/v1/stage/collisions") =
      .endpoint .collisions := by decide +kernel
  simp only [Server.respond, reportRequest, hroute, Server.serve, Server.collisions,
    Server.withBody_of_read (read_report h), Server.locked_free, pairsIn_report hnames,
    zipWith_outcomeForm]
  rw [Server.serve.replied, Reply.outcome_of_sendable]
  simp [Reply.ok, sendable_outcomes, -Value.sendable_list]

/-- While the session runs, there are two ways to a tick after which overlapping actors have
collided: a tick of a clock that lets them collide, and a tick of one that does not, after which a
client reports the pairs that overlap. If these are no more than a report may hold, and the
listeners take the tick as it is, both lead to the same stage, and the pairs that the first tick
tells of are those that swapped by the reply to the report, in the same order. The poses are made of
the scripts that the actors had before any collision. -/
theorem overlap_law (h : History) (hr : h.stage.running = true) (colliding plain : Clock)
    (hstage : colliding.stage = h.stage) (hstage' : plain.stage = h.stage)
    (hcollides : colliding.setup.collides = true) (hplain : plain.setup.collides = false)
    (hsuffers : colliding.setup.Suffers (h.stage.ticks + 1))
    (hsuffers' : plain.setup.Suffers (h.stage.ticks + 1))
    (s : Server) (hs : s.stage = plain.tick.2.stage)
    (hlimit : s.stage.overlaps.length ≤ pairLimit) :
    (s.respond (reportRequest s.stage.overlaps)).2.stage = colliding.tick.2.stage ∧
    (∃ swapped : List Bool, swapped.length = s.stage.overlaps.length ∧
      (s.respond (reportRequest s.stage.overlaps)).1 =
        .reply (.ok [("ok", .bool true), ("swapped_count", .ofNat (swapped.count true)),
          ("results", .list (outcomes s.stage.overlaps swapped))]) ∧
      colliding.tick.1 = .ok (some ⟨h.stage.ticks + 1, h.stage.nextPoses,
        some (((s.stage.overlaps.zip swapped).filter Prod.snd).map Prod.fst)⟩)) ∧
    colliding.tick.2.stage.poses = h.stage.nextPoses ∧
    ∀ k, h.stage.nextPoses.get? k = (h.stage.scriptOf? k).map fun script =>
      ((h.stage.poses.get? k).getD .rest).tick script := by
  rw [← hstage] at hr hsuffers
  obtain ⟨htick, hleft⟩ := Clock.tick_collides hr hcollides hsuffers
  rw [hstage, ← hstage'] at hr
  rw [← hstage'] at hsuffers'
  rw [Clock.tick_plain hr hplain hsuffers', hstage'] at hs
  rw [hstage] at htick hleft
  -- the tick is one more operation, so what is true after every history is true after it
  have hnames : ∀ p ∈ s.stage.overlaps, Text.IsName p.1 ∧ Text.IsName p.2 := by
    rw [hs]
    exact fun p => History.isName_of_mem_overlaps (.tick :: h)
  rw [respond_report s hnames hlimit, hs, htick, hleft]
  refine ⟨rfl, ⟨_, ?_, rfl, rfl⟩, ?_, h.stage.nextPoses_get?⟩
  · rw [Stage.collideAll_eq, Stage.answered_str, List.length_map, List.length_map]
  · exact (Stage.poses_collideAll ..).trans (by rw [Stage.tick_running (hstage' ▸ hr)])

/-- Two sprites that meet while a session runs, and a third that came after the start and is in
their way. -/
def crowded : History :=
  [.add 3 { id := .str "late" }, .start,
    .add 2 { id := .str "b", script := [.goto "east" (.int 10) (.int 0)] },
    .add 1 { id := .str "a", script := [.goto "south" (.int 0) (.int 10), .turn "back" (.int 15)] }]

theorem overlap_of_crowded :
    let colliding : Clock := { stage := crowded.stage, setup := { autoCollide := .bool true } }
    let plain : Clock := { stage := crowded.stage }
    let s : Server := { clock := plain.tick.2 }
    crowded.stage.running = true ∧
    s.stage.overlaps = [("a", "b"), ("a", "late"), ("b", "late")] ∧
    (s.respond (reportRequest s.stage.overlaps)).2.stage = colliding.tick.2.stage ∧
    (colliding.tick.1.toOption.join.bind Tick.collisions) = some [("a", "b")] := by
  intro colliding plain s
  have hr : crowded.stage.running = true := rfl
  have hpairs : s.stage.overlaps = [("a", "b"), ("a", "late"), ("b", "late")] := by decide +kernel
  refine ⟨hr, hpairs, ?_, by decide +kernel⟩
  exact (overlap_law crowded hr colliding plain rfl rfl rfl rfl nofun nofun s rfl
    (hpairs ▸ by decide)).1

end Api

end SpriteStage
