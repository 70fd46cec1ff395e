import SpriteStage.Proofs.Api.Reports
import SpriteStage.Proofs.Benchmark.Cast
import SpriteStage.Proofs.Stage.Batches

/-!
# The laps of the benchmark

A lap is a tick, after which the first of the overlapping pairs collide. The session starts when all
sprites are on the stage, and none comes or goes later, so every pair that overlaps has the scripts
that it needs to collide.
-/

namespace SpriteStage.Benchmark

open SpriteStage.Api

/-! ### The history of a run -/

/-- The history up to the first tick: so many sprites come, and the session starts. -/
def opening (actors : Nat) : History := .start :: cast actors

/-- The pairs that are reported: the first of those that overlap. -/
def reported (h : History) : List (String × String) := h.stage.overlaps.take pairLimit

/-- Pairs as the stage takes them. -/
def texts (pairs : List (String × String)) : List (Value × Value) :=
  pairs.map fun p => (.str p.1, .str p.2)

def collided (pairs : List (String × String)) (h : History) : History :=
  ((texts pairs).map fun p => .collide p.1 p.2).reverse ++ h

def lapped (h : History) : History := collided (reported (.tick :: h)) (.tick :: h)

/-- The history of so many actors up to the end of a lap. -/
def course (actors : Nat) : Nat → History
  | 0 => opening actors
  | laps + 1 => lapped (course actors laps)

def ticked (actors lap : Nat) : History := .tick :: course actors lap

theorem collideAll_texts (s : Stage) (pairs : List (String × String)) :
    s.collideAll (texts pairs) = ((texts pairs).map s.meets, s.settled (texts pairs)) := by
  rw [Stage.collideAll_eq, texts, Stage.answered_str]

theorem stage_collided (pairs : List (String × String)) (h : History) :
    (collided pairs h).stage = (h.stage.collideAll (texts pairs)).2 := by
  rw [collideAll_texts, collided]
  dsimp only
  rw [← Stage.foldl_collide]
  generalize texts pairs = pairs
  induction pairs using List.reverseRecOn with
  | nil => rfl
  | append_singleton pairs p ih =>
    rw [List.map_append, List.reverse_append, List.foldl_append, ← ih]
    rfl

/-! ### The session -/

/-- A session runs, and the actors on the stage are those that were there at its start. -/
structure InSession (s : Stage) : Prop where
  running : s.running = true
  snapshot : ∃ scripts, s.snapshot = some scripts ∧ scripts.keys = s.roster.keys

theorem InSession.perform {s : Stage} (h : InSession s) (op : Stage.Operation)
    (hbounds : op.bounds = false)
    (hkeys : (s.perform op).roster.keys = s.roster.keys) : InSession (s.perform op) := by
  obtain ⟨hr, hs⟩ := s.perform_session op hbounds
  obtain ⟨scripts, hscripts, hsame⟩ := h.snapshot
  exact ⟨hr.trans h.running, scripts, hs.trans hscripts, hsame.trans hkeys.symm⟩

theorem idle_cast (n : Nat) : (cast n).stage.running = false ∧ (cast n).stage.ticks = 0 ∧
    (cast n).stage.collisions = 0 := by
  induction n with
  | zero => exact ⟨rfl, rfl, rfl⟩
  | succ i ih =>
    rw [cast, History.stage]
    rcases (cast i).stage.add_cases 0 (draft i) with ⟨-, heq⟩ | ⟨a, -, heq, -⟩ <;> rw [heq] <;>
      exact ih

theorem stage_opening (actors : Nat) : (opening actors).stage = { (cast actors).stage with
    snapshot := some ((cast actors).stage.roster.map fun _ a => a.script)
    running := true
    started := true } :=
  congrArg Prod.snd (Stage.start_stopped (idle_cast actors).1)

theorem inSession_opening (actors : Nat) : InSession (opening actors).stage := by
  rw [stage_opening]
  exact ⟨rfl, _, rfl, Keyed.keys_map _ _⟩

theorem InSession.tick {h : History} (hs : InSession h.stage) :
    InSession (History.stage (.tick :: h)) :=
  hs.perform .tick rfl (Stage.perform_keys _ (.inr (.inr rfl)))

theorem InSession.collided {h : History} (hs : InSession h.stage) (pairs : List (String × String)) :
    InSession (collided pairs h).stage := by
  rw [Benchmark.collided]
  generalize texts pairs = pairs
  induction pairs using List.reverseRecOn with
  | nil => exact hs
  | append_singleton pairs p ih =>
    rw [List.map_append, List.reverse_append]
    exact ih.perform (.collide p.1 p.2) rfl (Stage.perform_keys _ (.inl rfl))

theorem inSession_course (actors laps : Nat) : InSession (course actors laps).stage := by
  induction laps with
  | zero => exact inSession_opening actors
  | succ laps ih => exact ih.tick.collided _

theorem inSession_ticked (actors lap : Nat) : InSession (ticked actors lap).stage :=
  (inSession_course actors lap).tick

/-- Overlapping actors can collide. -/
theorem InSession.meets {h : History} (hs : InSession h.stage) {p : String × String}
    (hp : p ∈ h.stage.overlaps) : h.stage.meets (.str p.1, .str p.2) = true := by
  obtain ⟨scripts, hscripts, hkeys⟩ := hs.snapshot
  have actor {k : String} {box : Box} (hk : h.stage.box? k = some box) :
      ∃ a, h.stage.roster.get? k = some a :=
    Keyed.mem_keys.1 ((h.isSome_box? k).1 (by rw [hk]; rfl))
  have script {k : String} {a : Actor} (hk : h.stage.roster.get? k = some a) :
      ∃ script, scripts.get? k = some script :=
    Keyed.mem_keys.1 (hkeys ▸ Keyed.mem_keys.2 ⟨a, hk⟩)
  obtain ⟨hlt, A, B, hA, hB, -⟩ := h.mem_overlaps_iff.1 hp
  obtain ⟨first, hfirst⟩ := actor hA
  obtain ⟨second, hsecond⟩ := actor hB
  obtain ⟨oldA, holdA⟩ := script hfirst
  obtain ⟨oldB, holdB⟩ := script hsecond
  exact Stage.meets_iff.2 ⟨scripts, p.1, p.2, oldA, oldB, first, second, hs.running, hscripts,
    Value.key?_str _, Value.key?_str _, fun heq => Nat.lt_irrefl _ (heq ▸ hlt), holdA, holdB,
    hfirst, hsecond⟩

theorem InSession.swapped {h : History} (hs : InSession h.stage) :
    (h.stage.collideAll (texts (reported h))).1 = List.replicate (reported h).length true := by
  rw [collideAll_texts, List.eq_replicate_iff]
  refine ⟨by rw [List.length_map, texts, List.length_map], fun b hb => ?_⟩
  rw [texts, List.map_map] at hb
  obtain ⟨p, hp, rfl⟩ := List.mem_map.1 hb
  exact hs.meets (List.mem_of_mem_take hp)

theorem InSession.collisions {h : History} (hs : InSession h.stage) :
    (Benchmark.collided (reported h) h).stage.collisions =
      h.stage.collisions + (reported h).length := by
  have hmeets : ∀ p ∈ texts (reported h), h.stage.meets p = true := by
    intro p hp
    obtain ⟨q, hq, rfl⟩ := List.mem_map.1 hp
    exact hs.meets (List.mem_of_mem_take hq)
  rw [stage_collided, collideAll_texts, Stage.settled, List.countP_eq_length.2 hmeets, texts,
    List.length_map]

theorem length_reported (h : History) :
    (reported h).length = min pairLimit h.stage.overlaps.length := List.length_take

theorem reported_eq_nil {h : History} : reported h = [] ↔ h.stage.overlaps = [] := by
  rw [reported, List.take_eq_nil_iff]
  exact or_iff_right (by decide)

/-- No pair is reported twice, in whatever order. -/
theorem reported_distinct (h : History) :
    (reported h).Nodup ∧ ∀ a b, (a, b) ∈ reported h → (b, a) ∉ reported h := by
  have hordered := h.pairwise_overlaps.sublist (List.take_sublist pairLimit _)
  refine ⟨hordered.imp fun {p q} hlex heq => ?_, fun a b hab hba => ?_⟩
  · subst heq
    cases hlex with
    | left _ _ hlt => exact hlt.false
    | right _ hlt => exact hlt.false
  · have hab := (h.mem_overlaps_iff.1 (List.mem_of_mem_take hab)).1
    have hba := (h.mem_overlaps_iff.1 (List.mem_of_mem_take hba)).1
    exact hab.asymm hba

/-! ### The counters of the stage -/

theorem ticks_lapped {h : History} (hs : InSession h.stage) :
    (lapped h).stage.ticks = h.stage.ticks + 1 := by
  rw [lapped, stage_collided, Stage.collideAll_eq]
  change h.stage.tick.2.ticks = _
  rw [Stage.tick_running hs.running]

theorem collisions_lapped {h : History} (hs : InSession h.stage) :
    (lapped h).stage.collisions = h.stage.collisions + (reported (.tick :: h)).length := by
  rw [lapped, hs.tick.collisions]
  change h.stage.tick.2.collisions + _ = _
  rw [Stage.tick_running hs.running]

theorem ticks_course (actors laps : Nat) : (course actors laps).stage.ticks = laps := by
  induction laps with
  | zero =>
    rw [course, stage_opening]
    exact (idle_cast actors).2.1
  | succ laps ih => rw [course, ticks_lapped (inSession_course actors laps), ih]

/-- The number of pairs that are reported in the first laps. -/
def reportedIn (actors laps : Nat) : Nat :=
  ((List.range laps).map fun k => (reported (ticked actors k)).length).sum

theorem reportedIn_succ (actors laps : Nat) : reportedIn actors (laps + 1) =
    reportedIn actors laps + (reported (ticked actors laps)).length := by
  simp [reportedIn, List.range_succ]

theorem collisions_course (actors laps : Nat) :
    (course actors laps).stage.collisions = reportedIn actors laps := by
  induction laps with
  | zero =>
    rw [course, stage_opening]
    exact (idle_cast actors).2.2
  | succ laps ih =>
    rw [course, collisions_lapped (inSession_course actors laps), ih, reportedIn_succ]
    rfl

/-! ### Sending -/

theorem sendable_collided {h : History} (hs : h.stage.Sendable) (pairs : List (String × String)) :
    (collided pairs h).stage.Sendable := by
  rw [collided]
  generalize texts pairs = pairs
  induction pairs using List.reverseRecOn with
  | nil => exact hs
  | append_singleton pairs p ih =>
    rw [List.map_append, List.reverse_append]
    have hop : (Stage.Operation.collide p.1 p.2).Sendable := trivial
    exact ih.perform hop

theorem sendable_course (actors laps : Nat) : (course actors laps).stage.Sendable := by
  have hstart : Stage.Operation.start.Sendable := trivial
  have htick : Stage.Operation.tick.Sendable := trivial
  induction laps with
  | zero => exact (sendable_cast actors).perform hstart
  | succ laps ih =>
    have hticked : (ticked actors laps).stage.Sendable := ih.perform htick
    exact sendable_collided hticked _

end SpriteStage.Benchmark
