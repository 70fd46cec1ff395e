import SpriteStage.Benchmark.Run
import SpriteStage.Proofs.Benchmark.Sums
import SpriteStage.Proofs.Sorting.Runs

/-!
# Summaries of measured times

A series of doubles has a summary whenever it has a sum: sorting never fails on doubles, and neither
does blending. The times that a run notes are those of its requests to some paths, in the order in
which they were sent.
-/

namespace SpriteStage.Benchmark

open SpriteStage.Api

open scoped List

/-! ### Summaries of doubles -/

/-- Percentiles do not depend on how errors are read. -/
theorem percentile_mapError {α κ ε ε' : Type} (f : ε → ε') (s : Scale α κ ε) (values : List α)
    (level : κ) :
    percentile (s.mapError f) values level = (percentile s values level).mapError f := by
  unfold percentile Scale.mapError
  dsimp only
  cases s.sort values with
  | error e => rfl
  | ok points =>
    match points with
    | [] => rfl
    | [v] => rfl
    | v :: w :: rest =>
      change (s.place level _).mapError f >>= _ = (s.place level _ >>= _).mapError f
      cases s.place level ((v :: w :: rest).length - 1) with
      | error e => rfl
      | ok place =>
        change (if _ then _ else _) = (if _ then _ else _ : Except ε α).mapError f
        split <;> rfl

/-- Percentiles of doubles can always be computed. -/
theorem percentile_floats (numbers : List Number) (h : ∀ n ∈ numbers, ∃ x, n = .float x)
    (level : Float) : ∃ p, percentile numberScale numbers (.float level) = .ok p := by
  obtain ⟨points, hsort, hperm, -⟩ :=
    Sorting.byRuns_returns (m := Except ReadingError) Number.lt numbers
  have hsort : numberScale.sort numbers = .ok points := hsort
  have hpoint (n : Nat) : ∃ x, points.getD n (.float 0.0) = .float x := by
    rw [List.getD_eq_getElem?_getD]
    cases hn : points[n]? with
    | none => exact ⟨_, rfl⟩
    | some v => exact h v (hperm.subset (List.mem_of_getElem? hn))
  rw [percentile, hsort]
  match points, hpoint with
  | [], _ => exact ⟨_, rfl⟩
  | [v], _ => exact ⟨_, rfl⟩
  | v :: w :: rest, hpoint =>
    obtain ⟨low, high, share, hplace⟩ : ∃ low high share,
        numberScale.place (.float level) ((v :: w :: rest).length - 1) =
          .ok ⟨low, high, .float share⟩ := ⟨_, _, _, rfl⟩
    obtain ⟨x, hx⟩ := hpoint low
    obtain ⟨y, hy⟩ := hpoint high
    simp only [bind, Except.bind, hplace]
    change ∃ p, (if low == high then .ok ((v :: w :: rest).getD low (.float 0.0))
      else numberScale.blend ((v :: w :: rest).getD low (.float 0.0))
        ((v :: w :: rest).getD high (.float 0.0)) (.float share)) = Except.ok p
    rw [hx, hy]
    split <;> exact ⟨_, rfl⟩

theorem filterMap_read (xs : List Float) :
    (xs.map Value.float).filterMap numberMeasure.read = xs.map .float := by
  rw [List.filterMap_map, ← List.filterMap_eq_map]
  rfl

/-- Doubles that have a sum have a summary. -/
theorem summarize_floats {xs : List Float} {sum : Float}
    (h : exactSum (xs.map .float) = .ok sum) :
    ∃ s, summarize (xs.map .float) = .ok s ∧ s.count = xs.length := by
  by_cases hxs : xs = []
  · rw [hxs]
    exact ⟨_, rfl, rfl⟩
  have hne : xs.map Value.float ≠ [] := fun hnil => hxs (List.map_eq_nil_iff.1 hnil)
  have hpercentile (level : Float) : ∃ p, percentile numberMeasure.toScale
      ((xs.map Value.float).filterMap numberMeasure.read) (.float level) = .ok p := by
    obtain ⟨p, hp⟩ := percentile_floats (xs.map .float)
      (fun n hn => by obtain ⟨x, -, rfl⟩ := List.mem_map.1 hn; exact ⟨x, rfl⟩) level
    refine ⟨p, ?_⟩
    rw [filterMap_read, numberMeasure, percentile_mapError, hp]
    rfl
  obtain ⟨p50, h50⟩ := hpercentile 0.5
  obtain ⟨p95, h95⟩ := hpercentile 0.95
  have hmean : numberMeasure.mean (xs.map .float) =
      .ok (.float (sum / Double.nearest (xs.map Value.float).length)) := by
    simp only [numberMeasure, h]
    rfl
  exact ⟨_, Measure.summary_eq hne hmean h50 h95, List.length_map _⟩

/-! ### The times of requests -/

/-- The times of the requests to a path, the latest first, as the requests are. -/
def timesTo (times : Nat → Float) (path : String) : List Request → List Float
  | [] => []
  | r :: sent =>
    if r.path = path then times sent.length :: timesTo times path sent
    else timesTo times path sent

/-- The times of all requests that a run has sent, the latest first. -/
def noted (times : Nat → Float) (sent : List Request) : Latencies where
  createActor := timesTo times "/api/v1/actors" sent
  tick := timesTo times "/api/v1/stage/tick" sent
  collisions := timesTo times "/api/v1/stage/collisions" sent
  poses := timesTo times "/api/v1/stage/poses" sent

/-- Whichever of the first requests are chosen, their times can be summed. -/
def CanBeSummed (times : Nat → Float) (requests : Nat) : Prop :=
  ∀ chosen : List Nat, chosen.Sublist (List.range requests) →
    ∃ sum, exactSum ((chosen.map times).map .float) = .ok sum

/-- The first times are finite, and together they are no longer than `2 ^ 1018` milliseconds. -/
structure Measured (times : Nat → Float) (requests : Nat) : Prop where
  finite : ∀ i < requests, (times i).isFinite = true
  total : ((List.range requests).map fun i => |(Double.rational? (times i)).getD 0|).sum ≤ 2 ^ 1018

theorem Measured.canBeSummed {times : Nat → Float} {requests : Nat} (h : Measured times requests) :
    CanBeSummed times requests := by
  intro chosen hchosen
  refine ⟨_, exactSum_sublist (hchosen.map times) (by simpa using h.finite) ?_⟩
  rw [List.map_map]
  exact h.total

theorem CanBeSummed.mono {times : Nat → Float} {requests fewer : Nat}
    (h : CanBeSummed times requests) (hle : fewer ≤ requests) : CanBeSummed times fewer :=
  fun chosen hchosen => h chosen (hchosen.trans (List.range_sublist.2 hle))

theorem length_timesTo (times : Nat → Float) (path : String) (sent : List Request) :
    (timesTo times path sent).length = sent.countP (·.path = path) := by
  induction sent with
  | nil => rfl
  | cons r sent ih =>
    rw [timesTo]
    split
    · rename_i h
      rw [List.length_cons, ih, List.countP_cons_of_pos (by simpa using h)]
    · rename_i h
      rw [ih, List.countP_cons_of_neg (by simpa using h)]

/-- The times of the requests to a path are those of some requests, in the order of sending. -/
theorem timesTo_reverse (times : Nat → Float) (path : String) (sent : List Request) :
    ∃ chosen : List Nat, chosen.Sublist (List.range sent.length) ∧
      (timesTo times path sent).reverse = chosen.map times := by
  induction sent with
  | nil => exact ⟨[], .slnil, rfl⟩
  | cons r sent ih =>
    obtain ⟨chosen, hchosen, htimes⟩ := ih
    rw [timesTo, List.length_cons, List.range_succ]
    split
    · refine ⟨chosen ++ [sent.length], hchosen.append (.refl _), ?_⟩
      rw [List.reverse_cons, htimes, List.map_append]
      rfl
    · exact ⟨chosen, hchosen.trans (List.sublist_append_left _ _), htimes⟩

theorem summarize_timesTo {times : Nat → Float} {sent : List Request}
    (h : CanBeSummed times sent.length) (path : String) :
    ∃ s, summarize ((timesTo times path sent).reverse.map .float) = .ok s ∧
      s.count = sent.countP (·.path = path) := by
  obtain ⟨chosen, hchosen, htimes⟩ := timesTo_reverse times path sent
  obtain ⟨sum, hsum⟩ := h chosen hchosen
  rw [← length_timesTo times, ← List.length_reverse, htimes]
  exact summarize_floats hsum

/-- The summaries of a run, with the number of requests of each sort. -/
theorem summaries_noted {times : Nat → Float} {sent : List Request}
    (h : CanBeSummed times sent.length) :
    ∃ summaries, (noted times sent).summaries = .ok summaries ∧
      (summaries.map fun (name, s) => (name, s.count)) =
        [("create_actor", sent.countP (·.path = "/api/v1/actors")),
          ("tick", sent.countP (·.path = "/api/v1/stage/tick")),
          ("collisions", sent.countP (·.path = "/api/v1/stage/collisions")),
          ("poses", sent.countP (·.path = "/api/v1/stage/poses"))] := by
  obtain ⟨createActor, hcreateActor, hactors⟩ := summarize_timesTo h "/api/v1/actors"
  obtain ⟨tick, htick, hticks⟩ := summarize_timesTo h "/api/v1/stage/tick"
  obtain ⟨collisions, hcollisions, hreports⟩ := summarize_timesTo h "/api/v1/stage/collisions"
  obtain ⟨poses, hposes, hglances⟩ := summarize_timesTo h "/api/v1/stage/poses"
  refine ⟨[("create_actor", createActor), ("tick", tick), ("collisions", collisions),
    ("poses", poses)], ?_, ?_⟩
  · simp only [Latencies.summaries, noted, List.mapM_cons, List.mapM_nil, hcreateActor, htick,
      hcollisions, hposes]
    rfl
  · simp [hactors, hticks, hreports, hglances]

end SpriteStage.Benchmark
