import SpriteStage.Clock.Run
import SpriteStage.Proofs.Clock.Answers
import SpriteStage.Proofs.Clock.Pause

/-!
# The delivery of ticks

In a run in which a tick and the telling of it are one move, the listener is told of every committed
tick once, in the order of the ticks, and every one is counted, whether or not the listener fails. A
failure changes nothing but what is said of it: on a worker it is recorded, and a client is answered
with it.
-/

namespace SpriteStage

theorem Stage.collideAll_ticks (s : Stage) (pairs : List (Value × Value)) :
    (s.collideAll pairs).2.ticks = s.ticks := by
  rw [collideAll_eq]
  rfl

theorem Stage.start_ticks (s : Stage) : s.start.2.ticks = s.ticks := by
  unfold Stage.start
  split <;> rfl

theorem Stage.stop_ticks (s : Stage) : s.stop.2.ticks = s.ticks := by
  unfold Stage.stop
  split <;> rfl

def Listener.calm (l : Listener) : Listener := { l with failsAt := fun _ => none }

theorem Setup.pause_ne_telling (s : Setup) (tick : Nat) : s.pause ≠ .telling tick := by
  unfold pause
  split
  · split <;> exact nofun
  · exact nofun

namespace Clock

variable {c d e : Clock} {w : Nat} {tick : Tick}

theorem exists_commit (h : c.commit.1 = some tick) : ∃ d, c.commit = (some tick, d) :=
  ⟨_, Prod.ext h rfl⟩

theorem commit_number (h : c.commit = (some tick, d)) :
    tick.number = c.stage.ticks + 1 ∧ d.stage.ticks = tick.number := by
  rcases c.commit_cases with ⟨-, hc⟩ | ⟨hr, -⟩
  · cases hc.symm.trans h
  · rw [commit, Stage.tick_running hr] at h
    dsimp only at h
    split at h
    · cases h
      exact ⟨rfl, Stage.collideAll_ticks ..⟩
    · cases h
      exact ⟨rfl, rfl⟩

/-! ### Moves that tell nothing -/

/-- Between moves no worker is about to tell the listener of a tick, and none is let go from it. -/
structure Punctual (c : Clock) : Prop where
  silent : ∀ (w tick : Nat), c.workers[w]? ≠ some (Phase.telling tick)
  released : c.released = false

/-- A change in which nothing is ticked, told or recorded. -/
structure Uneventful (c d : Clock) : Prop where
  setup : d.setup = c.setup
  heard : d.heard = c.heard
  fired : d.fired = c.fired
  lastError : d.lastError = c.lastError
  punctual : c.Punctual → d.Punctual

namespace Uneventful

theorem refl (c : Clock) : Uneventful c c := ⟨rfl, rfl, rfl, rfl, id⟩

theorem trans (h : Uneventful c d) (h' : Uneventful d e) : Uneventful c e :=
  ⟨h'.setup.trans h.setup, h'.heard.trans h.heard, h'.fired.trans h.fired,
    h'.lastError.trans h.lastError, h'.punctual ∘ h.punctual⟩

theorem setPhase {p : Phase} (hp : ∀ tick, p ≠ .telling tick) (c : Clock) (w : Nat) :
    Uneventful c (c.setPhase w p) := by
  refine ⟨rfl, rfl, rfl, rfl, fun h => ⟨fun v tick hv => ?_, h.released⟩⟩
  rw [Clock.setPhase, List.getElem?_set] at hv
  split at hv
  · split at hv
    · exact hp tick (Option.some.inj hv)
    · cases hv
  · exact h.silent v tick hv

theorem look (c : Clock) (w : Nat) : Uneventful c (c.look w) := by
  have hlook (tick : Nat) : (if c.halted then Phase.ended else .ticking) ≠ .telling tick := by
    split <;> exact nofun
  exact setPhase hlook c w

theorem launch (c : Clock) : Uneventful c c.launch.2 := by
  have hsend (d : Clock) : d.Punctual → d.send.Punctual := by
    refine fun h => ⟨fun v tick hv => ?_, h.released⟩
    rw [send, List.getElem?_append] at hv
    split at hv
    · exact h.silent v tick hv
    · rw [List.getElem?_singleton] at hv
      split at hv <;> cases hv
  unfold Clock.launch
  split
  · exact .refl c
  · have hopen : Uneventful c c.openSession.2 := ⟨rfl, rfl, rfl, rfl, fun h => ⟨h.1, h.2⟩⟩
    split
    · rename_i heq
      rwa [heq] at hopen
    · rename_i d heq
      rw [heq] at hopen
      exact hopen.trans ⟨rfl, rfl, rfl, rfl, fun h =>
        let hsent := hsend d.clearHalt ⟨h.1, h.2⟩
        ⟨hsent.1, hsent.2⟩⟩

theorem halt (c : Clock) : Uneventful c c.halt.2 := by
  rw [halt_eq]
  exact ⟨rfl, rfl, rfl, rfl, fun h => ⟨h.1, h.2⟩⟩

theorem forget (c : Clock) (w : Nat) : Uneventful c (c.forget w) := by
  unfold Clock.forget
  split
  · exact ⟨rfl, rfl, rfl, rfl, fun h => ⟨h.1, h.2⟩⟩
  · exact .refl c

theorem rewind (c : Clock) : Uneventful c c.rewind :=
  ⟨rfl, rfl, rfl, rfl, fun h => ⟨h.1, h.2⟩⟩

/-- A worker over a stopped stage has nothing to tell. -/
theorem step (h : c.Punctual) (hr : c.stage.running = false) (w : Nat) :
    Uneventful c (c.step w) := by
  unfold Clock.step
  split
  · exact look c w
  · unfold beat
    rw [commit_stopped hr]
    exact setPhase c.setup.pause_ne_telling c w
  · rename_i hphase _
    exact absurd hphase (h.silent w _)
  · rw [h.released, if_neg Bool.false_ne_true]
    exact .refl c
  · split
    · exact setPhase (p := .checking) nofun c w
    · exact .refl c
  · exact .refl c

theorem settle (h : c.Punctual) (hr : c.stage.running = false) : Uneventful c c.settle := by
  unfold Clock.settle
  split
  · rename_i w _
    have hsteps := repeat_invariant
      (P := fun d : Clock => Uneventful c d ∧ d.stage.running = false)
      (fun d ⟨hd, hr'⟩ => ⟨hd.trans (step (hd.punctual h) hr' w), by rw [step_stage hr' w, hr']⟩)
      5 ⟨.refl c, hr⟩
    exact hsteps.1
  · exact .refl c

theorem stop (h : c.Punctual) (p : Value) : Uneventful c (c.stop p).2 := by
  have hhalt := halt c
  have hsettled := hhalt.trans (settle (hhalt.punctual h) c.halt_running)
  rcases c.stop_cases p with ⟨-, heq⟩ | ⟨w, -, heq | ⟨e, heq⟩⟩ <;> rw [heq]
  · exact hhalt
  · exact hsettled.trans (forget _ w)
  · exact hsettled

theorem reset (h : c.Punctual) : Uneventful c c.reset := (stop h patience).trans (rewind _)

end Uneventful

/-! ### Ticks -/

/-- A change in which some ticks are committed, counted and told. -/
structure Delivers (c : Clock) (ticks : List Tick) (d : Clock) : Prop where
  setup : d.setup = c.setup
  fired : d.fired = c.fired + ticks.length
  heard : d.heard = c.heard ++ if c.setup.listener.isSome then ticks.map Tick.number else []
  punctual : c.Punctual → d.Punctual

theorem Uneventful.delivers (h : Uneventful c d) : Delivers c [] d := by
  refine ⟨h.setup, h.fired, ?_, h.punctual⟩
  rw [h.heard, List.map_nil, ite_self, List.append_nil]

theorem Delivers.trans {ticks more : List Tick} (h : Delivers c ticks d)
    (h' : Delivers d more e) : Delivers c (ticks ++ more) e := by
  refine ⟨h'.setup.trans h.setup, ?_, ?_, h'.punctual ∘ h.punctual⟩
  · rw [h'.fired, h.fired, List.length_append, Nat.add_assoc]
  · rw [h'.heard, h.heard, h.setup, List.map_append, List.append_assoc]
    split <;> rfl

theorem Delivers.rest {ticks : List Tick} (h : Delivers c ticks d) (h' : Uneventful d e) :
    Delivers c ticks e :=
  List.append_nil ticks ▸ h.trans h'.delivers

theorem commit_some (h : c.commit = (some tick, d)) :
    ∃ stage, d = { c with stage, fired := c.fired + 1 } := by
  rcases c.commit_cases with ⟨-, hc⟩ | ⟨-, tick', stage, -, hc⟩
  · cases hc.symm.trans h
  · cases hc.symm.trans h
    exact ⟨stage, rfl⟩

theorem commit_none (h : c.commit.1 = none) : c.commit = (none, c) := by
  rcases c.commit_cases with ⟨-, hc⟩ | ⟨-, tick', stage, -, hc⟩
  · exact hc
  · rw [hc] at h
    cases h

theorem delivers_commit (h : c.commit = (some tick, d)) (hl : c.setup.listener = none) :
    Delivers c [tick] d := by
  obtain ⟨stage, rfl⟩ := commit_some h
  refine ⟨rfl, rfl, ?_, fun h => ⟨h.1, h.2⟩⟩
  rw [hl]
  exact (List.append_nil _).symm

theorem delivers_hear {l : Listener} (h : c.commit = (some tick, d))
    (hl : c.setup.listener = some l) : Delivers c [tick] (d.hear tick.number) := by
  obtain ⟨stage, rfl⟩ := commit_some h
  refine ⟨rfl, rfl, ?_, fun h => ⟨h.1, h.2⟩⟩
  rw [hl]
  rfl

theorem tick_eq {l : Listener} (hc : c.commit = (some tick, d))
    (hl : c.setup.listener = some l) :
    c.tick = ((match l.failsAt tick.number with
        | some f => .error (.listener f)
        | none => .ok (some tick)),
      if l.stopsAt tick.number then ((d.hear tick.number).stop patience).2
      else d.hear tick.number) := by
  rw [Clock.tick, hc, hl]
  dsimp only
  cases l.failsAt tick.number <;> rfl

theorem delivers_tick (h : c.Punctual) : Delivers c c.commit.1.toList c.tick.2 := by
  cases hc : c.commit with
  | mk result d =>
    cases result with
    | none =>
      rw [Clock.tick, commit_none (congrArg Prod.fst hc)]
      exact (Uneventful.refl c).delivers
    | some tick =>
      cases hl : c.setup.listener with
      | none =>
        rw [Clock.tick, hc, hl]
        exact delivers_commit hc hl
      | some l =>
        have hheard := delivers_hear hc hl
        rw [tick_eq hc hl]
        dsimp only
        split
        · exact hheard.rest (.stop (hheard.punctual h) patience)
        · exact hheard

/-- The clock when a worker has told the listener of a tick, which may have stopped the clock. -/
def told (c : Clock) (l : Listener) (n : Nat) : Clock :=
  if l.stopsAt n then (c.hear n).halt.2 else c.hear n

theorem tell_eq (c : Clock) (w : Nat) (l : Listener) (n : Nat) :
    c.tell w l n = if l.waitsAt n && !c.released then (c.told l n).setPhase w (.waiting n)
      else (c.told l n).finish w (l.failsAt n) := by
  have hreleased : (c.told l n).released = c.released := by
    unfold told
    split
    · rw [halt_eq]
      rfl
    · rfl
  rw [← hreleased]
  rfl

/-- Where the worker stood before it told the listener makes no difference. -/
theorem tell_setPhase (c : Clock) (w : Nat) (p : Phase) (l : Listener) (n : Nat) :
    (c.setPhase w p).tell w l n = c.tell w l n := by
  have htold : (c.setPhase w p).told l n = (c.told l n).setPhase w p := by
    unfold told
    split
    · exact halt_setPhase (c.hear n)
    · rfl
  have htwice (d : Clock) (q : Phase) : (d.setPhase w p).setPhase w q = d.setPhase w q := by
    rw [setPhase, setPhase, setPhase, List.set_set]
  rw [tell_eq, tell_eq, htold, htwice, finish_setPhase]
  rfl

theorem ticking_of_committed (h : c.committed? (.work w) = some tick) :
    c.workers[w]? = some .ticking ∧ c.commit.1 = some tick := by
  rw [committed?] at h
  split at h
  · exact ⟨‹_›, h⟩
  · cases h

theorem work_ticking (h : c.workers[w]? = some .ticking) : c.work w = c.pulse w := by
  rw [work, h]

/-- A worker that ticks and tells the listener. -/
theorem pulse_eq {l : Listener} (hw : c.workers[w]? = some .ticking)
    (hc : c.commit = (some tick, d)) (hl : c.setup.listener = some l) :
    c.pulse w = d.tell w l tick.number := by
  obtain ⟨stage, rfl⟩ := commit_some hc
  have hlt := (List.getElem?_eq_some_iff.1 hw).1
  have hbeat : c.beat w =
      Clock.setPhase { c with stage, fired := c.fired + 1 } w (.telling tick.number) := by
    rw [beat, hc, hl]
  have hphase : (c.beat w).workers[w]? = some (.telling tick.number) := by
    rw [hbeat]
    exact List.getElem?_set_self hlt
  have hlistener : (c.beat w).setup.listener = some l := by
    rw [hbeat]
    exact hl
  rw [pulse, hphase, hlistener]
  dsimp only
  rw [hbeat, tell_setPhase]

/-- A worker that ticks without a session or without a listener. -/
theorem pulse_quiet (hw : c.workers[w]? = some .ticking)
    (h : c.commit.1 = none ∨ c.setup.listener = none) :
    c.pulse w = c.commit.2.setPhase w c.setup.pause := by
  have hlt := (List.getElem?_eq_some_iff.1 hw).1
  have hbeat : c.beat w = c.commit.2.setPhase w c.setup.pause := by
    cases hc : c.commit with
    | mk result d =>
      cases result with
      | none =>
        cases (commit_none (congrArg Prod.fst hc)).symm.trans hc
        rw [beat, hc]
      | some tick =>
        rw [hc] at h
        obtain ⟨stage, rfl⟩ := commit_some hc
        rw [beat, hc, h.resolve_left nofun]
  have hphase : (c.beat w).workers[w]? = some c.setup.pause := by
    rw [hbeat, setPhase, commit_workers]
    exact List.getElem?_set_self hlt
  rw [pulse, hphase, hbeat]
  split
  · rename_i tick l hpause _
    exact absurd (Option.some.inj hpause) (c.setup.pause_ne_telling tick)
  · rfl

theorem delivers_finish (c : Clock) (w : Nat) (failure : Option Failure) :
    Delivers c [] (c.finish w failure) := by
  cases failure with
  | none => exact (Uneventful.setPhase c.setup.pause_ne_telling c w).delivers
  | some f =>
    have hrecorded : Delivers c [] { c with lastError := some f.text } :=
      ⟨rfl, rfl, by rw [List.map_nil, ite_self, List.append_nil], fun h => ⟨h.1, h.2⟩⟩
    exact hrecorded.rest (.setPhase c.setup.pause_ne_telling _ w)

theorem delivers_pulse (hw : c.workers[w]? = some .ticking) :
    Delivers c c.commit.1.toList (c.pulse w) := by
  cases hc : c.commit with
  | mk result d =>
    cases result with
    | none =>
      rw [pulse_quiet hw (.inl (congrArg Prod.fst hc)), commit_none (congrArg Prod.fst hc)]
      exact (Uneventful.setPhase c.setup.pause_ne_telling c w).delivers
    | some tick =>
      cases hl : c.setup.listener with
      | none =>
        rw [pulse_quiet hw (.inr hl), hc]
        exact (delivers_commit hc hl).rest (.setPhase c.setup.pause_ne_telling d w)
      | some l =>
        rw [pulse_eq hw hc hl]
        have htold : Delivers c [tick] (d.told l tick.number) := by
          unfold told
          split
          · exact (delivers_hear hc hl).rest (.halt _)
          · exact delivers_hear hc hl
        rw [tell_eq]
        split
        · exact htold.rest (.setPhase (p := .waiting tick.number) nofun _ w)
        · exact htold.trans (delivers_finish _ w _)

theorem delivers_perform (h : c.Punctual) (m : Move) :
    Delivers c (c.committed? m).toList (c.perform m) := by
  cases m with
  | start => exact (Uneventful.launch c).delivers
  | stop p => exact (Uneventful.stop h p).delivers
  | reset => exact (Uneventful.reset h).delivers
  | tick => exact delivers_tick h
  | halt => exact (Uneventful.halt c).delivers
  | forget w => exact (Uneventful.forget c w).delivers
  | rewind => exact (Uneventful.rewind c).delivers
  | work w =>
    change Delivers c (if c.workers[w]? = some .ticking then c.commit.1 else none).toList (c.work w)
    by_cases hw : c.workers[w]? = some .ticking
    · rw [if_pos hw, work_ticking hw]
      exact delivers_pulse hw
    · rw [if_neg hw]
      unfold work
      split
      · exact (Uneventful.look c w).delivers
      · contradiction
      · exact (Uneventful.setPhase (p := .checking) nofun c w).delivers
      · exact (Uneventful.refl c).delivers

theorem delivers_run (h : c.Punctual) (moves : List Move) :
    Delivers c (c.commits moves) (c.run moves) := by
  induction moves generalizing c with
  | nil => exact (Uneventful.refl c).delivers
  | cons m moves ih =>
    have hfirst := delivers_perform h m
    exact hfirst.trans (ih (hfirst.punctual h))

/-! ### Numbers -/

/-- Whether a move puts the stage back. -/
def Move.rewinds : Move → Bool
  | .reset | .rewind => true
  | _ => false

theorem tell_stage (c : Clock) (w : Nat) (l : Listener) (n : Nat) :
    (c.tell w l n).stage = if l.stopsAt n then c.stage.stop.2 else c.stage := by
  have htold : (c.told l n).stage = if l.stopsAt n then c.stage.stop.2 else c.stage := by
    unfold told
    split
    · rw [halt_eq]
      rfl
    · rfl
  rw [tell_eq, ← htold]
  split
  · rfl
  · exact finish_stage ..

theorem tick_stage {l : Listener} (hc : c.commit = (some tick, d))
    (hl : c.setup.listener = some l) :
    c.tick.2.stage = if l.stopsAt tick.number then d.stage.stop.2 else d.stage := by
  rw [tick_eq hc hl]
  dsimp only
  split
  · exact stop_stage ..
  · rfl

/-- A move that commits a tick leaves the stage at the number of the tick. -/
theorem perform_committed {m : Move} (h : c.committed? m = some tick) :
    tick.number = c.stage.ticks + 1 ∧ (c.perform m).stage.ticks = tick.number := by
  have hstop (l : Listener) (d : Clock) :
      (if l.stopsAt tick.number then d.stage.stop.2 else d.stage).ticks = d.stage.ticks := by
    split
    · exact Stage.stop_ticks _
    · rfl
  cases m with
  | tick =>
    obtain ⟨d, hc⟩ := exists_commit h
    obtain ⟨hnumber, hticks⟩ := commit_number hc
    refine ⟨hnumber, ?_⟩
    change c.tick.2.stage.ticks = _
    cases hl : c.setup.listener with
    | none => rwa [Clock.tick, hc, hl]
    | some l => rw [tick_stage hc hl, hstop, hticks]
  | work w =>
    obtain ⟨hw, hcommit⟩ := ticking_of_committed h
    obtain ⟨d, hc⟩ := exists_commit hcommit
    obtain ⟨hnumber, hticks⟩ := commit_number hc
    refine ⟨hnumber, ?_⟩
    change (c.work w).stage.ticks = _
    rw [work_ticking hw]
    cases hl : c.setup.listener with
    | none =>
      rw [pulse_quiet hw (.inr hl), hc]
      exact hticks
    | some l => rw [pulse_eq hw hc hl, tell_stage, hstop, hticks]
  | start | stop | reset | halt | forget | rewind => cases h

/-- Any other move leaves the count of the stage as it is, or puts it back. -/
theorem perform_uncommitted {m : Move} (h : c.committed? m = none) :
    (c.perform m).stage.ticks = if m.rewinds then 0 else c.stage.ticks := by
  cases m with
  | start =>
    have hopen : c.openSession.2.stage.ticks = c.stage.ticks := c.stage.start_ticks
    change c.launch.2.stage.ticks = _
    unfold launch
    split
    · rfl
    · split <;> (rename_i heq; rw [heq] at hopen; exact hopen)
  | stop p =>
    change (c.stop p).2.stage.ticks = _
    rw [stop_stage, Stage.stop_ticks]
    rfl
  | reset | rewind => rfl
  | tick =>
    change c.tick.2.stage.ticks = _
    rw [Clock.tick, commit_none h]
    rfl
  | halt =>
    change c.halt.2.stage.ticks = _
    rw [halt_eq]
    exact Stage.stop_ticks _
  | forget w =>
    change (c.forget w).stage.ticks = _
    rw [forget_stage]
    rfl
  | work w =>
    change (c.work w).stage.ticks = c.stage.ticks
    unfold work
    split
    · rfl
    · rename_i hw
      rw [committed?, if_pos hw] at h
      rw [pulse_quiet hw (.inl h), commit_none h]
      rfl
    · rfl
    · rfl

/-! ### Failures -/

/-- The same clock with a listener that never fails. -/
def calmed (c : Clock) : Clock :=
  { c with setup := { c.setup with listener := c.setup.listener.map Listener.calm } }

theorem listener_calmed {l : Listener} (h : c.setup.listener = some l) :
    c.calmed.setup.listener = some l.calm := by
  rw [calmed, h]
  rfl

theorem commit_calmed (c : Clock) : c.calmed.commit = (c.commit.1, c.commit.2.calmed) := by
  unfold commit
  cases hs : c.stage.tick with
  | mk result stage =>
    rw [show c.calmed.stage = c.stage from rfl, hs]
    cases result with
    | none => rfl
    | some poses =>
      dsimp only
      rw [show c.calmed.setup.collides = c.setup.collides from rfl]
      split <;> rfl

theorem halt_calmed (c : Clock) : c.calmed.halt = (c.halt.1, c.halt.2.calmed) := by
  apply Prod.ext
  · rw [halt_answer, halt_answer]
    rfl
  · rw [halt_eq, halt_eq]
    rfl

/-- A worker that has nothing to tell does not notice whether the listener fails. -/
theorem step_calmed (h : c.Punctual) (hr : c.stage.running = false) (w : Nat) :
    c.calmed.step w = (c.step w).calmed := by
  have hworkers : c.calmed.workers[w]? = c.workers[w]? := rfl
  have hlistener : c.calmed.setup.listener = c.setup.listener.map Listener.calm := rfl
  unfold step
  rw [hworkers, hlistener]
  cases hphase : c.workers[w]? with
  | none => rfl
  | some p =>
    cases p with
    | checking => rfl
    | ticking =>
      dsimp only
      unfold beat
      rw [commit_calmed, commit_stopped hr]
      rfl
    | telling tick => exact absurd hphase (h.silent w tick)
    | waiting tick =>
      have hreleased : c.calmed.released = false := h.released
      cases c.setup.listener with
      | none => rfl
      | some l =>
        dsimp only [Option.map_some]
        rw [hreleased, h.released]
        rfl
    | sleeping =>
      dsimp only
      cases hhalted : c.halted <;> rw [show c.calmed.halted = c.halted from rfl, hhalted] <;> rfl
    | ended => rfl

theorem settle_calmed (h : c.Punctual) (hr : c.stage.running = false) :
    c.calmed.settle = c.settle.calmed := by
  unfold settle
  rw [show c.calmed.current = c.current from rfl]
  cases c.current with
  | none => rfl
  | some w =>
    have steps (n : Nat) :
        Nat.repeat (fun d => d.step w) n c.calmed = (Nat.repeat (fun d => d.step w) n c).calmed ∧
        Uneventful c (Nat.repeat (fun d => d.step w) n c) ∧
        (Nat.repeat (fun d => d.step w) n c).stage.running = false := by
      induction n with
      | zero => exact ⟨rfl, .refl c, hr⟩
      | succ n ih =>
        obtain ⟨hcalm, hsame, hstopped⟩ := ih
        have hpunctual := hsame.punctual h
        refine ⟨?_, hsame.trans (.step hpunctual hstopped w), ?_⟩
        · rw [Nat.repeat, hcalm]
          exact step_calmed hpunctual hstopped w
        · rw [Nat.repeat, step_stage hstopped w, hstopped]
    exact (steps 5).1

theorem forget_calmed (c : Clock) (w : Nat) : c.calmed.forget w = (c.forget w).calmed := by
  unfold forget
  rw [show c.calmed.current = c.current from rfl,
    show c.calmed.isAlive w = c.isAlive w from rfl]
  split <;> rfl

theorem stop_calmed (h : c.Punctual) (p : Value) :
    c.calmed.stop p = ((c.stop p).1, (c.stop p).2.calmed) := by
  have hsettled := settle_calmed ((Uneventful.halt c).punctual h) c.halt_running
  unfold stop
  rw [halt_calmed, show c.calmed.current = c.current from rfl]
  cases c.current with
  | none => rfl
  | some w =>
    dsimp only
    rw [show c.halt.2.calmed.readPatience w p = c.halt.2.readPatience w p from rfl, hsettled,
      forget_calmed]
    split <;> rfl

/-- A tick leaves the clock as it is left when the listener does not fail. -/
theorem tick_calmed (h : c.Punctual) : c.calmed.tick.2 = c.tick.2.calmed := by
  have hcalmed := c.commit_calmed
  cases hc : c.commit with
  | mk result d =>
    rw [hc] at hcalmed
    cases result with
    | none => rw [Clock.tick, Clock.tick, hc, hcalmed]
    | some tick =>
      cases hl : c.setup.listener with
      | none =>
        have hl' : c.calmed.setup.listener = none := by rw [calmed, hl]; rfl
        rw [Clock.tick, Clock.tick, hc, hcalmed, hl, hl']
      | some l =>
        rw [tick_eq hc hl, tick_eq hcalmed (listener_calmed hl),
          show l.calm.stopsAt = l.stopsAt from rfl,
          show d.calmed.hear tick.number = (d.hear tick.number).calmed from rfl,
          stop_calmed ((delivers_hear hc hl).punctual h)]
        dsimp only
        split <;> rfl

theorem tick_failed {l : Listener} {f : Failure} (hc : c.commit.1 = some tick)
    (hl : c.setup.listener = some l) (hf : l.failsAt tick.number = some f) :
    c.tick.1 = .error (.listener f) ∧ c.calmed.tick.1 = .ok (some tick) := by
  obtain ⟨d, hd⟩ := exists_commit hc
  have hcalmed := c.commit_calmed
  rw [hd] at hcalmed
  rw [tick_eq hd hl, tick_eq hcalmed (listener_calmed hl), hf]
  exact ⟨rfl, rfl⟩

theorem tick_lastError (h : c.Punctual) : c.tick.2.lastError = c.lastError := by
  cases hc : c.commit with
  | mk result d =>
    cases result with
    | none => rw [Clock.tick, commit_none (congrArg Prod.fst hc)]
    | some tick =>
      have hd : d.lastError = c.lastError := by
        obtain ⟨stage, rfl⟩ := commit_some hc
        rfl
      cases hl : c.setup.listener with
      | none => rwa [Clock.tick, hc, hl]
      | some l =>
        rw [tick_eq hc hl]
        dsimp only
        split
        · exact (Uneventful.stop ((delivers_hear hc hl).punctual h) patience).lastError.trans hd
        · exact hd

/-- A failure of the listener on a worker is recorded, and nothing else is changed by it. -/
theorem pulse_failed {l : Listener} {f : Failure} (hw : c.workers[w]? = some .ticking)
    (hc : c.commit.1 = some tick) (hl : c.setup.listener = some l)
    (hwaits : l.waitsAt tick.number = false) (hf : l.failsAt tick.number = some f) :
    (c.pulse w).calmed = { c.calmed.pulse w with lastError := some f.text } := by
  obtain ⟨d, hd⟩ := exists_commit hc
  have hcalmed := c.commit_calmed
  rw [hd] at hcalmed
  have hw' : c.calmed.workers[w]? = some .ticking := hw
  have htold : d.calmed.told l.calm tick.number = (d.told l tick.number).calmed := by
    unfold told
    rw [show l.calm.stopsAt = l.stopsAt from rfl,
      show d.calmed.hear tick.number = (d.hear tick.number).calmed from rfl, halt_calmed]
    split <;> rfl
  rw [pulse_eq hw hd hl, pulse_eq hw' hcalmed (listener_calmed hl), tell_eq, tell_eq, htold, hf,
    show l.calm.waitsAt = l.waitsAt from rfl, hwaits]
  rfl

/-- After a tick that did not keep it in the listener a worker sleeps, if it can, and it is told to
halt if it was before or the listener has stopped the clock. -/
theorem pulse_rests {l : Listener} (hw : c.workers[w]? = some .ticking)
    (hc : c.commit.1 = some tick) (hl : c.setup.listener = some l)
    (hwaits : l.waitsAt tick.number = false) :
    (c.pulse w).workers[w]? = some c.setup.pause ∧
      (c.pulse w).halted = (c.halted || l.stopsAt tick.number && c.current.isSome) := by
  obtain ⟨d, hd⟩ := exists_commit hc
  rw [pulse_eq hw hd hl, tell_eq, hwaits, Bool.false_and, if_neg Bool.false_ne_true]
  obtain ⟨stage, rfl⟩ := commit_some hd
  have hlt := (List.getElem?_eq_some_iff.1 hw).1
  have hrests (e : Clock) (failure : Option Failure) (hsetup : e.setup = c.setup)
      (hworkers : e.workers = c.workers) :
      (e.finish w failure).workers[w]? = some c.setup.pause ∧
        (e.finish w failure).halted = e.halted := by
    rw [← hsetup]
    cases failure <;>
      exact ⟨List.getElem?_set_self (by rw [hworkers]; exact hlt), rfl⟩
  unfold told
  cases l.stopsAt tick.number with
  | true =>
    rw [if_pos rfl, halt_eq]
    exact hrests _ _ rfl rfl
  | false =>
    rw [if_neg Bool.false_ne_true, Bool.false_and, Bool.or_false]
    exact hrests _ _ rfl rfl

theorem work_asleep (h : c.workers[w]? = some .sleeping) :
    ((c.work w).work w).workers[w]? = some (if c.halted then .ended else .ticking) := by
  have hlt := (List.getElem?_eq_some_iff.1 h).1
  have hawake : c.work w = c.setPhase w .checking := by rw [work, h]
  have hchecking : (c.setPhase w .checking).workers[w]? = some .checking :=
    List.getElem?_set_self hlt
  rw [hawake, work, hchecking]
  exact List.getElem?_set_self (by rw [setPhase, List.length_set]; exact hlt)

/-- The law of delivery, for every run of a clock, with any listener. Each tick that is committed is
counted once, and the listener is told of it once, in order, by the number that the stage counts. If
the listener fails on a worker that it does not keep, the failure is recorded, and otherwise the
clock is as it is when the listener does not fail: the worker sleeps, as it can for any interval
that comes from the settings, and then ticks again unless it was told to halt. If it fails on a
client, the client is answered with the failure, nothing is recorded, and the clock is as it is when
the listener does not fail. -/
theorem delivery_law (setup : Setup) (stage : Stage) (moves : List Move) :
    let c := run { setup, stage } moves
    c.fired = (commits { setup, stage } moves).length ∧
    (setup.listener.isSome = true →
      c.heard = (commits { setup, stage } moves).map Tick.number) ∧
    (∀ m tick, c.committed? m = some tick →
      tick.number = c.stage.ticks + 1 ∧ (c.perform m).stage.ticks = tick.number) ∧
    (∀ m, c.committed? m = none →
      (c.perform m).stage.ticks = if m.rewinds then 0 else c.stage.ticks) ∧
    (∀ l w tick f, setup.listener = some l → c.committed? (.work w) = some tick →
      l.waitsAt tick.number = false → l.failsAt tick.number = some f →
      (c.work w).lastError = some f.text ∧
      (c.work w).calmed = { c.calmed.work w with lastError := some f.text } ∧
      (c.work w).workers[w]? = some setup.pause ∧
      (setup.interval = .null → setup.pause = .sleeping) ∧
      (setup.pause = .sleeping → (((c.work w).work w).work w).workers[w]? =
        some (if c.halted || l.stopsAt tick.number && c.current.isSome then .ended
          else .ticking))) ∧
    ∀ l tick f, setup.listener = some l → c.committed? .tick = some tick →
      l.failsAt tick.number = some f →
      c.tick.1 = .error (.listener f) ∧ c.calmed.tick.1 = .ok (some tick) ∧
      c.tick.2.calmed = c.calmed.tick.2 ∧ c.tick.2.lastError = c.lastError := by
  intro c
  have hfirst : Punctual { setup, stage } := ⟨fun _ _ => nofun, rfl⟩
  have hrun : Delivers { setup, stage } (commits { setup, stage } moves) c :=
    delivers_run hfirst moves
  have hpunctual := hrun.punctual hfirst
  have hsetup : c.setup = setup := hrun.setup
  refine ⟨hrun.fired.trans (Nat.zero_add _), fun hl => ?_, fun m tick => perform_committed,
    fun m => perform_uncommitted, fun l w tick f hl hcommitted hwaits hf => ?_,
    fun l tick f hl hc hf => ?_⟩
  · rw [hrun.heard, if_pos hl]
    exact List.nil_append _
  · rw [← hsetup] at hl
    obtain ⟨hw, hcommit⟩ := ticking_of_committed hcommitted
    have hfailed := pulse_failed hw hcommit hl hwaits hf
    obtain ⟨hphase, hhalted⟩ := pulse_rests hw hcommit hl hwaits
    rw [work_ticking hw, work_ticking (c := c.calmed) hw, ← hhalted]
    rw [hsetup] at hphase
    exact ⟨congrArg Clock.lastError hfailed, hfailed, hphase, Setup.pause_of_settings,
      fun hpause => work_asleep (hpause ▸ hphase)⟩
  · rw [← hsetup] at hl
    obtain ⟨hanswer, hcalm⟩ := tick_failed hc hl hf
    exact ⟨hanswer, hcalm, (tick_calmed hpunctual).symm, tick_lastError hpunctual⟩

/-- A clock whose listener fails at the first two ticks. -/
def shaky : Setup where
  autoCollide := .bool false
  listener := some {
    stopsAt := fun _ => false
    waitsAt := fun _ => false
    failsAt := fun tick => if tick ≤ 2 then some ⟨"RuntimeError", "listener exploded"⟩ else none }

/-- The law of delivery for that clock: its worker goes on after the first failure, a client is
answered with the second, and the listener was told of both ticks. -/
theorem delivery_of_shaky :
    let c := run { setup := shaky } [.start, .work 0]
    (∃ tick, c.committed? (.work 0) = some tick ∧
      (c.work 0).lastError = some "RuntimeError: listener exploded" ∧
      (((c.work 0).work 0).work 0).workers[0]? = some .ticking) ∧
    (∃ tick, (c.work 0).committed? .tick = some tick ∧
      (c.work 0).tick.1 = .error (.listener ⟨"RuntimeError", "listener exploded"⟩) ∧
      (c.work 0).tick.2.lastError = (c.work 0).lastError) ∧
    (c.work 0).tick.2.heard = [1, 2] ∧ (c.work 0).tick.2.fired = 2 := by
  intro c
  obtain ⟨-, -, -, -, hworker, -⟩ := delivery_law shaky {} [.start, .work 0]
  obtain ⟨-, -, -, -, -, hclient⟩ := delivery_law shaky {} [.start, .work 0, .work 0]
  obtain ⟨hfired, hheard, -⟩ := delivery_law shaky {} [.start, .work 0, .work 0, .tick]
  refine ⟨?_, ?_, (hheard rfl).trans rfl, hfired.trans rfl⟩
  · obtain ⟨hrecorded, -, -, hpause, hgoes⟩ := hworker _ 0 _ _ rfl rfl rfl rfl
    exact ⟨_, rfl, hrecorded, hgoes (hpause rfl)⟩
  · obtain ⟨hanswer, -, -, hkept⟩ := hclient _ _ _ rfl rfl rfl
    exact ⟨_, rfl, hanswer, hkept⟩

end Clock

end SpriteStage
