import SpriteStage.Proofs.Clock.Agreement
import SpriteStage.Proofs.Clock.Stages
import SpriteStage.Proofs.Interpreter.Walk

/-!
# What a stop answers

A stop answers yes if the session ran or a worker is on record. A worker stays on record over a
stopped session while another stop waits for it, or after one that found it alive once its wait was
over: it gave up, or was called by the worker itself from inside the listener. It is also left there
by a reset that was overtaken by a start. Only then does a stop answer yes that has stopped nothing.
-/

namespace SpriteStage

namespace System

variable {s t : System} {a b : Agent} {e : Event} {es : List Event} {w : Nat}

/-- Whether an agent is in a stop that has closed the session and found a worker on record. -/
def Stops (s : System) (b : Agent) (w : Nat) : Prop :=
  ∃ aim, s.calls b = .stop (.signalling w) aim ∨ s.calls b = .stop (.joining w) aim ∨
    s.calls b = .stop (.forgetting w) aim

/-- Since the latest opening a reset put the stage back, or a stop closed the session that still
waits for the worker, or is over. -/
def Lingers (es : List Event) (s : System) (w : Nat) : Prop :=
  (∃ b, (b, Act.rewound) ∈ sinceOpening es) ∨
  ∃ b, (b, Act.closed) ∈ sinceOpening es ∧
    (Stops s b w ∨ (b, Act.forgot) ∈ sinceOpening es ∨ (b, Act.failed) ∈ sinceOpening es)

namespace Step

/-- The record changes only when a start puts a worker on it or a worker is struck off. -/
theorem current (step : Step s e t) :
    t.clock.current = s.clock.current ∨ e.2 = .recorded ∨ t.clock.current = none := by
  cases step with
  | record => exact .inr (.inl rfl)
  | tick => exact .inl s.clock.tame_commit.current
  | beat hw =>
    exact .inl (Clock.tame_beat (Clock.isAlive_of_phase hw (by decide))).current
  | leave failure => exact .inl (Clock.finish_current ..)
  | forget =>
    simp only [Clock.forget]
    split
    · exact .inr (.inr rfl)
    · exact .inl rfl
  | _ => exact .inl rfl

/-- A stop that closes the session goes on with the worker on record. -/
theorem closed_stops (step : Step s e t) (h : s.Sound) (he : e.2 = .closed)
    (hw : s.clock.current = some w) : Stops t e.1 w := by
  cases step with
  | close hc =>
    obtain ⟨-, -, current⟩ := h.known hc rfl
    cases current.symm.trans hw
    exact ⟨_, .inl (go_self _)⟩
  | closeAlone hc =>
    obtain ⟨-, -, current⟩ := h.known hc rfl
    cases current.symm.trans hw
  | _ => cases he

/-- A stop goes on until it is over. -/
theorem stops (step : Step s e t) (h : Stops s b w) :
    Stops t b w ∨ e = (b, .forgot) ∨ e = (b, .failed) := by
  by_cases hb : b = e.1
  · subst hb
    obtain ⟨aim, hc⟩ := h
    cases step with
    | forget => exact .inr (.inl rfl)
    | failJoin => exact .inr (.inr rfl)
    | @signal _ v aim' hv =>
      refine .inl ⟨aim', .inr (.inl ?_)⟩
      simp_all
    | @join _ v aim' hv =>
      refine .inl ⟨aim', .inr (.inr ?_)⟩
      simp_all
    | look | beat | wake => exact .inl ⟨aim, hc⟩
    | _ => simp_all
  · obtain ⟨aim, hc⟩ := h
    exact .inl ⟨aim, by rwa [step.calls_other hb]⟩

theorem recorded (step : Step s e t) (he : e.2 = .recorded) :
    late (s.calls e.1) = true ∧ t.clock.stage = s.clock.stage := by
  cases step with
  | record hc =>
    rw [hc]
    exact ⟨rfl, rfl⟩
  | _ => cases he

end Step

namespace Lingers

/-- A worker that lingers does so until a session is opened. -/
theorem step (h : Lingers es s w) (ho : e.2 ≠ .opened) (step : Step s e t) :
    Lingers (e :: es) t w := by
  rw [Lingers, sinceOpening_cons ho]
  rcases h with ⟨b, hb⟩ | ⟨b, hb, hstops | hover⟩
  · exact .inl ⟨b, .tail e hb⟩
  · refine .inr ⟨b, .tail e hb, ?_⟩
    rcases step.stops hstops with h | h | h
    · exact .inl h
    · exact .inr (.inl (h ▸ .head _))
    · exact .inr (.inr (h ▸ .head _))
  · exact .inr ⟨b, .tail e hb, .inr (hover.imp (.tail e) (.tail e))⟩

/-- Whatever is on record over a stopped session lingers there. -/
theorem trace {setup : Setup} {stage : Stage} (trace : Trace (initial setup stage) es s)
    (hw : s.clock.current = some w) (hr : s.clock.stage.running = false) : Lingers es s w := by
  induction trace with
  | nil => cases hw
  | @cons es e s t past step ih =>
    have sound := (Sound.initial setup stage).trace past
    have tracked := Tracked.trace past
    have ho : e.2 ≠ .opened := fun ho => by cases (step.opened ho).symm.trans hr
    by_cases hrecorded : e.2 = .recorded
    · -- the start has put its worker on record after a reset ended the session
      obtain ⟨hlate, hstage⟩ := step.recorded hrecorded
      rw [hstage] at hr
      obtain ⟨hclosed, hopened⟩ := tracked.late e.1 hlate
      obtain ⟨b, hb | hb⟩ := tracked.stopped hopened hr
      · exact absurd hb (hclosed b)
      · rw [Lingers, sinceOpening_cons ho]
        exact .inl ⟨b, .tail e hb⟩
    · have hw' : s.clock.current = some w := by
        rcases step.current with h | h | h
        · rwa [h] at hw
        · exact absurd h hrecorded
        · cases h.symm.trans hw
      by_cases hend : e.2 = .closed ∨ e.2 = .rewound
      · rw [Lingers, sinceOpening_cons ho]
        rcases hend with he | he
        · exact .inr ⟨e.1, he ▸ .head _, .inl (step.closed_stops sound he hw')⟩
        · exact .inl ⟨e.1, he ▸ .head _⟩
      · have hr' : s.clock.stage.running = false := Bool.eq_false_iff.2 fun hrunning => by
          have := step.running hrunning (fun he => hend (.inl he)) fun he => hend (.inr he)
          cases this.symm.trans hr
        exact (ih hw' hr').step ho step

end Lingers

end System

namespace Clock

variable {c : Clock}

/-! ### Calls one at a time -/

theorem halt_answer (c : Clock) : c.halt.1 = (c.stage.running || c.current.isSome) := by
  unfold halt closeSession Stage.stop
  cases c.current <;> cases c.stage.running <;> rfl

theorem halt_stage (h : c.stage.running = false) : c.halt.2.stage = c.stage := by
  rw [halt_eq, Stage.stop, h]
  rfl

theorem halt_of_stopped (h : c.stage.running = false) (hnone : c.current = none) :
    c.halt = (false, c) := by
  apply Prod.ext
  · rw [halt_answer, h, hnone]
    rfl
  · rw [halt_of_none hnone, closeSession, Stage.stop, h]
    rfl

theorem halt_running (c : Clock) : c.halt.2.stage.running = false := by
  rw [halt_eq]
  exact Stage.stop_running _

theorem commit_stopped (h : c.stage.running = false) : c.commit = (none, c) := by
  rcases c.commit_cases with ⟨-, hc⟩ | ⟨hr, -⟩
  · exact hc
  · cases h.symm.trans hr

/-- Over a stopped stage a worker leaves the stage as it is. -/
theorem step_stage (h : c.stage.running = false) (w : Nat) : (c.step w).stage = c.stage := by
  have htold (l : Listener) (tick : Nat) :
      (if l.stopsAt tick then (c.hear tick).halt.2 else c.hear tick).stage = c.stage := by
    split
    · exact halt_stage (c := c.hear tick) h
    · rfl
  unfold step
  split
  · rfl
  · obtain ⟨p, hp⟩ := c.beat_eq w
    rw [hp, commit_stopped h]
    rfl
  · rename_i tick l _ _
    have hd := htold l tick
    unfold tell
    dsimp only
    generalize (if l.stopsAt tick then (c.hear tick).halt.2 else c.hear tick) = d at hd
    split
    · exact hd
    · rw [finish_stage]
      exact hd
  · split
    · exact finish_stage ..
    · rfl
  · split <;> rfl
  · rfl

theorem settle_stage (h : c.stage.running = false) : c.settle.stage = c.stage := by
  unfold settle
  split
  · rename_i w _
    exact repeat_invariant (P := fun d : Clock => d.stage = c.stage)
      (fun d hd => (step_stage (hd ▸ h) w).trans hd) 5 rfl
  · rfl

theorem stop_stage (c : Clock) (p : Value) : (c.stop p).2.stage = c.stage.stop.2 := by
  have hstage : c.halt.2.stage = c.stage.stop.2 := by rw [halt_eq]
  have hsettled := (settle_stage c.halt_running).trans hstage
  rcases c.stop_cases p with ⟨-, h⟩ | ⟨w, -, h | ⟨e, h⟩⟩ <;> rw [h]
  · exact hstage
  · rw [forget_stage]
    exact hsettled
  · exact hsettled

/-- Unless it is told to wait for some other time, a stop does not fail. -/
theorem stop_answer (c : Clock) :
    (c.stop patience).1 = .ok (c.stage.running || c.current.isSome) := by
  have hpatience (d : Clock) (w : Nat) : d.readPatience w patience = .ok 3.0 := by
    have hread : patience.toFloat = .ok 3.0 := rfl
    have htime : (if (3.0 : Float) > 0.1 then (3.0 : Float) else 0.1) = 3.0 := if_pos (by decide)
    unfold readPatience
    rw [hread]
    dsimp only
    rw [htime, show Lock.isWaitable 3.0 = true by decide, Bool.not_true, Bool.and_false,
      if_neg Bool.false_ne_true]
  unfold stop
  rw [← halt_answer]
  cases hc : c.current with
  | none => rfl
  | some w =>
    dsimp only
    rw [hpatience, halt_answer, hc, Option.isSome_some, Bool.or_true]

end Clock

namespace System

variable {s : System} {es : List Event}

/-- The law of the answers to stops, in every interleaving, with any listener. A stop answers yes
exactly if the session runs when it is closed or a worker is on record. It leaves the session
stopped, and a stage that was stopped as it was; with no worker on record it then changes nothing at
all and answers no. A worker is on record over a stopped session only if, since the session was
opened, a reset put the stage back, or a stop closed the session that still waits for the worker or
is over without having found that the worker has ended. One call after the other gives the same
answers, and no stop fails unless it is told to wait for some other time. -/
theorem answer_law {setup : Setup} {stage : Stage} (trace : Trace (initial setup stage) es s) :
    (∀ a worker aim, s.calls a = .stop (.closing worker) aim →
      worker = s.clock.current ∧
      (s.clock.halt.1 = true ↔ s.clock.stage.running = true ∨ worker.isSome = true) ∧
      s.clock.halt.2.stage.running = false ∧
      (s.clock.stage.running = false → s.clock.halt.2.stage = s.clock.stage) ∧
      (s.clock.stage.running = false → worker = none → s.clock.halt = (false, s.clock)) ∧
      ∀ w, worker = some w → s.clock.stage.running = false →
        (∃ b, (b, Act.rewound) ∈ sinceOpening es) ∨
        ∃ b, (b, Act.closed) ∈ sinceOpening es ∧
          ((∃ aim, s.calls b = .stop (.joining w) aim ∨ s.calls b = .stop (.forgetting w) aim) ∨
            (b, Act.forgot) ∈ sinceOpening es ∨ (b, Act.failed) ∈ sinceOpening es)) ∧
    ∀ c : Clock,
      (c.stop Clock.patience).1 = .ok (c.stage.running || c.current.isSome) ∧
      ∀ p, (c.stop p).2.stage = c.stage.stop.2 := by
  refine ⟨fun a worker aim hc => ?_, fun c => ⟨c.stop_answer, c.stop_stage⟩⟩
  have sound := (Sound.initial setup stage).trace trace
  obtain ⟨ha, -, rfl⟩ := sound.known hc rfl
  refine ⟨rfl, ?_, s.clock.halt_running, Clock.halt_stage, Clock.halt_of_stopped,
    fun w hw hr => ?_⟩
  · rw [Clock.halt_answer, Bool.or_eq_true]
  · rcases Lingers.trace trace hw hr with h | ⟨b, hb, ⟨aim', h⟩ | h⟩
    · exact .inl h
    · refine .inr ⟨b, hb, .inl ⟨aim', h.resolve_left fun hsignal => ?_⟩⟩
      -- no one else is inside the gate
      have hba : b = a := sound.only ha (by rw [hsignal]; rfl)
      rw [hba, hc] at hsignal
      cases hsignal
    · exact .inr ⟨b, hb, .inr h⟩

/-- A clock whose listener stops it at the first tick. -/
def brief : Setup where
  interval := .int 5
  autoCollide := .bool false
  listener := some ⟨fun tick => tick == 1, fun _ => false, fun _ => none⟩

/-- The clock was started, and its worker has stopped it. The session does not run any more, but the
next stop answers yes. -/
theorem stop_after_brief :
    (Clock.start { setup := brief }).1 = .ok true ∧
      (Clock.start { setup := brief }).2.stage.running = false ∧
      ((Clock.start { setup := brief }).2.stop Clock.patience).1 = .ok true := by
  exact ⟨rfl, rfl, rfl⟩

/-- The law of answers at that stop. -/
theorem answer_after_brief : ∃ es s, Trace (initial brief {}) es s ∧
    s.calls (.client 1) = .stop (.closing (some 0)) .stop ∧ s.clock.stage.running = false ∧
    s.clock.halt.1 = true ∧ s.clock.halt.2.stage = s.clock.stage := by
  have asked := Trace.nil.cons (Step.ask (s := initial brief {}) (i := 0) .start rfl)
  have opened := (asked.cons (.enterStart (a := .client 0) rfl rfl rfl)).cons
    (.openSession (a := .client 0) rfl rfl)
  have sent := (opened.cons (.clear (a := .client 0) rfl)).cons (.send (a := .client 0) rfl)
  have looked := (sent.cons (.record (a := .client 0) rfl)).cons (.look (w := 0) rfl)
  have heard := (looked.cons (.beat (w := 0) rfl)).cons (.hear (w := 0) rfl rfl)
  have entered := (heard.cons (.stopFromListener (a := .worker 0) rfl)).cons
    (.enterStop (a := .worker 0) rfl rfl)
  have closed := (entered.cons (.close (a := .worker 0) (w := 0) rfl)).cons
    (.signal (a := .worker 0) rfl)
  have stopped := (closed.cons (.join (a := .worker 0) rfl)).cons (.forget (a := .worker 0) rfl rfl)
  have again := (stopped.cons (.ask (i := 1) .stop rfl)).cons
    (.enterStop (a := .client 1) rfl rfl)
  obtain ⟨-, hanswer, -, hstage, -⟩ := (answer_law again).1 (.client 1) (some 0) .stop rfl
  exact ⟨_, _, again, rfl, rfl, hanswer.2 (.inr rfl), hstage rfl⟩

end System

end SpriteStage
