import SpriteStage.Proofs.Clock.Workers

/-!
# When the worker and the session agree

A stop ends the session and tells the worker to halt in one visit to the gate, but a reset puts the
stage back, and with it ends the session, after it has left the gate. A start that comes in between
is undone by the reset: its worker lives on, not told to halt, over a stage without a session. This
is the only way in which worker and session come apart.
-/

namespace SpriteStage

namespace System

variable {s t : System} {a b : Agent} {e : Event} {es : List Event}

/-- The events since the latest session was opened, the latest first. -/
def sinceOpening (es : List Event) : List Event := es.takeWhile fun e => e.2 != .opened

theorem sinceOpening_opened (h : e.2 = .opened) : sinceOpening (e :: es) = [] := by
  simp [sinceOpening, h]

theorem sinceOpening_cons (h : e.2 ≠ .opened) :
    sinceOpening (e :: es) = e :: sinceOpening es := by
  simp [sinceOpening, h]

theorem mem_sinceOpening_cons {x : Event} :
    x ∈ sinceOpening (e :: es) ↔ e.2 ≠ .opened ∧ (x = e ∨ x ∈ sinceOpening es) := by
  by_cases h : e.2 = .opened
  · simp [sinceOpening_opened h, h]
  · simp [sinceOpening_cons h, h]

/-- A reset put the stage back after the latest session was opened, though the stop that was part of
it had closed the session before. -/
def Overtaken (es : List Event) : Prop :=
  ∃ a b late mid early, es = late ++ (a, .rewound) :: (mid ++ (b, .opened) :: early) ∧
    (∀ c, (c, Act.opened) ∉ late ++ mid) ∧ (a, Act.closed) ∉ mid

/-- Whether an agent is in a start that has opened the session. -/
def late : Call → Bool
  | .start .clearing | .start .sending | .start (.recording _) => true
  | _ => false

theorem late_next (aim : Aim) : late aim.next = false := by cases aim <;> rfl

theorem late_failed (aim : Aim) : late aim.failed = false := by cases aim <;> rfl

theorem isInside_of_late {call : Call} (h : late call = true) : call.isInside = true := by
  unfold late at h
  split at h <;> first | rfl | cases h

namespace Step

theorem calls_other (step : Step s e t) (h : b ≠ e.1) : t.calls b = s.calls b := by
  cases step <;> first | rfl | exact go_other h _

/-- A start gets past the opening only by opening, and does not close the session then. -/
theorem late_calls (step : Step s e t) (h : late (t.calls e.1) = true) :
    e.2 = .opened ∨ e.2 ≠ .closed ∧ late (s.calls e.1) = true := by
  cases step with
  | openSession => exact .inl rfl
  | clear hc | send hc => exact .inr ⟨nofun, by rw [hc]; rfl⟩
  | look | beat | wake => exact .inr ⟨nofun, h⟩
  | ask r => cases r <;> simp [Ask.call, late] at h
  | tick =>
    simp only [go_self, afterTick] at h
    split at h <;> cases h
  | failStop | failJoin => simp [late_failed] at h
  | closeAlone | forget => simp [late_next] at h
  | _ => simp [late] at h

theorem signalling {w : Nat} {aim : Aim} (step : Step s e t)
    (h : s.calls a = .stop (.signalling w) aim) :
    t.calls a = s.calls a ∨ t.clock.halted = true := by
  by_cases ha : a = e.1
  · subst ha
    cases step <;> first | exact .inl rfl | exact .inr rfl | simp_all
  · exact .inl (step.calls_other ha)

/-- A session goes on unless it is closed or the stage is put back. -/
theorem running (step : Step s e t) (hr : s.clock.stage.running = true) (hclosed : e.2 ≠ .closed)
    (hrewound : e.2 ≠ .rewound) : t.clock.stage.running = true := by
  have hcommit : s.clock.commit.2.stage.running = true := by
    rcases s.clock.commit_cases with ⟨hr', -⟩ | ⟨-, tick, stage, hrunning, hc⟩
    · exact absurd (hr'.symm.trans hr) Bool.false_ne_true
    · rw [hc]
      exact hrunning
  cases step with
  | openSession _ yes => exact Stage.start_running_of_opened yes
  | closeAlone | close => exact absurd rfl hclosed
  | rewind => exact absurd rfl hrewound
  | tick => exact hcommit
  | @beat w =>
    obtain ⟨p, hp⟩ := s.clock.beat_eq w
    rw [hp]
    exact hcommit
  | leave failure => cases failure <;> exact hr
  | forget =>
    simp only [Clock.forget]
    split <;> exact hr
  | _ => exact hr

theorem opened (step : Step s e t) (he : e.2 = .opened) : t.clock.stage.running = true := by
  cases step with
  | openSession _ yes => exact Stage.start_running_of_opened yes
  | _ => cases he

theorem closed (step : Step s e t) (h : s.Sound) (he : e.2 = .closed) :
    (∃ w aim, t.calls e.1 = .stop (.signalling w) aim) ∨ ∀ w, t.clock.isAlive w = false := by
  cases step with
  | close => exact .inl ⟨_, _, go_self _⟩
  | closeAlone hc =>
    obtain ⟨-, recorded, current⟩ := h.known hc rfl
    apply Or.inr
    intro w
    apply Bool.eq_false_iff.2
    intro hw
    cases current.symm.trans (recorded w hw)
  | _ => cases he

theorem inside_of_closed (step : Step s e t) (he : e.2 = .closed) :
    (∃ worker aim, s.calls e.1 = .stop (.closing worker) aim) := by
  cases step with
  | closeAlone hc | close hc => exact ⟨_, _, hc⟩
  | _ => cases he

theorem late_of_cleared (step : Step s e t) (he : e.2 = .cleared ∨ e.2 = .sent) :
    late (s.calls e.1) = true := by
  cases step with
  | clear hc | send hc =>
    rw [hc]
    rfl
  | _ => rcases he with he | he <;> cases he

end Step

/-- What the events tell about the system that they led to. -/
structure Tracked (es : List Event) (s : System) : Prop where
  late : ∀ a, late (s.calls a) = true →
    (∀ b, (b, Act.closed) ∉ sinceOpening es) ∧ ∃ b, (b, Act.opened) ∈ es
  sent : s.clock.workers ≠ [] → ∃ b, (b, Act.opened) ∈ es
  closed : ∀ a, (a, Act.closed) ∈ sinceOpening es →
    (∃ w aim, s.calls a = .stop (.signalling w) aim) ∨ s.clock.halted = true ∨
      ∀ w, s.clock.isAlive w = false
  rewound : ∀ a, (a, Act.rewound) ∈ sinceOpening es → s.clock.stage.running = false
  stopped : (∃ b, (b, Act.opened) ∈ es) → s.clock.stage.running = false →
    ∃ a, (a, Act.closed) ∈ sinceOpening es ∨ (a, Act.rewound) ∈ sinceOpening es

namespace Tracked

theorem step_late (h : Tracked es s) (sound : s.Sound) (step : Step s e t) (a : Agent)
    (ha : System.late (t.calls a) = true) :
    (∀ b, (b, Act.closed) ∉ sinceOpening (e :: es)) ∧ ∃ b, (b, Act.opened) ∈ e :: es := by
  by_cases ho : e.2 = .opened
  · rw [sinceOpening_opened ho]
    exact ⟨fun _ => nofun, e.1, ho ▸ .head es⟩
  · -- whoever is past the opening is inside the gate, so that no one else closes
    have hpast : e.2 ≠ .closed ∧ System.late (s.calls a) = true := by
      by_cases hae : a = e.1
      · subst hae
        exact (step.late_calls ha).resolve_left ho
      · rw [step.calls_other hae] at ha
        apply And.intro _ ha
        intro hclosed
        apply hae
        obtain ⟨worker, aim, hc⟩ := step.inside_of_closed hclosed
        exact sound.only (by rw [hc]; rfl) (isInside_of_late ha)
    obtain ⟨hno, b, hb⟩ := h.late a hpast.2
    rw [sinceOpening_cons ho]
    exact ⟨fun c hc => hno c (mem_of_mem_cons hc hpast.1), b, .tail e hb⟩

theorem step_sent (h : Tracked es s) (step : Step s e t) (ht : t.clock.workers ≠ []) :
    ∃ b, (b, Act.opened) ∈ e :: es := by
  have htail (hs : ∃ b, (b, Act.opened) ∈ es) : ∃ b, (b, Act.opened) ∈ e :: es :=
    hs.imp fun b hb => .tail e hb
  rcases step.workers with hw | ⟨w, p, hw, -⟩ | ⟨he, -⟩
  · exact htail (h.sent (hw ▸ ht))
  · apply htail
    apply h.sent
    intro hnil
    have hlt := Clock.lt_of_isAlive hw
    simp [hnil] at hlt
  · exact htail (h.late e.1 (step.late_of_cleared (.inr he))).2

theorem step_closed (h : Tracked es s) (sound : s.Sound) (step : Step s e t) (a : Agent)
    (ha : (a, Act.closed) ∈ sinceOpening (e :: es)) :
    (∃ w aim, t.calls a = .stop (.signalling w) aim) ∨ t.clock.halted = true ∨
      ∀ w, t.clock.isAlive w = false := by
  obtain ⟨-, rfl | hmem⟩ := mem_sinceOpening_cons.1 ha
  · exact (step.closed sound rfl).imp_right .inr
  -- a start that goes on has seen no one close since it opened
  have hstart : ¬(e.2 = .cleared ∨ e.2 = .sent) := fun he =>
    (h.late e.1 (step.late_of_cleared he)).1 a hmem
  rcases h.closed a hmem with ⟨w, aim, hc⟩ | hd | none
  · rcases step.signalling hc with hsame | hd
    · exact .inl ⟨w, aim, hsame.trans hc⟩
    · exact .inr (.inl hd)
  · exact .inr (.inl ((step.halted sound hd).resolve_right fun hno => hstart (.inl hno.1)))
  · apply Or.inr
    apply Or.inr
    intro w
    apply Bool.eq_false_iff.2
    intro hw
    have hold := step.alive (.inr fun he => hstart (.inr he)) hw
    exact Bool.eq_false_iff.1 (none w) hold

theorem step_rewound (h : Tracked es s) (step : Step s e t) (a : Agent)
    (ha : (a, Act.rewound) ∈ sinceOpening (e :: es)) : t.clock.stage.running = false := by
  obtain ⟨ho, rfl | hmem⟩ := mem_sinceOpening_cons.1 ha
  · exact step.ended (.inr rfl)
  · exact (step.stopped (h.rewound a hmem) ho).1

theorem step_stopped (h : Tracked es s) (step : Step s e t)
    (hopen : ∃ b, (b, Act.opened) ∈ e :: es) (hr : t.clock.stage.running = false) :
    ∃ a, (a, Act.closed) ∈ sinceOpening (e :: es) ∨ (a, Act.rewound) ∈ sinceOpening (e :: es) := by
  have ho : e.2 ≠ .opened := fun ho => by
    cases (step.opened ho).symm.trans hr
  rw [sinceOpening_cons ho]
  by_cases hend : e.2 = .closed ∨ e.2 = .rewound
  · refine ⟨e.1, hend.imp (fun he => ?_) fun he => ?_⟩ <;> exact he ▸ .head _
  · -- nothing has ended the session in this step
    have hold : s.clock.stage.running = false := Bool.eq_false_iff.2 fun hrunning => by
      have := step.running hrunning (fun he => hend (.inl he)) fun he => hend (.inr he)
      cases this.symm.trans hr
    obtain ⟨b, hb⟩ := hopen
    exact (h.stopped ⟨b, mem_of_mem_cons hb ho⟩ hold).imp fun a ha => ha.imp (.tail e) (.tail e)

theorem step (h : Tracked es s) (sound : s.Sound) (step : Step s e t) : Tracked (e :: es) t where
  late := h.step_late sound step
  sent := h.step_sent step
  closed := h.step_closed sound step
  rewound := h.step_rewound step
  stopped := h.step_stopped step

theorem trace {setup : Setup} {stage : Stage} (trace : Trace (initial setup stage) es s) :
    Tracked es s := by
  induction trace with
  | nil => exact ⟨nofun, fun h => absurd rfl h, nofun, nofun, nofun⟩
  | cons past step ih => exact ih.step ((Sound.initial setup stage).trace past) step

end Tracked

theorem sinceOpening_split (h : ∃ b, (b, Act.opened) ∈ es) :
    ∃ b early, es = sinceOpening es ++ (b, .opened) :: early := by
  induction es with
  | nil => exact absurd h.choose_spec List.not_mem_nil
  | cons e es ih =>
    by_cases ho : e.2 = .opened
    · exact ⟨e.1, es, by rw [sinceOpening_opened ho, ← ho]; rfl⟩
    · obtain ⟨b, hb⟩ := h
      obtain ⟨c, early, heq⟩ := ih ⟨b, mem_of_mem_cons hb ho⟩
      exact ⟨c, early, by rw [sinceOpening_cons ho, List.cons_append, ← heq]⟩

theorem not_opened_of_mem_sinceOpening (h : e ∈ sinceOpening es) : e.2 ≠ .opened := by
  simpa using List.all_eq_true.1 List.all_takeWhile e h

theorem mem_sinceOpening_of_append {late : List Event} (h : ∀ c, (c, Act.opened) ∉ late)
    (he : e.2 ≠ .opened) : e ∈ sinceOpening (late ++ e :: es) := by
  induction late with
  | nil => rw [List.nil_append, sinceOpening_cons he]; exact .head _
  | cons l late ih =>
    have hl : l.2 ≠ .opened := fun ho => h l.1 (ho ▸ .head late)
    rw [List.cons_append, sinceOpening_cons hl]
    exact .tail l (ih fun c hc => h c (.tail l hc))

/-- When no start, stop or reset is on its way, and a worker is alive and not told to halt, then the
session runs unless a reset was overtaken by a start. -/
theorem running_iff_not_overtaken {setup : Setup} {stage : Stage} {w : Nat}
    (trace : Trace (initial setup stage) es s)
    (quiet : ∀ a, s.calls a = .idle ∨ s.calls a = .listen)
    (alive : s.clock.isAlive w = true) (on : s.clock.halted = false) :
    s.clock.stage.running = true ↔ ¬Overtaken es := by
  have tracked := Tracked.trace trace
  have hclosed (a : Agent) : (a, Act.closed) ∉ sinceOpening es := fun ha => by
    rcases tracked.closed a ha with ⟨v, aim, hc⟩ | hd | none
    · rcases quiet a with hq | hq <;> cases hq.symm.trans hc
    · cases on.symm.trans hd
    · cases (none w).symm.trans alive
  have hopened : ∃ b, (b, Act.opened) ∈ es := tracked.sent fun hnil => by
    have hlt := Clock.lt_of_isAlive alive
    simp [hnil] at hlt
  constructor
  · rintro hr ⟨a, b, late, mid, early, heq, hno, -⟩
    have hmem : (a, Act.rewound) ∈ sinceOpening es := by
      rw [heq]
      exact mem_sinceOpening_of_append (fun c hc => hno c (List.mem_append_left _ hc)) nofun
    cases (tracked.rewound a hmem).symm.trans hr
  · intro hno
    apply Bool.ne_false_iff.1
    intro hr
    apply hno
    obtain ⟨a, ha | ha⟩ := tracked.stopped hopened hr
    · exact absurd ha (hclosed a)
    obtain ⟨b, early, hsplit⟩ := sinceOpening_split hopened
    obtain ⟨late, mid, hlm⟩ := List.append_of_mem ha
    refine ⟨a, b, late, mid, early, ?_, fun c hc => ?_, fun hc => hclosed a ?_⟩
    · rw [hsplit, hlm, List.append_assoc, List.cons_append]
    · have hmem : (c, Act.opened) ∈ sinceOpening es := by
        rw [hlm]
        rcases List.mem_append.1 hc with h | h
        · exact List.mem_append_left _ h
        · exact List.mem_append_right _ (.tail _ h)
      exact not_opened_of_mem_sinceOpening hmem rfl
    · rw [hlm]
      exact List.mem_append_right _ (.tail _ hc)

/-- After a start that nothing has come in between, the session runs and no reset was overtaken. -/
theorem running_after_start :
    ∃ (es : List Event) (s : System), Trace (initial {} {}) es s ∧ s.clock.isAlive 0 = true ∧
      s.clock.halted = false ∧ ¬Overtaken es := by
  have opened := ((Trace.nil.cons (Step.ask (s := initial {} {}) (i := 0) .start rfl)).cons
    (.enterStart (a := .client 0) rfl rfl rfl)).cons (.openSession (a := .client 0) rfl rfl)
  have started := ((opened.cons (.clear (a := .client 0) rfl)).cons
    (.send (a := .client 0) rfl)).cons (.record (a := .client 0) rfl)
  refine ⟨_, _, started, rfl, rfl, ?_⟩
  refine (running_iff_not_overtaken started (fun a => .inl ?_) (w := 0) rfl rfl).1 rfl
  by_cases ha : a = .client 0 <;> simp [go, ha, initial]

/-- A reset that is overtaken by a start: its stop finds nothing to stop, the start opens a session
and sends out a worker, and then the stage is put back. No call is in progress any more, and the
worker is alive and not told to halt, over a stage without a session. -/
theorem overtaken_reset :
    ∃ (es : List Event) (s : System), Trace (initial {} {}) es s ∧ (∀ a, s.calls a = .idle) ∧
      s.clock.isAlive 0 = true ∧ s.clock.halted = false ∧ s.clock.stage.running = false := by
  have closed := ((Trace.nil.cons (Step.ask (s := initial {} {}) (i := 0) .reset rfl)).cons
    (.enterStop (a := .client 0) rfl rfl)).cons (.closeAlone (a := .client 0) rfl)
  have opened := ((closed.cons (.ask (i := 1) .start rfl)).cons
    (.enterStart (a := .client 1) rfl rfl rfl)).cons (.openSession (a := .client 1) rfl rfl)
  have started := ((opened.cons (.clear (a := .client 1) rfl)).cons
    (.send (a := .client 1) rfl)).cons (.record (a := .client 1) rfl)
  refine ⟨_, _, started.cons (.rewind (a := .client 0) rfl), fun a => ?_, rfl, rfl, rfl⟩
  by_cases ha : a = .client 0
  · simp [go, ha]
  · by_cases ha' : a = .client 1 <;> simp [go, ha, ha', initial]

end System

end SpriteStage
