import SpriteStage.Proofs.Clock.Sections

/-!
# One worker at a time

However the calls of clients and the steps of workers are interleaved, at most one worker is alive,
and it is on record once the start that sent it out is over. Workers are told to go on only when
none is alive, so one that was told to halt never ticks the stage again. The invariant says what is
known to the one inside the gate, and what is known to all when no one is inside.
-/

namespace SpriteStage

namespace Clock

/-- Every worker that is alive is on record. -/
def Recorded (c : Clock) : Prop := ∀ w, c.isAlive w = true → c.current = some w

/-- No worker is alive. -/
def Deserted (c : Clock) : Prop := ∀ w, c.isAlive w = false

/-- While a worker lives that was told to halt, no session runs. -/
def Hushed (c : Clock) : Prop :=
  c.halted = true → ∀ w, c.isAlive w = true → c.stage.running = false

theorem Deserted.elim {c : Clock} {w : Nat} (h : c.Deserted) (hw : c.isAlive w = true) : False := by
  rw [h w] at hw
  cases hw

theorem Deserted.recorded {c : Clock} (h : c.Deserted) : c.Recorded := fun _ hw => (h.elim hw).elim

theorem Deserted.hushed {c : Clock} (h : c.Deserted) : c.Hushed := fun _ _ hw => (h.elim hw).elim

/-- A change that brings no worker to life, starts no session and keeps the record and the word to
halt. -/
structure Tame (c d : Clock) : Prop where
  current : d.current = c.current
  halted : d.halted = c.halted
  running : d.stage.running = true → c.stage.running = true
  alive : ∀ w, d.isAlive w = true → c.isAlive w = true

theorem Tame.refl (c : Clock) : Tame c c := ⟨rfl, rfl, id, fun _ => id⟩

theorem Tame.trans {c d e : Clock} (h : Tame c d) (h' : Tame d e) : Tame c e :=
  ⟨h'.current.trans h.current, h'.halted.trans h.halted, h.running ∘ h'.running,
    fun w => h.alive w ∘ h'.alive w⟩

theorem Tame.recorded {c d : Clock} (h : Tame c d) (hc : c.Recorded) : d.Recorded :=
  fun w hw => h.current.trans (hc w (h.alive w hw))

theorem Tame.deserted {c d : Clock} (h : Tame c d) (hc : c.Deserted) : d.Deserted :=
  fun w => Bool.eq_false_iff.2 fun hw => hc.elim (h.alive w hw)

theorem Tame.stopped {c d : Clock} (h : Tame c d) (hc : c.stage.running = false) :
    d.stage.running = false :=
  Bool.eq_false_iff.2 fun hr => Bool.eq_false_iff.1 hc (h.running hr)

theorem Tame.hushed {c d : Clock} (h : Tame c d) (hc : c.Hushed) : d.Hushed := by
  intro hd w hw
  rw [h.halted] at hd
  exact h.stopped (hc hd w (h.alive w hw))

theorem tame_setPhase {c : Clock} {w : Nat} (p : Phase) (hw : c.isAlive w = true) :
    Tame c (c.setPhase w p) :=
  ⟨rfl, rfl, id, fun _ => isAlive_of_setPhase hw⟩

theorem tame_commit (c : Clock) : Tame c c.commit.2 := by
  rcases c.commit_cases with ⟨-, h⟩ | ⟨hr, tick, stage, -, h⟩
  · rw [h]
    exact .refl c
  · rw [h]
    exact ⟨rfl, rfl, fun _ => hr, fun _ => id⟩

theorem tame_beat {c : Clock} {w : Nat} (hw : c.isAlive w = true) : Tame c (c.beat w) := by
  obtain ⟨p, hp⟩ := c.beat_eq w
  have hw' : c.commit.2.isAlive w = true := by rwa [isAlive, commit_workers]
  rw [hp]
  exact c.tame_commit.trans (tame_setPhase p hw')

theorem tame_finish {c : Clock} {w : Nat} (failure : Option Failure) (hw : c.isAlive w = true) :
    Tame c (c.finish w failure) := by
  cases failure with
  | none => exact tame_setPhase _ hw
  | some f =>
    have h : Tame c { c with lastError := some f.text } := ⟨rfl, rfl, id, fun _ => id⟩
    exact h.trans (tame_setPhase _ hw)

theorem tame_hear (c : Clock) (tick : Nat) : Tame c (c.hear tick) := ⟨rfl, rfl, id, fun _ => id⟩

theorem tame_rewind (c : Clock) : Tame c c.rewind :=
  ⟨rfl, rfl, fun h => absurd ((Stage.reset_running _).symm.trans h) Bool.false_ne_true,
    fun _ => id⟩

theorem recorded_forget {c : Clock} (w : Nat) (h : c.Recorded) : (c.forget w).Recorded := by
  unfold forget
  split
  · rename_i hw
    intro v hv
    have hvw : v = w := Option.some.inj ((h v hv).symm.trans hw.1)
    exact absurd (hw.2.symm.trans (hvw ▸ hv)) Bool.false_ne_true
  · exact h

theorem hushed_forget {c : Clock} (w : Nat) (h : c.Hushed) : (c.forget w).Hushed := by
  unfold forget
  split <;> exact h

end Clock

namespace System

variable {s t : System} {a b : Agent} {e : Event}

/-- What is known to the one inside the gate. -/
def Inside (c : Clock) : Call → Prop
  | .start .opening | .start .clearing => c.Deserted
  | .start .sending => c.Deserted ∧ c.halted = false
  | .start (.recording w) => ∀ v, c.isAlive v = true → v = w
  | .stop (.closing worker) _ => c.Recorded ∧ c.current = worker
  | .stop (.signalling w) _ => c.Recorded ∧ c.current = some w ∧ c.stage.running = false
  | _ => False

/-- What is true of a clock and its callers in whatever order they act. -/
structure Sound (s : System) : Prop where
  inside_iff : ∀ a, (s.calls a).isInside = true ↔ s.inside = some a
  inside : ∀ a, s.inside = some a → Inside s.clock (s.calls a)
  outside : s.inside = none → s.clock.Recorded
  hushed : s.clock.Hushed

theorem Inside.tame {c d : Clock} (h : c.Tame d) {call : Call} (hc : Inside c call) :
    Inside d call := by
  unfold Inside at hc ⊢
  split at hc
  · exact h.deserted hc
  · exact h.deserted hc
  · exact ⟨h.deserted hc.1, h.halted.trans hc.2⟩
  · intro v hv
    exact hc v (h.alive v hv)
  · exact ⟨h.recorded hc.1, h.current.trans hc.2⟩
  · exact ⟨h.recorded hc.1, h.current.trans hc.2.1, h.stopped hc.2.2⟩
  · exact hc

@[simp] theorem go_self (call : Call) : (s.go a call).calls a = call := by simp [go]

@[simp] theorem go_inside (call : Call) : (s.go a call).inside = s.inside := rfl

theorem go_other (h : b ≠ a) (call : Call) : (s.go a call).calls b = s.calls b := by
  simp [go, h]

/-- No one comes to or leaves what is done inside the gate. -/
def Aside (s t : System) : Prop :=
  ∀ b, t.calls b = s.calls b ∨ (s.calls b).isInside = false ∧ (t.calls b).isInside = false

theorem go_aside {call : Call} (ha : (s.calls a).isInside = false)
    (hcall : call.isInside = false) : Aside s (s.go a call) := by
  intro b
  by_cases hb : b = a
  · subst hb
    exact .inr ⟨ha, by rwa [go_self]⟩
  · exact .inl (go_other hb call)

namespace Sound

theorem only (h : s.Sound) (ha : (s.calls a).isInside = true)
    (hb : (s.calls b).isInside = true) : b = a := by
  have heq := ((h.inside_iff b).1 hb).symm.trans ((h.inside_iff a).1 ha)
  exact Option.some.inj heq

theorem known (h : s.Sound) {call : Call} (hc : s.calls a = call) (hin : call.isInside = true) :
    (s.calls a).isInside = true ∧ Inside s.clock call := by
  subst hc
  exact ⟨hin, h.inside a ((h.inside_iff a).1 hin)⟩

theorem inside_iff_aside (h : s.Sound) (inside : t.inside = s.inside) (calls : Aside s t)
    (b : Agent) : (t.calls b).isInside = true ↔ t.inside = some b := by
  rw [inside, ← h.inside_iff]
  rcases calls b with hb | ⟨hb, hb'⟩
  · rw [hb]
  · rw [hb, hb']

theorem aside_free (h : s.Sound) (free : s.inside = none) {call : Call} {c : Clock}
    (calls : Aside s (s.go a call)) (recorded : c.Recorded) (hushed : c.Hushed) :
    Sound { s.go a call with clock := c } where
  inside_iff := h.inside_iff_aside rfl calls
  inside b hb := absurd (free.symm.trans hb) (by simp)
  outside _ := recorded
  hushed := hushed

/-- A step outside the gate that changes the clock only tamely. -/
theorem aside (h : s.Sound) (inside : t.inside = s.inside) (clock : s.clock.Tame t.clock)
    (calls : Aside s t) : t.Sound where
  inside_iff := h.inside_iff_aside inside calls
  inside b hb := by
    rw [inside] at hb
    rcases calls b with hcall | ⟨hcall, -⟩
    · rw [hcall]
      exact (h.inside b hb).tame clock
    · rw [(h.inside_iff b).2 hb] at hcall
      cases hcall
  outside hb := clock.recorded (h.outside (inside ▸ hb))
  hushed := clock.hushed h.hushed

/-- An agent enters the gate. -/
theorem enter (h : s.Sound) {call : Call} (free : s.inside = none)
    (hcall : call.isInside = true) (known : Inside s.clock call) :
    Sound { s.go a call with inside := some a } where
  inside_iff b := by
    by_cases hb : b = a
    · subst hb
      simp [hcall]
    · have hout : (s.calls b).isInside ≠ true := by
        rw [ne_eq, h.inside_iff, free]
        simp
      simpa [go_other hb, Ne.symm hb] using hout
  inside b hb := by
    cases hb
    rwa [go_self]
  outside := nofun
  hushed := h.hushed

/-- The agent inside the gate takes a step and stays there. -/
theorem move (h : s.Sound) {call : Call} {c : Clock} (ha : (s.calls a).isInside = true)
    (hcall : call.isInside = true) (known : Inside c call) (hushed : c.Hushed) :
    Sound { s.go a call with clock := c } where
  inside_iff b := by
    by_cases hb : b = a
    · subst hb
      simpa [hcall] using (h.inside_iff b).1 ha
    · simpa [go_other hb] using h.inside_iff b
  inside b hb := by
    have heq : b = a := h.only ha ((h.inside_iff b).2 hb)
    subst heq
    rwa [go_self]
  outside hb := absurd (((h.inside_iff a).1 ha).symm.trans hb) (by simp)
  hushed := hushed

theorem leave (h : s.Sound) {call : Call} {c : Clock} (ha : (s.calls a).isInside = true)
    (hcall : call.isInside = false) (recorded : c.Recorded) (hushed : c.Hushed) :
    Sound { s.go a call with clock := c, inside := none } where
  inside_iff b := by
    by_cases hb : b = a
    · subst hb
      simp [hcall]
    · have hout : (s.calls b).isInside ≠ true := fun hin => hb (h.only ha hin)
      simpa [go_other hb] using hout
  inside := nofun
  outside _ := recorded
  hushed := hushed

/-- Every step of every agent keeps what is true of the system. -/
theorem step (h : s.Sound) (step : Step s e t) : t.Sound := by
  cases step with
  | ask r hc => exact h.aside rfl (.refl _) (go_aside (by rw [hc]; rfl) (by cases r <;> rfl))
  | refuse hc | failRewind hc | stopFromListener hc | join hc | finish hc =>
    exact h.aside rfl (.refl _) (go_aside (by rw [hc]; rfl) rfl)
  | @failJoin _ _ aim hc =>
    exact h.aside rfl (.refl _) (go_aside (by rw [hc]; rfl) (by cases aim <;> rfl))
  | rewind hc => exact h.aside rfl (Clock.tame_rewind _) (go_aside (by rw [hc]; rfl) rfl)
  | tick hc =>
    have outside : (afterTick s.clock).isInside = false := by
      unfold afterTick
      split <;> rfl
    exact h.aside rfl (Clock.tame_commit _) (go_aside (by rw [hc]; rfl) outside)
  | tell hc => exact h.aside rfl (Clock.tame_hear _ _) (go_aside (by rw [hc]; rfl) rfl)
  | enterStart hc free rest =>
    apply h.enter free rfl
    intro w
    apply Bool.eq_false_iff.2
    intro hw
    simp [Clock.isRunning, h.outside free w hw, hw] at rest
  | deny hc | failStart hc =>
    obtain ⟨ha, deserted⟩ := h.known hc rfl
    exact h.leave ha rfl deserted.recorded h.hushed
  | openSession hc =>
    obtain ⟨ha, deserted⟩ := h.known hc rfl
    exact h.move ha rfl deserted (Clock.Deserted.hushed deserted)
  | clear hc =>
    obtain ⟨ha, deserted⟩ := h.known hc rfl
    exact h.move ha rfl ⟨deserted, rfl⟩ (Clock.Deserted.hushed deserted)
  | send hc =>
    obtain ⟨ha, deserted, on⟩ := h.known hc rfl
    apply h.move ha rfl
    · intro v hv
      rcases Clock.isAlive_send.1 hv with hv | hv
      · exact (deserted.elim hv).elim
      · exact hv
    · intro hd
      exact absurd (on.symm.trans hd) Bool.false_ne_true
  | record hc =>
    obtain ⟨ha, one⟩ := h.known hc rfl
    exact h.leave ha rfl (fun v hv => congrArg some (one v hv).symm) h.hushed
  | enterStop hc free => exact h.enter free rfl ⟨h.outside free, rfl⟩
  | @failStop _ _ aim hc =>
    obtain ⟨ha, recorded, -⟩ := h.known hc rfl
    exact h.leave ha (by cases aim <;> rfl) recorded h.hushed
  | @closeAlone _ aim hc =>
    obtain ⟨ha, recorded, -⟩ := h.known hc rfl
    exact h.leave ha (by cases aim <;> rfl) recorded fun _ _ _ => Stage.stop_running _
  | close hc =>
    obtain ⟨ha, recorded, current⟩ := h.known hc rfl
    exact h.move ha rfl ⟨recorded, current, Stage.stop_running _⟩ fun _ _ _ => Stage.stop_running _
  | signal hc =>
    obtain ⟨ha, recorded, -, stopped⟩ := h.known hc rfl
    exact h.leave ha rfl recorded fun _ _ _ => stopped
  | @forget _ _ aim hc free =>
    exact h.aside_free free (go_aside (by rw [hc]; rfl) (by cases aim <;> rfl))
      (Clock.recorded_forget _ (h.outside free)) (Clock.hushed_forget _ h.hushed)
  | look hw | wake hw =>
    have alive := Clock.isAlive_of_phase hw (by decide)
    exact h.aside rfl (Clock.tame_setPhase _ alive) fun _ => .inl rfl
  | beat hw =>
    have alive := Clock.isAlive_of_phase hw (by decide)
    exact h.aside rfl (Clock.tame_beat alive) fun _ => .inl rfl
  | @hear w tick hw free =>
    have alive : (s.clock.hear tick).isAlive w = true := Clock.isAlive_of_phase hw (by simp)
    exact h.aside rfl ((Clock.tame_hear _ _).trans (Clock.tame_setPhase _ alive))
      (go_aside (by rw [free]; rfl) rfl)
  | leave failure hw free =>
    have alive := Clock.isAlive_of_phase hw (by simp)
    exact h.aside rfl (Clock.tame_finish _ alive) (go_aside (by rw [free]; rfl) rfl)
  | die hw free =>
    have alive := Clock.isAlive_of_phase hw (by simp)
    exact h.aside rfl (Clock.tame_setPhase _ alive) (go_aside (by rw [free]; rfl) rfl)

theorem initial (setup : Setup) (stage : Stage) : (System.initial setup stage).Sound :=
  ⟨fun _ => ⟨nofun, nofun⟩, nofun, fun _ _ => nofun, nofun⟩

/-- A worker that is alive is on record or about to be. -/
theorem recorded_or (h : s.Sound) {w : Nat} (hw : s.clock.isAlive w = true) :
    s.clock.current = some w ∨ ∃ a, s.calls a = .start (.recording w) := by
  cases hin : s.inside with
  | none => exact .inl (h.outside hin w hw)
  | some a =>
    have known := h.inside a hin
    unfold Inside at known
    split at known
    · exact (known.elim hw).elim
    · exact (known.elim hw).elim
    · exact (known.1.elim hw).elim
    · rename_i hc
      exact .inr ⟨a, known w hw ▸ hc⟩
    · exact .inl (known.1 w hw)
    · exact .inl (known.1 w hw)
    · exact known.elim

theorem one_alive (h : s.Sound) (v w : Nat) (hv : s.clock.isAlive v = true)
    (hw : s.clock.isAlive w = true) : v = w := by
  rcases h.recorded_or hv with hcv | ⟨a, ha⟩
  · rcases h.recorded_or hw with hcw | ⟨a, ha⟩
    · exact Option.some.inj (hcv.symm.trans hcw)
    · exact (h.known ha rfl).2 v hv
  · exact ((h.known ha rfl).2 w hw).symm

theorem trace (h : s.Sound) {es : List Event} (past : Trace s es t) : t.Sound := by
  induction past with
  | nil => exact h
  | cons _ step ih => exact ih.step step

end Sound

namespace Step

/-- What a step can do to the workers: one that is alive goes on to another phase, or a new one is
sent out. -/
theorem workers (step : Step s e t) :
    t.clock.workers = s.clock.workers ∨
    (∃ w p, s.clock.isAlive w = true ∧ t.clock.workers = s.clock.workers.set w p) ∨
    e.2 = .sent ∧ t.clock.workers = s.clock.workers ++ [.checking] := by
  cases step with
  | send => exact .inr (.inr ⟨rfl, rfl⟩)
  | look hw => exact .inr (.inl ⟨_, _, Clock.isAlive_of_phase hw (by decide), rfl⟩)
  | wake hw => exact .inr (.inl ⟨_, _, Clock.isAlive_of_phase hw (by decide), rfl⟩)
  | hear hw => exact .inr (.inl ⟨_, _, Clock.isAlive_of_phase hw nofun, rfl⟩)
  | die hw => exact .inr (.inl ⟨_, _, Clock.isAlive_of_phase hw nofun, rfl⟩)
  | leave failure hw =>
    refine .inr (.inl ⟨_, s.clock.setup.pause, Clock.isAlive_of_phase hw nofun, ?_⟩)
    cases failure <;> rfl
  | @beat w hw =>
    obtain ⟨p, hp⟩ := s.clock.beat_eq w
    refine .inr (.inl ⟨w, p, Clock.isAlive_of_phase hw (by decide), ?_⟩)
    rw [hp, Clock.setPhase, s.clock.commit_workers]
  | tick => exact .inl s.clock.commit_workers
  | forget =>
    apply Or.inl
    rw [Clock.forget]
    split <;> rfl
  | _ => exact .inl rfl

theorem workers_length (step : Step s e t) : s.clock.workers.length ≤ t.clock.workers.length := by
  rcases step.workers with h | ⟨w, p, -, h⟩ | ⟨-, h⟩ <;> simp [h]

theorem alive {v : Nat} (step : Step s e t) (hold : v < s.clock.workers.length ∨ e.2 ≠ .sent)
    (hv : t.clock.isAlive v = true) : s.clock.isAlive v = true := by
  rcases step.workers with h | ⟨w, p, hw, h⟩ | ⟨he, h⟩
  · rwa [Clock.isAlive, h] at hv
  · have hv' : (s.clock.setPhase w p).isAlive v = true := by rwa [Clock.isAlive, h] at hv
    exact Clock.isAlive_of_setPhase hw hv'
  · have hv' : s.clock.send.isAlive v = true := by rwa [Clock.isAlive, h] at hv
    have hlt := hold.resolve_right fun hne => hne he
    exact (Clock.isAlive_send.1 hv').resolve_right (Nat.ne_of_lt hlt)

/-- Without a session no tick is committed until one is opened, and only putting the stage back
changes it. -/
theorem stopped (step : Step s e t) (hr : s.clock.stage.running = false) (he : e.2 ≠ .opened) :
    t.clock.stage.running = false ∧ e.2 ≠ .ticked true ∧
    (t.clock.stage = s.clock.stage ∨ e.2 = .rewound ∧ t.clock.stage = s.clock.stage.reset) := by
  have hcommit : s.clock.commit = (none, s.clock) := by
    rcases s.clock.commit_cases with ⟨-, h⟩ | ⟨hr', -⟩
    · exact h
    · exact absurd (hr.symm.trans hr') Bool.false_ne_true
  have hstop : s.clock.stage.stop.2 = s.clock.stage := by rw [Stage.stop, hr]; rfl
  cases step with
  | openSession => exact absurd rfl he
  | closeAlone | close => exact ⟨Stage.stop_running _, by simp, .inl hstop⟩
  | rewind => exact ⟨Stage.reset_running _, by simp, .inr ⟨rfl, rfl⟩⟩
  | tick =>
    rw [hcommit]
    exact ⟨hr, by simp, .inl rfl⟩
  | @beat w =>
    obtain ⟨p, hp⟩ := s.clock.beat_eq w
    rw [hp, hcommit]
    exact ⟨hr, by simp, .inl rfl⟩
  | leave failure => cases failure <;> exact ⟨hr, by simp, .inl rfl⟩
  | forget =>
    simp only [Clock.forget]
    split <;> exact ⟨hr, by simp, .inl rfl⟩
  | _ => exact ⟨hr, by simp, .inl rfl⟩

/-- A tick is committed only while a session runs, and by a worker only while it is alive. -/
theorem committed (step : Step s e t) (he : e.2 = .ticked true) :
    s.clock.stage.running = true ∧ ∀ w, e.1 = .worker w → s.clock.isAlive w = true := by
  have hrunning (h : s.clock.commit.1.isSome = true) : s.clock.stage.running = true := by
    rcases s.clock.commit_cases with ⟨-, hc⟩ | ⟨hr, -⟩
    · rw [hc] at h
      cases h
    · exact hr
  cases step with
  | tick => exact ⟨hrunning (Act.ticked.inj he), nofun⟩
  | beat hw =>
    apply And.intro (hrunning (Act.ticked.inj he))
    intro v hv
    cases hv
    exact Clock.isAlive_of_phase hw (by decide)
  | _ => cases he

theorem ended (step : Step s e t) (he : e.2 = .closed ∨ e.2 = .rewound) :
    t.clock.stage.running = false := by
  cases step with
  | close | closeAlone => exact Stage.stop_running _
  | rewind => exact Stage.reset_running _
  | _ => rcases he with he | he <;> cases he

theorem cleared (step : Step s e t) (h : s.Sound) (he : e.2 = .cleared) (w : Nat) :
    s.clock.isAlive w = false := by
  cases step with
  | clear hc => exact (h.known hc rfl).2 w
  | _ => cases he

/-- Workers are told to go on only by a start, and only when none is alive. -/
theorem halted (step : Step s e t) (h : s.Sound) (hd : s.clock.halted = true) :
    t.clock.halted = true ∨ e.2 = .cleared ∧ ∀ w, s.clock.isAlive w = false := by
  cases step with
  | clear hc => exact .inr ⟨rfl, (h.known hc rfl).2⟩
  | tick => exact .inl ((Clock.tame_commit _).halted.trans hd)
  | beat hw =>
    exact .inl ((Clock.tame_beat (Clock.isAlive_of_phase hw (by decide))).halted.trans hd)
  | leave failure => cases failure <;> exact .inl hd
  | forget =>
    simp only [Clock.forget]
    split <;> exact .inl hd
  | signal => exact .inl rfl
  | _ => exact .inl hd

end Step

theorem mem_of_mem_cons {es : List Event} {x : Act} (h : (b, x) ∈ e :: es) (he : e.2 ≠ x) :
    (b, x) ∈ es :=
  (List.mem_cons.1 h).resolve_left fun heq => he (congrArg Prod.snd heq).symm

/-- From the end of a session to the start that opens the next, no tick is committed. -/
theorem Trace.stopped {es : List Event} (trace : Trace s es t) (hr : s.clock.stage.running = false)
    (he : ∀ a, (a, Act.opened) ∉ es) :
    t.clock.stage.running = false ∧ (∀ a, (a, Act.ticked true) ∉ es) ∧
    (t.clock.stage = s.clock.stage ∨
      (∃ a, (a, Act.rewound) ∈ es) ∧ t.clock.stage = s.clock.stage.reset) := by
  induction trace with
  | nil => exact ⟨hr, fun _ => nofun, .inl rfl⟩
  | @cons es e t u past step ih =>
    obtain ⟨hr', hticks, hstage⟩ := ih fun a ha => he a (.tail e ha)
    obtain ⟨hru, hno, hstep⟩ := step.stopped hr' fun h => he e.1 (h ▸ .head es)
    refine ⟨hru, fun a ha => hticks a (mem_of_mem_cons ha hno), ?_⟩
    rcases hstep with hsame | ⟨hrew, hreset⟩
    · rw [hsame]
      exact hstage.imp_right fun ⟨⟨a, ha⟩, h⟩ => ⟨⟨a, .tail e ha⟩, h⟩
    · refine .inr ⟨⟨e.1, hrew ▸ .head es⟩, ?_⟩
      rcases hstage with h | ⟨-, h⟩
      · rw [hreset, h]
      · rw [hreset, h, Stage.reset_reset]

/-- A worker was sent out, and has ended or been told to halt. -/
def Told (w : Nat) (s : System) : Prop :=
  w < s.clock.workers.length ∧ (s.clock.isAlive w = true → s.clock.halted = true)

theorem Told.step {w : Nat} (told : Told w s) (h : s.Sound) (step : Step s e t) :
    Told w t ∧ e ≠ (.worker w, .ticked true) := by
  constructor
  · apply And.intro (Nat.lt_of_lt_of_le told.1 step.workers_length)
    intro hw
    have hold := step.alive (.inl told.1) hw
    rcases step.halted h (told.2 hold) with hd | ⟨-, none⟩
    · exact hd
    · exact absurd ((none w).symm.trans hold) Bool.false_ne_true
  · intro he
    obtain ⟨hr, halive⟩ := step.committed (congrArg Prod.snd he)
    have hw := halive w (congrArg Prod.fst he)
    exact absurd ((h.hushed (told.2 hw) w hw).symm.trans hr) Bool.false_ne_true

/-- A worker that was told to halt never commits another tick. -/
theorem Told.trace {w : Nat} (told : Told w s) (h : s.Sound) {es : List Event}
    (trace : Trace s es t) : Told w t ∧ (Agent.worker w, Act.ticked true) ∉ es := by
  induction trace with
  | nil => exact ⟨told, nofun⟩
  | cons past step ih =>
    obtain ⟨hnow, hno⟩ := ih.1.step (h.trace past) step
    apply And.intro hnow
    intro hmem
    rcases List.mem_cons.1 hmem with heq | hmem
    · exact hno heq.symm
    · exact ih.2 hmem

theorem Step.answers {i : Nat} {p : Starting} {x : Act} (step : Step s (.client i, x) t)
    (hc : s.calls (.client i) = .start p) (hopening : p ≠ .opening) (hentering : p ≠ .entering) :
    x = .cleared ∨ x = .sent ∨ x = .recorded := by
  cases step <;> simp_all

/-- The law of the workers, at every moment of every interleaving, with any listener. At most one
worker is alive, and it is on record unless the start that sent it out is about to record it.
Workers are told to go on only when none is alive. One that was told to halt never commits another
tick; and from the section of a stop or a reset that ended a session until a start opens the next,
which then answers yes, no tick of anyone is committed, and the stage stays as it is or is put back
by a reset. -/
theorem worker_law {setup : Setup} {stage : Stage} {es : List Event}
    (trace : Trace (initial setup stage) es s) :
    (∀ v w, s.clock.isAlive v = true → s.clock.isAlive w = true → v = w) ∧
    (∀ w, s.clock.isAlive w = true →
      s.clock.current = some w ∨ ∃ a, s.calls a = .start (.recording w)) ∧
    (∀ e t, Step s e t → e.2 = .cleared ∨ s.clock.halted = true ∧ t.clock.halted = false →
      ∀ w, s.clock.isAlive w = false) ∧
    (∀ w es' t, s.clock.isAlive w = true → s.clock.halted = true → Trace s es' t →
      (Agent.worker w, Act.ticked true) ∉ es') ∧
    (∀ e t es' u, Step s e t → e.2 = .closed ∨ e.2 = .rewound → Trace t es' u →
      (∀ a, (a, Act.opened) ∉ es') →
      (∀ a, (a, Act.ticked true) ∉ es') ∧
      (u.clock.stage = t.clock.stage ∨
        (∃ a, (a, Act.rewound) ∈ es') ∧ u.clock.stage = t.clock.stage.reset)) ∧
    (∀ i x t p, Step s (.client i, x) t → s.calls (.client i) = .start p → p ≠ .opening →
      p ≠ .entering → x = .cleared ∨ x = .sent ∨ x = .recorded) := by
  have h := (Sound.initial setup stage).trace trace
  refine ⟨h.one_alive, fun w => h.recorded_or, ?_, ?_, ?_, fun i x t p step => step.answers⟩
  · intro e t step he w
    rcases he with hcleared | ⟨hd, hd'⟩
    · exact step.cleared h hcleared w
    · rcases step.halted h hd with hstays | ⟨-, none⟩
      · exact absurd (hd'.symm.trans hstays) Bool.false_ne_true
      · exact none w
  · intro w es' t hw hd trace'
    exact (Told.trace ⟨Clock.lt_of_isAlive hw, fun _ => hd⟩ h trace').2
  · intro e t es' u step he trace' hno
    exact (trace'.stopped (step.ended he) hno).2

/-- A clock whose listener is told of every tick; overlapping actors do not collide. -/
private def listened : Setup where
  autoCollide := .bool false
  listener := some ⟨fun _ => false, fun _ => true, fun _ => none⟩

/-- The worker is in the listener when the clock is stopped, and outlives the stop. -/
theorem worker_law_waiting :
    ∃ (s t u : System) (es es' : List Event),
      Trace (initial listened {}) es s ∧ Step s (.client 1, .closed) t ∧ Trace t es' u ∧
      u.clock.isAlive 0 = true ∧ u.clock.halted = true ∧
      (∀ v, u.clock.isAlive v = true → v = 0) ∧ (∀ a, (a, Act.ticked true) ∉ es') := by
  have asked := Trace.nil.cons (Step.ask (s := initial listened {}) (i := 0) .start rfl)
  have opened := (asked.cons (.enterStart (a := .client 0) rfl rfl rfl)).cons
    (.openSession (a := .client 0) rfl rfl)
  have sent := (opened.cons (.clear (a := .client 0) rfl)).cons (.send (a := .client 0) rfl)
  have looked := (sent.cons (.record (a := .client 0) rfl)).cons (.look (w := 0) rfl)
  have waiting := (looked.cons (.beat (w := 0) rfl)).cons (.hear (w := 0) rfl rfl)
  have entered := (waiting.cons (.ask (i := 1) .stop rfl)).cons
    (.enterStop (a := .client 1) rfl rfl)
  have closed := entered.cons (.close (a := .client 1) (w := 0) rfl)
  have law := worker_law entered
  have law' := worker_law (closed.cons (.signal (a := .client 1) rfl))
  refine ⟨_, _, _, _, _, entered, .close (a := .client 1) (w := 0) rfl,
    Trace.nil.cons (.signal (a := .client 1) rfl), rfl, rfl, fun v hv => law'.1 v 0 hv rfl, ?_⟩
  exact (law.2.2.2.2.1 _ _ _ _ (.close (a := .client 1) (w := 0) rfl) (.inl rfl)
    (Trace.nil.cons (.signal (a := .client 1) rfl)) (by simp)).1

end System

end SpriteStage
