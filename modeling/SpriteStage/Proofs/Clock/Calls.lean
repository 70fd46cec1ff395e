import SpriteStage.Clock.Calls
import SpriteStage.Proofs.Clock.Workers

/-!
# Calls as runs

A call that is made while no other call is on its way is a run of its sections, the worker on record
going on meanwhile as far as it can. So what holds in every interleaving holds of the clock that
serves one call after the other.
-/

namespace SpriteStage

def Phase.isWaiting : Phase → Bool
  | waiting _ => true
  | _ => false

theorem Setup.pause_isWaiting (s : Setup) : s.pause.isWaiting = false := by
  unfold pause
  split
  · split <;> rfl
  · rfl

namespace Clock

variable {c d : Clock} {v w : Nat} {p q : Phase}

def waits (c : Clock) (w : Nat) : Bool := c.workers[w]?.any Phase.isWaiting

theorem waits_of_phase (h : c.workers[w]? = some p) : c.waits w = p.isWaiting := by
  rw [waits, h]
  rfl

theorem waits_setPhase (h : c.workers[w]? = some q) (v : Nat) :
    (c.setPhase w p).waits v = if v = w then p.isWaiting else c.waits v := by
  have hlt : w < c.workers.length := (List.getElem?_eq_some_iff.1 h).1
  by_cases hv : v = w
  · simp [waits, setPhase, hv, hlt]
  · simp [waits, setPhase, hv, List.getElem?_set_ne (Ne.symm hv)]

theorem waits_pass (h : c.workers[w]? = some q) (hq : q.isWaiting = false)
    (hp : p.isWaiting = false) (v : Nat) : (c.setPhase w p).waits v = c.waits v := by
  rw [waits_setPhase h]
  split
  · rename_i hv
    rw [hv, waits_of_phase h, hq, hp]
  · rfl

theorem waits_send (v : Nat) : c.send.waits v = c.waits v := by
  rcases Nat.lt_trichotomy v c.workers.length with hv | hv | hv
  · simp [waits, send, List.getElem?_append_left hv]
  · simp [waits, send, hv, Phase.isWaiting]
  · have hv' : (c.workers ++ [Phase.checking]).length ≤ v := by simpa using Nat.succ_le_of_lt hv
    simp [waits, send, List.getElem?_eq_none hv', Nat.le_of_lt hv]

theorem forget_waits (w v : Nat) : (c.forget w).waits v = c.waits v := by
  unfold forget
  split <;> rfl

theorem forget_alive (h : c.isAlive w = true) : c.forget w = c := by
  simp [forget, h]

theorem halt_eq (c : Clock) :
    c.halt.2 = { c with stage := c.stage.stop.2, halted := c.halted || c.current.isSome } := by
  unfold halt closeSession signal
  cases h : c.current <;> simp

theorem halt_of_none (h : c.current = none) : c.halt.2 = c.closeSession.2 := by
  simp [halt_eq, closeSession, h]

theorem halt_of_some (h : c.current = some w) : c.halt.2 = c.closeSession.2.signal := by
  simp [halt_eq, closeSession, signal, h]

theorem halt_setPhase (c : Clock) : (c.setPhase w p).halt.2 = c.halt.2.setPhase w p := by
  rw [halt_eq, halt_eq]
  rfl

theorem finish_setPhase (c : Clock) (failure : Option Failure) :
    (c.setPhase w p).finish w failure = c.finish w failure := by
  cases failure <;> simp [finish, setPhase]

theorem finish_waits (h : c.workers[w]? = some p) (failure : Option Failure) (v : Nat) :
    (c.finish w failure).waits v = if v = w then false else c.waits v := by
  cases failure <;> exact (waits_setPhase h v).trans (by rw [Setup.pause_isWaiting])

theorem commit_waits (c : Clock) (v : Nat) : c.commit.2.waits v = c.waits v := by
  rw [waits, c.commit_workers, waits]

theorem beat_waits (h : c.workers[w]? = some .ticking) (v : Nat) :
    (c.beat w).waits v = c.waits v := by
  have h' : c.commit.2.workers[w]? = some .ticking := by rwa [c.commit_workers]
  rw [← c.commit_waits v]
  unfold beat
  split
  · rename_i hc _
    rw [hc] at h' ⊢
    exact waits_pass h' rfl rfl v
  · rename_i hc _
    rw [hc] at h' ⊢
    exact waits_pass h' rfl (Setup.pause_isWaiting _) v

theorem halt_waits (c : Clock) (v : Nat) : c.halt.2.waits v = c.waits v := by
  rw [halt_eq]
  rfl

theorem halt_current (c : Clock) : c.halt.2.current = c.current := by rw [halt_eq]

theorem finish_current (c : Clock) (w : Nat) (failure : Option Failure) :
    (c.finish w failure).current = c.current := by
  cases failure <;> rfl

theorem tell_current (c : Clock) (w : Nat) (l : Listener) (tick : Nat) :
    (c.tell w l tick).current = c.current := by
  have hfinish (d : Clock) (hd : d.current = c.current) :
      (if l.waitsAt tick && !d.released then d.setPhase w (.waiting tick)
        else d.finish w (l.failsAt tick)).current = c.current := by
    split
    · exact hd
    · exact (finish_current ..).trans hd
  apply hfinish
  split
  · exact halt_current _
  · rfl

theorem step_current (c : Clock) (w : Nat) : (c.step w).current = c.current := by
  unfold step
  split
  · rfl
  · obtain ⟨p, hp⟩ := c.beat_eq w
    rw [hp]
    exact c.tame_commit.current
  · exact tell_current ..
  · split
    · exact finish_current ..
    · rfl
  · split <;> rfl
  · rfl

theorem openSession_refused (h : c.openSession = (false, d)) : d = c := by
  cases hr : c.stage.running with
  | true =>
    rw [openSession, Stage.start_running hr] at h
    exact (congrArg Prod.snd h).symm
  | false => simp [openSession, Stage.start_stopped hr] at h

theorem stop_cases (c : Clock) (patience : Value) :
    (c.current = none ∧ c.stop patience = (.ok c.halt.1, c.halt.2)) ∨
    ∃ w, c.current = some w ∧
      (c.stop patience = (.ok true, c.halt.2.settle.forget w) ∨
        ∃ e, c.stop patience = (.error e, c.halt.2.settle)) := by
  unfold stop
  cases hc : c.current with
  | none => exact .inl ⟨rfl, rfl⟩
  | some w =>
    refine .inr ⟨w, rfl, ?_⟩
    dsimp only
    split
    · exact .inl rfl
    · exact .inr ⟨_, rfl⟩

end Clock

namespace System

variable {s t u : System} {a : Agent} {call : Call} {c d : Clock} {w : Nat}

/-- There is a run from one state to another. -/
def Runs (s t : System) : Prop := ∃ es, Trace s es t

theorem Runs.refl (s : System) : Runs s s := ⟨[], .nil⟩

theorem Runs.trans (h : Runs s t) (h' : Runs t u) : Runs s u := by
  obtain ⟨es, past⟩ := h
  obtain ⟨es', later⟩ := h'
  induction later with
  | nil => exact ⟨es, past⟩
  | cons _ step ih =>
    obtain ⟨es'', before⟩ := ih
    exact ⟨_, before.cons step⟩

theorem Step.runs {e : Event} (step : Step s e t) : Runs s t := ⟨[e], .cons .nil step⟩

theorem Runs.step {e : Event} (h : Runs s t) (step : Step t e u) : Runs s u := h.trans step.runs

theorem Runs.to (h : Runs s t) (heq : t = u) : Runs s u := heq ▸ h

/-- An agent has come to a point of a call, and the clock is as it is left there. -/
def moved (s : System) (a : Agent) (call : Call) (c : Clock) : System :=
  { s.go a call with clock := c }

@[simp] theorem moved_clock : (s.moved a call c).clock = c := rfl

@[simp] theorem moved_self : (s.moved a call c).calls a = call := go_self call

theorem moved_other {b : Agent} (h : b ≠ a) : (s.moved a call c).calls b = s.calls b :=
  go_other h call

theorem eq_moved (clock : t.clock = c) (inside : t.inside = s.inside) (own : t.calls a = call)
    (others : ∀ b, b ≠ a → t.calls b = s.calls b) : t = s.moved a call c := by
  obtain ⟨d, i, calls⟩ := t
  simp only at clock inside own others
  simp only [moved, go, clock, inside, mk.injEq, true_and]
  ext b
  by_cases hb : b = a
  · rw [if_pos hb, hb, own]
  · rw [if_neg hb, others b hb]

/-- What a stop is at after it has left the gate, if there was a worker on record. -/
def afterHalt (aim : Aim) : Option Nat → Call
  | none => aim.next
  | some w => .stop (.joining w) aim

/-- The sections of a stop inside the gate are one visit to it. -/
theorem halt_runs (free : s.inside = none) (aim : Aim) :
    Runs (s.moved a (.stop .entering aim) c) (s.moved a (afterHalt aim c.current) c.halt.2) := by
  have entered := (Step.enterStop (s := s.moved a (.stop .entering aim) c) moved_self free).runs
  rw [moved_clock] at entered
  cases hc : c.current with
  | none =>
    rw [hc] at entered
    have closed := entered.step (.closeAlone (a := a) (go_self (s := s.moved a _ c) _))
    apply closed.to
    apply eq_moved
    · exact (Clock.halt_of_none hc).symm
    · exact free.symm
    · exact go_self _
    · intro b hb
      simp [go_other hb, moved_other hb]
  | some w =>
    rw [hc] at entered
    have closed := entered.step (.close (a := a) (go_self (s := s.moved a _ c) _))
    have signalled := closed.step (.signal (a := a) (go_self _))
    apply signalled.to
    apply eq_moved
    · exact (Clock.halt_of_some hc).symm
    · exact free.symm
    · exact go_self _
    · intro b hb
      simp [go_other hb, moved_other hb]

/-- The rest of a stop, once the wait for the worker is over. -/
theorem forget_runs (free : s.inside = none) (aim : Aim) :
    Runs (s.moved a (.stop (.joining w) aim) c) (s.moved a aim.next (c.forget w)) := by
  have joined := (Step.join (s := s.moved a (.stop (.joining w) aim) c) moved_self).runs
  apply (joined.step (.forget (a := a) (go_self _) free)).to
  apply eq_moved
  · rfl
  · rfl
  · exact go_self _
  · intro b hb
    simp [go_other hb, moved_other hb]

/-- The first client is at a point of a call, and no one else is in a call, except for the workers
that are in the listener. -/
def oneCall (c : Clock) (call : Call) : System where
  clock := c
  calls
    | .client i => if i = 0 then call else .idle
    | .worker w => bif c.waits w then .listen else .idle

theorem moved_client (h : ∀ v, d.waits v = c.waits v) (call' : Call) :
    (oneCall c call).moved (.client 0) call' d = oneCall d call' := by
  symm
  apply eq_moved
  · rfl
  · rfl
  · rfl
  · intro b hb
    cases b with
    | client i =>
      have hi : i ≠ 0 := fun hi => hb (hi ▸ rfl)
      simp [oneCall, hi]
    | worker v => simp [oneCall, h]

theorem moved_worker (h : ∀ v, v ≠ w → d.waits v = c.waits v) {call' : Call}
    (hcall : call' = bif d.waits w then .listen else .idle) :
    (oneCall c call).moved (.worker w) call' d = oneCall d call := by
  symm
  apply eq_moved
  · rfl
  · rfl
  · exact hcall.symm
  · intro b hb
    cases b with
    | client i => rfl
    | worker v =>
      have hv : v ≠ w := fun hv => hb (hv ▸ rfl)
      simp [oneCall, h v hv]

theorem oneCall_clock (h : ∀ v, d.waits v = c.waits v) :
    { oneCall c call with clock := d } = oneCall d call := by
  simp only [oneCall, h]

theorem oneCall_listens {tick : Nat} (h : c.workers[w]? = some (.waiting tick)) :
    (oneCall c call).calls (.worker w) = .listen := by
  simp [oneCall, Clock.waits_of_phase h, Phase.isWaiting]

theorem finish_runs {tick : Nat} (h : c.workers[w]? = some (.waiting tick))
    (failure : Option Failure) (call : Call) :
    Runs (oneCall c call) (oneCall (c.finish w failure) call) := by
  have waits := Clock.finish_waits h failure
  apply (Step.leave failure h (oneCall_listens h)).runs.to
  apply moved_worker
  · intro v hv
    exact (waits v).trans (if_neg hv)
  · dsimp only [oneCall]
    rw [waits, if_pos rfl]
    rfl

/-- A worker stops the clock from inside the listener, and does not wait for itself. -/
theorem halt_listening_runs {tick : Nat} (h : c.workers[w]? = some (.waiting tick))
    (hc : c.current = some w) (call : Call) :
    Runs (oneCall c call) (oneCall c.halt.2 call) := by
  have alive : c.halt.2.isAlive w = true := by
    rw [c.halt_eq]
    exact Clock.isAlive_of_phase h nofun
  have asked := (Step.stopFromListener (s := oneCall c call) (oneCall_listens h)).runs
  have halted := asked.trans (halt_runs (s := oneCall c call) (c := c) rfl .listener)
  rw [hc, afterHalt] at halted
  apply (halted.trans (forget_runs rfl .listener)).to
  rw [Clock.forget_alive alive]
  apply moved_worker
  · intro v _
    exact c.halt_waits v
  · rw [Clock.halt_waits, Clock.waits_of_phase h]
    rfl

/-- A worker tells the listener, which may stop the clock, and comes back unless it waits there. -/
theorem tell_runs {tick : Nat} (h : c.workers[w]? = some (.telling tick)) (hc : c.current = some w)
    (l : Listener) (call : Call) :
    Runs (oneCall c call) (oneCall (c.tell w l tick) call) := by
  have idle : (oneCall c call).calls (.worker w) = .idle := by
    simp [oneCall, Clock.waits_of_phase h, Phase.isWaiting]
  have hlt := (List.getElem?_eq_some_iff.1 h).1
  have waiting (d : Clock) (hd : d.workers = c.workers) :
      (d.setPhase w (.waiting tick)).workers[w]? = some (.waiting tick) := by
    simp [Clock.setPhase, hd, hlt]
  have heard : Runs (oneCall c call) (oneCall ((c.hear tick).setPhase w (.waiting tick)) call) := by
    have waits := Clock.waits_setPhase (c := c.hear tick) (p := .waiting tick) h
    apply (Step.hear h idle).runs.to
    apply moved_worker
    · intro v hv
      exact (waits v).trans (if_neg hv)
    · dsimp only [oneCall]
      rw [waits, if_pos rfl]
      rfl
  -- whether or not the listener stops the clock, the worker is in the listener then
  have stopped : ∃ d : Clock,
      d = (if l.stopsAt tick then (c.hear tick).halt.2 else c.hear tick) ∧ d.workers = c.workers ∧
      Runs (oneCall c call) (oneCall (d.setPhase w (.waiting tick)) call) := by
    refine ⟨_, rfl, ?_⟩
    split
    · have halted := halt_listening_runs (waiting (c.hear tick) rfl) hc call
      rw [Clock.halt_setPhase] at halted
      exact ⟨by rw [Clock.halt_eq]; rfl, heard.trans halted⟩
    · exact ⟨rfl, heard⟩
  obtain ⟨d, hd, hworkers, stopped⟩ := stopped
  unfold Clock.tell
  dsimp only
  rw [← hd]
  split
  · exact stopped
  · have back := finish_runs (waiting d hworkers) (l.failsAt tick) call
    rw [Clock.finish_setPhase] at back
    exact stopped.trans back

/-- A step of the worker on record. -/
theorem step_runs (hc : c.current = some w) (call : Call) :
    Runs (oneCall c call) (oneCall (c.step w) call) := by
  unfold Clock.step
  split
  · rename_i h
    exact (Step.look h).runs.to (oneCall_clock (Clock.waits_pass h rfl (by split <;> rfl)))
  · rename_i h
    exact (Step.beat h).runs.to (oneCall_clock (Clock.beat_waits h))
  · rename_i tick l h _
    exact tell_runs h hc l call
  · rename_i h _
    split
    · exact finish_runs h _ call
    · exact .refl _
  · rename_i h
    split
    · exact (Step.wake h).runs.to (oneCall_clock (Clock.waits_pass h rfl rfl))
    · exact .refl _
  · exact .refl _

/-- The worker on record goes on as far as it can. -/
theorem settle_runs (c : Clock) (call : Call) : Runs (oneCall c call) (oneCall c.settle call) := by
  have steps (w n : Nat) (hc : c.current = some w) :
      (Nat.repeat (fun d => d.step w) n c).current = some w ∧
      Runs (oneCall c call) (oneCall (Nat.repeat (fun d => d.step w) n c) call) := by
    induction n with
    | zero => exact ⟨hc, .refl _⟩
    | succ n ih => exact ⟨(Clock.step_current ..).trans ih.1, ih.2.trans (step_runs ih.1 call)⟩
  unfold Clock.settle
  split
  · rename_i w hc
    exact (steps w 5 hc).2
  · exact .refl _

theorem Step.client_runs {e : Event} {call' : Call}
    (step : Step (oneCall c call) e ((oneCall c call).moved (.client 0) call' d))
    (h : ∀ v, d.waits v = c.waits v) : Runs (oneCall c call) (oneCall d call') :=
  step.runs.to (moved_client h call')

theorem ask_runs (c : Clock) (r : Ask) : Runs (oneCall c .idle) (oneCall c r.call) :=
  (Step.ask (i := 0) r rfl).client_runs fun _ => rfl

theorem eq_oneCall (c : Clock) (call : Call) {call' : Call} (clock : t.clock = d)
    (waits : ∀ v, d.waits v = c.waits v) (inside : t.inside = none)
    (own : t.calls (.client 0) = call')
    (others : ∀ b, b ≠ .client 0 → t.calls b = (oneCall c call).calls b) : t = oneCall d call' :=
  (eq_moved clock inside own others).trans (moved_client waits call')

/-- The sections of a start inside the gate are one visit to it. -/
theorem launch_runs (c : Clock) :
    Runs (oneCall c (.start .entering)) (oneCall c.launch.2 .idle) := by
  unfold Clock.launch
  split
  · rename_i busy
    exact (Step.refuse (a := .client 0) rfl rfl busy).client_runs fun _ => rfl
  · rename_i rest
    have entered := (Step.enterStart (s := oneCall c (.start .entering)) (a := .client 0) rfl rfl
      (Bool.eq_false_iff.2 rest)).runs
    split
    · rename_i d hopened
      have denied := entered.step (.deny (a := .client 0) rfl (congrArg Prod.fst hopened))
      have hd : d = c := Clock.openSession_refused hopened
      apply denied.to
      apply eq_oneCall c (.start .entering)
      · exact hd.symm
      · exact fun _ => hd ▸ rfl
      · rfl
      · rfl
      · intro b hb
        simp [go_other hb]
    · rename_i d hopened
      have opened := entered.step (.openSession (a := .client 0) rfl (congrArg Prod.fst hopened))
      have sent := (opened.step (.clear (a := .client 0) rfl)).step (.send (a := .client 0) rfl)
      have recorded := sent.step (.record (a := .client 0) rfl)
      have hd : d = c.openSession.2 := (congrArg Prod.snd hopened).symm
      subst hd
      apply recorded.to
      apply eq_oneCall c (.start .entering)
      · rfl
      · exact Clock.waits_send (c := c.openSession.2.clearHalt)
      · rfl
      · rfl
      · intro b hb
        simp [go_other hb]

theorem start_runs (c : Clock) : Runs (oneCall c .idle) (oneCall c.start.2 .idle) := by
  have launched := (ask_runs c .start).trans (launch_runs c)
  unfold Clock.start
  split
  · rename_i h
    rwa [h] at launched
  · rename_i h
    rw [h] at launched
    split <;> exact launched.trans (settle_runs _ _)

/-- A stop is a run, whatever it is part of. -/
theorem aimed_stop_runs (c : Clock) (patience : Value) (aim : Aim) :
    Runs (oneCall c (.stop .entering aim)) (oneCall (c.stop patience).2
      (if (c.stop patience).1.isOk then aim.next else aim.failed)) := by
  have halted := halt_runs (s := oneCall c (.stop .entering aim)) (a := .client 0) (c := c) rfl aim
  rw [moved_client (fun _ => rfl), moved_client c.halt_waits] at halted
  rcases c.stop_cases patience with ⟨hc, h⟩ | ⟨w, hc, h⟩
  · rw [h]
    rwa [hc] at halted
  · rw [hc] at halted
    have settled := halted.trans (settle_runs _ _)
    rcases h with h | ⟨e, h⟩
    · have forgot := forget_runs (s := oneCall c.halt.2.settle (.stop (.joining w) aim))
        (a := .client 0) (c := c.halt.2.settle) (w := w) rfl aim
      rw [moved_client (fun _ => rfl), moved_client (Clock.forget_waits w)] at forgot
      rw [h]
      exact settled.trans forgot
    · rw [h]
      exact settled.trans ((Step.failJoin (a := .client 0) rfl).client_runs fun _ => rfl)

theorem stop_runs (c : Clock) (patience : Value) :
    Runs (oneCall c .idle) (oneCall (c.stop patience).2 .idle) := by
  have stopped := (ask_runs c .stop).trans (aimed_stop_runs c patience .stop)
  split at stopped <;> exact stopped

theorem reset_runs (h : (c.stop Clock.patience).1.isOk = true) :
    Runs (oneCall c .idle) (oneCall c.reset .idle) := by
  have stopped := (ask_runs c .reset).trans (aimed_stop_runs c Clock.patience .reset)
  rw [if_pos h] at stopped
  exact stopped.trans ((Step.rewind (a := .client 0) rfl).client_runs fun _ => rfl)

theorem stop_listening_runs (c : Clock) :
    Runs (oneCall c .listen) (oneCall (c.stop Clock.patience).2 .listen) := by
  have asked : Runs (oneCall c .listen) (oneCall c (.stop .entering .listener)) :=
    (Step.stopFromListener (a := .client 0) rfl).client_runs fun _ => rfl
  have stopped := asked.trans (aimed_stop_runs c Clock.patience .listener)
  split at stopped <;> exact stopped

/-- A tick is a run. -/
theorem tick_runs (c : Clock) : Runs (oneCall c .idle) (oneCall c.tick.2 .idle) := by
  have ticked : Runs (oneCall c .idle) (oneCall c.commit.2 (afterTick c)) :=
    (ask_runs c .tick).trans ((Step.tick (i := 0) rfl).client_runs c.commit_waits)
  unfold Clock.tick
  split
  · rename_i tick d l hc hl
    have htell : afterTick c = .tell tick.number := by simp [afterTick, hc, hl]
    rw [htell, hc] at ticked
    have told : Runs (oneCall c .idle) (oneCall (d.hear tick.number) .listen) :=
      ticked.trans ((Step.tell (i := 0) rfl).client_runs fun _ => rfl)
    have listened : Runs (oneCall c .idle) (oneCall
        (if l.stopsAt tick.number then ((d.hear tick.number).stop Clock.patience).2
          else d.hear tick.number) .listen) := by
      split
      · exact told.trans (stop_listening_runs _)
      · exact told
    have back := listened.trans ((Step.finish (i := 0) rfl).client_runs fun _ => rfl)
    dsimp only
    split <;> exact back
  · rename_i tick d hc hno
    have hidle : afterTick c = .idle := by
      unfold afterTick
      split
      · rename_i tick l htick hl
        exact (hno tick l hl (by rw [← htick, hc])).elim
      · rfl
    rw [hidle] at ticked
    rwa [hc] at ticked

theorem oneCall_sound (recorded : c.Recorded) (hushed : c.Hushed) : (oneCall c .idle).Sound where
  inside_iff a := by
    have hout : ((oneCall c .idle).calls a).isInside = false := by
      cases a with
      | client i => simp [oneCall, Call.isInside]
      | worker w => cases hw : c.waits w <;> simp [oneCall, hw, Call.isInside]
    rw [hout]
    exact ⟨nofun, nofun⟩
  inside := nofun
  outside _ := recorded
  hushed := hushed

end System

namespace Clock

/-- Between calls every worker that is alive is on record, and no session runs over one that was
told to halt. -/
structure Steady (c : Clock) : Prop where
  recorded : c.Recorded
  hushed : c.Hushed

theorem Steady.tame {c d : Clock} (h : c.Steady) (tame : Tame c d) : d.Steady :=
  ⟨tame.recorded h.recorded, tame.hushed h.hushed⟩

theorem Steady.runs {c d : Clock} (h : c.Steady)
    (runs : System.Runs (System.oneCall c .idle) (System.oneCall d .idle)) : d.Steady := by
  obtain ⟨es, trace⟩ := runs
  have sound := (System.oneCall_sound h.recorded h.hushed).trace trace
  exact ⟨sound.outside rfl, sound.hushed⟩

theorem Steady.calls {c : Clock} (h : c.Steady) :
    c.start.2.Steady ∧ (∀ patience, (c.stop patience).2.Steady) ∧ c.reset.Steady ∧
    c.tick.2.Steady ∧ c.release.Steady := by
  have stopped (patience : Value) : (c.stop patience).2.Steady :=
    h.runs (System.stop_runs c patience)
  refine ⟨h.runs (System.start_runs c), stopped, ?_, h.runs (System.tick_runs c), ?_⟩
  · exact (stopped patience).tame (tame_rewind _)
  · have released : Steady { c with released := true } := ⟨h.recorded, h.hushed⟩
    exact released.runs (System.settle_runs _ .idle)

end Clock

end SpriteStage
