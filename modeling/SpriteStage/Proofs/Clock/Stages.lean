import SpriteStage.Proofs.Clock.Calls

/-!
# What clocks do to their stage

A clock starts and stops the session of its stage, puts the stage back, ticks it and lets actors
collide. Whatever a call or a worker does, it is a sequence of these operations, so what they keep
true of a stage is kept by clocks.
-/

namespace SpriteStage

namespace Stage

variable {allowed : Operation → Prop} {s t u : Stage}

/-- A stage becomes another by operations each of which is allowed. -/
def Leads (allowed : Operation → Prop) (s t : Stage) : Prop :=
  ∃ ops : History, (∀ op ∈ ops, allowed op) ∧ ops.foldr (fun op s => s.perform op) s = t

namespace Leads

theorem refl (s : Stage) : Leads allowed s s := ⟨[], List.forall_mem_nil _, rfl⟩

theorem perform (s : Stage) (op : Operation) (h : allowed op) : Leads allowed s (s.perform op) :=
  ⟨[op], List.forall_mem_singleton.2 h, rfl⟩

theorem trans (h : Leads allowed s t) (h' : Leads allowed t u) : Leads allowed s u := by
  obtain ⟨ops, hops, rfl⟩ := h
  obtain ⟨ops', hops', rfl⟩ := h'
  exact ⟨ops' ++ ops, List.forall_mem_append.2 ⟨hops', hops⟩, List.foldr_append⟩

theorem keeps {P : Stage → Prop} (hP : ∀ s op, allowed op → P s → P (s.perform op))
    (h : Leads allowed s t) (hs : P s) : P t := by
  obtain ⟨ops, hops, rfl⟩ := h
  induction ops with
  | nil => exact hs
  | cons op ops ih =>
    obtain ⟨hop, hops⟩ := List.forall_mem_cons.1 hops
    exact hP _ op hop (ih hops)

theorem mono {more : Operation → Prop} (hmore : ∀ op, allowed op → more op)
    (h : Leads allowed s t) : Leads more s t := by
  obtain ⟨ops, hops, heq⟩ := h
  exact ⟨ops, fun op hop => hmore op (hops op hop), heq⟩

end Leads

/-- The operations that clocks use. -/
def Operation.Timed : Operation → Prop
  | .start | .stop | .reset | .tick | .collide .. => True
  | _ => False

/-- A list of collisions. -/
theorem collideAll_leads (s : Stage) (pairs : List (Value × Value)) :
    Leads Operation.Timed s (s.collideAll pairs).2 := by
  induction pairs generalizing s with
  | nil => exact .refl s
  | cons pair pairs ih =>
    have hfirst : Leads Operation.Timed s (s.collide pair.1 pair.2).2 :=
      Leads.perform s (.collide pair.1 pair.2) trivial
    rw [collideAll]
    cases hc : s.collide pair.1 pair.2 with | mk answer t =>
    rw [hc] at hfirst
    cases answer with
    | error => exact hfirst
    | ok => exact hfirst.trans (ih t)

end Stage

namespace Clock

open Stage

variable {c : Clock}

/-- The stage of a clock becomes that of another by operations that clocks use. -/
abbrev Drives (c d : Clock) : Prop := Leads Operation.Timed c.stage d.stage

theorem openSession_drives (c : Clock) : c.Drives c.openSession.2 :=
  Leads.perform c.stage .start trivial

theorem launch_drives (c : Clock) : c.Drives c.launch.2 := by
  have h := c.openSession_drives
  unfold launch
  split
  · exact .refl _
  · split <;> rename_i heq <;> rw [heq] at h <;> exact h

theorem halt_drives (c : Clock) : c.Drives c.halt.2 := by
  rw [halt_eq]
  exact Leads.perform c.stage .stop trivial

theorem rewind_drives (c : Clock) : c.Drives c.rewind :=
  Leads.perform c.stage .reset trivial

theorem commit_drives (c : Clock) : c.Drives c.commit.2 := by
  have hticked : Leads Operation.Timed c.stage c.stage.tick.2 :=
    Leads.perform c.stage .tick trivial
  unfold commit
  split
  · exact .refl _
  · rename_i heq
    rw [heq] at hticked
    dsimp only
    split
    · exact hticked.trans (collideAll_leads ..)
    · exact hticked

/-! ### Workers -/

theorem finish_stage (c : Clock) (w : Nat) (failure : Option Failure) :
    (c.finish w failure).stage = c.stage := by
  cases failure <;> rfl

theorem tell_drives (c : Clock) (w : Nat) (l : Listener) (tick : Nat) :
    c.Drives (c.tell w l tick) := by
  have htold : c.Drives (if l.stopsAt tick then (c.hear tick).halt.2 else c.hear tick) := by
    split
    · exact (c.hear tick).halt_drives
    · exact .refl _
  unfold tell
  dsimp only
  generalize (if l.stopsAt tick then (c.hear tick).halt.2 else c.hear tick) = d at htold
  split
  · exact htold
  · unfold Drives
    rwa [finish_stage]

/-- A step of a worker. -/
theorem step_drives (c : Clock) (w : Nat) : c.Drives (c.step w) := by
  unfold step
  split
  · exact .refl _
  · obtain ⟨p, hp⟩ := c.beat_eq w
    rw [hp]
    exact c.commit_drives
  · exact tell_drives ..
  · split
    · unfold Drives
      rw [finish_stage]
      exact .refl _
    · exact .refl _
  · split <;> exact .refl _
  · exact .refl _

theorem settle_drives (c : Clock) : c.Drives c.settle := by
  unfold settle
  split
  · rename_i w _
    have hrepeat (n : Nat) : c.Drives (Nat.repeat (fun c => c.step w) n c) := by
      induction n with
      | zero => exact .refl _
      | succ n ih => exact ih.trans (step_drives ..)
    exact hrepeat 5
  · exact .refl _

/-! ### Calls -/

theorem start_drives (c : Clock) : c.Drives c.start.2 := by
  have h := c.launch_drives
  unfold start
  split
  · rename_i heq
    rw [heq] at h
    exact h
  · rename_i heq
    rw [heq] at h
    split <;> exact h.trans (settle_drives _)

theorem forget_stage (c : Clock) (w : Nat) : (c.forget w).stage = c.stage := by
  unfold forget
  split <;> rfl

theorem stop_drives (c : Clock) (patience : Value) : c.Drives (c.stop patience).2 := by
  have hsettled := c.halt_drives.trans c.halt.2.settle_drives
  rcases c.stop_cases patience with ⟨-, h⟩ | ⟨w, -, h | ⟨e, h⟩⟩ <;> rw [h]
  · exact c.halt_drives
  · unfold Drives
    rwa [forget_stage]
  · exact hsettled

theorem reset_drives (c : Clock) : c.Drives c.reset :=
  (c.stop_drives patience).trans (rewind_drives _)

theorem tick_drives (c : Clock) : c.Drives c.tick.2 := by
  have h := c.commit_drives
  unfold tick
  split
  · rename_i tick d l heq _
    rw [heq] at h
    have htold : c.Drives (if l.stopsAt tick.number then ((d.hear tick.number).stop patience).2
        else d.hear tick.number) := by
      split
      · exact h.trans (stop_drives (d.hear tick.number) patience)
      · exact h
    dsimp only
    split <;> exact htold
  · rename_i heq _
    rw [heq] at h
    exact h

end Clock

end SpriteStage
