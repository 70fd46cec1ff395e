import SpriteStage.Proofs.Double.Steps
import SpriteStage.Proofs.Interpreter.Interference
import SpriteStage.Proofs.Stage.Accounts

/-!
# How long a bubble is shown

A bubble that is put up for a whole number of ticks is shown with one less at each tick of the stage
that follows, and it is gone when nothing is left. It is counted down before the script runs, so the
tick that puts it up shows it in full, also if it is put up for no time at all. Nothing else touches
it as long as its sprite puts up no other and stays on the stage: other operations keep poses and do
not count as ticks, over any number of sessions.
-/

namespace SpriteStage

/-! ### Bubbles of a script -/

/-- The blocks that put up a bubble in one pass over a script, in the order in which they are
evaluated. -/
def Script.bubbles (s : Script) : Script := s.unroll.filter (·.shown?.isSome)

private theorem findSome?_eq_bind_find? {α β : Type} (f : α → Option β) (l : List α) :
    l.findSome? f = (l.find? fun a => (f a).isSome).bind f := by
  induction l with
  | nil => rfl
  | cons a l ih =>
    rw [List.findSome?_cons, List.find?_cons]
    cases h : f a with
    | none => exact ih
    | some b => exact h.symm

theorem Script.lastShown?_eq_bind (s : Script) :
    s.lastShown? = s.bubbles.getLast?.bind Block.shown? := by
  rw [lastShown?, bubbles, List.getLast?_filterMap, List.getLast?_filter, findSome?_eq_bind_find?]

theorem Pose.display_tick (p : Pose) (s : Script) :
    (p.tick s).display = (s.bubbles.getLast?.bind Block.shown?).getD p.display.countdown := by
  rw [← Script.lastShown?_eq_bind]
  exact congrArg Pose.display (Pose.interpret_showing p.age p.age.display s)

/-- A reading is exact for whole numbers of no more than 53 bits. -/
theorem Value.rational?_nonNegative {v : Value} {n : Nat} (h : v.amount = n) (hn : n ≤ 2 ^ 53) :
    Double.rational? v.nonNegative = some (n : Rat) := by
  have hfinite : Double.rational? v.finite = some (n : Rat) := by
    rcases v.rational?_finite with hv | ⟨m, x, rfl, hx⟩
    · rw [hv, h]
    rw [Value.amount_int hx] at h
    obtain rfl : m = n := by exact_mod_cast h
    rw [Value.finite_int hx]
    obtain ⟨q, hq⟩ := Double.exists_rational? ((Double.ofInt?_eq_some.1 hx).2 ▸
      (Double.ofInt?_eq_some.1 hx).1)
    rcases hn.lt_or_eq with hlt | rfl
    · rw [hq, (Double.rational?_of_ofInt? hx hq).2.1 (by omega) (by omega)]
      rfl
    · -- the bound itself has one bit more than a significand, but the last of them is zero
      rw [← (Double.ofInt?_eq_some.1 hx).2]
      decide +kernel
  rw [Value.nonNegative, Double.rational?_atLeastZero hfinite, max_eq_right (Nat.cast_nonneg n)]

/-! ### Counting down -/

namespace Display

variable {b : Bubble} {text : Value}

theorem countdown_of_le {r : Float} {n : Nat} (hr : Double.rational? r = some (n : Rat))
    (hn : n ≤ 1) : (bubble b text r).countdown = none := by
  have hleft := Double.rational?_atLeastZero_sub_one hr (by omega)
  rw [Nat.sub_eq_zero_of_le hn] at hleft
  rw [countdown, if_pos ((Double.le_zero_iff hleft).2 le_rfl)]

theorem countdown_of_lt {r : Float} {n : Nat} (hr : Double.rational? r = some (n : Rat))
    (hn : n ≤ 2 ^ 53) (hlt : 1 < n) :
    ∃ r', (bubble b text r).countdown = bubble b text r' ∧
      Double.rational? r' = some ((n - 1 : Nat) : Rat) := by
  have hleft := Double.rational?_atLeastZero_sub_one hr hn
  refine ⟨_, ?_, hleft⟩
  rw [countdown, if_neg]
  rw [Double.le_zero_iff hleft, not_le]
  exact Nat.cast_pos.2 (by omega)

/-- What is left of a bubble for `n` ticks at the `j`-th tick after the one that put it up. -/
def Left (b : Bubble) (text : Value) (n j : Nat) (d : Display) : Prop :=
  if j < max 1 n then ∃ r, d = bubble b text r ∧ Double.rational? r = some ((n - j : Nat) : Rat)
  else d = none

theorem Left.countdown {n j : Nat} {d : Display} (h : d.Left b text n j) (hn : n ≤ 2 ^ 53) :
    d.countdown.Left b text n (j + 1) := by
  unfold Left at h
  split at h
  · obtain ⟨r, rfl, hr⟩ := h
    by_cases hj : j + 1 < max 1 n
    · rw [Left, if_pos hj]
      exact countdown_of_lt (n := n - j) hr (by omega) (by omega)
    · rw [Left, if_neg hj]
      exact countdown_of_le hr (by omega)
  · rw [Left, if_neg (by omega), h]
    rfl

theorem left_zero {p : Pose} {s : Script} {id : String} {seconds : Value} {n : Nat}
    (hlast : s.bubbles.getLast? = some (.bubble id b text seconds)) (hseconds : seconds.amount = n)
    (hn : n ≤ 2 ^ 53) : (p.tick s).display.Left b text n 0 := by
  rw [Pose.display_tick, hlast, Left, if_pos (by omega)]
  exact ⟨_, rfl, Value.rational?_nonNegative hseconds hn⟩

end Display

/-! ### Undisturbed histories -/

namespace History

/-- A later history in which an actor stays on the stage all the time, is not put back to rest, and
puts up no bubble when it is ticked. -/
inductive Undisturbed (k : String) (past : History) : History → Prop
  | refl : Undisturbed k past past
  | step {h : History} {op : Stage.Operation} (before : Undisturbed k past h)
      (kept : op.forgets = false) (present : k ∈ (stage (op :: h)).roster.keys)
      (quiet : isTick (op, h) = true → ∀ s, h.stage.scriptOf? k = some s → s.bubbles = []) :
      Undisturbed k past (op :: h)

variable {h : History} {k : String}

theorem poses_get?_tick (hk : k ∈ h.stage.roster.keys) (hr : h.stage.running = true) :
    ∃ s p, h.stage.scriptOf? k = some s ∧ h.stage.poses.get? k = some p ∧
      (stage (.tick :: h)).poses.get? k = some (p.tick s) := by
  obtain ⟨a, ha⟩ := Keyed.mem_keys.1 hk
  obtain ⟨p, hp⟩ := exists_pose ha
  have hs : h.stage.scriptOf? k = some a.script := by rw [Stage.scriptOf?, ha, Option.map_some]
  refine ⟨a.script, p, hs, hp, ?_⟩
  rw [stage, Stage.perform, Stage.tick_running hr, Stage.nextPoses_get?, hs, hp]
  rfl

/-- No other operation touches the pose of an actor that stays on the stage, unless all poses are
forgotten. -/
theorem poses_get?_of_not_isTick {op : Stage.Operation} (kept : op.forgets = false)
    (hk : k ∈ h.stage.roster.keys) (hk' : k ∈ (stage (op :: h)).roster.keys)
    (hop : isTick (op, h) = false) : (stage (op :: h)).poses.get? k = h.stage.poses.get? k := by
  cases hposes : op.poses with
  | false => rw [stage, Stage.perform_poses op hposes]
  | true =>
    cases op with
    | add number draft =>
      rcases h.stage.add_cases number draft with ⟨-, hadd⟩ | ⟨a, -, hadd, -, -, -, hfree⟩
      · rw [stage, hadd]
      · have hne : k ≠ a.id := by
          rintro rfl
          exact Keyed.not_mem_keys.2 hfree hk
        rw [stage, hadd, Keyed.get?_put, if_neg hne]
    | remove key =>
      rcases h.stage.remove_cases key with ⟨-, -, hremove⟩ | ⟨id, a, -, ha, hremove⟩
      · rw [stage, Stage.perform, hremove]
      · rw [stage, Stage.perform, hremove] at hk' ⊢
        have hne : k ≠ id := by
          rintro rfl
          exact Keyed.not_mem_keys.2 (by rw [Keyed.get?_erase, if_pos rfl]) hk'
        rw [h.own_id id a ha, Keyed.get?_erase, if_neg hne]
    | tick =>
      cases hr : h.stage.running with
      | false => rw [stage, Stage.perform, Stage.tick_stopped hr]
      | true =>
        rw [isTick, Stage.tick_running hr] at hop
        cases hop
    | reset | clear => cases kept
    | _ => cases hposes

theorem running_of_isTick {op : Stage.Operation} (hop : isTick (op, h) = true) :
    op = .tick ∧ h.stage.running = true := by
  cases op with
  | tick =>
    refine ⟨rfl, ?_⟩
    cases hr : h.stage.running with
    | false =>
      rw [isTick, Stage.tick_stopped hr] at hop
      cases hop
    | true => rfl
  | _ => cases hop

/-- An actor at the `j`-th tick after the one at which a bubble for `n` ticks was put up over it. -/
structure Showing (h : History) (k : String) (b : Bubble) (text : Value) (n T j : Nat) : Prop where
  present : k ∈ h.stage.roster.keys
  ticks : h.stage.ticks = T + j
  display : ∃ p, h.stage.poses.get? k = some p ∧ p.display.Left b text n j

variable {b : Bubble} {text : Value} {n T j : Nat}

/-- A tick at which the actor puts up no bubble takes one off, and all else leaves the bubble as it
is. -/
theorem Showing.step {op : Stage.Operation} (hs : h.Showing k b text n T j) (hn : n ≤ 2 ^ 53)
    (kept : op.forgets = false) (present : k ∈ (stage (op :: h)).roster.keys)
    (quiet : isTick (op, h) = true → ∀ s, h.stage.scriptOf? k = some s → s.bubbles = []) :
    ∃ j', Showing (op :: h) k b text n T j' := by
  have hticks := (h.perform_counters kept).1
  -- the counter of the stage and the count of the bubble move together, or not at all
  cases hop : isTick (op, h) with
  | false =>
    refine ⟨j, present, ?_, ?_⟩
    · rw [stage, hticks, hop, hs.ticks]
      rfl
    · rw [poses_get?_of_not_isTick kept hs.present present hop]
      exact hs.display
  | true =>
    refine ⟨j + 1, present, ?_, ?_⟩
    · rw [stage, hticks, hop, hs.ticks]
      rfl
    · obtain ⟨rfl, hr⟩ := running_of_isTick hop
      obtain ⟨s, p, hscript, hp, htick⟩ := poses_get?_tick hs.present hr
      obtain ⟨p', hp', hleft⟩ := hs.display
      cases hp.symm.trans hp'
      refine ⟨_, htick, ?_⟩
      rw [Pose.display_tick, quiet hop s hscript]
      exact hleft.countdown hn

theorem Undisturbed.showing {past : History} (hlater : Undisturbed k past h) (hn : n ≤ 2 ^ 53)
    (hs : past.Showing k b text n T 0) : ∃ j, h.Showing k b text n T j := by
  induction hlater with
  | refl => exact ⟨0, hs⟩
  | step before kept present quiet ih =>
    obtain ⟨j, hj⟩ := ih
    exact hj.step hn kept present quiet

/-- The law of bubbles, for every history of the stage. Let the last bubble that an actor puts up at
a tick be for a whole number of ticks. As long as the actor stays on the stage, is not put back to
rest and puts up no other bubble, it is shown at the `j`-th tick from there with that number less
`j`, and nothing is shown any more after so many ticks; a bubble for no ticks is shown once. What
happens between ticks, and how often the session is stopped and started again, makes no difference.
-/
theorem bubble_law {past h : History} {k id : String} {s : Script} {b : Bubble}
    {text seconds : Value} {n : Nat} (hrunning : past.stage.running = true)
    (hscript : past.stage.scriptOf? k = some s)
    (hlast : s.bubbles.getLast? = some (.bubble id b text seconds))
    (hseconds : seconds.amount = n) (hn : n ≤ 2 ^ 53)
    (hlater : Undisturbed k (.tick :: past) h) :
    ∃ j p, h.stage.ticks = (stage (.tick :: past)).ticks + j ∧
      h.stage.poses.get? k = some p ∧
      (j < max 1 n → ∃ r, p.display.record = ⟨.str b.name, text, .float r⟩ ∧
        Double.rational? r = some ((n : Rat) - j)) ∧
      (max 1 n ≤ j → p.display.record = ⟨.str "none", .null, .null⟩) := by
  have hk : k ∈ past.stage.roster.keys := by
    rw [Stage.scriptOf?, Option.map_eq_some_iff] at hscript
    obtain ⟨a, ha, -⟩ := hscript
    exact Keyed.mem_keys.2 ⟨a, ha⟩
  have hstart : Showing (.tick :: past) k b text n (stage (.tick :: past)).ticks 0 := by
    obtain ⟨s', p, hs', -, htick⟩ := poses_get?_tick hk hrunning
    cases hscript.symm.trans hs'
    refine ⟨?_, rfl, _, htick, Display.left_zero hlast hseconds hn⟩
    rwa [stage, Stage.perform_keys .tick (.inr (.inr rfl))]
  obtain ⟨j, -, hticks, p, hp, hleft⟩ := hlater.showing hn hstart
  refine ⟨j, p, hticks, hp, fun hj => ?_, fun hj => ?_⟩
  · rw [Display.Left, if_pos hj] at hleft
    obtain ⟨r, hd, hr⟩ := hleft
    refine ⟨r, by rw [hd]; rfl, ?_⟩
    rw [hr, Nat.cast_sub (by omega)]
  · rw [Display.Left, if_neg (by omega)] at hleft
    rw [hleft]
    rfl

end History

def greeting : History :=
  [.start, .add 1 { id := .str "a", script := [.bubble "wave" .say (.str "Hi") (.int 2)] }]

/-- The law of bubbles there, when the sprite falls silent after the first tick and the session is
started anew before the second. -/
theorem bubble_of_greeting :
    let later : History :=
      .tick :: .start :: .stop :: .replaceScript (.str "a") [] :: .tick :: greeting
    History.Undisturbed "a" (.tick :: greeting) later ∧
    ∃ p r, later.stage.poses.get? "a" = some p ∧
      p.display.record = ⟨.str "say", .str "Hi", .float r⟩ ∧ Double.rational? r = some 1 := by
  intro later
  have hlater : History.Undisturbed "a" (.tick :: greeting) later := by
    refine .step (.step (.step (.step .refl rfl ?_ nofun) rfl ?_ nofun) rfl ?_ nofun) rfl ?_ ?_
    · decide
    · decide
    · decide
    · decide
    · rintro - s hs
      cases hs
      rfl
  have hlast : Script.bubbles [.bubble "wave" .say (.str "Hi") (.int 2)] =
      [.bubble "wave" .say (.str "Hi") (.int 2)] := rfl
  obtain ⟨j, p, hticks, hp, hshown, -⟩ := History.bubble_law (n := 2) (by decide) rfl
    (congrArg List.getLast? hlast) (by decide) (by decide) hlater
  obtain rfl : j = 1 := Nat.add_left_cancel (hticks.symm.trans rfl : 1 + j = 1 + 1)
  obtain ⟨r, hr, hone⟩ := hshown (by decide)
  exact ⟨hlater, p, r, hp, hr, by rw [hone]; norm_num⟩

end SpriteStage
