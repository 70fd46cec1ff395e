import SpriteStage.Clock.Basic
import SpriteStage.Proofs.Stage.Scripts

/-!
# Newcomers

Whether an actor takes part in collisions is told from its identifier, which must be that of a
script kept aside for the session. So an actor that comes while a session runs takes no part in it,
unless its identifier is that of an actor that was there at the start and was removed since: then it
takes part in place of that actor, with the rest of the removed script.
-/

namespace SpriteStage

namespace Stage

variable {s : Stage} {k : String} {x y : Value}

/-- The operations that end a session. -/
def Operation.ends : Operation → Bool
  | .stop | .reset | .clear => true
  | _ => false

/-- No script is kept aside under an identifier. -/
def Stranger (s : Stage) (k : String) : Prop := s.snapshotScript? (.str k) = none

namespace Stranger

theorem get?_eq_none {scripts : Keyed Script} (h : s.Stranger k) (hs : s.snapshot = some scripts) :
    scripts.get? k = none := by
  rwa [Stranger, snapshotScript?, hs, Option.bind_some, Keyed.named?_str] at h

theorem ne_of_meeting (h : s.Stranger k) (m : s.Meeting x y) : k ≠ m.i ∧ k ≠ m.j := by
  have hnone := h.get?_eq_none m.snapshot
  refine ⟨fun hk => ?_, fun hk => ?_⟩
  · cases hnone.symm.trans (hk ▸ m.keptA)
  · cases hnone.symm.trans (hk ▸ m.keptB)

/-- A collision that names a stranger is not answered with yes. -/
theorem collide_ne (h : s.Stranger k) (hk : x.text? = some k ∨ y.text? = some k) :
    (s.collide x y).1 ≠ .ok true := by
  rcases s.collide_cases x y with ⟨hno, -⟩ | ⟨m, -⟩
  · exact hno
  · obtain ⟨hi, hj⟩ := h.ne_of_meeting m
    rcases hk with hk | hk
    · exact absurd (Option.some.inj (hk.symm.trans (Value.text?_of_key? m.keyA))) hi
    · exact absurd (Option.some.inj (hk.symm.trans (Value.text?_of_key? m.keyB))) hj

theorem scriptOf?_collide (h : s.Stranger k) (x y : Value) :
    (s.collide x y).2.scriptOf? k = s.scriptOf? k := by
  rcases s.collide_cases x y with ⟨-, hc, -⟩ | ⟨m, hc⟩
  · rw [hc]
  · obtain ⟨hi, hj⟩ := h.ne_of_meeting m
    rw [hc, Meeting.after, scriptOf?, Keyed.get?_put, if_neg hj, Keyed.get?_put, if_neg hi,
      scriptOf?]

theorem collide (h : s.Stranger k) (x y : Value) : (s.collide x y).2.Stranger k := by
  have hs : (s.collide x y).2.snapshot = s.snapshot := (perform_session (.collide x y) rfl).2
  rwa [Stranger, snapshotScript?, hs]

/-- In a list of collisions, those that name a stranger are answered with no, and none touches its
script. -/
theorem collideAll (h : s.Stranger k) (pairs : List (Value × Value)) :
    (s.collideAll pairs).2.scriptOf? k = s.scriptOf? k ∧
    ∀ e ∈ pairs.zip (s.collideAll pairs).1,
      e.1.1.text? = some k ∨ e.1.2.text? = some k → e.2 = false := by
  induction pairs generalizing s with
  | nil => exact ⟨rfl, nofun⟩
  | cons p pairs ih =>
    have hscript := h.scriptOf?_collide p.1 p.2
    have hnext := h.collide p.1 p.2
    rw [Stage.collideAll]
    cases hc : s.collide p.1 p.2 with | mk answer t =>
    rw [hc] at hscript hnext
    cases answer with
    | error why => exact ⟨hscript, nofun⟩
    | ok swapped =>
      obtain ⟨hrest, hanswers⟩ := ih hnext
      refine ⟨hrest.trans hscript, fun e he hk => ?_⟩
      rcases List.mem_cons.1 he with rfl | he
      · have hne := h.collide_ne hk
        rw [hc] at hne
        exact Bool.eq_false_iff.2 fun hyes => hne (congrArg Except.ok hyes)
      · exact hanswers e he hk

/-- A stranger is in no pair of overlapping actors that collide, and its script stays. -/
theorem collideOverlaps (h : s.Stranger k) :
    (Clock.collideOverlaps s).2.scriptOf? k = s.scriptOf? k ∧
    ∀ p ∈ (Clock.collideOverlaps s).1, p.1 ≠ k ∧ p.2 ≠ k := by
  obtain ⟨hscript, hanswers⟩ := h.collideAll (s.overlaps.map fun p => (.str p.1, .str p.2))
  refine ⟨hscript, fun p hp => not_or.1 fun hk => ?_⟩
  obtain ⟨e, he, rfl⟩ := List.mem_map.1 hp
  obtain ⟨hzip, hswapped⟩ := List.mem_filter.1 he
  rw [List.zip_map_left] at hanswers
  have hnamed : (Value.str e.1.1).text? = some k ∨ (Value.str e.1.2).text? = some k :=
    hk.imp (fun h => by rw [Value.text?_str, h]) fun h => by rw [Value.text?_str, h]
  exact absurd hswapped (Bool.eq_false_iff.1 (hanswers _ (List.mem_map_of_mem hzip) hnamed))

/-- A tick of the clock does not touch the script of a stranger, and tells of no collision with
it. -/
theorem commit {c : Clock} (h : c.stage.Stranger k) :
    c.commit.2.stage.scriptOf? k = c.stage.scriptOf? k ∧
    ∀ tick ∈ c.commit.1, ∀ pairs ∈ tick.collisions, ∀ p ∈ pairs, p.1 ≠ k ∧ p.2 ≠ k := by
  unfold Clock.commit
  cases hr : c.stage.running with
  | false =>
    rw [tick_stopped hr]
    exact ⟨rfl, nofun⟩
  | true =>
    rw [tick_running hr]
    have ticked : Stranger { c.stage with
      poses := c.stage.nextPoses, ticks := c.stage.ticks + 1 } k := h
    dsimp only
    split
    · refine ⟨ticked.collideOverlaps.1, fun tick htick pairs hpairs => ?_⟩
      cases htick
      cases hpairs
      exact ticked.collideOverlaps.2
    · refine ⟨rfl, fun tick htick pairs hpairs => ?_⟩
      cases htick
      cases hpairs

end Stranger

end Stage

namespace History

variable {past h : History} {k : String} {a : Actor}

/-- While no operation ends it, a session goes on with the scripts of its start. -/
theorem original?_append {later : History} (hrunning : past.stage.running = true)
    (hlater : ∀ o ∈ later, o.ends = false) (k : String) :
    (stage (later ++ past)).running = true ∧ original? (later ++ past) k = past.original? k := by
  induction later with
  | nil => exact ⟨hrunning, rfl⟩
  | cons o later ih =>
    obtain ⟨hr, horiginal⟩ := ih fun o' ho' => hlater o' (List.mem_cons_of_mem o ho')
    have ho := hlater o List.mem_cons_self
    cases hb : o.bounds with
    | false =>
      exact ⟨(Stage.perform_session o hb).1.trans hr, (original?_cons hb k).trans horiginal⟩
    | true =>
      cases o with
      | start =>
        have hstart := Stage.start_running hr
        rw [List.cons_append, stage, Stage.perform, original?, hstart]
        exact ⟨hr, horiginal⟩
      | stop | reset | clear => cases ho
      | _ => cases hb

/-- An actor was taken off the stage after the session had started, which has not ended since, and
its script at the start was `s`. -/
def RemovedSince (past : History) (k : String) (s : Script) : Prop :=
  ∃ (since : History) (id : Value) (earlier : History),
    past = since ++ .remove id :: earlier ∧ (∀ o ∈ since, o.ends = false) ∧
    id.key? = some k ∧ earlier.stage.running = true ∧ (earlier.stage.remove id).1 = .ok true ∧
    earlier.original? k = some s

theorem RemovedSince.cons {s : Script} {o : Stage.Operation} (h : past.RemovedSince k s)
    (ho : o.ends = false) : RemovedSince (o :: past) k s := by
  obtain ⟨since, id, earlier, rfl, hsince, hrest⟩ := h
  refine ⟨o :: since, id, earlier, rfl, fun o' ho' => ?_, hrest⟩
  rcases List.mem_cons.1 ho' with rfl | ho'
  · exact ho
  · exact hsince o' ho'

/-- Who was there at the start of the session and is not there now was removed since. -/
theorem removedSince {s : Script} (hr : past.stage.running = true)
    (horiginal : past.original? k = some s) (hgone : past.stage.scriptOf? k = none) :
    past.RemovedSince k s := by
  induction past with
  | nil => cases hr
  | cons o past ih =>
    cases hb : o.bounds with
    | true =>
      cases o with
      | start =>
        cases hwas : (stage past).running with
        | true =>
          rw [original?, Stage.start_running hwas] at horiginal
          rw [stage, Stage.perform, Stage.start_running hwas] at hgone
          exact (ih hwas horiginal hgone).cons rfl
        | false =>
          -- a session that starts now keeps aside the scripts of those who are there
          rw [original?, Stage.start_stopped hwas] at horiginal
          rw [stage, Stage.perform, Stage.start_stopped hwas] at hgone
          cases horiginal.symm.trans hgone
      | stop | reset =>
        cases hr.symm.trans (Stage.stop_session (sound past).stopped).1
      | clear => cases hr
      | _ => cases hb
    | false =>
      have hends : o.ends = false := by cases o <;> first | rfl | cases hb
      have hwas : (stage past).running = true := (Stage.perform_session o hb).1.symm.trans hr
      rw [original?_cons hb] at horiginal
      cases hbefore : (stage past).scriptOf? k with
      | none => exact (ih hwas horiginal hbefore).cons hends
      | some script =>
        cases hop : o.drops with
        | false =>
          rw [stage, scriptOf?_perform past hop, hbefore, Option.or_eq_none_iff] at hgone
          cases hgone.2
        | true =>
          cases o with
          | remove id =>
            rcases (stage past).remove_cases id with ⟨-, -, h⟩ | ⟨key, b, hkey, -, h⟩
            · rw [stage, Stage.perform, h] at hgone
              cases hgone.symm.trans hbefore
            · by_cases hid : k = key
              · subst hid
                exact ⟨[], id, past, rfl, List.forall_mem_nil _, hkey, hwas, by rw [h], horiginal⟩
              · rw [stage, Stage.perform, h, Stage.scriptOf?, Keyed.get?_erase,
                  if_neg hid] at hgone
                cases hgone.symm.trans hbefore
          | clear => cases hb
          | _ => cases hop

/-- In a history, an actor came after a part of it, while a session ran that has not ended since. -/
structure Late (h past : History) (a : Actor) : Prop where
  running : past.stage.running = true
  came : ∃ op later, past.stage.entrant? op = some a ∧ h = later ++ op :: past ∧
    ∀ o ∈ later, o.ends = false

theorem Late.session (late : h.Late past a) (k : String) :
    h.stage.running = true ∧ h.original? k = past.original? k := by
  obtain ⟨op, later, hin, rfl, hlater⟩ := late.came
  have hop : op.ends = false := by
    cases op with
    | add => rfl
    | _ => cases hin
  have hsince : ∀ o ∈ later ++ [op], o.ends = false := by
    intro o ho
    rcases List.mem_append.1 ho with ho | ho
    · exact hlater o ho
    · rwa [List.mem_singleton.1 ho]
  simpa using original?_append late.running hsince k

/-- The identifier of a newcomer was free when it came. -/
theorem Late.scriptOf?_eq_none (late : h.Late past a) : past.stage.scriptOf? a.id = none := by
  obtain ⟨op, later, hin, -⟩ := late.came
  cases op with
  | add number draft =>
    rcases past.stage.add_cases number draft with ⟨hno, -⟩ | ⟨b, hb, -, -, -, -, hfree⟩
    · cases hno.symm.trans hin
    · cases hb.symm.trans hin
      rw [Stage.scriptOf?, hfree]
      rfl
  | _ => cases hin

theorem Late.stranger (late : h.Late past a) (hnew : past.original? a.id = none) :
    h.stage.Stranger a.id := by
  obtain ⟨hr, horiginal⟩ := late.session a.id
  obtain ⟨scripts, hs, hscripts⟩ := h.sound.running hr
  rw [Stage.Stranger, Stage.snapshotScript?, hs, Option.bind_some, Keyed.named?_str, hscripts,
    horiginal, hnew]

/-- The law of newcomers, for every history with a session that runs and every actor that came while
it ran. If no script was kept aside under its identifier, then no collision that names it is
answered with yes, and no collision touches its script, whether it is reported alone, in a list, or
found by a tick. Else an actor with this identifier was removed while the session ran, and the
newcomer takes part in its place: it collides with any other actor that was there at the start and
is there now, and is then left with the rest of the removed script. -/
theorem newcomer_law (late : h.Late past a) :
    (past.original? a.id = none →
      (∀ x y i j, x.text? = some i → y.text? = some j → i = a.id ∨ j = a.id →
        h.stage.collide x y = (.ok false, h.stage)) ∧
      (∀ x y, (h.stage.collide x y).2.scriptOf? a.id = h.stage.scriptOf? a.id) ∧
      (∀ pairs, (h.stage.collideAll pairs).2.scriptOf? a.id = h.stage.scriptOf? a.id ∧
        ∀ e ∈ pairs.zip (h.stage.collideAll pairs).1,
          e.1.1.text? = some a.id ∨ e.1.2.text? = some a.id → e.2 = false) ∧
      ∀ c : Clock, c.stage = h.stage →
        c.commit.2.stage.scriptOf? a.id = h.stage.scriptOf? a.id ∧
        ∀ tick ∈ c.commit.1, ∀ pairs ∈ tick.collisions, ∀ p ∈ pairs, p.1 ≠ a.id ∧ p.2 ≠ a.id) ∧
    ∀ s, past.original? a.id = some s →
      past.RemovedSince a.id s ∧
      ∀ x y partner, x.text? = some a.id ∧ y.text? = some partner ∨
          y.text? = some a.id ∧ x.text? = some partner →
        ((h.stage.collide x y).1 = .ok true ↔ partner ≠ a.id ∧
          (h.original? partner).isSome = true ∧
          (h.stage.actor? x).isSome = true ∧ (h.stage.actor? y).isSome = true) ∧
        ((h.stage.collide x y).1 = .ok true → ∃ other, h.original? partner = some other ∧
          (h.stage.collide x y).2.scriptOf? a.id = some (s.collide other)) := by
  refine ⟨fun hnew => ?_, fun s hs => ⟨?_, fun x y partner hnames => ?_⟩⟩
  · have stranger := late.stranger hnew
    refine ⟨fun x y i j hi hj hk => Stage.collide_no _ hi hj (stranger.collide_ne ?_),
      stranger.scriptOf?_collide, stranger.collideAll, fun c hc => ?_⟩
    · exact hk.imp (fun heq => by rw [hi, heq]) fun heq => by rw [hj, heq]
    · rw [← hc] at stranger ⊢
      exact stranger.commit
  · exact removedSince late.running hs late.scriptOf?_eq_none
  · obtain ⟨hr, horiginal⟩ := late.session a.id
    have hown : h.original? a.id = some s := horiginal.trans hs
    have haccepted := h.collide_accepted x y
    have hkeys {i j : String} (hi : x.key? = some i) (hj : y.key? = some j) :
        i = a.id ∧ j = partner ∨ j = a.id ∧ i = partner := by
      simpa only [Value.text?_of_key? hi, Value.text?_of_key? hj, Option.some.injEq] using hnames
    refine ⟨?_, fun hc => ?_⟩
    · rw [haccepted]
      refine ⟨fun ⟨_, i, j, hi, hj, hij, hfirst, hsecond, hx, hy⟩ => ?_,
        fun ⟨hne, hpartner, hx, hy⟩ => ?_⟩
      · rcases hkeys hi hj with ⟨rfl, rfl⟩ | ⟨rfl, rfl⟩
        · exact ⟨hij.symm, hsecond, hx, hy⟩
        · exact ⟨hij, hfirst, hx, hy⟩
      · obtain ⟨i, hi⟩ := Stage.key?_of_actor? hx
        obtain ⟨j, hj⟩ := Stage.key?_of_actor? hy
        refine ⟨hr, i, j, hi, hj, ?_⟩
        rcases hkeys hi hj with ⟨rfl, rfl⟩ | ⟨rfl, rfl⟩
        · exact ⟨hne.symm, by rw [hown]; rfl, hpartner, hx, hy⟩
        · exact ⟨hne, hpartner, by rw [hown]; rfl, hx, hy⟩
    · rcases h.stage.collide_cases x y with ⟨hno, -⟩ | ⟨m, -⟩
      · exact absurd hc hno
      obtain ⟨keptA, keptB⟩ := h.original?_of_meeting m
      have hdrops : Stage.Operation.drops (.collide x y) = false := rfl
      have hscript := scriptOf?_perform h hdrops a.id
      rw [Stage.perform, given?_of_meeting m] at hscript
      rcases hkeys m.keyA m.keyB with ⟨hi, hj⟩ | ⟨hj, hi⟩
      · refine ⟨m.oldB, hj ▸ keptB, ?_⟩
        rw [hscript, if_pos hi, collided?, hown, keptB]
        rfl
      · refine ⟨m.oldA, hi ▸ keptA, ?_⟩
        rw [hscript, if_neg fun heq => m.ne (heq.trans hj.symm), if_pos hj, collided?, hown, keptA]
        rfl

/-- While a session runs, `a` is removed and another actor comes under its identifier; then one
comes under a new identifier. -/
def visited : History :=
  [.add 4 { id := .str "late", script := [.move "dash" (.int 5)] },
    .add 3 { id := .str "a", script := [.bubble "thought" .think (.str "") (.int 2)] },
    .remove (.str "a"), .start,
    .add 2 { id := .str "b", script := [.move "stride" (.int 1)] },
    .add 1 { id := .str "a", script := [.bubble "hello" .say (.str "") (.int 2)] }]

theorem late_of_visited :
    (∃ a, visited.Late (visited.drop 1) a ∧ a.id = "late" ∧ a.script.ids? = some ["dash"]) ∧
    ∃ a, visited.Late (visited.drop 2) a ∧ a.id = "a" ∧ a.script.ids? = some ["thought"] := by
  constructor
  · have hin : (Stage.entrant? (stage (visited.drop 1)) visited[0]).map
        (fun a => (a.id, a.script.ids?)) = some ("late", some ["dash"]) := by decide
    obtain ⟨a, ha, heq⟩ := Option.map_eq_some_iff.1 hin
    obtain ⟨hid, hscript⟩ := Prod.mk.inj heq
    exact ⟨a, ⟨by decide, _, [], ha, rfl, List.forall_mem_nil _⟩, hid, hscript⟩
  · have hin : (Stage.entrant? (stage (visited.drop 2)) visited[1]).map
        (fun a => (a.id, a.script.ids?)) = some ("a", some ["thought"]) := by decide
    obtain ⟨a, ha, heq⟩ := Option.map_eq_some_iff.1 hin
    obtain ⟨hid, hscript⟩ := Prod.mk.inj heq
    exact ⟨a, ⟨by decide, _, [visited[0]], ha, rfl, by decide⟩, hid, hscript⟩

/-- The second actor under the identifier `a` came while the session ran. A collision that names it
is answered with yes, and leaves it with the speech of the first one in place of its own thought. -/
theorem newcomer_collides :
    ∃ a, visited.Late (visited.drop 2) a ∧ a.id = "a" ∧ a.script.ids? = some ["thought"] ∧
      (visited.stage.collide (.str "a") (.str "b")).1 = .ok true ∧
      ((visited.stage.collide (.str "a") (.str "b")).2.scriptOf? "a").bind Script.ids? =
        some ["stride", "hello"] := by
  obtain ⟨-, a, late, hid, hscript⟩ := late_of_visited
  exact ⟨a, late, hid, hscript, Stage.isYes_eq_true.1 (by decide +kernel), by decide +kernel⟩

/-- The law of newcomers for both newcomers of that history. -/
theorem newcomer_of_visited :
    (∃ a, visited.Late (visited.drop 1) a ∧ a.id = "late" ∧
      visited.stage.collide (.str "b") (.str "late") = (.ok false, visited.stage)) ∧
    ∃ (a : Actor) (s : Script), visited.Late (visited.drop 2) a ∧ a.id = "a" ∧
      RemovedSince (visited.drop 2) "a" s ∧ s.ids? = some ["hello"] ∧
      ∃ other, visited.original? "b" = some other ∧ other.ids? = some ["stride"] ∧
        (visited.stage.collide (.str "a") (.str "b")).2.scriptOf? "a" = some (s.collide other) := by
  obtain ⟨⟨late, hlate, hlateId, -⟩, a, ha, haId, -⟩ := late_of_visited
  refine ⟨⟨late, hlate, hlateId, ?_⟩, ?_⟩
  · have hnew : original? (visited.drop 1) late.id = none := by rw [hlateId]; rfl
    exact ((newcomer_law hlate).1 hnew).1 (.str "b") (.str "late") "b" "late" (Value.text?_str _)
      (Value.text?_str _) (.inr hlateId.symm)
  · have hkept : (original? (visited.drop 2) a.id).bind Script.ids? = some ["hello"] := by
      rw [haId]
      decide
    obtain ⟨s, hs, hids⟩ := Option.bind_eq_some_iff.1 hkept
    obtain ⟨hremoved, hcollide⟩ := (newcomer_law ha).2 s hs
    obtain ⟨hiff, hscript⟩ := hcollide (.str "a") (.str "b") "b"
      (.inl ⟨by rw [Value.text?_str, haId], Value.text?_str _⟩)
    have haccepted : (visited.stage.collide (.str "a") (.str "b")).1 = .ok true :=
      hiff.2 ⟨by rw [haId]; decide, by decide, by decide, by decide⟩
    obtain ⟨other, hother, hgiven⟩ := hscript haccepted
    have hpartner : (visited.original? "b").bind Script.ids? = some ["stride"] := by decide
    rw [hother] at hpartner
    rw [haId] at hremoved hgiven
    exact ⟨a, s, ha, haId, hremoved, hids, other, hother, hpartner, hgiven⟩

end History

end SpriteStage
