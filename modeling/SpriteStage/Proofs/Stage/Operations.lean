import Mathlib.Data.List.Basic
import SpriteStage.Stage.History

/-!
# What each operation of the stage can do

One lemma for each operation says everything that it can do to the stage: the operation is refused
and the stage stays as it was, or the stage differs in the named fields only.
-/

namespace SpriteStage

variable {α : Type}

namespace Keyed

theorem contains_eq_false {m : Keyed α} {key : String} :
    m.contains key = false ↔ m.get? key = none := by
  rw [contains, Option.isSome_eq_false_iff, Option.isNone_iff_eq_none]

theorem named?_eq_some {m : Keyed α} {id : Value} {v : α} :
    m.named? id = some v ↔ ∃ key, id.key? = some key ∧ m.get? key = some v := by
  rw [named?, Option.bind_eq_some_iff]

theorem named?_of_key? {id : Value} {key : String} (h : id.key? = some key) (m : Keyed α) :
    m.named? id = m.get? key := by
  rw [named?, h, Option.bind_some]

theorem named?_str (m : Keyed α) (key : String) : m.named? (.str key) = m.get? key :=
  named?_of_key? (Value.key?_str key) m

theorem entries_eq (m : Keyed α) :
    m.entries = m.keys.filterMap fun k => (m.get? k).map fun v => (k, v) := by
  have hfound : ∀ e ∈ m.entries, ((fun k => (m.get? k).map fun v => (k, v)) ∘ Prod.fst) e = some e := by
    intro e he
    rw [Function.comp, get?_of_mem he]
    rfl
  rw [keys, List.filterMap_map, List.filterMap_congr hfound, List.filterMap_some]

theorem eq_of_get? {m n : Keyed α} (hkeys : m.keys = n.keys) (h : ∀ k ∈ m.keys, m.get? k = n.get? k) :
    m = n := by
  have hentries : m.entries = n.entries := by
    rw [entries_eq m, entries_eq n, ← hkeys]
    exact List.filterMap_congr fun k hk => by rw [h k hk]
  obtain ⟨es, distinct⟩ := m
  obtain ⟨es', distinct'⟩ := n
  cases hentries
  rfl

theorem map_congr {β : Type} {f g : String → α → β} {m : Keyed α}
    (h : ∀ k v, m.get? k = some v → f k v = g k v) : m.map f = m.map g := by
  refine eq_of_get? (by rw [keys_map, keys_map]) fun k _ => ?_
  rw [get?_map, get?_map]
  cases hk : m.get? k with
  | none => rfl
  | some v => rw [Option.map_some, Option.map_some, h k v hk]

theorem map_eq_self {f : String → α → α} {m : Keyed α}
    (h : ∀ k v, m.get? k = some v → f k v = v) : m.map f = m := by
  refine eq_of_get? (keys_map f m) fun k _ => ?_
  rw [get?_map]
  cases hk : m.get? k with
  | none => rfl
  | some v => rw [Option.map_some, h k v hk]

theorem map_map {β γ : Type} (f : String → α → β) (g : String → β → γ) (m : Keyed α) :
    (m.map f).map g = m.map fun k v => g k (f k v) := by
  refine eq_of_get? (by rw [keys_map, keys_map, keys_map]) fun k _ => ?_
  rw [get?_map, get?_map, get?_map, Option.map_map]
  rfl

/-- What is true of all values, each with its name. -/
def All (m : Keyed α) (P : String → α → Prop) : Prop := ∀ k v, m.get? k = some v → P k v

namespace All

variable {β : Type} {P : String → α → Prop} {m : Keyed α}

theorem empty : (Keyed.empty : Keyed α).All P := fun _ _ h => by cases h

theorem put {key : String} {v : α} (h : m.All P) (hv : P key v) : (m.put key v).All P := by
  intro k w hw
  rw [get?_put] at hw
  split at hw
  · rename_i hk
    cases hw
    rwa [hk]
  · exact h k w hw

theorem erase (h : m.All P) (key : String) : (m.erase key).All P := by
  intro k v hv
  rw [get?_erase] at hv
  split at hv
  · cases hv
  · exact h k v hv

theorem map {Q : String → β → Prop} {f : String → α → β} (h : m.All P)
    (hf : ∀ k v, P k v → Q k (f k v)) : (m.map f).All Q := by
  intro k w hw
  rw [get?_map, Option.map_eq_some_iff] at hw
  obtain ⟨v, hv, rfl⟩ := hw
  exact hf k v (h k v hv)

theorem named? {id : Value} {v : α} (h : m.All P) (hv : m.named? id = some v) :
    ∃ key, id.key? = some key ∧ P key v :=
  have ⟨key, hkey, hget⟩ := named?_eq_some.1 hv
  ⟨key, hkey, h key v hget⟩

end All

end Keyed

theorem Value.text?_of_key? {v : Value} {key : String} (h : v.key? = some key) :
    v.text? = some key := by
  rw [Value.key?] at h
  split at h
  · cases h
  · exact h

/-! ### New actors and edits -/

theorem Draft.idOr?_of_needsId {d : Draft} (h : d.needsId = false) (fresh other : String) :
    d.idOr? fresh = d.idOr? other := by
  unfold Draft.needsId Value.isBlank at h
  unfold Draft.idOr?
  cases hid : d.id.trimmed? with
  | none => rfl
  | some given =>
    rw [hid] at h
    have hgiven : given ≠ "" := by simpa using h
    simp [hgiven]

theorem Draft.actor_eq_ok {d : Draft} {id : String} {number : Nat} {a : Actor} :
    d.actor id number = .ok a ↔ d.nameOr? number = some a.name ∧
      (d.color.orElse (.str Actor.defaultColor)).text? = some a.color ∧
      Shape.ofValue? d.shape = some a.shape ∧ Actor.size d.width = .ok a.width ∧
      Actor.size d.height = .ok a.height ∧ a.id = id ∧ a.script = d.script := by
  obtain ⟨id', name, color, shape, width, height, script⟩ := a
  unfold Draft.actor
  cases d.nameOr? number <;> cases (d.color.orElse (.str Actor.defaultColor)).text? <;>
    cases Shape.ofValue? d.shape <;> cases Actor.size d.width <;> cases Actor.size d.height <;>
    simp [bind, Except.bind, pure, Except.pure, throw, throwThe, MonadExceptOf.throw]
  grind

theorem Draft.actor_id_script {d : Draft} {id : String} {number : Nat} {a : Actor}
    (h : d.actor id number = .ok a) : a.id = id ∧ a.script = d.script :=
  (Draft.actor_eq_ok.1 h).2.2.2.2.2

theorem Draft.actor_renumber {d : Draft} {id : String} {number : Nat} {a : Actor}
    (h : d.actor id number = .ok a) (other : Nat) : ∃ b, d.actor id other = .ok b := by
  obtain ⟨hname, hrest⟩ := Draft.actor_eq_ok.1 h
  obtain ⟨given, hgiven, -⟩ := Option.map_eq_some_iff.1 hname
  obtain ⟨name, hother⟩ : ∃ name, d.nameOr? other = some name := by
    rw [Draft.nameOr?, hgiven]
    exact ⟨_, rfl⟩
  exact ⟨{ a with name }, Draft.actor_eq_ok.2 ⟨hother, hrest⟩⟩

/-- What no change of an attribute breaks is kept by an edit, also by one that is refused. -/
theorem Edit.apply_invariant {e : Edit} {P : Actor → Prop}
    (hset : ∀ {a b : Actor} {t : Attribute}, a.set (e.value t) t = .ok b → P a → P b) {a : Actor}
    (h : P a) : P (e.apply a).1 := by
  have hchange {a b : Actor} {t : Attribute} (hb : e.change t a = .ok b) (h : P a) : P b := by
    unfold Edit.change at hb
    split at hb
    · cases hb
      exact h
    · exact hset hb h
  unfold Edit.apply
  generalize Attribute.all = ts
  induction ts generalizing a with
  | nil => exact h
  | cons t ts ih =>
    unfold Edit.applyAll
    cases hb : e.change t a with
    | error why => exact h
    | ok b => exact ih (hchange hb h)

/-- A change of an attribute touches the look of an actor, or one of its sizes. -/
theorem Actor.set_cases {a b : Actor} {v : Value} {t : Attribute} (h : a.set v t = .ok b) :
    (∃ name color shape, b = { a with name, color, shape }) ∨
      ∃ x, Actor.size v = .ok x ∧
        (t = .width ∧ b = { a with width := x } ∨ t = .height ∧ b = { a with height := x }) := by
  cases t with
  | name =>
    unfold Actor.set at h
    cases hv : v.text? with
    | none => rw [hv] at h; cases h
    | some text =>
      rw [hv] at h
      cases h
      split
      · exact .inl ⟨a.name, a.color, a.shape, rfl⟩
      · exact .inl ⟨_, a.color, a.shape, rfl⟩
  | color =>
    unfold Actor.set at h
    cases hv : v.text? with
    | none => rw [hv] at h; cases h
    | some color =>
      rw [hv] at h
      cases h
      exact .inl ⟨a.name, color, a.shape, rfl⟩
  | shape =>
    unfold Actor.set at h
    cases hv : Shape.ofValue? v with
    | none => rw [hv] at h; cases h
    | some shape =>
      rw [hv] at h
      cases h
      exact .inl ⟨a.name, a.color, shape, rfl⟩
  | width | height =>
    unfold Actor.set at h
    cases hv : Actor.size v with
    | error e => rw [hv] at h; cases h
    | ok x =>
      rw [hv] at h
      cases h
      exact .inr ⟨x, rfl, by simp⟩

theorem Actor.set_id_script {a b : Actor} {v : Value} {t : Attribute} (h : a.set v t = .ok b) :
    b.id = a.id ∧ b.script = a.script := by
  rcases Actor.set_cases h with ⟨_, _, _, rfl⟩ | ⟨_, -, ⟨-, rfl⟩ | ⟨-, rfl⟩⟩ <;> exact ⟨rfl, rfl⟩

theorem Edit.apply_id_script (e : Edit) (a : Actor) :
    (e.apply a).1.id = a.id ∧ (e.apply a).1.script = a.script :=
  Edit.apply_invariant (P := fun b => b.id = a.id ∧ b.script = a.script)
    (fun h hb => ⟨(Actor.set_id_script h).1.trans hb.1, (Actor.set_id_script h).2.trans hb.2⟩)
    ⟨rfl, rfl⟩

namespace Stage

variable (s : Stage)

theorem actor?_of_key? {id : Value} {key : String} (h : id.key? = some key) :
    s.actor? id = s.roster.get? key :=
  Keyed.named?_of_key? h s.roster

theorem key?_of_actor? {s : Stage} {id : Value} (h : (s.actor? id).isSome = true) :
    ∃ key, id.key? = some key :=
  have ⟨_, ha⟩ := Option.isSome_iff_exists.1 h
  have ⟨key, hkey, _⟩ := Keyed.named?_eq_some.1 ha
  ⟨key, hkey⟩

theorem find_of_key? {id : Value} {key : String} {a : Actor} (h : id.key? = some key)
    (ha : s.roster.get? key = some a) : s.find id = .ok (key, a) := by
  rw [find, Value.text?_of_key? h, actor?_of_key? s h, ha]

theorem find_none {id : Value} (h : s.actor? id = none) : s.find id =
    .error (if id.text?.isSome then .actorNotFound id else .unreadable .tooManyDigits) := by
  unfold find
  rw [h]
  cases id.text? <;> rfl

theorem actor?_cases (id : Value) :
    s.actor? id = none ∨ ∃ key a, id.key? = some key ∧ s.roster.get? key = some a := by
  cases h : s.actor? id with
  | none => exact .inl rfl
  | some a =>
    obtain ⟨key, hkey, ha⟩ := Keyed.named?_eq_some.1 h
    exact .inr ⟨key, a, hkey, ha⟩

theorem add_cases (number : Nat) (d : Draft) :
    (s.entrant? (.add number d) = none ∧ s.perform (.add number d) = s) ∨
    ∃ a, s.entrant? (.add number d) = some a ∧
      s.perform (.add number d) =
        { s with roster := s.roster.put a.id a, poses := s.poses.put a.id .rest } ∧
      d.actor a.id (s.roster.size + 1) = .ok a ∧
      d.idOr? (Ids.label "sprite" number) = some a.id ∧ a.script = d.script ∧
      s.roster.get? a.id = none := by
  unfold entrant? perform add
  dsimp only
  cases hid : d.idOr? (Ids.label "sprite" number) with
  | none => exact .inl ⟨rfl, rfl⟩
  | some id =>
    dsimp only
    split
    · exact .inl ⟨rfl, rfl⟩
    · rename_i free
      cases h : d.actor id (s.roster.size + 1) with
      | error e => exact .inl ⟨rfl, rfl⟩
      | ok a =>
        obtain ⟨rfl, hscript⟩ := Draft.actor_id_script h
        exact .inr ⟨a, rfl, rfl, h, rfl, hscript, Keyed.contains_eq_false.1 (by simpa using free)⟩

theorem add_free {number : Nat} {d : Draft} {id : String} {a : Actor}
    (hid : d.idOr? (Ids.label "sprite" number) = some id) (hfree : s.roster.get? id = none)
    (ha : d.actor id (s.roster.size + 1) = .ok a) :
    s.perform (.add number d) =
      { s with roster := s.roster.put id a, poses := s.poses.put id .rest } := by
  simp [perform, add, hid, Keyed.contains, hfree, ha]

theorem update_of_key? {id : Value} {key : String} {a : Actor} (h : id.key? = some key)
    (ha : s.roster.get? key = some a) (e : Edit) :
    s.update id e = (match (e.apply a).2 with
        | some why => .error (.unreadable why)
        | none => .ok (e.apply a).1,
      { s with roster := s.roster.put key (e.apply a).1 }) := by
  rw [update, find_of_key? s h ha]
  dsimp only
  split <;> simp_all

theorem update_apply (id : Value) (e : Edit) :
    (s.update id e).2 = s ∨ ∃ key a, id.key? = some key ∧ s.roster.get? key = some a ∧
      (s.update id e).2 = { s with roster := s.roster.put key (e.apply a).1 } := by
  rcases s.actor?_cases id with h | ⟨key, a, hkey, ha⟩
  · exact .inl (by rw [update, find_none s h])
  · exact .inr ⟨key, a, hkey, ha, by rw [update_of_key? s hkey ha]⟩

theorem update_cases (id : Value) (e : Edit) :
    (s.update id e).2 = s ∨
    ∃ key a b, id.key? = some key ∧ s.roster.get? key = some a ∧ b.id = a.id ∧
      b.script = a.script ∧ (s.update id e).2 = { s with roster := s.roster.put key b } := by
  rcases s.update_apply id e with h | ⟨key, a, hkey, ha, h⟩
  · exact .inl h
  · obtain ⟨hid, hscript⟩ := e.apply_id_script a
    exact .inr ⟨key, a, (e.apply a).1, hkey, ha, hid, hscript, h⟩

theorem replaceScript_cases (id : Value) (script : Script) :
    (s.actor? id = none ∧ ∃ why, s.replaceScript id script = (.error why, s)) ∨
    ∃ key a, id.key? = some key ∧ s.roster.get? key = some a ∧ s.replaceScript id script =
      (.ok { a with script }, { s with roster := s.roster.put key { a with script } }) := by
  rcases s.actor?_cases id with h | ⟨key, a, hkey, ha⟩
  · exact .inl ⟨h, _, by rw [replaceScript, find_none s h]⟩
  · exact .inr ⟨key, a, hkey, ha, by rw [replaceScript, find_of_key? s hkey ha]⟩

theorem remove_cases (id : Value) :
    (s.actor? id = none ∧ (s.remove id).1 ≠ .ok true ∧ (s.remove id).2 = s) ∨
    ∃ key a, id.key? = some key ∧ s.roster.get? key = some a ∧ s.remove id =
      (.ok true, { s with roster := s.roster.erase key, poses := s.poses.erase a.id }) := by
  rcases s.actor?_cases id with h | ⟨key, a, hkey, ha⟩
  · refine .inl ⟨h, ?_⟩
    rw [remove, find_none s h]
    cases id.text?.isSome
    · exact ⟨nofun, rfl⟩
    · exact ⟨nofun, rfl⟩
  · exact .inr ⟨key, a, hkey, ha, by rw [remove, find_of_key? s hkey ha]⟩

theorem isYes_eq_true {answer : Except StageError Bool} : isYes answer = true ↔ answer = .ok true := by
  cases answer <;> simp [isYes]

theorem isYes_eq_false {answer : Except StageError Bool} (h : answer ≠ .ok true) :
    isYes answer = false :=
  Bool.eq_false_iff.2 (mt isYes_eq_true.1 h)

variable {s}

/-- What a collision finds that is answered with yes: while a session runs, two identifiers that are
different keys, and under each of them a script that was kept aside and an actor. -/
structure Meeting (s : Stage) (a b : Value) where
  scripts : Keyed Script
  i : String
  j : String
  oldA : Script
  oldB : Script
  first : Actor
  second : Actor
  running : s.running = true
  snapshot : s.snapshot = some scripts
  keyA : a.key? = some i
  keyB : b.key? = some j
  ne : i ≠ j
  keptA : scripts.get? i = some oldA
  keptB : scripts.get? j = some oldB
  actorA : s.roster.get? i = some first
  actorB : s.roster.get? j = some second

/-- The stage after a meeting. -/
def Meeting.after {a b : Value} (m : s.Meeting a b) : Stage :=
  { s with
    roster := (s.roster.put m.i { m.first with script := m.oldA.collide m.oldB }).put m.j
      { m.second with script := m.oldB.collide m.oldA }
    collisions := s.collisions + 1
    lastCollision := some (m.i, m.j) }

/-- The same meeting with the pair the other way round. -/
def Meeting.swap {a b : Value} (m : s.Meeting a b) : s.Meeting b a :=
  ⟨m.scripts, m.j, m.i, m.oldB, m.oldA, m.second, m.first, m.running, m.snapshot, m.keyB, m.keyA,
    m.ne.symm, m.keptB, m.keptA, m.actorB, m.actorA⟩

theorem collide_of_meeting {a b : Value} (m : s.Meeting a b) :
    s.collide a b = (.ok true, m.after) := by
  simp only [collide, Meeting.after, m.running, m.snapshot, Value.text?_of_key? m.keyA,
    Value.text?_of_key? m.keyB, if_neg m.ne, Keyed.named?_of_key? m.keyA,
    Keyed.named?_of_key? m.keyB, actor?_of_key? s m.keyA, actor?_of_key? s m.keyB, m.keptA, m.keptB,
    m.actorA, m.actorB]
  rfl

variable (s)

/-- A collision is answered with yes exactly if there is a meeting, and it is the only collision that
does anything. -/
theorem collide_cases (a b : Value) :
    ((s.collide a b).1 ≠ .ok true ∧ (s.collide a b).2 = s ∧ ¬Nonempty (s.Meeting a b)) ∨
    ∃ m : s.Meeting a b, s.collide a b = (.ok true, m.after) := by
  by_cases hmeeting : Nonempty (s.Meeting a b)
  · exact .inr (hmeeting.elim fun m => ⟨m, collide_of_meeting m⟩)
  suffices (s.collide a b).1 ≠ .ok true ∧ (s.collide a b).2 = s from
    .inl ⟨this.1, this.2, hmeeting⟩
  unfold collide
  split
  · rename_i scripts hr hs
    split
    · rename_i i j hi hj
      split
      · exact ⟨nofun, rfl⟩
      · rename_i hij
        split
        · rename_i oldA oldB first second ha hb hfirst hsecond
          obtain ⟨i', hi', hgetA⟩ := Keyed.named?_eq_some.1 ha
          obtain ⟨j', hj', hgetB⟩ := Keyed.named?_eq_some.1 hb
          cases hi.symm.trans (Value.text?_of_key? hi')
          cases hj.symm.trans (Value.text?_of_key? hj')
          rw [actor?_of_key? s hi'] at hfirst
          rw [actor?_of_key? s hj'] at hsecond
          exact absurd ⟨⟨scripts, i, j, oldA, oldB, first, second, hr, hs, hi', hj', hij, hgetA,
            hgetB, hfirst, hsecond⟩⟩ hmeeting
        · exact ⟨nofun, rfl⟩
    · exact ⟨nofun, rfl⟩
  · exact ⟨nofun, rfl⟩

/-- A collision is not answered at all exactly if a session runs and an identifier has no text. -/
theorem collide_error {a b : Value} {why : StageError} :
    (s.collide a b).1 = .error why ↔ s.running = true ∧ s.snapshot.isSome = true ∧
      (a.text? = none ∨ b.text? = none) ∧ why = .unreadable .tooManyDigits := by
  unfold collide
  split
  · rename_i snapshot hr hs
    rw [hr, hs]
    split
    · rename_i i j hi hj
      rw [hi, hj]
      refine iff_of_false ?_ (by simp)
      split
      · nofun
      · split <;> nofun
    · rename_i hno
      have hnone : a.text? = none ∨ b.text? = none := by
        by_contra hsome
        obtain ⟨ha, hb⟩ := not_or.1 hsome
        obtain ⟨i, hi⟩ := Option.ne_none_iff_exists'.1 ha
        obtain ⟨j, hj⟩ := Option.ne_none_iff_exists'.1 hb
        exact hno i j hi hj
      exact ⟨fun h => by cases h; exact ⟨rfl, rfl, hnone, rfl⟩, fun h => by rw [h.2.2.2]⟩
  · rename_i hno
    refine iff_of_false nofun ?_
    rintro ⟨hr, hs, -⟩
    obtain ⟨snapshot, hs⟩ := Option.isSome_iff_exists.1 hs
    exact hno snapshot hr hs

/-- A collision of identifiers that have texts is answered with no, unless it is with yes. -/
theorem collide_no {a b : Value} {i j : String} (hi : a.text? = some i) (hj : b.text? = some j)
    (h : (s.collide a b).1 ≠ .ok true) : s.collide a b = (.ok false, s) := by
  have hstage : (s.collide a b).2 = s := by
    rcases s.collide_cases a b with ⟨-, hc, -⟩ | ⟨m, hc⟩
    · exact hc
    · exact absurd (congrArg Prod.fst hc) h
  refine Prod.ext ?_ hstage
  cases hanswer : (s.collide a b).1 with
  | error why =>
    obtain ⟨-, -, hnone | hnone, -⟩ := s.collide_error.1 hanswer
    · cases hi.symm.trans hnone
    · cases hj.symm.trans hnone
  | ok yes =>
    cases yes with
    | false => rfl
    | true => exact absurd hanswer h

variable {s}

theorem start_running (h : s.running = true) : s.start = (false, s) := by
  simp [start, h]

theorem start_stopped (h : s.running = false) :
    s.start = (true, { s with
      snapshot := some (s.roster.map fun _ a => a.script)
      running := true
      started := true }) := by
  simp [start, h]

/-- Stopping, resetting and clearing leave no session and nothing kept aside, if nothing was kept
aside without a session. -/
theorem stop_session (h : s.running = false → s.snapshot = none) :
    s.stop.2.running = false ∧ s.stop.2.snapshot = none := by
  cases hr : s.running <;> simp_all [stop]

theorem tick_stopped (h : s.running = false) : s.tick = (none, s) := by
  simp [tick, h]

theorem tick_running (h : s.running = true) :
    s.tick = (some s.nextPoses, { s with poses := s.nextPoses, ticks := s.ticks + 1 }) := by
  simp [tick, h]

end Stage

end SpriteStage
