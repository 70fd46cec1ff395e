import Mathlib.Data.List.TakeWhile
import SpriteStage.Proofs.Stage.Poses

/-!
# Batches of collisions

Pairs of actors collide one after the other, and an actor may be in several of them. Each collision
builds on the scripts of the start of the session, so it overwrites what earlier ones gave its
actors, and only the last partner of an actor counts. `Stage.settled` says in one equation what
pairs do: everything else about the stage, and about its actors, stays as it was.
-/

namespace SpriteStage

namespace Stage

variable {s : Stage} {k : String} {p : Value × Value} {pairs : List (Value × Value)}

/-- Whether a pair is answered: while a session runs, both identifiers must have a text. -/
def answers (s : Stage) (p : Value × Value) : Bool :=
  !(s.running && s.snapshot.isSome) || p.1.text?.isSome && p.2.text?.isSome

/-- The pairs of a batch before the first that is not answered. -/
def answered (s : Stage) (pairs : List (Value × Value)) : List (Value × Value) :=
  pairs.takeWhile s.answers

/-- Whether a pair collides: a session runs, and the pair names two different actors that were there
at its start and are there now. -/
def meets (s : Stage) (p : Value × Value) : Bool :=
  s.running && p.1.key? != p.2.key? && (s.snapshotScript? p.1).isSome
    && (s.snapshotScript? p.2).isSome && (s.actor? p.1).isSome && (s.actor? p.2).isSome

/-- The partner that a pair gives to an actor, if the pair collides and the actor is in it. -/
def partner? (s : Stage) (k : String) (p : Value × Value) : Option String :=
  if s.meets p then
    if p.1.key? = some k then p.2.key?
    else if p.2.key? = some k then p.1.key?
    else none
  else none

/-- The partner in the last of the pairs that collide and that the actor is in. -/
def lastPartner? (s : Stage) (pairs : List (Value × Value)) (k : String) : Option String :=
  (pairs.filterMap (s.partner? k)).getLast?

/-- The script that an actor gets from a partner, both as they were at the start of the session. -/
def dealt? (s : Stage) (k partner : String) : Option Script := do
  let scripts ← s.snapshot
  let own ← scripts.get? k
  let other ← scripts.get? partner
  return own.collide other

def rescripted (s : Stage) (partner? : String → Option String) (k : String) (a : Actor) : Actor :=
  { a with script := ((partner? k).bind (s.dealt? k)).getD a.script }

/-- The identifiers of the last of the pairs that collide. -/
def lastPair? (s : Stage) (pairs : List (Value × Value)) : Option (String × String) :=
  (pairs.filter s.meets).getLast?.bind fun p => keys? p.1 p.2

/-- The stage after pairs have come one after the other. -/
def settled (s : Stage) (pairs : List (Value × Value)) : Stage :=
  { s with
    roster := s.roster.map (s.rescripted (s.lastPartner? pairs))
    collisions := s.collisions + pairs.countP s.meets
    lastCollision := (s.lastPair? pairs).or s.lastCollision }

theorem rescripted_of_none {partner? : String → Option String} (h : partner? k = none) (a : Actor) :
    s.rescripted partner? k a = a := by
  rw [rescripted, h]
  rfl

/-! ### One pair -/

theorem meets_iff : s.meets p = true ↔ Nonempty (s.Meeting p.1 p.2) := by
  simp only [meets, snapshotScript?, Bool.and_eq_true, bne_iff_ne, Option.isSome_iff_exists,
    Option.bind_eq_some_iff]
  constructor
  · rintro ⟨⟨⟨⟨⟨hr, hne⟩, oldA, scripts, hs, ha⟩, oldB, scripts', hs', hb⟩, first, hfirst⟩,
      second, hsecond⟩
    cases hs.symm.trans hs'
    obtain ⟨i, hi, hfirst⟩ := Keyed.named?_eq_some.1 hfirst
    obtain ⟨j, hj, hsecond⟩ := Keyed.named?_eq_some.1 hsecond
    rw [Keyed.named?_of_key? hi] at ha
    rw [Keyed.named?_of_key? hj] at hb
    exact ⟨⟨scripts, i, j, oldA, oldB, first, second, hr, hs, hi, hj,
      fun hij => hne (by rw [hi, hj, hij]), ha, hb, hfirst, hsecond⟩⟩
  · rintro ⟨m⟩
    exact ⟨⟨⟨⟨⟨m.running, by simpa [m.keyA, m.keyB] using m.ne⟩, m.oldA, m.scripts, m.snapshot,
      (Keyed.named?_of_key? m.keyA m.scripts).trans m.keptA⟩, m.oldB, m.scripts, m.snapshot,
      (Keyed.named?_of_key? m.keyB m.scripts).trans m.keptB⟩, m.first,
      (s.actor?_of_key? m.keyA).trans m.actorA⟩, m.second,
      (s.actor?_of_key? m.keyB).trans m.actorB⟩

/-- A pair that collides gives two actors the scripts that they get from each other. -/
theorem collide_of_meets (h : s.meets p = true) :
    s.collide p.1 p.2 = (.ok true, { s with
      roster := s.roster.map (s.rescripted (s.partner? · p))
      collisions := s.collisions + 1
      lastCollision := keys? p.1 p.2 }) := by
  obtain ⟨m⟩ := meets_iff.1 h
  have hkeys := s.perform_keys (.collide p.1 p.2) (.inl rfl)
  rw [perform, collide_of_meeting m] at hkeys
  have hroster : m.after.roster = s.roster.map (s.rescripted (s.partner? · p)) := by
    refine Keyed.eq_of_get? (hkeys.trans (Keyed.keys_map _ _).symm) fun k _ => ?_
    rw [Meeting.after, Keyed.get?_map, Keyed.get?_put, Keyed.get?_put]
    by_cases hkb : k = m.j
    · simp [rescripted, partner?, dealt?, h, hkb, m.keyA, m.keyB, m.ne, m.snapshot, m.keptA,
        m.keptB, m.actorB]
    · by_cases hka : k = m.i
      · simp [rescripted, partner?, dealt?, h, hka, m.keyA, m.keyB, m.ne, m.snapshot, m.keptA,
          m.keptB, m.actorA]
      · have hnone : s.partner? k p = none := by
          simp [partner?, h, m.keyA, m.keyB, Ne.symm hka, Ne.symm hkb]
        rw [if_neg hkb, if_neg hka]
        cases s.roster.get? k with
        | none => rfl
        | some a => rw [Option.map_some, rescripted_of_none hnone]
  rw [collide_of_meeting m, ← hroster, keys?, m.keyA, m.keyB]
  rfl

theorem collide_yes : (s.collide p.1 p.2).1 = .ok true ↔ s.meets p = true := by
  refine ⟨fun hyes => ?_, fun h => by rw [collide_of_meets h]⟩
  rcases s.collide_cases p.1 p.2 with ⟨hno, -, -⟩ | ⟨m, -⟩
  · exact absurd hyes hno
  · exact meets_iff.2 ⟨m⟩

/-- A pair that does not collide changes nothing. -/
theorem collide_of_not_meets (h : s.meets p = false) : (s.collide p.1 p.2).2 = s := by
  rcases s.collide_cases p.1 p.2 with ⟨-, hc, -⟩ | ⟨m, -⟩
  · exact hc
  · cases (meets_iff.2 ⟨m⟩).symm.trans h

theorem answers_eq_false : s.answers p = false ↔ s.running = true ∧ s.snapshot.isSome = true ∧
    (p.1.text? = none ∨ p.2.text? = none) := by
  simp only [answers, Bool.or_eq_false_iff, Bool.not_eq_false', Bool.and_eq_true,
    Bool.and_eq_false_iff, Option.isSome_eq_false_iff, Option.isNone_iff_eq_none, and_assoc]

/-- The answer to a pair. -/
theorem collide_fst (s : Stage) (p : Value × Value) : (s.collide p.1 p.2).1 =
    if s.answers p then .ok (s.meets p) else .error (.unreadable .tooManyDigits) := by
  cases hanswer : (s.collide p.1 p.2).1 with
  | error why =>
    obtain ⟨hr, hs, htext, rfl⟩ := s.collide_error.1 hanswer
    rw [answers_eq_false.2 ⟨hr, hs, htext⟩]
    rfl
  | ok yes =>
    have hanswers : s.answers p = true := by
      by_contra hno
      obtain ⟨hr, hs, htext⟩ := answers_eq_false.1 (Bool.eq_false_iff.2 hno)
      cases hanswer.symm.trans (s.collide_error.2 ⟨hr, hs, htext, rfl⟩)
    have hyes := collide_yes (s := s) (p := p)
    rw [hanswer, Except.ok.injEq, ← Bool.eq_iff_iff] at hyes
    rw [hanswers, if_pos rfl, hyes]

theorem partner?_of_not_meets (h : s.meets p = false) (k : String) : s.partner? k p = none := by
  rw [partner?, h]
  rfl

theorem isSome_dealt? {q : String} (h : s.partner? k p = some q) : (s.dealt? k q).isSome = true := by
  unfold partner? at h
  split at h
  · rename_i hmeets
    obtain ⟨m⟩ := meets_iff.1 hmeets
    rw [m.keyA, m.keyB] at h
    split at h
    · rename_i hk
      cases h
      cases hk
      simp [dealt?, m.snapshot, m.keptA, m.keptB]
    · split at h
      · rename_i hk
        cases h
        cases hk
        simp [dealt?, m.snapshot, m.keptA, m.keptB]
      · cases h
  · cases h

theorem partner?_swap (s : Stage) (k : String) (p : Value × Value) :
    s.partner? k p.swap = s.partner? k p := by
  have hmeets : s.meets p.swap = s.meets p := by
    rw [Bool.eq_iff_iff, meets_iff, meets_iff]
    exact ⟨fun ⟨m⟩ => ⟨m.swap⟩, fun ⟨m⟩ => ⟨m.swap⟩⟩
  rw [partner?, partner?, hmeets]
  split
  · rename_i h
    obtain ⟨m⟩ := meets_iff.1 h
    rw [Prod.fst_swap, Prod.snd_swap, m.keyA, m.keyB]
    by_cases hk : m.i = k
    · have hk' : m.j ≠ k := fun hk' => m.ne (hk.trans hk'.symm)
      simp [hk, hk']
    · simp [hk]
  · rfl

/-! ### All pairs -/

theorem answers_collide (s : Stage) (a b : Value) : (s.collide a b).2.answers = s.answers := by
  obtain ⟨hr, hs⟩ := s.perform_session (.collide a b) rfl
  rw [perform] at hr hs
  funext p
  rw [answers, answers, hr, hs]

theorem meets_collide (s : Stage) (a b : Value) : (s.collide a b).2.meets = s.meets := by
  obtain ⟨hr, hs⟩ := s.perform_session (.collide a b) rfl
  have hpresent := s.perform_present (.collide a b) (.inl rfl)
  rw [perform] at hr hs hpresent
  have hactor (id : Value) : ((s.collide a b).2.actor? id).isSome = (s.actor? id).isSome := by
    rw [actor?, actor?, Keyed.named?, Keyed.named?]
    cases id.key? with
    | none => rfl
    | some key => exact hpresent key
  funext p
  simp only [meets, snapshotScript?, hr, hs, hactor]

theorem lastPartner?_collide (s : Stage) (a b : Value) (pairs : List (Value × Value)) :
    (s.collide a b).2.lastPartner? pairs = s.lastPartner? pairs := by
  have hpartner (k : String) : (s.collide a b).2.partner? k = s.partner? k := by
    funext p
    rw [partner?, partner?, meets_collide]
  funext k
  rw [lastPartner?, lastPartner?, hpartner]

theorem rescripted_collide (s : Stage) (a b : Value) :
    (s.collide a b).2.rescripted = s.rescripted := by
  have hs := (s.perform_session (.collide a b) rfl).2
  rw [perform] at hs
  have hdealt : (s.collide a b).2.dealt? = s.dealt? := by
    funext k partner
    rw [dealt?, dealt?, hs]
  funext partner? k actor
  rw [rescripted, rescripted, hdealt]

theorem lastPartner?_cons (s : Stage) (p : Value × Value) (pairs : List (Value × Value))
    (k : String) :
    s.lastPartner? (p :: pairs) k = (s.lastPartner? pairs k).or (s.partner? k p) := by
  rw [lastPartner?, lastPartner?]
  cases hp : s.partner? k p with
  | none => rw [List.filterMap_cons_none hp, Option.or_none]
  | some q =>
    rw [List.filterMap_cons_some hp, List.getLast?_cons]
    cases (pairs.filterMap (s.partner? k)).getLast? <;> rfl

/-- What the last partner of all pairs gives an actor, it gives the actor after the first pair. -/
theorem rescripted_cons (s : Stage) (p : Value × Value) (pairs : List (Value × Value)) (k : String)
    (a : Actor) :
    s.rescripted (s.lastPartner? pairs) k (s.rescripted (s.partner? · p) k a) =
      s.rescripted (s.lastPartner? (p :: pairs)) k a := by
  rw [rescripted, rescripted, rescripted, lastPartner?_cons]
  cases hlast : s.lastPartner? pairs k with
  | none => rfl
  | some q =>
    obtain ⟨p', -, hp'⟩ := List.mem_filterMap.1 (List.mem_of_getLast? hlast)
    obtain ⟨script, hscript⟩ := Option.isSome_iff_exists.1 (isSome_dealt? hp')
    simp [hscript]

theorem lastPair?_cons (s : Stage) (p : Value × Value) (pairs : List (Value × Value)) :
    s.lastPair? (p :: pairs) =
      (s.lastPair? pairs).or (if s.meets p then keys? p.1 p.2 else none) := by
  rw [lastPair?, lastPair?]
  cases h : s.meets p with
  | false => rw [List.filter_cons_of_neg (by simp [h]), if_neg Bool.false_ne_true, Option.or_none]
  | true =>
    rw [List.filter_cons_of_pos h, List.getLast?_cons, if_pos rfl]
    cases hlast : (pairs.filter s.meets).getLast? with
    | none => rfl
    | some q =>
      obtain ⟨m⟩ := meets_iff.1 (List.mem_filter.1 (List.mem_of_getLast? hlast)).2
      rw [Option.getD_some, Option.bind_some, keys?, m.keyA, m.keyB]
      rfl

/-- What pairs do to a stage, one after the other. -/
theorem foldl_collide (s : Stage) (pairs : List (Value × Value)) :
    pairs.foldl (fun s p => (s.collide p.1 p.2).2) s = s.settled pairs := by
  induction pairs generalizing s with
  | nil =>
    have hroster : s.roster.map (s.rescripted (s.lastPartner? [])) = s.roster :=
      Keyed.map_eq_self fun _ a _ => rescripted_of_none rfl a
    rw [settled, hroster]
    rfl
  | cons p pairs ih =>
    rw [List.foldl_cons, ih, settled, settled, lastPair?, meets_collide, lastPartner?_collide,
      rescripted_collide, ← lastPair?, lastPair?_cons]
    cases h : s.meets p with
    | false =>
      have hlast : s.lastPartner? (p :: pairs) = s.lastPartner? pairs := by
        funext k
        rw [lastPartner?_cons, partner?_of_not_meets h, Option.or_none]
      simp [collide_of_not_meets h, h, hlast]
    | true =>
      have hroster : (s.roster.map (s.rescripted (s.partner? · p))).map
          (s.rescripted (s.lastPartner? pairs)) =
          s.roster.map (s.rescripted (s.lastPartner? (p :: pairs))) := by
        rw [Keyed.map_map]
        exact Keyed.map_congr fun k a _ => s.rescripted_cons p pairs k a
      have hpair : (keys? p.1 p.2).or s.lastCollision = keys? p.1 p.2 := by
        obtain ⟨m⟩ := meets_iff.1 h
        rw [keys?, m.keyA, m.keyB]
        rfl
      rw [collide_of_meets h, List.countP_cons_of_pos h, ← hroster, if_pos rfl, Option.or_assoc,
        hpair, Nat.add_comm (pairs.countP s.meets), ← Nat.add_assoc]

/-- What a batch of pairs does to a stage, and what it tells. -/
theorem collideAll_eq (s : Stage) (pairs : List (Value × Value)) :
    s.collideAll pairs = ((s.answered pairs).map s.meets, s.settled (s.answered pairs)) := by
  rw [← foldl_collide]
  induction pairs generalizing s with
  | nil => rfl
  | cons p pairs ih =>
    have hfst := s.collide_fst p
    rw [collideAll, answered]
    cases hanswers : s.answers p with
    | false =>
      rw [hanswers, if_neg Bool.false_ne_true] at hfst
      have hmeets : s.meets p = false := Bool.eq_false_iff.2 fun h => by
        cases hfst.symm.trans (collide_yes.2 h)
      have hc : s.collide p.1 p.2 = (.error (.unreadable .tooManyDigits), s) :=
        Prod.ext hfst (collide_of_not_meets hmeets)
      rw [hc, List.takeWhile_cons_of_neg (by simp [hanswers])]
      rfl
    | true =>
      rw [hanswers, if_pos rfl] at hfst
      have hc : s.collide p.1 p.2 = (.ok (s.meets p), (s.collide p.1 p.2).2) := Prod.ext hfst rfl
      have hrest := ih (s.collide p.1 p.2).2
      rw [answered, answers_collide, meets_collide] at hrest
      rw [List.takeWhile_cons_of_pos hanswers, List.map_cons, List.foldl_cons]
      rw [hc]
      dsimp only
      rw [hrest]

theorem answered_eq_self {pairs : List (Value × Value)}
    (h : ∀ p ∈ pairs, p.1.text?.isSome = true ∧ p.2.text?.isSome = true) :
    s.answered pairs = pairs := by
  refine List.takeWhile_eq_self_iff.2 fun p hp => ?_
  obtain ⟨hfirst, hsecond⟩ := h p hp
  rw [answers, hfirst, hsecond, Bool.and_true, Bool.or_true]

theorem answered_str (s : Stage) (pairs : List (String × String)) :
    s.answered (pairs.map fun p => (.str p.1, .str p.2)) =
      pairs.map fun p => (.str p.1, .str p.2) := by
  refine answered_eq_self fun p hp => ?_
  obtain ⟨q, -, rfl⟩ := List.mem_map.1 hp
  exact ⟨by rw [Value.text?_str]; rfl, by rw [Value.text?_str]; rfl⟩

theorem poses_collideAll (s : Stage) (pairs : List (Value × Value)) :
    (s.collideAll pairs).2.poses = s.poses := by
  rw [collideAll_eq]
  rfl

theorem collideAll_running (s : Stage) (pairs : List (Value × Value)) :
    (s.collideAll pairs).2.running = s.running := by
  rw [collideAll_eq]
  rfl

theorem lastPartner?_append (s : Stage) (pairs pairs' : List (Value × Value)) (k : String) :
    s.lastPartner? (pairs ++ pairs') k = (s.lastPartner? pairs' k).or (s.lastPartner? pairs k) := by
  rw [lastPartner?, List.filterMap_append, List.getLast?_append]
  rfl

theorem lastPartner?_map_swap (s : Stage) (pairs : List (Value × Value)) (k : String) :
    s.lastPartner? (pairs.map Prod.swap) k = s.lastPartner? pairs k := by
  rw [lastPartner?, List.filterMap_map, show s.partner? k ∘ Prod.swap = s.partner? k from
    funext (s.partner?_swap k)]
  rfl

theorem answered_map_swap (s : Stage) (pairs : List (Value × Value)) :
    s.answered (pairs.map Prod.swap) = (s.answered pairs).map Prod.swap := by
  have hswap : s.answers ∘ Prod.swap = s.answers := by
    funext p
    rw [Function.comp, answers, answers, Prod.fst_swap, Prod.snd_swap,
      Bool.and_comm p.2.text?.isSome]
  rw [answered, List.takeWhile_map, hswap, answered]

/-- Pairs after which every actor has had the same partner last leave the same actors with the same
scripts. -/
theorem roster_settled_congr {pairs pairs' : List (Value × Value)}
    (h : ∀ k ∈ s.roster.keys, s.lastPartner? pairs' k = s.lastPartner? pairs k) :
    (s.settled pairs').roster = (s.settled pairs).roster := by
  refine Keyed.map_congr fun k a ha => ?_
  rw [rescripted, rescripted, h k (Keyed.mem_keys.2 ⟨a, ha⟩)]

theorem answered_append (s : Stage) (pairs : List (Value × Value)) :
    s.answered (pairs ++ pairs) = s.answered pairs ++ s.answered pairs ∨
      s.answered (pairs ++ pairs) = s.answered pairs := by
  rw [answered, answered, List.takeWhile_append]
  split
  · rename_i hall
    have hself := (List.takeWhile_prefix s.answers).eq_of_length hall
    exact .inl (by rw [hself])
  · exact .inr rfl

/-- The law of batches, for every stage and any pairs. A batch is its pairs one after the other, up
to the first that is not answered, and all of them if their identifiers have a text. It answers,
pair by pair, which of them collide, gives every actor the script that it gets from its last
partner, and counts the collisions and keeps the last; it changes nothing else. So batches after
which every actor has had the same partner last leave the same scripts, and so do pairs that come
one by one. In particular it makes no difference to the scripts if the members of all pairs change
places, or if the batch comes twice. -/
theorem batch_law (s : Stage) (pairs : List (Value × Value)) :
    ((∀ p ∈ pairs, p.1.text?.isSome = true ∧ p.2.text?.isSome = true) → s.answered pairs = pairs) ∧
    (s.collideAll pairs).2 = (s.answered pairs).foldl (fun s p => (s.collide p.1 p.2).2) s ∧
    s.collideAll pairs = ((s.answered pairs).map s.meets, { s with
      roster := s.roster.map fun k a =>
        { a with script :=
            ((s.lastPartner? (s.answered pairs) k).bind (s.dealt? k)).getD a.script }
      collisions := s.collisions + ((s.answered pairs).map s.meets).count true
      lastCollision := (s.lastPair? (s.answered pairs)).or s.lastCollision }) ∧
    (∀ pairs', (∀ k ∈ s.roster.keys,
        s.lastPartner? (s.answered pairs') k = s.lastPartner? (s.answered pairs) k) →
      (s.collideAll pairs').2.roster = (s.collideAll pairs).2.roster) ∧
    (∀ pairs', (∀ k ∈ s.roster.keys, s.lastPartner? pairs' k = s.lastPartner? pairs k) →
      (pairs'.foldl (fun s p => (s.collide p.1 p.2).2) s).roster =
        (pairs.foldl (fun s p => (s.collide p.1 p.2).2) s).roster) ∧
    (s.collideAll (pairs.map Prod.swap)).2.roster = (s.collideAll pairs).2.roster ∧
    (s.collideAll (pairs ++ pairs)).2.roster = (s.collideAll pairs).2.roster ∧
    ((s.collideAll pairs).2.collideAll pairs).2.roster = (s.collideAll pairs).2.roster := by
  have hcount (pairs : List (Value × Value)) :
      pairs.countP s.meets = (pairs.map s.meets).count true := by
    rw [List.count, List.countP_map]
    exact List.countP_congr fun p _ => by simp
  have htwice (pairs : List (Value × Value)) :
      (s.settled (pairs ++ pairs)).roster = (s.settled pairs).roster :=
    roster_settled_congr fun k _ => by rw [lastPartner?_append, Option.or_self]
  refine ⟨answered_eq_self, ?_, ?_, fun pairs' h => ?_, fun pairs' h => ?_, ?_, ?_, ?_⟩
  · rw [collideAll_eq, foldl_collide]
  · rw [collideAll_eq, settled, hcount]
    rfl
  · rw [collideAll_eq, collideAll_eq]
    exact roster_settled_congr h
  · rw [foldl_collide, foldl_collide]
    exact roster_settled_congr h
  · rw [collideAll_eq, collideAll_eq, answered_map_swap]
    exact roster_settled_congr fun k _ => s.lastPartner?_map_swap _ k
  · rw [collideAll_eq, collideAll_eq]
    rcases s.answered_append pairs with h | h <;> rw [h]
    exact htwice _
  · rw [collideAll_eq, collideAll_eq s]
    change ((s.settled (s.answered pairs)).settled (s.answered pairs)).roster = _
    rw [← foldl_collide, ← foldl_collide s, ← List.foldl_append, foldl_collide, foldl_collide]
    exact htwice _

end Stage

/-- Three sprites in a session. -/
def trio : History :=
  [.start, .add 3 { id := .str "c", script := [.goto "home" (.int 0) (.int 0)] },
    .add 2 { id := .str "b", script := [.turn "left" (.int (-90)),
      .bubble "hum" .say (.str "") (.int 1)] },
    .add 1 { id := .str "a", script := [.move "step" (.int 1)] }]

/-- The law of batches there: the first sprite meets the second, and then the second meets the
third. -/
theorem batch_of_trio :
    let pairs : List (Value × Value) := [(.str "a", .str "b"), (.str "b", .str "c")]
    let pairs' : List (Value × Value) := [(.str "c", .str "b"), (.str "b", .str "a"),
      (.str "a", .str "a"), (.str "c", .str "b"), (.str "d", .str "a")]
    (∀ k ∈ trio.stage.roster.keys,
      trio.stage.lastPartner? pairs' k = trio.stage.lastPartner? pairs k) ∧
    pairs'.map trio.stage.meets = [true, true, false, true, false] ∧
    (trio.stage.collideAll pairs').2.roster = (trio.stage.collideAll pairs).2.roster := by
  intro pairs pairs'
  have hanswered : trio.stage.answered pairs = pairs := Stage.answered_eq_self (by decide +kernel)
  have hanswered' : trio.stage.answered pairs' = pairs' := Stage.answered_eq_self (by decide +kernel)
  have hlast : ∀ k ∈ trio.stage.roster.keys,
      trio.stage.lastPartner? pairs' k = trio.stage.lastPartner? pairs k := by decide +kernel
  obtain ⟨-, -, -, hsame, -⟩ := trio.stage.batch_law pairs
  rw [hanswered] at hsame
  exact ⟨hlast, by decide +kernel, hsame pairs' (by rwa [hanswered'])⟩

end SpriteStage
