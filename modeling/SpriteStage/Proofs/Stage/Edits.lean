import Mathlib.Algebra.Group.Int.Defs
import SpriteStage.Proofs.Stage.Operations
import SpriteStage.Proofs.Value.Texts

/-!
# Refused edits

An edit of the roster that is refused leaves the stage as it was, but for one case. The attributes
of an actor are changed one by one, and a value that cannot be read is refused only when its turn
comes: a value that has no text as the name, the colour or the shape, and a whole number beyond the
range of doubles as a size. Then the changes before it have been made, and they stay.
-/

namespace SpriteStage

/-! ### Sizes -/

/-- A whole number beyond the range of doubles. -/
def Value.TooLarge (v : Value) : Prop := ∃ n, v = .int n ∧ Double.ofInt? n = none

theorem Value.toFloat_outOfRange {v : Value} :
    v.toFloat = .error .outOfRange ↔ v.TooLarge := by
  cases v with
  | int n =>
    rw [Value.toFloat, Number.toFloat]
    cases h : Double.ofInt? n with
    | none => exact iff_of_true rfl ⟨n, rfl, h⟩
    | some x =>
      refine iff_of_false nofun ?_
      rintro ⟨m, hm, hnone⟩
      cases hm
      cases h.symm.trans hnone
  | str s =>
    rw [Value.toFloat]
    refine iff_of_false ?_ (by rintro ⟨n, hn, -⟩; cases hn)
    split <;> exact nofun
  | null | bool | float | torn | list | object =>
    exact iff_of_false nofun (by rintro ⟨n, hn, -⟩; cases hn)

/-- Only a whole number beyond the range of doubles is refused as a size. -/
theorem Actor.size_eq_error {v : Value} {e : ReadingError} :
    Actor.size v = .error e ↔ v.TooLarge ∧ e = .outOfRange := by
  rw [← Value.toFloat_outOfRange, Actor.size]
  cases h : v.toFloat with
  | ok x => exact iff_of_false nofun fun ⟨hx, _⟩ => by cases hx
  | error why =>
    cases why with
    | outOfRange =>
      refine ⟨fun he => ⟨rfl, ?_⟩, fun ⟨_, he⟩ => by rw [he]⟩
      cases he
      rfl
    | notNumeric | malformed | tooManyDigits | tooLong =>
      exact iff_of_false nofun fun ⟨hx, _⟩ => by cases hx

/-! ### Attributes -/

/-- A value is refused for an attribute: it has no text, or it is beyond the range of doubles. -/
def Attribute.Refuses (v : Value) : Attribute → ReadingError → Prop
  | .name, why | .color, why | .shape, why => ¬v.IsShort ∧ why = .tooManyDigits
  | .width, why | .height, why => v.TooLarge ∧ why = .outOfRange

theorem Shape.ofValue?_eq_none {v : Value} : Shape.ofValue? v = none ↔ ¬v.IsShort := by
  rw [Shape.ofValue?, Option.map_eq_none_iff, Value.trimmed?_eq_none, Value.not_isShort]

theorem Actor.set_eq_error {a : Actor} {v : Value} {t : Attribute} {why : ReadingError} :
    a.set v t = .error why ↔ t.Refuses v why := by
  cases t with
  | name | color =>
    rw [Attribute.Refuses, Value.not_isShort, ← Value.text?_eq_none, Actor.set]
    cases v.text? with
    | none => exact ⟨fun h => by cases h; exact ⟨rfl, rfl⟩, fun h => by rw [h.2]; rfl⟩
    | some text => exact iff_of_false nofun fun h => by cases h.1
  | shape =>
    rw [Attribute.Refuses, ← Shape.ofValue?_eq_none, Actor.set]
    cases Shape.ofValue? v with
    | none => exact ⟨fun h => by cases h; exact ⟨rfl, rfl⟩, fun h => by rw [h.2]; rfl⟩
    | some shape => exact iff_of_false nofun fun h => by cases h.1
  | width | height =>
    rw [Attribute.Refuses, ← Actor.size_eq_error, Actor.set]
    cases Actor.size v with
    | error e => exact ⟨fun h => by cases h; rfl, fun h => by cases h; rfl⟩
    | ok x => exact iff_of_false nofun nofun

/-- A draft makes an actor if none of its attributes is refused. -/
theorem Draft.exists_actor {d : Draft} (hname : d.name.IsShort) (hcolor : d.color.IsShort)
    (hshape : d.shape.IsShort) (hwidth : ¬d.width.TooLarge) (hheight : ¬d.height.TooLarge)
    (id : String) (number : Nat) : ∃ a, d.actor id number = .ok a := by
  have size {v : Value} (hv : ¬v.TooLarge) : ∃ x, Actor.size v = .ok x := by
    cases hx : Actor.size v with
    | ok x => exact ⟨x, rfl⟩
    | error why => exact absurd (Actor.size_eq_error.1 hx).1 hv
  obtain ⟨given, hgiven⟩ := hname.exists_trimmed
  obtain ⟨color, hcolor⟩ : ∃ color,
      (d.color.orElse (.str Actor.defaultColor)).text? = some color :=
    Option.ne_none_iff_exists'.1 fun hnone =>
      Value.not_isShort.2 ((Value.orElse_text?_eq_none rfl).1 hnone) hcolor
  obtain ⟨shape, hshape⟩ := Option.ne_none_iff_exists'.1 fun hnone =>
    Shape.ofValue?_eq_none.1 hnone hshape
  obtain ⟨width, hwidth⟩ := size hwidth
  obtain ⟨height, hheight⟩ := size hheight
  exact ⟨⟨id, _, color, shape, width, height, d.script⟩, Draft.actor_eq_ok.2
    ⟨by rw [Draft.nameOr?, hgiven]; rfl, hcolor, hshape, hwidth, hheight, rfl, rfl⟩⟩

namespace Edit

variable (e : Edit)

theorem change_eq_error {a : Actor} {t : Attribute} {why : ReadingError} :
    e.change t a = .error why ↔ t.Refuses (e.value t) why := by
  unfold change
  split
  · rename_i hnull
    rw [hnull]
    refine iff_of_false nofun fun h => ?_
    cases t with
    | name | color | shape => exact h.1 rfl
    | width | height => exact absurd h.1 (by rintro ⟨n, hn, -⟩; cases hn)
  · exact Actor.set_eq_error

theorem applyAll_cons (t : Attribute) (ts : List Attribute) (a : Actor) :
    e.applyAll (t :: ts) a = match e.change t a with
      | .ok b => e.applyAll ts b
      | .error why => (a, some why) := rfl

/-- Changes are all made, or those before the first that is refused. -/
theorem applyAll_cases (ts : List Attribute) (a : Actor) :
    ((∀ t ∈ ts, ∀ why, ¬t.Refuses (e.value t) why) ∧ ∃ b, e.applyAll ts a = (b, none)) ∨
    ∃ earlier t later b why, ts = earlier ++ t :: later ∧ t.Refuses (e.value t) why ∧
      e.applyAll earlier a = (b, none) ∧ e.applyAll ts a = (b, some why) := by
  induction ts generalizing a with
  | nil => exact .inl ⟨nofun, a, rfl⟩
  | cons t ts ih =>
    rw [applyAll_cons]
    cases hc : e.change t a with
    | error why =>
      exact .inr ⟨[], t, ts, a, why, rfl, e.change_eq_error.1 hc, rfl, rfl⟩
    | ok c =>
      have haccepts (why : ReadingError) : ¬t.Refuses (e.value t) why := fun h => by
        cases hc.symm.trans (e.change_eq_error.2 h)
      rcases ih c with ⟨hall, b, hb⟩ | ⟨earlier, t', later, b, why, rfl, hrefuses, hearlier, hb⟩
      · refine .inl ⟨fun t' ht' => ?_, b, hb⟩
        rcases List.mem_cons.1 ht' with rfl | ht'
        · exact haccepts
        · exact hall t' ht'
      · refine .inr ⟨t :: earlier, t', later, b, why, rfl, hrefuses, ?_, hb⟩
        rw [applyAll_cons, hc]
        exact hearlier

/-- The part of an edit that is made before an attribute is changed. -/
def before : Attribute → Edit
  | .name => {}
  | .color => { name := e.name }
  | .shape => { name := e.name, color := e.color }
  | .width => { name := e.name, color := e.color, shape := e.shape }
  | .height => { name := e.name, color := e.color, shape := e.shape, width := e.width }

theorem apply_before (t : Attribute) (a : Actor) :
    (e.before t).apply a = e.applyAll (Attribute.all.takeWhile (· != t)) a := by
  cases t <;> rfl

/-- An edit is made as a whole, or it is refused at an attribute and the part before it is made. -/
theorem apply_cases (a : Actor) :
    ((∀ (t : Attribute) why, ¬t.Refuses (e.value t) why) ∧ ∃ b, e.apply a = (b, none)) ∨
    ∃ (t : Attribute) (b : Actor) (why : ReadingError), t.Refuses (e.value t) why ∧
      (e.before t).apply a = (b, none) ∧ e.apply a = (b, some why) := by
  rcases e.applyAll_cases Attribute.all a with ⟨hall, hb⟩ |
    ⟨earlier, t, later, b, why, hsplit, hrefuses, hearlier, hb⟩
  · exact .inl ⟨fun t => hall t (by cases t <;> decide), hb⟩
  · refine .inr ⟨t, b, why, hrefuses, ?_, hb⟩
    have hnodup : (earlier ++ t :: later).Nodup := hsplit ▸ by decide
    have hne : ∀ t' ∈ earlier, (t' != t) = true := fun t' ht' =>
      bne_iff_ne.2 ((List.nodup_append.1 hnodup).2.2 t' ht' t List.mem_cons_self)
    rw [apply_before, hsplit, List.takeWhile_append_of_pos hne,
      List.takeWhile_cons_of_neg (by simp), List.append_nil]
    exact hearlier

end Edit

/-! ### Edits of the roster -/

theorem Keyed.put_eq_self {α : Type} {m : Keyed α} {key : String} {v w : α}
    (h : m.get? key = some v) : m.put key w = m ↔ w = v := by
  constructor
  · intro heq
    have hw : (m.put key w).get? key = some w := by rw [Keyed.get?_put, if_pos rfl]
    rw [heq, h] at hw
    exact (Option.some.inj hw).symm
  · rintro rfl
    refine Keyed.eq_of_get? (Keyed.keys_put_of_mem (Keyed.mem_keys.2 ⟨w, h⟩) w) fun k _ => ?_
    rw [Keyed.get?_put]
    split
    · rename_i hk
      rw [hk, h]
    · rfl

namespace Stage

variable (s : Stage)

/-- Why nobody is found for an identifier: it has no text, or it is the key of nobody. -/
def Misses (id : Value) (why : StageError) : Prop :=
  ¬id.IsShort ∧ why = .unreadable .tooManyDigits ∨
    id.IsShort ∧ s.actor? id = none ∧ why = .actorNotFound id

theorem find_eq_error {id : Value} {why : StageError} :
    s.find id = .error why ↔ s.Misses id why := by
  have hshort : id.text?.isSome = true ↔ id.IsShort := by
    rw [Value.IsShort, ← Bool.not_eq_true, ← Value.text?_eq_none, ← Option.ne_none_iff_isSome]
  rw [Misses, ← hshort]
  cases h : s.actor? id with
  | none =>
    rw [find_none s h]
    cases id.text?.isSome <;> simp [eq_comm]
  | some a =>
    obtain ⟨key, hkey, ha⟩ := Keyed.named?_eq_some.1 h
    rw [find_of_key? s hkey ha, Value.text?_of_key? hkey]
    simp

/-- A new actor that is refused. -/
theorem add_refused {fresh : String} {d : Draft} {why : StageError}
    (h : (s.add fresh d).1 = .error why) : (s.add fresh d).2 = s := by
  unfold add at h ⊢
  split
  · rfl
  · rename_i id hid
    rw [hid] at h
    dsimp only at h ⊢
    split
    · rfl
    · rename_i hfree
      rw [if_neg hfree] at h
      cases ha : d.actor id (s.roster.size + 1) with
      | error e => rfl
      | ok a =>
        rw [ha] at h
        cases h

theorem script_eq_error {id : Value} {why : StageError} :
    s.script id = .error why ↔ s.Misses id why := by
  rw [← find_eq_error, script]
  cases s.find id with
  | error e => exact ⟨fun h => by cases h; rfl, fun h => by cases h; rfl⟩
  | ok p => exact iff_of_false nofun nofun

theorem replaceScript_eq_error {id : Value} {script : Script} {why : StageError} :
    (s.replaceScript id script).1 = .error why ↔ s.Misses id why := by
  rw [← find_eq_error, replaceScript]
  cases s.find id with
  | error e => exact ⟨fun h => by cases h; rfl, fun h => by cases h; rfl⟩
  | ok p => exact iff_of_false (by rintro ⟨⟩) (by rintro ⟨⟩)

theorem replaceScript_refused {id : Value} {script : Script} {why : StageError}
    (h : (s.replaceScript id script).1 = .error why) : (s.replaceScript id script).2 = s := by
  rcases s.replaceScript_cases id script with ⟨-, _, heq⟩ | ⟨key, a, -, -, heq⟩ <;> rw [heq] at h ⊢
  cases h

theorem remove_eq_error {id : Value} {why : StageError} :
    (s.remove id).1 = .error why ↔ ¬id.IsShort ∧ why = .unreadable .tooManyDigits := by
  have hfind (why : StageError) : s.find id = .error why ↔ s.Misses id why := s.find_eq_error
  rw [remove]
  cases hf : s.find id with
  | ok p =>
    refine iff_of_false (by rintro ⟨⟩) fun h => ?_
    cases hf.symm.trans ((hfind why).2 (.inl h))
  | error e =>
    obtain ⟨hlong, rfl⟩ | ⟨hshort, -, rfl⟩ := (hfind e).1 hf
    · exact ⟨fun h => by cases h; exact ⟨hlong, rfl⟩, fun h => by rw [h.2]⟩
    · exact iff_of_false (by rintro ⟨⟩) fun h => h.1 hshort

theorem remove_refused {id : Value} (h : (s.remove id).1 ≠ .ok true) : (s.remove id).2 = s := by
  rcases s.remove_cases id with ⟨-, -, heq⟩ | ⟨key, a, -, -, heq⟩
  · exact heq
  · rw [heq] at h
    exact absurd rfl h

/-- The law of refused edits, for every stage, whatever values an edit gives. A new actor, a new
script or a removal that is refused leaves the stage as it was, and so does a change to an actor
that is not found; an actor is not found if its identifier is on nobody or has no text. A change to
an actor is refused exactly if the value of some attribute is: a name, a colour or a shape that has
no text, or a size that is a whole number beyond the range of doubles. Then the stage is the one
that the part of the edit before such an attribute leads to, which differs from the stage before,
unless that part makes no difference to the actor. -/
theorem edit_law :
    (∀ fresh d why, (s.add fresh d).1 = .error why → (s.add fresh d).2 = s) ∧
    (∀ id why, s.script id = .error why ↔ s.Misses id why) ∧
    (∀ id script why, ((s.replaceScript id script).1 = .error why ↔ s.Misses id why) ∧
      ((s.replaceScript id script).1 = .error why → (s.replaceScript id script).2 = s)) ∧
    (∀ id why, ((s.remove id).1 = .error why ↔
        ¬id.IsShort ∧ why = .unreadable .tooManyDigits) ∧
      ((s.remove id).1 ≠ .ok true → (s.remove id).2 = s)) ∧
    ∀ id edit,
      (∀ why, s.Misses id why → s.update id edit = (.error why, s)) ∧
      ∀ a, s.actor? id = some a →
        ((s.update id edit).1.isOk = false ↔
          ∃ (t : Attribute) (why : ReadingError), t.Refuses (edit.value t) why) ∧
        ∀ e, (s.update id edit).1 = .error e → ∃ (t : Attribute) (why : ReadingError),
          t.Refuses (edit.value t) why ∧ e = .unreadable why ∧ ∃ key b, id.key? = some key ∧
            s.update id (edit.before t) = (.ok b, (s.update id edit).2) ∧
            (s.update id edit).2 = { s with roster := s.roster.put key b } ∧
            ((s.update id edit).2 = s ↔ b = a) := by
  refine ⟨fun _ _ _ => s.add_refused, fun _ _ => s.script_eq_error,
    fun _ _ _ => ⟨s.replaceScript_eq_error, s.replaceScript_refused⟩,
    fun _ _ => ⟨s.remove_eq_error, s.remove_refused⟩, fun id edit =>
    ⟨fun why hwhy => ?_, fun a hactor => ?_⟩⟩
  · rw [update, s.find_eq_error.2 hwhy]
  obtain ⟨key, hkey, ha⟩ := Keyed.named?_eq_some.1 hactor
  have hput (b : Actor) : { s with roster := s.roster.put key b } = s ↔ b = a := by
    rw [← Keyed.put_eq_self ha]
    exact ⟨fun h => congrArg roster h, fun h => by rw [h]⟩
  rw [update_of_key? s hkey ha]
  rcases edit.apply_cases a with ⟨hall, b, happly⟩ | ⟨t, b, why, hrefuses, hbefore, happly⟩ <;>
    rw [happly]
  · exact ⟨iff_of_false (by rintro ⟨⟩) (by rintro ⟨t, why, h⟩; exact hall t why h), by rintro _ ⟨⟩⟩
  · refine ⟨iff_of_true rfl ⟨t, why, hrefuses⟩, fun e he => ?_⟩
    cases he
    refine ⟨t, why, hrefuses, rfl, key, b, hkey, ?_, rfl, hput b⟩
    rw [update_of_key? s hkey ha, hbefore]

def annStage : Stage := History.stage [.add 1 { id := .str "a", name := .str "Ann" }]

def newName : Edit := { name := .str "Bob", width := .int (10 ^ 400) }

/-- The change is refused, and the name is changed. -/
theorem renamed_by_refused :
    (annStage.update (.str "a") newName).1.isOk = false ∧
      (annStage.actor? (.str "a")).map Actor.name = some "Ann" ∧
      ((annStage.update (.str "a") newName).2.actor? (.str "a")).map Actor.name = some "Bob" := by
  decide +kernel

/-- A colour with too many digits is refused as well, after the name. -/
example : let edit : Edit := { name := .str "Bob", color := .ofNat (Nat.pow 10 5000) }
    (annStage.update (.str "a") edit).1.isOk = false ∧
      ((annStage.update (.str "a") edit).2.actor? (.str "a")).map Actor.name = some "Bob" := by
  decide +kernel

/-- The law of refused edits at that change: some part of it has been made. -/
theorem edit_of_renaming : ∃ a t why b,
    annStage.actor? (.str "a") = some a ∧ newName.width.TooLarge ∧
      t.Refuses (newName.value t) why ∧
      (annStage.update (.str "a") newName).1 = .error (.unreadable why) ∧
      annStage.update (.str "a") (newName.before t) =
        (.ok b, (annStage.update (.str "a") newName).2) ∧
      (annStage.update (.str "a") newName).2 =
        { annStage with roster := annStage.roster.put "a" b } := by
  have hactor : (annStage.actor? (.str "a")).isSome = true := by decide
  obtain ⟨a, ha⟩ := Option.isSome_iff_exists.1 hactor
  have hlarge : newName.width.TooLarge := ⟨10 ^ 400, rfl, by decide +kernel⟩
  obtain ⟨-, -, -, -, hupdate⟩ := edit_law annStage
  obtain ⟨hrefused, hleft⟩ := (hupdate (.str "a") newName).2 a ha
  cases he : (annStage.update (.str "a") newName).1 with
  | ok b =>
    have hfailed := hrefused.2 ⟨.width, .outOfRange, hlarge, rfl⟩
    rw [he] at hfailed
    cases hfailed
  | error e =>
    obtain ⟨t, why, hrefuses, rfl, key, b, hkey, hbefore, hstage, -⟩ := hleft e he
    cases (Value.key?_str "a").symm.trans hkey
    exact ⟨a, t, why, b, ha, hlarge, hrefuses, rfl, hbefore, hstage⟩

end Stage

end SpriteStage
