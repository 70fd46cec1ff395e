import SpriteStage.Proofs.Block.Grammar

/-!
# The canonical form of a script

A client may write a block in many ways: with blanks around its kind, with fields that mean nothing,
with a count of rounds that is no whole number, without an identifier. `Value.canonical` says which
form each of them stands for, without reading a block. What the reader accepts is given out in that
form, and is read back from it as the same script.
-/

namespace SpriteStage

/-- A number rounded up, or zero if it is negative. -/
def Value.roundedUp : Value → Value
  | .int n => .int (max 0 n)
  | .float x => .int (max 0 ((Double.rational? x).elim 0 Rat.ceil))
  | v => v

/-- A parameter of a sort as it is kept: a count is rounded up, and all else stays as it was given.
-/
def ParamSort.canonical : ParamSort → Value → Value
  | .count, v => v.roundedUp
  | .number, v | .text, v => v

/-- The parameters that a kind has, out of those that are given. -/
def Kind.canonicalParams (k : Kind) (given : Value) : List (String × Value) :=
  k.params.map fun param => (param.1, param.2.canonical (given.field param.1))

/-- The identifier of a written block, which is a new one if it is left out or blank. -/
def Value.canonicalId (v : Value) (ids : Ids) : String × Ids :=
  let given := (v.field "id").trimmed?.getD ""
  if given.isEmpty then ids.block else (given, ids)

mutual

/-- The canonical form of a written block: its kind without blanks, the category of that kind, and
only the parameters of that kind; a loop has its children besides, and they are numbered before it.
What is no block is left alone. -/
def Value.canonical : Value → Ids → Value × Ids
  | .object fields, ids =>
    let v := Value.object fields
    match (v.field "type").trimmed?.bind Kind.ofName? with
    | none => (v, ids)
    | some k =>
      let (children, ids) :=
        if k = .loop then
          let (items, ids) := Value.canonicalChildren fields ids
          ([("children", Value.list items)], ids)
        else ([], ids)
      let (id, ids) := v.canonicalId ids
      (.object ([("id", .str id), ("type", .str k.name), ("category", .str k.category.name),
        ("params", .object (k.canonicalParams (v.field "params")))] ++ children), ids)
  | v, ids => (v, ids)

/-- The canonical forms of the children among the fields of a loop. -/
def Value.canonicalChildren : List (String × Value) → Ids → List Value × Ids
  | [], ids => ([], ids)
  | (name, v) :: rest, ids =>
    if "children" == name then
      match v with
      | .list items => Value.canonicalAll items ids
      | _ => ([], ids)
    else Value.canonicalChildren rest ids

/-- The canonical forms of the members of a list, one after another. -/
def Value.canonicalAll : List Value → Ids → List Value × Ids
  | [], ids => ([], ids)
  | v :: rest, ids =>
    let (form, ids) := v.canonical ids
    let (forms, ids) := Value.canonicalAll rest ids
    (form :: forms, ids)

end

/-! ### The parts of a block -/

theorem Value.field_of_field? {v w : Value} {name : String} (h : v.field? name = some w) :
    v.field name = w := by
  rw [Value.field, h, Option.getD_some]

theorem Value.AsksRounds.roundedUp {v : Value} {rounds : Nat} (h : v.AsksRounds rounds) :
    v.roundedUp = .int rounds := by
  obtain ⟨n, q, rfl, -, hq, -, hrounds⟩ := h
  rw [hrounds]
  cases n with
  | int m =>
    obtain rfl : q = m := hq
    simp only [Number.toValue, Value.roundedUp, Rat.ceil_intCast]
  | float x =>
    have hx : Double.rational? x = some q := hq
    simp only [Number.toValue, Value.roundedUp, hx, Option.elim_some]

theorem ParamSort.Takes.canonical {sort : ParamSort} {given kept : Value}
    (h : sort.Takes given kept) : sort.canonical given = kept := by
  cases sort with
  | number | text => exact h.2.symm
  | count =>
    obtain ⟨rounds, hasks, rfl⟩ := h
    exact hasks.roundedUp

theorem Value.Outlines.canonicalParams {v : Value} {k : Kind} {b : Block} (h : v.Outlines k b) :
    k.canonicalParams (v.field "params") = b.params := by
  replace h := h.params
  unfold Kind.canonicalParams
  generalize k.params = params, b.params = kept at h
  induction h with
  | nil => rfl
  | cons hparam _ ih =>
    obtain ⟨hname, given, hgiven, htakes⟩ := hparam
    rw [List.map_cons, ih, Value.field_of_field? hgiven, htakes.canonical, hname]

theorem Parse.id_eq_canonicalId {v : Value} {given : String} {ids : Ids} {p : String × Ids}
    (hgiven : Parse.given v = .ok given) (h : Parse.id given ids = .ok p) :
    v.canonicalId ids = p := by
  unfold Parse.id at h
  unfold Value.canonicalId
  rw [Parse.given_eq_ok.1 hgiven, Option.getD_some]
  split at h <;> (rename_i hgiven; cases h)
  · rw [if_pos hgiven]
  · rw [if_neg hgiven]

/-- What the reader does with an object that it accepts: it reads the children, if the block is a
loop, and then the identifier. -/
theorem Block.parse_object {fields : List (String × Value)} {ids ids' : Ids} {b : Block}
    (h : Block.parse (.object fields) ids = .ok (b, ids')) :
    ∃ given id mid, Parse.given (.object fields) = .ok given ∧
      Parse.id given mid = .ok (id, ids') ∧ b.id? = some id ∧
      (b.kind? ≠ some .loop ∧ mid = ids ∨
        ∃ times body, b = .loop id times body ∧
          Script.parseChildren fields ids = .ok (body, mid)) := by
  simp only [Block.parse, Parse.bind_eq_ok, Parse.lift_eq_ok] at h
  obtain ⟨k, _, ⟨-, rfl⟩, params, _, ⟨-, rfl⟩, given, _, ⟨hgiven, rfl⟩, h⟩ := h
  cases k with
  | move | turn =>
    simp only [Parse.bind_eq_ok, Parse.lift_eq_ok, Parse.pure_eq_ok] at h
    obtain ⟨_, _, ⟨-, rfl⟩, id, _, hid, rfl, rfl⟩ := h
    exact ⟨given, id, _, hgiven, hid, rfl, .inl ⟨by simp [Block.kind?], rfl⟩⟩
  | goto | bubble =>
    simp only [Parse.bind_eq_ok, Parse.lift_eq_ok, Parse.pure_eq_ok] at h
    obtain ⟨_, _, ⟨-, rfl⟩, _, _, ⟨-, rfl⟩, id, _, hid, rfl, rfl⟩ := h
    exact ⟨given, id, _, hgiven, hid, rfl, .inl ⟨by simp [Block.kind?], rfl⟩⟩
  | loop =>
    replace h : (do
        let rounds ← liftM (roundsParam params)
        let body ← Script.parseChildren fields
        return Block.loop (← Parse.id given) (.int rounds) body : Parse Block) ids
          = .ok (b, ids') := by
      cases hc : (Value.object fields).field "children" with
      | null | list => rw [hc] at h; exact h
      | _ => rw [hc] at h; cases h
    simp only [Parse.bind_eq_ok, Parse.lift_eq_ok, Parse.pure_eq_ok] at h
    obtain ⟨rounds, _, ⟨-, rfl⟩, body, mid, hbody, id, _, hid, rfl, rfl⟩ := h
    exact ⟨given, id, mid, hgiven, hid, rfl, .inr ⟨_, body, rfl, hbody⟩⟩

theorem Block.form?_plain {b : Block} {k : Kind} {id : String} (hk : b.kind? = some k)
    (hplain : b.kind? ≠ some .loop) (hid : b.id? = some id) :
    b.form? = some (.object (k.describe id b.params)) := by
  cases b with
  | loop => exact absurd rfl hplain
  | unknown => cases hk
  | _ => cases hk; cases hid; rfl

/-! ### What is given out -/

mutual

/-- A block that is accepted is written in the canonical form of what was read. -/
theorem Block.canonical_of_parse : (v : Value) → ∀ {ids ids' : Ids} {b : Block},
    Block.parse v ids = .ok (b, ids') → ∃ form, b.form? = some form ∧ v.canonical ids = (form, ids')
  | .object fields, ids, ids', b, h => by
    obtain ⟨k, houtlines⟩ : ∃ k, (Value.object fields).Outlines k b := by
      cases Block.describes_of_parse _ h with
      | plain houtlines => exact ⟨_, houtlines⟩
      | loop houtlines => exact ⟨_, houtlines⟩
    have htype := houtlines.type
    have hparams := houtlines.canonicalParams
    obtain ⟨given, id, mid, hgiven, hread, hid, hb⟩ := Block.parse_object h
    have hcanonical := Parse.id_eq_canonicalId hgiven hread
    rcases hb with ⟨hplain, rfl⟩ | ⟨times, body, rfl, hbody⟩
    · have hk : k ≠ .loop := fun hk => hplain (hk ▸ houtlines.kind)
      refine ⟨_, Block.form?_plain houtlines.kind hplain hid, ?_⟩
      simp only [Value.canonical, htype, Option.bind_some, Kind.ofName?_name, if_neg hk, hcanonical,
        hparams]
      rfl
    · cases houtlines.kind
      cases hid
      obtain ⟨forms, hforms, hchildren⟩ := Script.canonical_of_parseChildren fields hbody
      refine ⟨_, by rw [Block.form?, hforms]; rfl, ?_⟩
      simp only [Value.canonical, htype, Option.bind_some, Kind.ofName?_name, if_pos, hchildren,
        hcanonical, hparams]
      rfl
  | .null, _, _, _, h | .bool _, _, _, _, h | .int _, _, _, _, h | .float _, _, _, _, h
  | .str _, _, _, _, h | .torn _, _, _, _, h | .list _, _, _, _, h => by
    simp only [Block.parse] at h
    cases h

theorem Script.canonical_of_parseChildren : (fields : List (String × Value)) →
    ∀ {ids ids' : Ids} {s : Script}, Script.parseChildren fields ids = .ok (s, ids') →
    ∃ forms, s.forms? = some forms ∧ Value.canonicalChildren fields ids = (forms, ids')
  | [], _, _, _, h => by
    rw [Script.parseChildren, Parse.pure_eq_ok] at h
    obtain ⟨rfl, rfl⟩ := h
    exact ⟨[], rfl, rfl⟩
  | (name, v) :: rest, _, _, _, h => by
    unfold Script.parseChildren at h
    unfold Value.canonicalChildren
    split at h
    · rename_i hname
      rw [if_pos hname]
      cases v with
      | list items =>
        simp only [Parse.bind_eq_ok, Parse.lift_eq_ok] at h
        obtain ⟨s, _, hs, hchecked, rfl⟩ := h
        obtain ⟨rfl, -⟩ := Script.checked_eq_ok.1 hchecked
        exact Script.canonical_of_parseBlocks items hs
      | _ =>
        rw [Parse.pure_eq_ok] at h
        obtain ⟨rfl, rfl⟩ := h
        exact ⟨[], rfl, rfl⟩
    · rename_i hname
      rw [if_neg hname]
      exact Script.canonical_of_parseChildren rest h

theorem Script.canonical_of_parseBlocks : (items : List Value) →
    ∀ {ids ids' : Ids} {s : Script}, Script.parseBlocks items ids = .ok (s, ids') →
    ∃ forms, s.forms? = some forms ∧ Value.canonicalAll items ids = (forms, ids')
  | [], _, _, _, h => by
    rw [Script.parseBlocks, Parse.pure_eq_ok] at h
    obtain ⟨rfl, rfl⟩ := h
    exact ⟨[], rfl, rfl⟩
  | v :: rest, _, _, _, h => by
    simp only [Script.parseBlocks, Parse.bind_eq_ok, Parse.pure_eq_ok] at h
    obtain ⟨b, mid, hb, s, _, hs, rfl, rfl⟩ := h
    obtain ⟨form, hform, hv⟩ := Block.canonical_of_parse v hb
    obtain ⟨forms, hforms, hrest⟩ := Script.canonical_of_parseBlocks rest hs
    refine ⟨form :: forms, by simp [Script.forms?, hform, hforms], ?_⟩
    simp only [Value.canonicalAll, hv, hrest]

end

theorem Script.canonical_of_parse {raw : List Value} {s : Script} {ids ids' : Ids}
    (h : Script.parse raw ids = .ok (s, ids')) :
    ∃ forms, s.forms? = some forms ∧ Value.canonicalAll raw ids = (forms, ids') := by
  simp only [Script.parse, Parse.bind_eq_ok, Parse.lift_eq_ok] at h
  obtain ⟨t, _, ht, hchecked, rfl⟩ := h
  obtain ⟨rfl, -⟩ := Script.checked_eq_ok.1 hchecked
  exact Script.canonical_of_parseBlocks raw ht

/-- The written form of every script that the reader gives out is the canonical form of what was
read, with the same new identifiers. It is read back as that very script, from any source of
identifiers and without taking one, and it is its own canonical form. -/
theorem Script.round_trip_law {raw : List Value} {s : Script} {ids ids' : Ids}
    (h : Script.parse raw ids = .ok (s, ids')) :
    ∃ forms, s.forms? = some forms ∧ Value.canonicalAll raw ids = (forms, ids') ∧
      ∀ other, Script.parse forms other = .ok (s, other) ∧
        Value.canonicalAll forms other = (forms, other) := by
  obtain ⟨forms, hforms, hcanonical⟩ := Script.canonical_of_parse h
  obtain ⟨hchecked, hcost⟩ := Script.parse_checked h
  refine ⟨forms, hforms, hcanonical, fun other => ?_⟩
  have hback := Script.parse_of_forms hchecked hcost hforms other
  obtain ⟨forms', hforms', hfixed⟩ := Script.canonical_of_parse hback
  cases hforms.symm.trans hforms'
  exact ⟨hback, hfixed⟩

/-- A loop with blanks around its kind, a blank identifier, half a round too many and fields that
mean nothing, around a step that has an identifier and calls itself looks. -/
def Script.sloppy : List Value :=
  [.object [("type", .str " repeat "), ("id", .str "  "), ("category", .str "motion"),
    ("params", .object [("speed", .int 1), ("times", .float 2.5)]),
    ("children", .list [.object [("type", .str "move"), ("id", .str " step"),
      ("category", .str "looks"), ("params", .object [("steps", .float 1.5)]),
      ("children", .list [])]])]]

/-- The script that it is read as. -/
def Script.tidy : Script := [.loop "block-000000000001" (.int 3) [.move "step" (.float 1.5)]]

theorem Script.round_trip_of_sloppy :
    Script.parse Script.sloppy {} = .ok (Script.tidy, { blocks := 1 }) ∧
    ∃ forms, Script.tidy.forms? = some forms ∧
      Value.canonicalAll Script.sloppy {} = (forms, { blocks := 1 }) ∧
      ∀ other, Script.parse forms other = .ok (Script.tidy, other) ∧
        Value.canonicalAll forms other = (forms, other) := by
  have h : Script.parse Script.sloppy {} = .ok (Script.tidy, { blocks := 1 }) := rfl
  exact ⟨h, Script.round_trip_law h⟩

end SpriteStage
