import SpriteStage.Block.Form
import SpriteStage.Block.Parser
import SpriteStage.Proofs.Double.Whole
import SpriteStage.Proofs.Value.Texts

/-!
# Checked scripts

What the reader of blocks gives out is checked: its identifiers are names, its numbers are finite,
its loops run a whole number of rounds that is not too large, and no list of children costs too
much. The written form of a checked script is read back as that script, without a new identifier,
and only its cost decides whether it is accepted.
-/

namespace SpriteStage

/-- A number that is finite as a double. -/
def Number.IsFinite (n : Number) : Prop := ∃ x, n.toFloat = .ok x ∧ x.isFinite = true

/-- A value that is such a number. -/
def Value.IsNumber (v : Value) : Prop := ∃ n : Number, v = n.toValue ∧ n.IsFinite

/-- A value that is a text, whole or torn. -/
def Value.IsText (v : Value) : Prop := ∃ s, v = .str s ∨ v = .torn s

mutual

/-- A block as the reader gives it out. -/
def Block.Checked : Block → Prop
  | .move id steps => Text.IsName id ∧ steps.IsNumber
  | .turn id degrees => Text.IsName id ∧ degrees.IsNumber
  | .goto id x y => Text.IsName id ∧ x.IsNumber ∧ y.IsNumber
  | .bubble id _ text seconds => Text.IsName id ∧ text.IsText ∧ seconds.IsNumber
  | .loop id times body =>
    Text.IsName id ∧ (∃ n : Nat, times = .int n ∧ n ≤ maxRounds) ∧ Script.Checked body ∧
      Script.cost body ≤ maxCost
  | .unknown => False

/-- A script all of whose blocks are checked. -/
def Script.Checked : Script → Prop
  | [] => True
  | b :: rest => Block.Checked b ∧ Script.Checked rest

end

theorem Script.checked_iff_forall {s : Script} : s.Checked ↔ ∀ b ∈ s, b.Checked := by
  induction s with
  | nil => simp [Checked]
  | cons b s ih => simp [Checked, ih]

namespace Parse

variable {α β : Type} {ids ids' : Ids}

theorem bind_eq_ok {x : Parse α} {f : α → Parse β} {b : β} :
    (x >>= f) ids = .ok (b, ids') ↔ ∃ a mid, x ids = .ok (a, mid) ∧ f a mid = .ok (b, ids') := by
  change (x ids >>= fun p => f p.1 p.2) = _ ↔ _
  cases h : x ids with
  | error e => simp [bind, Except.bind]
  | ok p =>
    change f p.1 p.2 = _ ↔ _
    constructor
    · exact fun h => ⟨p.1, p.2, rfl, h⟩
    · rintro ⟨a, mid, h, hf⟩
      cases h
      exact hf

theorem lift_eq_ok {e : Except BlockError α} {a : α} :
    (liftM e : Parse α) ids = .ok (a, ids') ↔ e = .ok a ∧ ids = ids' := by
  cases e with
  | error e => simp [liftM, monadLift, MonadLift.monadLift, StateT.lift, bind, Except.bind]
  | ok b =>
    simp [liftM, monadLift, MonadLift.monadLift, StateT.lift, bind, Except.bind, pure, Except.pure]

theorem pure_eq_ok {a b : α} : (pure a : Parse α) ids = .ok (b, ids') ↔ a = b ∧ ids = ids' := by
  simp [pure, StateT.pure, Except.pure]

end Parse

/-! ### Parameters -/

theorem Kind.numberParam_eq_ok {k : Kind} {params : Value} {name : String} {n : Number} :
    k.numberParam params name = .ok n ↔
      (∃ v, params.field? name = some v ∧ Number.ofValue? v = some n) ∧ n.IsFinite := by
  constructor
  · intro h
    unfold Kind.numberParam at h
    split at h
    · rename_i v hv
      split at h
      · rename_i m hm
        split at h
        · rename_i x hx
          split at h
          · rename_i hfin
            cases h
            exact ⟨⟨v, hv, hm⟩, x, hx, hfin⟩
          · cases h
        · cases h
      · cases h
    · cases h
  · rintro ⟨⟨v, hv, hn⟩, x, hx, hfin⟩
    simp only [Kind.numberParam, hv, hn, hx, if_pos hfin]
    rfl

theorem Kind.textParam_eq_ok {k : Kind} {params : Value} {name : String} {v : Value} :
    k.textParam params name = .ok v ↔ params.field? name = some v ∧ v.IsText := by
  constructor
  · intro h
    unfold Kind.textParam at h
    split at h
    · rename_i w hw
      split at h
      · cases h
        exact ⟨hw, _, .inl rfl⟩
      · cases h
        exact ⟨hw, _, .inr rfl⟩
      · cases h
    · cases h
  · rintro ⟨hv, s, rfl | rfl⟩ <;> simp only [Kind.textParam, hv] <;> rfl

/-- The rounds of a loop are not too many, also if they were rounded up. -/
theorem roundsParam_le {params : Value} {n : Nat} (h : roundsParam params = .ok n) :
    n ≤ maxRounds := by
  unfold roundsParam at h
  cases hn : Kind.loop.numberParam params "times" with
  | error e => rw [hn] at h; cases h
  | ok m =>
    obtain ⟨-, x, hx, hfin⟩ := Kind.numberParam_eq_ok.1 hn
    rw [hn] at h
    simp only [bind, Except.bind] at h
    split at h
    · cases h
    · rename_i hle
      cases m with
      | int m =>
        cases h
        simp only [Number.lt, decide_eq_true_eq] at hle
        omega
      | float y =>
        cases h
        cases hx
        obtain ⟨q, hq⟩ := Double.exists_rational? hfin
        simp only [Number.lt, hq, decide_eq_true_eq, Rat.not_lt] at hle
        have hceil := Rat.ceil_le_iff.2 hle
        simp only [Double.ceil?, hq, Option.map_some, Option.getD_some]
        omega

theorem Parse.given_eq_ok {raw : Value} {given : String} :
    Parse.given raw = .ok given ↔ (raw.field "id").trimmed? = some given := by
  unfold Parse.given
  split <;> simp_all

theorem Parse.isName_id {raw : Value} {given id : String} {ids ids' : Ids}
    (hgiven : Parse.given raw = .ok given) (h : Parse.id given ids = .ok (id, ids')) :
    Text.IsName id := by
  unfold Parse.id at h
  split at h
  · cases h
    exact Text.isName_label (by decide) _
  · rename_i hne
    cases h
    exact Value.isName_trimmed (Parse.given_eq_ok.1 hgiven) (Bool.eq_false_iff.2 hne)

theorem Parse.id_given {given : String} (h : Text.IsName given) (ids : Ids) :
    Parse.id given ids = .ok (given, ids) := if_neg (by simpa using h.nonempty)

theorem Parse.given_str {raw : Value} {id : String} (hraw : raw.field "id" = .str id)
    (hid : Text.IsName id) : Parse.given raw = .ok id :=
  Parse.given_eq_ok.2 (hraw ▸ Value.trimmed?_str hid)

theorem Script.checked_eq_ok {s t : Script} :
    Script.checked s = .ok t ↔ s = t ∧ s.cost ≤ maxCost := by
  unfold Script.checked
  split <;> simp <;> omega

/-! ### What the reader gives out -/

mutual

theorem Block.parse_checked : (v : Value) → ∀ {ids ids' : Ids} {b : Block},
    Block.parse v ids = .ok (b, ids') → b.Checked
  | .object fields, ids, ids', b, h => by
    simp only [Block.parse, Parse.bind_eq_ok, Parse.lift_eq_ok] at h
    obtain ⟨k, _, ⟨-, rfl⟩, params, _, ⟨-, rfl⟩, given, _, ⟨hgiven, rfl⟩, h⟩ := h
    cases k with
    | move | turn =>
      simp only [Parse.bind_eq_ok, Parse.lift_eq_ok, Parse.pure_eq_ok] at h
      obtain ⟨n, _, ⟨hn, -⟩, id, _, hid, rfl, -⟩ := h
      exact ⟨Parse.isName_id hgiven hid, n, rfl, (Kind.numberParam_eq_ok.1 hn).2⟩
    | goto =>
      simp only [Parse.bind_eq_ok, Parse.lift_eq_ok, Parse.pure_eq_ok] at h
      obtain ⟨x, _, ⟨hx, -⟩, y, _, ⟨hy, -⟩, id, _, hid, rfl, -⟩ := h
      exact ⟨Parse.isName_id hgiven hid, ⟨x, rfl, (Kind.numberParam_eq_ok.1 hx).2⟩,
        y, rfl, (Kind.numberParam_eq_ok.1 hy).2⟩
    | bubble b =>
      simp only [Parse.bind_eq_ok, Parse.lift_eq_ok, Parse.pure_eq_ok] at h
      obtain ⟨text, _, ⟨htext, -⟩, n, _, ⟨hn, -⟩, id, _, hid, rfl, -⟩ := h
      exact ⟨Parse.isName_id hgiven hid, (Kind.textParam_eq_ok.1 htext).2, n, rfl,
        (Kind.numberParam_eq_ok.1 hn).2⟩
    | loop =>
      have loop (h : (do
          let rounds ← liftM (roundsParam params)
          let body ← Script.parseChildren fields
          return Block.loop (← Parse.id given) (.int rounds) body : Parse Block) ids
            = .ok (b, ids')) : b.Checked := by
        simp only [Parse.bind_eq_ok, Parse.lift_eq_ok, Parse.pure_eq_ok] at h
        obtain ⟨n, _, ⟨hn, -⟩, body, _, hbody, id, _, hid, rfl, -⟩ := h
        exact ⟨Parse.isName_id hgiven hid, ⟨n, rfl, roundsParam_le hn⟩,
          Script.parseChildren_checked fields hbody⟩
      cases hc : (Value.object fields).field "children" with
      | null | list => rw [hc] at h; exact loop h
      | _ => rw [hc] at h; cases h
  | .null, _, _, _, h | .bool _, _, _, _, h | .int _, _, _, _, h | .float _, _, _, _, h
  | .str _, _, _, _, h | .torn _, _, _, _, h | .list _, _, _, _, h => by
    simp only [Block.parse] at h
    cases h

theorem Script.parseChildren_checked : (fields : List (String × Value)) →
    ∀ {ids ids' : Ids} {s : Script},
    Script.parseChildren fields ids = .ok (s, ids') → s.Checked ∧ s.cost ≤ maxCost
  | [], _, _, _, h => by
    rw [Script.parseChildren, Parse.pure_eq_ok] at h
    obtain ⟨rfl, -⟩ := h
    exact ⟨trivial, Nat.zero_le _⟩
  | (name, v) :: rest, _, _, _, h => by
    unfold Script.parseChildren at h
    split at h
    · split at h
      · rename_i items
        simp only [Parse.bind_eq_ok, Parse.lift_eq_ok] at h
        obtain ⟨s, _, hs, hchecked, -⟩ := h
        obtain ⟨rfl, hcost⟩ := Script.checked_eq_ok.1 hchecked
        exact ⟨Script.parseBlocks_checked items hs, hcost⟩
      · rw [Parse.pure_eq_ok] at h
        obtain ⟨rfl, -⟩ := h
        exact ⟨trivial, Nat.zero_le _⟩
    · exact Script.parseChildren_checked rest h

theorem Script.parseBlocks_checked : (items : List Value) → ∀ {ids ids' : Ids} {s : Script},
    Script.parseBlocks items ids = .ok (s, ids') → s.Checked
  | [], _, _, _, h => by
    rw [Script.parseBlocks, Parse.pure_eq_ok] at h
    obtain ⟨rfl, -⟩ := h
    trivial
  | v :: rest, _, _, _, h => by
    simp only [Script.parseBlocks, Parse.bind_eq_ok, Parse.pure_eq_ok] at h
    obtain ⟨b, _, hb, s, _, hs, rfl, -⟩ := h
    exact ⟨Block.parse_checked v hb, Script.parseBlocks_checked rest hs⟩

end

theorem Script.parse_checked {raw : List Value} {ids ids' : Ids} {s : Script}
    (h : Script.parse raw ids = .ok (s, ids')) : s.Checked ∧ s.cost ≤ maxCost := by
  simp only [Script.parse, Parse.bind_eq_ok, Parse.lift_eq_ok] at h
  obtain ⟨t, _, ht, hchecked, -⟩ := h
  obtain ⟨rfl, hcost⟩ := Script.checked_eq_ok.1 hchecked
  exact ⟨Script.parseBlocks_checked raw ht, hcost⟩

/-! ### Reading the written form -/

theorem Kind.ofBlock_named {raw : Value} {k : Kind} (h : raw.field "type" = .str k.name) :
    Kind.ofBlock raw = .ok k := by
  have htrim : (raw.field "type").trimmed? = some k.name := by
    rw [h]
    cases k with
    | bubble b => cases b <;> decide
    | _ => decide
  simp only [Kind.ofBlock, htrim, Kind.ofName?_name]
  rfl

theorem Kind.paramsOf_object {k : Kind} {raw : Value} {params : List (String × Value)}
    (h : raw.field "params" = .object params) : k.paramsOf raw = .ok (.object params) := by
  simp [Kind.paramsOf, h]

theorem Kind.numberParam_toValue {k : Kind} {params : Value} {name : String} {n : Number}
    (h : params.field? name = some n.toValue) (hn : n.IsFinite) :
    k.numberParam params name = .ok n :=
  Kind.numberParam_eq_ok.2 ⟨⟨_, h, Number.ofValue?_toValue n⟩, hn⟩

theorem Number.isFinite_natCast {n : Nat} (hn : n < 2 ^ 53) : (Number.int n).IsFinite :=
  ⟨_, by rw [Number.toFloat, Double.ofInt?_natCast hn], Double.isFinite_nearest hn⟩

theorem roundsParam_natCast {params : Value} {n : Nat} (h : params.field? "times" = some (.int n))
    (hn : n ≤ maxRounds) : roundsParam params = .ok n := by
  have hfinite := Number.isFinite_natCast (Nat.lt_of_le_of_lt hn (by decide : maxRounds < 2 ^ 53))
  have hle : ¬(Number.int maxRounds).lt (.int n) = true := by
    simp only [Number.lt, decide_eq_true_eq]
    omega
  rw [roundsParam, Kind.numberParam_toValue (n := .int n) h hfinite]
  simp only [bind, Except.bind, if_neg hle]
  rfl

mutual

/-- A checked block has a written form, which is read back as that block. -/
theorem Block.parse_form : (b : Block) → b.Checked →
    ∃ v, b.form? = some v ∧ ∀ ids, Block.parse v ids = .ok (b, ids)
  | .move id _, ⟨hid, n, rfl, hn⟩ => by
    refine ⟨_, rfl, fun ids => ?_⟩
    simp only [Kind.describe, Block.parse, Parse.bind_eq_ok, Parse.lift_eq_ok]
    refine ⟨.move, _, ⟨Kind.ofBlock_named rfl, rfl⟩, _, _, ⟨Kind.paramsOf_object rfl, rfl⟩, id, _,
      ⟨Parse.given_str rfl hid, rfl⟩, ?_⟩
    simp only [Parse.bind_eq_ok, Parse.lift_eq_ok, Parse.pure_eq_ok]
    exact ⟨n, _, ⟨Kind.numberParam_toValue rfl hn, rfl⟩, id, _, Parse.id_given hid _, rfl, rfl⟩
  | .turn id _, ⟨hid, n, rfl, hn⟩ => by
    refine ⟨_, rfl, fun ids => ?_⟩
    simp only [Kind.describe, Block.parse, Parse.bind_eq_ok, Parse.lift_eq_ok]
    refine ⟨.turn, _, ⟨Kind.ofBlock_named rfl, rfl⟩, _, _, ⟨Kind.paramsOf_object rfl, rfl⟩, id, _,
      ⟨Parse.given_str rfl hid, rfl⟩, ?_⟩
    simp only [Parse.bind_eq_ok, Parse.lift_eq_ok, Parse.pure_eq_ok]
    exact ⟨n, _, ⟨Kind.numberParam_toValue rfl hn, rfl⟩, id, _, Parse.id_given hid _, rfl, rfl⟩
  | .goto id _ _, ⟨hid, ⟨x, rfl, hx⟩, y, rfl, hy⟩ => by
    refine ⟨_, rfl, fun ids => ?_⟩
    simp only [Kind.describe, Block.parse, Parse.bind_eq_ok, Parse.lift_eq_ok]
    refine ⟨.goto, _, ⟨Kind.ofBlock_named rfl, rfl⟩, _, _, ⟨Kind.paramsOf_object rfl, rfl⟩, id, _,
      ⟨Parse.given_str rfl hid, rfl⟩, ?_⟩
    simp only [Parse.bind_eq_ok, Parse.lift_eq_ok, Parse.pure_eq_ok]
    exact ⟨x, _, ⟨Kind.numberParam_toValue rfl hx, rfl⟩, y, _,
      ⟨Kind.numberParam_toValue rfl hy, rfl⟩, id, _, Parse.id_given hid _, rfl, rfl⟩
  | .bubble id b text _, ⟨hid, htext, n, rfl, hn⟩ => by
    refine ⟨_, rfl, fun ids => ?_⟩
    simp only [Kind.describe, Block.parse, Parse.bind_eq_ok, Parse.lift_eq_ok]
    refine ⟨.bubble b, _, ⟨Kind.ofBlock_named rfl, rfl⟩, _, _, ⟨Kind.paramsOf_object rfl, rfl⟩, id,
      _, ⟨Parse.given_str rfl hid, rfl⟩, ?_⟩
    simp only [Parse.bind_eq_ok, Parse.lift_eq_ok, Parse.pure_eq_ok]
    exact ⟨text, _, ⟨Kind.textParam_eq_ok.2 ⟨rfl, htext⟩, rfl⟩, n, _,
      ⟨Kind.numberParam_toValue rfl hn, rfl⟩, id, _, Parse.id_given hid _, rfl, rfl⟩
  | .loop id _ body, ⟨hid, ⟨n, rfl, hn⟩, hbody, hcost⟩ => by
    obtain ⟨vs, hvs, hparse⟩ := Script.parse_forms body hbody
    have hchildren (ids : Ids) : Script.parseChildren
        (Kind.describe .loop id [("times", .int n)] ++ [("children", .list vs)]) ids
          = .ok (body, ids) := by
      simp only [Kind.describe, List.cons_append, List.nil_append, Script.parseChildren]
      exact Parse.bind_eq_ok.2 ⟨body, ids, hparse ids,
        Parse.lift_eq_ok.2 ⟨Script.checked_eq_ok.2 ⟨rfl, hcost⟩, rfl⟩⟩
    refine ⟨_, by rw [Block.form?, hvs]; rfl, fun ids => ?_⟩
    simp only [Block.parse, Parse.bind_eq_ok, Parse.lift_eq_ok]
    refine ⟨.loop, _, ⟨Kind.ofBlock_named rfl, rfl⟩, _, _, ⟨Kind.paramsOf_object rfl, rfl⟩, id, _,
      ⟨Parse.given_str rfl hid, rfl⟩, ?_⟩
    exact Parse.bind_eq_ok.2 ⟨n, _, Parse.lift_eq_ok.2 ⟨roundsParam_natCast rfl hn, rfl⟩,
      Parse.bind_eq_ok.2 ⟨body, _, hchildren _,
        Parse.bind_eq_ok.2 ⟨id, _, Parse.id_given hid _, rfl⟩⟩⟩

theorem Script.parse_forms : (s : Script) → s.Checked →
    ∃ vs, s.forms? = some vs ∧ ∀ ids, Script.parseBlocks vs ids = .ok (s, ids)
  | [], _ => ⟨[], rfl, fun _ => rfl⟩
  | b :: rest, ⟨hb, hrest⟩ => by
    obtain ⟨v, hv, hparse⟩ := Block.parse_form b hb
    obtain ⟨vs, hvs, hparses⟩ := Script.parse_forms rest hrest
    refine ⟨v :: vs, by simp [Script.forms?, hv, hvs], fun ids => ?_⟩
    simp only [Script.parseBlocks, Parse.bind_eq_ok, Parse.pure_eq_ok]
    exact ⟨b, ids, hparse ids, rest, ids, hparses ids, rfl, rfl⟩

end

theorem Script.parse_eq {raw : List Value} {s : Script} {ids ids' : Ids}
    (h : Script.parseBlocks raw ids = .ok (s, ids')) : Script.parse raw ids =
      if maxCost < s.cost then .error (.tooCostly s.cost) else .ok (s, ids') := by
  change (Script.parseBlocks raw ids >>= fun p => (liftM (Script.checked p.1) : Parse Script) p.2)
    = _
  rw [h]
  change (liftM (Script.checked s) : Parse Script) ids' = _
  unfold Script.checked
  split <;> rfl

/-- A checked script has a written form, and the reader of scripts gives that script back unless it
costs too much. -/
theorem Script.parse_written {s : Script} (h : s.Checked) :
    ∃ forms, s.forms? = some forms ∧ ∀ ids, Script.parse forms ids =
      if maxCost < s.cost then .error (.tooCostly s.cost) else .ok (s, ids) := by
  obtain ⟨forms, hforms, hparse⟩ := Script.parse_forms s h
  exact ⟨forms, hforms, fun ids => Script.parse_eq (hparse ids)⟩

theorem Script.parse_of_forms {s : Script} {forms : List Value} (h : s.Checked)
    (hcost : s.cost ≤ maxCost) (hforms : s.forms? = some forms) (ids : Ids) :
    Script.parse forms ids = .ok (s, ids) := by
  obtain ⟨forms', hforms', hparse⟩ := Script.parse_written h
  cases hforms.symm.trans hforms'
  rw [hparse, if_neg (by omega)]

/-- Whether a script is one that the reader gives out for some list of values. -/
def Script.Authored (s : Script) : Prop := ∃ raw ids ids', Script.parse raw ids = .ok (s, ids')

theorem Script.authored_iff {s : Script} : s.Authored ↔ s.Checked ∧ s.cost ≤ maxCost := by
  constructor
  · rintro ⟨raw, ids, ids', h⟩
    exact Script.parse_checked h
  · rintro ⟨hs, hcost⟩
    obtain ⟨forms, hforms, -⟩ := Script.parse_written hs
    exact ⟨forms, {}, {}, Script.parse_of_forms hs hcost hforms {}⟩

end SpriteStage
