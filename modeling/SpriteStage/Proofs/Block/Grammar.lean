import SpriteStage.Proofs.Block.Faults

/-!
# The grammar of blocks

Rules say which values describe which blocks, apart from the reader and from the order in which it
checks. The reader accepts what the rules derive and refuses everything else. It may only choose the
identifiers that are not given; they do not count for the cost, so all scripts that a list describes
cost the same.
-/

namespace SpriteStage

/-- What a number is, taken exactly. -/
def Number.Denotes : Number → Rat → Prop
  | .int n, q => q = n
  | .float x, q => Double.rational? x = some q

/-- A value asks for a number of rounds: it is a number that is not too large, and is rounded up, or
taken as zero if it is negative. -/
def Value.AsksRounds (v : Value) (rounds : Nat) : Prop :=
  ∃ (n : Number) (q : Rat), v = n.toValue ∧ n.IsFinite ∧ n.Denotes q ∧ q ≤ maxRounds ∧
    (rounds : Int) = max 0 q.ceil

/-- A parameter of a sort may be given as a value, and is kept as another. -/
def ParamSort.Takes : ParamSort → Value → Value → Prop
  | .number, given, kept => given.IsNumber ∧ kept = given
  | .text, given, kept => given.IsText ∧ kept = given
  | .count, given, kept => ∃ rounds : Nat, given.AsksRounds rounds ∧ kept = .int rounds

/-- A value is an object that tells the kind, the parameters and, unless it is left out or blank,
the identifier of a block. -/
structure Value.Outlines (v : Value) (k : Kind) (b : Block) : Prop where
  object : ∃ fields, v = .object fields
  type : (v.field "type").trimmed? = some k.name
  kind : b.kind? = some k
  id : ∃ given, (v.field "id").trimmed? = some given ∧ (given ≠ "" → b.id? = some given)
  given : v.field "params" = .null ∨ ∃ fields, v.field "params" = .object fields
  params : List.Forall₂ (fun param kept => param.1 = kept.1 ∧
    ∃ given, (v.field "params").field? param.1 = some given ∧ param.2.Takes given kept.2)
    k.params b.params

/-- The children that a value tells; they may be left out. -/
def Value.Lists (v : Value) (items : List Value) : Prop :=
  v.field "children" = .null ∧ items = [] ∨ v.field "children" = .list items

mutual

/-- A value describes a block. -/
inductive Value.Describes : Value → Block → Prop
  | plain {v : Value} {k : Kind} {b : Block} : v.Outlines k b → k ≠ .loop → v.Describes b
  | loop {v : Value} {id : String} {times : Value} {items : List Value} {body : Script} :
    v.Outlines .loop (.loop id times body) → v.Lists items → Value.DescribeAll items body →
    body.cost ≤ maxCost → v.Describes (.loop id times body)

/-- The members of a list describe the blocks of a script, one by one. -/
inductive Value.DescribeAll : List Value → Script → Prop
  | nil : DescribeAll [] []
  | cons {v : Value} {b : Block} {items : List Value} {script : Script} :
    v.Describes b → DescribeAll items script → DescribeAll (v :: items) (b :: script)

end

/-! ### The parts of a written block -/

theorem Kind.ofName?_eq_some {name : String} {k : Kind} :
    Kind.ofName? name = some k ↔ name = k.name := by
  constructor
  · intro h
    unfold Kind.ofName? at h
    have hname := List.find?_some h
    exact (beq_iff_eq.1 hname).symm
  · rintro rfl
    exact Kind.ofName?_name k

theorem Kind.ofBlock_eq_ok {raw : Value} {k : Kind} :
    Kind.ofBlock raw = .ok k ↔ (raw.field "type").trimmed? = some k.name := by
  unfold Kind.ofBlock
  cases (raw.field "type").trimmed? with
  | none => exact iff_of_false nofun nofun
  | some name =>
    rw [Option.some.injEq, ← Kind.ofName?_eq_some]
    dsimp only
    cases Kind.ofName? name with
    | none => exact iff_of_false nofun nofun
    | some k' => simp [pure, Except.pure]

theorem Kind.paramsOf_eq_ok {k : Kind} {raw params : Value} :
    k.paramsOf raw = .ok params ↔
      raw.field "params" = .null ∧ params = .object [] ∨
      ∃ fields, raw.field "params" = .object fields ∧ params = .object fields := by
  unfold Kind.paramsOf
  cases raw.field "params" <;> simp [eq_comm]

/-- A parameter is found in the parameters that are read, also if they were left out. -/
theorem Kind.field?_of_paramsOf {k : Kind} {raw params : Value} (h : k.paramsOf raw = .ok params)
    (name : String) : params.field? name = (raw.field "params").field? name := by
  rcases Kind.paramsOf_eq_ok.1 h with ⟨hraw, rfl⟩ | ⟨fields, hraw, rfl⟩ <;> rw [hraw]
  rfl

theorem Number.toValue_injective {m n : Number} (h : m.toValue = n.toValue) : m = n := by
  have := congrArg Number.ofValue? h
  rwa [Number.ofValue?_toValue, Number.ofValue?_toValue, Option.some.injEq] at this

theorem Number.ofValue?_eq_some {v : Value} {n : Number} :
    Number.ofValue? v = some n ↔ v = n.toValue := by
  constructor
  · intro h
    cases v <;> cases h <;> rfl
  · rintro rfl
    exact Number.ofValue?_toValue n

theorem Kind.numberParam_takes {k : Kind} {params : Value} {name : String} {n : Number} :
    k.numberParam params name = .ok n ↔
      ∃ given, params.field? name = some given ∧ ParamSort.number.Takes given n.toValue := by
  rw [Kind.numberParam_eq_ok]
  constructor
  · rintro ⟨⟨v, hv, hn⟩, hfinite⟩
    rw [Number.ofValue?_eq_some] at hn
    exact ⟨v, hv, ⟨n, hn, hfinite⟩, hn.symm⟩
  · rintro ⟨v, hv, ⟨m, rfl, hfinite⟩, hn⟩
    obtain rfl := Number.toValue_injective hn
    exact ⟨⟨_, hv, Number.ofValue?_toValue n⟩, hfinite⟩

theorem Kind.exists_numberParam (k : Kind) {params kept : Value} {name : String}
    (h : ∃ given, params.field? name = some given ∧ ParamSort.number.Takes given kept) :
    ∃ n : Number, kept = n.toValue ∧ k.numberParam params name = .ok n := by
  have ⟨_, _, ⟨n, hn, _⟩, heq⟩ := h
  obtain rfl : kept = n.toValue := heq.trans hn
  exact ⟨n, rfl, Kind.numberParam_takes.2 h⟩

theorem Kind.textParam_takes {k : Kind} {params : Value} {name : String} {v : Value} :
    k.textParam params name = .ok v ↔
      ∃ given, params.field? name = some given ∧ ParamSort.text.Takes given v := by
  rw [Kind.textParam_eq_ok]
  constructor
  · rintro ⟨hv, htext⟩
    exact ⟨v, hv, htext, rfl⟩
  · rintro ⟨_, hv, htext, rfl⟩
    exact ⟨hv, htext⟩

/-- A number of rounds is not too large if it is not when taken exactly. -/
theorem Number.Denotes.rounds_le {n : Number} {q : Rat} (h : n.Denotes q) :
    (Number.int maxRounds).lt n = false ↔ q ≤ maxRounds := by
  cases n with
  | int m =>
    obtain rfl : q = m := h
    simp only [Number.lt, decide_eq_false_iff_not, Int.not_lt]
    exact_mod_cast Iff.rfl
  | float x =>
    have hq : Double.rational? x = some q := h
    simp only [Number.lt, hq, decide_eq_false_iff_not, Rat.not_lt]
    exact_mod_cast Iff.rfl

theorem Number.IsFinite.exists_denotes {n : Number} (h : n.IsFinite) : ∃ q, n.Denotes q := by
  cases n with
  | int m => exact ⟨m, rfl⟩
  | float x =>
    obtain ⟨y, hy, hfinite⟩ := h
    cases hy
    exact Double.exists_rational? hfinite

/-- The rounds of a loop that is asked for a number of them. -/
def Number.roundsUp : Number → Nat
  | .int n => n.toNat
  | .float x => ((Double.ceil? x).getD 0).toNat

theorem Number.Denotes.roundsUp {n : Number} {q : Rat} (h : n.Denotes q) :
    (n.roundsUp : Int) = max 0 q.ceil := by
  cases n with
  | int m =>
    obtain rfl : q = m := h
    rw [Number.roundsUp, Rat.ceil_intCast]
    omega
  | float x =>
    have hq : Double.rational? x = some q := h
    rw [Number.roundsUp, Double.ceil?, hq, Option.map_some, Option.getD_some]
    omega

theorem roundsParam_eq {params : Value} {n : Number}
    (h : Kind.loop.numberParam params "times" = .ok n) :
    roundsParam params =
      if (Number.int maxRounds).lt n then .error .tooManyRounds else .ok n.roundsUp := by
  rw [roundsParam, h]
  cases n <;> (simp only [bind, Except.bind]; split <;> rfl)

theorem roundsParam_eq_ok {params : Value} {rounds : Nat} :
    roundsParam params = .ok rounds ↔
      ∃ given, params.field? "times" = some given ∧ given.AsksRounds rounds := by
  constructor
  · intro h
    cases hn : Kind.loop.numberParam params "times" with
    | error e =>
      rw [roundsParam, hn] at h
      cases h
    | ok n =>
      obtain ⟨given, hgiven, ⟨m, rfl, hfinite⟩, heq⟩ := Kind.numberParam_takes.1 hn
      obtain rfl := Number.toValue_injective heq
      obtain ⟨q, hq⟩ := hfinite.exists_denotes
      rw [roundsParam_eq hn] at h
      split at h
      · cases h
      · rename_i hle
        cases h
        exact ⟨_, hgiven, n, q, rfl, hfinite, hq, hq.rounds_le.1 (Bool.eq_false_iff.2 hle),
          hq.roundsUp⟩
  · rintro ⟨given, hgiven, n, q, rfl, hfinite, hq, hle, hrounds⟩
    have hn : Kind.loop.numberParam params "times" = .ok n :=
      Kind.numberParam_takes.2 ⟨_, hgiven, ⟨n, rfl, hfinite⟩, rfl⟩
    rw [roundsParam_eq hn, hq.rounds_le.2 hle, if_neg Bool.false_ne_true]
    have := hq.roundsUp
    congr 1
    omega

/-! ### What the reader accepts is described -/

theorem Parse.id_eq_ok {given id : String} {ids ids' : Ids}
    (h : Parse.id given ids = .ok (id, ids')) (hgiven : given ≠ "") : id = given := by
  rw [Parse.id, if_neg (by simpa using hgiven)] at h
  cases h
  rfl

mutual

theorem Block.describes_of_parse : (v : Value) → ∀ {ids ids' : Ids} {b : Block},
    Block.parse v ids = .ok (b, ids') → v.Describes b
  | .object fields, ids, ids', b, h => by
    simp only [Block.parse, Parse.bind_eq_ok, Parse.lift_eq_ok] at h
    obtain ⟨k, _, ⟨hkind, rfl⟩, params, _, ⟨hparams, rfl⟩, given, _, ⟨hid, rfl⟩, h⟩ := h
    have hfield := Kind.field?_of_paramsOf hparams
    have hgiven : (Value.object fields).field "params" = .null ∨
        ∃ ps, (Value.object fields).field "params" = .object ps :=
      (Kind.paramsOf_eq_ok.1 hparams).imp And.left fun ⟨ps, hps, _⟩ => ⟨ps, hps⟩
    have outlines {b : Block} {id : String} {mid : Ids} (hk : b.kind? = some k)
        (hb : b.id? = some id) (hread : Parse.id given mid = .ok (id, ids'))
        (hall : List.Forall₂ (fun param kept => param.1 = kept.1 ∧
          ∃ given, params.field? param.1 = some given ∧ param.2.Takes given kept.2)
          k.params b.params) : (Value.object fields).Outlines k b :=
      ⟨⟨fields, rfl⟩, Kind.ofBlock_eq_ok.1 hkind, hk,
        ⟨given, Parse.given_eq_ok.1 hid,
          fun hne => hb.trans (congrArg some (Parse.id_eq_ok hread hne))⟩, hgiven,
        by simpa only [hfield] using hall⟩
    cases k with
    | move | turn =>
      simp only [Parse.bind_eq_ok, Parse.lift_eq_ok, Parse.pure_eq_ok] at h
      obtain ⟨n, _, ⟨hn, -⟩, id, _, hid, rfl, rfl⟩ := h
      exact .plain (outlines rfl rfl hid (.cons ⟨rfl, Kind.numberParam_takes.1 hn⟩ .nil)) nofun
    | goto =>
      simp only [Parse.bind_eq_ok, Parse.lift_eq_ok, Parse.pure_eq_ok] at h
      obtain ⟨x, _, ⟨hx, -⟩, y, _, ⟨hy, -⟩, id, _, hid, rfl, rfl⟩ := h
      exact .plain (outlines rfl rfl hid (.cons ⟨rfl, Kind.numberParam_takes.1 hx⟩
        (.cons ⟨rfl, Kind.numberParam_takes.1 hy⟩ .nil))) nofun
    | bubble b =>
      simp only [Parse.bind_eq_ok, Parse.lift_eq_ok, Parse.pure_eq_ok] at h
      obtain ⟨text, _, ⟨htext, -⟩, n, _, ⟨hn, -⟩, id, _, hid, rfl, rfl⟩ := h
      exact .plain (outlines rfl rfl hid (.cons ⟨rfl, Kind.textParam_takes.1 htext⟩
        (.cons ⟨rfl, Kind.numberParam_takes.1 hn⟩ .nil))) nofun
    | loop =>
      have loop (hc : (Value.object fields).field "children" = .null ∨
            ∃ items, (Value.object fields).field "children" = .list items)
          (h : (do
            let rounds ← liftM (roundsParam params)
            let body ← Script.parseChildren fields
            return Block.loop (← Parse.id given) (.int rounds) body : Parse Block) ids
              = .ok (b, ids')) : (Value.object fields).Describes b := by
        simp only [Parse.bind_eq_ok, Parse.lift_eq_ok, Parse.pure_eq_ok] at h
        obtain ⟨n, _, ⟨hn, -⟩, body, _, hbody, id, _, hid, rfl, rfl⟩ := h
        obtain ⟨given, hgivenTimes, hasks⟩ := roundsParam_eq_ok.1 hn
        obtain ⟨items, hitems, hall, hcost⟩ := Script.describeAll_of_parseChildren fields hc hbody
        exact .loop (outlines rfl rfl hid (.cons ⟨rfl, given, hgivenTimes, n, hasks, rfl⟩ .nil))
          hitems hall hcost
      cases hc : (Value.object fields).field "children" with
      | null => rw [hc] at h; exact loop (.inl hc) h
      | list items => rw [hc] at h; exact loop (.inr ⟨items, hc⟩) h
      | _ => rw [hc] at h; cases h
  | .null, _, _, _, h | .bool _, _, _, _, h | .int _, _, _, _, h | .float _, _, _, _, h
  | .str _, _, _, _, h | .torn _, _, _, _, h | .list _, _, _, _, h => by
    simp only [Block.parse] at h
    cases h

theorem Script.describeAll_of_parseChildren : (fields : List (String × Value)) →
    ∀ {ids ids' : Ids} {s : Script},
    ((Value.object fields).field "children" = .null ∨
      ∃ items, (Value.object fields).field "children" = .list items) →
    Script.parseChildren fields ids = .ok (s, ids') →
    ∃ items, (Value.object fields).Lists items ∧ Value.DescribeAll items s ∧ s.cost ≤ maxCost
  | [], _, _, _, _, h => by
    rw [Script.parseChildren, Parse.pure_eq_ok] at h
    obtain ⟨rfl, -⟩ := h
    exact ⟨[], .inl ⟨rfl, rfl⟩, .nil, Nat.zero_le _⟩
  | (name, v) :: rest, _, _, _, hc, h => by
    have hfield : (Value.object ((name, v) :: rest)).field "children" =
        if "children" == name then v else (Value.object rest).field "children" := by
      rw [Value.field, Value.field?, List.lookup_cons]
      cases "children" == name <;> rfl
    unfold Script.parseChildren at h
    unfold Value.Lists
    split at h
    · rename_i hname
      rw [if_pos hname] at hfield
      rw [hfield] at hc ⊢
      split at h
      · rename_i items
        simp only [Parse.bind_eq_ok, Parse.lift_eq_ok] at h
        obtain ⟨s, _, hs, hchecked, -⟩ := h
        obtain ⟨rfl, hcost⟩ := Script.checked_eq_ok.1 hchecked
        exact ⟨items, .inr rfl, Script.describeAll_of_parseBlocks items hs, hcost⟩
      · rename_i hno
        rw [Parse.pure_eq_ok] at h
        obtain ⟨rfl, -⟩ := h
        rcases hc with rfl | ⟨items, rfl⟩
        · exact ⟨[], .inl ⟨rfl, rfl⟩, .nil, Nat.zero_le _⟩
        · exact absurd rfl (hno items)
    · rename_i hname
      rw [if_neg hname] at hfield
      rw [hfield] at hc ⊢
      exact Script.describeAll_of_parseChildren rest hc h

theorem Script.describeAll_of_parseBlocks : (items : List Value) → ∀ {ids ids' : Ids} {s : Script},
    Script.parseBlocks items ids = .ok (s, ids') → Value.DescribeAll items s
  | [], _, _, _, h => by
    rw [Script.parseBlocks, Parse.pure_eq_ok] at h
    obtain ⟨rfl, -⟩ := h
    exact .nil
  | v :: rest, _, _, _, h => by
    simp only [Script.parseBlocks, Parse.bind_eq_ok, Parse.pure_eq_ok] at h
    obtain ⟨b, _, hb, s, _, hs, rfl, -⟩ := h
    exact .cons (Block.describes_of_parse v hb) (Script.describeAll_of_parseBlocks rest hs)

end

/-! ### What is described is accepted -/

theorem Parse.exists_id (given : String) (ids : Ids) : ∃ p, Parse.id given ids = .ok p := by
  unfold Parse.id
  split <;> exact ⟨_, rfl⟩

theorem Value.Outlines.exists_params {v : Value} {k : Kind} {b : Block} (h : v.Outlines k b) :
    ∃ params, k.paramsOf v = .ok params ∧
      List.Forall₂ (fun param kept => param.1 = kept.1 ∧
        ∃ given, params.field? param.1 = some given ∧ param.2.Takes given kept.2)
        k.params b.params := by
  have hparams : ∃ params, k.paramsOf v = .ok params := by
    rcases h.given with hnull | ⟨fields, hfields⟩
    · exact ⟨_, Kind.paramsOf_eq_ok.2 (.inl ⟨hnull, rfl⟩)⟩
    · exact ⟨_, Kind.paramsOf_eq_ok.2 (.inr ⟨fields, hfields, rfl⟩)⟩
  obtain ⟨params, hparams⟩ := hparams
  refine ⟨params, hparams, ?_⟩
  simpa only [Kind.field?_of_paramsOf hparams] using h.params

/-- The children are told by the first field of that name. -/
theorem Value.Lists.of_cons {name : String} {v : Value} {rest : List (String × Value)}
    {items : List Value} (h : (Value.object ((name, v) :: rest)).Lists items) :
    ("children" == name) = true ∧ (v = .null ∧ items = [] ∨ v = .list items) ∨
      ("children" == name) = false ∧ (Value.object rest).Lists items := by
  unfold Value.Lists at h
  rw [Value.field, Value.field?, List.lookup_cons] at h
  cases hname : "children" == name with
  | true =>
    rw [hname] at h
    exact .inl ⟨rfl, h⟩
  | false =>
    rw [hname] at h
    exact .inr ⟨rfl, h⟩

/-- Children that are read without fault and do not cost too much are the body of their loop. -/
theorem Script.parseChildren_eq_ok {items : List Value} {s : Script} {ids ids' : Ids}
    (h : Script.parseBlocks items ids = .ok (s, ids')) (hcost : s.cost ≤ maxCost) :
    (fields : List (String × Value)) → (Value.object fields).Lists items →
    Script.parseChildren fields ids = .ok (s, ids')
  | [], hitems => by
    obtain ⟨-, rfl⟩ | hlist := hitems
    · exact h
    · cases hlist
  | (name, v) :: rest, hitems => by
    unfold Script.parseChildren
    rcases hitems.of_cons with ⟨hname, ⟨rfl, rfl⟩ | rfl⟩ | ⟨hname, hrest⟩
    · rw [if_pos hname]
      exact h
    · rw [if_pos hname]
      exact Parse.bind_eq_ok.2 ⟨s, ids', h,
        Parse.lift_eq_ok.2 ⟨Script.checked_eq_ok.2 ⟨rfl, hcost⟩, rfl⟩⟩
    · rw [hname]
      exact Script.parseChildren_eq_ok h hcost rest hrest

/-- A value that describes a block without children is accepted. -/
theorem Value.Outlines.parse {v : Value} {k : Kind} {b : Block} (h : v.Outlines k b)
    (hk : k ≠ .loop) (ids : Ids) :
    ∃ b' ids', Block.parse v ids = .ok (b', ids') ∧ b'.cost = b.cost := by
  obtain ⟨params, hparams, hall⟩ := h.exists_params
  obtain ⟨fields, rfl⟩ := h.object
  obtain ⟨given, hgiven, -⟩ := h.id
  obtain ⟨⟨id, ids'⟩, hid⟩ := Parse.exists_id given ids
  have hgiven := Parse.given_eq_ok.2 hgiven
  have hkind := Kind.ofBlock_eq_ok.2 h.type
  cases b with
  | move =>
    cases h.kind
    obtain ⟨⟨-, hsteps⟩, -⟩ := List.forall₂_cons.1 hall
    obtain ⟨n, rfl, hn⟩ := Kind.exists_numberParam .move hsteps
    refine ⟨.move id n.toValue, ids', ?_, rfl⟩
    simp only [Block.parse, Parse.bind_eq_ok, Parse.lift_eq_ok]
    refine ⟨.move, _, ⟨hkind, rfl⟩, params, _, ⟨hparams, rfl⟩, given, _,
      ⟨hgiven, rfl⟩, ?_⟩
    simp only [Parse.bind_eq_ok, Parse.lift_eq_ok, Parse.pure_eq_ok]
    exact ⟨n, _, ⟨hn, rfl⟩, id, _, hid, rfl, rfl⟩
  | turn =>
    cases h.kind
    obtain ⟨⟨-, hdegrees⟩, -⟩ := List.forall₂_cons.1 hall
    obtain ⟨n, rfl, hn⟩ := Kind.exists_numberParam .turn hdegrees
    refine ⟨.turn id n.toValue, ids', ?_, rfl⟩
    simp only [Block.parse, Parse.bind_eq_ok, Parse.lift_eq_ok]
    refine ⟨.turn, _, ⟨hkind, rfl⟩, params, _, ⟨hparams, rfl⟩, given, _,
      ⟨hgiven, rfl⟩, ?_⟩
    simp only [Parse.bind_eq_ok, Parse.lift_eq_ok, Parse.pure_eq_ok]
    exact ⟨n, _, ⟨hn, rfl⟩, id, _, hid, rfl, rfl⟩
  | goto =>
    cases h.kind
    obtain ⟨⟨-, hx⟩, hall⟩ := List.forall₂_cons.1 hall
    obtain ⟨⟨-, hy⟩, -⟩ := List.forall₂_cons.1 hall
    obtain ⟨x, rfl, hxread⟩ := Kind.exists_numberParam .goto hx
    obtain ⟨y, rfl, hyread⟩ := Kind.exists_numberParam .goto hy
    refine ⟨.goto id x.toValue y.toValue, ids', ?_, rfl⟩
    simp only [Block.parse, Parse.bind_eq_ok, Parse.lift_eq_ok]
    refine ⟨.goto, _, ⟨hkind, rfl⟩, params, _, ⟨hparams, rfl⟩, given, _,
      ⟨hgiven, rfl⟩, ?_⟩
    simp only [Parse.bind_eq_ok, Parse.lift_eq_ok, Parse.pure_eq_ok]
    exact ⟨x, _, ⟨hxread, rfl⟩, y, _, ⟨hyread, rfl⟩, id, _, hid, rfl, rfl⟩
  | bubble _ b text =>
    cases h.kind
    obtain ⟨⟨-, htext⟩, hall⟩ := List.forall₂_cons.1 hall
    obtain ⟨⟨-, hseconds⟩, -⟩ := List.forall₂_cons.1 hall
    obtain ⟨n, rfl, hn⟩ := Kind.exists_numberParam (.bubble b) hseconds
    refine ⟨.bubble id b text n.toValue, ids', ?_, rfl⟩
    simp only [Block.parse, Parse.bind_eq_ok, Parse.lift_eq_ok]
    refine ⟨.bubble b, _, ⟨hkind, rfl⟩, params, _, ⟨hparams, rfl⟩, given, _,
      ⟨hgiven, rfl⟩, ?_⟩
    simp only [Parse.bind_eq_ok, Parse.lift_eq_ok, Parse.pure_eq_ok]
    exact ⟨text, _, ⟨Kind.textParam_takes.2 htext, rfl⟩, n, _, ⟨hn, rfl⟩, id, _, hid, rfl, rfl⟩
  | loop => exact absurd (Option.some.inj h.kind).symm hk
  | unknown => cases h.kind

mutual

theorem Value.Describes.parse {v : Value} {b : Block} :
    v.Describes b → ∀ ids, ∃ b' ids', Block.parse v ids = .ok (b', ids') ∧ b'.cost = b.cost
  | .plain houtlines hk, ids => houtlines.parse hk ids
  | .loop houtlines hitems hbody hcost, ids => by
    obtain ⟨params, hparams, hall⟩ := houtlines.exists_params
    obtain ⟨fields, rfl⟩ := houtlines.object
    obtain ⟨body', mid, hparse, hsame⟩ := hbody.parse ids
    obtain ⟨given, hgiven, -⟩ := houtlines.id
    obtain ⟨⟨id, ids'⟩, hid⟩ := Parse.exists_id given mid
    obtain ⟨⟨-, times, htimes, rounds, hasks, rfl⟩, -⟩ := List.forall₂_cons.1 hall
    have hrounds := roundsParam_eq_ok.2 ⟨times, htimes, hasks⟩
    have hchildren := Script.parseChildren_eq_ok hparse (hsame ▸ hcost) fields hitems
    have hrest : (do
        let rounds ← liftM (roundsParam params)
        let body ← Script.parseChildren fields
        return Block.loop (← Parse.id given) (.int rounds) body : Parse Block) ids
          = .ok (.loop id (.int rounds) body', ids') :=
      Parse.bind_eq_ok.2 ⟨rounds, _, Parse.lift_eq_ok.2 ⟨hrounds, rfl⟩,
        Parse.bind_eq_ok.2 ⟨body', _, hchildren, Parse.bind_eq_ok.2 ⟨id, _, hid, rfl⟩⟩⟩
    refine ⟨.loop id (.int rounds) body', ids', ?_, by rw [Block.cost, Block.cost, hsame]⟩
    simp only [Block.parse, Parse.bind_eq_ok, Parse.lift_eq_ok]
    refine ⟨.loop, _, ⟨Kind.ofBlock_eq_ok.2 houtlines.type, rfl⟩, params, _, ⟨hparams, rfl⟩, given,
      _, ⟨Parse.given_eq_ok.2 hgiven, rfl⟩, ?_⟩
    obtain ⟨hnull, -⟩ | hlist := hitems
    · rw [hnull]
      exact hrest
    · rw [hlist]
      exact hrest

theorem Value.DescribeAll.parse {items : List Value} {s : Script} :
    Value.DescribeAll items s → ∀ ids,
      ∃ s' ids', Script.parseBlocks items ids = .ok (s', ids') ∧ s'.cost = s.cost
  | .nil, ids => ⟨[], ids, rfl, rfl⟩
  | .cons hb hs, ids => by
    obtain ⟨b', mid, hb', hbcost⟩ := hb.parse ids
    obtain ⟨s', ids', hs', hscost⟩ := hs.parse mid
    refine ⟨b' :: s', ids', ?_, by rw [Script.cost, Script.cost, hbcost, hscost]⟩
    simp only [Script.parseBlocks, Parse.bind_eq_ok, Parse.pure_eq_ok]
    exact ⟨b', mid, hb', s', ids', hs', rfl, rfl⟩

end

/-! ### The whole grammar -/

theorem Value.DescribeAll.cost_eq {items : List Value} {s t : Script}
    (hs : Value.DescribeAll items s) (ht : Value.DescribeAll items t) : s.cost = t.cost := by
  obtain ⟨s', _, hparse, hscost⟩ := hs.parse {}
  obtain ⟨t', _, hparse', htcost⟩ := ht.parse {}
  cases hparse.symm.trans hparse'
  exact hscost.symm.trans htcost

theorem Value.exists_describeAll {items : List Value} :
    (∃ s, Value.DescribeAll items s) ↔ ∀ v ∈ items, ∃ b, v.Describes b := by
  induction items with
  | nil => exact ⟨fun _ => nofun, fun _ => ⟨[], .nil⟩⟩
  | cons v items ih =>
    rw [List.forall_mem_cons, ← ih]
    constructor
    · rintro ⟨_, _ | ⟨hb, hs⟩⟩
      exact ⟨⟨_, hb⟩, _, hs⟩
    · rintro ⟨⟨b, hb⟩, s, hs⟩
      exact ⟨b :: s, .cons hb hs⟩

theorem Value.AsksRounds.le {v : Value} {rounds : Nat} (h : v.AsksRounds rounds) :
    rounds ≤ maxRounds := by
  obtain ⟨n, q, -, -, -, hle, hrounds⟩ := h
  have hceil : q.ceil ≤ maxRounds := Rat.ceil_le_iff.2 (by exact_mod_cast hle)
  omega

theorem Script.describeAll_of_parse {raw : List Value} {s : Script} {ids ids' : Ids}
    (h : Script.parse raw ids = .ok (s, ids')) : Value.DescribeAll raw s ∧ s.cost ≤ maxCost := by
  simp only [Script.parse, Parse.bind_eq_ok, Parse.lift_eq_ok] at h
  obtain ⟨t, _, ht, hchecked, -⟩ := h
  obtain ⟨rfl, hcost⟩ := Script.checked_eq_ok.1 hchecked
  exact ⟨Script.describeAll_of_parseBlocks raw ht, hcost⟩

/-- A list of values is accepted if it describes a script that does not cost too much, and refused
for the cost of the script if that is too large. -/
theorem Value.DescribeAll.parse_eq {raw : List Value} {s : Script} (h : Value.DescribeAll raw s)
    (ids : Ids) : (maxCost < s.cost → Script.parse raw ids = .error (.tooCostly s.cost)) ∧
      (s.cost ≤ maxCost → ∃ p, Script.parse raw ids = .ok p) := by
  obtain ⟨s', ids', hparse, hcost⟩ := h.parse ids
  rw [Script.parse_eq hparse, hcost]
  exact ⟨fun hlt => by rw [if_pos hlt], fun hle => ⟨_, by rw [if_neg (Nat.not_lt.2 hle)]⟩⟩

/-- A value describes some block exactly if it outlines one and, for a loop, tells children that the
reader of lists accepts. -/
theorem Value.exists_describes {v : Value} (ids : Ids) :
    (∃ b, v.Describes b) ↔ ∃ k b, v.Outlines k b ∧
      (k = .loop → ∃ items, v.Lists items ∧ ∃ p, Script.parse items ids = .ok p) := by
  constructor
  · rintro ⟨b, hb⟩
    cases hb with
    | plain houtlines hk => exact ⟨_, b, houtlines, fun h => absurd h hk⟩
    | loop houtlines hitems hbody hcost =>
      exact ⟨.loop, _, houtlines, fun _ => ⟨_, hitems, (hbody.parse_eq ids).2 hcost⟩⟩
  · rintro ⟨k, b, houtlines, hloop⟩
    by_cases hk : k = .loop
    · subst hk
      obtain ⟨items, hitems, ⟨body, ids'⟩, hparse⟩ := hloop rfl
      obtain ⟨hall, hcost⟩ := Script.describeAll_of_parse hparse
      cases b with
      | loop id times =>
        -- nothing that is outlined depends on the body
        have houtlines : v.Outlines .loop (.loop id times body) :=
          ⟨houtlines.object, houtlines.type, rfl, houtlines.id, houtlines.given, houtlines.params⟩
        exact ⟨_, .loop houtlines hitems hall hcost⟩
      | _ => cases houtlines.kind
    · exact ⟨b, .plain houtlines hk⟩

/-- The grammar of the reader, for every value and every list of values. A value is accepted exactly
if it describes a block by the rules: if it is an object of one of the six kinds that has the
parameters of that kind and, for a loop, if its children are left out or are a list that is accepted
as a script. A list is accepted exactly if each member is and the script costs no more than the
bound; all scripts that it describes cost the same. Everything else is refused, and for a fault of
the block or the script, if no whole number in it is too long to be written out. A loop that is read
runs a whole number of rounds within the bound, which is the number that was given, rounded up, or
zero if that was negative. -/
theorem Block.grammar_law :
    (∀ v ids, (∀ b ids', Block.parse v ids = .ok (b, ids') → v.Describes b) ∧
      ((∃ p, Block.parse v ids = .ok p) ↔ ∃ b, v.Describes b) ∧
      ((∃ b, v.Describes b) ↔ ∃ k b, v.Outlines k b ∧
        (k = .loop → ∃ items, v.Lists items ∧ ∃ p, Script.parse items ids = .ok p)) ∧
      ((∀ b, ¬v.Describes b) →
        ∃ e, Block.parse v ids = .error e ∧ (v.IsShort → e.isFault = true))) ∧
    (∀ raw ids,
      (∀ s ids', Script.parse raw ids = .ok (s, ids') →
        Value.DescribeAll raw s ∧ s.cost ≤ maxCost) ∧
      ((∃ p, Script.parse raw ids = .ok p) ↔
        (∀ v ∈ raw, ∃ b, v.Describes b) ∧ ∀ s, Value.DescribeAll raw s → s.cost ≤ maxCost) ∧
      (∀ s, Value.DescribeAll raw s → maxCost < s.cost →
        Script.parse raw ids = .error (.tooCostly s.cost)) ∧
      ∀ v ∈ raw, (∀ b, ¬v.Describes b) →
        ∃ e, Script.parse raw ids = .error e ∧ ((Value.list raw).IsShort → e.isFault = true)) ∧
    (∀ raw s t, Value.DescribeAll raw s → Value.DescribeAll raw t → s.cost = t.cost) ∧
    ∀ (v : Value) id times body, v.Describes (.loop id times body) →
      ∃ (given : Value) (rounds : Nat), (v.field "params").field? "times" = some given ∧
        given.AsksRounds rounds ∧ times = .int rounds ∧ rounds ≤ maxRounds := by
  have block (v : Value) (ids : Ids) : (∃ p, Block.parse v ids = .ok p) ↔ ∃ b, v.Describes b :=
    ⟨fun ⟨p, hp⟩ => ⟨p.1, Block.describes_of_parse v hp⟩, fun ⟨b, hb⟩ =>
      have ⟨b', ids', h, _⟩ := hb.parse ids
      ⟨_, h⟩⟩
  have refused {α : Type} {r : Except BlockError α} (h : ¬∃ p, r = .ok p) : ∃ e, r = .error e := by
    cases r with
    | error e => exact ⟨e, rfl⟩
    | ok p => exact absurd ⟨p, rfl⟩ h
  refine ⟨fun v ids => ⟨fun b ids' => Block.describes_of_parse v, block v ids,
    Value.exists_describes ids, fun h => ?_⟩, fun raw ids => ⟨fun s ids' =>
    Script.describeAll_of_parse, ⟨?_, ?_⟩, fun s hs => (hs.parse_eq ids).1, fun v hv h => ?_⟩,
    fun raw s t => Value.DescribeAll.cost_eq, ?_⟩
  · obtain ⟨e, he⟩ := refused fun hp => have ⟨b, hb⟩ := (block v ids).1 hp; h b hb
    exact ⟨e, he, fun hshort => Block.parse_faults v hshort ids e he⟩
  · rintro ⟨p, hp⟩
    obtain ⟨hall, hcost⟩ := Script.describeAll_of_parse hp
    exact ⟨Value.exists_describeAll.1 ⟨_, hall⟩, fun s hs => hs.cost_eq hall ▸ hcost⟩
  · rintro ⟨hall, hcost⟩
    obtain ⟨s, hs⟩ := Value.exists_describeAll.2 hall
    exact (hs.parse_eq ids).2 (hcost s hs)
  · have hno : ¬∃ p, Script.parse raw ids = .ok p := fun ⟨p, hp⟩ =>
      have ⟨b, hb⟩ := Value.exists_describeAll.1 ⟨_, (Script.describeAll_of_parse hp).1⟩ v hv
      h b hb
    obtain ⟨e, he⟩ := refused hno
    exact ⟨e, he, fun hshort => Script.parse_faults hshort ids e he⟩
  · intro v id times body h
    cases h with
    | plain houtlines hk => exact absurd (Option.some.inj houtlines.kind).symm hk
    | loop houtlines =>
      obtain ⟨⟨-, given, hgiven, rounds, hasks, htimes⟩, -⟩ :=
        List.forall₂_cons.1 houtlines.params
      exact ⟨given, rounds, hgiven, hasks, htimes, hasks.le⟩

end SpriteStage
