import SpriteStage.Benchmark.Run
import SpriteStage.Proofs.Api.Locking
import SpriteStage.Proofs.Api.Refusals
import Mathlib.Data.Nat.Digits.Defs

/-!
# The cast of the benchmark

The server takes in the sprites of the benchmark one after the other, as long as their names are not
too long. Their scripts are read as they were meant, and their blocks get the next identifiers.
-/

namespace SpriteStage.Benchmark

open SpriteStage.Api

/-! ### Scripts -/

/-- The blocks of the sprite with a number, where so many blocks have identifiers. Blocks inside of
a loop get theirs before it. -/
def routine (i blocks : Nat) : Script :=
  let id (k : Nat) := Ids.label "block" (blocks + k)
  [.bubble (id 1) .say (.str ("bench " ++ toString i)) (.int 2),
    .loop (id 6) (.int 4) [
      .move (id 2) (.int (3 + i % 5)),
      .turn (id 3) (.int (15 * (1 + i % 3))),
      .loop (id 5) (.int 2) [.bubble (id 4) .think (.str "hmm") (.int 1)]]]

def written (i : Nat) : List Value :=
  [block (.bubble .say) [("text", .str ("bench " ++ toString i)), ("seconds", .int 2)],
    loop 4 [
      block .move [("steps", .int (3 + i % 5))],
      block .turn [("degrees", .int (15 * (1 + i % 3)))],
      loop 2 [block (.bubble .think) [("text", .str "hmm"), ("seconds", .int 1)]]]]

theorem Parse.given_null {raw : Value} (h : raw.field "id" = .null) : Parse.given raw = .ok "" :=
  Parse.given_eq_ok.2 (by rw [h]; decide)

theorem Parse.id_new (ids : Ids) : Parse.id "" ids = .ok ids.block := rfl

theorem parse_move {n : Number} (hn : n.IsFinite) (ids : Ids) :
    Block.parse (block .move [("steps", n.toValue)]) ids =
      .ok (.move ids.block.1 n.toValue, ids.block.2) := by
  simp only [block, Block.parse, Parse.bind_eq_ok, Parse.lift_eq_ok]
  refine ⟨.move, _, ⟨Kind.ofBlock_named rfl, rfl⟩, _, _, ⟨Kind.paramsOf_object rfl, rfl⟩, _, _,
    ⟨Parse.given_null rfl, rfl⟩, ?_⟩
  simp only [Parse.bind_eq_ok, Parse.lift_eq_ok, Parse.pure_eq_ok]
  exact ⟨n, _, ⟨Kind.numberParam_toValue rfl hn, rfl⟩, _, _, Parse.id_new ids, rfl, rfl⟩

theorem parse_turn {n : Number} (hn : n.IsFinite) (ids : Ids) :
    Block.parse (block .turn [("degrees", n.toValue)]) ids =
      .ok (.turn ids.block.1 n.toValue, ids.block.2) := by
  simp only [block, Block.parse, Parse.bind_eq_ok, Parse.lift_eq_ok]
  refine ⟨.turn, _, ⟨Kind.ofBlock_named rfl, rfl⟩, _, _, ⟨Kind.paramsOf_object rfl, rfl⟩, _, _,
    ⟨Parse.given_null rfl, rfl⟩, ?_⟩
  simp only [Parse.bind_eq_ok, Parse.lift_eq_ok, Parse.pure_eq_ok]
  exact ⟨n, _, ⟨Kind.numberParam_toValue rfl hn, rfl⟩, _, _, Parse.id_new ids, rfl, rfl⟩

theorem parse_bubble (b : Bubble) (text : String) {n : Number} (hn : n.IsFinite) (ids : Ids) :
    Block.parse (block (.bubble b) [("text", .str text), ("seconds", n.toValue)]) ids =
      .ok (.bubble ids.block.1 b (.str text) n.toValue, ids.block.2) := by
  simp only [block, Block.parse, Parse.bind_eq_ok, Parse.lift_eq_ok]
  refine ⟨.bubble b, _, ⟨Kind.ofBlock_named rfl, rfl⟩, _, _, ⟨Kind.paramsOf_object rfl, rfl⟩, _, _,
    ⟨Parse.given_null rfl, rfl⟩, ?_⟩
  simp only [Parse.bind_eq_ok, Parse.lift_eq_ok, Parse.pure_eq_ok]
  exact ⟨_, _, ⟨Kind.textParam_eq_ok.2 ⟨rfl, text, .inl rfl⟩, rfl⟩, n, _,
    ⟨Kind.numberParam_toValue rfl hn, rfl⟩, _, _, Parse.id_new ids, rfl, rfl⟩

/-- The identifier of a loop comes after those in it. -/
theorem parse_loop (times : Nat) (htimes : times ≤ maxRounds) {children : List Value}
    {body : Script} {ids ids' : Ids}
    (hchildren : Script.parseBlocks children ids = .ok (body, ids')) (hcost : body.cost ≤ maxCost) :
    Block.parse (loop times children) ids =
      .ok (.loop ids'.block.1 (.int times) body, ids'.block.2) := by
  have hbody : Script.parseChildren
      [("type", .str Kind.loop.name), ("params", .object [("times", .ofNat times)]),
        ("children", .list children)] ids = .ok (body, ids') := by
    simp only [Script.parseChildren]
    exact Parse.bind_eq_ok.2 ⟨body, ids', hchildren,
      Parse.lift_eq_ok.2 ⟨Script.checked_eq_ok.2 ⟨rfl, hcost⟩, rfl⟩⟩
  simp only [loop, Block.parse, Parse.bind_eq_ok, Parse.lift_eq_ok]
  refine ⟨.loop, _, ⟨Kind.ofBlock_named rfl, rfl⟩, _, _, ⟨Kind.paramsOf_object rfl, rfl⟩, _, _,
    ⟨Parse.given_null rfl, rfl⟩, ?_⟩
  exact Parse.bind_eq_ok.2 ⟨times, _, Parse.lift_eq_ok.2 ⟨roundsParam_natCast rfl htimes, rfl⟩,
    Parse.bind_eq_ok.2 ⟨body, _, hbody, Parse.bind_eq_ok.2 ⟨_, _, Parse.id_new ids', rfl⟩⟩⟩

theorem parseBlocks_nil (ids : Ids) : Script.parseBlocks [] ids = .ok ([], ids) := by
  rw [Script.parseBlocks]
  rfl

theorem parseBlocks_cons {v : Value} {rest : List Value} {b : Block} {script : Script}
    {ids mid ids' : Ids} (hb : Block.parse v ids = .ok (b, mid))
    (hrest : Script.parseBlocks rest mid = .ok (script, ids')) :
    Script.parseBlocks (v :: rest) ids = .ok (b :: script, ids') := by
  rw [Script.parseBlocks]
  exact Parse.bind_eq_ok.2 ⟨b, mid, hb, Parse.bind_eq_ok.2 ⟨script, ids', hrest, rfl⟩⟩

/-- The server reads a script as it was meant, and numbers its blocks. -/
theorem parse_written (i : Nat) (ids : Ids) :
    Script.parse (written i) ids =
      .ok (routine i ids.blocks, { ids with blocks := ids.blocks + 6 }) := by
  have hsteps : (Number.int (3 + i % 5)).IsFinite := by
    have h : 3 + i % 5 < 2 ^ 53 := by omega
    exact_mod_cast Number.isFinite_natCast h
  have hdegrees : (Number.int (15 * (1 + i % 3))).IsFinite := by
    have h : 15 * (1 + i % 3) < 2 ^ 53 := by omega
    exact_mod_cast Number.isFinite_natCast h
  have hone : (Number.int 1).IsFinite := Number.isFinite_natCast (by decide : 1 < 2 ^ 53)
  have htwo : (Number.int 2).IsFinite := Number.isFinite_natCast (by decide : 2 < 2 ^ 53)
  have hthink := parseBlocks_cons (parse_bubble .think "hmm" hone
    { ids with blocks := ids.blocks + 3 }) (parseBlocks_nil _)
  have hinner := parseBlocks_cons
    (parse_loop 2 (by decide) hthink (Nat.le_of_ble_eq_true rfl)) (parseBlocks_nil _)
  have hmoves := parseBlocks_cons (parse_move hsteps { ids with blocks := ids.blocks + 1 })
    (parseBlocks_cons (parse_turn hdegrees _) hinner)
  have hall := parseBlocks_cons (parse_bubble .say ("bench " ++ toString i) htwo ids)
    (parseBlocks_cons (parse_loop 4 (by decide) hmoves (Nat.le_of_ble_eq_true rfl))
      (parseBlocks_nil _))
  have hcost : (routine i ids.blocks).cost ≤ maxCost := Nat.le_of_ble_eq_true rfl
  exact (Script.parse_eq hall).trans (if_neg (Nat.not_lt.2 hcost))

/-! ### Bodies -/

/-- Sprites with numbers from here on have names that are too long. -/
def castLimit : Nat := 10 ^ 114

def spriteId (i : Nat) : String := "bench-" ++ toString i

def spriteName (i : Nat) : String := "Bench-" ++ toString i

def entry (i : Nat) : Value :=
  .object [("actor_id", .str (spriteId i)), ("name", .str (spriteName i)),
    ("script", .list (written i))]

theorem script_ofNat {i : Nat} (h : i ≤ castLimit) : script (.ofNat i) = .ok (written i) := by
  have hlimit {digits : Nat} (hdigits : 114 < digits) : castLimit < Nat.pow 10 digits :=
    Nat.pow_lt_pow_right (by decide) hdigits
  have hshort : Value.isLong (.int i) = false := by
    rw [Value.isLong, Int.natAbs_natCast]
    exact decide_eq_false (Nat.not_le.2 (h.trans_lt (hlimit (by decide))))
  rw [script, Value.text?_ofNat hshort]
  rfl

theorem createRequest_eq {i : Nat} (h : i ≤ castLimit) : createRequest i =
    { method := "POST", path := "/api/v1/actors", body := .document (entry i) } := by
  rw [createRequest, script_ofNat h]
  rfl

theorem faults_entry (i : Nat) :
    (createForm.flatMap fun f => f.faults .body (entry i)) =
      Check.name [.field "body", .field "actor_id"] (.str (spriteId i)) ++
        Check.text 0 nameLimit [.field "body", .field "name"] (.str (spriteName i)) := by
  rw [← List.append_nil (Check.text _ _ _ _)]
  rfl

theorem length_spriteId (i : Nat) : (spriteId i).length = 6 + (toString i).length := by
  rw [spriteId, String.length_append]
  rfl

theorem length_spriteName (i : Nat) : (spriteName i).length = 6 + (toString i).length := by
  rw [spriteName, String.length_append]
  rfl

theorem Check.text_of_length {least most : Nat} {s : String} (place : Api.Place)
    (hleast : least ≤ s.length) (hmost : s.length ≤ most) :
    Check.text least most place (.str s) = [] := by
  simp only [Check.text, Check.ofKind, if_neg (Nat.not_lt.2 hmost), if_neg (Nat.not_lt.2 hleast)]
  rfl

theorem Check.text_of_long {least most : Nat} {s : String} (place : Api.Place)
    (hmost : most < s.length) :
    Check.text least most place (.str s) = [⟨place, .tooLong, .str s⟩] := by
  simp only [Check.text, Check.ofKind, if_pos hmost]
  rfl

/-- The body of a request for a sprite whose name is not too long has no fault. -/
theorem read_entry {i : Nat} (h : i < castLimit) :
    (Body.document (entry i)).read createForm = .ok (entry i) := by
  have hdigits : (toString i).length ≤ 114 := Nat.repr_length i 114 (by decide) h
  have hid : (spriteId i).length ≤ nameLimit := by
    rw [length_spriteId]
    exact Nat.add_le_add_left hdigits 6
  have hleast : 1 ≤ (spriteId i).length := by
    rw [length_spriteId]
    omega
  have hname : (spriteName i).length ≤ nameLimit := by
    rw [length_spriteName]
    exact Nat.add_le_add_left hdigits 6
  have hfaults : (createForm.flatMap fun f => f.faults .body (entry i)) = [] := by
    rw [faults_entry, Check.name, Check.text_of_length _ hleast hid,
      Check.text_of_length _ (Nat.zero_le _) hname]
    rfl
  rw [entry, Body.read, ← entry, hfaults]

/-! ### Entrances -/

/-- The sprite with a number, as the server takes it in after those before it. -/
def draft (i : Nat) : Draft where
  id := .str (spriteId i)
  name := .str (spriteName i)
  script := routine i (6 * i)

/-- The history in which so many sprites have come. -/
def cast : Nat → History
  | 0 => []
  | i + 1 => .add 0 (draft i) :: cast i

theorem draftIn_entry (i : Nat) : draftIn (entry i) (routine i (6 * i)) = draft i := rfl

theorem isName_spriteId (i : Nat) : Text.IsName (spriteId i) :=
  Text.IsName.append_toString (by decide) i

theorem spriteId_injective : Function.Injective spriteId := by
  intro i j h
  have hdigits : Nat.toDigits 10 i = Nat.toDigits 10 j := by
    have h := congrArg String.toList h
    simpa [spriteId, Nat.toString_eq_repr, Nat.repr_eq_ofList_toDigits] using h
  rw [← Nat.ofDigitChars_toDigits (by decide) (by decide : 10 ≤ 10) (n := i), hdigits,
    Nat.ofDigitChars_toDigits (by decide) (by decide)]

theorem trimmed?_draft (i : Nat) : (draft i).id.trimmed? = some (spriteId i) :=
  Value.trimmed?_str (isName_spriteId i)

theorem needsId_draft (i : Nat) : (draft i).needsId = false := by
  simp [Draft.needsId, Value.isBlank, trimmed?_draft, (isName_spriteId i).nonempty]

theorem idOr?_draft (i : Nat) (fresh : String) : (draft i).idOr? fresh = some (spriteId i) := by
  simp [Draft.idOr?, trimmed?_draft, (isName_spriteId i).nonempty]

theorem sendable_draft (i : Nat) : (draft i).Sendable := by
  have hwhole : (Value.list (written i)).IsWhole := rfl
  have hparse := parse_written i { blocks := 6 * i }
  exact sendable_draftIn (entry i)
    ((Script.describeAll_of_parse hparse).1.sendable fun _ => hwhole.of_mem)

theorem actor_draft (i number : Nat) : ∃ a, (draft i).actor (spriteId i) number = .ok a := by
  have hshort (s : String) : (Value.str s).IsShort := rfl
  exact Draft.exists_actor (d := draft i) (hshort _) (hshort _) (hshort _)
    (sendable_draft i).width.not_tooLarge (sendable_draft i).height.not_tooLarge _ number

theorem add_draft {s : Stage} {i : Nat} (h : spriteId i ∉ s.roster.keys) (fresh : String) :
    ∃ a, s.add fresh (draft i) = (.ok a, s.perform (.add 0 (draft i))) ∧ a.Sendable ∧
      (s.perform (.add 0 (draft i))).roster.keys = s.roster.keys ++ [spriteId i] := by
  obtain ⟨a, ha⟩ := actor_draft i (s.roster.size + 1)
  have hfree : s.roster.contains (spriteId i) = false :=
    Keyed.contains_eq_false.2 (Keyed.not_mem_keys.1 h)
  have hadd (fresh : String) : s.add fresh (draft i) = (.ok a, { s with
      roster := s.roster.put (spriteId i) a, poses := s.poses.put (spriteId i) .rest }) := by
    simp [Stage.add, idOr?_draft, hfree, ha]
  refine ⟨a, by rw [Stage.perform, hadd, hadd], (sendable_draft i).actor ha, ?_⟩
  rw [Stage.perform, hadd, Keyed.keys_put_of_not_mem h]

theorem spriteId_fresh (i : Nat) : spriteId i ∉ (List.range i).map spriteId := by
  rw [List.mem_map]
  rintro ⟨j, hj, heq⟩
  rw [spriteId_injective heq] at hj
  exact List.not_mem_range_self hj

theorem keys_cast (n : Nat) : (cast n).stage.roster.keys = (List.range n).map spriteId := by
  induction n with
  | zero => rfl
  | succ n ih =>
    obtain ⟨-, -, -, hkeys⟩ := add_draft (ih ▸ spriteId_fresh n) ""
    rw [cast, History.stage, hkeys, ih, List.range_succ, List.map_append]
    rfl

/-! ### Requests -/

/-- A server that was given some settings and nothing else, and on whose stage a history happened.
-/
structure Follows (settings : Settings) (h : History) (s : Server) : Prop where
  setup : s.clock.setup = { settings }
  stage : s.stage = h.stage

/-- A server that has taken in so many sprites. -/
structure HasCast (settings : Settings) (n : Nat) (s : Server) : Prop
    extends Follows settings (cast n) s where
  ids : s.ids = { blocks := 6 * n }

theorem exchange_of_reply {s t : Server} {r : Request} {reply : Reply}
    (h : s.respond r = (.reply reply, t)) : exchange s r = (reply, t) := by
  rw [exchange, h]

theorem respond_createRequest (s : Server) {i : Nat} (h : i ≤ castLimit) :
    s.respond (createRequest i) =
      Server.serve.replied (s.createActor false (.document (entry i))) := by
  have hroute : destination "POST" (Path.decode "/api/v1/actors") = .endpoint .createActor := by
    decide +kernel
  simp only [Server.respond, createRequest_eq h, hroute, Server.serve]

theorem sendable_cast (n : Nat) : (cast n).stage.Sendable := by
  induction n with
  | zero => exact .empty
  | succ n ih => exact ih.perform (sendable_draft n)

/-- The next sprite is taken in, if its name is not too long. -/
theorem exchange_create {settings : Settings} {s : Server} {i : Nat} (h : HasCast settings i s)
    (hi : i < castLimit) : (exchange s (createRequest i)).1.status = 200 ∧
      HasCast settings (i + 1) (exchange s (createRequest i)).2 := by
  obtain ⟨a, hadd, ha, -⟩ := add_draft (keys_cast i ▸ spriteId_fresh i) ""
  have hsend := sendable_cast (i + 1)
  change (cast i).stage.add "" (draft i) = (.ok a, (cast (i + 1)).stage) at hadd
  generalize hstage : (cast (i + 1)).stage = stage at hadd hsend
  have hserver : Server.add { s with ids := { blocks := 6 * (i + 1) } } (draft i) =
      (.ok a, { s.withStage stage with ids := { blocks := 6 * (i + 1) } }) := by
    have hs : Server.stage { s with ids := { blocks := 6 * (i + 1) } } = (cast i).stage := h.stage
    simp only [Server.add, needsId_draft, Bool.false_eq_true, if_false, hs, hadd]
    rfl
  have hreply : (Reply.ok [("ok", .bool true),
      ("actor", Server.actorForm stage a)]).body.Sendable := by
    have hform := Server.sendable_actorForm hsend ha
    simp only [Reply.ok, Value.sendable_object, List.forall_mem_cons]
    exact ⟨rfl, hform, List.forall_mem_nil _⟩
  have hparse : Script.parse (listIn (entry i) "script") s.ids =
      .ok (routine i (6 * i), { blocks := 6 * (i + 1) }) := by
    rw [h.ids]
    exact parse_written i { blocks := 6 * i }
  have hrespond : s.respond (createRequest i) =
      (.reply (.ok [("ok", .bool true), ("actor", Server.actorForm stage a)]),
        { s.withStage stage with ids := { blocks := 6 * (i + 1) } }) := by
    rw [← Reply.outcome_of_sendable hreply, respond_createRequest s hi.le, Server.createActor,
      Server.withBody_of_read (read_entry hi), Server.withScript_of_parse hparse,
      Server.locked_free, draftIn_entry, hserver]
    rfl
  rw [exchange_of_reply hrespond]
  exact ⟨rfl, ⟨h.setup, hstage.symm⟩, rfl⟩

/-- A sprite whose name is too long is refused. -/
theorem exchange_create_long (s : Server) {i : Nat} (hi : i ≤ castLimit)
    (hlong : nameLimit < (spriteId i).length) :
    (exchange s (createRequest i)).1.status = 422 := by
  have hname : nameLimit < (spriteName i).length := by
    rwa [length_spriteName, ← length_spriteId]
  let found : List Fault := [⟨[.field "body", .field "actor_id"], .tooLong, .str (spriteId i)⟩,
    ⟨[.field "body", .field "name"], .tooLong, .str (spriteName i)⟩]
  have hfaults : (createForm.flatMap fun f => f.faults .body (entry i)) = found := by
    rw [faults_entry, Check.name, Check.text_of_long _ hlong, Check.text_of_long _ hname]
    rfl
  have hread : (Body.document (entry i)).read createForm = .error (.faults found) := by
    rw [entry, Body.read, ← entry, hfaults]
  have hsend : (Reply.faulty found).body.Sendable := rfl
  have hrespond : s.respond (createRequest i) = (.reply (.faulty found), s) := by
    rw [respond_createRequest s hi, Server.createActor, Server.withBody, hread,
      ← Reply.outcome_of_sendable hsend]
    rfl
  rw [exchange_of_reply hrespond]
  rfl

end SpriteStage.Benchmark
