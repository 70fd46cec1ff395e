import SpriteStage.Proofs.Block.Parsing

/-!
# Faults of written blocks

A kind and an identifier are read from the texts of the values that are given for them. Only there
can the reader fail for a reason that is no fault of the block, and it does not if the value has no
whole number that is too long to be written out.
-/

namespace SpriteStage

/-! ### Readers that find faults only -/

/-- A reader that refuses only for faults of the block. -/
def Parse.Faults {α : Type} (x : Parse α) : Prop := ∀ ids e, x ids = .error e → e.isFault = true

namespace Parse.Faults

variable {α β : Type}

theorem pure (a : α) : Parse.Faults (Pure.pure a) := fun _ _ h => by cases h

theorem bind {x : Parse α} {f : α → Parse β} (hx : Parse.Faults x)
    (hf : ∀ a, Parse.Faults (f a)) : Parse.Faults (x >>= f) := by
  intro ids e h
  change (x ids >>= fun p => f p.1 p.2) = _ at h
  cases hread : x ids with
  | error e' =>
    rw [hread] at h
    cases h
    exact hx ids _ hread
  | ok p =>
    rw [hread] at h
    exact hf p.1 p.2 e h

theorem lift {x : Except BlockError α} (hx : ∀ e, x = .error e → e.isFault = true) :
    Parse.Faults (liftM x) := by
  intro ids e h
  cases x with
  | error e' =>
    cases h
    exact hx _ rfl
  | ok a => cases h

theorem throw {e : BlockError} (he : e.isFault = true) :
    Parse.Faults (MonadExcept.throw e : Parse α) := fun _ _ h => by
  cases h
  exact he

theorem id (given : String) : Parse.Faults (Parse.id given) := by
  intro ids e h
  unfold Parse.id at h
  split at h <;> cases h

end Parse.Faults

/-! ### The parts of a written block -/

section

variable {raw params : Value} {k : Kind} {name : String} {e : BlockError}

theorem Kind.ofBlock_isFault (hraw : raw.IsShort) (h : Kind.ofBlock raw = .error e) :
    e.isFault = true := by
  obtain ⟨type, htype⟩ := (hraw.field "type").exists_trimmed
  unfold Kind.ofBlock at h
  rw [htype] at h
  dsimp only at h
  split at h
  · cases h
  · split at h <;> (cases h; rfl)

theorem Parse.given_isFault (hraw : raw.IsShort) (h : Parse.given raw = .error e) :
    e.isFault = true := by
  obtain ⟨given, hgiven⟩ := (hraw.field "id").exists_trimmed
  unfold Parse.given at h
  rw [hgiven] at h
  cases h

theorem Kind.paramsOf_isFault (h : k.paramsOf raw = .error e) : e.isFault = true := by
  unfold Kind.paramsOf at h
  split at h <;> cases h
  rfl

theorem Kind.numberParam_isFault (h : k.numberParam params name = .error e) :
    e.isFault = true := by
  unfold Kind.numberParam at h
  split at h
  · split at h
    · split at h
      · split at h <;> cases h
        rfl
      · cases h
        rfl
    · cases h
      rfl
  · cases h
    rfl

theorem Kind.textParam_isFault (h : k.textParam params name = .error e) : e.isFault = true := by
  unfold Kind.textParam at h
  split at h
  · split at h <;> cases h
    rfl
  · cases h
    rfl

theorem roundsParam_isFault (h : roundsParam params = .error e) : e.isFault = true := by
  unfold roundsParam at h
  cases hn : Kind.loop.numberParam params "times" with
  | error e' =>
    rw [hn] at h
    cases h
    exact Kind.numberParam_isFault hn
  | ok n =>
    rw [hn] at h
    change (if _ then _ else _) = _ at h
    split at h
    · cases h
      rfl
    · cases n <;> cases h

theorem Script.checked_isFault {s : Script} (h : Script.checked s = .error e) :
    e.isFault = true := by
  unfold Script.checked at h
  split at h <;> cases h
  rfl

end

/-! ### Written blocks and scripts -/

mutual

/-- A short value is refused only for faults of the block. -/
theorem Block.parse_faults : (v : Value) → v.IsShort → Parse.Faults (Block.parse v)
  | .object fields => fun h => by
    rw [Block.parse]
    refine .bind (.lift fun _ => Kind.ofBlock_isFault h) fun k =>
      .bind (.lift fun _ => Kind.paramsOf_isFault) fun params =>
      .bind (.lift fun _ => Parse.given_isFault h) fun given => ?_
    have number (k : Kind) (name : String) :
        Parse.Faults (liftM (k.numberParam params name)) :=
      .lift fun _ => Kind.numberParam_isFault
    cases k with
    | move | turn => exact .bind (number _ _) fun _ => .bind (.id given) fun _ => .pure _
    | goto =>
      exact .bind (number _ _) fun _ => .bind (number _ _) fun _ => .bind (.id given) fun _ =>
        .pure _
    | bubble b =>
      exact .bind (.lift fun _ => Kind.textParam_isFault) fun _ => .bind (number _ _) fun _ =>
        .bind (.id given) fun _ => .pure _
    | loop =>
      have hrest : Parse.Faults (do
          let rounds ← liftM (roundsParam params)
          let body ← Script.parseChildren fields
          return Block.loop (← Parse.id given) (.int rounds) body : Parse Block) :=
        .bind (.lift fun _ => roundsParam_isFault) fun _ =>
          .bind (Script.parseChildren_faults fields h) fun _ => .bind (.id given) fun _ => .pure _
      dsimp only
      split
      · exact hrest
      · exact hrest
      · exact .bind (.throw rfl) fun _ => hrest
  | .null | .bool _ | .int _ | .float _ | .str _ | .torn _ | .list _ => fun _ => by
    simp only [Block.parse]
    exact .throw rfl

theorem Script.parseChildren_faults : (fields : List (String × Value)) →
    (Value.object fields).IsShort → Parse.Faults (Script.parseChildren fields)
  | [] => fun _ => by
    rw [Script.parseChildren]
    exact .pure _
  | (name, v) :: rest => fun h => by
    obtain ⟨hv, hrest⟩ := Value.isShort_object_cons.1 h
    unfold Script.parseChildren
    split
    · cases v with
      | list items =>
        exact .bind (Script.parseBlocks_faults items hv) fun _ => .lift fun _ =>
          Script.checked_isFault
      | _ => exact .pure _
    · exact Script.parseChildren_faults rest hrest

theorem Script.parseBlocks_faults : (items : List Value) → (Value.list items).IsShort →
    Parse.Faults (Script.parseBlocks items)
  | [] => fun _ => by
    rw [Script.parseBlocks]
    exact .pure _
  | v :: rest => fun h => by
    obtain ⟨hv, hrest⟩ := Value.isShort_list_cons.1 h
    rw [Script.parseBlocks]
    exact .bind (Block.parse_faults v hv) fun _ =>
      .bind (Script.parseBlocks_faults rest hrest) fun _ => .pure _

end

theorem Script.parse_faults {raw : List Value} (h : (Value.list raw).IsShort) :
    Parse.Faults (Script.parse raw) :=
  .bind (Script.parseBlocks_faults raw h) fun _ => .lift fun _ => Script.checked_isFault

end SpriteStage
