import SpriteStage.Proofs.Interpreter.Records
import SpriteStage.Proofs.Turns

/-!
# Headings stay in one turn

Scripts change a heading only by turning, and a turn folds what it makes. So whatever stands in the
parameters of a script, and however its loops are nested, a heading of one turn stays one. Actors
come with such a heading and get it back when they are put to rest.
-/

namespace SpriteStage

/-- A number that is an angle of one turn. -/
def Number.InTurn : Number → Prop
  | .int n => 0 ≤ n ∧ n < 360
  | .float x => Heading.InTurn x

/-- A value that counts as such a number. -/
def Value.InTurn (v : Value) : Prop := ∃ n, v.asNumber = .ok n ∧ n.InTurn

theorem Value.inTurn_float {x : Float} (h : Heading.InTurn x) : (Value.float x).InTurn :=
  ⟨.float x, rfl, h⟩

/-- A heading of one turn is read as a finite double. -/
theorem Value.InTurn.coordinate {v : Value} (h : v.InTurn) :
    ∃ x, v.coordinate = .ok x ∧ x.isFinite = true := by
  obtain ⟨n, hn, hturn⟩ := h
  rw [Value.coordinate, hn]
  cases n with
  | float x => exact ⟨x, rfl, Heading.InTurn.isFinite hturn⟩
  | int n =>
    obtain ⟨h0, hlt⟩ := hturn
    obtain ⟨k, rfl⟩ := Int.eq_ofNat_of_zero_le h0
    have hk : k < 2 ^ 53 := by omega
    refine ⟨Double.nearest (k : Int), ?_, Double.isFinite_nearest hk⟩
    rw [Except.bind, Number.toFloat]
    simp only [Double.ofInt?_natCast hk]

/-! ### Records -/

theorem Except.exists_of_bind_eq_ok {ε α β : Type} {r : Except ε α} {f : α → Except ε β} {b : β}
    (h : (r >>= f) = .ok b) : ∃ a, r = .ok a ∧ f a = .ok b := by
  cases r with
  | error e => cases h
  | ok a => exact ⟨a, rfl, h⟩

namespace PoseRecord

/-- Both coordinates can be read. -/
def Placed (p : PoseRecord) : Prop :=
  (∃ x, p.x.coordinate = .ok x) ∧ ∃ y, p.y.coordinate = .ok y

variable {p q : PoseRecord}

/-- An action leaves the heading as it is, or folds it. -/
theorem heading_act {a : Action} (h : p.act a = .ok q) :
    q.heading = p.heading ∨ ∃ x, q.heading = .float (Heading.fold x) := by
  cases a with
  | stay | place x y | display b text seconds =>
    cases h
    exact .inl rfl
  | rotate degrees =>
    obtain ⟨x, -, h⟩ := Except.exists_of_bind_eq_ok h
    cases h
    exact .inr ⟨_, rfl⟩
  | advance distance =>
    left
    rw [act, advance] at h
    split at h
    · cases h
      rfl
    · obtain ⟨heading, -, h⟩ := Except.exists_of_bind_eq_ok h
      dsimp only at h
      split at h
      · cases h
      · obtain ⟨x, -, h⟩ := Except.exists_of_bind_eq_ok h
        obtain ⟨y, -, h⟩ := Except.exists_of_bind_eq_ok h
        cases h
        rfl

theorem inTurn_act {a : Action} (hp : p.heading.InTurn) (h : p.act a = .ok q) :
    q.heading.InTurn := by
  rcases heading_act h with heq | ⟨x, heq⟩ <;> rw [heq]
  · exact hp
  · exact Value.inTurn_float (Heading.inTurn_fold x)

theorem exists_coordinate_moved {v : Value} (h : ∃ x, v.coordinate = .ok x) (new : Float) :
    ∃ x, (moved v new).coordinate = .ok x := by
  unfold moved
  split
  · exact ⟨new, rfl⟩
  · exact h

/-- An action can be carried out on a placed record with a heading of one turn. -/
theorem exists_act (hp : p.heading.InTurn) (hplaced : p.Placed) (a : Action) :
    ∃ q, p.act a = .ok q ∧ q.Placed := by
  obtain ⟨heading, hheading, hfinite⟩ := hp.coordinate
  cases a with
  | stay | display b text seconds => exact ⟨_, rfl, hplaced⟩
  | place x y => exact ⟨_, rfl, ⟨x, rfl⟩, y, rfl⟩
  | rotate degrees =>
    rw [act, hheading]
    exact ⟨_, rfl, hplaced⟩
  | advance distance =>
    obtain ⟨⟨x, hx⟩, y, hy⟩ := hplaced
    rw [act, advance]
    split
    · exact ⟨p, rfl, ⟨x, hx⟩, y, hy⟩
    · rw [hheading, Except.ok_bind]
      dsimp only
      rw [Heading.isFinite_radians hfinite, Bool.not_true, Bool.false_and,
        if_neg Bool.false_ne_true, hx, hy]
      exact ⟨_, rfl, exists_coordinate_moved ⟨x, hx⟩ _, exists_coordinate_moved ⟨y, hy⟩ _⟩

/-- Whatever a script leaves of a record. -/
theorem inTurn_interpret (hp : p.heading.InTurn) {s : Script} (h : p.interpret s = .ok q) :
    q.heading.InTurn := by
  have kept (b : Block) (r : Except RunError PoseRecord)
      (hr : ∀ p, r = .ok p → p.heading.InTurn) :
      ∀ q, performer.block b r = .ok q → q.heading.InTurn := by
    intro q hq
    cases r with
    | error e => cases hq
    | ok p => exact inTurn_act (hr p rfl) hq
  have hwalk := Script.walk_invariant (P := fun r => ∀ q, r = .ok q → q.heading.InTurn)
    (Q := fun _ => True) (v := performer) (s := .ok p) (fun _ _ _ _ _ _ => trivial)
    (fun b r _ hr => kept b r hr) (fun _ hr => hr) s (fun _ _ => trivial)
    (fun q hq => Except.ok.inj hq ▸ hp)
  exact hwalk q h

theorem exists_interpret (hp : p.heading.InTurn) (hplaced : p.Placed) (s : Script) :
    ∃ q, p.interpret s = .ok q ∧ q.heading.InTurn ∧ q.Placed :=
  Script.walk_invariant (P := fun r => ∃ q, r = .ok q ∧ q.heading.InTurn ∧ q.Placed)
    (Q := fun _ => True) (v := performer) (fun _ _ _ _ _ _ => trivial)
    (fun b _ _ ⟨p, hr, hp, hplaced⟩ => by
      obtain ⟨q, hq, hq'⟩ := exists_act hp hplaced b.action
      exact ⟨q, by rw [hr]; exact hq, inTurn_act hp hq, hq'⟩)
    (fun _ hr => hr) s (fun _ _ => trivial) ⟨p, rfl, hp, hplaced⟩

end PoseRecord

/-! ### Poses -/

namespace Pose

theorem inTurn_act {p : Pose} (h : Heading.InTurn p.heading) (a : Action) :
    Heading.InTurn (p.act a).heading := by
  cases a with
  | stay | place x y | display b text seconds => exact h
  | rotate degrees => exact Heading.inTurn_fold _
  | advance distance =>
    rw [act, advance]
    split <;> exact h

theorem inTurn_interpret {p : Pose} (h : Heading.InTurn p.heading) (s : Script) :
    Heading.InTurn (interpret p s).heading :=
  Script.walk_invariant (P := fun p : Pose => Heading.InTurn p.heading) (Q := fun _ => True)
    (v := performer) (fun _ _ _ _ _ _ => trivial) (fun b _ _ hp => inTurn_act hp b.action)
    (fun _ hp => hp) s (fun _ _ => trivial) h

theorem inTurn_rest : Heading.InTurn rest.heading :=
  ⟨by decide, by decide, by decide, by decide⟩

theorem inTurn_ticks {p : Pose} (h : Heading.InTurn p.heading) (scripts : List Script) :
    Heading.InTurn (scripts.foldl tick p).heading := by
  induction scripts generalizing p with
  | nil => exact h
  | cons script scripts ih => exact ih (inTurn_interpret (p := p.age) h script)

end Pose

namespace History

/-- The law of headings. Whatever is folded becomes an angle of one turn, which folding leaves as it
is. A script over a record with such a heading leaves one, and it does not fail if the position can
be read; so it does over a pose, and so does every history of the stage to all actors. -/
theorem heading_law :
    (∀ v : Value, Heading.InTurn (Heading.fold v.finite) ∧
      Heading.fold (Value.float (Heading.fold v.finite)).finite = Heading.fold v.finite) ∧
    (∀ (p : PoseRecord) (s : Script), p.heading.InTurn →
      (∀ q, p.interpret s = .ok q → q.heading.InTurn) ∧
      (p.Placed → ∃ q, p.interpret s = .ok q)) ∧
    (∀ (p : Pose) (s : Script), Heading.InTurn p.heading →
      Heading.InTurn (interpret p s).heading) ∧
    (∀ (h : History) (k : String) (a : Actor), h.stage.roster.get? k = some a →
      ∃ p, h.stage.poses.get? k = some p ∧ Heading.InTurn p.heading) := by
  refine ⟨fun v => ⟨Heading.inTurn_fold _, ?_⟩, fun p s hp => ⟨fun q => ?_, fun hplaced => ?_⟩,
    fun p s hp => Pose.inTurn_interpret hp s, fun h k a ha => ?_⟩
  · have hturn := Heading.inTurn_fold v.finite
    rw [show (Value.float (Heading.fold v.finite)).finite = Double.finite (Heading.fold v.finite)
      from rfl, Double.finite, if_pos hturn.isFinite, Heading.fold_of_inTurn hturn]
  · exact PoseRecord.inTurn_interpret hp
  · obtain ⟨q, hq, -⟩ := PoseRecord.exists_interpret hp hplaced s
    exact ⟨q, hq⟩
  · refine ⟨h.posed k, by rw [poses_get?, ha]; rfl, ?_⟩
    exact Pose.inTurn_ticks Pose.inTurn_rest (h.journal k)

/-- A record that was written down with a whole number for its heading. -/
def signpost : PoseRecord := ⟨.float 0.0, .float 0.0, .int 359, .empty⟩

/-- Turns by amounts that make no sense or are lost in rounding, in a loop in a loop. -/
def twirl : Script :=
  [.loop "outer" (.int 2) [.loop "inner" (.str "1.5") [.turn "left" (.float (-1.0e-20)),
    .move "step" (.int 10), .turn "lost" (.str "nan")]]]

/-- An actor is ticked with those turns. -/
def twirled : History := [.tick, .start, .add 1 { id := .str "a", script := twirl }]

/-- The law of headings at that record, and at that actor. -/
theorem heading_of_twirl :
    signpost.heading.InTurn ∧ signpost.Placed ∧
    (∃ q, signpost.interpret twirl = .ok q ∧ q.heading.InTurn) ∧
    ∃ a, (stage twirled).roster.get? "a" = some a ∧
      ∃ p, (stage twirled).poses.get? "a" = some p ∧ Heading.InTurn p.heading := by
  have hheading : signpost.heading.InTurn := ⟨.int 359, rfl, by decide, by decide⟩
  have hplaced : signpost.Placed := ⟨⟨0.0, rfl⟩, 0.0, rfl⟩
  obtain ⟨-, hrecord, -, hstage⟩ := heading_law
  obtain ⟨hkept, hruns⟩ := hrecord signpost twirl hheading
  obtain ⟨q, hq⟩ := hruns hplaced
  have hactor : ((stage twirled).roster.get? "a").isSome = true := by decide
  obtain ⟨a, ha⟩ := Option.isSome_iff_exists.1 hactor
  exact ⟨hheading, hplaced, ⟨q, hq, hkept q hq⟩, a, ha, hstage twirled "a" a ha⟩

end History

end SpriteStage
