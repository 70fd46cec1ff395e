import SpriteStage.Interpreter.Basic

/-!
# Walks

Two laws hold of the walks of all visitors. What each call of the visitor keeps true is true after
the walk; and two visitors at once walk as each of them would alone.
-/

namespace SpriteStage

variable {σ τ : Type}

/-- Two visitors at once, each with its own state. -/
def Visitor.prod (v : Visitor σ) (w : Visitor τ) : Visitor (σ × τ) :=
  ⟨fun b s => (v.block b s.1, w.block b s.2), fun s => (v.round s.1, w.round s.2)⟩

/-! ### What a walk keeps true -/

theorem repeat_invariant {P : σ → Prop} {f : σ → σ} (hf : ∀ s, P s → P (f s)) (n : Nat) {s : σ}
    (hs : P s) : P (Nat.repeat f n s) := by
  induction n with
  | zero => exact hs
  | succ n ih => exact hf _ ih

mutual

theorem Block.walk_invariant {P : σ → Prop} {Q : Block → Prop} {v : Visitor σ}
    (hbody : ∀ id times body, Q (.loop id times body) → ∀ b ∈ body, Q b)
    (hblock : ∀ b s, Q b → P s → P (v.block b s)) (hround : ∀ s, P s → P (v.round s)) :
    (b : Block) → Q b → {s : σ} → P s → P (b.walk v s)
  | .loop id times body, hb, s, hs => by
    rw [Block.walk]
    have round (s : σ) (hs : P s) : P (Script.walk v body (v.round s)) :=
      Script.walk_invariant hbody hblock hround body (hbody id times body hb) (hround s hs)
    exact repeat_invariant round _ (hblock _ s hb hs)
  | .move .., hb, s, hs | .turn .., hb, s, hs | .goto .., hb, s, hs | .bubble .., hb, s, hs
  | .unknown, hb, s, hs => hblock _ s hb hs

/-- What is true at first, and kept by each evaluation of a block of the script and by each round,
is true after the walk. -/
theorem Script.walk_invariant {P : σ → Prop} {Q : Block → Prop} {v : Visitor σ}
    (hbody : ∀ id times body, Q (.loop id times body) → ∀ b ∈ body, Q b)
    (hblock : ∀ b s, Q b → P s → P (v.block b s)) (hround : ∀ s, P s → P (v.round s)) :
    (script : Script) → (∀ b ∈ script, Q b) → {s : σ} → P s → P (script.walk v s)
  | [], _, _, hs => hs
  | b :: rest, hscript, _, hs =>
    Script.walk_invariant hbody hblock hround rest
      (fun b hb => hscript b (List.mem_cons_of_mem _ hb))
      (Block.walk_invariant hbody hblock hround b (hscript b List.mem_cons_self) hs)

end

/-! ### Two visitors at once -/

theorem repeat_prod {f : σ × τ → σ × τ} {g : σ → σ} {h : τ → τ} (hf : ∀ s t, f (s, t) = (g s, h t))
    (n : Nat) (s : σ) (t : τ) : Nat.repeat f n (s, t) = (Nat.repeat g n s, Nat.repeat h n t) := by
  induction n with
  | zero => rfl
  | succ n ih => rw [Nat.repeat, ih, hf, Nat.repeat, Nat.repeat]

mutual

theorem Block.walk_prod (v : Visitor σ) (w : Visitor τ) : (b : Block) → (s : σ) → (t : τ) →
    b.walk (v.prod w) (s, t) = (b.walk v s, b.walk w t)
  | .loop id times body, s, t => by
    rw [Block.walk, Block.walk, Block.walk]
    exact repeat_prod (fun s t => Script.walk_prod v w body (v.round s) (w.round t)) _ _ _
  | .move .., _, _ | .turn .., _, _ | .goto .., _, _ | .bubble .., _, _ | .unknown, _, _ => rfl

theorem Script.walk_prod (v : Visitor σ) (w : Visitor τ) : (script : Script) → (s : σ) → (t : τ) →
    script.walk (v.prod w) (s, t) = (script.walk v s, script.walk w t)
  | [], _, _ => rfl
  | b :: rest, s, t => by
    rw [Script.walk, Block.walk_prod v w b, Script.walk_prod v w rest]
    rfl

end

end SpriteStage
