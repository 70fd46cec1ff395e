import SpriteStage.Sorting.Search
import Mathlib.Order.Basic

/-!
# What a search finds

With tests that do not fail, a search from an end of a list finds a number of values and does
nothing else. If the values with the property come first, it finds all of them, whatever places it
tests.
-/

namespace SpriteStage.Sorting

variable {α β : Type} {m : Type → Type} [Monad m]

/-- A computation that does nothing but return a value with a property. -/
def Returns (x : m α) (P : α → Prop) : Prop := ∃ a, x = pure a ∧ P a

namespace Returns

variable {x : m α} {f : α → m β} {P P' : α → Prop} {Q : β → Prop}

theorem pure {a : α} (h : P a) : Returns (Pure.pure a : m α) P := ⟨a, rfl, h⟩

theorem mono (hx : Returns x P) (h : ∀ a, P a → P' a) : Returns x P' := by
  obtain ⟨a, rfl, ha⟩ := hx
  exact .pure (h a ha)

theorem bind [LawfulMonad m] (hx : Returns x P) (hf : ∀ a, P a → Returns (f a) Q) :
    Returns (x >>= f) Q := by
  obtain ⟨a, rfl, ha⟩ := hx
  rw [pure_bind]
  exact hf a ha

theorem foldlM [LawfulMonad m] {f : β → α → m β} {P : β → List α → Prop} {xs : List α} {b : β}
    (hb : P b xs) (hf : ∀ b x rest, P b (x :: rest) → Returns (f b x) (P · rest)) :
    Returns (xs.foldlM f b) (P · []) := by
  induction xs generalizing b with
  | nil => exact .pure hb
  | cons x xs ih =>
    rw [List.foldlM_cons]
    exact (hf b x xs hb).bind fun _ => ih

end Returns

variable [LawfulMonad m]

/-! ### Halving -/

theorem End.middle_lt (e : End) {n : Nat} (h : 0 < n) : e.middle n < n := by
  cases e <;> simp only [middle] <;> omega

/-- A property of places that no place has behind one that lacks it. -/
def ComeFirst (p : Nat → Bool) : Prop := ∀ i j, i ≤ j → p j = true → p i = true

/-- Halving stays between its bounds. If the places that pass come first, it ends behind the last of
them. -/
theorem narrow_returns (e : End) (p : Nat → Bool) {fuel low high : Nat} (hfuel : high - low ≤ fuel)
    (h : low ≤ high) :
    Returns (narrow (m := m) e (fun n => pure (p n)) fuel low high) fun n =>
      (low ≤ n ∧ n ≤ high) ∧ (ComeFirst p →
        (∀ i, low ≤ i → i < n → p i = true) ∧ ∀ i, n ≤ i → i < high → p i = false) := by
  induction fuel generalizing low high with
  | zero =>
    have heq : low = high := by omega
    exact .pure ⟨⟨Nat.le_refl _, h⟩, fun _ => ⟨fun i _ _ => by omega, fun i _ _ => by omega⟩⟩
  | succ fuel ih =>
    rw [narrow]
    split
    · rename_i hlt
      have hmiddle := e.middle_lt (Nat.sub_pos_of_lt hlt)
      simp only [pure_bind]
      generalize hn : low + e.middle (high - low) = n
      split
      · rename_i hpass
        refine (ih (by omega) (by omega)).mono fun k ⟨⟨hle, hhigh⟩, hsplit⟩ =>
          ⟨⟨by omega, hhigh⟩, fun hp => ⟨fun i _ hi => ?_, (hsplit hp).2⟩⟩
        rcases Nat.lt_or_ge n i with hni | hin
        · exact (hsplit hp).1 i hni hi
        · exact hp i n hin hpass
      · rename_i hfail
        refine (ih (by omega) (by omega)).mono fun k ⟨⟨hle, hhigh⟩, hsplit⟩ =>
          ⟨⟨hle, by omega⟩, fun hp => ⟨(hsplit hp).1, fun i hi _ => ?_⟩⟩
        rcases Nat.lt_or_ge i n with hin | hni
        · exact (hsplit hp).2 i hi hin
        · exact Bool.eq_false_iff.2 fun hpass => hfail (hp n i hni hpass)
    · exact .pure ⟨⟨Nat.le_refl _, h⟩, fun _ => ⟨fun i _ _ => by omega, fun i _ _ => by omega⟩⟩

/-! ### Leaping -/

/-- Leaps end at a place that passes, before one that does not pass or is none. -/
theorem leap_returns (p : Nat → Bool) {size fuel last next : Nat} (hfuel : size - next ≤ fuel)
    (hlast : p last = true) (h : last < next) :
    Returns (leap (m := m) (fun n => pure (p n)) size fuel last next) fun r =>
      p r.1 = true ∧ r.1 < r.2 ∧ (r.2 < size → p r.2 = false) := by
  induction fuel generalizing last next with
  | zero => exact .pure ⟨hlast, h, fun hlt => by omega⟩
  | succ fuel ih =>
    rw [leap]
    split
    · simp only [pure_bind]
      split
      · rename_i hpass
        exact ih (by omega) hpass (by omega)
      · rename_i hfail
        exact .pure ⟨hlast, h, fun _ => Bool.eq_false_iff.2 hfail⟩
    · rename_i hout
      exact .pure ⟨hlast, h, fun hlt => absurd hlt hout⟩

/-! ### Both -/

/-- Whether there is a value at a place, and it has a property. -/
def holdsAt (p : α → Bool) (xs : List α) (n : Nat) : Bool := xs[n]?.any p

theorem lt_length_of_holdsAt {p : α → Bool} {xs : List α} {n : Nat} (h : holdsAt p xs n = true) :
    n < xs.length := by
  rw [holdsAt] at h
  cases hx : xs[n]? with
  | none => rw [hx] at h; cases h
  | some x => exact (List.getElem?_eq_some_iff.1 hx).1

theorem comeFirst_holdsAt {p : α → Bool} {xs : List α}
    (h : xs.Pairwise fun x y => p y = true → p x = true) : ComeFirst (holdsAt p xs) := by
  intro i j hij hj
  have hlt := lt_length_of_holdsAt hj
  rw [holdsAt, List.getElem?_eq_getElem hlt] at hj
  rw [holdsAt, List.getElem?_eq_getElem (by omega)]
  rcases Nat.lt_or_eq_of_le hij with hij | rfl
  · exact List.pairwise_iff_getElem.1 h i j (by omega) hlt hij hj
  · exact hj

/-- The places that pass, as values at the front. -/
theorem split_of_holdsAt {p : α → Bool} {xs : List α} {n : Nat}
    (hpass : ∀ i, i < n → holdsAt p xs i = true)
    (hfail : ∀ i, n ≤ i → i < xs.length → holdsAt p xs i = false) :
    (∀ x ∈ xs.take n, p x = true) ∧ ∀ x ∈ xs.drop n, p x = false := by
  constructor
  · intro x hx
    obtain ⟨i, hi, rfl⟩ := List.mem_take_iff_getElem.1 hx
    have h := hpass i (by omega)
    rwa [holdsAt, List.getElem?_eq_getElem (by omega)] at h
  · intro x hx
    obtain ⟨i, hi, rfl⟩ := List.mem_drop_iff_getElem.1 hx
    have h := hfail (n + i) (by omega) (by omega)
    rwa [holdsAt, List.getElem?_eq_getElem (by omega)] at h

omit [LawfulMonad m] in
theorem testAt_eq (p : α → Bool) (xs : List α) :
    testAt (m := m) (fun x => pure (p x)) xs = fun n => pure (holdsAt p xs n) := by
  funext n
  rw [testAt, holdsAt]
  cases xs[n]? <;> rfl

/-- A search finds no more values than there are. If those with the property come first, it finds
them all and no others. -/
theorem leading_returns (e : End) (p : α → Bool) (xs : List α) :
    Returns (leading (m := m) e (fun x => pure (p x)) xs) fun n => n ≤ xs.length ∧
      ((xs.Pairwise fun x y => p y = true → p x = true) →
        (∀ x ∈ xs.take n, p x = true) ∧ ∀ x ∈ xs.drop n, p x = false) := by
  simp only [leading, testAt_eq, pure_bind]
  split
  · rename_i hfirst
    refine (leap_returns _ (by omega) hfirst Nat.zero_lt_one).bind fun r ⟨hlast, hlt, hnext⟩ => ?_
    have hsize := lt_length_of_holdsAt hlast
    refine (narrow_returns e _ (by omega) (by omega)).mono fun n ⟨⟨hlow, hhigh⟩, hsplit⟩ =>
      ⟨by omega, fun hp => ?_⟩
    have hp := comeFirst_holdsAt hp
    obtain ⟨hpass, hfail⟩ := hsplit hp
    refine split_of_holdsAt (fun i hi => ?_) fun i hi hsize => ?_
    · rcases Nat.lt_or_ge r.1 i with hri | hir
      · exact hpass i hri hi
      · exact hp i r.1 hir hlast
    · rcases Nat.lt_or_ge i r.2 with hir | hri
      · exact hfail i hi (by omega)
      · exact Bool.eq_false_iff.2 fun h =>
          absurd (hp r.2 i hri h) (Bool.eq_false_iff.1 (hnext (by omega)))
  · rename_i hfirst
    refine .pure ⟨Nat.zero_le _, fun hp => split_of_holdsAt (fun i hi => by omega) fun i _ _ => ?_⟩
    exact Bool.eq_false_iff.2 fun h => hfirst (comeFirst_holdsAt hp 0 i (Nat.zero_le i) h)

end SpriteStage.Sorting
