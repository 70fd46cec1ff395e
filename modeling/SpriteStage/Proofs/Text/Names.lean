import SpriteStage.Ids
import SpriteStage.Text.Blank

/-!
# Names

What is left of a text without the blanks at its ends is a name, unless nothing is left. A name
stays as it is when it is trimmed again, and the identifiers that are given out are names.
-/

namespace SpriteStage.Text

/-- A text that is not empty and neither begins nor ends with a blank. -/
structure IsName (s : String) : Prop where
  nonempty : s ≠ ""
  first : ∀ c ∈ s.toList.head?, isBlank c = false
  last : ∀ c ∈ s.toList.getLast?, isBlank c = false

theorem isName_iff {s : String} : IsName s ↔ s ≠ "" ∧
    (s.toList.head?.all fun c => !isBlank c) = true ∧
    (s.toList.getLast?.all fun c => !isBlank c) = true := by
  simp only [Option.all_eq_true, Bool.not_eq_true']
  exact ⟨fun h => ⟨h.nonempty, h.first, h.last⟩, fun h => ⟨h.1, h.2.1, h.2.2⟩⟩

instance (s : String) : Decidable (IsName s) := decidable_of_iff _ isName_iff.symm

variable {α : Type} {p : α → Bool}

theorem head?_dropWhile (cs : List α) : ∀ c ∈ (cs.dropWhile p).head?, p c = false := by
  intro c hc
  have h := List.head?_dropWhile_not p cs
  rw [Option.mem_def.1 hc] at h
  exact h

theorem getLast?_trimList {cs : List α} : ∀ c ∈ (trimList p cs).getLast?, p c = false := by
  rw [trimList, List.getLast?_reverse]
  exact head?_dropWhile _

/-- The second pass of trimming does not reach the first member that the first pass has left. -/
theorem head?_trimList {cs : List α} : ∀ c ∈ (trimList p cs).head?, p c = false := by
  intro c hc
  rw [trimList, List.head?_reverse] at hc
  obtain ⟨dropped, h⟩ := List.dropWhile_suffix p (l := (cs.dropWhile p).reverse)
  apply head?_dropWhile cs c
  rw [← List.getLast?_reverse, ← h, List.getLast?_append, Option.mem_def.1 hc]
  rfl

theorem IsName.trim_eq {s : String} (h : IsName s) : trim s = s := by
  rw [trim, trimBy, trimList_eq_self h.first h.last, String.ofList_toList]

theorem isName_trim {s : String} (h : trim s ≠ "") : IsName (trim s) where
  nonempty := h
  first := by
    rw [trim, trimBy, String.toList_ofList]
    exact head?_trimList
  last := by
    rw [trim, trimBy, String.toList_ofList]
    exact getLast?_trimList

/-- What is put behind a name leaves it a name, if it does not end in a blank. -/
theorem IsName.append {s rest : String} (h : IsName s) (hrest : rest ≠ "")
    (hlast : ∀ c ∈ rest.toList.getLast?, isBlank c = false) : IsName (s ++ rest) := by
  have hs : s.toList ≠ [] := fun hnil => h.nonempty (String.toList_eq_nil_iff.1 hnil)
  have hrest : rest.toList ≠ [] := fun hnil => hrest (String.toList_eq_nil_iff.1 hnil)
  refine ⟨fun hempty => hs ?_, fun c hc => h.first c ?_, fun c hc => hlast c ?_⟩
  · have hlist := congrArg String.toList hempty
    rw [String.toList_append] at hlist
    exact (List.append_eq_nil_iff.1 hlist).1
  · rwa [String.toList_append, List.head?_append, Option.or_of_isSome (by simpa using hs)] at hc
  · rwa [String.toList_append, List.getLast?_append, Option.or_of_isSome (by simpa using hrest)]
      at hc

theorem getLast?_toDigits {base : Nat} (h : 1 < base) (n : Nat) :
    (Nat.toDigits base n).getLast? = some (Nat.digitChar (n % base)) := by
  by_cases hn : n < base
  · rw [Nat.toDigits_of_lt_base hn, Nat.mod_eq_of_lt hn]
    rfl
  · rw [Nat.toDigits_of_base_le h (by omega), List.getLast?_concat]

theorem isBlank_digitChar {d : Nat} (h : d < 16) : isBlank (Nat.digitChar d) = false := by
  have hdigit : ∀ d < 16, isBlank (Nat.digitChar d) = false := by decide
  exact hdigit d h

/-- A numbered identifier is a name if it starts with one. -/
theorem isName_label {name : String} (h : IsName name) (n : Nat) : IsName (Ids.label name n) := by
  have hdash : ∀ c ∈ "-".toList.getLast?, isBlank c = false := by
    intro c hc
    obtain rfl : '-' = c := Option.some.inj hc
    decide
  refine (h.append (by decide) hdash).append ?_ fun c hc => ?_
  · intro hempty
    have hlist := congrArg String.toList hempty
    rw [String.toList_ofList, hex] at hlist
    exact Nat.toDigits_ne_nil (List.append_eq_nil_iff.1 hlist).2
  · rw [String.toList_ofList, hex, List.getLast?_append, getLast?_toDigits (by decide)] at hc
    cases hc
    exact isBlank_digitChar (Nat.mod_lt n (by decide))

theorem IsName.append_toString {s : String} (h : IsName s) (n : Nat) :
    IsName (s ++ toString n) := by
  have hlist : (toString n).toList = Nat.toDigits 10 n := by
    rw [Nat.toString_eq_repr, Nat.repr_eq_ofList_toDigits, String.toList_ofList]
  refine h.append (fun hempty => ?_) fun c hc => ?_
  · rw [hempty] at hlist
    exact Nat.toDigits_ne_nil hlist.symm
  · rw [hlist, getLast?_toDigits (by decide)] at hc
    cases hc
    exact isBlank_digitChar (Nat.lt_trans (Nat.mod_lt n (by decide)) (by decide))

end SpriteStage.Text
