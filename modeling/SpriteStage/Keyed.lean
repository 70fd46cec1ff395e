/-!
# Values under names

A `Keyed` holds values under distinct names, in the order in which the names came. Storing under a
name that is there keeps its place. `keys` is the view of the order and `get?` the view of the
contents; each operation says what it does to both.
-/

namespace SpriteStage

/-- Values under distinct names, in order. -/
structure Keyed (α : Type) where
  entries : List (String × α)
  distinct : (entries.map Prod.fst).Nodup

namespace Keyed

variable {α β : Type}

def empty : Keyed α := ⟨[], .nil⟩

instance : Inhabited (Keyed α) := ⟨empty⟩

def keys (m : Keyed α) : List String := m.entries.map Prod.fst

def values (m : Keyed α) : List α := m.entries.map Prod.snd

def size (m : Keyed α) : Nat := m.entries.length

def get? (m : Keyed α) (key : String) : Option α := m.entries.lookup key

def contains (m : Keyed α) (key : String) : Bool := (m.get? key).isSome

/-- Entries with a value stored under a name. -/
def putEntry (key : String) (v : α) : List (String × α) → List (String × α)
  | [] => [(key, v)]
  | e :: rest => if e.1 = key then (key, v) :: rest else e :: putEntry key v rest

theorem mem_keys_putEntry {key k : String} {v : α} {es : List (String × α)} :
    k ∈ (putEntry key v es).map Prod.fst ↔ k = key ∨ k ∈ es.map Prod.fst := by
  induction es with
  | nil => simp [putEntry]
  | cons e es ih =>
    by_cases h : e.1 = key
    · simp [putEntry, h]
    · simp only [putEntry, h, if_false, List.map_cons, List.mem_cons, ih]
      exact or_left_comm

theorem nodup_putEntry {key : String} {v : α} {es : List (String × α)}
    (h : (es.map Prod.fst).Nodup) : ((putEntry key v es).map Prod.fst).Nodup := by
  induction es with
  | nil => simp [putEntry]
  | cons e es ih =>
    have hd := List.nodup_cons.1 h
    by_cases he : e.1 = key
    · rw [putEntry, if_pos he]
      exact he ▸ h
    · rw [putEntry, if_neg he]
      refine List.nodup_cons.2 ⟨fun hm => ?_, ih hd.2⟩
      rcases mem_keys_putEntry.1 hm with hk | hk
      · exact he hk
      · exact hd.1 hk

/-- Stores a value under a name: in place of the one there, or at the end. -/
def put (m : Keyed α) (key : String) (v : α) : Keyed α :=
  ⟨putEntry key v m.entries, nodup_putEntry m.distinct⟩

/-- Takes away the value under a name. -/
def erase (m : Keyed α) (key : String) : Keyed α :=
  ⟨m.entries.filter fun e => e.1 != key,
    m.distinct.sublist ((List.filter_sublist).map Prod.fst)⟩

/-- The values that a function makes of the names and values. -/
def map (f : String → α → β) (m : Keyed α) : Keyed β :=
  ⟨m.entries.map fun e => (e.1, f e.1 e.2), by
    simpa [List.map_map, Function.comp_def] using m.distinct⟩

@[simp] theorem keys_empty : (empty : Keyed α).keys = [] := rfl

@[simp] theorem get?_empty (key : String) : (empty : Keyed α).get? key = none := rfl

@[simp] theorem keys_map (f : String → α → β) (m : Keyed α) : (m.map f).keys = m.keys := by
  simp [keys, map, List.map_map, Function.comp_def]

private theorem lookup_cons_ite (e : String × α) (es : List (String × α)) (k : String) :
    (e :: es).lookup k = if k = e.1 then some e.2 else es.lookup k := by
  rw [show (e :: es).lookup k = _ from List.lookup_cons]
  by_cases h : k = e.1
  · rw [beq_iff_eq.2 h, if_pos h]
  · rw [beq_false_of_ne h, if_neg h]

private theorem lookup_map (f : String → α → β) (es : List (String × α)) (key : String) :
    (es.map fun e => (e.1, f e.1 e.2)).lookup key = (es.lookup key).map (f key) := by
  induction es with
  | nil => rfl
  | cons e es ih =>
    rw [List.map_cons, lookup_cons_ite, lookup_cons_ite, ih]
    split
    · rename_i h
      rw [h]
      rfl
    · rfl

@[simp] theorem get?_map (f : String → α → β) (m : Keyed α) (key : String) :
    (m.map f).get? key = (m.get? key).map (f key) :=
  lookup_map f m.entries key

private theorem lookup_putEntry (es : List (String × α)) (key k : String) (v : α) :
    (putEntry key v es).lookup k = if k = key then some v else es.lookup k := by
  induction es with
  | nil => exact lookup_cons_ite (key, v) [] k
  | cons e es ih =>
    by_cases he : e.1 = key
    · rw [putEntry, if_pos he, lookup_cons_ite, lookup_cons_ite, he]
      split <;> rfl
    · rw [putEntry, if_neg he, lookup_cons_ite, lookup_cons_ite, ih]
      by_cases hk : k = e.1
      · rw [if_pos hk, if_neg (hk ▸ he), if_pos hk]
      · rw [if_neg hk, if_neg hk]

theorem get?_put (m : Keyed α) (key k : String) (v : α) :
    (m.put key v).get? k = if k = key then some v else m.get? k :=
  lookup_putEntry m.entries key k v

private theorem lookup_filter (es : List (String × α)) (key k : String) :
    (es.filter fun e => e.1 != key).lookup k = if k = key then none else es.lookup k := by
  induction es with
  | nil => exact (ite_self none).symm
  | cons e es ih =>
    by_cases he : e.1 = key
    · rw [List.filter_cons_of_neg (by simp [he]), ih, lookup_cons_ite, he]
      split <;> rfl
    · rw [List.filter_cons_of_pos (by simp [he]), lookup_cons_ite, lookup_cons_ite, ih]
      by_cases hk : k = e.1
      · rw [if_pos hk, if_neg (hk ▸ he), if_pos hk]
      · rw [if_neg hk, if_neg hk]

theorem get?_erase (m : Keyed α) (key k : String) :
    (m.erase key).get? k = if k = key then none else m.get? k :=
  lookup_filter m.entries key k

/-! ### The order of the names -/

theorem mem_keys {m : Keyed α} {key : String} : key ∈ m.keys ↔ ∃ v, m.get? key = some v := by
  rw [← Option.isSome_iff_exists, get?, List.lookup_isSome_iff, keys, List.mem_map]
  constructor
  · rintro ⟨e, he, rfl⟩
    exact ⟨e, he, beq_self_eq_true _⟩
  · rintro ⟨e, he, hk⟩
    exact ⟨e, he, (beq_iff_eq.1 hk).symm⟩

theorem not_mem_keys {m : Keyed α} {key : String} : key ∉ m.keys ↔ m.get? key = none := by
  rw [mem_keys, ← Option.isSome_iff_exists, Bool.not_eq_true, Option.isSome_eq_false_iff,
    Option.isNone_iff_eq_none]

/-- What is stored under a name is found there. -/
theorem get?_of_mem {m : Keyed α} {e : String × α} (h : e ∈ m.entries) : m.get? e.1 = some e.2 := by
  obtain ⟨es, distinct⟩ := m
  rw [get?]
  induction es with
  | nil => cases h
  | cons e' es ih =>
    have hd := List.nodup_cons.1 distinct
    rcases List.mem_cons.1 h with rfl | h
    · exact List.lookup_cons_self
    · have hne : (e.1 == e'.1) = false :=
        beq_false_of_ne fun heq => hd.1 (heq ▸ List.mem_map_of_mem h)
      rw [show (e' :: es).lookup e.1 = _ from List.lookup_cons, hne]
      exact ih hd.2 h

theorem keys_put_of_mem {m : Keyed α} {key : String} (h : key ∈ m.keys) (v : α) :
    (m.put key v).keys = m.keys := by
  obtain ⟨es, distinct⟩ := m
  change key ∈ es.map Prod.fst at h
  change (putEntry key v es).map Prod.fst = es.map Prod.fst
  clear distinct
  induction es with
  | nil => cases h
  | cons e es ih =>
    by_cases he : e.1 = key
    · rw [putEntry, if_pos he, List.map_cons, List.map_cons, he]
    · rw [putEntry, if_neg he, List.map_cons, List.map_cons,
        ih ((List.mem_cons.1 h).resolve_left (Ne.symm he))]

theorem keys_put_of_not_mem {m : Keyed α} {key : String} (h : key ∉ m.keys) (v : α) :
    (m.put key v).keys = m.keys ++ [key] := by
  obtain ⟨es, distinct⟩ := m
  change key ∉ es.map Prod.fst at h
  change (putEntry key v es).map Prod.fst = es.map Prod.fst ++ [key]
  clear distinct
  induction es with
  | nil => rfl
  | cons e es ih =>
    have hne := not_or.1 (mt List.mem_cons.2 h)
    rw [putEntry, if_neg (Ne.symm hne.1), List.map_cons, List.map_cons, ih hne.2]
    rfl

theorem keys_erase (m : Keyed α) (key : String) :
    (m.erase key).keys = m.keys.filter fun k => k != key := by
  rw [keys, erase, keys, List.filter_map]
  rfl

end Keyed

end SpriteStage
