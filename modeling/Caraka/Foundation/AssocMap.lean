import Mathlib.Data.List.Nodup

/-! Finite maps as association lists whose keys are distinct. -/

namespace Foundation

variable {κ υ : Type} [DecidableEq κ]

def lookup (key : κ) : List (κ × υ) → Option υ
  | [] => none
  | (k, v) :: rest => if k = key then some v else lookup key rest

def replace (key : κ) (value : υ) : List (κ × υ) → List (κ × υ)
  | [] => [(key, value)]
  | (k, v) :: rest => if k = key then (key, value) :: rest else (k, v) :: replace key value rest

theorem mem_of_lookup {key : κ} {value : υ} {entries : List (κ × υ)}
    (found : lookup key entries = some value) : (key, value) ∈ entries := by
  induction entries with
  | nil => cases found
  | cons entry rest ih =>
      rcases entry with ⟨k, v⟩
      by_cases same : k = key
      · simp only [lookup, same, if_true, Option.some.injEq] at found
        simp [same, found]
      · simp only [lookup, same, if_false] at found
        exact List.mem_cons_of_mem _ (ih found)

theorem lookup_of_mem {key : κ} {value : υ} {entries : List (κ × υ)}
    (nodup : (entries.map Prod.fst).Nodup) (member : (key, value) ∈ entries) :
    lookup key entries = some value := by
  induction entries with
  | nil => cases member
  | cons entry rest ih =>
      simp only [List.map_cons, List.nodup_cons] at nodup
      rcases List.mem_cons.mp member with rfl | later
      · simp [lookup]
      · have distinct : entry.1 ≠ key := by
          rintro rfl
          exact nodup.1 (List.mem_map.mpr ⟨_, later, rfl⟩)
        simpa [lookup, distinct] using ih nodup.2 later

theorem lookup_replace (key other : κ) (value : υ) (entries : List (κ × υ)) :
    lookup other (replace key value entries) =
      if other = key then some value else lookup other entries := by
  induction entries with
  | nil => simp only [lookup, replace, eq_comm]
  | cons entry rest ih =>
      rcases entry with ⟨k, v⟩
      by_cases hk : k = key
      · by_cases same : other = key
        · simp [lookup, replace, hk, same]
        · simp [lookup, replace, hk, same, Ne.symm same]
      · by_cases same : other = key
        · subst same
          simpa [lookup, replace, hk] using ih
        · by_cases ho : k = other <;> simp [lookup, replace, hk, ih, same, ho]

theorem keys_replace (key : κ) (value : υ) (entries : List (κ × υ)) :
    (replace key value entries).map Prod.fst =
      if key ∈ entries.map Prod.fst then entries.map Prod.fst
      else entries.map Prod.fst ++ [key] := by
  induction entries with
  | nil => simp [replace]
  | cons entry rest ih =>
      by_cases hk : entry.1 = key
      · simp [replace, hk]
      · simp only [replace, hk, if_false, List.map_cons, ih, List.mem_cons, Ne.symm hk, false_or]
        split <;> simp

theorem lookup_filter (key other : κ) (entries : List (κ × υ)) :
    lookup other (entries.filter fun entry => entry.1 ≠ key) =
      if other = key then none else lookup other entries := by
  induction entries with
  | nil => simp [lookup]
  | cons entry rest ih =>
      rcases entry with ⟨k, v⟩
      by_cases hk : k = key
      · by_cases same : other = key
        · simpa [List.filter_cons, hk, same] using ih
        · simpa [List.filter_cons, lookup, hk, same, Ne.symm same] using ih
      · by_cases same : other = key
        · simpa [List.filter_cons, lookup, hk, same] using ih
        · by_cases ho : k = other <;> simp_all [lookup]

theorem lookup_map (change : κ → υ → υ) (key : κ) (entries : List (κ × υ)) :
    lookup key (entries.map fun entry => (entry.1, change entry.1 entry.2)) =
      (lookup key entries).map (change key) := by
  induction entries with
  | nil => rfl
  | cons entry rest ih =>
      by_cases hk : entry.1 = key
      · simp [lookup, hk]
      · simp [lookup, hk, ih]

structure AssocMap (κ υ : Type) where
  entries : List (κ × υ)
  keys_nodup : (entries.map Prod.fst).Nodup

namespace AssocMap

def empty : AssocMap κ υ := ⟨[], List.nodup_nil⟩

def get? (m : AssocMap κ υ) (key : κ) : Option υ := lookup key m.entries

def insert (m : AssocMap κ υ) (key : κ) (value : υ) : AssocMap κ υ where
  entries := replace key value m.entries
  keys_nodup := by
    rw [keys_replace]
    split
    · exact m.keys_nodup
    · rename_i absent
      exact List.Nodup.append m.keys_nodup (List.nodup_singleton key)
        (List.disjoint_singleton.mpr absent)

def erase (m : AssocMap κ υ) (key : κ) : AssocMap κ υ where
  entries := m.entries.filter fun entry => entry.1 ≠ key
  keys_nodup := m.keys_nodup.sublist (List.filter_sublist.map Prod.fst)

def mapValues (m : AssocMap κ υ) (change : κ → υ → υ) : AssocMap κ υ where
  entries := m.entries.map fun entry => (entry.1, change entry.1 entry.2)
  keys_nodup := by
    have keys : (m.entries.map fun entry => (entry.1, change entry.1 entry.2)).map Prod.fst =
        m.entries.map Prod.fst := by simp
    rw [keys]
    exact m.keys_nodup

def modify (m : AssocMap κ υ) (key : κ) (change : υ → υ) : AssocMap κ υ :=
  m.mapValues fun k v => if k = key then change v else v

@[simp] theorem get?_empty (key : κ) : (empty : AssocMap κ υ).get? key = none := rfl

theorem get?_eq_some {m : AssocMap κ υ} {key : κ} {value : υ} :
    m.get? key = some value ↔ (key, value) ∈ m.entries :=
  ⟨mem_of_lookup, lookup_of_mem m.keys_nodup⟩

theorem get?_insert (m : AssocMap κ υ) (key other : κ) (value : υ) :
    (m.insert key value).get? other = if other = key then some value else m.get? other :=
  lookup_replace key other value m.entries

@[simp] theorem get?_insert_self (m : AssocMap κ υ) (key : κ) (value : υ) :
    (m.insert key value).get? key = some value := by simp [get?_insert]

theorem get?_insert_ne (m : AssocMap κ υ) {key other : κ} (value : υ) (distinct : other ≠ key) :
    (m.insert key value).get? other = m.get? other := by simp [get?_insert, distinct]

theorem get?_erase (m : AssocMap κ υ) (key other : κ) :
    (m.erase key).get? other = if other = key then none else m.get? other :=
  lookup_filter key other m.entries

theorem get?_mapValues (m : AssocMap κ υ) (change : κ → υ → υ) (key : κ) :
    (m.mapValues change).get? key = (m.get? key).map (change key) :=
  lookup_map change key m.entries

theorem get?_modify (m : AssocMap κ υ) (key other : κ) (change : υ → υ) :
    (m.modify key change).get? other =
      if other = key then (m.get? other).map change else m.get? other := by
  rw [modify, get?_mapValues]
  split <;> simp

@[simp] theorem get?_modify_self (m : AssocMap κ υ) (key : κ) (change : υ → υ) :
    (m.modify key change).get? key = (m.get? key).map change := by simp [get?_modify]

theorem get?_modify_ne (m : AssocMap κ υ) {key other : κ} (change : υ → υ)
    (distinct : other ≠ key) : (m.modify key change).get? other = m.get? other := by
  simp [get?_modify, distinct]

omit [DecidableEq κ] in
theorem entries_injective {m n : AssocMap κ υ} (same : m.entries = n.entries) : m = n := by
  cases m
  cases n
  cases same
  rfl

theorem mapValues_eq_self {m : AssocMap κ υ} {change : κ → υ → υ}
    (fixed : ∀ key value, m.get? key = some value → change key value = value) :
    m.mapValues change = m := by
  apply entries_injective
  apply (List.map_congr_left fun entry member => ?_).trans (List.map_id m.entries)
  rw [fixed entry.1 entry.2 (get?_eq_some.mpr member), id]

theorem modify_eq_self {m : AssocMap κ υ} {key : κ} {change : υ → υ}
    (fixed : ∀ value, m.get? key = some value → change value = value) :
    m.modify key change = m := by
  apply mapValues_eq_self
  intro other value found
  split
  · rename_i same
    exact fixed value (same ▸ found)
  · rfl

theorem entries_modify {m : AssocMap κ υ} {key : κ} {value : υ} (found : m.get? key = some value)
    (change : υ → υ) : ∃ front back, m.entries = front ++ (key, value) :: back ∧
      (m.modify key change).entries = front ++ (key, change value) :: back := by
  rcases List.append_of_mem (get?_eq_some.mp found) with ⟨front, back, split⟩
  refine ⟨front, back, split, ?_⟩
  have distinct := m.keys_nodup
  rw [split, List.map_append, List.map_cons, List.nodup_append, List.nodup_cons] at distinct
  have same : ∀ entries : List (κ × υ), key ∉ entries.map Prod.fst →
      (entries.map fun entry => (entry.1, if entry.1 = key then change entry.2 else entry.2)) =
        entries := by
    intro entries absent
    apply (List.map_congr_left fun entry member => ?_).trans (List.map_id entries)
    have other : entry.1 ≠ key := by
      intro same
      rw [← same] at absent
      exact absent (List.mem_map_of_mem member)
    rw [if_neg other, id]
  have before : key ∉ front.map Prod.fst := fun member =>
    distinct.2.2 key member key List.mem_cons_self rfl
  change m.entries.map (fun entry =>
    (entry.1, if entry.1 = key then change entry.2 else entry.2)) = _
  rw [split, List.map_append, List.map_cons, same front before, same back distinct.2.1.1,
    if_pos rfl]

theorem mem_values {m : AssocMap κ υ} {value : υ} :
    value ∈ m.entries.map Prod.snd ↔ ∃ key, m.get? key = some value := by
  simp [get?_eq_some]

end AssocMap

end Foundation
