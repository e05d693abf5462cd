import Mathlib.Data.List.Nodup
import Mathlib.Data.Finset.Card
import Mathlib.Data.Finset.Dedup

/-! A least-recently-used set of bounded capacity, and how long a key stays in it. -/

namespace Foundation

variable {κ : Type} [DecidableEq κ]

def touch (order : List κ) (key : κ) : List κ := key :: order.erase key

theorem nodup_touch {order : List κ} (nodup : order.Nodup) (key : κ) : (touch order key).Nodup :=
  List.nodup_cons.mpr ⟨fun member => (nodup.mem_erase_iff.mp member).1 rfl, nodup.erase key⟩

theorem take_touch_take (capacity : Nat) (order : List κ) (key : κ) :
    (touch (order.take capacity) key).take capacity = (touch order key).take capacity := by
  induction capacity generalizing order with
  | zero => rfl
  | succ capacity ih =>
      cases order with
      | nil => rfl
      | cons head tail =>
          by_cases same : head = key
          · simp [touch, same, List.take_take]
          · cases capacity with
            | zero => simp [touch]
            | succ capacity =>
                have rest := ih tail
                simp only [touch, List.take_succ_cons, List.cons.injEq, true_and] at rest
                simp [touch, same, rest]

theorem split_touches (key : κ) (rest later : List κ) (absent : key ∉ later)
    (nodup : (key :: rest).Nodup) :
    ∃ newer older, later.foldl touch (key :: rest) = newer ++ key :: older ∧
      (newer ++ key :: older).Nodup ∧ newer.toFinset = later.toFinset := by
  induction later using List.reverseRecOn with
  | nil => exact ⟨[], rest, rfl, nodup, rfl⟩
  | append_singleton later last ih =>
      simp only [List.mem_append, List.mem_singleton, not_or] at absent
      rcases ih absent.1 with ⟨newer, older, order, distinct, same⟩
      rw [List.foldl_append, List.foldl_cons, List.foldl_nil, order]
      have other : last ≠ key := Ne.symm absent.2
      have next := nodup_touch distinct last
      by_cases member : last ∈ newer
      · have shape : touch (newer ++ key :: older) last =
            (last :: newer.erase last) ++ key :: older := by
          simp [touch, List.erase_append_left _ member]
        rw [shape] at next ⊢
        have inside : last ∈ later.toFinset := by
          rw [← same]
          exact List.mem_toFinset.mpr member
        have newerNodup : newer.Nodup := (List.nodup_append.mp distinct).1
        refine ⟨_, _, rfl, next, ?_⟩
        ext k
        have found := Finset.ext_iff.mp same k
        simp only [List.mem_toFinset] at found inside
        simp only [List.toFinset_cons, Finset.mem_insert, List.mem_toFinset,
          newerNodup.mem_erase_iff, List.mem_append, List.mem_singleton, found]
        by_cases hk : k = last
        · simp [hk]
        · simp [hk]
      · have shape : touch (newer ++ key :: older) last =
            (last :: newer) ++ key :: older.erase last := by
          simp [touch, List.erase_append_right _ member, other.symm]
        rw [shape] at next ⊢
        refine ⟨_, _, rfl, next, ?_⟩
        rw [List.toFinset_cons, same, List.toFinset_append]
        ext k
        simp

theorem dedup_concat (keys : List κ) (last : κ) :
    (keys ++ [last]).dedup = keys.dedup.erase last ++ [last] := by
  induction keys with
  | nil => rfl
  | cons key keys ih =>
      by_cases later : key ∈ keys
      · have still : key ∈ keys ++ [last] := List.mem_append_left _ later
        rw [List.cons_append, List.dedup_cons_of_mem still, List.dedup_cons_of_mem later, ih]
      · by_cases same : key = last
        · subst same
          have again : key ∈ keys ++ [key] := List.mem_append_right _ (List.mem_singleton_self _)
          have absent : key ∉ keys.dedup := mt List.mem_dedup.mp later
          rw [List.cons_append, List.dedup_cons_of_mem again, List.dedup_cons_of_notMem later, ih,
            List.erase_cons_head, List.erase_of_not_mem absent]
        · have new : key ∉ keys ++ [last] := by
            simp [later, same]
          rw [List.cons_append, List.dedup_cons_of_notMem new, List.dedup_cons_of_notMem later, ih,
            List.erase_cons_tail (by simpa using same), List.cons_append]

theorem touches_nil (keys : List κ) : keys.foldl touch [] = keys.dedup.reverse := by
  induction keys using List.reverseRecOn with
  | nil => rfl
  | append_singleton keys last ih =>
      rw [List.foldl_append, ih, dedup_concat, List.reverse_append, List.foldl_cons,
        List.foldl_nil, touch]
      have distinct : keys.dedup.reverse.Nodup := List.nodup_reverse.mpr (List.nodup_dedup _)
      rw [List.reverse_singleton, List.singleton_append, distinct.erase_eq_filter,
        (List.nodup_dedup keys).erase_eq_filter, List.filter_reverse]

structure Lru (capacity : Nat) (κ : Type) where
  /-- The keys held, the most recent first. -/
  recent : List κ
  nodup : recent.Nodup
  length_le : recent.length ≤ capacity

namespace Lru

variable {capacity : Nat}

def empty : Lru capacity κ := ⟨[], List.nodup_nil, Nat.zero_le _⟩

def contains (cache : Lru capacity κ) (key : κ) : Bool := decide (key ∈ cache.recent)

def put (cache : Lru capacity κ) (key : κ) : Lru capacity κ where
  recent := (touch cache.recent key).take capacity
  nodup := (nodup_touch cache.nodup key).sublist (List.take_sublist _ _)
  length_le := by simp

def putAll (cache : Lru capacity κ) (keys : List κ) : Lru capacity κ := keys.foldl put cache

@[simp] theorem contains_eq_true {cache : Lru capacity κ} {key : κ} :
    cache.contains key = true ↔ key ∈ cache.recent := by simp [contains]

@[simp] theorem putAll_nil (cache : Lru capacity κ) : cache.putAll [] = cache := rfl

@[simp] theorem putAll_cons (cache : Lru capacity κ) (key : κ) (keys : List κ) :
    cache.putAll (key :: keys) = (cache.put key).putAll keys := rfl

theorem putAll_append (cache : Lru capacity κ) (front back : List κ) :
    cache.putAll (front ++ back) = (cache.putAll front).putAll back := List.foldl_append ..

theorem recent_putAll (cache : Lru capacity κ) (keys : List κ) :
    (cache.putAll keys).recent = (keys.foldl touch cache.recent).take capacity := by
  induction keys using List.reverseRecOn with
  | nil => exact (List.take_of_length_le cache.length_le).symm
  | append_singleton keys last ih =>
      rw [putAll_append, List.foldl_append]
      simp only [putAll_cons, putAll_nil, put, List.foldl_cons, List.foldl_nil, ih]
      exact take_touch_take capacity _ last

theorem recent_putAll_empty (keys : List κ) :
    ((empty : Lru capacity κ).putAll keys).recent = keys.dedup.reverse.take capacity := by
  rw [recent_putAll, empty, touches_nil]

theorem recent_put_of_mem {cache : Lru capacity κ} {key : κ} (held : key ∈ cache.recent) :
    (cache.put key).recent = key :: cache.recent.erase key := by
  apply List.take_of_length_le
  have positive : 0 < cache.recent.length := List.length_pos_of_mem held
  have bound := cache.length_le
  rw [touch, List.length_cons, List.length_erase_of_mem held]
  omega

theorem recent_put_of_notMem {cache : Lru capacity κ} {key : κ} (absent : key ∉ cache.recent) :
    (cache.put key).recent = (key :: cache.recent).take capacity := by
  have moved : touch cache.recent key = key :: cache.recent :=
    congrArg (key :: ·) (List.erase_of_not_mem absent)
  exact congrArg (List.take capacity) moved

theorem mem_putAll_put (cache : Lru capacity κ) (key : κ) (later : List κ)
    (absent : key ∉ later) :
    key ∈ ((cache.put key).putAll later).recent ↔ later.toFinset.card < capacity := by
  have whole : ((cache.put key).putAll later).recent =
      (later.foldl touch (key :: cache.recent.erase key)).take capacity := by
    rw [← putAll_cons, recent_putAll, List.foldl_cons]
    rfl
  have fresh := nodup_touch cache.nodup key
  rcases split_touches key _ later absent fresh with ⟨newer, older, order, distinct, same⟩
  rcases List.nodup_append.mp distinct with ⟨newerNodup, _, apart⟩
  have outside : key ∉ newer := fun member => apart key member key (by simp) rfl
  rw [whole, order, ← same, List.toFinset_card_of_nodup newerNodup, List.take_append]
  constructor
  · intro member
    rcases List.mem_append.mp member with front | back
    · exact absurd (List.mem_of_mem_take front) outside
    · by_contra full
      have none : capacity - newer.length = 0 := by omega
      rw [none] at back
      cases back
  · intro room
    obtain ⟨space, hs⟩ : ∃ space, capacity - newer.length = space + 1 :=
      ⟨capacity - newer.length - 1, by omega⟩
    rw [hs, List.take_succ_cons]
    simp

theorem capacity_le_of_evicted (cache : Lru capacity κ) (key : κ) (later : List κ)
    (evicted : key ∉ ((cache.put key).putAll later).recent) :
    capacity ≤ (later.toFinset.erase key).card := by
  obtain ⟨back, front, reversed, absent⟩ :=
    List.eq_append_cons_of_mem (List.mem_reverse.mpr (@List.mem_cons_self _ key later))
  have split : key :: later = front.reverse ++ key :: back.reverse := by
    rw [← List.reverse_reverse (key :: later), reversed]
    simp
  rw [← putAll_cons, split, putAll_append, putAll_cons,
    mem_putAll_put _ key back.reverse (by simpa using absent), Nat.not_lt] at evicted
  refine evicted.trans (Finset.card_le_card fun other member => ?_)
  rw [List.mem_toFinset, List.mem_reverse] at member
  have distinct : other ≠ key := fun same => absent (same ▸ member)
  have present : other ∈ key :: later := by
    rw [split]
    simp [member]
  rw [Finset.mem_erase, List.mem_toFinset]
  exact ⟨distinct, (List.mem_cons.mp present).resolve_left distinct⟩

theorem eq_or_mem_of_mem_put {cache : Lru capacity κ} {key other : κ}
    (member : other ∈ (cache.put key).recent) : other = key ∨ other ∈ cache.recent := by
  rcases List.mem_cons.mp (List.mem_of_mem_take member) with same | rest
  · exact .inl same
  · exact .inr (List.mem_of_mem_erase rest)

theorem mem_put (cache : Lru capacity κ) (key : κ) (positive : 0 < capacity) :
    key ∈ (cache.put key).recent := by
  have kept := mem_putAll_put cache key [] (by simp)
  simpa using kept.mpr (by simpa using positive)

end Lru

end Foundation
