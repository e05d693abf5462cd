import Mathlib.Data.List.Nodup

/-! A shared counter that is read in one step and advanced in a later one. -/

namespace Foundation

structure Counter (κ : Type) where
  next : Nat
  reads : List (κ × Nat)
  advanced : List κ

namespace Counter

variable {κ : Type} {counter : Counter κ} {reader : κ}

def read (counter : Counter κ) (reader : κ) : Counter κ :=
  { counter with reads := counter.reads ++ [(reader, counter.next)] }

def advance (counter : Counter κ) (reader : κ) : Counter κ :=
  { counter with next := counter.next + 1, advanced := counter.advanced ++ [reader] }

def readers (counter : Counter κ) : List κ := counter.reads.map Prod.fst

def values (counter : Counter κ) : List Nat := counter.reads.map Prod.snd

def Settled (counter : Counter κ) : Prop := ∀ reader ∈ counter.readers, reader ∈ counter.advanced

/-- While no value is read twice, a reader that advanced holds a value left behind and any other
reader holds the current one. -/
structure Sound (counter : Counter κ) : Prop where
  once : counter.readers.Nodup
  advanced_subset : counter.advanced ⊆ counter.readers
  behind : counter.values.Nodup → ∀ reader value, (reader, value) ∈ counter.reads →
    reader ∈ counter.advanced → value < counter.next
  current : counter.values.Nodup → ∀ reader value, (reader, value) ∈ counter.reads →
    reader ∉ counter.advanced → value = counter.next

@[simp] theorem readers_read : (counter.read reader).readers = counter.readers ++ [reader] := by
  simp [readers, read]

@[simp] theorem values_read :
    (counter.read reader).values = counter.values ++ [counter.next] := by
  simp [values, read]

@[simp] theorem readers_advance : (counter.advance reader).readers = counter.readers := rfl

theorem sound_start (next : Nat) : (⟨next, [], []⟩ : Counter κ).Sound where
  once := List.nodup_nil
  advanced_subset := List.nil_subset _
  behind := by simp
  current := by simp

theorem Sound.read (sound : counter.Sound) (first : reader ∉ counter.readers) :
    (counter.read reader).Sound where
  once := by
    rw [readers_read]
    exact sound.once.append (List.nodup_singleton _) (List.disjoint_singleton.mpr first)
  advanced_subset := by
    rw [readers_read]
    exact List.Subset.trans sound.advanced_subset (List.subset_append_left _ _)
  behind := by
    intro distinct other value member ahead
    rw [values_read] at distinct
    rcases List.mem_append.mp member with old | new
    · exact sound.behind distinct.of_append_left other value old ahead
    · rcases Prod.mk.inj (List.mem_singleton.mp new) with ⟨rfl, rfl⟩
      exact absurd (sound.advanced_subset ahead) first
  current := by
    intro distinct other value member waiting
    rw [values_read] at distinct
    rcases List.mem_append.mp member with old | new
    · exact sound.current distinct.of_append_left other value old waiting
    · exact (Prod.mk.inj (List.mem_singleton.mp new)).2

theorem Sound.advance (sound : counter.Sound) (member : reader ∈ counter.readers)
    (waiting : reader ∉ counter.advanced) : (counter.advance reader).Sound where
  once := sound.once
  advanced_subset := List.append_subset.mpr
    ⟨sound.advanced_subset, by simpa using member⟩
  behind := by
    intro distinct other value present ahead
    rcases List.mem_append.mp ahead with old | new
    · exact Nat.lt_succ_of_lt (sound.behind distinct other value present old)
    · rw [List.mem_singleton.mp new] at present
      exact (sound.current distinct reader value present waiting) ▸ Nat.lt_succ_self _
  current := by
    intro distinct other value present notAhead
    obtain ⟨notOld, notReader⟩ : other ∉ counter.advanced ∧ other ≠ reader := by
      rw [← not_or, ← List.mem_singleton, ← List.mem_append]
      exact notAhead
    rcases List.mem_map.mp member with ⟨⟨_, mine⟩, holds, rfl⟩
    have equal : value = mine :=
      (sound.current distinct other value present notOld).trans
        (sound.current distinct _ mine holds waiting).symm
    have same := List.inj_on_of_nodup_map distinct present holds equal
    exact absurd (Prod.mk.inj same).1 notReader

theorem Sound.nodup_read_iff (sound : counter.Sound) (distinct : counter.values.Nodup) :
    (counter.read reader).values.Nodup ↔ counter.Settled := by
  have fresh : (counter.read reader).values.Nodup ↔ counter.next ∉ counter.values := by
    rw [values_read]
    constructor
    · intro extended member
      exact List.disjoint_of_nodup_append extended member (List.mem_singleton_self _)
    · intro absent
      exact distinct.append (List.nodup_singleton _) (List.disjoint_singleton.mpr absent)
  rw [fresh]
  constructor
  · intro absent other member
    by_contra waiting
    rcases List.mem_map.mp member with ⟨⟨_, value⟩, present, rfl⟩
    apply absent
    rw [← sound.current distinct _ value present waiting]
    exact List.mem_map_of_mem present
  · intro settled member
    rcases List.mem_map.mp member with ⟨⟨other, value⟩, present, same⟩
    have ahead := settled other (List.mem_map_of_mem present)
    exact Nat.lt_irrefl _ (same ▸ sound.behind distinct other value present ahead)

end Counter

end Foundation
