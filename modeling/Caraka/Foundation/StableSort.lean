import Mathlib.Data.List.Sort

/-! Where a stable sort puts an item: behind those that go before it, and behind its equals that
were listed before it. -/

namespace Foundation

variable {α : Type*} [DecidableEq α] (r : α → α → Prop) [DecidableRel r]

def stableRank (items : List α) (item : α) : Nat :=
  items.countP (fun other => ¬ r item other) +
    (items.takeWhile (· ≠ item)).countP fun other => r item other ∧ r other item

section Inserting

variable [IsTrans α r]

theorem idxOf_orderedInsert_self [Std.Refl r] (item : α) {sorted : List α}
    (ordered : sorted.Pairwise r) :
    (sorted.orderedInsert r item).idxOf item = sorted.countP fun other => ¬ r item other := by
  induction sorted with
  | nil => simp
  | cons head tail ih =>
      rcases List.pairwise_cons.mp ordered with ⟨least, rest⟩
      by_cases first : r item head
      · have none_before : (head :: tail).countP (fun other => ¬ r item other) = 0 := by
          apply List.countP_eq_zero.mpr
          intro other member
          rcases List.mem_cons.mp member with rfl | later
          · simpa using first
          · simpa using trans_of r first (least other later)
        rw [List.orderedInsert_cons_of_le r tail first, none_before, List.idxOf_cons_self]
      · have distinct : head ≠ item := by
          intro same
          subst same
          exact first (refl_of r head)
        rw [List.orderedInsert_of_not_le r tail first, List.idxOf_cons_ne _ distinct, ih rest,
          List.countP_cons_of_pos (by simpa using first)]

theorem idxOf_orderedInsert_ne {item inserted : α} {sorted : List α}
    (ordered : sorted.Pairwise r) (present : item ∈ sorted) (distinct : inserted ≠ item) :
    (sorted.orderedInsert r inserted).idxOf item =
      sorted.idxOf item + if r inserted item then 1 else 0 := by
  induction sorted with
  | nil => cases present
  | cons head tail ih =>
      rcases List.pairwise_cons.mp ordered with ⟨least, rest⟩
      by_cases first : r inserted head
      · have before : r inserted item := by
          rcases List.mem_cons.mp present with rfl | later
          · exact first
          · exact trans_of r first (least item later)
        rw [List.orderedInsert_cons_of_le r tail first, List.idxOf_cons_ne _ distinct,
          if_pos before]
      · rw [List.orderedInsert_of_not_le r tail first]
        by_cases same : head = item
        · subst same
          rw [List.idxOf_cons_self, List.idxOf_cons_self, if_neg first]
        · have later := (List.mem_cons.mp present).resolve_left (Ne.symm same)
          rw [List.idxOf_cons_ne _ same, List.idxOf_cons_ne _ same, ih rest later]
          omega

end Inserting

variable [Std.Total r] [IsTrans α r]

theorem idxOf_insertionSort {items : List α} {item : α} (present : item ∈ items) :
    (items.insertionSort r).idxOf item = stableRank r items item := by
  induction items with
  | nil => cases present
  | cons head tail ih =>
      have ordered := List.pairwise_insertionSort r tail
      rw [List.insertionSort_cons]
      by_cases same : head = item
      · subst same
        have reflexive : r head head := refl_of r head
        rw [idxOf_orderedInsert_self r head ordered,
          (List.perm_insertionSort r tail).countP_eq, stableRank,
          List.takeWhile_cons_of_neg (by simp), List.countP_cons_of_neg (by simpa using reflexive),
          List.countP_nil, Nat.add_zero]
      · have later := (List.mem_cons.mp present).resolve_left (Ne.symm same)
        have total := total_of r head item
        rw [idxOf_orderedInsert_ne r ordered ((List.mem_insertionSort r).mpr later) same, ih later,
          stableRank, stableRank, List.takeWhile_cons_of_pos (by simpa using same),
          List.countP_cons, List.countP_cons]
        -- The head moves the item by one exactly where it is counted before it.
        by_cases before : r head item
        · by_cases after : r item head
          · simp [before, after, Nat.add_assoc]
          · simp [before, after]
            omega
        · simp [before, total.resolve_left before]

theorem mem_take_insertionSort {items : List α} {item : α} {limit : Nat} :
    item ∈ (items.insertionSort r).take limit ↔ item ∈ items ∧ stableRank r items item < limit := by
  constructor
  · intro member
    have present := (List.mem_insertionSort r).mp (List.mem_of_mem_take member)
    rw [← idxOf_insertionSort r present]
    exact ⟨present, (List.mem_take_iff_idxOf_lt (List.mem_of_mem_take member)).mp member⟩
  · intro held
    rcases held with ⟨present, early⟩
    rw [← idxOf_insertionSort r present] at early
    exact (List.mem_take_iff_idxOf_lt ((List.mem_insertionSort r).mpr present)).mpr early

theorem stableRank_lt_length {items : List α} {item : α} (present : item ∈ items) :
    stableRank r items item < items.length := by
  rw [← idxOf_insertionSort r present, ← List.length_insertionSort r items]
  exact List.idxOf_lt_length_of_mem ((List.mem_insertionSort r).mpr present)

end Foundation
