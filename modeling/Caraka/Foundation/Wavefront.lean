import Mathlib.Data.Fintype.Card
import Mathlib.Data.Fintype.Basic
import Mathlib.Logic.Relation

/-! Flooding with a limit on the hops: how far copies travel, and what they cover when none is
lost. -/

namespace Foundation

variable {ι : Type} {linked : ι → ι → Prop}

/-- The nodes a number of links away, going over the same node again or not. -/
inductive Walk (linked : ι → ι → Prop) (start : ι) : ι → Nat → Prop where
  | here : Walk linked start start 0
  | next {node other : ι} {hops : Nat} (walk : Walk linked start node hops)
      (link : linked node other) : Walk linked start other (hops + 1)

theorem Walk.reaches {start node : ι} {hops : Nat} (walk : Walk linked start node hops) :
    Relation.ReflTransGen linked start node := by
  induction walk with
  | here => exact .refl
  | next walk link reaches => exact reaches.tail link

variable [DecidableEq ι] [Fintype ι]

/-- A message on its way: every copy has left as many nodes behind as it has made hops, and a
neighbour of a node that holds the message holds it or has a copy flying to it, unless the copies
have covered everything. -/
structure Wavefront (linked : ι → ι → Prop) (hops : Nat) (held : Finset ι)
    (flying : ι → Nat → Prop) : Prop where
  counted : ∀ node left, flying node left → hops + 1 ≤ left + held.card
  fronted : held ≠ Finset.univ → ∀ node ∈ held, ∀ next, linked node next → next ∉ held →
    ∃ left, flying next left

namespace Wavefront

variable {hops : Nat} {held : Finset ι} {flying later : ι → Nat → Prop}

omit [DecidableEq ι] in
theorem start {origin : ι} (whole : ∀ node left, flying node left → left = hops)
    (sent : ∀ next, linked origin next → next ≠ origin → ∃ left, flying next left) :
    Wavefront linked hops {origin} flying where
  counted node left flies := by
    rw [whole node left flies, Finset.card_singleton]
  fronted _ node member next link absent := by
    rw [Finset.mem_singleton] at member absent
    exact sent next (member ▸ link) absent

omit [DecidableEq ι] in
theorem moved (front : Wavefront linked hops held flying)
    (older : ∀ node left, later node left → flying node left)
    (kept : ∀ node left, node ∉ held → flying node left → later node left) :
    Wavefront linked hops held later where
  counted node left flies := front.counted node left (older node left flies)
  fronted uncovered node member next link absent := by
    rcases front.fronted uncovered node member next link absent with ⟨left, flies⟩
    exact ⟨left, kept next left absent flies⟩

theorem passed (front : Wavefront linked hops held flying) {node : ι} {left : Nat}
    (fits : Fintype.card ι ≤ hops + 2) (fresh : node ∉ held) (arrives : flying node left)
    (older : ∀ other rest, later other rest → flying other rest ∨ rest + 1 = left)
    (kept : ∀ other rest, other ∉ insert node held → flying other rest → later other rest)
    (spread : 0 < left → ∀ next, linked node next → next ∉ insert node held →
      ∃ rest, later next rest) :
    Wavefront linked hops (insert node held) later where
  counted other rest flies := by
    have grown : (insert node held).card = held.card + 1 := Finset.card_insert_of_notMem fresh
    rcases older other rest flies with before | passes
    · have bound := front.counted other rest before
      omega
    · have bound := front.counted node left arrives
      omega
  fronted notAll other member next link absent := by
    have uncovered : held ≠ Finset.univ := fun all => fresh (all ▸ Finset.mem_univ node)
    have before : next ∉ held := fun present => absent (Finset.mem_insert_of_mem present)
    rcases Finset.mem_insert.mp member with same | old
    · subst same
      by_cases spent : left = 0
      · -- The hops run out only when every node holds the message.
        exfalso
        apply notAll
        have bound := front.counted other left arrives
        have grown : (insert other held).card = held.card + 1 :=
          Finset.card_insert_of_notMem fresh
        apply Finset.eq_univ_of_card
        apply Nat.le_antisymm (Finset.card_le_univ _)
        omega
      · exact spread (Nat.pos_of_ne_zero spent) next link absent
    · rcases front.fronted uncovered other old next link before with ⟨rest, flies⟩
      exact ⟨rest, kept next rest absent flies⟩

omit [DecidableEq ι] in
theorem settled (front : Wavefront linked hops held flying)
    (quiet : ∀ node left, ¬ flying node left) {start node : ι} (member : start ∈ held)
    (reaches : Relation.ReflTransGen linked start node) : node ∈ held := by
  by_cases all : held = Finset.univ
  · rw [all]
    exact Finset.mem_univ node
  induction reaches with
  | refl => exact member
  | @tail middle next _ link there =>
      by_contra absent
      rcases front.fronted all middle there next link absent with ⟨left, flies⟩
      exact quiet next left flies

end Wavefront

end Foundation
