import Caraka.Foundation.Bytes

/-! Byte sources: streams that hand out their bytes piecemeal, and readers with a buffer. -/

namespace Foundation

/-- A source that hands out at most `room` bytes at a time, and nothing only at its end. -/
structure Source (σ : Type) where
  read : σ → Nat → Bytes × σ
  /-- All that is still to be read. -/
  pending : σ → Bytes
  pending_eq : ∀ state room, pending state = (read state room).1 ++ pending (read state room).2
  length_le : ∀ state room, (read state room).1.length ≤ room
  read_ne_nil : ∀ state room, 0 < room → pending state ≠ [] → (read state room).1 ≠ []

namespace Source

variable {σ : Type} (source : Source σ)

/-- Read until `count` bytes are there; none where the source ends before. -/
def readExact (state : σ) (count : Nat) : Option (Bytes × σ) :=
  if count = 0 then some ([], state)
  else
    match source.read state count with
    | ([], _) => none
    | (head :: tail, next) =>
      (readExact next (count - (tail.length + 1))).map fun rest =>
        (head :: tail ++ rest.1, rest.2)
termination_by count
decreasing_by omega

theorem readExact_zero (state : σ) : source.readExact state 0 = some ([], state) := by
  rw [readExact, if_pos rfl]

theorem readExact_end {state next : σ} {count : Nat} (positive : count ≠ 0)
    (ended : source.read state count = ([], next)) : source.readExact state count = none := by
  rw [readExact, if_neg positive, ended]

theorem readExact_more {state next : σ} {count : Nat} {head : UInt8} {tail : Bytes}
    (positive : count ≠ 0) (more : source.read state count = (head :: tail, next)) :
    source.readExact state count =
      (source.readExact next (count - (tail.length + 1))).map fun rest =>
        (head :: tail ++ rest.1, rest.2) := by
  rw [readExact, if_neg positive, more]

theorem pending_of_read {state next : σ} {room : Nat} {chunk : Bytes}
    (result : source.read state room = (chunk, next)) :
    source.pending state = chunk ++ source.pending next ∧ chunk.length ≤ room := by
  have whole := source.pending_eq state room
  have bound := source.length_le state room
  rw [result] at whole bound
  exact ⟨whole, bound⟩

theorem readExact_some {state : σ} {count : Nat} (enough : count ≤ (source.pending state).length) :
    ∃ next, source.readExact state count = some ((source.pending state).take count, next) ∧
      source.pending next = (source.pending state).drop count := by
  induction count using Nat.strong_induction_on generalizing state with
  | _ count ih =>
      by_cases zero : count = 0
      · subst zero
        exact ⟨state, source.readExact_zero state, rfl⟩
      cases result : source.read state count with
      | mk chunk next =>
          have left := source.pending_of_read result
          cases chunk with
          | nil =>
              have some_left : source.pending state ≠ [] := by
                intro empty
                rw [empty] at enough
                exact zero (Nat.le_zero.mp enough)
              have yields := source.read_ne_nil state count (Nat.pos_of_ne_zero zero) some_left
              rw [result] at yields
              exact absurd rfl yields
          | cons head tail =>
              have size := left.2
              rw [List.length_cons] at size
              have rest : count - (tail.length + 1) ≤ (source.pending next).length := by
                rw [left.1, List.length_append, List.length_cons] at enough
                omega
              have shorter : count - (tail.length + 1) < count := by omega
              rcases ih _ shorter rest with ⟨last, read, after⟩
              have total : count = (head :: tail).length + (count - (tail.length + 1)) := by
                rw [List.length_cons]
                omega
              have front : (source.pending state).take count =
                  head :: tail ++ (source.pending next).take (count - (tail.length + 1)) := by
                rw [left.1]
                conv_lhs => rw [total]
                exact List.take_length_add_append ..
              have back : (source.pending state).drop count =
                  (source.pending next).drop (count - (tail.length + 1)) := by
                rw [left.1]
                conv_lhs => rw [total]
                exact List.drop_length_add_append ..
              refine ⟨last, ?_, ?_⟩
              · rw [source.readExact_more zero result, read, front]
                rfl
              · rw [after, back]

theorem readExact_none {state : σ} {count : Nat} (short : (source.pending state).length < count) :
    source.readExact state count = none := by
  induction count using Nat.strong_induction_on generalizing state with
  | _ count ih =>
      have positive : count ≠ 0 := by omega
      cases result : source.read state count with
      | mk chunk next =>
          have left := source.pending_of_read result
          cases chunk with
          | nil => exact source.readExact_end positive result
          | cons head tail =>
              have rest : (source.pending next).length < count - (tail.length + 1) := by
                rw [left.1, List.length_append, List.length_cons] at short
                omega
              rw [source.readExact_more positive result, ih _ (by omega) rest]
              rfl

end Source

def readPieces : List Bytes → Nat → Bytes × List Bytes
  | [], _ => ([], [])
  | [] :: rest, room => readPieces rest room
  | (head :: tail) :: rest, room =>
    ((head :: tail).take room, (head :: tail).drop room :: rest)

/-- A stream whose bytes arrive in pieces of any sizes. -/
def stream : Source (List Bytes) where
  read := readPieces
  pending := List.flatten
  pending_eq := by
    intro pieces room
    induction pieces with
    | nil => rfl
    | cons piece rest ih =>
        cases piece with
        | nil => exact ih
        | cons head tail =>
            simp only [readPieces, List.flatten_cons]
            rw [← List.append_assoc, List.take_append_drop]
  length_le := by
    intro pieces room
    induction pieces with
    | nil => exact Nat.zero_le room
    | cons piece rest ih =>
        cases piece with
        | nil => exact ih
        | cons head tail => exact List.length_take_le ..
  read_ne_nil := by
    intro pieces room positive some_left
    induction pieces with
    | nil => exact absurd rfl some_left
    | cons piece rest ih =>
        cases piece with
        | nil => exact ih some_left
        | cons head tail =>
            intro empty
            have size := congrArg List.length empty
            simp only [readPieces, List.length_take, List.length_cons, List.length_nil] at size
            omega

/-- A reader with a buffer in front of a source: it fills the buffer when that is empty, unless
what is asked for would not fit the buffer anyway. -/
def Source.buffered {σ : Type} (source : Source σ) (capacity : Nat) (positive : 0 < capacity) :
    Source (Bytes × σ) where
  read state room :=
    match state with
    | (head :: tail, inner) => ((head :: tail).take room, ((head :: tail).drop room, inner))
    | ([], inner) =>
      if capacity ≤ room then
        ((source.read inner room).1, ([], (source.read inner room).2))
      else
        ((source.read inner capacity).1.take room,
          ((source.read inner capacity).1.drop room, (source.read inner capacity).2))
  pending state := state.1 ++ source.pending state.2
  pending_eq := by
    intro state room
    rcases state with ⟨buffer, inner⟩
    cases buffer with
    | nil =>
        dsimp only
        split_ifs
        · exact source.pending_eq inner room
        · rw [← List.append_assoc, List.take_append_drop]
          exact source.pending_eq inner capacity
    | cons head tail =>
        dsimp only
        rw [← List.append_assoc, List.take_append_drop]
  length_le := by
    intro state room
    rcases state with ⟨buffer, inner⟩
    cases buffer with
    | nil =>
        dsimp only
        split_ifs
        · exact source.length_le inner room
        · exact List.length_take_le ..
    | cons head tail => exact List.length_take_le ..
  read_ne_nil := by
    intro state room wanted some_left
    rcases state with ⟨buffer, inner⟩
    have cut : ∀ bytes : Bytes, bytes ≠ [] → bytes.take room ≠ [] := by
      intro bytes nonempty empty
      rcases List.take_eq_nil_iff.mp empty with zero | nil
      · exact absurd zero (Nat.ne_of_gt wanted)
      · exact nonempty nil
    cases buffer with
    | nil =>
        dsimp only at some_left ⊢
        split_ifs
        · exact source.read_ne_nil inner room wanted some_left
        · exact cut _ (source.read_ne_nil inner capacity positive some_left)
    | cons head tail => exact cut _ (by simp)

end Foundation
