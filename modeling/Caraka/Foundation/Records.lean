import Caraka.Foundation.Bytes

/-! Arrays of one width laid end to end, as records behind a count are. -/

namespace Foundation

variable {width : Nat}

def join (arrays : List (Octets width)) : Bytes := arrays.flatMap Octets.bytes

@[simp] theorem join_nil : join ([] : List (Octets width)) = [] := rfl

@[simp] theorem join_cons (array : Octets width) (arrays : List (Octets width)) :
    join (array :: arrays) = array.bytes ++ join arrays := rfl

theorem join_append (front back : List (Octets width)) :
    join (front ++ back) = join front ++ join back := List.flatMap_append

@[simp] theorem length_join (arrays : List (Octets width)) :
    (join arrays).length = arrays.length * width := by
  induction arrays with
  | nil => simp
  | cons array arrays ih =>
      rw [join_cons, List.length_append, array.length_eq, ih, List.length_cons]
      ring

theorem exists_join {count : Nat} {bytes : Bytes} (size : bytes.length = count * width) :
    ∃ arrays : List (Octets width), arrays.length = count ∧ join arrays = bytes := by
  induction count generalizing bytes with
  | zero =>
      rw [Nat.zero_mul] at size
      exact ⟨[], rfl, (List.length_eq_zero_iff.mp size).symm⟩
  | succ count ih =>
      rw [Nat.succ_mul] at size
      have fits : 0 + width ≤ bytes.length := by omega
      have rest : (bytes.drop width).length = count * width := by
        rw [List.length_drop]
        omega
      rcases ih rest with ⟨arrays, many, joined⟩
      refine ⟨slice bytes 0 width fits :: arrays, by rw [List.length_cons, many], ?_⟩
      have split := drop_eq_slice_append bytes 0 width fits
      rw [List.drop_zero, Nat.zero_add] at split
      rw [join_cons, joined]
      exact split.symm

end Foundation
