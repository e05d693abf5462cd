import Mathlib.Data.Set.Basic
import Mathlib.Order.Bounds.Defs

/-! Subnets of addresses of any width: a mask says which bits name the network, the others name a
host in it. -/

namespace Foundation.Subnet

variable {w : Nat}

/-- Two addresses in one network. -/
def Same (mask left right : BitVec w) : Prop := left &&& mask = right &&& mask

instance (mask left right : BitVec w) : Decidable (Same mask left right) :=
  inferInstanceAs (Decidable (_ = _))

def broadcast (mask address : BitVec w) : BitVec w := address ||| ~~~mask

theorem same_iff {mask left right : BitVec w} :
    Same mask left right ↔ ∀ i, mask.getLsbD i = true → left.getLsbD i = right.getLsbD i := by
  constructor
  · intro same i inside
    have bits := congrArg (BitVec.getLsbD · i) same
    simpa [inside] using bits
  · intro agree
    apply BitVec.eq_of_getLsbD_eq
    intro i _
    cases inside : mask.getLsbD i with
    | false => simp [inside]
    | true => simp [inside, agree i inside]

theorem broadcast_eq_iff {mask left right : BitVec w} :
    broadcast mask left = broadcast mask right ↔ Same mask left right := by
  rw [same_iff]
  constructor
  · intro equal i inside
    have bits := congrArg (BitVec.getLsbD · i) equal
    simpa [broadcast, inside] using bits
  · intro agree
    apply BitVec.eq_of_getLsbD_eq
    intro i bound
    cases inside : mask.getLsbD i with
    | false => simp only [broadcast, BitVec.getLsbD_or, BitVec.getLsbD_not, bound, inside,
        decide_true, Bool.not_false, Bool.and_self, Bool.or_true]
    | true => simp only [broadcast, BitVec.getLsbD_or, agree i inside]

theorem same_broadcast (mask address : BitVec w) : Same mask (broadcast mask address) address := by
  rw [same_iff]
  intro i inside
  simp [broadcast, inside]

theorem le_broadcast (mask address : BitVec w) : address ≤ broadcast mask address := by
  rw [BitVec.le_def, broadcast, BitVec.toNat_or]
  exact Nat.left_le_or

theorem isGreatest_broadcast (mask address : BitVec w) :
    IsGreatest (Same mask · address) (broadcast mask address) := by
  refine ⟨same_broadcast mask address, fun other same => ?_⟩
  rw [← broadcast_eq_iff.mpr same]
  exact le_broadcast mask other

end Foundation.Subnet
