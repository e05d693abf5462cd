import Caraka.Foundation.AssocMap

/-! One-shot timers that are set, cleared and fire, each known by a handle of its own, and a slot
that remembers one handle. -/

namespace Foundation

structure Timers (α : Type) where
  next : Nat
  pending : AssocMap Nat α
  given : ∀ handle timer, pending.get? handle = some timer → handle < next

namespace Timers

variable {α : Type}

theorem given_empty (handle : Nat) (timer : α)
    (found : (AssocMap.empty : AssocMap Nat α).get? handle = some timer) : handle < 1 := by
  cases found

def empty : Timers α := ⟨1, .empty, given_empty⟩

theorem given_set (timers : Timers α) (timer : α) (handle : Nat) (found : α)
    (pending : (timers.pending.insert timers.next timer).get? handle = some found) :
    handle < timers.next + 1 := by
  rw [AssocMap.get?_insert] at pending
  split at pending
  · omega
  · have earlier := timers.given handle found pending
    omega

/-- A new timer, known by the handle `timers.next`. -/
def set (timers : Timers α) (timer : α) : Timers α :=
  ⟨timers.next + 1, timers.pending.insert timers.next timer, timers.given_set timer⟩

theorem given_clear (timers : Timers α) (cleared handle : Nat) (found : α)
    (pending : (timers.pending.erase cleared).get? handle = some found) : handle < timers.next := by
  rw [AssocMap.get?_erase] at pending
  split at pending
  · cases pending
  · exact timers.given handle found pending

def clear (timers : Timers α) (handle : Nat) : Timers α :=
  ⟨timers.next, timers.pending.erase handle, timers.given_clear handle⟩

def clearSlot (timers : Timers α) (slot : Option Nat) : Timers α :=
  match slot with
  | none => timers
  | some handle => timers.clear handle

def Sole (timers : Timers α) (slot : Option Nat) : Prop :=
  ∀ handle timer, timers.pending.get? handle = some timer → slot = some handle

theorem sole_empty : (empty : Timers α).Sole none := by
  intro handle timer found
  cases found

theorem sole_clear {timers : Timers α} {slot : Option Nat} (sole : timers.Sole slot)
    (cleared : Nat) : (timers.clear cleared).Sole slot := by
  intro handle timer found
  rw [clear, AssocMap.get?_erase] at found
  split at found
  · cases found
  · exact sole handle timer found

theorem clearSlot_of_sole {timers : Timers α} {slot : Option Nat} (sole : timers.Sole slot)
    (handle : Nat) : (timers.clearSlot slot).pending.get? handle = none := by
  cases found : timers.pending.get? handle with
  | none =>
      cases slot with
      | none => exact found
      | some cleared =>
          rw [clearSlot, clear, AssocMap.get?_erase]
          split
          · rfl
          · exact found
  | some timer =>
      have remembered := sole handle timer found
      subst remembered
      rw [clearSlot, clear, AssocMap.get?_erase, if_pos rfl]

theorem restart_eq_some {timers : Timers α} {slot : Option Nat} (sole : timers.Sole slot)
    {timer found : α} {handle : Nat} :
    ((timers.clearSlot slot).set timer).pending.get? handle = some found ↔
      handle = (timers.clearSlot slot).next ∧ timer = found := by
  rw [set, AssocMap.get?_insert]
  split
  · rename_i same
    simp [same]
  · rename_i other
    simp [other, clearSlot_of_sole sole]

end Timers

end Foundation
