import Mathlib.Logic.Function.Basic

/-! Scripts of one scope: declarations that are hoisted, constants bound in order, calls by name. -/

namespace Foundation.Script

variable {ν δ ε : Type}

inductive Body (ν δ ε : Type) where
  | ret
  | effect (action : ε) (rest : Body ν δ ε)
  | call (name : ν) (argument : δ) (rest : Body ν δ ε)

inductive Item (ν δ ε : Type) where
  | function (name : ν) (body : δ → Body ν δ ε)
  | const (name value : ν)

abbrev Scope (ν δ ε : Type) := ν → Option (δ → Body ν δ ε)

def Item.Declares (name : ν) : Item ν δ ε → Prop
  | function declared _ => declared = name
  | const .. => False

def Item.Binds (name : ν) : Item ν δ ε → Prop
  | function .. => False
  | const bound _ => bound = name

section Binding

variable [DecidableEq ν]

def declare (scope : Scope ν δ ε) : Item ν δ ε → Scope ν δ ε
  | .function name body => Function.update scope name (some body)
  | .const .. => scope

def hoist (items : List (Item ν δ ε)) : Scope ν δ ε := items.foldl declare fun _ => none

def initialise (scope : Scope ν δ ε) : Item ν δ ε → Scope ν δ ε
  | .function .. => scope
  | .const name value => Function.update scope name (scope value)

def bindings (items : List (Item ν δ ε)) : Scope ν δ ε := items.foldl initialise (hoist items)

theorem declare_other {scope : Scope ν δ ε} {name : ν} {items : List (Item ν δ ε)}
    (other : ∀ item ∈ items, ¬ item.Declares name) :
    items.foldl declare scope name = scope name := by
  induction items generalizing scope with
  | nil => rfl
  | cons item rest ih =>
      rw [List.forall_mem_cons] at other
      rw [List.foldl_cons, ih other.2]
      cases item with
      | function declared body => exact Function.update_of_ne (Ne.symm other.1) _ _
      | const bound value => rfl

theorem initialise_other {scope : Scope ν δ ε} {name : ν} {items : List (Item ν δ ε)}
    (other : ∀ item ∈ items, ¬ item.Binds name) :
    items.foldl initialise scope name = scope name := by
  induction items generalizing scope with
  | nil => rfl
  | cons item rest ih =>
      rw [List.forall_mem_cons] at other
      rw [List.foldl_cons, ih other.2]
      cases item with
      | function declared body => rfl
      | const bound value => exact Function.update_of_ne (Ne.symm other.1) _ _

theorem hoist_last (front : List (Item ν δ ε)) {name : ν} (body : δ → Body ν δ ε)
    {back : List (Item ν δ ε)} (last : ∀ item ∈ back, ¬ item.Declares name) :
    hoist (front ++ .function name body :: back) name = some body := by
  rw [hoist, List.foldl_append, List.foldl_cons, declare_other last]
  exact Function.update_self ..

theorem bindings_function {items : List (Item ν δ ε)} {name : ν}
    (unbound : ∀ item ∈ items, ¬ item.Binds name) : bindings items name = hoist items name :=
  initialise_other unbound

/-- A constant that names a function denotes the last declaration of it as well, also one that
stands below the constant. -/
theorem bindings_const {front back : List (Item ν δ ε)} {name value : ν}
    (once : ∀ item ∈ back, ¬ item.Binds name) (unbound : ∀ item ∈ front, ¬ item.Binds value) :
    bindings (front ++ .const name value :: back) name =
      hoist (front ++ .const name value :: back) value := by
  rw [bindings, List.foldl_append, List.foldl_cons, initialise_other once]
  exact (Function.update_self ..).trans (initialise_other unbound)

end Binding

/-- The effects of a body, and whether it returns, given those of the calls it makes. -/
def Body.run (callee : ν → δ → List ε × Bool) : Body ν δ ε → List ε × Bool
  | ret => ([], true)
  | effect action rest => (action :: (rest.run callee).1, (rest.run callee).2)
  | call name argument rest =>
    if (callee name argument).2 then
      ((callee name argument).1 ++ (rest.run callee).1, (rest.run callee).2)
    else ((callee name argument).1, false)

def invoke (scope : Scope ν δ ε) : Nat → ν → δ → List ε × Bool
  | 0, _, _ => ([], false)
  | room + 1, name, argument =>
    match scope name with
    | none => ([], false)
    | some body => (body argument).run (invoke scope room)

theorem invoke_succ {scope : Scope ν δ ε} {name : ν} {body : δ → Body ν δ ε}
    (bound : scope name = some body) (room : Nat) (argument : δ) :
    invoke scope (room + 1) name argument = (body argument).run (invoke scope room) := by
  rw [invoke, bound]

def Returns (scope : Scope ν δ ε) (name : ν) (argument : δ) (effects : List ε) : Prop :=
  ∃ enough, ∀ room, enough ≤ room → invoke scope room name argument = (effects, true)

/-- A function whose body does not call returns. -/
theorem returns_of_run {scope : Scope ν δ ε} {name : ν} {body : δ → Body ν δ ε} {argument : δ}
    {effects : List ε} (bound : scope name = some body)
    (straight : ∀ callee, (body argument).run callee = (effects, true)) :
    Returns scope name argument effects := by
  refine ⟨1, fun room enough => ?_⟩
  cases room with
  | zero => cases enough
  | succ room => rw [invoke_succ bound, straight]

/-- Calls that lead to one another before anything else neither return nor have an effect,
whatever the room on the stack. -/
theorem invoke_of_loop {scope : Scope ν δ ε} {loop : ν → δ → Prop}
    (next : ∀ name argument, loop name argument → ∃ body callee passed rest,
      scope name = some body ∧ body argument = .call callee passed rest ∧ loop callee passed)
    (room : Nat) {name : ν} {argument : δ} (inside : loop name argument) :
    invoke scope room name argument = ([], false) := by
  induction room generalizing name argument with
  | zero => rfl
  | succ room ih =>
      rcases next name argument inside with ⟨body, callee, passed, rest, bound, first, stays⟩
      rw [invoke_succ bound, first, Body.run, ih stays]
      rfl

end Foundation.Script
