import Caraka.Foundation.Transition
import Mathlib.Algebra.BigOperators.Group.Finset.Basic
import Mathlib.Data.Fintype.Basic
import Mathlib.Data.Multiset.DershowitzManna

/-! Nodes that exchange frames over a network which may delay, reorder and lose them: what one node
sees of a run, and when the frames in flight die out. -/

namespace Foundation

structure Protocol (ι σ α π φ ε : Type) where
  act : σ → α → σ
  /-- What a port writes, with the node it goes to, where it has something to write. -/
  write : ι → σ → π → Option (σ × Option (ι × φ))
  receive : σ → ε → φ → σ

structure Network (ι σ φ : Type) where
  nodes : ι → σ
  /-- The frames in flight and where they go. -/
  wire : List (ι × φ)

inductive NetworkInput (ι α π ε : Type) where
  | act (node : ι) (input : α)
  | write (node : ι) (port : π)
  | deliver (index : Nat) (env : ε)
  | lose (index : Nat)

inductive LocalInput (α π φ ε : Type) where
  | act (input : α)
  | write (port : π)
  | receive (env : ε) (frame : φ)

namespace Protocol

variable {ι σ α π φ ε : Type} [DecidableEq ι] (protocol : Protocol ι σ α π φ ε)

def step (net : Network ι σ φ) : NetworkInput ι α π ε → Network ι σ φ
  | .act node input =>
    { net with nodes := Function.update net.nodes node (protocol.act (net.nodes node) input) }
  | .write node port =>
    match protocol.write node (net.nodes node) port with
    | none => net
    | some (state, frame) => ⟨Function.update net.nodes node state, net.wire ++ frame.toList⟩
  | .deliver index env =>
    match net.wire[index]? with
    | none => net
    | some (node, frame) =>
      ⟨Function.update net.nodes node (protocol.receive (net.nodes node) env frame),
        net.wire.eraseIdx index⟩
  | .lose index => { net with wire := net.wire.eraseIdx index }

def localStep (node : ι) (state : σ) : LocalInput α π φ ε → σ
  | .act input => protocol.act state input
  | .write port => ((protocol.write node state port).map Prod.fst).getD state
  | .receive env frame => protocol.receive state env frame

def localInput (node : ι) (net : Network ι σ φ) :
    NetworkInput ι α π ε → Option (LocalInput α π φ ε)
  | .act other input => if node = other then some (.act input) else none
  | .write other port => if node = other then some (.write port) else none
  | .deliver index env =>
    match net.wire[index]? with
    | none => none
    | some (other, frame) => if node = other then some (.receive env frame) else none
  | .lose _ => none

omit [DecidableEq ι] in
theorem input_of_ite {node other : ι} {seen value : LocalInput α π φ ε} [Decidable (node = other)]
    (same : (if node = other then some value else none) = some seen) :
    node = other ∧ value = seen := by
  split at same
  · exact ⟨‹_›, Option.some.inj same⟩
  · cases same

theorem input_of_act {node : ι} {net : Network ι σ φ} {input : NetworkInput ι α π ε} {action : α}
    (seen : localInput node net input = some (.act action : LocalInput α π φ ε)) :
    input = .act node action := by
  cases input with
  | act other input =>
      rcases input_of_ite seen with ⟨rfl, same⟩
      cases same
      rfl
  | write other port => cases (input_of_ite seen).2
  | lose index => cases seen
  | deliver index env =>
      rw [localInput] at seen
      cases found : net.wire[index]? with
      | none =>
          rw [found] at seen
          cases seen
      | some arriving =>
          rw [found] at seen
          cases (input_of_ite seen).2

theorem input_of_write {node : ι} {net : Network ι σ φ} {input : NetworkInput ι α π ε} {port : π}
    (seen : localInput node net input = some (.write port : LocalInput α π φ ε)) :
    input = .write node port := by
  cases input with
  | act other input => cases (input_of_ite seen).2
  | write other port =>
      rcases input_of_ite seen with ⟨rfl, same⟩
      cases same
      rfl
  | lose index => cases seen
  | deliver index env =>
      rw [localInput] at seen
      cases found : net.wire[index]? with
      | none =>
          rw [found] at seen
          cases seen
      | some arriving =>
          rw [found] at seen
          cases (input_of_ite seen).2

theorem input_of_receive {node : ι} {net : Network ι σ φ} {input : NetworkInput ι α π ε} {env : ε}
    {frame : φ} (seen : localInput node net input = some (.receive env frame)) :
    ∃ index, input = .deliver index env ∧ net.wire[index]? = some (node, frame) := by
  cases input with
  | act other input => cases (input_of_ite seen).2
  | write other port => cases (input_of_ite seen).2
  | lose index => cases seen
  | deliver index other =>
      rw [localInput] at seen
      cases found : net.wire[index]? with
      | none =>
          rw [found] at seen
          cases seen
      | some arriving =>
          rw [found] at seen
          rcases input_of_ite seen with ⟨rfl, same⟩
          cases same
          exact ⟨index, rfl, found⟩

theorem nodes_step (node : ι) (net : Network ι σ φ) (input : NetworkInput ι α π ε) :
    (protocol.step net input).nodes node =
      (localInput node net input).toList.foldl (protocol.localStep node) (net.nodes node) := by
  have updated : ∀ (other : ι) (state : σ) (seen : LocalInput α π φ ε),
      (node = other → state = protocol.localStep node (net.nodes node) seen) →
      Function.update net.nodes other state node =
        (if node = other then some seen else none).toList.foldl (protocol.localStep node)
          (net.nodes node) := by
    intro other state seen same
    by_cases here : node = other
    · rw [if_pos here, same here, here, Function.update_self]
      rfl
    · rw [if_neg here, Function.update_of_ne here]
      rfl
  cases input with
  | act other input =>
      apply updated other _ (.act input)
      rintro rfl
      rfl
  | write other port =>
      have writes := updated other
        (((protocol.write other (net.nodes other) port).map Prod.fst).getD (net.nodes other))
        (.write port) (by rintro rfl; rfl)
      rw [localInput, ← writes, step]
      cases protocol.write other (net.nodes other) port with
      | none => exact (congrFun (Function.update_eq_self other net.nodes) node).symm
      | some outcome => rfl
  | deliver index env =>
      simp only [step, localInput]
      cases net.wire[index]? with
      | none => rfl
      | some arriving =>
          apply updated arriving.1 _ (.receive env arriving.2)
          rintro rfl
          rfl
  | lose index => rfl

def observe {ω : Type} (emit : σ → LocalInput α π φ ε → Option ω) (node : ι)
    (net : Network ι σ φ) (input : NetworkInput ι α π ε) : Option ω :=
  (localInput node net input).bind (emit (net.nodes node))

/-- A port writes, or a frame arrives or is lost. -/
inductive Moves (net : Network ι σ φ) : Network ι σ φ → Prop where
  | write (node : ι) (port : π) (holds : (protocol.write node (net.nodes node) port).isSome) :
      Moves net (protocol.step net (.write node port))
  | deliver (index : Nat) (env : ε) (flies : index < net.wire.length) :
      Moves net (protocol.step net (.deliver index env))
  | lose (index : Nat) (flies : index < net.wire.length) :
      Moves net (protocol.step net (.lose index))

end Protocol

namespace Network

variable {ι σ φ : Type} [DecidableEq ι] [Fintype ι] (pending : σ → Multiset Nat) (weight : φ → Nat)

def load (net : Network ι σ φ) : Multiset Nat :=
  ∑ node, pending (net.nodes node) + Multiset.ofList (net.wire.map fun entry => weight entry.2)

omit [DecidableEq ι] [Fintype ι] in
theorem lower_add {smaller larger : Multiset Nat} (rest : Multiset Nat)
    (lower : Multiset.IsDershowitzMannaLT smaller larger) :
    Multiset.IsDershowitzMannaLT (rest + smaller) (rest + larger) := by
  rcases lower with ⟨kept, new, gone, some, rfl, rfl, below⟩
  exact ⟨rest + kept, new, gone, some, (add_assoc ..).symm, (add_assoc ..).symm, below⟩

theorem sum_update (nodes : ι → σ) (node : ι) (state : σ) :
    ∑ other, pending (Function.update nodes node state other) =
      ∑ other ∈ Finset.univ.erase node, pending (nodes other) + pending state := by
  rw [← Finset.sum_erase_add _ _ (Finset.mem_univ node), Function.update_self]
  congr 1
  apply Finset.sum_congr rfl
  intro other member
  rw [Function.update_of_ne (Finset.ne_of_mem_erase member)]

theorem sum_split (nodes : ι → σ) (node : ι) :
    ∑ other, pending (nodes other) =
      ∑ other ∈ Finset.univ.erase node, pending (nodes other) + pending (nodes node) :=
  (Finset.sum_erase_add _ _ (Finset.mem_univ node)).symm

omit [DecidableEq ι] [Fintype ι] in
theorem wire_split (wire : List (ι × φ)) (index : Nat) (flies : index < wire.length) :
    Multiset.ofList (wire.map fun entry => weight entry.2) =
      Multiset.ofList ((wire.eraseIdx index).map fun entry => weight entry.2) +
        {weight wire[index].2} := by
  have perm := (List.getElem_cons_eraseIdx_perm flies).map fun entry => weight entry.2
  rw [← Multiset.coe_eq_coe.mpr perm, List.map_cons, ← Multiset.cons_coe, ← Multiset.singleton_add,
    add_comm]

variable {pending weight} {α π ε : Type} {protocol : Protocol ι σ α π φ ε}

/-- Where a write and an arrival each put smaller weights in place of what they take, so does
every move of the network. -/
theorem load_lower
    (writes : ∀ node state port outcome, protocol.write node state port = some outcome →
      Multiset.IsDershowitzMannaLT
        (pending outcome.1 +
          Multiset.ofList (outcome.2.toList.map fun entry : ι × φ => weight entry.2))
        (pending state))
    (receives : ∀ state env frame, Multiset.IsDershowitzMannaLT
      (pending (protocol.receive state env frame)) (pending state + {weight frame}))
    {net later : Network ι σ φ} (moves : protocol.Moves net later) :
    Multiset.IsDershowitzMannaLT (load pending weight later) (load pending weight net) := by
  cases moves with
  | write node port holds =>
      rcases Option.isSome_iff_exists.mp holds with ⟨outcome, written⟩
      have lower := lower_add (∑ other ∈ Finset.univ.erase node, pending (net.nodes other) +
        Multiset.ofList (net.wire.map fun entry => weight entry.2))
          (writes node (net.nodes node) port outcome written)
      rw [Protocol.step, written]
      simp only [load, sum_update, sum_split pending net.nodes node, List.map_append,
        ← Multiset.coe_add]
      convert lower using 1
      · ac_rfl
      · ac_rfl
  | deliver index env flies =>
      have found : net.wire[index]? = some net.wire[index] := List.getElem?_eq_getElem flies
      generalize arriving : net.wire[index] = entry at found
      have split := wire_split weight net.wire index flies
      rw [arriving] at split
      have lower := lower_add (∑ other ∈ Finset.univ.erase entry.1, pending (net.nodes other) +
        Multiset.ofList ((net.wire.eraseIdx index).map fun entry => weight entry.2))
          (receives (net.nodes entry.1) env entry.2)
      rw [Protocol.step, found]
      simp only [load, sum_update, sum_split pending net.nodes entry.1, split]
      convert lower using 1
      · ac_rfl
      · ac_rfl
  | lose index flies =>
      have split := wire_split weight net.wire index flies
      rw [Protocol.step, load, load, split, ← add_assoc]
      refine ⟨_, 0, {weight net.wire[index].2}, ?_, (add_zero _).symm, rfl, ?_⟩
      · exact Multiset.singleton_ne_zero _
      · intro weight member
        cases Multiset.notMem_zero _ member

theorem moves_wellFounded
    (writes : ∀ node state port outcome, protocol.write node state port = some outcome →
      Multiset.IsDershowitzMannaLT
        (pending outcome.1 +
          Multiset.ofList (outcome.2.toList.map fun entry : ι × φ => weight entry.2))
        (pending state))
    (receives : ∀ state env frame, Multiset.IsDershowitzMannaLT
      (pending (protocol.receive state env frame)) (pending state + {weight frame})) :
    WellFounded fun later net : Network ι σ φ => protocol.Moves net later :=
  Subrelation.wf (load_lower writes receives)
    (InvImage.wf (load pending weight) Multiset.wellFounded_isDershowitzMannaLT)

end Network

end Foundation
