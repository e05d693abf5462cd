import Caraka.Foundation.Fields
import Caraka.State
import Mathlib.Data.List.Defs

/-! The safety number that two nodes compare: `compute_safety_number` of `commands.rs`. -/

namespace Caraka

open Foundation

variable {crates : Crates}

/-- The ids of two nodes, the smaller one first. -/
def ordered (myPub peerArr : NodePublicKey) : NodePublicKey × NodePublicKey :=
  if myPub.bytes < peerArr.bytes then (myPub, peerArr) else (peerArr, myPub)

def safetyHash (crates : Crates) (myPub peerArr : NodePublicKey) : Octets 32 :=
  crates.sha256 ((ordered myPub peerArr).1.bytes ++ (ordered myPub peerArr).2.bytes)

def hashByte (hash : Octets 32) (index : Nat) : Nat := (hash.bytes[index]?.getD 0).toNat

/-- The four bytes from an even index on, as a big-endian number. -/
def safetyWindow (hash : Octets 32) (i : Nat) : Nat :=
  let byteIdx := i * 2
  ((hashByte hash byteIdx * 256 + hashByte hash (byteIdx + 1)) * 256 +
    hashByte hash (byteIdx + 2)) * 256 + hashByte hash (byteIdx + 3)

def safetyGroups (hash : Octets 32) : List String :=
  (List.range 12).map fun i => String.ofList (padded 5 (safetyWindow hash i % 100000))

def safetyText (groups : List String) : String :=
  "\n".intercalate ((groups.toChunks 4).map fun chunk => " ".intercalate chunk)

def computeSafetyNumber (peerId : String) (state : Option (AppState crates)) :
    Except String String :=
  match Hex.decode peerId with
  | none => .error "Peer ID tidak valid (bukan hex)"
  | some peerBytes =>
    match tryInto 32 peerBytes with
    | none => .error "Peer ID harus 32 byte"
    | some peerArr =>
      match state with
      | none => .error "Vault masih terkunci. Masukkan password dulu."
      | some node =>
        .ok (safetyText (safetyGroups (safetyHash crates node.identity.myNodeId peerArr)))

theorem ordered_comm (left right : NodePublicKey) : ordered left right = ordered right left := by
  rw [ordered, ordered]
  split
  · rename_i less
    rw [if_neg (List.lt_asymm less)]
  · rename_i notLess
    split
    · rfl
    · rename_i notMore
      have same := List.le_antisymm (List.not_lt.mp notLess) (List.not_lt.mp notMore)
      rw [Octets.ext same]

def safetyGroup (hash : Octets 32) (i : Nat) : List Char := padded 5 (safetyWindow hash i % 100000)

def safetyLine (hash : Octets 32) (i : Nat) : List Char :=
  [' '].intercalate [safetyGroup hash i, safetyGroup hash (i + 1), safetyGroup hash (i + 2),
    safetyGroup hash (i + 3)]

theorem length_safetyGroup (hash : Octets 32) (i : Nat) : (safetyGroup hash i).length = 5 :=
  length_padded (by decide) (Nat.mod_lt _ (by decide))

theorem length_safetyLine (hash : Octets 32) (i : Nat) : (safetyLine hash i).length = 23 := by
  simp [safetyLine, List.intercalate_cons_cons, length_safetyGroup]

theorem toList_safetyText (hash : Octets 32) : (safetyText (safetyGroups hash)).toList =
    ['\n'].intercalate [safetyLine hash 0, safetyLine hash 4, safetyLine hash 8] := by
  have chunks : safetyText (safetyGroups hash) = "\n".intercalate
      ([0, 4, 8].map fun i => " ".intercalate
        ([i, i + 1, i + 2, i + 3].map fun j => String.ofList (safetyGroup hash j))) := rfl
  have line : ∀ i, (" ".intercalate
      ([i, i + 1, i + 2, i + 3].map fun j => String.ofList (safetyGroup hash j))).toList =
        safetyLine hash i := by
    intro i
    rw [String.toList_intercalate, List.map_map]
    simp only [List.map_cons, List.map_nil, Function.comp_apply, String.toList_ofList]
    rfl
  rw [chunks, String.toList_intercalate, List.map_map]
  simp only [List.map_cons, List.map_nil, Function.comp_apply] at line ⊢
  rw [line, line, line]
  rfl

theorem safetyLine_injective {hash other : Octets 32} {i : Nat}
    (same : safetyLine hash i = safetyLine other i) :
    ∀ j ∈ [i, i + 1, i + 2, i + 3],
      safetyWindow hash j % 100000 = safetyWindow other j % 100000 := by
  have wide : ∀ (hash : Octets 32), ∀ part ∈ [i, i + 1, i + 2, i + 3].map (safetyGroup hash),
      part.length = 5 := by
    intro hash part member
    rcases List.mem_map.mp member with ⟨j, -, rfl⟩
    exact length_safetyGroup hash j
  have many : ([i, i + 1, i + 2, i + 3].map (safetyGroup hash)).length =
      ([i, i + 1, i + 2, i + 3].map (safetyGroup other)).length := by
    rw [List.length_map, List.length_map]
  have groups := intercalate_injective many (wide hash) (wide other) same
  intro j member
  exact padded_injective 5 (List.map_inj_left.mp groups j member)

theorem safetyText_inj {hash other : Octets 32} :
    safetyText (safetyGroups hash) = safetyText (safetyGroups other) ↔
      ∀ i < 12, safetyWindow hash i % 100000 = safetyWindow other i % 100000 := by
  constructor
  · intro same
    have texts := congrArg String.toList same
    rw [toList_safetyText, toList_safetyText] at texts
    have wide : ∀ (hash : Octets 32), ∀ part ∈ [0, 4, 8].map (safetyLine hash),
        part.length = 23 := by
      intro hash part member
      rcases List.mem_map.mp member with ⟨j, -, rfl⟩
      exact length_safetyLine hash j
    have many : ([0, 4, 8].map (safetyLine hash)).length =
        ([0, 4, 8].map (safetyLine other)).length := by
      rw [List.length_map, List.length_map]
    have lines := intercalate_injective many (wide hash) (wide other) texts
    intro i small
    have row : 4 * (i / 4) ∈ [0, 4, 8] := by
      simp only [List.mem_cons, List.not_mem_nil, or_false]
      omega
    apply safetyLine_injective (List.map_inj_left.mp lines (4 * (i / 4)) row)
    simp only [List.mem_cons, List.not_mem_nil, or_false]
    omega
  · intro same
    have groups : safetyGroups hash = safetyGroups other := by
      apply List.map_congr_left
      intro i member
      rw [same i (List.mem_range.mp member)]
    rw [groups]

theorem computeSafetyNumber_id (node peer : AppState crates) :
    computeSafetyNumber peer.identity.nodeIdHex (some node) =
      .ok (safetyText (safetyGroups
        (safetyHash crates node.identity.myNodeId peer.identity.myNodeId))) := by
  have read : (Hex.decode peer.identity.nodeIdHex).bind (tryInto 32) =
      some peer.identity.myNodeId := by
    rw [peer.identity.nodeIdHex_eq]
    exact parseNodeId_encode _
  rcases Option.bind_eq_some_iff.mp read with ⟨bytes, decoded, sized⟩
  rw [computeSafetyNumber, decoded]
  dsimp only
  rw [sized]

/-- Both nodes of a pair see the same number, and it is three lines of four groups of five digits;
two pairs see the same number just where each of its groups is the same window of their hashes. -/
theorem safety_numbers (node peer node' peer' : AppState crates) :
    computeSafetyNumber peer.identity.nodeIdHex (some node) =
        computeSafetyNumber node.identity.nodeIdHex (some peer) ∧
      (∃ text : String, computeSafetyNumber peer.identity.nodeIdHex (some node) = .ok text ∧
        text.length = 71 ∧ ∃ lines : List (List (List Char)), lines.length = 3 ∧
          text.toList = ['\n'].intercalate (lines.map fun line => [' '].intercalate line) ∧
          ∀ line ∈ lines, line.length = 4 ∧ ∀ group ∈ line, group.length = 5 ∧
            ∀ c ∈ group, c.isDigit = true) ∧
      (computeSafetyNumber peer.identity.nodeIdHex (some node) =
          computeSafetyNumber peer'.identity.nodeIdHex (some node') ↔
        ∀ i < 12,
          safetyWindow (safetyHash crates node.identity.myNodeId peer.identity.myNodeId) i %
              100000 =
            safetyWindow (safetyHash crates node'.identity.myNodeId peer'.identity.myNodeId) i %
              100000) := by
  refine ⟨?_, ?_, ?_⟩
  · rw [computeSafetyNumber_id, computeSafetyNumber_id, safetyHash, ordered_comm, ← safetyHash]
  · have text := toList_safetyText
      (safetyHash crates node.identity.myNodeId peer.identity.myNodeId)
    refine ⟨_, computeSafetyNumber_id node peer, ?_, [0, 4, 8].map fun i =>
      [i, i + 1, i + 2, i + 3].map (safetyGroup _), rfl, text, ?_⟩
    · rw [← String.length_toList, text]
      simp [List.intercalate_cons_cons, length_safetyLine]
    · intro line member
      rcases List.mem_map.mp member with ⟨i, -, rfl⟩
      refine ⟨rfl, fun group inside => ?_⟩
      rcases List.mem_map.mp inside with ⟨j, -, rfl⟩
      exact ⟨length_safetyGroup _ j, isDigit_padded⟩
  · rw [computeSafetyNumber_id, computeSafetyNumber_id, Except.ok.injEq, safetyText_inj]

end Caraka
