import Caraka.Mesh
import Caraka.Sample

/-! Flooding delivers at most once while the replay caches have room. -/

namespace Caraka

open Foundation

variable {crates : Crates} {ι : Type} [DecidableEq ι]

abbrev MeshState (crates : Crates) (ι : Type) := Network ι (AppState crates) Frame

abbrev MeshInput (ι : Type) := NetworkInput ι NodeAction String ReceiveEnv

def cacheAt (node : ι) (net : MeshState crates ι) : Lru cacheSize (Octets 8) :=
  (net.nodes node).router.packetCache

/-- The packet id that a node puts into its replay cache, at one input of the network. -/
def registersAt (node : ι) : MeshState crates ι → MeshInput ι → Option (Octets 8) :=
  Protocol.observe AppState.registers node

def originatesAt (node : ι) : MeshState crates ι → MeshInput ι → Option (Octets 8) :=
  Protocol.observe AppState.originates node

def emitsAt (node : ι) : MeshState crates ι → MeshInput ι → Option (Octets 8) :=
  Protocol.observe AppState.emits node

def forwardsAt (node : ι) : MeshState crates ι → MeshInput ι → Option (Octets 8) :=
  Protocol.observe AppState.forwards node

section Steps

variable (links : Links ι) (node : ι) (net : MeshState crates ι) (input : MeshInput ι)

theorem cacheAt_step : cacheAt node ((mesh crates links).step net input) =
    (cacheAt node net).putAll (registersAt node net input).toList := by
  rw [cacheAt, Protocol.nodes_step, registersAt, Protocol.observe]
  cases Protocol.localInput node net input with
  | none => rfl
  | some seen => exact packetCache_localStep links node (net.nodes node) seen

theorem registersAt_of_emits {packetId : Octets 8}
    (shown : emitsAt node net input = some packetId ∨ forwardsAt node net input = some packetId) :
    registersAt node net input = some packetId ∧ packetId ∉ (cacheAt node net).recent := by
  rw [emitsAt, forwardsAt, Protocol.observe, Protocol.observe] at shown
  rw [registersAt, Protocol.observe]
  cases seen : Protocol.localInput node net input with
  | none =>
      rw [seen] at shown
      rcases shown with shown | shown <;> cases shown
  | some observed =>
      rw [seen] at shown
      exact registers_of_emits (net.nodes node) observed packetId shown

theorem registersAt_of_originates {packetId : Octets 8}
    (originates : originatesAt node net input = some packetId) :
    registersAt node net input = some packetId := by
  rw [originatesAt, Protocol.observe] at originates
  rw [registersAt, Protocol.observe]
  rcases Option.bind_eq_some_iff.mp originates with ⟨seen, same, sends⟩
  rw [same, Option.bind_some]
  cases seen with
  | act action =>
      cases action with
      | command activity asked => exact sends
      | connect peerId => cases sends
      | disconnect peerId => cases sends
  | write peerId => cases sends
  | receive env frame => cases sends

end Steps

theorem events_length_le (node : AppState crates) (env : ReceiveEnv) (raw : Bytes)
    (senderKey : String) (kind : ConnKind) :
    (processIncomingPacket node env raw senderKey kind).2.length ≤ 1 := by
  rw [processIncomingPacket]
  cases ClampPacket.decode raw with
  | error e => exact Nat.zero_le _
  | ok packet =>
      have routed : (handleRouted node env packet senderKey).2.length ≤ 1 := by
        rw [handleRouted]
        split
        · exact Nat.zero_le _
        · split <;> simp
      dsimp only
      cases packet.header.packetType with
      | syncReq => exact Nat.zero_le _
      | syncResp =>
          simp only [handleSyncResp]
          split
          · exact Nat.zero_le _
          · split <;> simp
      | syncData => exact Nat.zero_le _
      | hello => exact Nat.le_refl _
      | broadcast =>
          simp only [handleBroadcast]
          split
          · exact Nat.zero_le _
          · split
            · exact Nat.zero_le _
            · split <;> exact Nat.le_refl _
      | dm | channel | file => exact routed

/-- In every run of the network in which a node caches no more packet ids than its replay cache
holds, it brings no packet id to its application twice and passes none on twice, and neither
what it has sent itself. -/
theorem floods_at_most_once (links : Links ι) (node : ι) (net : MeshState crates ι)
    (inputs : List (MeshInput ι))
    (few : (everCached (mesh crates links).step (cacheAt node) (registersAt node) net
      inputs).toFinset.card ≤ cacheSize) :
    (emitted (mesh crates links).step (emitsAt node) net inputs).Nodup ∧
      (emitted (mesh crates links).step (forwardsAt node) net inputs).Nodup ∧
      (∀ front input back packetId, inputs = front ++ input :: back →
        originatesAt node (run (mesh crates links).step net front) input = some packetId →
        packetId ∉ emitted (mesh crates links).step (emitsAt node)
            (run (mesh crates links).step net (front ++ [input])) back ∧
          packetId ∉ emitted (mesh crates links).step (forwardsAt node)
            (run (mesh crates links).step net (front ++ [input])) back) ∧
      ∀ (state : AppState crates) env raw senderKey kind,
        ((processIncomingPacket state env raw senderKey kind).2.countP Event.delivers) ≤ 1 := by
  have puts := @cacheAt_step crates _ _ links node
  have emits : ∀ (net : MeshState crates ι) input packetId,
      emitsAt node net input = some packetId → registersAt node net input = some packetId ∧
        packetId ∉ (cacheAt node net).recent := fun net input packetId shown =>
    registersAt_of_emits node net input (.inl shown)
  have forwards : ∀ (net : MeshState crates ι) input packetId,
      forwardsAt node net input = some packetId → registersAt node net input = some packetId ∧
        packetId ∉ (cacheAt node net).recent := fun net input packetId shown =>
    registersAt_of_emits node net input (.inr shown)
  refine ⟨accepted_nodup puts emits few, accepted_nodup puts forwards few, ?_, ?_⟩
  · intro front input back packetId split originates
    subst split
    have registers := registersAt_of_originates node _ input originates
    exact ⟨not_accepted_after puts emits few registers,
      not_accepted_after puts forwards few registers⟩
  · intro state env raw senderKey kind
    exact (List.countP_le_length).trans (events_length_le state env raw senderKey kind)

namespace Sample

def pair : MeshState haloCrates Bool := ⟨fun second => if second then bob else alice, []⟩

def pairLinks : Links Bool := fun second _ =>
  some (!second, nodeId (if second then 2 else 1), .torInbound "1")

def pairRun : List (MeshInput Bool) := [
  .act false (.connect (nodeId 2)),
  .act false (.command (.sendDm env (nodeId 2) "halo" none none) trivial),
  .write false (nodeId 2),
  .deliver 0 receiveEnv]

theorem floods_at_most_once_pair :
    (emitted (mesh haloCrates pairLinks).step (emitsAt true) pair pairRun).Nodup ∧
      (emitted (mesh haloCrates pairLinks).step (forwardsAt true) pair pairRun).Nodup := by
  have few : (everCached (mesh haloCrates pairLinks).step (cacheAt true) (registersAt true) pair
      pairRun).toFinset.card ≤ cacheSize := by
    apply (List.toFinset_card_le _).trans
    rw [everCached, List.length_append]
    have short := @length_emitted_le _ _ (mesh haloCrates pairLinks).step _
      (registersAt true) pair pairRun
    have none : (cacheAt true pair).recent.length = 0 := rfl
    have four : pairRun.length = 4 := rfl
    change _ ≤ 512
    omega
  have once := floods_at_most_once pairLinks true pair pairRun few
  exact ⟨once.1, once.2.1⟩

end Sample

end Caraka
