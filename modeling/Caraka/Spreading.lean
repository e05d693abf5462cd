import Caraka.Registration

/-! What processing a packet, or a command, offers to the channels of a node. -/

namespace Caraka

open Foundation

variable {crates : Crates}

def Greets (raw : Bytes) : Prop :=
  ∃ packet, ClampPacket.decode raw = .ok packet ∧ packet.header.packetType = .hello

/-- How often a byte string can make nodes send another one after it. -/
def hops (raw : Bytes) : Nat :=
  match ClampPacket.decode raw with
  | .error _ => 0
  | .ok packet =>
    match packet.header.packetType with
    | .dm | .channel | .file | .broadcast => packet.header.ttl.toNat
    | .syncReq => 1
    | .hello | .syncResp | .syncData => 0

inductive Offers (allowed : Bytes → Prop) (before : PeerSenders) : PeerSenders → Prop where
  | nothing : Offers allowed before before
  | data {change : String → Channel → Channel} (data : Bytes) (fine : allowed data)
      (each : ∀ peerId channel,
        change peerId channel = channel ∨ change peerId channel = channel.trySend data) :
      Offers allowed before (before.mapValues change)

theorem Offers.mono {allowed wider : Bytes → Prop} {before after : PeerSenders}
    (offers : Offers allowed before after) (widens : ∀ data, allowed data → wider data) :
    Offers wider before after := by
  cases offers with
  | nothing => exact .nothing
  | data data fine each => exact .data data (widens data fine) each

theorem Offers.queued {allowed : Bytes → Prop} {before after : PeerSenders}
    (offers : Offers allowed before after) {peerId : String} {channel : Channel}
    (found : after.get? peerId = some channel) :
    ∃ old, before.get? peerId = some old ∧ ∀ data ∈ channel.queued, data ∈ old.queued ∨
      allowed data := by
  cases offers with
  | nothing => exact ⟨channel, found, fun data member => .inl member⟩
  | data offered fine each =>
      rw [AssocMap.get?_mapValues] at found
      rcases Option.map_eq_some_iff.mp found with ⟨old, held, rfl⟩
      refine ⟨old, held, ?_⟩
      intro data member
      rcases each peerId old with same | sent
      · exact .inl (same ▸ member)
      · rw [sent] at member
        rcases Channel.mem_trySend member with present | rfl
        · exact .inl present
        · exact .inr fine

theorem offers_relayPacket {allowed : Bytes → Prop} {packet : ClampPacket} {senderKey : String}
    {peerSenders : PeerSenders} (fine : allowed packet.encode) :
    Offers allowed peerSenders (relayPacket packet senderKey peerSenders) := by
  apply Offers.data packet.encode fine
  intro peerId channel
  by_cases other : peerId ≠ senderKey
  · exact .inr (if_pos other)
  · exact .inl (if_neg other)

theorem not_greets_encode {packet : ClampPacket} (genuine : packet.Genuine)
    (other : packet.header.packetType ≠ .hello) : ¬ Greets packet.encode := by
  intro greets
  rcases greets with ⟨found, read, hello⟩
  rw [ClampPacket.decode_encode packet genuine, Except.ok.injEq] at read
  rw [← read] at hello
  exact other hello

def Floods (packet : ClampPacket) : Prop :=
  Routed packet ∨ packet.header.packetType = .broadcast

theorem hops_encode {packet : ClampPacket} (genuine : packet.Genuine)
    (floods : Floods packet) :
    hops packet.encode = packet.header.ttl.toNat := by
  rw [hops, ClampPacket.decode_encode packet genuine]
  rcases floods with (type | type | type) | type
  all_goals simp only [type]

theorem hops_passed {packet next : ClampPacket} (genuine : packet.Genuine)
    (floods : Floods packet) (live : packet.header.ttl > 0)
    (header : next.header = { packet.header with ttl := packet.header.ttl - 1 }) :
    hops next.encode < hops packet.encode ∧ ¬ Greets next.encode := by
  have floods' : Floods next := by
    rw [Floods, Routed, header]
    exact floods
  have other : next.header.packetType ≠ .hello := by
    rcases floods' with (type | type | type) | type
    all_goals simp [type]
  have genuine' : next.Genuine := by
    rw [ClampPacket.Genuine, header]
    exact genuine
  have positive : 0 < packet.header.ttl.toNat := live
  have less : (packet.header.ttl - 1).toNat = packet.header.ttl.toNat - 1 :=
    UInt8.toNat_sub_of_le _ _ positive
  refine ⟨?_, not_greets_encode genuine' other⟩
  rw [hops_encode genuine' floods', hops_encode genuine floods, header, less]
  omega

theorem offers_receive (node : AppState crates) (env : ReceiveEnv) (raw : Bytes)
    (senderKey : String) (kind : ConnKind) :
    Offers (fun data => hops data < hops raw ∧ ¬ Greets data) node.peerSenders
      (processIncomingPacket node env raw senderKey kind).1.peerSenders := by
  cases read : ClampPacket.decode raw with
  | error e =>
      rw [processIncomingPacket, read]
      exact .nothing
  | ok packet =>
      rcases ClampPacket.decode_eq_ok.mp read with ⟨genuine, rfl⟩
      by_cases routed : Routed packet
      · have ended := handleRouted_end node env senderKey routed
        rw [process_of_routed read routed]
        generalize handleRouted node env packet senderKey = outcome at ended
        generalize node.relayed env packet senderKey = next at ended
        cases ended with
        | relayed named passes live =>
            exact offers_relayPacket (hops_passed genuine (.inl routed) live rfl)
        | last named passes spent => exact .nothing
        | unnamed unnamed => exact .nothing
        | dropped named fails => exact .nothing
      by_cases broadcast : packet.header.packetType = .broadcast
      · have ended := handleBroadcast_end node env senderKey broadcast
        rw [process_of_broadcast read broadcast]
        generalize handleBroadcast node packet senderKey = outcome at ended
        generalize node.relayed env packet senderKey = next at ended
        cases ended with
        | duplicate seen => exact .nothing
        | unreadable unseen unread => exact .nothing
        | relayed unseen payload live next_eq =>
            exact offers_relayPacket
              (hops_passed genuine (.inr broadcast) live (by rw [next_eq]))
        | last unseen payload spent => exact .nothing
      rw [processIncomingPacket, read]
      dsimp only
      cases type : packet.header.packetType with
      | dm => exact absurd (.inl type) routed
      | channel => exact absurd (.inr (.inl type)) routed
      | file => exact absurd (.inr (.inr type)) routed
      | broadcast => exact absurd type broadcast
      | hello => exact .nothing
      | syncResp => exact .nothing
      | syncData =>
          simp only [handleSyncData]
          split <;> exact .nothing
      | syncReq =>
          have other : ¬ Greets (syncRespPacket crates node env.idRandom).encode :=
            not_greets_encode ⟨rfl, rfl⟩ (fun hello => by cases hello)
          have fewer : hops (syncRespPacket crates node env.idRandom).encode <
              hops packet.encode := by
            rw [hops, hops, read, ClampPacket.decode_encode _ ⟨rfl, rfl⟩]
            simp only [type, syncRespPacket]
            exact Nat.one_pos
          simp only [handleSyncReq, AssocMap.modify]
          apply Offers.data _ ⟨fewer, other⟩
          intro peerId channel
          by_cases same : peerId = senderKey
          · exact .inr (if_pos same)
          · exact .inl (if_neg same)

end Caraka
