import Caraka.Commands.Received

/-! What every relay leaves as it was: the content a packet carries from its origin. -/

namespace Caraka

open Foundation

/-- What a packet delivers, whatever its ttl, hop counter and hop MAC have become. -/
structure Content where
  packetType : PacketType
  packetId : Octets 8
  nonce : Octets 16
  ciphertext : Bytes
  aeadTag : Octets 16
  deriving DecidableEq

def ClampPacket.content (packet : ClampPacket) : Content where
  packetType := packet.header.packetType
  packetId := packet.header.packetId
  nonce := packet.nonce
  ciphertext := packet.ciphertext
  aeadTag := packet.aeadTag

/-- The fields of `clamp_packet_received` that come from the content. -/
structure DeliveredPacket.Carries (delivered : DeliveredPacket) (content : Content) : Prop where
  packetId : delivered.packetId = Hex.encode content.packetId.bytes
  packetType : delivered.packetType = content.packetType.toU8
  nonce : delivered.nonce = Hex.encode content.nonce.bytes
  ciphertext : delivered.ciphertext = Hex.encode content.ciphertext
  aeadTag : delivered.aeadTag = Hex.encode content.aeadTag.bytes

/-- The arguments a frontend passes on are those of the content. -/
def Content.presented (content : Content) : Presented where
  packetId := content.packetId
  nonce := content.nonce
  ciphertext := content.ciphertext
  aeadTag := content.aeadTag

theorem ClampPacket.presented_nonce (packet : ClampPacket) :
    packet.content.presented.nonce = packet.nonce := rfl

theorem DeliveredPacket.Carries.parse {delivered : DeliveredPacket} {content : Content}
    (carries : delivered.Carries content) :
    parsePresented delivered.packetId delivered.nonce delivered.ciphertext delivered.aeadTag =
      .ok content.presented := by
  rw [carries.packetId, carries.nonce, carries.ciphertext, carries.aeadTag]
  exact parsePresented_encode content.presented

variable {crates : Crates}

theorem content_relayed (crates : Crates) (router : Router) (packet : ClampPacket) :
    (router.relayed crates packet).content = packet.content := rfl

theorem genuine_relayed (router : Router) {packet : ClampPacket} (genuine : packet.Genuine) :
    (router.relayed crates packet).Genuine := genuine

theorem length_encode_relayed (router : Router) (packet : ClampPacket) :
    (router.relayed crates packet).encode.length = packet.encode.length := by
  rw [ClampPacket.length_encode, ClampPacket.length_encode]
  rfl

theorem deliverToApp_carries {packet : ClampPacket} {content : Content}
    (same : packet.content = content) :
    ∃ delivered, deliverToApp packet = .clampPacketReceived delivered ∧
      delivered.Carries content := by
  subst same
  exact ⟨_, rfl, rfl, rfl, rfl, rfl, rfl⟩

/-- Processing that hands no encrypted packet to the frontend and puts at most one id into the
replay cache. -/
def Quiet (node : AppState crates) (outcome : AppState crates × List Event) : Prop :=
  (∀ delivered, .clampPacketReceived delivered ∉ outcome.2) ∧
    (outcome.1.router.packetCache = node.router.packetCache ∨ ∃ packetId,
      outcome.1.router.packetCache = node.router.packetCache.put packetId)

/-- Processing that hands a packet to the frontend: its id was not in the replay cache and is
put there. -/
def Delivers (packet : ClampPacket) (node : AppState crates)
    (outcome : AppState crates × List Event) : Prop :=
  packet.header.packetId ∉ node.router.packetCache.recent ∧
    (∃ delivered, outcome.2 = [.clampPacketReceived delivered] ∧
      delivered.Carries packet.content) ∧
    outcome.1.router.packetCache = node.router.packetCache.put packet.header.packetId

theorem handleRouted_cases (node : AppState crates) (env : ReceiveEnv) (packet : ClampPacket)
    (senderKey : String) :
    Quiet node (handleRouted node env packet senderKey) ∨
      Delivers packet node (handleRouted node env packet senderKey) := by
  rw [handleRouted]
  cases sourceNodeId senderKey packet with
  | none => exact .inl ⟨by simp, .inl rfl⟩
  | some source =>
      dsimp only
      rcases Router.handleIncoming_cases crates node.router env.instant packet source with
        ⟨reason, router, dropped, cache⟩ | ⟨fresh, router, cache, accepted⟩
      · rw [dropped]
        exact .inl ⟨by simp, .inl cache⟩
      · by_cases live : packet.header.ttl > 0
        · rw [accepted, if_pos live]
          obtain ⟨delivered, event, carries⟩ :=
            deliverToApp_carries (content_relayed crates node.router packet)
          exact .inr ⟨fresh, ⟨delivered, congrArg ([·]) event, carries⟩, cache⟩
        · rw [accepted, if_neg live]
          rcases deliverToApp_carries (Eq.refl packet.content) with ⟨delivered, event, carries⟩
          exact .inr ⟨fresh, ⟨delivered, congrArg ([·]) event, carries⟩, cache⟩

theorem handleBroadcast_quiet (node : AppState crates) (packet : ClampPacket)
    (senderKey : String) : Quiet node (handleBroadcast node packet senderKey) := by
  rw [handleBroadcast]
  split
  · exact ⟨by simp, .inl rfl⟩
  · dsimp only
    split
    · exact ⟨by simp, .inr ⟨_, rfl⟩⟩
    · split <;> exact ⟨by simp, .inr ⟨_, rfl⟩⟩

theorem handleSyncResp_quiet (node : AppState crates) (packet : ClampPacket) :
    Quiet node (node, handleSyncResp node packet) := by
  refine ⟨?_, .inl rfl⟩
  rw [handleSyncResp]
  split
  · simp
  · dsimp only
    split <;> simp

theorem handleSyncData_quiet (node : AppState crates) (packet : ClampPacket) :
    Quiet node (handleSyncData node packet, []) := by
  refine ⟨by simp, .inl ?_⟩
  rw [handleSyncData]
  split <;> rfl

theorem processIncomingPacket_cases (node : AppState crates) (env : ReceiveEnv) (raw : Bytes)
    (senderKey : String) (kind : ConnKind) :
    Quiet node (processIncomingPacket node env raw senderKey kind) ∨
      ∃ packet, ClampPacket.decode raw = .ok packet ∧
        Delivers packet node (processIncomingPacket node env raw senderKey kind) := by
  rw [processIncomingPacket]
  cases ClampPacket.decode raw with
  | error e => exact .inl ⟨by simp, .inl rfl⟩
  | ok packet =>
      have routed : Quiet node (handleRouted node env packet senderKey) ∨ ∃ found,
          (.ok packet : Except PacketError _) = .ok found ∧
            Delivers found node (handleRouted node env packet senderKey) :=
        (handleRouted_cases node env packet senderKey).imp_right fun delivers =>
          ⟨packet, rfl, delivers⟩
      dsimp only
      cases packet.header.packetType with
      | syncReq => exact .inl ⟨by simp, .inl rfl⟩
      | syncResp => exact .inl (handleSyncResp_quiet node packet)
      | syncData => exact .inl (handleSyncData_quiet node packet)
      | hello => exact .inl ⟨by simp [handleHello, savePeerFromHello], .inl rfl⟩
      | broadcast => exact .inl (handleBroadcast_quiet node packet senderKey)
      | dm => exact routed
      | channel => exact routed
      | file => exact routed

theorem delivers_of_event {node : AppState crates} {env : ReceiveEnv} {raw : Bytes}
    {senderKey : String} {kind : ConnKind} {delivered : DeliveredPacket}
    (event : .clampPacketReceived delivered ∈
      (processIncomingPacket node env raw senderKey kind).2) :
    ∃ packet, ClampPacket.decode raw = .ok packet ∧ delivered.Carries packet.content ∧
      Delivers packet node (processIncomingPacket node env raw senderKey kind) := by
  rcases processIncomingPacket_cases node env raw senderKey kind with quiet | ⟨packet, read, found⟩
  · exact absurd event (quiet.1 delivered)
  · rcases found.2.1 with ⟨same, events, carries⟩
    rw [events, List.mem_singleton] at event
    cases event
    exact ⟨packet, read, carries, found⟩

/-- A frame that the router of a node handed to the frontend, and the packet it was sent as. -/
structure Arrives (node : AppState crates) (env : ReceiveEnv) (raw : Bytes) (senderKey : String)
    (kind : ConnKind) (packet : ClampPacket) (delivered : DeliveredPacket) : Prop where
  carries : ∃ arrived, ClampPacket.decode raw = .ok arrived ∧ arrived.content = packet.content
  event : .clampPacketReceived delivered ∈ (processIncomingPacket node env raw senderKey kind).2

theorem Arrives.delivered {node : AppState crates} {env : ReceiveEnv} {raw : Bytes}
    {senderKey : String} {kind : ConnKind} {packet : ClampPacket} {delivered : DeliveredPacket}
    (arrives : Arrives node env raw senderKey kind packet delivered) :
    delivered.Carries packet.content := by
  rcases arrives.carries with ⟨arrived, decoded, same⟩
  rcases delivers_of_event arrives.event with ⟨found, decoded', carries, -⟩
  rw [decoded] at decoded'
  cases decoded'
  rwa [same] at carries

theorem arrives_of_accepted {packet : ClampPacket} (genuine : packet.Genuine)
    (dm : packet.header.packetType = .dm) (live : packet.header.ttl > 0) {node : AppState crates}
    (env : ReceiveEnv) {senderKey : String} (kind : ConnKind) {source : NodePublicKey}
    (named : parseNodeId senderKey = some source)
    (allowed : (node.router.charge env.instant source).1 = true)
    (trusted : trustThreshold ≤ node.router.getTrust source)
    (unseen : packet.header.packetId ∉ node.router.packetCache.recent)
    (valid : node.router.verifyHopMac crates packet source = true) :
    (∃ delivered, Arrives node env packet.encode senderKey kind packet delivered) ∧
      (processIncomingPacket node env packet.encode senderKey kind).1.store = node.store ∧
      (processIncomingPacket node env packet.encode senderKey kind).1.router =
        (node.router.charge env.instant source).2.accept packet.header.packetId source := by
  have decoded := ClampPacket.decode_encode packet genuine
  have routed : processIncomingPacket node env packet.encode senderKey kind =
      handleRouted node env packet senderKey := by
    simp only [processIncomingPacket, decoded, dm]
  have accepts := Router.handleIncoming_accepts crates node.router env.instant packet source allowed
    trusted unseen valid live
  have handled : handleRouted node env packet senderKey = ({ node with
      router := (node.router.charge env.instant source).2.accept packet.header.packetId source
      peerSenders := relayPacket (node.router.relayed crates packet) senderKey
        node.peerSenders }, [deliverToApp (node.router.relayed crates packet)]) := by
    simp only [handleRouted, sourceNodeId_of_parse named packet, accepts]
  obtain ⟨delivered, event, -⟩ :=
    deliverToApp_carries (Eq.refl (node.router.relayed crates packet).content)
  rw [routed, handled]
  refine ⟨⟨delivered, ⟨packet, decoded, rfl⟩, ?_⟩, rfl, rfl⟩
  rw [routed, handled, event]
  exact List.mem_singleton_self _

end Caraka
