import Caraka.Authenticity
import Caraka.Hints
import Caraka.Registration

/-! How long the replay cache keeps a message from being accepted again. -/

namespace Caraka

open Foundation

variable {crates : Crates}

/-- The router of a node accepted a frame with the nonce, ciphertext and tag of a packet, and
`try_decrypt_packet` returned what it handed to the frontend. -/
structure Accepted (node : AppState crates) (env : ReceiveEnv) (raw : Bytes) (senderKey : String)
    (kind : ConnKind) (packet : ClampPacket) (reader : AppState crates) (now : UInt64)
    (delivered : DeliveredPacket) (info : MessageInfo) : Prop where
  event : .clampPacketReceived delivered ∈ (processIncomingPacket node env raw senderKey kind).2
  nonce : delivered.nonce = Hex.encode packet.nonce.bytes
  ciphertext : delivered.ciphertext = Hex.encode packet.ciphertext
  aeadTag : delivered.aeadTag = Hex.encode packet.aeadTag.bytes
  returned : (tryDecryptPacket reader now delivered.packetId delivered.nonce delivered.ciphertext
    delivered.aeadTag).result = .ok (some info)

theorem accepted_of_carries {node reader : AppState crates} {env : ReceiveEnv} {raw : Bytes}
    {senderKey : String} {kind : ConnKind} {packet : ClampPacket} {now : UInt64}
    {delivered : DeliveredPacket} {info : MessageInfo}
    (event : .clampPacketReceived delivered ∈
      (processIncomingPacket node env raw senderKey kind).2)
    (carries : delivered.Carries packet.content)
    (returned : (tryDecryptPacket reader now delivered.packetId delivered.nonce
      delivered.ciphertext delivered.aeadTag).result = .ok (some info)) :
    Accepted node env raw senderKey kind packet reader now delivered info :=
  ⟨event, carries.nonce, carries.ciphertext, carries.aeadTag, returned⟩

theorem Accepted.registers {node reader : AppState crates} {env : ReceiveEnv} {raw : Bytes}
    {senderKey : String} {kind : ConnKind} {packet : ClampPacket} {now : UInt64}
    {delivered : DeliveredPacket} {info : MessageInfo} {key : AeadKey} {nonce : Nonce}
    {message : Bytes} {packetId : Octets 8}
    (accepted : Accepted node env raw senderKey kind packet reader now delivered info)
    (encryption : Sealed crates key nonce message .dm packetId packet)
    (binds : crates.BindsHeader key nonce message .dm packetId) :
    packetId ∉ node.router.packetCache.recent ∧
      (processIncomingPacket node env raw senderKey kind).1.router.packetCache =
        node.router.packetCache.put packetId ∧
      Fresh now packet.nonce := by
  rcases delivers_of_event accepted.event with ⟨arrived, -, carries, unseen, -, cache⟩
  obtain ⟨presented, found, store, row, parsed, received, -⟩ :=
    tryDecryptPacket_some accepted.returned
  rcases searchPeers_some received.search with ⟨-, -, -, fresh, ⟨plaintext, decrypted, -⟩, -⟩
  rcases parsePresented_eq_ok.mp parsed with ⟨readId, readNonce, readText, readTag⟩
  rw [carries.packetId, Hex.decode_encode, Option.some.injEq] at readId
  rw [accepted.nonce, Hex.decode_encode, Option.some.injEq] at readNonce
  rw [accepted.ciphertext, Hex.decode_encode, Option.some.injEq] at readText
  rw [accepted.aeadTag, Hex.decode_encode, Option.some.injEq] at readTag
  rcases encryption.encrypted with ⟨output, encrypted, split⟩
  rw [← Octets.ext readNonce, encryption.nonce_eq, ← readText, ← readTag, ← split] at decrypted
  rcases binds output encrypted _ _ _ _ decrypted with ⟨-, sameId⟩
  have id_eq : arrived.header.packetId = packetId := (Octets.ext readId).trans sameId
  rw [id_eq] at unseen cache
  rw [← Octets.ext readNonce] at fresh
  exact ⟨unseen, cache, fresh⟩

theorem router_tryDecrypt (node : AppState crates) (now : UInt64)
    (packetId nonceHex ciphertextHex aeadTagHex : String) :
    (node.perform (.tryDecrypt now packetId nonceHex ciphertextHex aeadTagHex)).router =
      node.router := by
  have ended := tryDecryptPacket_end node now packetId nonceHex ciphertextHex aeadTagHex
  rw [AppState.perform]
  generalize tryDecryptPacket node now packetId nonceHex ciphertextHex aeadTagHex = outcome
    at ended ⊢
  cases ended <;> rfl

theorem receive_broadcast {node : AppState crates} {packet : ClampPacket}
    (genuine : packet.Genuine) (broadcast : packet.header.packetType = .broadcast)
    (unseen : packet.header.packetId ∉ node.router.packetCache.recent) (env : ReceiveEnv)
    (senderKey : String) (kind : ConnKind) :
    (node.perform (.receive env packet.encode senderKey kind)).router =
        node.router.registerBroadcast packet.header.packetId ∧
      (node.perform (.receive env packet.encode senderKey kind)).store = node.store := by
  have new : ¬ node.router.isDuplicate packet.header.packetId = true := by
    rwa [Router.isDuplicate, Lru.contains_eq_true]
  simp only [AppState.perform, processIncomingPacket, ClampPacket.decode_encode packet genuine,
    broadcast, handleBroadcast, if_neg new]
  split
  · exact ⟨rfl, rfl⟩
  · split <;> exact ⟨rfl, rfl⟩

theorem live_broadcasts {node : AppState crates} {packets : List ClampPacket} (env : ReceiveEnv)
    (senderKey : String) (kind : ConnKind)
    (built : ∀ packet ∈ packets, packet.Genuine ∧ packet.header.packetType = .broadcast)
    (distinct : (packets.map fun packet => packet.header.packetId).Nodup)
    (unseen : ∀ packet ∈ packets, packet.header.packetId ∉ node.router.packetCache.recent) :
    (node.live (packets.map fun packet => .receive env packet.encode senderKey kind)).router =
        { node.router with
          packetCache := node.router.packetCache.putAll
            (packets.map fun packet => packet.header.packetId) } ∧
      (node.live (packets.map fun packet =>
        .receive env packet.encode senderKey kind)).store = node.store := by
  induction packets generalizing node with
  | nil => exact ⟨rfl, rfl⟩
  | cons packet packets ih =>
      simp only [List.forall_mem_cons] at built unseen
      simp only [List.map_cons, List.nodup_cons] at distinct
      rcases receive_broadcast built.1.1 built.1.2 unseen.1 env senderKey kind with ⟨router, store⟩
      have fresh : ∀ other ∈ packets, other.header.packetId ∉ (node.perform
          (.receive env packet.encode senderKey kind)).router.packetCache.recent := by
        intro other member held
        rw [router] at held
        rcases Lru.eq_or_mem_of_mem_put held with same | old
        · exact distinct.1 (same ▸ List.mem_map_of_mem member)
        · exact unseen.2 other member old
      rcases ih built.2 distinct.2 fresh with ⟨later, kept⟩
      rw [List.map_cons, AppState.live_cons, later, kept, router, store]
      exact ⟨rfl, rfl⟩

namespace Sample

def idealAlice : AppState idealCrates := node idealCrates 1 [2]

theorem idealAlice_sendDm : (sendDm idealAlice env idealBob.identity.nodeIdHex "halo" none
    none).sent = some haloPacket := by
  rfl

def haloReceive : Activity := .receive receiveEnv haloPacket.encode (nodeId 1) (.torInbound "1")

def haloRead (delivered : DeliveredPacket) : Activity :=
  .tryDecrypt 1200 delivered.packetId delivered.nonce delivered.ciphertext delivered.aeadTag

def replay : ClampPacket :=
  { haloPacket with
    hopAuth := {
      hopCounter := 0
      macTag := (Router.new (key 3)).computeOriginMac idealCrates haloPacket } }

def floodPackets : List ClampPacket :=
  (List.range cacheSize).map fun index =>
    ClampPacket.buildBroadcast (key 3) ⟨nodeId 3, "User", "spam", 1000, "1"⟩ (octets 4 index)

def flood : List Activity :=
  floodPackets.map fun packet =>
    .receive receiveEnv packet.encode (nodeId 3) (.torInbound "2")

def flooded (delivered : DeliveredPacket) : AppState idealCrates :=
  (idealBob.perform haloReceive).live (haloRead delivered :: flood)

def replayReceive : Activity := .receive receiveEnv replay.encode (nodeId 3) (.torInbound "2")

theorem flood_built : ∀ packet ∈ floodPackets,
    packet.Genuine ∧ packet.header.packetType = .broadcast := by
  intro packet member
  rcases List.mem_map.mp member with ⟨index, -, rfl⟩
  exact ⟨⟨rfl, rfl⟩, rfl⟩

theorem flood_ids : (floodPackets.map fun packet => packet.header.packetId) =
    (List.range cacheSize).map fun index =>
      ClampPacket.generatePacketId (key 3) (octets 4 index) := by
  rw [floodPackets, List.map_map]
  rfl

theorem flood_distinct : (floodPackets.map fun packet => packet.header.packetId).Nodup := by
  rw [flood_ids]
  refine List.Nodup.map_on ?_ List.nodup_range
  intro first small second small' same
  rw [List.mem_range, cacheSize] at small small'
  have tails := List.append_inj_right (congrArg Octets.bytes same) rfl
  exact leBytes_injective (by omega) (by omega) tails

theorem halo_not_flooded :
    haloPacket.header.packetId ∉ floodPackets.map fun packet => packet.header.packetId := by
  rw [flood_ids]
  intro member
  rcases List.mem_map.mp member with ⟨index, -, same⟩
  have heads := congrArg (fun id : Octets 8 => id.bytes.head?) same
  have three : (ClampPacket.generatePacketId (key 3) (octets 4 index)).bytes.head? = some 3 := rfl
  have one : haloPacket.header.packetId.bytes.head? = some 1 := by
    rw [halo_packetId]
    rfl
  simp only [three, one] at heads
  revert heads
  decide

theorem ideal_returns {reader : AppState idealCrates}
    (same : reader.identity = idealBob.identity) (known : Known reader (nodeId 1) (key 1))
    (inside : 0 ∈ window (recvHint reader.identity reader.store (nodeId 1) (key 1)))
    {delivered : DeliveredPacket} (carries : delivered.Carries haloPacket.content) :
    ∃ info, (tryDecryptPacket reader 1200 delivered.packetId delivered.nonce delivered.ciphertext
      delivered.aeadTag).result = .ok (some info) := by
  have opens := halo_opens
  rw [← same] at opens
  rcases exists_search known inside presented_fresh opens with ⟨found, store, search⟩
  rcases (searchPeers_some search).2.2.2.2.1 with ⟨plaintext, -, parsed⟩
  have payload := @mem_of_dmFromSlice [halo] [] _ _ parsed
  have spelled : found.payload.senderId = Hex.encode (key 1).bytes := by
    rw [List.mem_singleton.mp payload]
    rfl
  exact ⟨_, tryDecryptPacket_finds carries.parse search spelled⟩

def routerAfter : Router :=
  (idealBob.router.charge 0 (key 1)).2.accept haloPacket.header.packetId (key 1)

theorem routerAfter_frame :
    routerAfter.packetCache = idealBob.router.packetCache.put haloPacket.header.packetId ∧
      routerAfter.channelMacKey = Octets.zero 16 := by
  obtain ⟨cache, macKey, -⟩ :=
    Router.accept_frame (idealBob.router.charge 0 (key 1)).2 haloPacket.header.packetId (key 1)
  rcases Router.charge_frame idealBob.router 0 (key 1) with ⟨kept, macKept, -⟩
  rw [kept] at cache
  exact ⟨cache, macKey.trans macKept⟩

theorem routerAfter_new : routerAfter.rateLimiters.get? (key 3) = none ∧
    routerAfter.trustScores.get? (key 3) = none := by
  have other : key 3 ≠ key 1 := by decide
  exact ⟨(AssocMap.get?_insert_ne _ _ other).trans (AssocMap.get?_empty _),
    (AssocMap.get?_insert_ne _ _ other).trans (AssocMap.get?_empty _)⟩

theorem routerAfter_allows : (routerAfter.charge receiveEnv.instant (key 3)).1 = true :=
  Router.charge_of_new _ routerAfter_new.1

theorem routerAfter_trusts : trustThreshold ≤ routerAfter.getTrust (key 3) :=
  Router.trusts_of_new routerAfter_new.2

theorem halo_accepted :
    (∃ delivered, Arrives idealBob receiveEnv haloPacket.encode (nodeId 1) (.torInbound "1")
        haloPacket delivered) ∧
      (idealBob.perform haloReceive).store = idealBob.store ∧
      (idealBob.perform haloReceive).router = routerAfter := by
  rcases sendDm_sent idealAlice_sendDm with ⟨peerPub, facts⟩
  have encryption := facts.encryption
  have valid := @verifyHopMac_buildPacket _ _ idealBob.router _ _ _ _ _ _ facts.built rfl
  have allowed : (idealBob.router.charge receiveEnv.instant (key 1)).1 = true :=
    Router.charge_of_new _ (AssocMap.get?_empty _)
  have trusted : trustThreshold ≤ idealBob.router.getTrust (key 1) :=
    Router.trusts_of_new (AssocMap.get?_empty _)
  have unseen : haloPacket.header.packetId ∉ idealBob.router.packetCache.recent :=
    List.not_mem_nil
  rw [haloReceive, AppState.perform]
  exact arrives_of_accepted encryption.genuine encryption.packetType_eq encryption.live receiveEnv
    (.torInbound "1") (key_spelled 1) allowed trusted unseen valid

theorem replay_header :
    replay.Genuine ∧ replay.header.packetType = .dm ∧ replay.header.ttl > 0 := by
  rcases sendDm_sent idealAlice_sendDm with ⟨peerPub, facts⟩
  have encryption := facts.encryption
  exact ⟨encryption.genuine, encryption.packetType_eq, encryption.live⟩

theorem replay_content : replay.content = haloPacket.content := by
  rw [replay, ClampPacket.content, ClampPacket.content]

theorem replay_valid {router : Router} (shared : router.channelMacKey = Octets.zero 16) :
    router.verifyHopMac idealCrates replay (key 3) = true :=
  @verifyHopMac_origin _ (Router.new (key 3)) router haloPacket shared

theorem replay_unseen : replay.header.packetId ∉ (routerAfter.packetCache.putAll
    (floodPackets.map fun packet => packet.header.packetId)).recent := by
  change haloPacket.header.packetId ∉ _
  rw [routerAfter_frame.1, Lru.mem_putAll_put _ _ _ halo_not_flooded,
    List.toFinset_card_of_nodup flood_distinct, floodPackets, List.length_map, List.length_map,
    List.length_range]
  exact Nat.lt_irrefl _

theorem hint_after {node : AppState idealCrates} (same : node.identity = idealBob.identity)
    (store : node.store = idealBob.store) {delivered : DeliveredPacket}
    (carries : delivered.Carries haloPacket.content) :
    let reader := node.perform (.tryDecrypt 1200 delivered.packetId delivered.nonce
      delivered.ciphertext delivered.aeadTag)
    recvHint reader.identity reader.store (nodeId 1) (key 1) ≤ 1 := by
  dsimp only
  rw [recvHint_perform node (key_spelled 1), same, store, idealBob_hint]
  rcases idealBob_finds with ⟨found, opened, search, -, counter⟩
  simp only [AppState.opened, carries.parse, same, store, search]
  cases receivedRow 1200 delivered.packetId haloPacket.content.presented found with
  | none => exact Nat.zero_le 1
  | some row =>
      simp only [Option.map_some, Option.toList_some, List.foldl_cons, List.foldl_nil, nextCounter,
        counter]
      split <;> omega

theorem replayed : ∃ delivered info delivered' info',
    Accepted idealBob receiveEnv haloPacket.encode (nodeId 1) (.torInbound "1") haloPacket
      (idealBob.perform haloReceive) 1200 delivered info ∧
    Accepted (flooded delivered) receiveEnv replay.encode (nodeId 3) (.torInbound "2") haloPacket
      ((flooded delivered).perform replayReceive) 1200 delivered' info' := by
  simp only [flooded, haloRead, replayReceive]
  rcases halo_accepted with ⟨⟨delivered, arrives⟩, store, router⟩
  have evolves := evolves_perform idealBob haloReceive
  have carries := arrives.delivered
  generalize idealBob.perform haloReceive = first at store router evolves ⊢
  have known : Known first (nodeId 1) (key 1) :=
    ⟨evolves.peers_kept _ idealBob_knows.1, idealBob_knows.2⟩
  have inside : 0 ∈ window (recvHint first.identity first.store (nodeId 1) (key 1)) := by
    rw [evolves.identity_eq, store, idealBob_hint, mem_window]
    omega
  rcases ideal_returns evolves.identity_eq known inside carries with ⟨info, returned⟩
  have hint := hint_after evolves.identity_eq store carries
  have reads := evolves_perform first (.tryDecrypt 1200 delivered.packetId delivered.nonce
    delivered.ciphertext delivered.aeadTag)
  have routerRead := router_tryDecrypt first 1200 delivered.packetId delivered.nonce
    delivered.ciphertext delivered.aeadTag
  rw [router] at routerRead
  refine ⟨delivered, info, ?_⟩
  rw [AppState.live_cons]
  dsimp only at hint
  generalize first.perform (.tryDecrypt 1200 delivered.packetId delivered.nonce
    delivered.ciphertext delivered.aeadTag) = second at hint reads routerRead ⊢
  have new : ∀ packet ∈ floodPackets,
      packet.header.packetId ∉ second.router.packetCache.recent := by
    intro packet member held
    rw [routerRead, routerAfter_frame.1] at held
    rcases Lru.eq_or_mem_of_mem_put held with same | old
    · exact halo_not_flooded (same ▸ List.mem_map_of_mem member)
    · cases old
  obtain ⟨routerFlooded, storeFlooded⟩ :=
    live_broadcasts receiveEnv (nodeId 3) (.torInbound "2") flood_built flood_distinct new
  have floods := evolves_live second flood
  rw [routerRead] at routerFlooded
  rw [← flood] at routerFlooded storeFlooded
  generalize second.live flood = third at routerFlooded storeFlooded floods ⊢
  obtain ⟨charges, trusts, verifies⟩ :=
    Router.packetCache_frame idealCrates routerAfter (routerAfter.packetCache.putAll
      (floodPackets.map fun packet => packet.header.packetId)) receiveEnv.instant (key 3) replay
  rw [← routerFlooded] at charges trusts verifies
  have allowed := charges.trans routerAfter_allows
  have trusted := routerAfter_trusts.trans_eq trusts.symm
  have unseen : replay.header.packetId ∉ third.router.packetCache.recent := by
    rw [routerFlooded]
    exact replay_unseen
  have valid := verifies.trans (replay_valid routerAfter_frame.2)
  obtain ⟨⟨delivered', arrives'⟩, store', -⟩ :=
    arrives_of_accepted replay_header.1 replay_header.2.1 replay_header.2.2 receiveEnv (.torInbound
      "2") (key_spelled 3) allowed trusted unseen valid
  have carries' : delivered'.Carries haloPacket.content := by
    have carries' := arrives'.delivered
    rwa [replay_content] at carries'
  have last := evolves_perform third
    (.receive receiveEnv replay.encode (nodeId 3) (.torInbound "2"))
  have whole := ((evolves.trans reads).trans floods).trans last
  have inside' : 0 ∈ window (recvHint (third.perform (.receive receiveEnv replay.encode (nodeId 3)
      (.torInbound "2"))).identity (third.perform (.receive receiveEnv replay.encode (nodeId 3)
        (.torInbound "2"))).store (nodeId 1) (key 1)) := by
    rw [AppState.perform] at last ⊢
    rw [last.identity_eq, store', floods.identity_eq, storeFlooded, mem_window]
    omega
  obtain ⟨info', returned'⟩ :=
    ideal_returns whole.identity_eq ⟨whole.peers_kept _ idealBob_knows.1, idealBob_knows.2⟩ inside'
      carries'
  exact ⟨delivered', info', accepted_of_carries arrives.event carries returned,
    accepted_of_carries arrives'.event carries' returned'⟩

theorem ideal_binds {key : AeadKey} {nonce : Nonce} {message : Bytes} :
    idealCrates.BindsHeader key nonce message .dm (sentPacketId idealAlice env) := by
  intro output _ other otherType otherId plaintext decrypted
  obtain ⟨record, member, -, -, same, -⟩ := unforgeable haloCrates [haloRecord] _ _ _ _ _ decrypted
  rw [List.mem_singleton.mp member] at same
  rcases receiveAad_injective same with ⟨sameType, sameId⟩
  rcases sendDm_sent idealAlice_sendDm with ⟨peerPub, facts⟩
  rw [← facts.encryption.packetId_eq]
  exact ⟨sameType.symm, sameId.symm⟩

end Sample

/-- However often a frame is sent again, a message is accepted and returned a second time only
after at least 512 distinct other packet ids have gone through the replay cache, and both times
within 300 seconds of the time in its nonce. -/
theorem accepted_again_after_eviction {author : AppState crates} {sendEnv : SendEnv}
    {recipientId text : String} {replyToId replyToText : Option String} {packet : ClampPacket}
    (sent : (sendDm author sendEnv recipientId text replyToId replyToText).sent = some packet)
    {peerPub : NodePublicKey} (addressed : parseNodeId recipientId = some peerPub)
    (binds : crates.BindsHeader (sendKey author.identity peerPub
        (sendCounter author recipientId peerPub)) (sentNonce sendEnv)
      (sentDmPayload author sendEnv recipientId text replyToId replyToText peerPub).toVec .dm
      (sentPacketId author sendEnv))
    {node : AppState crates} {env env' : ReceiveEnv} {raw raw' : Bytes}
    {senderKey senderKey' : String} {kind kind' : ConnKind} (middle : List Activity)
    {reader reader' : AppState crates} {now now' : UInt64} {delivered delivered' : DeliveredPacket}
    {info info' : MessageInfo}
    (first : Accepted node env raw senderKey kind packet reader now delivered info)
    (second : Accepted ((node.perform (.receive env raw senderKey kind)).live middle) env' raw'
      senderKey' kind' packet reader' now' delivered' info') :
    cacheSize ≤ ((registeredIds (node.perform (.receive env raw senderKey kind))
        middle).toFinset.erase packet.header.packetId).card ∧
      Fresh now packet.nonce ∧ Fresh now' packet.nonce := by
  rcases sendDm_sent sent with ⟨_, facts⟩
  rcases Option.some.inj (facts.known.symm.trans addressed) with rfl
  rcases first.registers facts.encryption binds with ⟨-, put, fresh⟩
  rcases second.registers facts.encryption binds with ⟨evicted, -, fresh'⟩
  rw [packetCache_live] at evicted
  change _ ∉ ((processIncomingPacket node env raw senderKey kind).1.router.packetCache.putAll
    _).recent at evicted
  rw [put] at evicted
  rw [facts.encryption.packetId_eq]
  exact ⟨Lru.capacity_le_of_evicted _ _ _ evicted, fresh, fresh'⟩

theorem accepted_again_after_eviction_halo : ∃ delivered,
    cacheSize ≤ ((registeredIds (Sample.idealBob.perform Sample.haloReceive)
      (Sample.haloRead delivered :: Sample.flood)).toFinset.erase
        Sample.haloPacket.header.packetId).card := by
  rcases Sample.replayed with ⟨delivered, info, delivered', info', first, second⟩
  exact ⟨delivered, (accepted_again_after_eviction Sample.idealAlice_sendDm (Sample.key_spelled 2)
    Sample.ideal_binds _ first second).1⟩

/-- Node 2 accepts and returns one message of node 1 twice, both times within 300 seconds. -/
theorem message_returned_twice :
    (sendDm Sample.idealAlice Sample.env Sample.idealBob.identity.nodeIdHex "halo" none
      none).sent = some Sample.haloPacket ∧
    ∃ delivered info delivered' info',
      Accepted Sample.idealBob Sample.receiveEnv Sample.haloPacket.encode (Sample.nodeId 1)
        (.torInbound "1") Sample.haloPacket (Sample.idealBob.perform Sample.haloReceive) 1200
        delivered info ∧
      Accepted (Sample.flooded delivered) Sample.receiveEnv Sample.replay.encode (Sample.nodeId 3)
        (.torInbound "2") Sample.haloPacket
        ((Sample.flooded delivered).perform Sample.replayReceive) 1200 delivered' info' :=
  ⟨Sample.idealAlice_sendDm, Sample.replayed⟩

end Caraka
