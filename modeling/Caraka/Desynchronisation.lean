import Caraka.Hints
import Caraka.Delivery

/-! Which packets of a conversation the receiver still opens, whatever was lost or overtaken. -/

namespace Caraka

open Foundation

variable {crates : Crates}

/-- The counter a node expects next from a peer after a run: one past the largest it opened, or
the hint it started with. -/
def nextExpected (node : AppState crates) (activities : List Activity) (peerId : String)
    (peerPub : NodePublicKey) : Nat :=
  (emitted AppState.perform AppState.opened node activities).foldl (nextCounter peerId)
    (recvHint node.identity node.store peerId peerPub)

/-- Whatever a sender lost before and whatever overtook a packet, the packet is decrypted at any
point of the receiver's run after its arrival, while its nonce is fresh and its counter is at
most five before, and less than sixty past, the counter expected next. -/
theorem decrypted_in_window (commutes : crates.Commutes) (opens : crates.Opens)
    (rejects : crates.RejectsOtherKeys) {origin receiver : AppState crates}
    (sends front back : List Activity) {recipientId senderHex : String}
    (addressed : parseNodeId recipientId = some receiver.identity.myNodeId)
    (known : Known receiver senderHex origin.identity.myNodeId) {env : SendEnv}
    {receiveEnv : ReceiveEnv} {raw : Bytes} {senderKey : String} {kind : ConnKind}
    {packet : ClampPacket} {delivered : DeliveredPacket}
    (arrives : Arrives (receiver.live front) receiveEnv raw senderKey kind packet delivered)
    {now : UInt64} (fresh : Fresh now packet.nonce)
    (inside : sendCounter (origin.live sends) recipientId receiver.identity.myNodeId ∈
      window (nextExpected receiver (front ++ .receive receiveEnv raw senderKey kind :: back)
        senderHex origin.identity.myNodeId)) :
    (∀ text replyToId replyToText,
      (sendDm (origin.live sends) env recipientId text replyToId replyToText).sent = some packet →
      crates.ReadsDm (sentDmPayload (origin.live sends) env recipientId text replyToId replyToText
        receiver.identity.myNodeId) →
      ∃ info, (tryDecryptPacket
          (receiver.live (front ++ .receive receiveEnv raw senderKey kind :: back)) now
          delivered.packetId delivered.nonce delivered.ciphertext delivered.aeadTag).result =
            .ok (some info) ∧
        info.plaintext = text ∧ info.senderId = origin.identity.nodeIdHex) ∧
    (∀ file fileBytes filename mimeType saveReceivedFile savedPath,
      (sendFile (origin.live sends) env recipientId file).sent = some packet →
      readFileForTransfer file = .ok (fileBytes, filename, mimeType) →
      crates.ReadsFile (sentFilePayload (origin.live sends) env recipientId fileBytes filename
        mimeType receiver.identity.myNodeId) →
      crates.base64Decode (Base64.encode fileBytes) = .ok fileBytes →
      saveReceivedFile filename fileBytes = .ok savedPath →
      ∃ info, (tryDecryptFilePacket
          (receiver.live (front ++ .receive receiveEnv raw senderKey kind :: back)) now
          saveReceivedFile delivered.packetId delivered.nonce delivered.ciphertext
          delivered.aeadTag).result = .ok (some info) ∧
        info.filename = filename ∧ info.savedPath = savedPath ∧
        info.senderId = origin.identity.nodeIdHex) := by
  have carries := arrives.delivered
  have evolves := evolves_live receiver
    (front ++ .receive receiveEnv raw senderKey kind :: back)
  have sender := (evolves_live origin sends).identity_eq
  rw [nextExpected, ← recvHint_live receiver known.2] at inside
  generalize receiver.live (front ++ .receive receiveEnv raw senderKey kind :: back) = reader
    at evolves inside ⊢
  generalize origin.live sends = author at sender inside ⊢
  rw [← evolves.identity_eq] at addressed inside ⊢
  rw [← sender] at known inside ⊢
  have knows : Known reader senderHex author.identity.myNodeId :=
    ⟨evolves.peers_kept _ known.1, known.2⟩
  constructor
  · intro text replyToId replyToText sent readable
    rcases sendDm_sent sent with ⟨peerPub, facts⟩
    rcases Option.some.inj (facts.known.symm.trans addressed) with rfl
    obtain ⟨found, store, search, payload⟩ :=
      search_finds_sealed commutes opens rejects facts.encryption readable knows fresh inside
    have spelling : found.payload.senderId = Hex.encode author.identity.myNodeId.bytes := by
      rw [payload]
      exact author.identity.nodeIdHex_eq
    refine ⟨_, tryDecryptPacket_finds carries.parse search spelling, ?_⟩
    rw [payload]
    exact ⟨rfl, rfl⟩
  · intro file fileBytes filename mimeType saveReceivedFile savedPath sent read readable decodes
      saves
    rcases sendFile_sent sent with ⟨_, _, _, peerPub, facts⟩
    rcases Option.some.inj (facts.known.symm.trans addressed) with rfl
    have same := facts.read
    rw [read] at same
    cases same
    obtain ⟨found, store, search, payload⟩ :=
      search_finds_sealed commutes opens rejects facts.encryption readable knows fresh inside
    have decoded : crates.base64Decode found.payload.fileDataB64 = .ok fileBytes := by
      rw [payload]
      exact decodes
    have saved : saveReceivedFile found.payload.filename fileBytes = .ok savedPath := by
      rw [payload]
      exact saves
    refine ⟨_, tryDecryptFilePacket_finds carries.parse search decoded saved, ?_⟩
    rw [payload]
    exact ⟨rfl, rfl, rfl⟩

namespace Sample

/-- The message of node 1 under another counter. -/
def numbered (counter : UInt64) : DmInnerPayload := { halo with msgCounter := counter }

def chatCrates : Crates := Sample.crates [numbered 1, numbered 2] []

def chatAuthor : AppState chatCrates := node chatCrates 1 [2]

def chatReader : AppState chatCrates := node chatCrates 2 [3, 1]

def chatEnv (number : Nat) : SendEnv :=
  { env with idRandom := octets 4 number, nonceRandom := octets 12 number }

/-- The first messages of node 1 to node 2. -/
def chatSends (count : Nat) : List Activity :=
  (List.range count).map fun number =>
    .sendDm (chatEnv number) (nodeId 2) "halo" none none

theorem chatSent (number : Nat) : (sendDm (chatAuthor.live (chatSends number)) (chatEnv number)
    (nodeId 2) "halo" none none).sent.isSome = true := by
  generalize chatAuthor.live (chatSends number) = node
  rfl

def chatPacket (number : Nat) : ClampPacket :=
  (sendDm (chatAuthor.live (chatSends number)) (chatEnv number) (nodeId 2) "halo" none
    none).sent.get (chatSent number)

/-- The first message is lost, and the third arrives. -/
def overtaking : List Activity :=
  [.receive receiveEnv (chatPacket 2).encode (nodeId 1) (.torInbound "1")]

theorem overtaken_valid :
    (chatReader.live overtaking).router.verifyHopMac chatCrates (chatPacket 1) (key 1) = true := by
  decide +kernel

theorem overtaken_allowed : ((chatReader.live overtaking).router.charge 0 (key 1)).1 = true := by
  decide +kernel

theorem overtaken_trusted :
    trustThreshold ≤ (chatReader.live overtaking).router.getTrust (key 1) := by
  decide +kernel

theorem overtaken_unseen :
    (chatPacket 1).header.packetId ∉ (chatReader.live overtaking).router.packetCache.recent := by
  decide +kernel

theorem second_sent : (sendDm (chatAuthor.live (chatSends 1)) (chatEnv 1) (nodeId 2) "halo" none
    none).sent = some (chatPacket 1) :=
  (Option.some_get (chatSent 1)).symm

theorem second_arrives : ∃ delivered, Arrives (chatReader.live overtaking) receiveEnv
    (chatPacket 1).encode (nodeId 1) (.torInbound "1") (chatPacket 1) delivered := by
  rcases sendDm_sent second_sent with ⟨peerPub, facts⟩
  have encryption := facts.encryption
  exact (arrives_of_accepted encryption.genuine encryption.packetType_eq encryption.live
    receiveEnv (.torInbound "1") (key_spelled 1) overtaken_allowed overtaken_trusted
    overtaken_unseen overtaken_valid).1

theorem second_fresh : Fresh 1200 (chatPacket 1).nonce := by
  rcases sendDm_sent second_sent with ⟨peerPub, facts⟩
  rw [facts.encryption.nonce_eq]
  decide

theorem second_counter : sendCounter (chatAuthor.live (chatSends 1)) (nodeId 2)
    chatReader.identity.myNodeId = 1 := by
  decide +kernel

theorem second_payload : sentDmPayload (chatAuthor.live (chatSends 1)) (chatEnv 1) (nodeId 2) "halo"
    none none chatReader.identity.myNodeId = numbered 1 := by
  decide +kernel

theorem chat_knows : Known chatReader (nodeId 1) chatAuthor.identity.myNodeId :=
  ⟨by decide +kernel, key_spelled 1⟩

end Sample

/-- The first of three messages is lost and the third overtakes the second, which is still
decrypted. -/
theorem decrypted_in_window_halo : ∃ (delivered : DeliveredPacket) (info : MessageInfo),
    (tryDecryptPacket (Sample.chatReader.live (Sample.overtaking ++ [.receive Sample.receiveEnv
        (Sample.chatPacket 1).encode (Sample.nodeId 1) (.torInbound "1")])) 1200
      delivered.packetId delivered.nonce delivered.ciphertext delivered.aeadTag).result =
        .ok (some info) ∧
    info.plaintext = "halo" := by
  rcases Sample.second_arrives with ⟨delivered, arrives⟩
  have hint : recvHint Sample.chatReader.identity Sample.chatReader.store (Sample.nodeId 1)
      Sample.chatAuthor.identity.myNodeId = 0 := recvHint_of_none _ (AssocMap.get?_empty _)
  have inside : sendCounter (Sample.chatAuthor.live (Sample.chatSends 1)) (Sample.nodeId 2)
      Sample.chatReader.identity.myNodeId ∈ window (nextExpected Sample.chatReader
        (Sample.overtaking ++ [.receive Sample.receiveEnv (Sample.chatPacket 1).encode
          (Sample.nodeId 1) (.torInbound "1")]) (Sample.nodeId 1)
            Sample.chatAuthor.identity.myNodeId) := by
    rw [Sample.second_counter, nextExpected, hint]
    exact mem_window.mpr (show _ by decide)
  have readable : Sample.chatCrates.ReadsDm (sentDmPayload
      (Sample.chatAuthor.live (Sample.chatSends 1)) (Sample.chatEnv 1) (Sample.nodeId 2) "halo" none
        none Sample.chatReader.identity.myNodeId) := by
    rw [Sample.second_payload]
    exact Sample.dmFromSlice_listed (Sample.numbered 1)
  obtain ⟨info, returned, text, -⟩ :=
    (decrypted_in_window Sample.commutes Sample.opens Sample.rejectsOtherKeys
      (Sample.chatSends 1) Sample.overtaking [] (Sample.key_spelled 2) Sample.chat_knows arrives
      Sample.second_fresh inside).1 "halo" none none Sample.second_sent readable
  exact ⟨delivered, info, returned, text⟩

namespace Sample

def lostSends (count : Nat) : List Activity :=
  (List.range count).map fun index =>
    .sendDm { env with idRandom := octets 4 index } bob.identity.nodeIdHex "halo" none none

theorem sendDm_goes_out (node : AppState haloCrates) (env : SendEnv)
    (noFault : env.faults = SendFaults.none) :
    ∃ packet, (sendDm node env bob.identity.nodeIdHex "halo" none none).sent = some packet := by
  have built : ∃ packet, DmBuilt node env bob.identity.nodeIdHex "halo" none none
      bob.identity.myNodeId packet := ⟨_, rfl⟩
  rcases built with ⟨packet, built⟩
  exact ⟨packet, sendDm_of_built (by decide) (by decide) bob_spelled noFault built⟩

/-- Each message lost still advances the counter of the sender. -/
theorem lost_run (count : Nat) :
    sendCounter (alice.live (lostSends count)) bob.identity.nodeIdHex bob.identity.myNodeId =
        count ∧
      (alice.live (lostSends count)).router.channelMacKey = alice.router.channelMacKey ∧
      (alice.live (lostSends count)).router.myNodeId = alice.router.myNodeId := by
  induction count with
  | zero => exact ⟨rfl, rfl, rfl⟩
  | succ count ih =>
      rcases ih with ⟨counter, macKey, ownId⟩
      rw [lostSends, List.range_succ, List.map_append, List.map_singleton, AppState.live,
        run_concat, ← AppState.live, ← lostSends]
      generalize alice.live (lostSends count) = node at counter macKey ownId ⊢
      rcases sendDm_goes_out node { env with idRandom := octets 4 count } rfl with ⟨packet, sent⟩
      rcases sendDm_sent sent with ⟨peerPub, facts⟩
      rcases Option.some.inj (facts.known.symm.trans bob_spelled) with rfl
      rw [AppState.perform, facts.node_eq]
      exact ⟨sendCounter_sentDmNode.trans (congrArg (· + 1) counter), macKey, ownId⟩

theorem key_sixty_untried : ∀ peerPub ∈ [key 3, key 1], ∀ counter ∈ window 0,
    receiveKey haloCrates bob.identity peerPub counter ≠
      sendKey alice.identity bob.identity.myNodeId 60 := by
  decide +kernel

end Sample

/-- After sixty messages that the network lost, the next one reaches a fresh node 2 in time,
passes its router and is not decrypted. -/
theorem lost_packets_desynchronise : ∃ packet delivered,
    (sendDm (Sample.alice.live (Sample.lostSends 60)) Sample.env Sample.bob.identity.nodeIdHex
      "halo" none none).sent = some packet ∧
    Known Sample.bob (Sample.nodeId 1) Sample.alice.identity.myNodeId ∧
    Arrives Sample.bob Sample.receiveEnv packet.encode (Sample.nodeId 1) (.torInbound "1") packet
      delivered ∧
    Fresh 1000 packet.nonce ∧
    (tryDecryptPacket (Sample.bob.perform
        (.receive Sample.receiveEnv packet.encode (Sample.nodeId 1) (.torInbound "1"))) 1000
      delivered.packetId delivered.nonce delivered.ciphertext delivered.aeadTag).result =
        .ok none := by
  rcases Sample.lost_run 60 with ⟨counter, macKey, ownId⟩
  have author := (evolves_live Sample.alice (Sample.lostSends 60)).identity_eq
  generalize Sample.alice.live (Sample.lostSends 60) = node at counter macKey ownId author ⊢
  rcases Sample.sendDm_goes_out node Sample.env rfl with ⟨packet, sent⟩
  rcases sendDm_sent sent with ⟨peerPub, facts⟩
  rcases Option.some.inj (facts.known.symm.trans Sample.bob_spelled) with rfl
  have encryption := facts.encryption
  rw [author, counter] at encryption
  have valid := @verifyHopMac_buildPacket _ _ Sample.bob.router _ _ _ _ _ _ facts.built
    macKey.symm
  rw [ownId] at valid
  obtain ⟨⟨delivered, arrives⟩, store, -⟩ :=
    arrives_of_accepted encryption.genuine encryption.packetType_eq encryption.live
      Sample.receiveEnv (.torInbound "1") Sample.alice_spelled (Router.charge_of_new _
      (AssocMap.get?_empty _)) (Router.trusts_of_new (AssocMap.get?_empty _)) List.not_mem_nil valid
  have fresh : Fresh 1000 packet.nonce := by
    rw [encryption.nonce_eq]
    decide
  refine ⟨packet, delivered, sent, ⟨by rw [Sample.bob_knows_alice]; rfl, Sample.alice_spelled⟩,
    arrives, fresh,
    tryDecryptPacket_misses arrives.delivered.parse ?_⟩
  have reader := (evolves_processIncomingPacket Sample.bob Sample.receiveEnv packet.encode
    (Sample.nodeId 1) (.torInbound "1")).1.identity_eq
  rw [AppState.perform, store, reader]
  refine searchPeers_none fun peerId peerPub counter payload known inside => ?_
  rintro ⟨plaintext, decrypted, -⟩
  have listed := mem_knownKeys known
  rw [Sample.bob, Sample.node_keys] at listed
  have hint : recvHint Sample.bob.identity Sample.bob.store peerId peerPub = 0 :=
    recvHint_of_none peerPub (AssocMap.get?_empty _)
  rw [hint] at inside
  rcases encryption.encrypted with ⟨output, encrypted, split⟩
  have rejected := Sample.rejectsOtherKeys _ _ _ _ _ encrypted _
    (Sample.key_sixty_untried peerPub listed counter inside)
  rw [split, ← encryption.nonce_eq, ← encryption.packetId_eq] at rejected
  change Sample.haloCrates.asconDecrypt _ packet.nonce (packet.ciphertext ++ packet.aeadTag.bytes)
    (receiveAad .dm packet.header.packetId) = some plaintext at decrypted
  cases rejected.symm.trans decrypted

end Caraka
