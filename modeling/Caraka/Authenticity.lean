import Caraka.Commands.Received
import Caraka.Relaying
import Caraka.Sample

/-! Who sealed what a receiving command returns, under an ideal cipher. -/

namespace Caraka

open Foundation

variable {crates : Crates}

def Tried (node : AppState crates) (peerId : String) (peerPub : NodePublicKey) (counter : Nat) :
    Prop :=
  Known node peerId peerPub ∧ counter ∈ window (recvHint node.identity node.store peerId peerPub)

/-- HKDF has no collision between the inputs of the sealed payloads and those a node tries. -/
def CollisionFree (sealed : Set SealedPayload) (node : AppState crates) : Prop :=
  ∀ record ∈ sealed, ∀ peerId peerPub counter, Tried node peerId peerPub counter →
    record.key crates = receiveKey crates node.identity peerPub counter →
    record.keyInput = ((ecdh crates node.identity.myPrivateKey peerPub).bytes,
      dmContext peerPub node.identity.myNodeId
        (deriveSessionId crates (ecdh crates node.identity.myPrivateKey peerPub))
        (UInt64.ofNat counter))

/-- A record sealed by a known peer for this node, with everything the presented packet binds. -/
structure SealedFor (node : AppState crates) (presented : Presented) (packetType : PacketType)
    (peerId : String) (counter : Nat) (record : SealedPayload) : Prop where
  tried : Tried node peerId record.senderId counter
  receiver : record.receiverId = node.identity.myNodeId
  secret : record.sharedSecret = ecdh crates node.identity.myPrivateKey record.senderId
  counter_eq : record.msgCounter = UInt64.ofNat counter
  nonce_eq : record.nonce = presented.nonce
  packetType_eq : record.packetType = packetType
  packetId_eq : record.packetId = presented.packetId

section Search

variable {α : Type} {parse : Bytes → Option α} {packetType : PacketType} {node : AppState crates}
  {now : UInt64} {presented : Presented} {found : Found α} {store : Store}
  {sealed : Set SealedPayload}

theorem tried_of_search (search : searchPeers crates parse packetType node.identity now presented
    node.store.getAllPeers node.store = (some found, store)) :
    Tried node found.peer.nodeId found.peerPub found.counter :=
  ⟨known_of_search search, (searchPeers_some search).2.2.1⟩

theorem sealed_of_search (unforgeable : crates.Unforgeable sealed)
    (collisionFree : CollisionFree sealed node)
    (search : searchPeers crates parse packetType node.identity now presented
      node.store.getAllPeers node.store = (some found, store)) :
    ∃ record ∈ sealed, SealedFor node presented packetType found.peer.nodeId found.counter record ∧
      record.senderId = found.peerPub ∧ parse record.plaintext = some found.payload := by
  rcases searchPeers_some search with ⟨-, -, -, -, ⟨plaintext, decrypted, parsed⟩, -⟩
  have tried := tried_of_search search
  obtain ⟨record, member, sameKey, sameNonce, sameAad, samePlain⟩ := unforgeable _ _ _ _ _ decrypted
  have inputs := collisionFree record member _ _ _ tried sameKey
  simp only [SealedPayload.keyInput, Prod.mk.injEq] at inputs
  rcases inputs with ⟨secret, context⟩
  rcases dmContext_injective context with ⟨sender, receiver, -, counter⟩
  rcases receiveAad_injective sameAad with ⟨sameType, sameId⟩
  exact ⟨record, member, {
    tried := by rw [sender]; exact tried
    receiver
    secret := by rw [sender]; exact Octets.ext secret
    counter_eq := counter
    nonce_eq := sameNonce
    packetType_eq := sameType
    packetId_eq := sameId }, sender, by rw [samePlain, parsed]⟩

end Search

namespace Sample

theorem idealBob_collisionFree :
    CollisionFree { record | record ∈ [haloRecord] } idealBob := by
  have each : ∀ peerPub ∈ [key 3, key 1], ∀ counter ∈ window 0,
      haloRecord.key idealCrates =
        receiveKey idealCrates idealBob.identity peerPub counter →
      haloRecord.keyInput =
        ((ecdh idealCrates idealBob.identity.myPrivateKey peerPub).bytes,
          dmContext peerPub idealBob.identity.myNodeId
            (deriveSessionId idealCrates
              (ecdh idealCrates idealBob.identity.myPrivateKey peerPub))
            (UInt64.ofNat counter)) := by
    decide +kernel
  intro record member peerId peerPub counter tried
  have listed := mem_knownKeys tried.1
  have inside := tried.2
  rw [idealBob, node_keys] at listed
  rw [recvHint_of_none peerPub rfl] at inside
  rw [List.mem_singleton.mp member]
  exact each peerPub listed counter inside

theorem idealBob_unlisted (peerId : String) :
    ¬ Known idealBob peerId idealBob.identity.myNodeId := by
  intro known
  have listed := mem_knownKeys known
  rw [idealBob, node_keys] at listed
  revert listed
  decide

theorem halo_sealed : Sealed haloCrates (haloRecord.key haloCrates) haloPacket.nonce halo.toVec .dm
    haloPacket.header.packetId haloPacket := by
  rcases sendDm_sent sendDm_halo with ⟨peerPub, facts⟩
  have addressed : bob.identity.myNodeId = peerPub :=
    Option.some.inj (bob_spelled.symm.trans facts.known)
  subst addressed
  have counter : sendCounter alice bob.identity.nodeIdHex bob.identity.myNodeId = 0 := rfl
  have payload : sentDmPayload alice env bob.identity.nodeIdHex "halo" none none
    bob.identity.myNodeId = halo := rfl
  have sealedKey : sendKey alice.identity bob.identity.myNodeId 0 = haloRecord.key haloCrates := rfl
  have encryption := facts.encryption
  rwa [counter, payload, sealedKey, ← encryption.nonce_eq, ← encryption.packetId_eq] at encryption

theorem ledger_opens {dms : List DmInnerPayload} {files : List FilePayload}
    {record : SealedPayload} {rest : List SealedPayload} {packet : ClampPacket}
    {identity : Identity (ledger (Sample.crates dms files) (record :: rest))}
    {peerPub : NodePublicKey} {counter : Nat} {payload : DmInnerPayload}
    (encryption : Sealed (Sample.crates dms files) (record.key (Sample.crates dms files))
      packet.nonce record.plaintext record.packetType packet.header.packetId packet)
    (nonce : record.nonce = packet.nonce) (packetId : record.packetId = packet.header.packetId)
    (sameKey : receiveKey (ledger (Sample.crates dms files) (record :: rest)) identity peerPub
      counter = record.key (Sample.crates dms files))
    (reads : (Sample.crates dms files).dmFromSlice record.plaintext = some payload) :
    OpensAs (ledger (Sample.crates dms files) (record :: rest)).dmFromSlice record.packetType
      identity packet.content.presented peerPub counter payload := by
  rcases encryption.encrypted with ⟨output, encrypted, split⟩
  cases Option.some.inj encrypted
  refine ⟨record.plaintext, ?_, reads⟩
  rw [sameKey]
  simp [ledger, SealedPayload.aad, ClampPacket.content, Content.presented, ← split, nonce, packetId]

theorem halo_reads : haloCrates.dmFromSlice haloRecord.plaintext = some halo := by
  rw [haloCrates, haloRecord, dmFromSlice_listed]

theorem halo_opens : OpensAs idealCrates.dmFromSlice .dm idealBob.identity
    haloPacket.content.presented (key 1) 0 halo := by
  have sameKey : receiveKey idealCrates idealBob.identity (key 1) 0 = haloRecord.key haloCrates :=
    (sendKey_eq_receiveKey commutes alice.identity bob.identity 0).symm
  have nonce : haloRecord.nonce = haloPacket.nonce := by rw [haloRecord]
  have packetId : haloRecord.packetId = haloPacket.header.packetId := by rw [haloRecord]
  exact ledger_opens halo_sealed nonce packetId sameKey halo_reads

theorem idealBob_knows : Known idealBob (nodeId 1) (key 1) := by
  refine ⟨?_, key_spelled 1⟩
  have present := bob_knows_alice
  rw [AssocMap.get?_eq_some, bob, node_peers, ← node_peers idealCrates,
    ← AssocMap.get?_eq_some] at present
  rw [idealBob, present]
  rfl

theorem idealBob_hint (peerId : String) (peerPub : NodePublicKey) :
    recvHint idealBob.identity idealBob.store peerId peerPub = 0 :=
  recvHint_of_none peerPub (AssocMap.get?_empty peerId)

theorem presented_fresh : Fresh 1200 haloPacket.content.presented.nonce := by
  rw [ClampPacket.presented_nonce]
  exact halo_fresh

theorem idealBob_finds : ∃ found store, searchPeers idealCrates
      idealCrates.dmFromSlice .dm idealBob.identity 1200
      haloPacket.content.presented idealBob.store.getAllPeers idealBob.store =
        (some found, store) ∧ found.payload = halo ∧ found.counter = 0 := by
  have inside : 0 ∈ window (recvHint idealBob.identity idealBob.store (nodeId 1) (key 1)) := by
    rw [idealBob_hint]
    exact mem_window.mpr ⟨Nat.le_refl 0, Nat.zero_lt_succ 59⟩
  rcases exists_search idealBob_knows inside presented_fresh halo_opens with ⟨found, store, search⟩
  have unforgeable : idealCrates.Unforgeable { record | record ∈ [haloRecord] } :=
    unforgeable haloCrates [haloRecord]
  obtain ⟨record, member, sealedFor, -, parsed⟩ :=
    sealed_of_search unforgeable idealBob_collisionFree search
  have counted : UInt64.ofNat found.counter = 0 := by
    rw [← sealedFor.counter_eq, List.mem_singleton.mp member, haloRecord]
  have tried := sealedFor.tried.2
  rw [idealBob_hint, mem_window] at tried
  have small : (UInt64.ofNat found.counter).toNat = found.counter :=
    UInt64.toNat_ofNat_of_lt (lt_trans tried.2 (by decide))
  rw [counted] at small
  have payload := @mem_of_dmFromSlice [halo] [] _ _ parsed
  exact ⟨found, store, search, List.mem_singleton.mp payload, small.symm⟩

theorem idealBob_returns : ∃ info, (tryDecryptPacket idealBob 1200
    (Hex.encode haloPacket.content.presented.packetId.bytes)
    (Hex.encode haloPacket.content.presented.nonce.bytes)
    (Hex.encode haloPacket.content.presented.ciphertext)
    (Hex.encode haloPacket.content.presented.aeadTag.bytes)).result = .ok (some info) := by
  rcases idealBob_finds with ⟨found, store, search, payload, -⟩
  have spelled : found.payload.senderId = Hex.encode (key 1).bytes := by
    rw [payload]
    rfl
  exact ⟨_, tryDecryptPacket_finds (parsePresented_encode _) search spelled⟩

end Sample

/-- Whatever a relay made of the traffic it saw, a returned message or file was sealed as it is
by a known peer for this node, with the same packet id, type and nonce and a counter of the
window, and never by the node itself. -/
theorem returned_was_sealed {node : AppState crates} {sealed : Set SealedPayload}
    (unforgeable : crates.Unforgeable sealed) (collisionFree : CollisionFree sealed node)
    (ownUnlisted : ∀ peerId, ¬ Known node peerId node.identity.myNodeId)
    (now : UInt64) (saveReceivedFile : String → Bytes → Except String String)
    (packetId nonceHex ciphertextHex aeadTagHex : String) :
    (∀ info, (tryDecryptPacket node now packetId nonceHex ciphertextHex aeadTagHex).result =
        .ok (some info) →
      ∃ presented record peerId counter payload,
        parsePresented packetId nonceHex ciphertextHex aeadTagHex = .ok presented ∧
        record ∈ sealed ∧ SealedFor node presented .dm peerId counter record ∧
        record.senderId ≠ node.identity.myNodeId ∧
        crates.dmFromSlice record.plaintext = some payload ∧
        info = messageInfo crates packetId payload) ∧
    (∀ info, (tryDecryptFilePacket node now saveReceivedFile packetId nonceHex ciphertextHex
        aeadTagHex).result = .ok (some info) →
      ∃ presented record peerId counter payload savedPath,
        parsePresented packetId nonceHex ciphertextHex aeadTagHex = .ok presented ∧
        record ∈ sealed ∧ SealedFor node presented .file peerId counter record ∧
        record.senderId ≠ node.identity.myNodeId ∧
        crates.fileFromSlice record.plaintext = some payload ∧
        info = fileInfo payload savedPath) := by
  have notOwn : ∀ {presented packetType peerId counter record},
      SealedFor node presented packetType peerId counter record →
      record.senderId ≠ node.identity.myNodeId := by
    intro presented packetType peerId counter record facts own
    exact ownUnlisted peerId (own ▸ facts.tried.1)
  constructor
  · intro info returned
    rcases tryDecryptPacket_some returned with ⟨presented, found, store, row, parsed, received, rfl⟩
    obtain ⟨record, member, facts, -, reads⟩ :=
      sealed_of_search unforgeable collisionFree received.search
    exact ⟨presented, record, _, _, _, parsed, member, facts, notOwn facts, reads, rfl⟩
  · intro info returned
    obtain ⟨presented, found, store, savedPath, parsed, received, rfl⟩ :=
      tryDecryptFilePacket_some returned
    obtain ⟨record, member, facts, -, reads⟩ :=
      sealed_of_search unforgeable collisionFree received.search
    exact ⟨presented, record, _, _, _, savedPath, parsed, member, facts, notOwn facts, reads, rfl⟩

theorem returned_was_sealed_halo : ∃ record ∈ [Sample.haloRecord], ∃ peerId counter,
    SealedFor Sample.idealBob Sample.haloPacket.content.presented .dm peerId counter record ∧
      record.senderId ≠ Sample.idealBob.identity.myNodeId := by
  rcases Sample.idealBob_returns with ⟨info, returned⟩
  obtain ⟨presented, record, peerId, counter, payload, parsed, member, facts, notOwn, -⟩ :=
    (returned_was_sealed (Sample.unforgeable Sample.haloCrates [Sample.haloRecord])
      Sample.idealBob_collisionFree Sample.idealBob_unlisted 1200 (fun _ _ => .error "") _ _ _ _).1
      _ returned
  rw [parsePresented_encode] at parsed
  cases parsed
  exact ⟨record, member, peerId, counter, facts, notOwn⟩

end Caraka
