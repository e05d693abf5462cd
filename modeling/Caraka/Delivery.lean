import Caraka.Relaying
import Caraka.Commands.Received
import Caraka.Sample

/-! The way of a message from `send_dm`, over any relays, to `try_decrypt_packet`. -/

namespace Caraka

open Foundation

variable {crates : Crates}

/-- A relay on a path: its router, its clock, and the node it reads from. -/
structure Relay where
  router : Router
  now : ℚ
  source : NodePublicKey

def Relay.forward (crates : Crates) (relay : Relay) (stream : Bytes) : Option Bytes :=
  match recvPacketFromReader stream with
  | none => none
  | some (raw, _) =>
    match ClampPacket.decode raw with
    | .error _ => none
    | .ok packet =>
      match relay.router.handleIncoming crates relay.now packet relay.source with
      | (.deliverAndRelay, packet, _) => (sendRawPacket packet.encode).toOption
      | _ => none

def carry (crates : Crates) : List Relay → Bytes → Option Bytes
  | [], stream => some stream
  | relay :: relays, stream => (relay.forward crates stream).bind (carry crates relays)

/-- A stream that holds the frame of a packet carrying `content`. -/
def FramesContent (content : Content) (stream : Bytes) : Prop :=
  ∃ packet : ClampPacket, packet.Genuine ∧ packet.content = content ∧
    sendRawPacket packet.encode = .ok stream

theorem encode_ne_nil (packet : ClampPacket) : packet.encode ≠ [] := by
  intro empty
  have size := congrArg List.length empty
  rw [ClampPacket.length_encode] at size
  simp [fixedOverhead, headerSize, hopAuthSize, nonceSize, tagSize] at size

theorem FramesContent.decoded {content : Content} {stream raw rest : Bytes}
    (frames : FramesContent content stream)
    (read : recvPacketFromReader stream = some (raw, rest)) :
    ∃ packet, ClampPacket.decode raw = .ok packet ∧ packet.Genuine ∧
      packet.content = content := by
  rcases frames with ⟨packet, genuine, same, written⟩
  have back := recv_sendRawPacket [] (encode_ne_nil packet) written
  rw [List.append_nil, read] at back
  simp only [Option.some.injEq, Prod.mk.injEq] at back
  rw [back.1]
  exact ⟨packet, ClampPacket.decode_encode packet genuine, genuine, same⟩

theorem forward_keeps {relay : Relay} {content : Content} {stream next : Bytes}
    (frames : FramesContent content stream) (forwarded : relay.forward crates stream = some next) :
    FramesContent content next := by
  unfold Relay.forward at forwarded
  split at forwarded
  · cases forwarded
  rename_i raw rest read
  rcases frames.decoded read with ⟨packet, decoded, genuine, same⟩
  rw [decoded] at forwarded
  dsimp only at forwarded
  rcases Router.handleIncoming_cases crates relay.router relay.now packet relay.source with
    ⟨reason, router, dropped, -⟩ | ⟨-, router, -, accepted⟩
  · rw [dropped] at forwarded
    cases forwarded
  · rw [accepted] at forwarded
    split at forwarded
    · rename_i handed after outcome
      split_ifs at outcome
      · cases outcome
        refine ⟨relay.router.relayed crates packet, genuine_relayed relay.router genuine,
          (content_relayed crates relay.router packet).trans same, ?_⟩
        cases written : sendRawPacket (relay.router.relayed crates packet).encode with
        | error e =>
            rw [written] at forwarded
            cases forwarded
        | ok frame =>
            rw [written] at forwarded
            exact congrArg Except.ok (Option.some.inj forwarded)
      · cases outcome
    · cases forwarded

theorem carry_keeps {relays : List Relay} {content : Content} {stream last : Bytes}
    (frames : FramesContent content stream) (carried : carry crates relays stream = some last) :
    FramesContent content last := by
  induction relays generalizing stream with
  | nil =>
      cases carried
      exact frames
  | cons relay relays ih =>
      rcases Option.bind_eq_some_iff.mp carried with ⟨next, forwarded, carried⟩
      exact ih (forward_keeps frames forwarded) carried

theorem opensAs_sealed {α : Type} {parse : Bytes → Option α} {packetType : PacketType}
    {identity : Identity crates} {presented : Presented} {peerPub : NodePublicKey} {counter : Nat}
    {read payload : α} {key : AeadKey} {message : Bytes} {packet : ClampPacket}
    (opens : crates.Opens) (rejects : crates.RejectsOtherKeys)
    (encryption : Sealed crates key presented.nonce message packetType presented.packetId packet)
    (sameText : presented.ciphertext = packet.ciphertext)
    (sameTag : presented.aeadTag = packet.aeadTag) (parses : parse message = some payload)
    (opened : OpensAs parse packetType identity presented peerPub counter read) :
    read = payload := by
  rcases opened with ⟨plaintext, decrypted, parsed⟩
  rcases encryption.encrypted with ⟨output, encrypted, split⟩
  rw [sameText, sameTag, ← split] at decrypted
  by_cases same : receiveKey crates identity peerPub counter = key
  · rw [same, opens _ _ _ _ _ encrypted] at decrypted
    cases decrypted
    rw [parses] at parsed
    exact (Option.some.inj parsed).symm
  · rw [rejects _ _ _ _ _ encrypted _ same] at decrypted
    cases decrypted

theorem opensAs_of_sealed {α : Type} {parse : Bytes → Option α} {packetType : PacketType}
    {identity : Identity crates} {presented : Presented} {peerPub : NodePublicKey} {counter : Nat}
    {payload : α} {message : Bytes} {packet : ClampPacket} (opens : crates.Opens)
    (encryption : Sealed crates (receiveKey crates identity peerPub counter) presented.nonce
      message packetType presented.packetId packet)
    (sameText : presented.ciphertext = packet.ciphertext)
    (sameTag : presented.aeadTag = packet.aeadTag) (parses : parse message = some payload) :
    OpensAs parse packetType identity presented peerPub counter payload := by
  rcases encryption.encrypted with ⟨output, encrypted, split⟩
  refine ⟨message, ?_, parses⟩
  rw [sameText, sameTag, ← split]
  exact opens _ _ _ _ _ encrypted

theorem search_finds_sealed {α : Type} {parse : Bytes → Option α} {packetType : PacketType}
    (commutes : crates.Commutes) (opens : crates.Opens) (rejects : crates.RejectsOtherKeys)
    {sender : Identity crates} {reader : AppState crates} {counter : Nat} {nonce : Nonce}
    {message : Bytes} {packetId : Octets 8} {packet : ClampPacket} {payload : α}
    (encryption : Sealed crates (sendKey sender reader.identity.myNodeId counter) nonce message
      packetType packetId packet) (parses : parse message = some payload)
    {senderHex : String} (known : Known reader senderHex sender.myNodeId) {now : UInt64}
    (fresh : Fresh now packet.nonce)
    (inside : counter ∈ window (recvHint reader.identity reader.store senderHex sender.myNodeId)) :
    ∃ found store, searchPeers crates parse packetType reader.identity now
        packet.content.presented reader.store.getAllPeers reader.store = (some found, store) ∧
      found.payload = payload := by
  rw [sendKey_eq_receiveKey commutes, ← encryption.nonce_eq, ← encryption.packetId_eq] at encryption
  have opened : OpensAs parse packetType reader.identity packet.content.presented
      sender.myNodeId counter payload := opensAs_of_sealed opens encryption rfl rfl parses
  rcases exists_search known inside fresh opened with ⟨found, store, search⟩
  exact ⟨found, store, search, opensAs_sealed opens rejects encryption rfl rfl parses
    (searchPeers_some search).2.2.2.2.1⟩

/-- A message that `send_dm` put on the wire and any relays carried to the recipient is returned
by `try_decrypt_packet` as it was sent, wherever its sender is known, its nonce is fresh and its
counter lies in the window. -/
theorem dm_delivered (commutes : crates.Commutes) (opens : crates.Opens)
    (rejects : crates.RejectsOtherKeys)
    {sender recipient arrival : AppState crates} {env : SendEnv} {text : String}
    {replyToId replyToText : Option String} {packet : ClampPacket}
    (sent : (sendDm sender env recipient.identity.nodeIdHex text replyToId replyToText).sent =
      some packet)
    (readable : crates.ReadsDm (sentDmPayload sender env recipient.identity.nodeIdHex text
      replyToId replyToText recipient.identity.myNodeId))
    {relays : List Relay} {stream last raw rest : Bytes}
    (written : sendRawPacket packet.encode = .ok stream)
    (carried : carry crates relays stream = some last)
    (read : recvPacketFromReader last = some (raw, rest))
    {receiveEnv : ReceiveEnv} {senderKey : String} {kind : ConnKind}
    {delivered : DeliveredPacket}
    (event : .clampPacketReceived delivered ∈
      (processIncomingPacket arrival receiveEnv raw senderKey kind).2)
    {senderHex : String} {row : PeerRow}
    (known : recipient.store.peers.get? senderHex = some row)
    (spelled : parseNodeId senderHex = some sender.identity.myNodeId)
    {now : UInt64} (fresh : Fresh now packet.nonce)
    (inside : sendCounter sender recipient.identity.nodeIdHex recipient.identity.myNodeId ∈
      window (recvHint recipient.identity recipient.store senderHex sender.identity.myNodeId)) :
    ∃ info, (tryDecryptPacket recipient now delivered.packetId delivered.nonce
        delivered.ciphertext delivered.aeadTag).result = .ok (some info) ∧
      info.plaintext = text ∧ info.timestamp = env.now.toInt64 ∧ info.replyToId = replyToId ∧
      info.replyToText = replyToText ∧ info.senderId = sender.identity.nodeIdHex ∧
      info.recipientId = recipient.identity.nodeIdHex := by
  rcases sendDm_sent sent with ⟨peerPub, facts⟩
  have samePeer : peerPub = recipient.identity.myNodeId := by
    have parsed := facts.known
    rw [recipient.identity.nodeIdHex_eq, parseNodeId_encode] at parsed
    exact (Option.some.inj parsed).symm
  subst samePeer
  have encryption := facts.encryption
  have frames : FramesContent packet.content stream := ⟨packet, encryption.genuine, rfl, written⟩
  rcases (carry_keeps frames carried).decoded read with ⟨received, decoded, -, same⟩
  rcases delivers_of_event event with ⟨found, decoded', carries, -⟩
  rw [decoded] at decoded'
  cases decoded'
  rw [same] at carries
  obtain ⟨found, store, search, payload⟩ :=
    search_finds_sealed commutes opens rejects encryption readable ⟨by rw [known]; rfl, spelled⟩
      fresh inside
  have spelling : found.payload.senderId = Hex.encode sender.identity.myNodeId.bytes := by
    rw [payload]
    exact sender.identity.nodeIdHex_eq
  refine ⟨_, tryDecryptPacket_finds carries.parse search spelling, ?_⟩
  simp [messageInfo, payload, sentDmPayload, dmPayload]

/-- One relay on the way from node 1 to node 2. -/
theorem dm_delivered_over_relay :
    let relay : Relay := ⟨Router.new (Sample.key 3), 0, Sample.key 1⟩
    ∃ last raw rest delivered info,
      carry Sample.haloCrates [relay] (leBytes 2 Sample.haloPacket.encode.length ++
        Sample.haloPacket.encode) = some last ∧
      recvPacketFromReader last = some (raw, rest) ∧
      .clampPacketReceived delivered ∈ (processIncomingPacket Sample.bob Sample.receiveEnv
        raw (Sample.nodeId 3) (.torInbound "1")).2 ∧
      (tryDecryptPacket Sample.bob 1200 delivered.packetId delivered.nonce delivered.ciphertext
        delivered.aeadTag).result = .ok (some info) ∧
      info.plaintext = "halo" ∧ info.senderId = Sample.nodeId 1 := by
  intro relay
  let stream := leBytes 2 Sample.haloPacket.encode.length ++ Sample.haloPacket.encode
  have written : sendRawPacket Sample.haloPacket.encode = .ok stream := if_neg (by decide +kernel)
  have route : ((carry Sample.haloCrates [relay] stream).bind fun last =>
      (recvPacketFromReader last).bind fun read =>
        (processIncomingPacket Sample.bob Sample.receiveEnv read.1 (Sample.nodeId 3)
          (.torInbound "1")).2.findSome? Event.clampPacket?).isSome = true := by
    decide +kernel
  rcases Option.isSome_iff_exists.mp route with ⟨delivered, route⟩
  rcases Option.bind_eq_some_iff.mp route with ⟨last, carried, route⟩
  rcases Option.bind_eq_some_iff.mp route with ⟨⟨raw, rest⟩, read, route⟩
  rcases List.exists_of_findSome?_eq_some route with ⟨event, member, same⟩
  rw [Event.clampPacket?_eq_some] at same
  subst same
  have inside : sendCounter Sample.alice Sample.bob.identity.nodeIdHex
      Sample.bob.identity.myNodeId ∈ window (recvHint Sample.bob.identity Sample.bob.store
        (Sample.nodeId 1) Sample.alice.identity.myNodeId) := by
    decide
  obtain ⟨info, returned, text, -, -, -, sender, -⟩ :=
    dm_delivered Sample.commutes Sample.opens Sample.rejectsOtherKeys Sample.sendDm_halo
      Sample.haloReadable written carried read member Sample.bob_knows_alice Sample.alice_spelled
      Sample.halo_fresh inside
  exact ⟨last, raw, rest, delivered, info, carried, read, member, returned, text, sender⟩

end Caraka
