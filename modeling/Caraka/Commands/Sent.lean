import Caraka.Commands.Send
import Caraka.Commands.Receive

/-! What the sends put on the wire and what they write. -/

namespace Caraka

open Foundation

variable {crates : Crates}

/-- The key a message to `peerPub` is encrypted under. -/
def sendKey (identity : Identity crates) (peerPub : NodePublicKey) (counter : Nat) : AeadKey :=
  let shared := ecdh crates identity.myPrivateKey peerPub
  deriveDmKey crates shared identity.myNodeId peerPub (deriveSessionId crates shared)
    (UInt64.ofNat counter)

theorem sendKey_eq_receiveKey (commutes : crates.Commutes) (sender receiver : Identity crates)
    (counter : Nat) :
    sendKey sender receiver.myNodeId counter =
      receiveKey crates receiver sender.myNodeId counter := by
  simp only [sendKey, receiveKey, ecdh_comm commutes sender receiver]

structure Sealed (crates : Crates) (key : AeadKey) (nonce : Nonce) (message : Bytes)
    (packetType : PacketType) (packetId : Octets 8) (packet : ClampPacket) : Prop where
  genuine : packet.Genuine
  packetType_eq : packet.header.packetType = packetType
  ttl_eq : packet.header.ttl = ttlMax
  packetId_eq : packet.header.packetId = packetId
  nonce_eq : packet.nonce = nonce
  encrypted : ∃ output, crates.asconEncrypt key nonce message (receiveAad packetType packetId) =
    some output ∧ output.bytes = packet.ciphertext ++ packet.aeadTag.bytes
  length_eq : packet.ciphertext.length = message.length

theorem Sealed.live {key : AeadKey} {nonce : Nonce} {message : Bytes} {packetType : PacketType}
    {packetId : Octets 8} {packet : ClampPacket}
    (encryption : Sealed crates key nonce message packetType packetId packet) :
    packet.header.ttl > 0 := by
  rw [encryption.ttl_eq]
  decide

theorem sealed_of_buildPacket {router : Router} {packetType : PacketType} {packetId : Octets 8}
    {key : AeadKey} {nonce : Nonce} {message : Bytes} {packet : ClampPacket}
    (built : buildPacket crates router packetType packetId key nonce message = .ok packet) :
    Sealed crates key nonce message packetType packetId packet := by
  unfold buildPacket at built
  dsimp only at built
  split at built
  · cases built
  · rename_i ciphertext aeadTag encryption
    rcases encrypt_eq_ok.mp encryption with ⟨output, encrypted, split, size⟩
    cases built
    exact ⟨⟨rfl, rfl⟩, rfl, rfl, rfl, rfl, ⟨output, encrypted, split⟩, size⟩

theorem verifyHopMac_origin {router other : Router} (packet : ClampPacket)
    (shared : other.channelMacKey = router.channelMacKey) :
    other.verifyHopMac crates { packet with
      hopAuth := { hopCounter := 0, macTag := router.computeOriginMac crates packet } }
      router.myNodeId = true := by
  rw [Router.verifyHopMac, verifyMac_eq_true, shared]
  rfl

theorem verifyHopMac_buildPacket {router other : Router} {packetType : PacketType}
    {packetId : Octets 8} {key : AeadKey} {nonce : Nonce} {message : Bytes} {packet : ClampPacket}
    (built : buildPacket crates router packetType packetId key nonce message = .ok packet)
    (shared : other.channelMacKey = router.channelMacKey) :
    other.verifyHopMac crates packet router.myNodeId = true := by
  unfold buildPacket at built
  dsimp only at built
  split at built
  · cases built
  · cases built
    rw [Router.verifyHopMac, verifyMac_eq_true, shared]
    rfl

/-- The counter the sends read for a recipient. -/
def sendCounter (node : AppState crates) (recipientId : String) (peerPub : NodePublicKey) : Nat :=
  (sessionOf node.identity node.store recipientId peerPub).msgCounter

/-- The id and nonce of the packet a send builds. -/
def sentPacketId (node : AppState crates) (env : SendEnv) : Octets 8 :=
  ClampPacket.generatePacketId node.identity.myNodeId env.idRandom

def sentNonce (env : SendEnv) : Nonce := generateNonce env.nonceNow env.nonceRandom

section SendDm

variable (node : AppState crates) (env : SendEnv) (recipientId plaintext : String)
  (replyToId replyToText : Option String)

/-- The payload of a message to `peerPub`, with the session and counter of the state. -/
def sentDmPayload (peerPub : NodePublicKey) : DmInnerPayload :=
  dmPayload node.identity env recipientId plaintext replyToId replyToText
    (deriveSessionId crates (ecdh crates node.identity.myPrivateKey peerPub))
    (sendCounter node recipientId peerPub)

/-- The stores `send_dm` goes through: the session opened, the row saved, the counter moved. -/
def openedStore (peerPub : NodePublicKey) : Store :=
  (node.store.getOrCreateSession crates recipientId
    (ecdh crates node.identity.myPrivateKey peerPub)).2

theorem messages_openedStore (peerPub : NodePublicKey) :
    (openedStore node recipientId peerPub).messages = node.store.messages :=
  Store.messages_getOrCreateSession ..

theorem peers_openedStore (peerPub : NodePublicKey) :
    (openedStore node recipientId peerPub).peers = node.store.peers :=
  Store.peers_getOrCreateSession ..

def savedStore (peerPub : NodePublicKey) (packet : ClampPacket) : Store :=
  (openedStore node recipientId peerPub).saveMessage
    (dmRow node.identity env recipientId (sendCounter node recipientId peerPub) packet)

theorem peers_savedStore (peerPub : NodePublicKey) (packet : ClampPacket) :
    (savedStore node env recipientId peerPub packet).peers = node.store.peers :=
  peers_openedStore ..

/-- The state `send_dm` leaves when it succeeds. -/
def sentDmNode (peerPub : NodePublicKey) (packet : ClampPacket) : AppState crates :=
  { node with
    store := (savedStore node env recipientId peerPub packet).incrementMsgCounter
      recipientId }.dispatch packet

/-- The packet `send_dm` builds for `peerPub`. -/
def DmBuilt (peerPub : NodePublicKey) (packet : ClampPacket) : Prop :=
  buildPacket crates node.router .dm (sentPacketId node env)
    (sendKey node.identity peerPub (sendCounter node recipientId peerPub)) (sentNonce env)
    (sentDmPayload node env recipientId plaintext replyToId replyToText peerPub).toVec = .ok packet

/-- Every way `send_dm` ends: refused, stopped by a fault in one of its stages, or sent. -/
inductive DmEnd : SendOutcome crates → Prop where
  | refused (error : String) : DmEnd (.fail node error)
  | opened {peerPub : NodePublicKey} (error : String)
      (known : parseNodeId recipientId = some peerPub) :
      DmEnd (.fail { node with store := openedStore node recipientId peerPub } error)
  | saved {peerPub : NodePublicKey} {packet : ClampPacket} (error : String)
      (known : parseNodeId recipientId = some peerPub)
      (built : DmBuilt node env recipientId plaintext replyToId replyToText peerPub packet) :
      DmEnd (.fail { node with store := savedStore node env recipientId peerPub packet } error)
  | counted {peerPub : NodePublicKey} {packet : ClampPacket} (error : String)
      (known : parseNodeId recipientId = some peerPub)
      (built : DmBuilt node env recipientId plaintext replyToId replyToText peerPub packet) :
      DmEnd (.fail { node with
        store := (savedStore node env recipientId peerPub packet).incrementMsgCounter
          recipientId } error)
  | sent {peerPub : NodePublicKey} {packet : ClampPacket} (events : List Event)
      (notBlank : isBlank plaintext = false) (short : (utf8 plaintext).length ≤ 4096)
      (known : parseNodeId recipientId = some peerPub) (noFault : env.faults = SendFaults.none)
      (built : DmBuilt node env recipientId plaintext replyToId replyToText peerPub packet) :
      DmEnd ⟨sentDmNode node env recipientId peerPub packet,
        .ok (Hex.encode packet.header.packetId.bytes), some packet, events⟩

variable {node env recipientId} in
theorem mem_openedStore {peerPub : NodePublicKey} {row : StoredMessage}
    (present : row ∈ node.store.messages.rows) :
    row ∈ (openedStore node recipientId peerPub).messages.rows := by
  rwa [messages_openedStore]

variable {node env recipientId} in
theorem mem_savedStore {peerPub : NodePublicKey} {packet : ClampPacket} {row : StoredMessage}
    (present : row ∈ node.store.messages.rows) :
    row ∈ (savedStore node env recipientId peerPub packet).messages.rows :=
  Messages.subset_insertOrIgnore (mem_openedStore present)

theorem sendDm_end : DmEnd node env recipientId plaintext replyToId replyToText
    (sendDm node env recipientId plaintext replyToId replyToText) := by
  generalize outcome : sendDm node env recipientId plaintext replyToId replyToText = result
  unfold sendDm at outcome
  split at outcome
  · subst outcome; exact .refused _
  rename_i notBlank
  split at outcome
  · subst outcome; exact .refused _
  rename_i short
  split at outcome
  · subst outcome; exact .refused _
  rename_i bytes decoded
  split at outcome
  · subst outcome; exact .refused _
  rename_i peerPub parsed
  have known : parseNodeId recipientId = some peerPub := by simp [parseNodeId, decoded, parsed]
  simp only [Store.getOrCreateSession_fst] at outcome
  split at outcome
  · subst outcome; exact .refused _
  rename_i sessionFault
  split at outcome
  · subst outcome; exact .opened _ known
  rename_i packet built
  split at outcome
  · subst outcome; exact .opened _ known
  rename_i saveFault
  split at outcome
  · subst outcome; exact .saved _ known built
  rename_i updateFault
  split at outcome
  · subst outcome; exact .counted _ known built
  rename_i selectFault
  have noFault : env.faults = SendFaults.none := by
    rcases hf : env.faults with ⟨session, save, update, select⟩
    simp_all [SendFaults.none]
  rw [← (sealed_of_buildPacket built).packetId_eq] at outcome
  subst outcome
  exact .sent _ (by simpa using notBlank) (Nat.le_of_not_lt short) known noFault built

/-- What a `send_dm` that put a packet on the wire did. -/
structure DmSent (peerPub : NodePublicKey) (packet : ClampPacket) : Prop where
  notBlank : isBlank plaintext = false
  short : (utf8 plaintext).length ≤ 4096
  known : parseNodeId recipientId = some peerPub
  noFault : env.faults = SendFaults.none
  built : DmBuilt node env recipientId plaintext replyToId replyToText peerPub packet
  node_eq : (sendDm node env recipientId plaintext replyToId replyToText).node =
    sentDmNode node env recipientId peerPub packet
  result_eq : (sendDm node env recipientId plaintext replyToId replyToText).result =
    .ok (Hex.encode packet.header.packetId.bytes)

variable {node env recipientId plaintext replyToId replyToText}

theorem DmSent.encryption {peerPub : NodePublicKey} {packet : ClampPacket}
    (facts : DmSent node env recipientId plaintext replyToId replyToText peerPub packet) :
    Sealed crates (sendKey node.identity peerPub (sendCounter node recipientId peerPub))
      (sentNonce env)
      (sentDmPayload node env recipientId plaintext replyToId replyToText peerPub).toVec .dm
      (sentPacketId node env) packet :=
  sealed_of_buildPacket facts.built

theorem sendDm_sent {packet : ClampPacket}
    (sent : (sendDm node env recipientId plaintext replyToId replyToText).sent = some packet) :
    ∃ peerPub, DmSent node env recipientId plaintext replyToId replyToText peerPub packet := by
  have whole := sendDm_end node env recipientId plaintext replyToId replyToText
  generalize outcome : sendDm node env recipientId plaintext replyToId replyToText = result
    at sent whole
  cases whole with
  | refused | opened | saved | counted => cases sent
  | sent events notBlank short known noFault built =>
      cases sent
      exact ⟨_, notBlank, short, known, noFault, built, by rw [outcome], by rw [outcome]⟩

theorem sendDm_of_built {peerPub : NodePublicKey} {packet : ClampPacket}
    (notBlank : isBlank plaintext = false) (short : (utf8 plaintext).length ≤ 4096)
    (known : parseNodeId recipientId = some peerPub) (noFault : env.faults = SendFaults.none)
    (built : DmBuilt node env recipientId plaintext replyToId replyToText peerPub packet) :
    (sendDm node env recipientId plaintext replyToId replyToText).sent = some packet := by
  rcases Option.bind_eq_some_iff.mp known with ⟨bytes, decoded, parsed⟩
  have packed := built
  simp only [DmBuilt, sentPacketId, sendKey, sentNonce, sentDmPayload, sendCounter, sessionOf]
    at packed
  simp [sendDm, notBlank, Nat.not_lt.mpr short, decoded, parsed, noFault, SendFaults.none, packed]

theorem sendCounter_sentDmNode {peerPub : NodePublicKey} {packet : ClampPacket} :
    sendCounter (sentDmNode node env recipientId peerPub packet) recipientId peerPub =
      sendCounter node recipientId peerPub + 1 := by
  have opened : (savedStore node env recipientId peerPub packet).sessions.get? recipientId =
      some (sessionOf node.identity node.store recipientId peerPub) := by
    change (openedStore node recipientId peerPub).sessions.get? recipientId = _
    rw [openedStore, Store.get?_getOrCreateSession, if_pos rfl]
    rfl
  have same : (savedStore node env recipientId peerPub packet).openedSession crates recipientId
      (ecdh crates node.identity.myPrivateKey peerPub) =
        sessionOf node.identity node.store recipientId peerPub :=
    Store.openedSession_of_row crates id (fun _ => rfl) opened
  rw [← same] at opened
  have advanced := congrArg Session.msgCounter (Store.openedSession_increment crates opened)
  rw [same] at advanced
  exact advanced

end SendDm

section SendFile

variable (node : AppState crates) (env : SendEnv) (recipientId : String)

def sentFilePayload (fileBytes : Bytes) (filename mimeType : String) (peerPub : NodePublicKey) :
    FilePayload :=
  filePayload node.identity env recipientId fileBytes filename mimeType
    (deriveSessionId crates (ecdh crates node.identity.myPrivateKey peerPub))
    (sendCounter node recipientId peerPub)

/-- The state `send_file` leaves when it succeeds: no row of `messages` is written. -/
def sentFileNode (peerPub : NodePublicKey) (packet : ClampPacket) : AppState crates :=
  { node with
    store := (openedStore node recipientId peerPub).incrementMsgCounter
      recipientId }.dispatch packet

/-- The packet `send_file` builds for `peerPub`. -/
def FileBuilt (fileBytes : Bytes) (filename mimeType : String) (peerPub : NodePublicKey)
    (packet : ClampPacket) : Prop :=
  buildPacket crates node.router .file (sentPacketId node env)
    (sendKey node.identity peerPub (sendCounter node recipientId peerPub)) (sentNonce env)
    (sentFilePayload node env recipientId fileBytes filename mimeType peerPub).toVec = .ok packet

/-- Every way `send_file` ends. -/
inductive FileEnd (file : DiskFile) : SendOutcome crates → Prop where
  | refused (error : String) : FileEnd file (.fail node error)
  | opened {peerPub : NodePublicKey} (error : String)
      (known : parseNodeId recipientId = some peerPub) :
      FileEnd file (.fail { node with store := openedStore node recipientId peerPub } error)
  | counted {peerPub : NodePublicKey} (error : String)
      (known : parseNodeId recipientId = some peerPub) :
      FileEnd file (.fail { node with
        store := (openedStore node recipientId peerPub).incrementMsgCounter recipientId } error)
  | sent {fileBytes : Bytes} {filename mimeType : String} {peerPub : NodePublicKey}
      {packet : ClampPacket} (events : List Event)
      (read : readFileForTransfer file = .ok (fileBytes, filename, mimeType))
      (known : parseNodeId recipientId = some peerPub)
      (built : FileBuilt node env recipientId fileBytes filename mimeType peerPub packet) :
      FileEnd file ⟨sentFileNode node recipientId peerPub packet, .ok (uuidV4 env.uuidRandom),
        some packet, events⟩

theorem sendFile_end (file : DiskFile) :
    FileEnd node env recipientId file (sendFile node env recipientId file) := by
  generalize outcome : sendFile node env recipientId file = result
  unfold sendFile at outcome
  split at outcome
  · subst outcome; exact .refused _
  rename_i fileBytes filename mimeType read
  split at outcome
  · subst outcome; exact .refused _
  rename_i bytes decoded
  split at outcome
  · subst outcome; exact .refused _
  rename_i peerPub parsed
  have known : parseNodeId recipientId = some peerPub := by simp [parseNodeId, decoded, parsed]
  simp only [Store.getOrCreateSession_fst] at outcome
  split at outcome
  · subst outcome; exact .refused _
  split at outcome
  · subst outcome; exact .opened _ known
  rename_i packet built
  split at outcome
  · subst outcome; exact .opened _ known
  split at outcome
  · subst outcome; exact .counted _ known
  subst outcome
  exact .sent _ read known built

/-- What a `send_file` that put a packet on the wire did. -/
structure FileSent (file : DiskFile) (fileBytes : Bytes) (filename mimeType : String)
    (peerPub : NodePublicKey) (packet : ClampPacket) : Prop where
  read : readFileForTransfer file = .ok (fileBytes, filename, mimeType)
  known : parseNodeId recipientId = some peerPub
  built : FileBuilt node env recipientId fileBytes filename mimeType peerPub packet
  node_eq : (sendFile node env recipientId file).node =
    sentFileNode node recipientId peerPub packet
  result_eq : (sendFile node env recipientId file).result = .ok (uuidV4 env.uuidRandom)

variable {node env recipientId}

theorem FileSent.encryption {file : DiskFile} {fileBytes : Bytes} {filename mimeType : String}
    {peerPub : NodePublicKey} {packet : ClampPacket}
    (facts : FileSent node env recipientId file fileBytes filename mimeType peerPub packet) :
    Sealed crates (sendKey node.identity peerPub (sendCounter node recipientId peerPub))
      (sentNonce env)
      (sentFilePayload node env recipientId fileBytes filename mimeType peerPub).toVec .file
      (sentPacketId node env) packet :=
  sealed_of_buildPacket facts.built

theorem sendFile_sent {file : DiskFile} {packet : ClampPacket}
    (sent : (sendFile node env recipientId file).sent = some packet) :
    ∃ fileBytes filename mimeType peerPub,
      FileSent node env recipientId file fileBytes filename mimeType peerPub packet := by
  have whole := sendFile_end node env recipientId file
  generalize outcome : sendFile node env recipientId file = result at sent whole
  cases whole with
  | refused | opened | counted => cases sent
  | sent events read known built =>
      cases sent
      exact ⟨_, _, _, _, read, known, built, by rw [outcome], by rw [outcome]⟩

end SendFile

theorem store_sendBroadcast (node : AppState crates) (env : SendEnv) (text : String) :
    (sendBroadcast node env text).node.store = node.store := by
  rw [sendBroadcast]
  split
  · rfl
  · split <;> rfl

end Caraka
